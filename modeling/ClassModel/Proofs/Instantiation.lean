import ClassModel.Proofs.Coherence

/-!
# ClassModel.Proofs.Instantiation

Finding and creating instantiations. In a coherent library looking up a key
finds exactly the instantiation that spells the type
(`Coherent.instantiation?_eq_some_iff`). A library stays coherent when contents
change (`Revises.coherent`) and when an instantiation that was not there is
created and kept in its place (`Coherent.create`).
-/

namespace ClassModel

namespace TypeTree

variable {scope : Scope} {options : Options} {context : String}

/-- The names of a well-formed type can be read as names. -/
theorem WellFormed.plain {library : Library} (declares : library.Declares scope)
    {tree : TypeTree} (wf : tree.WellFormed scope options context) : tree.Plain := by
  induction tree with
  | primitive type dimension => rw [Plain]; trivial
  | declared name dimension =>
    rw [WellFormed, Option.isSome_iff_exists] at wf
    obtain ⟨⟨shape, known⟩, notPrimitive⟩ := wf
    rw [Plain]
    exact ⟨(declares.isName known).1, notPrimitive⟩
  | applied name arguments dimension ih =>
    rw [WellFormed] at wf
    obtain ⟨⟨shape, known, _⟩, _, nonempty, _, all⟩ := wf
    rw [Plain]
    exact ⟨(declares.isName known).1, nonempty, fun argument mem => ih argument mem (all _ mem)⟩
  | parameter owner name dimension =>
    rw [WellFormed] at wf
    obtain ⟨_, shape, known, mem⟩ := wf
    rw [Plain]
    exact ⟨(declares.isName known).1, (declares.isName known).2 name mem⟩

/-- A type that is well formed somewhere. -/
def IsType (scope : Scope) (options : Options) (tree : TypeTree) : Prop :=
  ∃ context shape, scope context = some shape ∧ tree.WellFormed scope options context

end TypeTree

namespace Library

variable {library : Library} {scope : Scope} {options : Options}

/-! ## Look-up -/

namespace Coherent

theorem exists_isInstance (coherent : library.Coherent scope options) {id : ClassId}
    {classLike : ClassLike} {specialization : Specialization}
    (known : library.classLike? id = some classLike)
    (specialized : classLike.specialization? = some specialization) :
    ∃ tree, library.IsInstance id tree := by
  obtain ⟨base, arguments, instantiates⟩ := coherent.instantiates known specialized
  exact ⟨_, instantiates.isInstance known specialized⟩

/-- Instantiations spell well-formed types. -/
theorem isType (coherent : library.Coherent scope options) {id : ClassId} {tree : TypeTree}
    (isInstance : library.IsInstance id tree) : tree.IsType scope options := by
  obtain ⟨denotes, name, arguments, rfl⟩ := isInstance
  obtain ⟨_, _, _, base, _, _, rfl, _, instantiates⟩ := coherent.of_denotes_applied denotes
  exact instantiates.wellFormed

/-- The names of an instantiation can be read as names. -/
theorem plain_of_isInstance (coherent : library.Coherent scope options) {id : ClassId}
    {tree : TypeTree} (isInstance : library.IsInstance id tree) : tree.Plain := by
  obtain ⟨_, _, _, wf⟩ := coherent.isType isInstance
  exact wf.plain coherent.toDeclares

/-- No instantiation nests too deeply. -/
theorem depth_le_of_isInstance (coherent : library.Coherent scope options) {id : ClassId}
    {name : String} {trees : List TypeTree} {n : Nat}
    (isInstance : library.IsInstance id (.applied name trees n)) :
    (TypeTree.applied name trees n).depth ≤ options.maxSpecializationDepth := by
  obtain ⟨_, _, _, wf⟩ := coherent.isType isInstance
  exact wf.depth_le

theorem isNamed_inj (coherent : library.Coherent scope options) {id id' : ClassId} {name : String}
    (named : library.IsNamed id name) (named' : library.IsNamed id' name) : id = id' := by
  obtain ⟨classLike, declared, rfl⟩ := named
  obtain ⟨classLike', declared', same⟩ := named'
  exact coherent.identifier_inj declared declared' same.symm

/-- An instantiation is kept in one place. -/
theorem hosts_unique (coherent : library.Coherent scope options) {place? place?' : Option ClassId}
    {tree : TypeTree} (hosts : library.Hosts place? tree) (hosts' : library.Hosts place?' tree) :
    place? = place?' := by
  unfold Hosts at hosts hosts'
  cases first : tree.owners.head? with
  | none =>
    rw [first] at hosts hosts'
    cases hosts
    cases hosts'
    rfl
  | some owner =>
    rw [first] at hosts hosts'
    cases hosts with
    | some named =>
      cases hosts' with
      | some named' => rw [coherent.isNamed_inj named named']

theorem cached?_eq (library : Library) (key : String) :
    library.cached? key = (library.cacheOf none).lookup key := rfl

/-- A look-up tries the cache of the library first. -/
theorem instantiation?_eq (library : Library) (context? : Option ClassId) (key : String) :
    library.instantiation? context? key = ((library.cacheOf none).lookup key).or
      (context?.bind fun context => (library.cacheOf (some context)).lookup key) := by
  unfold instantiation?
  rw [cached?_eq]
  cases (library.cacheOf none).lookup key with
  | some id => rfl
  | none =>
    cases context? with
    | none => rfl
    | some context =>
      simp only [Option.bind_some, Option.none_or, cacheOf]
      cases library.classLike? context <;> rfl

/-- A key is found in a cache for an instantiation that spells its type. -/
theorem isInstance_of_lookup (coherent : library.Coherent scope options)
    {place? : Option ClassId} {tree : TypeTree} {id : ClassId} (plain : tree.Plain)
    (found : (library.cacheOf place?).lookup tree.key = some id) : library.IsInstance id tree := by
  obtain ⟨before, after, split, _⟩ := List.lookup_eq_some_iff.1 found
  have mem : (tree.key, id) ∈ library.cacheOf place? := by simp [split]
  obtain ⟨tree', isInstance, _, same⟩ := coherent.mem_cacheOf.1 mem
  rwa [TypeTree.key_injective plain (coherent.plain_of_isInstance isInstance) same]

/-- What a look-up finds spells the type. -/
theorem isInstance_of_instantiation? (coherent : library.Coherent scope options)
    {context? : Option ClassId} {tree : TypeTree} {id : ClassId} (plain : tree.Plain)
    (found : library.instantiation? context? tree.key = some id) :
    library.IsInstance id tree := by
  rw [instantiation?_eq, Option.or_eq_some_iff] at found
  rcases found with found | ⟨_, found⟩
  · exact coherent.isInstance_of_lookup plain found
  · obtain ⟨context, rfl, found⟩ := Option.bind_eq_some_iff.1 found
    exact coherent.isInstance_of_lookup plain found

/-- A look-up finds the instantiation that spells the type, if it includes the
place where that is kept. -/
theorem instantiation?_eq_some (coherent : library.Coherent scope options)
    {context? place? : Option ClassId} {tree : TypeTree} {id : ClassId}
    (isInstance : library.IsInstance id tree) (hosts : library.Hosts place? tree)
    (place : place? = none ∨ place? = context?) :
    library.instantiation? context? tree.key = some id := by
  have mem : (tree.key, id) ∈ library.cacheOf place? :=
    coherent.mem_cacheOf.2 ⟨tree, isInstance, hosts, rfl⟩
  have isSome : ((library.cacheOf place?).lookup tree.key).isSome := by
    rw [List.lookup_isSome_iff]
    exact ⟨_, mem, by simp⟩
  have isSome' : (library.instantiation? context? tree.key).isSome := by
    rw [instantiation?_eq, Option.isSome_or, Bool.or_eq_true]
    rcases place with rfl | rfl
    · exact .inl isSome
    · cases place? with
      | none => exact .inl isSome
      | some context => exact .inr isSome
  obtain ⟨found, looked⟩ := Option.isSome_iff_exists.1 isSome'
  have plain := coherent.plain_of_isInstance isInstance
  rw [looked, coherent.canonical (coherent.isInstance_of_instantiation? plain looked) isInstance]

end Coherent

/-! ## Growth -/

/-- What an instantiation is stays settled. -/
theorem Instantiates.grows {focus : ClassId → Prop} {before after : Library}
    (grows : before.Grows focus after) {classLike later base : ClassLike}
    {specialization specialization' : Specialization} {arguments : List TypeTree}
    (instantiates : before.Instantiates scope options classLike specialization base arguments)
    (keeps : classLike.Keeps later)
    (same : specialization'.request = specialization.request) :
    ∃ base', after.Instantiates scope options later specialization' base' arguments := by
  obtain ⟨base', declared, keeps'⟩ := grows.isDeclared instantiates.declared
  simp only [Specialization.request, Specialization.mk.injEq] at same
  obtain ⟨base_eq, arguments_eq, signature_eq, depth_eq, _⟩ := same
  exact ⟨base',
    { declared := base_eq ▸ declared
      identifier := by rw [keeps.identifier, keeps'.identifier, instantiates.identifier]
      visibility := by rw [keeps.visibility, keeps'.visibility, instantiates.visibility]
      isFinal := by rw [keeps.isFinal, keeps'.isFinal, instantiates.isFinal]
      prototype? := by rw [keeps.prototype?, keeps'.prototype?, instantiates.prototype?]
      keyword := by rw [keeps.keyword, keeps'.keyword, instantiates.keyword]
      genericParameters := keeps.genericParameters.trans instantiates.genericParameters
      denotes := arguments_eq ▸ grows.denotesAll instantiates.denotes
      wellFormed := keeps'.identifier ▸ instantiates.wellFormed
      signature := by rw [signature_eq, keeps'.identifier, instantiates.signature]
      depth := by rw [depth_eq, keeps'.identifier, instantiates.depth] }⟩

namespace Grows

variable {focus : ClassId → Prop} {before after : Library}

theorem isNamed_iff (h : before.Grows focus after) {id : ClassId} {name : String} :
    after.IsNamed id name ↔ before.IsNamed id name := by
  constructor
  · rintro ⟨later, declared, rfl⟩
    obtain ⟨classLike, declared, keeps⟩ := h.isDeclared_back declared
    exact ⟨classLike, declared, keeps.identifier.symm⟩
  · rintro ⟨classLike, declared, rfl⟩
    obtain ⟨later, declared, keeps⟩ := h.isDeclared declared
    exact ⟨later, declared, keeps.identifier⟩

theorem hosts_iff (h : before.Grows focus after) {place? : Option ClassId} {tree : TypeTree} :
    after.Hosts place? tree ↔ before.Hosts place? tree := by
  have same : after.IsNamed = before.IsNamed := by
    funext id name
    exact propext h.isNamed_iff
  rw [Hosts, Hosts, same]

/-- What was an instantiation before has spelled the same type. -/
theorem isInstance_back (h : before.Grows focus after) (coherent : before.Coherent scope options)
    {id : ClassId} {tree : TypeTree} {classLike : ClassLike}
    (known : before.classLike? id = some classLike) (isInstance : after.IsInstance id tree) :
    before.IsInstance id tree := by
  obtain ⟨later, known', keeps, _⟩ := h.classLike known
  obtain ⟨later', specialization, known'', specialized⟩ := isInstance.exists_specialization
  cases known'.symm.trans known''
  cases specialized' : classLike.specialization? with
  | none => simp [keeps.specialization?_eq_none.2 specialized'] at specialized
  | some specialization' =>
    obtain ⟨tree', isInstance'⟩ := coherent.exists_isInstance known specialized'
    have := (h.isInstance isInstance').1.unique (h.declares coherent.toDeclares) isInstance.1
    exact this ▸ isInstance'

end Grows

/-! ## Revision -/

/-- The library at a later time, without new class-likes and with the same
caches. -/
structure Revises (focus : ClassId → Prop) (before after : Library) : Prop
    extends Library.Grows focus before after where
  size : after.classLikes.size = before.classLikes.size
  cacheOf (place? : Option ClassId) : after.cacheOf place? = before.cacheOf place?

namespace Revises

variable {focus : ClassId → Prop} {before after : Library}

theorem classLike_old (h : before.Revises focus after) {id : ClassId} {classLike : ClassLike}
    (known : after.classLike? id = some classLike) :
    ∃ earlier, before.classLike? id = some earlier := by
  rw [← Option.isSome_iff_exists, classLike?, Arena.isSome_get?, Arena.contains, ← h.size,
    ← Arena.contains, ← Arena.isSome_get?]
  exact Option.isSome_iff_exists.2 ⟨classLike, known⟩

/-- What is an instantiation has been one, and was asked for in the same way. -/
theorem exists_specialization (h : before.Revises focus after) {id : ClassId} {later : ClassLike}
    {specialization : Specialization} (known : after.classLike? id = some later)
    (specialized : later.specialization? = some specialization) :
    ∃ classLike specialization', before.classLike? id = some classLike
      ∧ classLike.specialization? = some specialization' ∧ classLike.Keeps later
      ∧ specialization.request = specialization'.request := by
  obtain ⟨classLike, known'⟩ := h.classLike_old known
  obtain ⟨later', known'', keeps, _⟩ := h.classLike known'
  cases known.symm.trans known''
  cases specialized' : classLike.specialization? with
  | none => simp [keeps.specialization?_eq_none.2 specialized'] at specialized
  | some specialization' =>
    obtain ⟨last, specialized'', same⟩ := keeps.exists_specialization specialized'
    cases specialized.symm.trans specialized''
    exact ⟨classLike, specialization', known', specialized', keeps, same⟩

theorem isInstance_iff (h : before.Revises focus after) (coherent : before.Coherent scope options)
    {id : ClassId} {tree : TypeTree} : after.IsInstance id tree ↔ before.IsInstance id tree := by
  constructor
  · intro isInstance
    obtain ⟨later, _, known, _⟩ := isInstance.exists_specialization
    obtain ⟨classLike, known'⟩ := h.classLike_old known
    exact h.isInstance_back coherent known' isInstance
  · exact h.isInstance

/-- A library stays coherent when contents change. -/
theorem coherent (h : before.Revises focus after) (coherent : before.Coherent scope options) :
    after.Coherent scope options where
  toDeclares := h.declares coherent.toDeclares
  instantiates {id later specialization} known specialized := by
    obtain ⟨classLike, _, known', specialized', keeps, same⟩ :=
      h.exists_specialization known specialized
    obtain ⟨base, arguments, instantiates⟩ := coherent.instantiates known' specialized'
    obtain ⟨base', instantiates⟩ := instantiates.grows h.toGrows keeps same
    exact ⟨base', arguments, instantiates⟩
  older {id inner later specialization n} known specialized mem := by
    obtain ⟨classLike, _, known', specialized', _, same⟩ :=
      h.exists_specialization known specialized
    have base := congrArg Specialization.base same
    have arguments := congrArg Specialization.arguments same
    simp only [Specialization.request] at base arguments
    rw [base, arguments] at mem
    exact coherent.older known' specialized' mem
  canonical isInstance isInstance' :=
    coherent.canonical ((h.isInstance_iff coherent).1 isInstance)
      ((h.isInstance_iff coherent).1 isInstance')
  mem_cacheOf {place? key id} := by
    rw [h.cacheOf, coherent.mem_cacheOf]
    simp only [h.isInstance_iff coherent, h.hosts_iff]
  cacheOf_nodup {place?} := by
    rw [h.cacheOf]
    exact coherent.cacheOf_nodup

end Revises

/-! ## Creation -/

/-- Adds an entry to the cache of the library or to the one of a class-like. -/
def keep (library : Library) (place? : Option ClassId) (key : String) (id : ClassId) : Library :=
  match place? with
  | none => library.cache key id
  | some owner => library.modify owner fun classLike =>
      { classLike with localCache := classLike.localCache ++ [(key, id)] }

/-- Adds a class-like and keeps it under the key. -/
def create (library : Library) (shell : ClassLike) (place? : Option ClassId) (key : String) :
    Library :=
  (library.insert shell).2.keep place? key library.classLikes.nextId

theorem classLike?_nextId (library : Library) :
    library.classLike? library.classLikes.nextId = none := by
  rw [← Option.not_isSome_iff_eq_none, classLike?, Arena.isSome_get?]
  simp [Arena.contains, Arena.nextId]

section Create

variable {shell : ClassLike} {place? : Option ClassId} (key : String)

/-- The class-like that keeps instantiations is part of the library. -/
theorem Hosts.isSome_classLike? {tree : TypeTree} (hosts : library.Hosts place? tree)
    {owner : ClassId} (place : place? = some owner) : (library.classLike? owner).isSome := by
  subst place
  unfold Hosts at hosts
  cases first : tree.owners.head? with
  | none =>
    rw [first] at hosts
    cases hosts
  | some name =>
    rw [first] at hosts
    cases hosts with
    | some named =>
      obtain ⟨classLike, declared, _⟩ := named
      simp [declared.1]

theorem classLike?_create (known : place? ≠ some library.classLikes.nextId) (id : ClassId) :
    (library.create shell place? key).classLike? id = if id = library.classLikes.nextId then
        some shell
      else (library.classLike? id).map fun classLike => if place? = some id then
          { classLike with
            localCache := classLike.localCache ++ [(key, library.classLikes.nextId)] }
        else classLike := by
  cases place? with
  | none =>
    simp only [create, keep, insert, cache, classLike?, Arena.get?_insert, reduceCtorEq, if_false,
      Option.map_id']
  | some owner =>
    have away : owner ≠ library.classLikes.nextId := fun same => known (congrArg some same)
    simp only [create, keep, insert, modify, classLike?, Arena.get?_modify, Arena.get?_insert,
      Option.some.injEq]
    by_cases new : id = library.classLikes.nextId
    · subst new
      simp [away]
    · by_cases near : owner = id <;> simp [new, near]

theorem cacheOf_create (known : ∀ owner, place? = some owner →
      (library.classLike? owner).isSome) (empty : shell.localCache = [])
    (other? : Option ClassId) :
    (library.create shell place? key).cacheOf other? = library.cacheOf other?
      ++ if other? = place? then [(key, library.classLikes.nextId)] else [] := by
  have old : place? ≠ some library.classLikes.nextId := by
    intro same
    simpa [classLike?_nextId] using known _ same
  cases other? with
  | none =>
    cases place? with
    | none => rfl
    | some owner => simp [cacheOf, create, keep, insert, modify]
  | some id =>
    simp only [cacheOf, classLike?_create key old]
    by_cases new : id = library.classLikes.nextId
    · subst new
      simp [classLike?_nextId, empty, Ne.symm old]
    · cases found : library.classLike? id with
      | none =>
        have away : ¬ some id = place? := fun same => by simpa [found] using known id same.symm
        simp [new, away]
      | some classLike =>
        by_cases near : place? = some id <;> simp [new, near, eq_comm]

/-- A library only grows by a new instantiation. -/
theorem grows_create (specialized : shell.specialization?.isSome)
    (known : place? ≠ some library.classLikes.nextId) :
    library.Grows nobody (library.create shell place? key) where
  types := by cases place? <;> rfl
  classLike {id classLike} found := by
    have old : id ≠ library.classLikes.nextId := by
      rintro rfl
      simp [classLike?_nextId] at found
    rw [classLike?_create key known, if_neg old, found]
    refine ⟨_, rfl, ?_, fun _ => ?_⟩
    · apply ClassLike.Keeps.of_content
      split <;> rfl
    · split <;> rfl
  created {id classLike} found new := by
    rw [classLike?_create key known, new] at found
    split at found
    · cases found
      exact specialized
    · simp at found
  parameter {id parameter} found := by
    refine ⟨parameter, ?_, rfl, rfl, fun _ => rfl⟩
    cases place? <;> exact found
  parameter_old {id parameter} found := by
    refine ⟨parameter, ?_⟩
    cases place? <;> exact found

end Create

section Coherent

variable {shell base : ClassLike} {specialization : Specialization} {arguments : List TypeTree}
  {place? : Option ClassId} (key : String)

theorem Hosts.ne_nextId {tree : TypeTree} (hosts : library.Hosts place? tree) :
    place? ≠ some library.classLikes.nextId := by
  intro same
  simpa [classLike?_nextId] using hosts.isSome_classLike? same

/-- The new instantiation is the only one that is added. -/
theorem isInstance_create_iff (coherent : library.Coherent scope options)
    (instantiates : library.Instantiates scope options shell specialization base arguments)
    (specialized : shell.specialization? = some specialization)
    (known : place? ≠ some library.classLikes.nextId) (id : ClassId) (tree : TypeTree) :
    (library.create shell place? key).IsInstance id tree ↔ library.IsInstance id tree
      ∨ id = library.classLikes.nextId ∧ tree = .applied base.identifier arguments 0 := by
  have grows : library.Grows nobody (library.create shell place? key) :=
    grows_create key (by simp [specialized]) known
  obtain ⟨base', instantiates'⟩ := instantiates.grows grows (.refl shell) rfl
  have found : (library.create shell place? key).classLike? library.classLikes.nextId
      = some shell := by rw [classLike?_create key known, if_pos rfl]
  have new := instantiates'.isInstance found specialized
  have same : base'.identifier = base.identifier :=
    instantiates'.identifier.symm.trans instantiates.identifier
  rw [same] at new
  constructor
  · intro isInstance
    by_cases isNew : id = library.classLikes.nextId
    · subst isNew
      exact .inr ⟨rfl, isInstance.1.unique (grows.declares coherent.toDeclares) new.1⟩
    · obtain ⟨classLike, _, found, _⟩ := isInstance.exists_specialization
      rw [classLike?_create key known, if_neg isNew, Option.map_eq_some_iff] at found
      obtain ⟨earlier, found, _⟩ := found
      exact .inl (grows.isInstance_back coherent found isInstance)
  · rintro (isInstance | ⟨rfl, rfl⟩)
    · exact grows.isInstance isInstance
    · exact new

/-- An instantiation after a creation is the new one or an earlier one. -/
theorem create_cases (specialized : shell.specialization? = some specialization)
    (known : place? ≠ some library.classLikes.nextId) {id : ClassId} {later : ClassLike}
    {specialization' : Specialization}
    (found : (library.create shell place? key).classLike? id = some later)
    (specialized' : later.specialization? = some specialization') :
    (id = library.classLikes.nextId ∧ later = shell ∧ specialization' = specialization)
      ∨ ∃ classLike, library.classLike? id = some classLike ∧ classLike.Keeps later
        ∧ classLike.specialization? = some specialization' := by
  rw [classLike?_create key known] at found
  split at found
  · next new =>
    cases found
    exact .inl ⟨new, rfl, Option.some.inj (specialized'.symm.trans specialized)⟩
  · obtain ⟨classLike, earlier, rfl⟩ := Option.map_eq_some_iff.1 found
    refine .inr ⟨classLike, earlier, .of_content (by split <;> rfl), ?_⟩
    rw [← specialized']
    split <;> rfl

/-- The base and the arguments of an instantiation are older than the next
class-like. -/
theorem Instantiates.older
    (instantiates : library.Instantiates scope options shell specialization base arguments)
    {inner : ClassId} {n : Nat} (mem : (Ty.classLike inner).array n
      ∈ .classLike specialization.base :: specialization.arguments) :
    inner.index < library.classLikes.nextId.index := by
  have inside : (library.classLike? inner).isSome := by
    rcases List.mem_cons.1 mem with same | mem
    · cases ((Ty.array_eq_iff rfl rfl).1 same).1
      rw [instantiates.declared.1, Option.isSome_some]
    · obtain ⟨tree, _, denotes⟩ :=
        Related.exists_of_mem (denotesAll_iff.1 instantiates.denotes).flip mem
      simpa [Knows] using denotes.knows
  rw [classLike?, Arena.isSome_get?] at inside
  simpa [Arena.nextId, Arena.contains] using inside

/-- The cache of a place has one more entry if the instantiation is kept there. -/
theorem mem_cacheOf_create {tree : TypeTree} (hosts : library.Hosts place? tree)
    (empty : shell.localCache = []) {other? : Option ClassId} {key' : String} {id : ClassId} :
    (key', id) ∈ (library.create shell place? key).cacheOf other?
      ↔ (key', id) ∈ library.cacheOf other?
        ∨ other? = place? ∧ key' = key ∧ id = library.classLikes.nextId := by
  rw [cacheOf_create key (fun _ => hosts.isSome_classLike?) empty, List.mem_append]
  split <;> simp_all

/-- A library stays coherent when an instantiation that was not there is
created and kept in its place. -/
theorem Coherent.create (coherent : library.Coherent scope options)
    (instantiates : library.Instantiates scope options shell specialization base arguments)
    (specialized : shell.specialization? = some specialization)
    (hosts : library.Hosts place? (.applied base.identifier arguments 0))
    (absent : ∀ id, ¬ library.IsInstance id (.applied base.identifier arguments 0))
    (empty : shell.localCache = []) :
    (library.create shell place? (TypeTree.applied base.identifier arguments 0).key).Coherent
      scope options := by
  generalize key_eq : (TypeTree.applied base.identifier arguments 0).key = key
  have known : place? ≠ some library.classLikes.nextId := hosts.ne_nextId
  have grows : library.Grows nobody (library.create shell place? key) :=
    grows_create key (by simp [specialized]) known
  have isInstance_iff (id : ClassId) (tree : TypeTree) :=
    isInstance_create_iff key coherent instantiates specialized known id tree
  exact {
    toDeclares := grows.declares coherent.toDeclares
    instantiates := by
      intro id later specialization' found specialized'
      obtain ⟨rfl, rfl, rfl⟩ | ⟨classLike, earlier, keeps, specialized''⟩ :=
        create_cases key specialized known found specialized'
      · obtain ⟨base', instantiates⟩ := instantiates.grows grows (.refl later) rfl
        exact ⟨base', arguments, instantiates⟩
      · obtain ⟨base', arguments', instantiates'⟩ := coherent.instantiates earlier specialized''
        obtain ⟨base'', instantiates'⟩ := instantiates'.grows grows keeps rfl
        exact ⟨base'', arguments', instantiates'⟩
    older := by
      intro id inner later specialization' n found specialized' mem
      obtain ⟨rfl, rfl, rfl⟩ | ⟨classLike, earlier, _, specialized''⟩ :=
        create_cases key specialized known found specialized'
      · exact instantiates.older mem
      · exact coherent.older earlier specialized'' mem
    canonical := by
      intro id id' tree isInstance isInstance'
      rcases (isInstance_iff _ _).1 isInstance with isInstance | ⟨rfl, rfl⟩ <;>
        rcases (isInstance_iff _ _).1 isInstance' with isInstance' | ⟨rfl, same⟩
      · exact coherent.canonical isInstance isInstance'
      · exact absurd (same ▸ isInstance) (absent _)
      · exact absurd isInstance' (absent _)
      · rfl
    mem_cacheOf := by
      intro other? key' id
      rw [mem_cacheOf_create key hosts empty, coherent.mem_cacheOf]
      simp only [isInstance_iff, grows.hosts_iff]
      constructor
      · rintro (⟨tree, isInstance, hosts', rfl⟩ | ⟨rfl, rfl, rfl⟩)
        · exact ⟨tree, .inl isInstance, hosts', rfl⟩
        · exact ⟨_, .inr ⟨rfl, rfl⟩, hosts, key_eq.symm⟩
      · rintro ⟨tree, isInstance | ⟨rfl, rfl⟩, hosts', rfl⟩
        · exact .inl ⟨tree, isInstance, hosts', rfl⟩
        · exact .inr ⟨coherent.hosts_unique hosts' hosts, key_eq, rfl⟩
    cacheOf_nodup := by
      intro other?
      have unknown (key' : String) :
          (key', library.classLikes.nextId) ∉ library.cacheOf other? := by
        intro mem
        obtain ⟨tree, isInstance, _⟩ := coherent.mem_cacheOf.1 mem
        obtain ⟨classLike, _, found, _⟩ := isInstance.exists_specialization
        simp [classLike?_nextId] at found
      rw [cacheOf_create key (fun _ => hosts.isSome_classLike?) empty]
      split
      · exact List.nodup_append.2 ⟨coherent.cacheOf_nodup, List.nodup_singleton _, by
          rintro entry mem _ mem' rfl
          exact unknown key (List.mem_singleton.1 mem' ▸ mem)⟩
      · simpa using coherent.cacheOf_nodup }

end Coherent

end Library

end ClassModel
