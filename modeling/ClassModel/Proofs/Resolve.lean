import ClassModel.Proofs.Refines
import ClassModel.Proofs.Written

/-!
# ClassModel.Proofs.Resolve

Resolving written types follows the resolution by names
(`Refines.resolve`). The heart of it is the instantiation of generic
class-likes (`Refines.instantiate`): the answer spells the type that was asked
for, whether it was there already or is created.
-/

namespace ClassModel

/-! ## What a scope knows -/

/-- A name that takes arguments is the one of a class-like. -/
theorem Scope.takesArguments_eq_true {scope : Scope} {context name : String}
    (takes : scope.takesArguments context name = true) :
    Primitive.ofText? name = none ∧ ∃ shape, scope name = some shape := by
  simp only [takesArguments, Bool.and_eq_true, Option.isNone_iff_eq_none] at takes
  obtain ⟨⟨notPrimitive, _⟩, known⟩ := takes
  refine ⟨notPrimitive, ?_⟩
  cases found : scope name with
  | none => simp [found] at known
  | some shape => exact ⟨shape, rfl⟩

namespace Library.Coherent

variable {library : Library} {scope : Scope} {options : Options} {id : ClassId} {context : String}

theorem exists_shape (coherent : library.Coherent scope options)
    (named : library.IsNamed id context) :
    ∃ classLike, library.IsDeclared id classLike ∧ classLike.identifier = context
      ∧ scope context = some (library.shapeOf classLike) := by
  obtain ⟨classLike, declared, rfl⟩ := named
  exact ⟨classLike, declared, rfl, coherent.scope_identifier declared⟩

/-- The scope knows which generic parameters a class-like declares. -/
theorem isSome_parameterNamed? (coherent : library.Coherent scope options)
    (named : library.IsNamed id context) (name : String) :
    (library.parameterNamed? id name).isSome = scope.declaresParameter context name := by
  obtain ⟨classLike, declared, rfl, shape⟩ := coherent.exists_shape named
  simp only [parameterNamed?, declared.1, Option.bind_eq_bind, Option.bind_some,
    Scope.declaresParameter, Scope.parametersOf, shape, shapeOf, Option.map_some,
    Option.getD_some, List.isSome_find?]
  rw [Bool.eq_iff_iff, List.any_eq_true, List.contains_iff_mem, List.mem_map]
  refine exists_congr fun parameter => and_congr_right fun mem => ?_
  obtain ⟨found, known, _⟩ := coherent.owned declared mem
  simp [parameterName, known]

/-- The scope knows which names take arguments. -/
theorem takesArguments_eq (coherent : library.Coherent scope options)
    (named : library.IsNamed id context) :
    library.takesArguments id = scope.takesArguments context := by
  funext name
  have parameter : (library.parameterNamed? id name).isNone
      = !scope.declaresParameter context name := by
    rw [← coherent.isSome_parameterNamed? named, Option.not_isSome]
  rw [takesArguments, Scope.takesArguments, parameter]
  congr 1
  cases found : library.byIdentifier? name with
  | none =>
    rw [coherent.byIdentifier?_eq_none_iff.1 found]
    rfl
  | some base =>
    obtain ⟨classLike, declared, rfl⟩ := coherent.byIdentifier?_eq_some_iff.1 found
    rw [coherent.scope_identifier declared, Option.bind_some, declared.1]
    simp only [shapeOf]
    cases classLike.kind <;> rfl

/-- There is a root class. -/
theorem exists_objectId? (coherent : library.Coherent scope options) :
    ∃ id, library.objectId? = some id ∧ library.IsNamed id Standard.objectIdentifier := by
  obtain ⟨id, classLike, declared, named, _⟩ := coherent.scope_iff.1 coherent.object
  exact ⟨id, coherent.byIdentifier?_eq_some_iff.2 ⟨classLike, declared, named⟩,
    classLike, declared, named⟩

/-- The root class is known by its name. -/
theorem isObject_eq (coherent : library.Coherent scope options)
    (named : library.IsNamed id context) :
    library.isObject id = (context == Standard.objectIdentifier) := by
  obtain ⟨object, found, isNamed⟩ := coherent.exists_objectId?
  rw [isObject, found, Bool.eq_iff_iff, beq_iff_eq, beq_iff_eq, Option.some.injEq]
  constructor
  · rintro rfl
    obtain ⟨classLike, declared, rfl⟩ := named
    obtain ⟨classLike', declared', same⟩ := isNamed
    cases declared.1.symm.trans declared'.1
    exact same
  · rintro rfl
    exact coherent.isNamed_inj isNamed named

theorem means_object (coherent : library.Coherent scope options) :
    library.Means scope options context library.objectType .object := by
  obtain ⟨id, found, classLike, declared, named⟩ := coherent.exists_objectId?
  refine ⟨?_, ?_⟩
  · rw [objectType, found]
    exact ⟨id, classLike, rfl, declared, named⟩
  · rw [TypeTree.object, TypeTree.WellFormed, coherent.object]
    exact ⟨rfl, by decide⟩

/-- Types are open exactly if their trees mention a generic parameter. -/
theorem anyOpen_eq (coherent : library.Coherent scope options) {types : List Ty}
    {trees : List TypeTree} (all : List.Forall₂ library.Denotes types trees) :
    library.anyOpen types = !(trees.flatMap TypeTree.owners).isEmpty := by
  unfold anyOpen
  induction all with
  | nil => rfl
  | @cons type tree types trees first later ih =>
    rw [List.any_cons, ih, coherent.isOpen_eq first, List.flatMap_cons]
    cases tree.owners <;> simp

section Applied

variable {name : String} {types : List Ty} {trees : List TypeTree}

theorem key_applied (coherent : library.Coherent scope options)
    (all : List.Forall₂ library.Denotes types trees) :
    Library.applied name (types.map library.keyOf) = (TypeTree.applied name trees 0).key := by
  rw [TypeTree.key, bracketed_zero, Related.map_eq all fun _ _ _ => coherent.keyOf_eq]

theorem signature_applied (coherent : library.Coherent scope options)
    (all : List.Forall₂ library.Denotes types trees) :
    Library.applied name (types.map library.signatureOf)
      = (TypeTree.applied name trees 0).signature := by
  rw [TypeTree.signature, bracketed_zero, Related.map_eq all fun _ _ _ => coherent.signatureOf_eq]

theorem depth_applied (coherent : library.Coherent scope options) (name : String)
    (all : List.Forall₂ library.Denotes types trees) :
    library.depthOfApplication types = (TypeTree.applied name trees 0).depth := by
  rw [TypeTree.depth, depthOfApplication, Related.map_eq all fun _ _ _ => coherent.depthOf_eq]

variable {types : List Ty} {classLike : ClassLike}

theorem plain_applied (coherent : library.Coherent scope options)
    (declared : library.IsDeclared id classLike) (same : classLike.identifier = name)
    (means : List.Forall₂ (library.Means scope options context) types trees)
    (nonempty : trees ≠ []) : (TypeTree.applied name trees 0).Plain := by
  subst same
  rw [TypeTree.Plain]
  refine ⟨(coherent.isName (coherent.scope_identifier declared)).1, nonempty, fun tree mem => ?_⟩
  obtain ⟨type, _, means⟩ := Related.exists_of_mem means mem
  exact means.wellFormed.plain coherent.toDeclares

theorem wellFormed_applied (coherent : library.Coherent scope options)
    (declared : library.IsDeclared id classLike) (same : classLike.identifier = name)
    (notPrimitive : Primitive.ofText? name = none)
    (means : List.Forall₂ (library.Means scope options context) types trees)
    (fits : classLike.genericParameters.length = trees.length) (nonempty : trees ≠ [])
    (within : (TypeTree.applied name trees 0).depth ≤ options.maxSpecializationDepth) :
    (TypeTree.applied name trees 0).WellFormed scope options context := by
  subst same
  rw [TypeTree.WellFormed]
  refine ⟨⟨_, coherent.scope_identifier declared, ?_⟩, notPrimitive, nonempty, within,
    fun tree mem => ?_⟩
  · simpa [shapeOf] using fits
  · obtain ⟨type, _, means⟩ := Related.exists_of_mem means mem
    exact means.wellFormed

end Applied

/-- A declared class-like means its name. -/
theorem means_declared (coherent : library.Coherent scope options) {name : String}
    (named : library.IsNamed id name) (notPrimitive : Primitive.ofText? name = none) :
    library.Means scope options context (.classLike id) (.declared name 0) := by
  obtain ⟨classLike, declared, same, shape⟩ := coherent.exists_shape named
  refine ⟨⟨id, classLike, rfl, declared, same⟩, ?_⟩
  rw [TypeTree.WellFormed, shape]
  exact ⟨rfl, notPrimitive⟩

theorem parametersOf_eq (coherent : library.Coherent scope options) {classLike : ClassLike}
    (declared : library.IsDeclared id classLike) : scope.parametersOf classLike.identifier
      = classLike.genericParameters.map library.parameterName := by
  rw [Scope.parametersOf, coherent.scope_identifier declared]
  rfl

end Library.Coherent

theorem Library.means_void (library : Library) (scope : Scope) (options : Options)
    (context : String) : library.Means scope options context .void .void :=
  ⟨rfl, by rw [TypeTree.void, TypeTree.WellFormed]; trivial⟩

theorem Library.Means.array {library : Library} {scope : Scope} {options : Options}
    {context : String} {type : Ty} {tree : TypeTree}
    (means : library.Means scope options context type tree)
    (n : Nat) : library.Means scope options context (type.array n) (tree.array n) :=
  ⟨means.denotes.array n, TypeTree.wellFormed_array.2 means.wellFormed⟩

namespace Refines

variable {scope : Scope} {options : Options} {focus : ClassId → Prop} {state : BuildState}
  {context signature : String}

/-! ## Names -/

theorem resolveName {id : ClassId} {name : String} (coherent : state.library.Coherent scope options)
    (named : state.library.IsNamed id context) :
    Refines scope options focus state (Build.resolveName id signature name)
      (scope.resolveName context signature name)
      (Library.Means · scope options context) := by
  unfold Build.resolveName Scope.resolveName
  apply Refines.library
  have declares := coherent.isSome_parameterNamed? named name
  cases primitive : Primitive.ofText? name with
  | some primitive => exact .pure coherent ⟨rfl, by rw [TypeTree.WellFormed]; trivial⟩
  | none =>
    cases found : state.library.parameterNamed? id name with
    | some parameter =>
      simp only [found, Option.isSome_some] at declares
      obtain ⟨classLike, declared, same, shape⟩ := coherent.exists_shape named
      simp only [← declares, if_true]
      refine .pure coherent ⟨⟨_, id, classLike, rfl, declared, same, found⟩, ?_⟩
      rw [TypeTree.WellFormed]
      refine ⟨rfl, _, shape, ?_⟩
      have mem : scope.declaresParameter context name = true := declares.symm
      simpa [Scope.declaresParameter, Scope.parametersOf, shape] using mem
    | none =>
      simp only [found, Option.isSome_none] at declares
      simp only [← declares, Bool.false_eq_true, if_false]
      cases base : state.library.byIdentifier? name with
      | some base =>
        have named := coherent.byIdentifier?_eq_some_iff.1 base
        obtain ⟨_, _, _, shape⟩ := coherent.exists_shape named
        rw [shape]
        exact .pure coherent (coherent.means_declared named primitive)
      | none =>
        rw [coherent.byIdentifier?_eq_none_iff.1 base]
        exact (report coherent ⟨rfl, rfl⟩).bind fun _ after coherent' grows _ =>
          .pure coherent' (grows.means coherent.means_object)

/-! ## Class-likes -/

/-- A type refers to the class-like of the name that its tree refers to. -/
theorem className?_cases {library : Library} (coherent : library.Coherent scope options)
    {type : Ty} {tree : TypeTree} (denotes : library.Denotes type tree) :
    type.classLike? = none ∧ tree.className? = none
      ∨ ∃ id name, type = .classLike id ∧ tree.className? = some name
        ∧ library.IsNamed (library.baseOf id) name := by
  cases tree with
  | primitive primitive n =>
    obtain rfl := denotes
    exact .inl ⟨by cases n <;> rfl, rfl⟩
  | declared name n =>
    obtain ⟨id, classLike, rfl, declared, same⟩ := denotes
    cases n with
    | succ n => exact .inl ⟨rfl, rfl⟩
    | zero =>
      refine .inr ⟨id, name, rfl, rfl, ?_⟩
      have base_eq : library.baseOf id = id := by
        simp [Library.baseOf, Library.specialization?, declared.1, declared.2]
      rw [base_eq]
      exact ⟨classLike, declared, same⟩
  | applied name arguments n =>
    obtain ⟨id, classLike, specialization, base, rfl, known, rfl, specialized, instantiates⟩ :=
      coherent.of_denotes_applied denotes
    cases n with
    | succ n => exact .inl ⟨rfl, rfl⟩
    | zero =>
      refine .inr ⟨id, _, rfl, rfl, ?_⟩
      have base_eq : library.baseOf id = specialization.base := by
        simp [Library.baseOf, Library.specialization?, known, specialized]
      rw [base_eq]
      exact ⟨base, instantiates.declared, rfl⟩
  | parameter owner name n =>
    obtain ⟨parameter, id, classLike, rfl, _⟩ := denotes
    exact .inl ⟨by cases n <;> rfl, rfl⟩

/-- The tree of a class-like refers to the class-like or to its base. -/
theorem exists_className? {library : Library} (coherent : library.Coherent scope options)
    {id : ClassId} {tree : TypeTree} (denotes : library.Denotes (.classLike id) tree) :
    ∃ name, tree.className? = some name ∧ library.IsNamed (library.baseOf id) name := by
  obtain ⟨notClassLike, _⟩ | ⟨_, name, same, className, isNamed⟩ :=
    className?_cases coherent denotes
  · cases notClassLike
  · cases same
    exact ⟨name, className, isNamed⟩

/-! ## Instantiations -/

/-- Creating an instantiation adds it to the library, to the cache where it
belongs and to the worklist. -/
theorem yields_createInstantiation {baseClass : ClassLike} {specialization : Specialization}
    {context? place? : Option ClassId} {key : String} {post : ClassId → BuildState → Prop}
    (place : place?
      = if state.library.anyOpen specialization.arguments then context? else none)
    (known : ∀ owner, place? = some owner →
      ∃ classLike, state.library.classLike? owner = some classLike) :
    (Build.createInstantiation baseClass specialization context? key).Yields state post
      ↔ post state.library.classLikes.nextId
        { state with
          library := state.library.create (baseClass.shell specialization) place? key
          pending := state.pending ++ [state.library.classLikes.nextId] } := by
  unfold Build.createInstantiation
  simp only [Build.yields_bind, Build.yields_library, Build.yields_setLibrary]
  cases context? with
  | none =>
    obtain rfl : place? = none := by simpa using place
    exact Iff.rfl
  | some context =>
    by_cases isOpen : state.library.anyOpen specialization.arguments = true
    · obtain rfl : place? = some context := by simpa [isOpen] using place
      obtain ⟨classLike, found⟩ := known context rfl
      have found' : (state.library.insert (baseClass.shell specialization)).2.classLike? context
          = some classLike := by
        rw [Library.insert, Library.classLike?, Arena.get?_insert, if_neg, ← found]
        · rfl
        · rintro rfl
          simp [Library.classLike?_nextId] at found
      simp only [isOpen, if_true, Build.yields_bind]
      rw [Build.yields_modifyClassLike found']
      exact Iff.rfl
    · obtain rfl : place? = none := by simpa [isOpen] using place
      simp only [isOpen]
      exact Iff.rfl

/-- Every generic parameter in the types belongs to the class-like in whose
context they are instantiated. -/
def Serves (library : Library) (context : String) (context? : Option ClassId)
    (trees : List TypeTree) : Prop :=
  (∃ id, context? = some id ∧ library.IsNamed id context) ∨ ∀ tree ∈ trees, tree.owners = []

theorem fitArguments {id : ClassId} {name : String} {expected : Nat} {arguments : List Ty}
    {trees : List TypeTree} (coherent : state.library.Coherent scope options)
    (named : state.library.IsNamed id name)
    (means : List.Forall₂ (state.library.Means scope options context) arguments trees) :
    Refines scope options focus state (Build.fitArguments options id expected arguments signature)
      (Scope.fitArguments options name expected trees signature) fun after arguments trees' =>
        List.Forall₂ (after.Means scope options context) arguments trees'
          ∧ trees'.length = expected
          ∧ ((∀ tree ∈ trees, tree.owners = []) → ∀ tree ∈ trees', tree.owners = []) := by
  have length : arguments.length = trees.length := means.length_eq
  unfold Build.fitArguments Scope.fitArguments
  by_cases fits : arguments.length = expected
  · rw [if_pos fits, if_pos (length ▸ fits)]
    exact .pure coherent ⟨means, length ▸ fits, fun closed => closed⟩
  · rw [if_neg fits, if_neg (length ▸ fits), length]
    have tells : List.Forall₂ (fun id tree => state.library.Denotes (.classLike id) tree)
        [id] [.declared name 0] := by
      obtain ⟨classLike, declared, same⟩ := named
      exact .cons ⟨id, classLike, rfl, declared, same⟩ .nil
    refine Refines.bind (reportOf coherent rfl tells) fun _ after coherent' grows _ => ?_
    apply Refines.library
    refine .pure coherent' ⟨?_, by simp, ?_⟩
    · refine List.forall₂_take _ (List.rel_append (means.imp fun _ _ => grows.means) ?_)
      rw [List.forall₂_iff_get]
      refine ⟨by simp, fun i h h' => ?_⟩
      simpa using coherent'.means_object
    · intro closed tree mem
      rcases List.mem_append.1 (List.mem_of_mem_take mem) with mem | mem
      · exact closed tree mem
      · rw [List.eq_of_mem_replicate mem, TypeTree.object, TypeTree.owners]

/-- Asking for an instantiation that is there is no step. -/
theorem requested {type : Ty} {tree : TypeTree} (coherent : state.library.Coherent scope options)
    (means : state.library.Means scope options context type tree) (has : state.library.Has tree) :
    Refines scope options focus state (pure type) (Traced.request tree >>= fun _ => pure tree)
      (Library.Means · scope options context) := by
  rw [Refines, Build.yields_pure]
  refine ⟨coherent, ⟨.refl _, ⟨[], by simp, .nil⟩, ⟨[], by simp⟩, fun tree' => ?_⟩, means⟩
  constructor
  · exact .inl
  · rintro (has' | requested)
    · exact has'
    · rwa [List.mem_singleton.1 requested]

/-- There is a place where a new instantiation is kept. -/
theorem exists_hosts {library : Library} {context? : Option ClassId} {types : List Ty}
    {trees : List TypeTree} {name : String} (coherent : library.Coherent scope options)
    (denotes : library.DenotesAll types trees) (serves : Serves library context context? trees)
    (wf : (TypeTree.applied name trees 0).WellFormed scope options context) :
    ∃ place?, (place? = if library.anyOpen types then context? else none)
      ∧ library.Hosts place? (.applied name trees 0) := by
  refine ⟨_, rfl, ?_⟩
  rw [coherent.anyOpen_eq (Library.denotesAll_iff.1 denotes), Library.Hosts, TypeTree.owners]
  cases listed : trees.flatMap TypeTree.owners with
  | nil => exact .none
  | cons owner owners =>
    have mem : owner ∈ (TypeTree.applied name trees 0).owners := by
      rw [TypeTree.owners, listed]
      exact List.mem_cons_self
    obtain rfl := wf.eq_of_mem_owners mem
    rcases serves with ⟨id, rfl, named⟩ | closed
    · exact .some named
    · rw [List.flatMap_eq_nil_iff.2 closed] at listed
      cases listed

/-- A new instantiation is created, kept where it belongs and filled in later. -/
theorem createInstantiation {baseClass base : ClassLike} {specialization : Specialization}
    {name : String} {trees : List TypeTree} {context? : Option ClassId}
    (coherent : state.library.Coherent scope options)
    (instantiates : state.library.Instantiates scope options (baseClass.shell specialization)
      specialization base trees)
    (same : base.identifier = name) (serves : Serves state.library context context? trees)
    (wf : (TypeTree.applied name trees 0).WellFormed scope options context)
    (absent : ¬ state.library.Has (.applied name trees 0)) :
    Refines scope options focus state
      (Build.createInstantiation baseClass specialization context?
        (TypeTree.applied name trees 0).key >>= fun id => pure (Ty.classLike id))
      (Traced.request (.applied name trees 0) >>= fun _ => pure (.applied name trees 0))
      (Library.Means · scope options context) := by
  subst same
  obtain ⟨place?, place, hosts⟩ := exists_hosts coherent instantiates.denotes serves wf
  rw [Refines, Build.yields_bind, yields_createInstantiation place
    (fun _ kept => Option.isSome_iff_exists.1 (hosts.isSome_classLike? kept)), Build.yields_pure]
  have absent' (id : ClassId) :
      ¬ state.library.IsInstance id (.applied base.identifier trees 0) :=
    fun isInstance => absent ⟨id, isInstance⟩
  have isInstance_iff := Library.isInstance_create_iff
    (TypeTree.applied base.identifier trees 0).key coherent instantiates rfl hosts.ne_nextId
  have new := (isInstance_iff _ _).2 (.inr ⟨rfl, rfl⟩)
  refine ⟨coherent.create instantiates rfl hosts absent' rfl, ?_, new.1, wf⟩
  exact {
    grows := (Library.grows_create _ rfl hosts.ne_nextId).widen
    log := ⟨[], by simp, .nil⟩
    pending := ⟨_, rfl, Library.instances_create _ rfl hosts.ne_nextId⟩
    has := fun tree => by
      simp only [Library.Has, isInstance_iff, exists_or, exists_eq_left]
      exact or_congr_right List.mem_singleton.symm }

/-- Looking up its key finds an instantiation if it is there. -/
theorem instantiation?_eq_some_iff {library : Library} {context? : Option ClassId}
    {types : List Ty} {trees : List TypeTree} {name : String}
    (coherent : library.Coherent scope options)
    (denotes : List.Forall₂ library.Denotes types trees)
    (serves : Serves library context context? trees)
    (wf : (TypeTree.applied name trees 0).WellFormed scope options context) (id : ClassId) :
    library.instantiation? context? (TypeTree.applied name trees 0).key = some id
      ↔ library.IsInstance id (.applied name trees 0) := by
  refine ⟨coherent.isInstance_of_instantiation? (wf.plain coherent.toDeclares),
    fun isInstance => ?_⟩
  obtain ⟨place?, place, hosts⟩ :=
    exists_hosts coherent (Library.denotesAll_iff.2 denotes) serves wf
  refine coherent.instantiation?_eq_some isInstance hosts ?_
  rw [place]
  split <;> simp

/-- Looking up what nests too deeply finds nothing. -/
theorem instantiation?_eq_none {library : Library} (context? : Option ClassId)
    {trees : List TypeTree} {name : String} (coherent : library.Coherent scope options)
    (plain : (TypeTree.applied name trees 0).Plain)
    (tooDeep : options.maxSpecializationDepth < (TypeTree.applied name trees 0).depth) :
    library.instantiation? context? (TypeTree.applied name trees 0).key = none := by
  by_contra found
  obtain ⟨id, found⟩ := Option.ne_none_iff_exists'.1 found
  have within := coherent.depth_le_of_isInstance (coherent.isInstance_of_instantiation? plain found)
  exact Nat.not_lt.2 within tooDeep

/-- Types that mention generic parameters are instantiated in a context. -/
theorem anyOpen_and_isNone {library : Library} {context? : Option ClassId} {types : List Ty}
    {trees : List TypeTree} (coherent : library.Coherent scope options)
    (denotes : List.Forall₂ library.Denotes types trees)
    (serves : Serves library context context? trees) :
    (library.anyOpen types && context?.isNone) = false := by
  rw [coherent.anyOpen_eq denotes]
  rcases serves with ⟨id, rfl, _⟩ | closed
  · simp
  · simp [List.flatMap_eq_nil_iff.2 closed]

/-- The shell made of a class-like as it was before is an instantiation of what
the class-like is now. -/
theorem instantiates_shell {library : Library} {id : ClassId} {baseClass later : ClassLike}
    {arguments : List Ty} {trees : List TypeTree} (declared : library.IsDeclared id later)
    (keeps : baseClass.Keeps later) (denotes : List.Forall₂ library.Denotes arguments trees)
    (isType : (TypeTree.applied later.identifier trees 0).IsType scope options)
    {specialization : Specialization}
    (same : specialization = {
      base := id
      arguments := arguments
      signature := (TypeTree.applied baseClass.identifier trees 0).signature
      depth := (TypeTree.applied baseClass.identifier trees 0).depth }) :
    library.Instantiates scope options (baseClass.shell specialization) specialization later
      trees := by
  subst same
  exact {
    declared := declared
    identifier := keeps.identifier.symm
    visibility := keeps.visibility.symm
    isFinal := keeps.isFinal.symm
    prototype? := keeps.prototype?.symm
    keyword := (Kind.keyword_withoutSupertypes _).trans keeps.keyword.symm
    genericParameters := rfl
    denotes := Library.denotesAll_iff.2 denotes
    wellFormed := isType
    signature := by rw [keeps.identifier]
    depth := by rw [keeps.identifier] }

/-- Instantiating a generic class-like follows the instantiation by names. -/
theorem instantiate {id : ClassId} {name : String} {arguments : List Ty} {trees : List TypeTree}
    {context? : Option ClassId} (coherent : state.library.Coherent scope options)
    (named : state.library.IsNamed id name) (notPrimitive : Primitive.ofText? name = none)
    (inScope : ∃ shape, scope context = some shape)
    (means : List.Forall₂ (state.library.Means scope options context) arguments trees)
    (serves : Serves state.library context context? trees) :
    Refines scope options focus state (Build.instantiate options id arguments context? signature)
      (scope.instantiate options name trees signature) (Library.Means · scope options context) := by
  obtain ⟨baseClass, declared, rfl⟩ := named
  unfold Build.instantiate Scope.instantiate
  apply Refines.classLike declared.1
  rw [coherent.parametersOf_eq declared, List.length_map]
  refine (fitArguments coherent ⟨baseClass, declared, rfl⟩ means).bind
    fun arguments after coherent grows fitted => ?_
  obtain ⟨means, length, closed⟩ := fitted
  generalize (Scope.fitArguments options baseClass.identifier _ trees signature).value = trees' at *
  have named : after.library.IsNamed id baseClass.identifier :=
    grows.isNamed_iff.2 ⟨baseClass, declared, rfl⟩
  obtain ⟨later, declared', keeps⟩ := grows.isDeclared declared
  have serves : Serves after.library context context? trees' :=
    serves.imp (fun ⟨id, same, named⟩ => ⟨id, same, grows.isNamed_iff.2 named⟩) closed
  by_cases empty : arguments = []
  · -- the class-like is not generic
    subst empty
    obtain rfl := List.forall₂_nil_left_iff.1 means
    exact .pure coherent (coherent.means_declared named notPrimitive)
  have empty' : trees' ≠ [] := by
    rintro rfl
    exact empty (List.forall₂_nil_right_iff.1 means)
  rw [if_neg (by simpa using empty), if_neg (by simpa using empty')]
  apply Refines.library
  have denotes := means.imp fun _ _ h => h.denotes
  have fits : later.genericParameters.length = trees'.length := by
    rw [length, keeps.genericParameters]
  simp only [coherent.key_applied denotes, coherent.signature_applied denotes,
    coherent.depth_applied baseClass.identifier denotes]
  by_cases tooDeep :
    options.maxSpecializationDepth < (TypeTree.applied baseClass.identifier trees' 0).depth
  · have absent := instantiation?_eq_none context? coherent
      (coherent.plain_applied declared' keeps.identifier means empty') tooDeep
    rw [if_pos tooDeep, absent, if_pos tooDeep]
    exact (report coherent ⟨rfl, rfl⟩).bind fun _ _ coherent' grows _ =>
      .pure coherent' (grows.means (coherent.means_declared named notPrimitive))
  have wf := coherent.wellFormed_applied declared' keeps.identifier notPrimitive means fits empty'
    (Nat.le_of_not_lt tooDeep)
  have iff (id : ClassId) := instantiation?_eq_some_iff coherent denotes serves wf id
  simp only [if_neg tooDeep]
  cases found : after.library.instantiation? context?
      (TypeTree.applied baseClass.identifier trees' 0).key with
  | some id => exact requested coherent ⟨((iff id).1 found).1, wf⟩ ⟨id, (iff id).1 found⟩
  | none =>
    have absent : ¬ after.library.Has (.applied baseClass.identifier trees' 0) := by
      rintro ⟨id, isInstance⟩
      simp [(iff id).2 isInstance] at found
    simp only [anyOpen_and_isNone coherent denotes serves, Bool.false_eq_true, if_false]
    exact createInstantiation coherent
      (instantiates_shell declared' keeps denotes (keeps.identifier.symm ▸
        ⟨context, inScope.choose, inScope.choose_spec, wf⟩) rfl)
      keeps.identifier serves wf absent

/-! ## Written types -/

theorem resolveAll {id : ClassId} {exprs : List TypeExpr}
    (step : ∀ expr ∈ exprs, ∀ state : BuildState, state.library.Coherent scope options →
      state.library.IsNamed id context →
        Refines scope options focus state (Build.resolve options id signature expr)
          (scope.resolve options context signature expr) (Library.Means · scope options context))
    (coherent : state.library.Coherent scope options) (named : state.library.IsNamed id context) :
    Refines scope options focus state (Build.resolveAll options id signature exprs)
      (scope.resolveAll options context signature exprs) fun after =>
        List.Forall₂ (after.Means scope options context) := by
  induction exprs generalizing state with
  | nil => exact .pure coherent .nil
  | cons expr exprs ih =>
    rw [Build.resolveAll, Scope.resolveAll]
    refine (step expr (by simp) state coherent named).bind fun type after coherent grows means => ?_
    exact (ih (fun expr mem => step expr (by simp [mem])) coherent
      (grows.isNamed_iff.2 named)).bind fun types _ coherent grows' all =>
        .pure coherent (.cons (grows'.means means) all)

/-- Resolving a written type follows the resolution by names. -/
theorem resolve {id : ClassId} {expr : TypeExpr}
    (applies : expr.Applies (scope.takesArguments context))
    (coherent : state.library.Coherent scope options) (named : state.library.IsNamed id context) :
    Refines scope options focus state (Build.resolve options id signature expr)
      (scope.resolve options context signature expr) (Library.Means · scope options context) := by
  induction expr generalizing state with
  | missing found dimension =>
    rw [Build.resolve, Scope.resolve]
    exact (report coherent ⟨rfl, rfl⟩).bind fun _ _ coherent _ _ =>
      .pure coherent ((Library.means_void _ _ _ _).array dimension)
  | name name dimension =>
    rw [Build.resolve, Scope.resolve]
    exact (resolveName coherent named).map fun _ _ means => means.array dimension
  | application name arguments unclosed? dimension ih =>
    rw [Build.resolve, Scope.resolve]
    rw [TypeExpr.Applies] at applies
    obtain ⟨takes, applies⟩ := applies
    refine (resolveAll (fun expr mem state => ih expr mem (applies expr mem)) coherent named).bind
      fun types after coherent grows means => ?_
    refine (reportUnmet unclosed? coherent).bind fun _ after' coherent grows' _ => ?_
    apply Refines.library
    obtain ⟨notPrimitive, shape, known⟩ := Scope.takesArguments_eq_true takes
    obtain ⟨base, classLike, declared, same, _⟩ := coherent.scope_iff.1 known
    rw [coherent.byIdentifier?_eq_some_iff.2 ⟨classLike, declared, same⟩]
    have named := grows'.isNamed_iff.2 (grows.isNamed_iff.2 named)
    obtain ⟨_, _, _, inScope⟩ := coherent.exists_shape named
    exact (instantiate coherent ⟨classLike, declared, same⟩ notPrimitive ⟨_, inScope⟩
      (means.imp fun _ _ => grows'.means) (.inl ⟨id, rfl, named⟩)).map
        fun _ _ means => means.array dimension

end Refines

end ClassModel
