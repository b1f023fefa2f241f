import ClassModel.Proofs.Embedding
import ClassModel.Proofs.Further
import ClassModel.Proofs.Invariant
import ClassModel.Proofs.Subtyping

/-!
# ClassModel.Proofs.Ancestry

The way up from a class. Supertypes are accepted by their kinds, and every
class but the root class is given a superclass; instantiations have supertypes
of the same bases as their own base. So from every class, instantiated or not,
the superclasses lead to the root class, by way of the same bases as from its
base (`isHierarchy_of_compile`).
-/

namespace ClassModel

open Walk

/-! ## By names -/

namespace NamedClass

/-- The supertypes are of the kinds that are accepted. -/
structure IsPlaced (scope : Scope) (named : NamedClass) : Prop where
  superclass? : ∀ tree ∈ named.superclass?, scope.keyword? tree = some .class
  interfaces : ∀ tree ∈ named.interfaces, scope.keyword? tree = some .interface

/-- A class under the name has a superclass unless it is the root class. -/
def IsRooted (name : String) (named : NamedClass) : Prop :=
  named.bare.kind.isClass = true → named.superclass? = none → name = Standard.objectIdentifier

variable {scope : Scope} {options : Options}

theorem keeps_isPlaced (scope : Scope) : scope.Keeps fun _ => IsPlaced scope where
  parameters placed _ _ _ := ⟨placed.superclass?, placed.interfaces⟩
  superclass? placed _ _ isClass := ⟨isClass, placed.interfaces⟩
  interfaces placed tree isInterface := by
    refine ⟨placed.superclass?, fun tree mem => ?_⟩
    rcases List.mem_append.1 mem with mem | mem
    · exact placed.interfaces tree mem
    · rwa [List.mem_singleton.1 mem]
  attributes placed _ _ := ⟨placed.superclass?, placed.interfaces⟩
  methods placed _ _ := ⟨placed.superclass?, placed.interfaces⟩
  constants placed _ := ⟨placed.superclass?, placed.interfaces⟩
  layout placed _ := ⟨placed.superclass?, placed.interfaces⟩

theorem keeps_isRooted (scope : Scope) : scope.Keeps IsRooted where
  parameters rooted _ _ _ := rooted
  superclass? _ _ root _ := fun _ => root
  interfaces rooted _ _ := rooted
  attributes rooted _ _ := rooted
  methods rooted _ _ := rooted
  constants {name named} rooted constants := by
    have same : (named.bare.kind.withConstants constants).isClass = named.bare.kind.isClass := by
      cases named.bare.kind <;> rfl
    rw [IsRooted, withConstants, same]
    exact rooted
  layout rooted _ := rooted

theorem isRooted_resolveHeader (signature : String) (rest : List Token) (named : NamedClass) :
    (named.resolveHeader scope options signature rest).value.IsRooted named.identifier := by
  have default (named : NamedClass) :
      named.withDefaultSuperclass.IsRooted named.withDefaultSuperclass.identifier := by
    intro isClass top
    unfold withDefaultSuperclass at isClass top ⊢
    split at top
    · cases top
    · next notDefault =>
      rw [if_neg notDefault] at isClass ⊢
      simpa [isClass, top] using notDefault
  have identifier : (named.resolveHeader scope options signature rest).value.identifier
      = named.identifier := identifier_resolveHeader named
  rw [← identifier]
  exact default _

/-- Substitution keeps the kinds of supertypes. -/
theorem IsPlaced.substitute {named : NamedClass} (placed : named.IsPlaced scope)
    (arguments : List (String × TypeTree)) :
    (named.substitute scope options arguments).value.IsPlaced scope := by
  have keyword {tree : TypeTree} {keyword : Keyword} (found : scope.keyword? tree = some keyword) :
      scope.keyword? (tree.substitute scope options arguments).value = some keyword := by
    rw [Scope.keyword?] at found ⊢
    cases className : tree.className? with
    | none => simp [className] at found
    | some name =>
      -- Only parameters are replaced: what names a class-like goes on naming it.
      rw [className] at found
      rwa [Refines.className?_substitute className]
  constructor
  · simp only [NamedClass.substitute, substituteSupertypes, Traced.value_bind, Traced.value_pure,
      Traced.value_optionMapM]
    intro _ mem
    obtain ⟨tree, above, rfl⟩ := Option.map_eq_some_iff.1 mem
    exact keyword (placed.superclass? tree above)
  · simp only [NamedClass.substitute, substituteSupertypes, Traced.value_bind, Traced.value_pure,
      Traced.value_mapM]
    intro _ mem
    obtain ⟨tree, above, rfl⟩ := List.mem_map.1 mem
    exact keyword (placed.interfaces tree above)

/-- A superclass that is accepted has a name. -/
theorem superName_eq_none_iff {content : String → NamedClass} {name : String}
    (placed : (content name).IsPlaced scope) :
    superName content name = none ↔ (content name).superclass? = none := by
  rw [superName]
  cases above : (content name).superclass? with
  | none => simp
  | some tree =>
    have keyword := placed.superclass? tree above
    cases className : tree.className? with
    | none => simp [Scope.keyword?, className] at keyword
    | some className => simp [className]

end NamedClass

section Contents

variable {options : Options} {declarations : List Declaration}

/-- Nothing has supertypes when it is registered. -/
theorem Registration.isPlaced_contentOf (scope : Scope) (registrations : List Registration)
    (name : String) : (contentOf registrations name).IsPlaced scope := by
  unfold contentOf
  split <;> exact ⟨by simp [Registration.named], by simp [Registration.named]⟩

theorem isPlaced_resolveHeaders
    (object : scopeOf declarations Standard.objectIdentifier = some ⟨.class, []⟩) (name : String) :
    ((Registration.resolveHeaders (scopeOf declarations) options (registrationsOf declarations)
      (Registration.contentOf (registrationsOf declarations))).value name).IsPlaced
        (scopeOf declarations) :=
  (NamedClass.keeps_isPlaced (scopeOf declarations)).resolveHeaders object
    (Registration.isPlaced_contentOf _ _) _ name

theorem isPlaced_contentOf
    (object : scopeOf declarations Standard.objectIdentifier = some ⟨.class, []⟩)
    (names : List String) (name : String) :
    (contentOf options declarations names name).IsPlaced (scopeOf declarations) :=
  (NamedClass.keeps_isPlaced (scopeOf declarations)).contentOf object
    (isPlaced_resolveHeaders object) names name

/-- A class is left without a superclass by its header only if it is the root
class. -/
theorem isRooted_resolveHeaders (name : String) :
    ((Registration.resolveHeaders (scopeOf declarations) options (registrationsOf declarations)
      (Registration.contentOf (registrationsOf declarations))).value name).IsRooted name := by
  by_cases mem : name ∈ declaredNames declarations
  · obtain ⟨registration, listed, rfl⟩ := List.mem_map.1 mem
    rw [Registration.resolveHeaders, value_reviseAll (nodup_declaredNames declarations) listed]
    have rooted := @NamedClass.isRooted_resolveHeader (scopeOf declarations) options
      registration.declaration.signature registration.start.rest
      (Registration.contentOf (registrationsOf declarations) registration.identifier)
    rwa [Registration.identifier_contentOf] at rooted
  · rw [Registration.resolveHeaders, value_reviseAll_of_not_mem mem]
    intro isClass
    have unknown : (registrationsOf declarations).find? (·.identifier == name) = none := by
      simpa [declaredNames] using mem
    rw [Registration.contentOf, unknown] at isClass
    cases isClass

theorem isRooted_contentOf
    (object : scopeOf declarations Standard.objectIdentifier = some ⟨.class, []⟩)
    (names : List String) (name : String) :
    (contentOf options declarations names name).IsRooted name :=
  (NamedClass.keeps_isRooted _).contentOf object isRooted_resolveHeaders names name

end Contents

/-! ## Kinds -/

namespace Library

/-- The keyword that declares the class-like or its base. -/
def keyword? (library : Library) (id : ClassId) : Option Keyword :=
  (library.classLike? id).map (·.kind.keyword)

section Kinds

variable {library : Library} {scope : Scope} {options : Options} {id : ClassId}

theorem keyword?_eq_class_iff {classLike : ClassLike}
    (known : library.classLike? id = some classLike) :
    library.keyword? id = some .class ↔ classLike.kind.isClass = true := by
  rw [keyword?, known, Option.map_some, Option.some.injEq, Kind.keyword_eq_class_iff]

theorem keyword?_of_isNamed (coherent : library.Coherent scope options) {name : String}
    (isNamed : library.IsNamed id name) :
    library.keyword? id = (scope name).map (·.keyword) := by
  obtain ⟨classLike, declared, rfl⟩ := isNamed
  rw [keyword?, declared.1, coherent.scope_identifier declared]
  rfl

/-- A class-like is declared with the keyword of the tree that it denotes. -/
theorem keyword?_of_denotes (coherent : library.Coherent scope options) {tree : TypeTree}
    (denotes : library.Denotes (.classLike id) tree) :
    library.keyword? id = scope.keyword? tree := by
  rcases denotes.classLike_cases with ⟨name, rfl, isNamed⟩ | ⟨name, trees, rfl, _⟩
  · exact keyword?_of_isNamed coherent isNamed
  · obtain ⟨_, classLike, specialization, base, same, known, rfl, specialized, instantiates⟩ :=
      coherent.of_denotes_applied denotes
    cases same
    rw [keyword?, known, Scope.keyword?, TypeTree.className?, Option.bind_some,
      coherent.scope_identifier instantiates.declared, Option.map_some, instantiates.keyword]
    rfl

/-- The root class is no instantiation: it has no generic parameters. -/
theorem IsOf.isNamed_object (coherent : library.Coherent scope options)
    (isOf : library.IsOf id Standard.objectIdentifier) :
    library.IsNamed id Standard.objectIdentifier := by
  rw [IsOf, baseOf] at isOf
  cases found : library.specialization? id with
  | none => rwa [found] at isOf
  | some specialization =>
    rw [found] at isOf
    obtain ⟨classLike, known, specialized⟩ := specialization?_eq_some found
    obtain ⟨base, trees, instantiates⟩ := coherent.instantiates known specialized
    obtain ⟨_, _, _, wf⟩ := instantiates.wellFormed
    have named : base.identifier = Standard.objectIdentifier :=
      IsNamed.name_inj ⟨base, instantiates.declared, rfl⟩ isOf
    rw [TypeTree.WellFormed, named] at wf
    obtain ⟨⟨shape, inScope, length⟩, _, nonempty, _⟩ := wf
    rw [coherent.object] at inScope
    cases inScope
    exact absurd (List.length_eq_zero_iff.1 length.symm) nonempty

theorem exists_of_hierarchyKind? {kind : Kind} (told : library.hierarchyKind? id = some kind) :
    ∃ classLike, library.classLike? id = some classLike := by
  obtain ⟨classLike, known, _⟩ := Option.bind_eq_some_iff.1 told
  exact ⟨classLike, known⟩

end Kinds

/-! ## The hierarchy -/

/-- Supertypes are of the kinds that are accepted, the root class is the only
class without a superclass, and an instantiation is below what its base is
below. -/
structure IsHierarchy (library : Library) : Prop where
  hierarchyKind? {id : ClassId} {classLike : ClassLike} :
    library.classLike? id = some classLike → library.hierarchyKind? id = some classLike.kind
  superclass {id superclass : ClassId} :
    library.superclass? id = some superclass → library.keyword? superclass = some .class
  interfaces {id interface : ClassId} {kind : Kind} : library.hierarchyKind? id = some kind →
    interface ∈ kind.interfaces → library.keyword? interface = some .interface
  isObject_iff {id : ClassId} : library.keyword? id = some .class →
    (library.superclass? id = none ↔ library.isObject id = true)
  isDeclared_baseOf {id : ClassId} {classLike : ClassLike} :
    library.classLike? id = some classLike → ∃ base, library.IsDeclared (library.baseOf id) base
  superclass_baseOf (id : ClassId) :
    library.declaredSuperclass? (library.baseOf id) = (library.superclass? id).map library.baseOf

section Compiled

variable {library : Library} {options : Options} {declarations : List Declaration}
  {names : List String} {diagnostics : List Diagnostic}

/-- The supertypes of a class-like are of the kinds that are accepted. -/
theorem exists_isPlaced (compiled : Compiled options declarations names library diagnostics)
    {id : ClassId} {classLike : ClassLike} (known : library.classLike? id = some classLike) :
    ∃ name context named, library.IsOf id name
      ∧ library.SpellsClass (scopeOf declarations) options context id classLike named
      ∧ named.IsPlaced (scopeOf declarations)
      ∧ named.bare = (contentOf options declarations names name).bare := by
  obtain ⟨name, context, named, isOf, spells, told⟩ := exists_spells compiled known
  have placed := @isPlaced_contentOf options declarations compiled.coherent.object names name
  refine ⟨name, context, named, isOf, spells, ?_⟩
  rcases told with rfl | ⟨arguments, rfl⟩
  · exact ⟨placed, rfl⟩
  · exact ⟨placed.substitute arguments, rfl⟩

/-- Whether a class-like has a superclass is told by the contents of its base. -/
theorem superclass?_eq_none_iff
    (compiled : Compiled options declarations names library diagnostics) {id : ClassId}
    {name : String} (isOf : library.IsOf id name) : library.superclass? id = none
      ↔ (contentOf options declarations names name).superclass? = none := by
  have related := superclass?_rel compiled.coherent compiled.realizes
    (fun _ _ => compiled.complete) isOf
  rw [← NamedClass.superName_eq_none_iff (isPlaced_contentOf compiled.coherent.object names name)]
  generalize library.superclass? id = superclass?, superName _ name = above? at related ⊢
  cases related <;> simp

/-- The superclasses of a class-like and of its base have the same base. -/
theorem declaredSuperclass?_baseOf
    (compiled : Compiled options declarations names library diagnostics) (id : ClassId) :
    library.declaredSuperclass? (library.baseOf id)
      = (library.superclass? id).map library.baseOf := by
  cases known : library.classLike? id with
  | none =>
    simp [declaredSuperclass?, superclass?, hierarchyKind?, baseOf, specialization?, known]
  | some classLike =>
    obtain ⟨name, isOf⟩ := exists_isOf compiled.coherent known
    have above {id : ClassId} (isOf : library.IsOf id name) :=
      superclass?_rel compiled.coherent compiled.realizes (fun _ _ => compiled.complete) isOf
    have own := above isOf
    have ofBase := above (IsNamed.isOf isOf)
    rw [declaredSuperclass?]
    generalize library.superclass? id = superclass?, library.superclass? (library.baseOf id)
      = superclass?', superName (contentOf options declarations names) name = above? at own ofBase ⊢
    cases own with
    | none =>
      cases ofBase
      rfl
    | some isNamed =>
      cases ofBase with
      | some isNamed' =>
        rw [Option.map_some, Option.map_some, compiled.coherent.isNamed_inj isNamed isNamed']

theorem keyword?_superclass (compiled : Compiled options declarations names library diagnostics)
    {id superclass : ClassId} (found : library.superclass? id = some superclass) :
    library.keyword? superclass = some .class := by
  obtain ⟨kind, told, found⟩ := Option.bind_eq_some_iff.1 found
  obtain ⟨classLike, known⟩ := exists_of_hierarchyKind? told
  obtain ⟨_, _, named, _, spells, placed, _⟩ := exists_isPlaced compiled known
  cases told.symm.trans (hierarchyKind?_eq compiled known)
  have related := spells.superclass?
  rw [found] at related
  cases above : named.superclass? with
  | none =>
    rw [above] at related
    cases related
  | some tree =>
    rw [above] at related
    cases related with
    | some means =>
      rw [keyword?_of_denotes compiled.coherent means.denotes]
      exact placed.superclass? tree above

theorem keyword?_interface (compiled : Compiled options declarations names library diagnostics)
    {id interface : ClassId} {kind : Kind} (told : library.hierarchyKind? id = some kind)
    (mem : interface ∈ kind.interfaces) : library.keyword? interface = some .interface := by
  obtain ⟨classLike, known⟩ := exists_of_hierarchyKind? told
  obtain ⟨_, _, _, _, spells, placed, _⟩ := exists_isPlaced compiled known
  cases told.symm.trans (hierarchyKind?_eq compiled known)
  obtain ⟨tree, mem, means⟩ := Related.exists_of_mem spells.interfaces.flip mem
  rw [keyword?_of_denotes compiled.coherent means.denotes]
  exact placed.interfaces tree mem

/-- A class without a superclass is the root class. -/
theorem isObject_of_superclass?_eq_none
    (compiled : Compiled options declarations names library diagnostics) {id : ClassId}
    (isClass : library.keyword? id = some .class) (top : library.superclass? id = none) :
    library.isObject id = true := by
  obtain ⟨classLike, known, isClass⟩ := Option.map_eq_some_iff.1 isClass
  obtain ⟨name, _, _, isOf, spells, _, bare⟩ := exists_isPlaced compiled known
  have ofClass : (contentOf options declarations names name).bare.kind.isClass = true := by
    rw [← bare, ← spells.kind, Kind.isClass_withoutSupertypes]
    exact Kind.keyword_eq_class_iff.1 isClass
  obtain rfl := isRooted_contentOf compiled.coherent.object names name ofClass
    ((superclass?_eq_none_iff compiled isOf).1 top)
  rw [compiled.coherent.isObject_eq (isOf.isNamed_object compiled.coherent)]
  rfl

/-- The root class has no superclass. -/
theorem superclass?_eq_none_of_isObject
    (compiled : Compiled options declarations names library diagnostics)
    (sound : Registration.Sound (registrationsOf declarations)) {id : ClassId}
    (isObject : library.isObject id = true) : library.superclass? id = none := by
  obtain ⟨object, found, isNamed⟩ := compiled.coherent.exists_objectId?
  rw [Library.isObject, found, beq_iff_eq, Option.some.injEq] at isObject
  subst isObject
  have supertypes := @supertypes_object options _ names (nodup_declaredNames declarations) sound
  rw [NamedClass.supertypes, List.append_eq_nil_iff] at supertypes
  exact (superclass?_eq_none_iff compiled isNamed.isOf).2 (by simpa using supertypes.1)

theorem isHierarchy (compiled : Compiled options declarations names library diagnostics)
    (sound : Registration.Sound (registrationsOf declarations)) : library.IsHierarchy where
  hierarchyKind? := hierarchyKind?_eq compiled
  superclass := keyword?_superclass compiled
  interfaces := keyword?_interface compiled
  isObject_iff isClass := ⟨isObject_of_superclass?_eq_none compiled isClass,
    superclass?_eq_none_of_isObject compiled sound⟩
  isDeclared_baseOf known := by
    obtain ⟨name, base, declared, _⟩ := exists_isOf compiled.coherent known
    exact ⟨base, declared⟩
  superclass_baseOf := declaredSuperclass?_baseOf compiled

end Compiled

/-- The superclasses of a class lead to the root class, without repetition and by
way of the same bases as those of its base. -/
structure LeadsToObject (library : Library) (id : ClassId) : Prop where
  path : Path library.superclass? (some id) (library.superclassChain id)
  nodup : (library.superclassChain id).Nodup
  getLast? : ∃ object, library.objectId? = some object
    ∧ (library.superclassChain id).getLast? = some object
  bases : (library.superclassChain id).map library.baseOf
    = (library.superclassChain (library.baseOf id)).map library.baseOf
  declared : Path library.declaredSuperclass? (some (library.baseOf id))
    ((library.superclassChain id).map library.baseOf)

namespace IsHierarchy

variable {library : Library}

theorem leadsToObject (hierarchy : library.IsHierarchy) (laidOut : library.IsLaidOut)
    {id : ClassId} {classLike : ClassLike} (known : library.classLike? id = some classLike)
    (isClass : library.keyword? id = some .class) : library.LeadsToObject id := by
  have path := laidOut.superclassChain_eq known
  have declared := path.map hierarchy.superclass_baseOf
  have classes := path.forall_mem (p := fun node => library.keyword? node = some .class)
    (by simp [isClass]) fun _ _ _ => hierarchy.superclass
  obtain ⟨base, isDeclared⟩ := hierarchy.isDeclared_baseOf known
  refine ⟨path, path.path_nodup, ?_, ?_, declared⟩
  · obtain ⟨last, mem, found, top⟩ := path.exists_getLast?
    rw [hierarchy.isObject_iff (classes last mem), isObject, beq_iff_eq] at top
    exact ⟨last, top, found⟩
  -- Both chains are the path of bases above the base, which is unique.
  · have ofBase := (laidOut.superclassChain_eq isDeclared.1).map hierarchy.superclass_baseOf
    rw [Option.map_some, baseOf_of_isDeclared isDeclared] at ofBase
    exact declared.path_unique ofBase

/-- Marks leave the hierarchy as it is. -/
theorem marked {marks : ClassId → Nat → Bool} {before after : Library}
    (hierarchy : before.IsHierarchy) (marked : Marked marks before after) :
    after.IsHierarchy := by
  have keyword : after.keyword? = before.keyword? := by
    funext id
    rw [keyword?, keyword?, marked.classLike?]
    cases before.classLike? id <;> rfl
  constructor
  · intro id classLike known
    rw [marked.classLike?, Option.map_eq_some_iff] at known
    obtain ⟨unmarked, known, rfl⟩ := known
    rw [marked.hierarchyKind?, hierarchy.hierarchyKind? known]
    rfl
  · intro id superclass
    rw [marked.superclass?, keyword]
    exact hierarchy.superclass
  · intro id interface kind
    rw [marked.hierarchyKind?, keyword]
    exact hierarchy.interfaces
  · intro id
    rw [keyword, marked.superclass?, marked.isObject]
    exact hierarchy.isObject_iff
  · intro id classLike known
    rw [marked.classLike?, Option.map_eq_some_iff] at known
    obtain ⟨unmarked, known, _⟩ := known
    obtain ⟨base, isDeclared⟩ := hierarchy.isDeclared_baseOf known
    rw [marked.baseOf]
    exact ⟨base.mark _, by rw [marked.classLike?, isDeclared.1, Option.map_some], isDeclared.2⟩
  · intro id
    rw [declaredSuperclass?, marked.baseOf, marked.superclass?]
    exact hierarchy.superclass_baseOf id

end IsHierarchy

end Library

/-- In every library that a compilation returns, supertypes are of the kinds
that are accepted, the root class is the only class without a superclass, and
every class leads up to it. -/
theorem isHierarchy_of_compile {declarations : List Declaration} {options : Options} {budget : Nat}
    {library : Library} (returned : (compile declarations options budget).result = .ok library)
    {id : ClassId} {classLike : ClassLike} (known : library.classLike? id = some classLike) :
    library.hierarchyKind? id = some classLike.kind
      ∧ (∀ superclass ∈ classLike.kind.superclass?, library.keyword? superclass = some .class)
      ∧ (∀ interface ∈ classLike.kind.interfaces, library.keyword? interface = some .interface)
      ∧ (classLike.kind.isClass = true → library.LeadsToObject id
        ∧ (library.superclass? id = none ↔ library.isObject id = true)) := by
  obtain ⟨names, before, compiled, marked⟩ := exists_compiled returned
  have hierarchy := (Library.isHierarchy compiled (sound_prelude declarations)).marked marked
  have laidOut := (Library.isLaidOut compiled).marked marked
  have told := hierarchy.hierarchyKind? known
  refine ⟨told, fun superclass mem => ?_, fun interface => hierarchy.interfaces told,
    fun isClass => ?_⟩
  · have found : library.superclass? id = some superclass := by
      rw [Library.superclass?, told]
      exact mem
    exact hierarchy.superclass found
  · have keyword : library.keyword? id = some .class := by
      rw [Library.keyword?, known, Option.map_some]
      cases kind : classLike.kind with
      | «class» => rfl
      | interface | enum => simp [kind, Kind.isClass] at isClass
    exact ⟨hierarchy.leadsToObject laidOut known keyword, hierarchy.isObject_iff keyword⟩

theorem isHierarchy_crates : ∃ library classLike,
    (compile Declaration.crates {} 1).result = .ok library
      ∧ library.classLike? ⟨11⟩ = some classLike ∧ classLike.kind.isClass = true
      ∧ library.hierarchyKind? ⟨11⟩ = some classLike.kind
      ∧ (∀ superclass ∈ classLike.kind.superclass?, library.keyword? superclass = some .class)
      ∧ (∀ interface ∈ classLike.kind.interfaces, library.keyword? interface = some .interface)
      ∧ library.LeadsToObject ⟨11⟩
      ∧ (library.superclass? ⟨11⟩ = none ↔ library.isObject ⟨11⟩ = true) := by
  obtain ⟨library, returned, hasCrates⟩ := exists_hasCrates
  obtain ⟨classLike, known, isClass⟩ := (Option.any_eq_true ..).1 (hasCrates.classes ⟨11⟩ (by simp))
  obtain ⟨told, superclasses, interfaces, ofClass⟩ := isHierarchy_of_compile returned known
  exact ⟨library, classLike, returned, known, isClass, told, superclasses, interfaces,
    ofClass isClass⟩

/-- The bases of the superclasses need not be the superclasses of the base: a
class that is declared below an instantiation leads up to that instantiation,
and not to the base of it. -/
theorem exists_map_baseOf_ne : ∃ library classLike,
    (compile Declaration.crates {} 1).result = .ok library
      ∧ library.classLike? ⟨10⟩ = some classLike ∧ classLike.kind.isClass = true
      ∧ (library.superclassChain ⟨10⟩).map library.baseOf
        ≠ library.superclassChain (library.baseOf ⟨10⟩) := by
  obtain ⟨library, returned, hasCrates⟩ := exists_hasCrates
  obtain ⟨classLike, known, isClass⟩ := (Option.any_eq_true ..).1 (hasCrates.classes ⟨10⟩ (by simp))
  refine ⟨library, classLike, returned, known, isClass, ?_⟩
  rw [hasCrates.bases.1, hasCrates.chain]
  simp [hasCrates.bases]

end ClassModel
