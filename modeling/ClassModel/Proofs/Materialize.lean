import ClassModel.Proofs.Member
import ClassModel.Proofs.Substitute

/-!
# ClassModel.Proofs.Materialize

Filling in an instantiation follows the substitution in its base by names
(`Refines.materialize`).
-/

namespace ClassModel

variable {scope : Scope} {options : Options} {base context : String}

namespace Refines

variable {state : BuildState} {substitution : Substitution}
  {arguments : List (String × TypeTree)}

/-- The class-like means the tree. -/
abbrev MeansClassLike (scope : Scope) (options : Options) (context : String) (library : Library)
    (id : ClassId) (tree : TypeTree) : Prop :=
  library.Means scope options context (.classLike id) tree

/-- Substituting in a class-like answers one. -/
theorem className?_substitute {tree : TypeTree} {name : String}
    (className : tree.className? = some name) :
    (tree.substitute scope options arguments).value.className? = some name := by
  cases tree with
  | primitive | parameter => cases className
  | declared name' n =>
    rw [TypeTree.substitute]
    exact className
  | applied name' trees n =>
    cases n with
    | succ n => cases className
    | zero =>
      obtain rfl : name' = name := Option.some.inj className
      rw [TypeTree.substitute, Traced.value_bind, Traced.value_bind, Traced.value_pure,
        TypeTree.array_zero]
      exact Scope.className?_instantiate ..

theorem substituteClassLike {id : ClassId} {tree : TypeTree}
    (coherent : state.library.Coherent scope options)
    (inScope : ∃ shape, scope context = some shape)
    (substitutes : state.library.Substitutes scope options base context substitution arguments)
    (means : state.library.Means scope options base (.classLike id) tree) :
    Refines scope options Library.nobody state (Build.substituteClassLike options substitution id)
      (tree.substitute scope options arguments) (MeansClassLike scope options context) := by
  obtain ⟨name, className, _⟩ := exists_className? coherent means.denotes
  unfold Build.substituteClassLike
  rw [← bind_pure (tree.substitute scope options arguments)]
  refine (substitute coherent inScope substitutes means).bind fun type after coherent _ means => ?_
  rcases className?_cases coherent means.denotes with ⟨_, notClassLike⟩ | ⟨id', _, rfl, _⟩
  · rw [className?_substitute className] at notClassLike
    cases notClassLike
  · exact .pure coherent means

theorem substituteSupertypes {id : ClassId} {classLike : ClassLike} {named : NamedClass}
    (coherent : state.library.Coherent scope options)
    (inScope : ∃ shape, scope context = some shape)
    (substitutes : state.library.Substitutes scope options base context substitution arguments)
    (spells : state.library.SpellsClass scope options base id classLike named)
    (isGeneric : classLike.kind.isEnum = false) :
    Refines scope options Library.nobody state
      (Build.substituteKind options substitution classLike.kind)
      (named.substituteSupertypes scope options arguments) fun after kind supertypes =>
        kind.withoutSupertypes = classLike.kind.withoutSupertypes
          ∧ Option.Rel (MeansClassLike scope options context after) kind.superclass? supertypes.1
          ∧ List.Forall₂ (MeansClassLike scope options context after) kind.interfaces
            supertypes.2 := by
  have inSuperclass := optionMapM (fun id tree means =>
    substituteClassLike coherent inScope substitutes means) coherent spells.superclass?
  have inInterfaces (after : BuildState) (coherent : after.library.Coherent scope options)
      (grows : state.library.Grows Library.nobody after.library) :
      Refines scope options Library.nobody after
        (classLike.kind.interfaces.mapM (Build.substituteClassLike options substitution))
        (named.interfaces.mapM (TypeTree.substitute scope options arguments))
        fun after => List.Forall₂ (MeansClassLike scope options context after) :=
    mapM (fun tree _ id means after coherent grows' => substituteClassLike coherent inScope
        ((grows.trans grows').substitutes substitutes) ((grows.trans grows').means means))
      (fun _ _ _ _ grows => grows.means) coherent spells.interfaces
  have superclassOf := spells.superclass?
  unfold NamedClass.substituteSupertypes
  generalize classLike.kind = kind at *
  cases kind with
  | «class» superclass? interfaces isAbstract =>
    refine inSuperclass.bind fun superclass? after coherent grows means => ?_
    refine (inInterfaces after coherent grows).bind fun interfaces _ coherent grows' means' => ?_
    exact .pure coherent ⟨rfl, Related.optional means fun _ _ => grows'.means, means'⟩
  | interface extended =>
    have none : named.superclass? = none := by
      cases found : named.superclass? with
      | none => rfl
      | some tree => simp [found, Kind.superclass?] at superclassOf
    rw [none, show Option.mapM _ Option.none = (pure Option.none : Traced _) from rfl, pure_bind]
    refine (inInterfaces state coherent (.refl _)).bind fun interfaces _ coherent _ means => ?_
    exact .pure coherent ⟨rfl, .none, means⟩
  | enum => cases isGeneric

theorem substituteMethod {method : Method} {named : NamedMethod}
    (coherent : state.library.Coherent scope options)
    (inScope : ∃ shape, scope context = some shape)
    (substitutes : state.library.Substitutes scope options base context substitution arguments)
    (spells : state.library.SpellsMethod scope options base method named) :
    Refines scope options Library.nobody state (Build.substituteMethod options substitution method)
      (named.substitute scope options arguments) fun after =>
        after.SpellsMethod scope options context := by
  unfold Build.substituteMethod NamedMethod.substitute
  refine (optionMapM (fun type tree means => substitute coherent inScope substitutes means)
    coherent spells.returnType?).bind fun returnType? after coherent grows returned => ?_
  have formal (named' : NamedFormal) (_ : named' ∈ named.formals) (formal : Formal)
      (spells : state.library.SpellsFormal scope options base formal named') (after' : BuildState)
      (coherent : after'.library.Coherent scope options)
      (grows' : after.library.Grows Library.nobody after'.library) :
      Refines scope options Library.nobody after'
        (do return { formal with type := ← Build.substitute options substitution formal.type })
        (do
          let tree ← named'.type.substitute scope options arguments
          return { named' with type := tree })
        fun after => after.SpellsFormal scope options context := by
    have grows := grows.trans grows'
    refine (substitute coherent inScope (grows.substitutes substitutes)
      (grows.means spells.type)).map fun type _ means => ⟨?_, means⟩
    rw [← spells.bare]
    rfl
  refine (mapM formal (fun _ _ _ _ grows spells => ⟨spells.bare, grows.means spells.type⟩) coherent
    spells.formals).bind fun formals after coherent grows' spellsFormals => ?_
  apply Refines.library
  refine .pure coherent ⟨?_, Related.optional returned fun _ _ => grows'.means, spellsFormals⟩
  rw [coherent.methodSignature_eq _ spellsFormals, spells.identifier, ← spells.bare]
  rfl

theorem substituteMethods {methods : List Method} {named : List NamedMethod}
    (coherent : state.library.Coherent scope options)
    (inScope : ∃ shape, scope context = some shape)
    (substitutes : state.library.Substitutes scope options base context substitution arguments)
    (spells : List.Forall₂ (state.library.SpellsMethod scope options base) methods named) :
    Refines scope options Library.nobody state
      (methods.mapM (Build.substituteMethod options substitution))
      (named.mapM (NamedMethod.substitute scope options arguments)) fun after =>
        List.Forall₂ (after.SpellsMethod scope options context) :=
  mapM (fun _ _ _ spells _ coherent grows =>
      substituteMethod coherent inScope (grows.substitutes substitutes) (grows.spellsMethod spells))
    (fun _ _ _ _ grows => grows.spellsMethod) coherent spells

theorem substituteAttribute {found : Attribute} {named : NamedAttribute}
    (coherent : state.library.Coherent scope options)
    (inScope : ∃ shape, scope context = some shape)
    (substitutes : state.library.Substitutes scope options base context substitution arguments)
    (spells : state.library.SpellsAttribute scope options base found named) :
    Refines scope options Library.nobody state
      (Build.substituteAttribute options substitution found)
      (named.substitute scope options arguments) fun after =>
        after.SpellsAttribute scope options context := by
  unfold Build.substituteAttribute NamedAttribute.substitute
  refine (substitute coherent inScope substitutes spells.type).map fun type _ means => ⟨?_, means⟩
  rw [← spells.bare]
  rfl

theorem substituteAttributes {attributes : List Attribute} {named : List NamedAttribute}
    (coherent : state.library.Coherent scope options)
    (inScope : ∃ shape, scope context = some shape)
    (substitutes : state.library.Substitutes scope options base context substitution arguments)
    (spells : List.Forall₂ (state.library.SpellsAttribute scope options base) attributes named) :
    Refines scope options Library.nobody state
      (attributes.mapM (Build.substituteAttribute options substitution))
      (named.mapM (NamedAttribute.substitute scope options arguments)) fun after =>
        List.Forall₂ (after.SpellsAttribute scope options context) :=
  mapM (fun _ _ _ spells _ coherent grows =>
      substituteAttribute coherent inScope (grows.substitutes substitutes)
        (grows.spellsAttribute spells))
    (fun _ _ _ _ grows => grows.spellsAttribute) coherent spells

end Refines

/-! ## Class-likes -/

/-- The named class-like that an instantiation spells. -/
def Scope.instanceOf (scope : Scope) (options : Options) (content : String → NamedClass)
    (name : String) (trees : List TypeTree) : Traced NamedClass :=
  (content name).substitute scope options ((scope.parametersOf name).zip trees)

/-- An instantiation with what it takes over from its base. -/
def ClassLike.filled (classLike baseClass : ClassLike) (kind : Kind) (methods : List Method)
    (attributes : List Attribute) : ClassLike :=
  { classLike with
    kind := kind
    methods := methods
    attributes := attributes
    layout := baseClass.layout
    specialization? := classLike.specialization?.map ({ · with isMaterialized := true }) }

section Filled

variable {classLike later baseClass : ClassLike} {kind : Kind} {methods : List Method}
  {attributes : List Attribute}

/-- An instantiation that is filled in keeps what was asked for. -/
theorem ClassLike.Keeps.filled {specialization : Specialization}
    (specialized : classLike.specialization? = some specialization)
    (keyword : kind.keyword = classLike.kind.keyword) :
    classLike.Keeps (classLike.filled baseClass kind methods attributes) :=
  { ClassLike.Keeps.refl classLike with
    keyword := keyword
    specialization? := by
      rw [ClassLike.filled, specialized]
      rfl }

namespace Library

variable {library : Library} {specialization : Specialization} {trees : List TypeTree}
  (instantiates : library.Instantiates scope options classLike specialization baseClass trees)
  (keeps : classLike.Keeps later)
  (sameKind : kind.withoutSupertypes = baseClass.kind.withoutSupertypes)

include instantiates keeps sameKind

/-- An instantiation is of the kind of its base. -/
theorem Instantiates.keyword_eq : kind.keyword = later.kind.keyword := by
  have same := congrArg Kind.keyword sameKind
  rw [Kind.keyword_withoutSupertypes, Kind.keyword_withoutSupertypes] at same
  rw [keeps.keyword, instantiates.keyword, ← same]

/-- An instantiation that is filled in is its base, up to what mentions types. -/
theorem Instantiates.bare_filled :
    (later.filled baseClass kind methods attributes).bare = baseClass.bare := by
  simp only [ClassLike.filled, ClassLike.bare, sameKind, keeps.identifier, instantiates.identifier,
    keeps.visibility, instantiates.visibility, keeps.isFinal, instantiates.isFinal,
    keeps.prototype?, instantiates.prototype?]

end Library

end Filled

namespace Library

/-- The class-like is the instantiation, filled in. -/
structure FilledIn (library : Library) (scope : Scope) (options : Options)
    (content : String → NamedClass) (id : ClassId) (name : String) (trees : List TypeTree) :
    Prop where
  isInstance : library.IsInstance id (.applied name trees 0)
  isMaterialized : ∃ specialization, library.specialization? id = some specialization
    ∧ specialization.isMaterialized = true
  spells : ∃ context shape, scope context = some shape
    ∧ (TypeTree.applied name trees 0).WellFormed scope options context
    ∧ library.Spells scope options context id (scope.instanceOf options content name trees).value

/-- An instantiation has an argument for each generic parameter of its base. -/
theorem Instantiates.length_arguments {library : Library}
    (declares : library.Declares scope) {classLike baseClass : ClassLike}
    {specialization : Specialization} {trees : List TypeTree}
    (instantiates : library.Instantiates scope options classLike specialization baseClass trees) :
    baseClass.genericParameters.length = specialization.arguments.length := by
  obtain ⟨_, _, _, wf⟩ := instantiates.wellFormed
  rw [TypeTree.WellFormed, declares.scope_identifier instantiates.declared] at wf
  obtain ⟨⟨shape, same, fits⟩, _⟩ := wf
  cases same
  rw [(denotesAll_iff.1 instantiates.denotes).length_eq, ← fits, shapeOf, List.length_map]

/-- The arguments of an instantiation mean their trees wherever it may stand. -/
theorem Instantiates.means {library : Library} {classLike baseClass : ClassLike}
    {specialization : Specialization} {trees : List TypeTree}
    (instantiates : library.Instantiates scope options classLike specialization baseClass trees)
    (wf : (TypeTree.applied baseClass.identifier trees 0).WellFormed scope options context) :
    List.Forall₂ (library.Means scope options context) specialization.arguments trees := by
  rw [TypeTree.WellFormed] at wf
  exact Related.imp (denotesAll_iff.1 instantiates.denotes) fun tree mem _ denotes =>
    ⟨denotes, wf.2.2.2.2 tree mem⟩

/-- Enums are not instantiated. -/
theorem Instantiates.isEnum_eq_false {library : Library}
    (declares : library.Declares scope) {classLike baseClass : ClassLike}
    {specialization : Specialization} {trees : List TypeTree}
    (instantiates : library.Instantiates scope options classLike specialization baseClass trees) :
    baseClass.kind.isEnum = false := by
  cases kind : baseClass.kind with
  | «class» | interface => rfl
  | enum =>
    obtain ⟨_, _, _, wf⟩ := instantiates.wellFormed
    rw [TypeTree.WellFormed, declares.scope_identifier instantiates.declared] at wf
    obtain ⟨⟨shape, same, fits⟩, _, nonempty, _⟩ := wf
    cases same
    have bare := declares.enum_parameters (declares.scope_identifier instantiates.declared)
      (by simp [shapeOf, kind, Kind.keyword])
    exact absurd (List.length_eq_zero_iff.1 (by rw [← fits, bare, List.length_nil])) nonempty

/-- Looking up a generic parameter finds the argument for the first parameter
of its name. -/
theorem lookup_zip {library : Library} {parameters : List ParameterId} {types : List Ty}
    {trees : List TypeTree} {r : Ty → TypeTree → Prop} {name : String} {parameter : ParameterId}
    (exist : ∀ parameter ∈ parameters, ∃ found, library.parameter? parameter = some found)
    (fits : parameters.length = types.length) (related : List.Forall₂ r types trees)
    (named : parameters.find? (fun id =>
      (library.parameter? id).map (·.identifier) == some name) = some parameter) :
    ∃ type tree, (parameters.zip types).lookup parameter = some type
      ∧ ((parameters.map library.parameterName).zip trees).lookup name = some tree
      ∧ r type tree := by
  induction related generalizing parameters with
  | nil =>
    obtain rfl := List.length_eq_zero_iff.1 fits
    simp at named
  | @cons type tree types trees first later ih =>
    cases parameters with
    | nil => simp at fits
    | cons head parameters =>
      obtain ⟨found, known⟩ := exist head (by simp)
      have headName : library.parameterName head = found.identifier := by
        simp [parameterName, known]
      by_cases bears : found.identifier = name
      · have head_eq : head = parameter := by simpa [known, bears] using named
        subst head_eq
        exact ⟨type, tree, by simp, by simp [headName, bears], first⟩
      · rw [List.find?_cons_of_neg (by simp [known, bears])] at named
        have away : parameter ≠ head := by
          rintro rfl
          have := List.find?_some named
          simp [known, bears] at this
        obtain ⟨type', tree', looked, looked', related⟩ :=
          ih (fun parameter mem => exist parameter (by simp [mem])) (by simpa using fits) named
        refine ⟨type', tree', ?_, ?_, related⟩
        · rw [List.zip_cons_cons, List.lookup_cons, beq_false_of_ne away]
          exact looked
        · rw [List.map_cons, List.zip_cons_cons, List.lookup_cons, headName,
            beq_false_of_ne (Ne.symm bears)]
          exact looked'

/-- The arguments of an instantiation take the place of the generic parameters
of its base. -/
theorem Coherent.substitutes {library : Library} (coherent : library.Coherent scope options)
    {id : ClassId} {baseClass : ClassLike} {types : List Ty} {trees : List TypeTree}
    (declared : library.IsDeclared id baseClass)
    (fits : baseClass.genericParameters.length = types.length)
    (means : List.Forall₂ (library.Means scope options context) types trees) :
    library.Substitutes scope options baseClass.identifier context
      (baseClass.genericParameters.zip types)
      ((scope.parametersOf baseClass.identifier).zip trees) := by
  intro id' name parameter isNamed found
  obtain ⟨classLike, declared', same⟩ := isNamed
  cases coherent.identifier_inj declared' declared same
  cases declared'.1.symm.trans declared.1
  simp only [parameterNamed?, declared.1, Option.bind_eq_bind, Option.bind_some] at found
  rw [coherent.parametersOf_eq declared]
  refine lookup_zip (fun parameter mem => ?_) fits means found
  obtain ⟨found, known, _⟩ := coherent.owned declared mem
  exact ⟨found, known⟩

end Library

namespace Refines

variable {state : BuildState}

/-- Filling in an instantiation follows the substitution in its base. -/
theorem materialize {id : ClassId} {name : String} {trees : List TypeTree}
    {content : String → NamedClass} (coherent : state.library.Coherent scope options)
    (isInstance : state.library.IsInstance id (.applied name trees 0))
    (bases : ∀ id name, state.library.IsNamed id name →
      state.library.Spells scope options name id (content name)) :
    Refines scope options (· = id) state (Build.materialize options id)
      (scope.instanceOf options content name trees) fun after _ _ =>
        after.FilledIn scope options content id name trees := by
  obtain ⟨context, shape, inScope, wf⟩ := coherent.isType isInstance
  obtain ⟨_, classLike, specialization, baseClass, same, known, rfl, specialized, instantiates⟩ :=
    coherent.of_denotes_applied isInstance.1
  cases same
  obtain ⟨baseClass', known', spellsBase⟩ :=
    bases _ _ ⟨baseClass, instantiates.declared, rfl⟩
  cases instantiates.declared.1.symm.trans known'
  have means : List.Forall₂ (state.library.Means scope options context) specialization.arguments
      trees := instantiates.means wf
  have substitutes := coherent.substitutes instantiates.declared
    (instantiates.length_arguments coherent.toDeclares) means
  unfold Build.materialize Scope.instanceOf NamedClass.substitute
  apply Refines.classLike known
  rw [specialized]
  apply Refines.classLike known'
  dsimp only
  refine (substituteSupertypes coherent ⟨shape, inScope⟩ substitutes spellsBase
    (instantiates.isEnum_eq_false coherent.toDeclares)).bind_quiet
      fun kind after coherent grows supertypes => ?_
  refine (substituteMethods coherent ⟨shape, inScope⟩ (grows.substitutes substitutes)
    (spellsBase.methods.imp fun _ _ => grows.spellsMethod)).bind_quiet
      fun methods after coherent grows' spellsMethods => ?_
  have grows := grows.trans grows'
  refine (substituteAttributes coherent ⟨shape, inScope⟩ (grows.substitutes substitutes)
    (spellsBase.attributes.imp fun _ _ => grows.spellsAttribute)).bind_quiet
      fun attributes after coherent grows'' spellsAttributes => ?_
  obtain ⟨later, known'', keeps, _⟩ := (grows.trans grows'').classLike known
  obtain ⟨specialization', specialized', _⟩ := keeps.exists_specialization specialized
  have keeps' : later.Keeps (later.filled baseClass kind methods attributes) :=
    .filled specialized' (instantiates.keyword_eq keeps supertypes.1)
  have parameters : later.genericParameters = [] :=
    keeps.genericParameters.trans instantiates.genericParameters
  have revises := @Library.revises_modify _ _ _ (·.filled baseClass kind methods attributes)
    known'' keeps' rfl
  refine modify coherent known'' keeps' rfl ?_
  exact {
    isInstance := revises.isInstance ((grows.trans grows'').isInstance isInstance)
    isMaterialized := by
      refine ⟨{ specialization' with isMaterialized := true }, ?_, rfl⟩
      rw [Library.specialization?, Library.classLike?_modify, if_pos rfl, known'']
      simp [specialized']
    spells := by
      refine ⟨context, shape, inScope, wf, .modify known'' keeps' rfl ?_⟩
      exact {
        bare := (instantiates.bare_filled keeps supertypes.1).trans spellsBase.bare
        superclass? := Related.optional supertypes.2.1 fun _ _ => (grows'.trans grows'').means
        interfaces := supertypes.2.2.imp fun _ _ => (grows'.trans grows'').means
        parameters := parameters ▸ .nil
        methods := spellsMethods.imp fun _ _ => grows''.spellsMethod
        attributes := spellsAttributes } }

end Refines

end ClassModel
