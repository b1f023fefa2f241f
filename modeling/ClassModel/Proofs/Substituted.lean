import ClassModel.Proofs.Canonical

/-!
# ClassModel.Proofs.Substituted

Filling in an instantiation is substituting in its base. `Library.substituted`
substitutes in a type without creating anything: it finds the instantiations
that it needs in the library. In a compiled library every instantiation is its
base with the substituted types (`isSubstituted_of_compile`).
-/

namespace ClassModel

namespace Library

/-! ## Substitution without creation -/

section

variable (library : Library) (options : Options) (substitution : Substitution)

/-- The instantiations of the class-like with the arguments. -/
def instancesOf (base : ClassId) (arguments : List Ty) : List ClassId :=
  library.classLikes.ids.filter fun id =>
    (library.specialization? id).any fun specialization =>
      specialization.base = base ∧ specialization.arguments = arguments

/-- The instantiation of the class-like with the arguments, if there is exactly
one. -/
def instanceOf? (base : ClassId) (arguments : List Ty) : Option ClassId :=
  match library.instancesOf base arguments with
  | [id] => some id
  | _ => none

/-- Substitutes in a type, given how to substitute in an argument of its
instantiation. An instantiation that nests too deeply gives way to its base. -/
def substitutedFrom? (inArgument : Ty → Option Ty) : Ty → Option Ty
  | .primitive type => some (.primitive type)
  | .parameter id => some ((substitution.lookup id).getD (.parameter id))
  | .classLike id =>
    match library.specialization? id with
    | none => some (.classLike id)
    | some specialization => do
      let arguments ← specialization.arguments.mapM inArgument
      if arguments = specialization.arguments then some (.classLike id)
      else if options.maxSpecializationDepth < library.depthOfApplication arguments then
        some (.classLike specialization.base)
      else (library.instanceOf? specialization.base arguments).map .classLike
  | .arrayOf item dimension => (substitutedFrom? inArgument item).map (·.array dimension)

/-- Substitutes in a type whose instantiations nest at most as deeply as
given. -/
def substitutedWithin? : Nat → Ty → Option Ty
  | 0, type => library.substitutedFrom? options substitution (fun _ => none) type
  | depth + 1, type => library.substitutedFrom? options substitution (substitutedWithin? depth) type

/-- Substitutes in a type, if the instantiations that this needs are there. -/
def substituted? (type : Ty) : Option Ty :=
  library.substitutedWithin? options substitution (library.depthOf type) type

@[simp] theorem substitutedFrom?_array (inArgument : Ty → Option Ty) (type : Ty) (n : Nat) :
    library.substitutedFrom? options substitution inArgument (type.array n)
      = (library.substitutedFrom? options substitution inArgument type).map (·.array n) :=
  type.apply_array (fun n => Option.map fun item : Ty => item.array n) (fun _ _ => rfl)
    (congrFun Option.map_id)
    (fun answer m n => by simp only [Option.map_map, Function.comp_def, Ty.array_array]) n

@[simp] theorem substitutedWithin?_array (depth : Nat) (type : Ty) (n : Nat) :
    library.substitutedWithin? options substitution depth (type.array n)
      = (library.substitutedWithin? options substitution depth type).map (·.array n) := by
  cases depth <;> exact substitutedFrom?_array ..

theorem substituted?_array (type : Ty) (n : Nat) :
    library.substituted? options substitution (type.array n)
      = (library.substituted? options substitution type).map (·.array n) := by
  rw [substituted?, depthOf_array, substitutedWithin?_array, substituted?]

end

/-! ## Substituted class-likes -/

/-- The member has the substituted type, and is otherwise the same. -/
structure IsSubstitutedFormal (substituted? : Ty → Option Ty) (base formal : Formal) : Prop where
  type : substituted? base.type = some formal.type
  rest : formal = { base with type := formal.type }

structure IsSubstitutedAttribute (substituted? : Ty → Option Ty) (base found : Attribute) :
    Prop where
  type : substituted? base.type = some found.type
  rest : found = { base with type := found.type }

/-- The method has the substituted types and the signature that goes with them,
and is otherwise the same. -/
structure IsSubstitutedMethod (library : Library) (substituted? : Ty → Option Ty)
    (base method : Method) : Prop where
  returnType? :
    Option.Rel (fun type type' => substituted? type = some type') base.returnType?
      method.returnType?
  formals : List.Forall₂ (IsSubstitutedFormal substituted?) base.formals method.formals
  signature : method.signature = library.methodSignature method.identifier method.formals
  rest : method = { base with
    returnType? := method.returnType?
    formals := method.formals
    signature := method.signature }

/-- The class-like has the substituted supertypes and members, and otherwise
what its base has. -/
structure IsSubstitutedClass (library : Library) (substituted? : Ty → Option Ty)
    (base classLike : ClassLike) : Prop where
  superclass? : Option.Rel (fun id id' => substituted? (.classLike id) = some (.classLike id'))
    base.kind.superclass? classLike.kind.superclass?
  interfaces : List.Forall₂ (fun id id' => substituted? (.classLike id) = some (.classLike id'))
    base.kind.interfaces classLike.kind.interfaces
  attributes :
    List.Forall₂ (IsSubstitutedAttribute substituted?) base.attributes classLike.attributes
  methods :
    List.Forall₂ (library.IsSubstitutedMethod substituted?) base.methods classLike.methods
  rest : classLike.bare = base.bare

/-! ## Following the substitution by names -/

variable {library : Library} {scope : Scope} {options : Options} {base context : String}

namespace Coherent

/-- Equal trees are denoted by equal types. -/
theorem denotesAll_inj (coherent : library.Coherent scope options) {types types' : List Ty}
    {trees : List TypeTree} (all : List.Forall₂ library.Denotes types trees)
    (all' : List.Forall₂ library.Denotes types' trees) : types = types' := by
  have same : List.Forall₂ (· = ·) types types' :=
    Related.join all all' fun _ _ _ _ => coherent.denotes_inj
  rwa [List.forall₂_eq_eq_eq] at same

/-- An instantiation is found by its base and its arguments. -/
theorem instanceOf?_eq (coherent : library.Coherent scope options) {id baseId : ClassId}
    {name : String} {arguments : List Ty} {trees : List TypeTree}
    (isInstance : library.IsInstance id (.applied name trees 0))
    (isNamed : library.IsNamed baseId name)
    (all : List.Forall₂ library.Denotes arguments trees) :
    library.instanceOf? baseId arguments = some id := by
  obtain ⟨_, classLike, specialization, baseClass, same, known, named, specialized, instantiates⟩ :=
    coherent.of_denotes_applied isInstance.1
  cases same
  obtain rfl : specialization.base = baseId :=
    coherent.isNamed_inj ⟨baseClass, instantiates.declared, named⟩ isNamed
  obtain rfl : specialization.arguments = arguments :=
    coherent.denotesAll_inj (denotesAll_iff.1 instantiates.denotes) all
  have found : library.specialization? id = some specialization := by
    rw [specialization?, known, Option.bind_some, specialized]
  have only : library.instancesOf specialization.base specialization.arguments = [id] := by
    refine List.perm_singleton.1 ((List.perm_ext_iff_of_nodup
      ((Arena.nodup_ids _).filter _) (List.nodup_singleton _)).2 fun other => ?_)
    rw [List.mem_filter, List.mem_singleton]
    constructor
    · rintro ⟨_, fits⟩
      obtain ⟨specialization', found', fits⟩ := (Option.any_eq_true ..).1 fits
      rw [decide_eq_true_iff] at fits
      exact coherent.isCanonical.unique found' found fits.1 fits.2
    · rintro rfl
      refine ⟨?_, by simp [found]⟩
      rw [Arena.mem_ids, ← Arena.isSome_get?]
      exact Option.isSome_iff_exists.2 ⟨classLike, known⟩
  rw [instanceOf?, only]

section Within

variable {substitution : Substitution} {arguments : List (String × TypeTree)}

/-- Substituting in the arguments of an instantiation gives what it gives by
names, if all that is asked for is there. -/
theorem substitutedArguments?_eq (coherent : library.Coherent scope options) {id : ClassId}
    {inArgument : Ty → Option Ty} {classLike : ClassLike} {specialization : Specialization}
    {baseClass : ClassLike} {trees : List TypeTree} {answers : List Ty}
    (known : library.classLike? id = some classLike)
    (specialized : classLike.specialization? = some specialization)
    (instantiates : library.Instantiates scope options classLike specialization baseClass trees)
    (wf : (TypeTree.applied baseClass.identifier trees 0).WellFormed scope options base)
    (inArguments : specialization.arguments.mapM inArgument = some answers)
    (means : List.Forall₂ (library.Means scope options context) answers
      (TypeTree.substituteAll scope options arguments trees).value)
    (served : ∀ inner ∈ requests (scope.instantiate options baseClass.identifier
      (TypeTree.substituteAll scope options arguments trees).value
      (TypeTree.applied baseClass.identifier trees 0).signature).events, library.Has inner) :
    ∃ answer, library.substitutedFrom? options substitution inArgument (.classLike id) = some answer
      ∧ library.Means scope options context answer (scope.instantiate options baseClass.identifier
        (TypeTree.substituteAll scope options arguments trees).value
        (TypeTree.applied baseClass.identifier trees 0).signature).value := by
  have found : library.specialization? id = some specialization := by
    rw [specialization?, known, Option.bind_some, specialized]
  have isNamed : library.IsNamed specialization.base baseClass.identifier :=
    ⟨baseClass, instantiates.declared, rfl⟩
  have isInstance := instantiates.isInstance known specialized
  have length :
      (TypeTree.substituteAll scope options arguments trees).value.length = trees.length := by
    rw [TypeTree.substituteAll_eq_mapM, Traced.value_mapM, List.length_map]
  generalize (TypeTree.substituteAll scope options arguments trees).value = trees' at *
  rw [TypeTree.WellFormed] at wf
  obtain ⟨⟨shape, inScope, fits⟩, notPrimitive, nonempty, _⟩ := wf
  have all := denotesAll_iff.1 instantiates.denotes
  have denotes := means.imp fun _ _ means => means.denotes
  have nonempty' : trees' ≠ [] := by
    rw [← List.length_pos_iff, length, List.length_pos_iff]
    exact nonempty
  have generic : baseClass.genericParameters.length = trees'.length := by
    rw [instantiates.length_arguments coherent.toDeclares, all.length_eq, length]
  have wellFormed (within :
      (TypeTree.applied baseClass.identifier trees' 0).depth ≤ options.maxSpecializationDepth) :
      (TypeTree.applied baseClass.identifier trees' 0).WellFormed scope options context :=
    coherent.wellFormed_applied instantiates.declared rfl notPrimitive means generic
      nonempty' within
  rw [substitutedFrom?, found]
  simp only [inArguments, Option.bind_eq_bind, Option.bind_some]
  by_cases same : answers = specialization.arguments
  · -- the same arguments spell the same trees
    rw [← same] at all
    obtain rfl : trees' = trees := Related.unique denotes all fun _ _ _ _ first first' =>
      first.unique coherent.toDeclares first'
    have wf := wellFormed (coherent.depth_le_of_isInstance isInstance)
    rw [if_pos same, Scope.instantiate_of_wellFormed wf]
    exact ⟨_, rfl, isInstance.1, wf⟩
  · rw [if_neg same, coherent.depth_applied baseClass.identifier denotes]
    by_cases deep :
      options.maxSpecializationDepth < (TypeTree.applied baseClass.identifier trees' 0).depth
    · rw [if_pos deep, Scope.instantiate_of_fits ⟨shape, inScope, by rw [fits, length]⟩ nonempty',
        if_pos deep, Traced.value_bind, Traced.value_pure]
      exact ⟨_, rfl, coherent.means_declared isNamed notPrimitive⟩
    · have wf := wellFormed (Nat.not_lt.1 deep)
      rw [if_neg deep]
      rw [Scope.instantiate_of_wellFormed wf] at served ⊢
      obtain ⟨id', isInstance'⟩ := served _ (show _ ∈ [_] from List.mem_singleton_self _)
      rw [coherent.instanceOf?_eq isInstance' isNamed denotes]
      exact ⟨_, rfl, isInstance'.1, wf⟩

/-- Substituting in an instantiation asks for what its arguments ask for, and
then for the instantiation of the answers. -/
theorem requests_substitute_applied (scope : Scope) (options : Options)
    (arguments : List (String × TypeTree)) (name : String) (trees : List TypeTree) (n : Nat) :
    requests ((TypeTree.applied name trees n).substitute scope options arguments).events
      = (trees.flatMap fun tree => requests (tree.substitute scope options arguments).events)
        ++ requests (scope.instantiate options name
          (TypeTree.substituteAll scope options arguments trees).value
          (TypeTree.applied name trees 0).signature).events := by
  rw [TypeTree.substitute_applied, Traced.events_bind, Traced.events_bind, Traced.events_pure,
    List.append_nil, requests_append]
  congr 1
  rw [TypeTree.substituteAll_eq_mapM, Traced.events_mapM, requests_flatMap]

/-- Substituting in a type gives what it gives by names, if all that is asked
for is there. -/
theorem substitutedWithin?_eq (coherent : library.Coherent scope options) {bound : Nat} {type : Ty}
    {tree : TypeTree}
    (substitutes : library.Substitutes scope options base context substitution arguments)
    (means : library.Means scope options base type tree) (within : tree.depth ≤ bound)
    (served : ∀ inner ∈ requests (tree.substitute scope options arguments).events,
      library.Has inner) :
    ∃ answer, library.substitutedWithin? options substitution bound type = some answer
      ∧ library.Means scope options context answer
        (tree.substitute scope options arguments).value := by
  have denotes := means.denotes
  have wf := means.wellFormed
  induction tree generalizing type bound with
  | primitive primitive n =>
    obtain rfl := denotes
    refine ⟨(Ty.primitive primitive).array n, ?_, rfl, ?_⟩
    · cases bound <;> simp [substitutedWithin?, substitutedFrom?]
    · rw [TypeTree.substitute, Traced.value_pure, TypeTree.WellFormed]
      trivial
  | declared name n =>
    obtain ⟨id, classLike, rfl, declared, rfl⟩ := denotes
    have plain : library.specialization? id = none := by
      rw [specialization?, declared.1, Option.bind_some, declared.2]
    refine ⟨(Ty.classLike id).array n, ?_, ⟨id, classLike, rfl, declared, rfl⟩, ?_⟩
    · cases bound <;> simp [substitutedWithin?, substitutedFrom?, plain]
    · rw [TypeTree.WellFormed] at wf
      rw [TypeTree.substitute, Traced.value_pure, TypeTree.WellFormed]
      exact wf
  | parameter owner name n =>
    obtain ⟨parameter, id, classLike, rfl, declared, rfl, found⟩ := denotes
    rw [TypeTree.WellFormed] at wf
    obtain ⟨type, tree, looked, looked', means⟩ :=
      substitutes id name parameter ⟨classLike, declared, wf.1⟩ found
    refine ⟨type.array n, ?_, ?_⟩
    · cases bound <;> simp [substitutedWithin?, substitutedFrom?, looked]
    · rw [TypeTree.substitute, looked']
      exact means.array n
  | applied name trees n ih =>
    cases bound with
    | zero =>
      rw [TypeTree.depth] at within
      omega
    | succ bound =>
      obtain ⟨id, classLike, specialization, baseClass, rfl, known, rfl, specialized,
        instantiates⟩ := coherent.of_denotes_applied denotes
      have wf' : (TypeTree.applied baseClass.identifier trees 0).WellFormed scope options base := by
        rw [TypeTree.WellFormed] at wf ⊢
        simpa only [TypeTree.depth] using wf
      rw [requests_substitute_applied, List.forall_mem_append] at served
      obtain ⟨servedArguments, served⟩ := served
      obtain ⟨answers, inArguments, all⟩ := Related.exists_mapM
        (denotesAll_iff.1 instantiates.denotes) fun tree mem type denotes => by
          rw [TypeTree.WellFormed] at wf
          exact ih tree mem ⟨denotes, wf.2.2.2.2 tree mem⟩ (TypeTree.depth_argument_le mem within)
            (fun inner asked => servedArguments inner (List.mem_flatMap.2 ⟨tree, mem, asked⟩))
            denotes (wf.2.2.2.2 tree mem)
      have means : List.Forall₂ (library.Means scope options context) answers
          (TypeTree.substituteAll scope options arguments trees).value := by
        rw [TypeTree.substituteAll_eq_mapM, Traced.value_mapM, List.forall₂_map_right_iff]
        exact all
      obtain ⟨answer, computed, means⟩ := coherent.substitutedArguments?_eq known specialized
        instantiates wf' inArguments means served
      refine ⟨answer.array n, ?_, ?_⟩
      · rw [substitutedWithin?_array]
        exact congrArg (Option.map _) computed
      · rw [TypeTree.substitute_applied]
        exact means.array n

theorem substituted?_eq (coherent : library.Coherent scope options) {type : Ty} {tree : TypeTree}
    (substitutes : library.Substitutes scope options base context substitution arguments)
    (means : library.Means scope options base type tree)
    (served : ∀ inner ∈ requests (tree.substitute scope options arguments).events,
      library.Has inner) :
    ∃ answer, library.substituted? options substitution type = some answer
      ∧ library.Means scope options context answer
        (tree.substitute scope options arguments).value :=
  coherent.substitutedWithin?_eq substitutes means
    (Nat.le_of_eq (coherent.depthOf_eq means.denotes).symm) served

/-- The substituted type is the one that spells the substituted tree. -/
theorem substituted?_eq_some (coherent : library.Coherent scope options) {type type' : Ty}
    {tree : TypeTree}
    (substitutes : library.Substitutes scope options base context substitution arguments)
    (means : library.Means scope options base type tree)
    (means' :
      library.Means scope options context type' (tree.substitute scope options arguments).value)
    (served : ∀ inner ∈ requests (tree.substitute scope options arguments).events,
      library.Has inner) :
    library.substituted? options substitution type = some type' := by
  obtain ⟨answer, computed, means⟩ := coherent.substituted?_eq substitutes means served
  rw [computed, coherent.denotes_inj means.denotes means'.denotes]

end Within

end Coherent

end Library

/-! ## Members -/

/-- The types of a method. -/
def NamedMethod.types (named : NamedMethod) : List TypeTree :=
  named.returnType?.toList ++ named.formals.map (·.type)

/-- The types of the supertypes and members of a class-like. -/
def NamedClass.types (named : NamedClass) : List TypeTree :=
  named.superclass?.toList ++ named.interfaces ++ named.methods.flatMap NamedMethod.types
    ++ named.attributes.map (·.type)

section Substitute

variable (scope : Scope) (options : Options) (arguments : List (String × TypeTree))

theorem NamedMethod.types_substitute (named : NamedMethod) :
    (named.substitute scope options arguments).value.types
      = named.types.map fun tree => (tree.substitute scope options arguments).value := by
  simp [substitute, types, Option.toList_map]

/-- The types of a substituted class-like are the substituted types. -/
theorem NamedClass.types_substitute (named : NamedClass) :
    (named.substitute scope options arguments).value.types
      = named.types.map fun tree => (tree.substitute scope options arguments).value := by
  simp [substitute, substituteSupertypes, types, NamedMethod.types_substitute,
    NamedAttribute.substitute, List.map_flatMap, Option.toList_map, List.flatMap_map]

theorem NamedMethod.events_substitute (named : NamedMethod) :
    (named.substitute scope options arguments).events
      = named.types.flatMap fun tree => (tree.substitute scope options arguments).events := by
  simp [substitute, types, List.flatMap_map]

/-- Substituting in a class-like is substituting in all its types. -/
theorem NamedClass.events_substitute (named : NamedClass) :
    (named.substitute scope options arguments).events
      = named.types.flatMap fun tree => (tree.substitute scope options arguments).events := by
  simp [substitute, substituteSupertypes, types, NamedMethod.events_substitute,
    NamedAttribute.substitute, List.flatMap_map, List.flatMap_assoc]

end Substitute

namespace Library

variable {library : Library} {scope : Scope} {options : Options} {base context : String}
  {substitution : Substitution} {arguments : List (String × TypeTree)}

/-- All that substituting in the tree asks for is there. -/
def Serves (library : Library) (scope : Scope) (options : Options)
    (arguments : List (String × TypeTree)) (tree : TypeTree) : Prop :=
  ∀ inner ∈ requests (tree.substitute scope options arguments).events, library.Has inner

namespace Coherent

section

variable (coherent : library.Coherent scope options)
  (substitutes : library.Substitutes scope options base context substitution arguments)
include coherent substitutes

/-- The method that spells the substituted one is the substituted method. -/
theorem isSubstitutedMethod {method method' : Method} {named : NamedMethod}
    (spells : library.SpellsMethod scope options base method named)
    (spells' : library.SpellsMethod scope options context method'
      (named.substitute scope options arguments).value)
    (serves : ∀ tree ∈ named.types, library.Serves scope options arguments tree) :
    library.IsSubstitutedMethod (library.substituted? options substitution) method method' where
  returnType? := by
    have returned := spells'.returnType?
    simp only [NamedMethod.substitute, Traced.value_bind, Traced.value_pure,
      Traced.value_optionMapM] at returned
    refine Related.optional_join spells.returnType? returned fun tree mem _ _ means means' => ?_
    exact coherent.substituted?_eq_some substitutes means means'
      (serves tree (List.mem_append_left _ (Option.mem_toList.2 mem)))
  formals := by
    have formals := spells'.formals
    simp only [NamedMethod.substitute, Traced.value_bind, Traced.value_pure, Traced.value_mapM,
      List.forall₂_map_right_iff] at formals
    refine Related.join spells.formals formals fun named' mem formal formal' spells spells' => ?_
    have bare : formal'.bare = formal.bare := spells'.bare.trans spells.bare.symm
    exact {
      type := coherent.substituted?_eq_some substitutes spells.type spells'.type
        (serves _ (List.mem_append_right _ (List.mem_map_of_mem mem)))
      rest := by
        simp only [Formal.bare, Formal.mk.injEq] at bare
        obtain ⟨identifier, _, isVariadic, stackPosition⟩ := bare
        rw [← identifier, ← isVariadic, ← stackPosition] }
  signature := by
    rw [coherent.methodSignature_eq _ spells'.formals, spells'.signature, spells'.identifier]
    rfl
  rest := by
    have bare := spells'.bare
    simp only [NamedMethod.substitute, Traced.value_bind, Traced.value_pure, ← spells.bare] at bare
    simp only [Method.bare, Method.mk.injEq] at bare
    obtain ⟨identifier, _, _, visibility, isAbstract, isStatic, isFinal, isVirtual, _,
      body?⟩ := bare
    rw [← identifier, ← visibility, ← isAbstract, ← isStatic, ← isFinal, ← isVirtual, ← body?]

theorem isSubstitutedAttribute {found found' : Attribute} {named : NamedAttribute}
    (spells : library.SpellsAttribute scope options base found named)
    (spells' : library.SpellsAttribute scope options context found'
      (named.substitute scope options arguments).value)
    (serves : library.Serves scope options arguments named.type) :
    IsSubstitutedAttribute (library.substituted? options substitution) found found' where
  type := coherent.substituted?_eq_some substitutes spells.type spells'.type serves
  rest := by
    have bare : found'.bare = found.bare := spells'.bare.trans spells.bare.symm
    simp only [Attribute.bare, Attribute.mk.injEq] at bare
    obtain ⟨identifier, _, visibility, isStatic, isFinal, isTransient, index⟩ := bare
    rw [← identifier, ← visibility, ← isStatic, ← isFinal, ← isTransient, ← index]

/-- The class-like that spells the substituted one is the substituted
class-like. -/
theorem isSubstitutedClass {id id' : ClassId} {classLike classLike' : ClassLike}
    {named : NamedClass} (spells : library.SpellsClass scope options base id classLike named)
    (spells' : library.SpellsClass scope options context id' classLike'
      (named.substitute scope options arguments).value)
    (serves : ∀ tree ∈ named.types, library.Serves scope options arguments tree) :
    library.IsSubstitutedClass (library.substituted? options substitution) classLike
      classLike' := by
  simp only [NamedClass.types, List.mem_append, Option.mem_toList] at serves
  have superclass := spells'.superclass?
  have interfaces := spells'.interfaces
  have methods := spells'.methods
  have attributes := spells'.attributes
  simp only [NamedClass.substitute, NamedClass.substituteSupertypes, Traced.value_bind,
    Traced.value_pure, Traced.value_mapM, Traced.value_optionMapM,
    List.forall₂_map_right_iff] at superclass interfaces methods attributes
  exact {
    superclass? := Related.optional_join spells.superclass? superclass
      fun tree mem _ _ means means' => coherent.substituted?_eq_some substitutes means means'
        (serves tree (.inl (.inl (.inl mem))))
    interfaces := Related.join spells.interfaces interfaces fun tree mem _ _ means means' =>
      coherent.substituted?_eq_some substitutes means means' (serves tree (.inl (.inl (.inr mem))))
    attributes := Related.join spells.attributes attributes fun named mem _ _ spells spells' =>
      coherent.isSubstitutedAttribute substitutes spells spells'
        (serves _ (.inr (List.mem_map_of_mem mem)))
    methods := Related.join spells.methods methods fun named mem _ _ spells spells' =>
      coherent.isSubstitutedMethod substitutes spells spells' fun tree mem' =>
        serves tree (.inl (.inr (List.mem_flatMap.2 ⟨named, mem, mem'⟩)))
    rest := spells'.bare.trans spells.bare.symm }

end

/-- An instantiation that is filled in is its base with the arguments in place
of the generic parameters. -/
theorem isSubstitutedClass_of_isComplete {content : String → NamedClass}
    (coherent : library.Coherent scope options) (realizes : library.Realizes scope options content)
    (complete : ∀ id tree, library.IsInstance id tree →
      library.IsComplete scope options content id) {id : ClassId} {classLike : ClassLike}
    {specialization : Specialization} (known : library.classLike? id = some classLike)
    (specialized : classLike.specialization? = some specialization) :
    ∃ baseClass, library.IsDeclared specialization.base baseClass
      ∧ specialization.isMaterialized = true
      ∧ specialization.arguments.length = baseClass.genericParameters.length
      ∧ library.IsSubstitutedClass (library.substituted? options
        (baseClass.genericParameters.zip specialization.arguments)) baseClass classLike := by
  obtain ⟨baseClass, trees, instantiates⟩ := coherent.instantiates known specialized
  have isInstance := instantiates.isInstance known specialized
  have isComplete := complete id _ isInstance
  have filledIn := isComplete.filledIn isInstance
  have length := instantiates.length_arguments coherent.toDeclares
  refine ⟨baseClass, instantiates.declared, ?_, length.symm, ?_⟩
  · obtain ⟨specialization', found, isMaterialized⟩ := filledIn.isMaterialized
    rw [specialization?, known, Option.bind_some, specialized] at found
    cases found
    exact isMaterialized
  · obtain ⟨context, shape, inScope, wf, classLike', known', spells'⟩ := filledIn.spells
    cases known.symm.trans known'
    obtain ⟨baseClass', known', spells⟩ := realizes _ _ ⟨baseClass, instantiates.declared, rfl⟩
    cases instantiates.declared.1.symm.trans known'
    refine coherent.isSubstitutedClass
      (coherent.substitutes instantiates.declared length (instantiates.means wf)) spells spells'
      fun tree mem inner asked => isComplete.served isInstance ?_
    rw [Scope.eventsOf, Scope.instanceOf, NamedClass.events_substitute, requests_flatMap]
    exact List.mem_flatMap.2 ⟨tree, mem, asked⟩

end Coherent

/-! ## Marks -/

namespace Marked

variable {marks : ClassId → Nat → Bool} {before after : Library}

theorem substituted? (h : Marked marks before after) (options : Options)
    (substitution : Substitution) :
    after.substituted? options substitution = before.substituted? options substitution := by
  have instanceOf? : after.instanceOf? = before.instanceOf? := by
    funext base arguments
    simp only [Library.instanceOf?, instancesOf, h.ids, h.specialization?]
  have substitutedFrom? : after.substitutedFrom? options substitution
      = before.substitutedFrom? options substitution := by
    funext inArgument type
    induction type with
    | primitive | parameter => rfl
    | classLike id =>
      simp only [Library.substitutedFrom?, h.specialization?, depthOfApplication, h.depthOf,
        instanceOf?]
      rfl
    | arrayOf item n ih => rw [Library.substitutedFrom?, Library.substitutedFrom?, ih]
  have within (bound : Nat) : after.substitutedWithin? options substitution bound
      = before.substitutedWithin? options substitution bound := by
    induction bound with
    | zero =>
      funext type
      rw [substitutedWithin?, substitutedWithin?, substitutedFrom?]
    | succ bound ih =>
      funext type
      rw [substitutedWithin?, substitutedWithin?, substitutedFrom?, ih]
  funext type
  rw [Library.substituted?, Library.substituted?, within, h.depthOf]

/-- A substituted method stays so when it is marked as the one of the base. -/
theorem isSubstitutedMethod (h : Marked marks before after) {answer : Ty → Option Ty}
    {base method : Method} {isMarked isMarked' : Bool}
    (same : (base.isVirtual || isMarked') = (base.isVirtual || isMarked))
    (substituted : before.IsSubstitutedMethod answer base method) :
    after.IsSubstitutedMethod answer (base.mark isMarked) (method.mark isMarked') where
  returnType? := substituted.returnType?
  formals := substituted.formals
  signature := by
    rw [methodSignature, h.signatureOf]
    exact substituted.signature
  rest := by
    refine (congrArg (Method.mark isMarked') substituted.rest).trans ?_
    simp only [Method.mark, same]

/-- A substituted class-like stays so when its methods are marked as those of
the base. -/
theorem isSubstitutedClass (h : Marked marks before after) {answer : Ty → Option Ty}
    {base classLike : ClassLike} {marked marked' : Nat → Bool}
    (same : ∀ index method, base.methods[index]? = some method →
      (method.isVirtual || marked' index) = (method.isVirtual || marked index))
    (substituted : before.IsSubstitutedClass answer base classLike) :
    after.IsSubstitutedClass answer (base.mark marked) (classLike.mark marked') where
  superclass? := substituted.superclass?
  interfaces := substituted.interfaces
  attributes := substituted.attributes
  methods := Related.mapIdx substituted.methods fun index method _ own =>
    h.isSubstitutedMethod (same index method own)
  rest := substituted.rest

end Marked

end Library

/-- In every library that a compilation returns, an instantiation is filled in,
and is its base with the arguments in place of the generic parameters. -/
theorem isSubstituted_of_compile {declarations : List Declaration} {options : Options}
    {budget : Nat} {library : Library}
    (returned : (compile declarations options budget).result = .ok library) {id : ClassId}
    {classLike : ClassLike} {specialization : Specialization}
    (known : library.classLike? id = some classLike)
    (specialized : classLike.specialization? = some specialization) :
    ∃ base, library.IsDeclared specialization.base base
      ∧ specialization.isMaterialized = true
      ∧ specialization.arguments.length = base.genericParameters.length
      ∧ library.IsSubstitutedClass (library.substituted? options
        (base.genericParameters.zip specialization.arguments)) base classLike := by
  obtain ⟨names, before, compiled, marked⟩ := exists_compiled returned
  rw [marked.classLike?, Option.map_eq_some_iff] at known
  obtain ⟨unmarked, known, rfl⟩ := known
  obtain ⟨base, declared, isMaterialized, length, substituted⟩ :=
    compiled.coherent.isSubstitutedClass_of_isComplete compiled.realizes
      (fun _ _ => compiled.complete) known specialized
  refine ⟨base.mark (before.marks specialization.base), ⟨?_, declared.2⟩,
    isMaterialized, length, ?_⟩
  · rw [marked.classLike?, declared.1, Option.map_some]
  · rw [marked.substituted?]
    refine marked.isSubstitutedClass (fun index method own => ?_) substituted
    refine Library.marks_eq_base compiled.specialization?_base ?_ ?_
    · rw [Library.specialization?, known, Option.bind_some]
      exact specialized
    · rw [Library.methodsOf, declared.1]
      exact own

theorem isSubstituted_sample : ∃ library classLike specialization base,
    (compile Declaration.sample {} 6).result = .ok library
      ∧ library.classLike? ⟨15⟩ = some classLike
      ∧ classLike.specialization? = some specialization
      ∧ library.IsDeclared specialization.base base
      ∧ specialization.isMaterialized = true
      ∧ specialization.arguments.length = base.genericParameters.length
      ∧ library.IsSubstitutedClass
        (library.substituted? {} (base.genericParameters.zip specialization.arguments)) base
        classLike := by
  obtain ⟨library, returned, _, isSample⟩ := exists_isSample
  obtain ⟨specialization, found⟩ := Option.isSome_iff_exists.1 isSample.specialized
  obtain ⟨classLike, known, specialized⟩ := Library.specialization?_eq_some found
  obtain ⟨base, isSubstituted⟩ := isSubstituted_of_compile returned known specialized
  exact ⟨library, classLike, specialization, base, returned, known, specialized, isSubstituted⟩

end ClassModel
