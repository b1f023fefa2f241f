import ClassModel.Proofs.Slots
import ClassModel.Proofs.Wider

/-!
# ClassModel.Proofs.Invariant

Properties that hold of the contents of every name throughout a compilation. A
compilation changes the contents of a name in a few ways only. What each of
these changes keeps (`Scope.Keeps`) holds in the end if it held at first, or
from the headers on (`Scope.Keeps.contentOf`).
-/

namespace ClassModel

/-- What holds at first and is kept by each revision holds of all contents in
the end. -/
theorem forall_reviseAll {κ : Type} {nameOf : κ → String}
    {change : κ → (String → NamedClass) → Traced NamedClass} {p : String → NamedClass → Prop}
    (step : ∀ k content, (∀ name, p name (content name)) → p (nameOf k) (change k content).value)
    {content : String → NamedClass} (start : ∀ name, p name (content name)) (ks : List κ) :
    ∀ name, p name ((reviseAll nameOf change ks content).value name) := by
  induction ks generalizing content with
  | nil => exact start
  | cons k ks ih =>
    rw [reviseAll_cons, Traced.value_bind]
    refine ih fun name => ?_
    by_cases same : name = nameOf k
    · subst same
      rw [Function.update_self]
      exact step k content start
    · rw [Function.update_of_ne same]
      exact start name

/-- What each step of a fold keeps holds in the end. -/
theorem Traced.value_foldlM_of {σ ι : Type} {step : σ → ι → Traced σ} {p : σ → Prop}
    (keeps : ∀ state value, p state → p (step state value).value) {state : σ} (start : p state)
    (values : List ι) : p (values.foldlM step state).value := by
  induction values generalizing state with
  | nil => exact start
  | cons value values ih =>
    rw [List.foldlM_cons, value_bind]
    exact ih (keeps state value start)

/-! ## Changes -/

/-- The keyword that declares the class-like that the type refers to. -/
def Scope.keyword? (scope : Scope) (tree : TypeTree) : Option Keyword :=
  (tree.className?.bind scope).map (·.keyword)

theorem Scope.keyword?_object {scope : Scope}
    (object : scope Standard.objectIdentifier = some ⟨.class, []⟩) :
    scope.keyword? .object = some .class := by
  rw [keyword?, TypeTree.object, TypeTree.className?, Option.bind_some, object, Option.map_some]

/-- The method is what some text is compiled to. -/
def NamedMethod.IsCompiled (method : NamedMethod) : Prop :=
  ∃ (scope : Scope) (options : Options) (context signature : String) (body : Body),
    method = (scope.compileMethod options context signature body).value

/-- The method may be added to the class-like: it is compiled from a text, has the
signature that goes with its formal parameters, which is a new one, and is not marked
as virtual. -/
structure NamedClass.Admits (named : NamedClass) (method : NamedMethod) : Prop where
  compiled : method.IsCompiled
  signature :
    method.bare.signature = NamedMethod.signature method.bare.identifier method.formals
  new : ∀ other ∈ named.methods, other.bare.signature ≠ method.bare.signature
  unmarked : method.bare.isVirtual = false

/-- The attributes are told apart by their names. -/
def NamedClass.HasNames (named : NamedClass) : Prop :=
  (named.attributes.map (·.bare.identifier)).Nodup

/-- The attributes may take the place of the present ones: they are told apart
by their names if the present ones are. -/
def NamedClass.AdmitsAll (named : NamedClass) (attributes : List NamedAttribute) : Prop :=
  named.HasNames → { named with attributes }.HasNames

/-- The bounds of the generic parameter are of a kind that is accepted. -/
def NamedParameter.IsBounded (parameter : NamedParameter) : Prop :=
  ∀ bound ∈ parameter.upperBounds ++ parameter.lowerBound?.toList, bound.isBound = true

/-- The property of the contents of a name is kept by each change that a header, or
cutting a cycle, makes to them. -/
structure Scope.KeepsHierarchy (scope : Scope) (p : String → NamedClass → Prop) : Prop where
  parameters {name : String} {named : NamedClass} : p name named → ∀ position change,
    (∀ parameter : NamedParameter, parameter.IsBounded → (change parameter).IsBounded) →
      p name { named with parameters := named.parameters.modify position change }
  /-- Only the root class is ever left without a superclass. -/
  superclass? {name : String} {named : NamedClass} : p name named → ∀ superclass?,
    (superclass? = none → name = Standard.objectIdentifier) →
      (∀ tree ∈ superclass?, scope.keyword? tree = some .class) → p name { named with superclass? }
  interfaces {name : String} {named : NamedClass} : p name named →
    ∀ tree, scope.keyword? tree = some .interface →
      p name { named with interfaces := named.interfaces ++ [tree] }

/-- The property of the contents of a name is kept by each change that a
compilation makes to them. -/
structure Scope.Keeps (scope : Scope) (p : String → NamedClass → Prop) : Prop
    extends scope.KeepsHierarchy p where
  attributes {name : String} {named : NamedClass} : p name named →
    ∀ attributes, named.AdmitsAll attributes → p name { named with attributes }
  methods {name : String} {named : NamedClass} : p name named → ∀ method, named.Admits method →
    p name { named with methods := named.methods ++ [method] }
  constants {name : String} {named : NamedClass} : p name named →
    ∀ constants, p name (named.withConstants constants)
  layout {name : String} {named : NamedClass} : p name named →
    ∀ layout, p name { named with bare := { named.bare with layout } }

/-- Attributes keep their names when they get their slots. -/
theorem NamedClass.map_identifier_placeAttributes (slot position : Nat)
    (attributes : List NamedAttribute) :
    (placeAttributes slot position attributes).map (·.bare.identifier)
      = attributes.map (·.bare.identifier) := by
  refine Related.map_eq (forall₂_placeAttributes slot position attributes) ?_
  rintro found _ _ ⟨index, rfl⟩
  rfl

theorem NamedClass.HasNames.concat {named : NamedClass} {found : NamedAttribute}
    (new : named.attributes.any (·.bare.identifier == found.bare.identifier) = false) :
    named.AdmitsAll (named.attributes ++ [found]) := by
  intro names
  rw [HasNames, List.map_append, List.map_singleton, ← List.concat_eq_append, List.nodup_concat]
  refine ⟨fun mem => ?_, names⟩
  obtain ⟨other, inside, same⟩ := List.mem_map.1 mem
  simpa [same] using List.any_eq_false.1 new other inside

/-- A compiled method has the signature that goes with its formal parameters, and
is not marked. -/
theorem Scope.signature_compileMethod (scope : Scope) (options : Options)
    (context signature : String)
    (body : Body) : let method := (scope.compileMethod options context signature body).value
      method.bare.signature = NamedMethod.signature method.bare.identifier method.formals
        ∧ method.bare.isVirtual = false := by
  simp only [compileMethod, Traced.value_bind, Traced.value_pure, and_self]

namespace NamedParameter

variable {parameter : NamedParameter} {bound : TypeTree}

theorem IsBounded.withUpperBound (bounded : parameter.IsBounded) (isBound : bound.isBound = true) :
    (parameter.withUpperBound bound).IsBounded := by
  simp only [IsBounded, List.forall_mem_append] at bounded
  simp only [IsBounded, NamedParameter.withUpperBound, List.forall_mem_append,
    List.forall_mem_singleton]
  exact ⟨⟨bounded.1, isBound⟩, bounded.2⟩

theorem IsBounded.withLowerBound (bounded : parameter.IsBounded) (isBound : bound.isBound = true) :
    (parameter.withLowerBound bound).IsBounded := by
  simp only [IsBounded, List.forall_mem_append] at bounded
  simp only [IsBounded, NamedParameter.withLowerBound, Option.toList_some, List.forall_mem_append,
    List.forall_mem_singleton]
  exact ⟨bounded.1, isBound⟩

end NamedParameter

theorem NamedClass.isBound_of_checkedBound? {signature : String} {tree bound : TypeTree}
    (accepted : (checkedBound? signature tree).value = some bound) : bound.isBound = true := by
  unfold checkedBound? at accepted
  split at accepted
  · next isBound =>
    cases accepted
    exact isBound
  · cases accepted

namespace Scope.KeepsHierarchy

variable {scope : Scope} {p : String → NamedClass → Prop} (keeps : scope.KeepsHierarchy p)
  {options : Options} {signature name : String} {named : NamedClass}

include keeps

/-! ## Headers -/

theorem resolveBound (holds : p name named) (position : Nat)
    {change : NamedParameter → TypeTree → NamedParameter}
    (adds : ∀ bound, bound.isBound = true → ∀ parameter, parameter.IsBounded →
      (change parameter bound).IsBounded) (type : TypeExpr) :
    p name (named.resolveBound scope options signature position change type).value := by
  rw [NamedClass.resolveBound, Traced.value_bind, Traced.value_bind]
  split
  · next bound accepted =>
    exact keeps.parameters holds _ _ (adds bound (NamedClass.isBound_of_checkedBound? accepted))
  · exact holds

theorem resolveBoundExpr (holds : p name named) (position : Nat) (bound : BoundExpr) :
    p name (named.resolveBoundExpr scope options signature position bound).value := by
  cases bound with
  | upper types =>
    exact Traced.value_foldlM_of (p := p name) (fun _ _ holds =>
      keeps.resolveBound holds _ (fun _ isBound _ bounded => bounded.withUpperBound isBound) _)
      holds types
  | lower type =>
    exact keeps.resolveBound holds _ (fun _ isBound _ bounded => bounded.withLowerBound isBound)
      type

theorem resolveParameters (holds : p name named) (position : Nat) (exprs : List ParameterExpr) :
    p name (named.resolveParameters scope options signature position exprs).value := by
  induction exprs generalizing position named with
  | nil => exact holds
  | cons expr exprs ih =>
    rw [NamedClass.resolveParameters, Traced.value_bind]
    exact ih (Traced.value_foldlM_of (p := p name)
      (fun _ _ holds => keeps.resolveBoundExpr holds _ _) holds expr.bounds) _

/-- A supertype is added where its kind is admitted. -/
theorem addSupertype (holds : p name named) (clause : ClauseKind) (tree : TypeTree) :
    p name (named.addSupertype scope signature clause tree).value := by
  unfold NamedClass.addSupertype
  split
  · exact holds
  · next shape found =>
    have keyword : scope.keyword? tree = some shape.keyword := by
      rw [keyword?, found, Option.map_some]
    generalize Build.acceptedBy named.bare.kind clause = accepted
    dsimp only
    split
    · exact holds
    · next admitted =>
      rw [Bool.not_eq_true, Bool.not_eq_false'] at admitted
      cases accepted with
      | «class» =>
        rw [eq_of_beq admitted] at keyword
        cases named.superclass? with
        | none =>
          refine keeps.superclass? holds _ (by simp) fun _ same => ?_
          cases same
          exact keyword
        | some existing => exact holds
      | interface =>
        rw [eq_of_beq admitted] at keyword
        exact keeps.interfaces holds tree keyword
      | nothing => cases admitted

theorem resolveClause (holds : p name named) (clause : ClauseExpr) :
    p name (named.resolveClause scope options signature clause).value := by
  unfold NamedClass.resolveClause
  dsimp only
  have types (isRejected : Bool) : p name (clause.types.foldlM (fun (named : NamedClass) type =>
      named.resolveSupertype scope options signature clause.kind isRejected type) named).value := by
    refine Traced.value_foldlM_of (p := p name) (fun named type holds => ?_) holds clause.types
    rw [NamedClass.resolveSupertype, Traced.value_bind]
    split
    · exact holds
    · exact keeps.addSupertype holds _ _
  split <;> exact types _

/-- The root class is a class. -/
theorem withDefaultSuperclass (object : scope Standard.objectIdentifier = some ⟨.class, []⟩)
    (holds : p name named) : p name named.withDefaultSuperclass := by
  unfold NamedClass.withDefaultSuperclass
  split
  · refine keeps.superclass? holds _ (by simp) fun _ same => ?_
    cases same
    exact keyword?_object object
  · exact holds

theorem resolveHeader (object : scope Standard.objectIdentifier = some ⟨.class, []⟩)
    (holds : p name named) (rest : List Token) :
    p name (named.resolveHeader scope options signature rest).value := by
  rw [NamedClass.resolveHeader_eq, NamedClass.resolveRest]
  simp only [Traced.value_bind, Traced.value_pure]
  exact keeps.withDefaultSuperclass object (Traced.value_foldlM_of (p := p name)
    (fun _ _ holds => keeps.resolveClause holds _) (keeps.resolveParameters holds _ _) _)

/-! ## Cycles -/

theorem cutCycle (object : scope Standard.objectIdentifier = some ⟨.class, []⟩)
    {content : String → NamedClass} (holds : p name (content name)) :
    p name (ClassModel.cutCycle name content).value := by
  unfold ClassModel.cutCycle
  split
  · rw [Traced.value_bind, Traced.value_pure, NamedClass.cut]
    refine keeps.superclass? holds _ (by simp) fun tree mem => ?_
    rw [Option.mem_def, Option.ite_none_left_eq_some] at mem
    obtain ⟨_, same⟩ := mem
    cases same
    exact keyword?_object object
  · exact holds

/-! ## The hierarchy -/

theorem resolveHeaders (object : scope Standard.objectIdentifier = some ⟨.class, []⟩)
    {content : String → NamedClass} (holds : ∀ name, p name (content name))
    (registrations : List Registration) :
    ∀ name, p name ((Registration.resolveHeaders scope options registrations content).value name) :=
  forall_reviseAll (fun _ _ holds => keeps.resolveHeader object (holds _) _) holds registrations

/-- What holds from the headers on, and is kept, holds without cycles. -/
theorem hierarchy (object : scope Standard.objectIdentifier = some ⟨.class, []⟩)
    {registrations : List Registration}
    (holds : ∀ name, p name ((Registration.resolveHeaders scope options registrations
      (Registration.contentOf registrations)).value name)) :
    ∀ name, p name ((Registration.hierarchy scope options registrations).value name) := by
  rw [Registration.hierarchy, Traced.value_bind, cutAll]
  refine forall_reviseAll (fun name content holds => ?_) holds _
  exact keeps.cutCycle object (holds name)

end Scope.KeepsHierarchy

namespace Scope.Keeps

variable {scope : Scope} {p : String → NamedClass → Prop} (keeps : scope.Keeps p)
  {options : Options} {signature name : String} {named : NamedClass}

include keeps

/-! ## Members -/

theorem addAttribute (holds : p name named) :
    p name (named.addAttribute scope options signature).value := by
  unfold NamedClass.addAttribute
  rw [Traced.value_bind]
  split
  · exact holds
  · split
    · exact holds
    · next new => exact keeps.attributes holds _ (.concat (by simpa using new))

theorem addMethod (holds : p name named) (body : Body) :
    p name (named.addMethod scope options signature body).value := by
  unfold NamedClass.addMethod
  rw [Traced.value_bind]
  have signed := scope.signature_compileMethod options named.identifier signature body
  split
  · exact holds
  · next new =>
      exact keeps.methods holds _ ⟨⟨_, _, _, _, _, rfl⟩, signed.1, by simpa using new, signed.2⟩

theorem compileMembers (holds : p name named) (declaration : Declaration) :
    p name (named.compileMembers scope options declaration).value := by
  rw [NamedClass.compileMembers, Traced.value_bind, Traced.value_bind, Traced.value_pure]
  refine keeps.constants (Traced.value_foldlM_of (p := p name)
    (fun _ _ holds => keeps.addMethod holds _) (Traced.value_foldlM_of (p := p name)
      (fun _ _ holds => keeps.addAttribute holds) holds declaration.attributes) _) _

/-! ## Layouts -/

theorem layOut (holds : p name named) (above? : Option NamedClass) :
    p name (named.layOut above?).value := by
  obtain ⟨first, inherited, values, same⟩ := named.exists_value_layOut above?
  rw [same]
  have placed := keeps.attributes holds (NamedClass.placeAttributes first 0 named.attributes)
    fun names => by rwa [NamedClass.HasNames, NamedClass.map_identifier_placeAttributes]
  exact keeps.layout placed
    { (named.laidOut first inherited).bare.layout with staticValues := values }

end Scope.Keeps

/-- What holds from the headers on, and is kept, holds in the end. -/
theorem Scope.Keeps.contentOf {options : Options} {declarations : List Declaration}
    {p : String → NamedClass → Prop} (keeps : (scopeOf declarations).Keeps p)
    (object : scopeOf declarations Standard.objectIdentifier = some ⟨.class, []⟩)
    (holds : ∀ name, p name ((Registration.resolveHeaders (scopeOf declarations) options
      (registrationsOf declarations)
      (Registration.contentOf (registrationsOf declarations))).value name))
    (names : List String) : ∀ name, p name (contentOf options declarations names name) := by
  have straight := keeps.hierarchy object holds
  have members : ∀ name, p name ((membersOf options declarations).value name) :=
    forall_reviseAll (fun _ _ holds => keeps.compileMembers (holds _) _) straight _
  exact forall_reviseAll (fun _ _ holds => keeps.layOut (holds _) _) members names

theorem NamedClass.keeps_hasNames (scope : Scope) : scope.Keeps fun _ => HasNames where
  parameters names _ _ _ := names
  superclass? names _ _ _ := names
  interfaces names _ _ := names
  attributes names _ admitted := admitted names
  methods names _ _ := names
  constants names _ := names
  layout names _ := names

/-- The attributes of a class-like are told apart by their names. -/
theorem hasNames_contentOf {options : Options} {declarations : List Declaration}
    (object : scopeOf declarations Standard.objectIdentifier = some ⟨.class, []⟩)
    (names : List String) (name : String) :
    (contentOf options declarations names name).HasNames := by
  have keeps := NamedClass.keeps_hasNames (scopeOf declarations)
  refine keeps.contentOf object (keeps.resolveHeaders object (fun name => ?_) _) names name
  unfold Registration.contentOf
  split <;> exact List.nodup_nil

/-! ## Compiled class-likes -/

namespace Library

section Compiled

variable {library : Library} {options : Options} {declarations : List Declaration}
  {names : List String} {diagnostics : List Diagnostic}
    (compiled : Compiled options declarations names library diagnostics) {id : ClassId}
  {classLike : ClassLike}

include compiled

/-- The base of an instantiation is no instantiation. -/
theorem baseOf_baseOf (id : ClassId) : library.baseOf (library.baseOf id) = library.baseOf id := by
  cases found : library.specialization? id with
  | none => simp [baseOf, found]
  | some specialization =>
    have plain := compiled.specialization?_base id specialization found
    simp [baseOf, found, plain]

/-- Every class-like answers with its own supertypes: instantiations are filled
in. -/
theorem hierarchyKind?_eq (known : library.classLike? id = some classLike) :
    library.hierarchyKind? id = some classLike.kind := by
  cases specialized : classLike.specialization? with
  | none => simp [hierarchyKind?, known, specialized]
  | some specialization =>
    obtain ⟨_, _, isMaterialized, _⟩ := compiled.coherent.isSubstitutedClass_of_isComplete
      compiled.realizes (fun _ _ => compiled.complete) known specialized
    simp [hierarchyKind?, known, specialized, isMaterialized]

/-- Every class-like is told by the contents of its base, in which arguments are
in place of the generic parameters if it is an instantiation. -/
theorem exists_spells (known : library.classLike? id = some classLike) :
    ∃ name context named, library.IsOf id name
      ∧ library.SpellsClass (scopeOf declarations) options context id classLike named
      ∧ (named = contentOf options declarations names name ∨ ∃ arguments,
        named = ((contentOf options declarations names name).substitute (scopeOf declarations)
          options arguments).value) := by
  cases specialized : classLike.specialization? with
  | none =>
    have isNamed : library.IsNamed id classLike.identifier := ⟨classLike, ⟨known, specialized⟩, rfl⟩
    obtain ⟨_, known', spells⟩ := compiled.realizes _ _ isNamed
    cases known.symm.trans known'
    exact ⟨classLike.identifier, _, _, isNamed.isOf, spells, .inl rfl⟩
  | some specialization =>
    obtain ⟨base, trees, instantiates⟩ := compiled.coherent.instantiates known specialized
    have isInstance := instantiates.isInstance known specialized
    obtain ⟨context, _, _, _, _, known', spells⟩ :=
      ((compiled.complete isInstance).filledIn isInstance).spells
    cases known.symm.trans known'
    exact ⟨base.identifier, context, _, instantiates.isOf known specialized, spells,
      .inr ⟨_, rfl⟩⟩

/-- The methods of an instantiation are those of its base, which is declared, with
the arguments in place of the generic parameters. -/
theorem exists_substituted_methods {id : ClassId} {specialization : Specialization}
    (found : library.specialization? id = some specialization) :
    library.specialization? (library.baseOf id) = none ∧ ∃ substitution,
      List.Forall₂ (library.IsSubstitutedMethod (library.substituted? options substitution))
        (library.methodsOf (library.baseOf id)) (library.methodsOf id) := by
  obtain ⟨classLike, known, specialized⟩ := specialization?_eq_some found
  obtain ⟨base, declared, _, _, substituted⟩ :=
    compiled.coherent.isSubstitutedClass_of_isComplete compiled.realizes
      (fun _ _ => compiled.complete) known specialized
  have baseOf : library.baseOf id = specialization.base := by rw [Library.baseOf, found]
  rw [baseOf, methodsOf, methodsOf, known, declared.1, specialization?, declared.1,
    Option.bind_some, declared.2]
  exact ⟨rfl, _, substituted.methods⟩

end Compiled

end Library

end ClassModel
