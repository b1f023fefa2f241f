import ClassModel.Proofs.Compiled
import ClassModel.Proofs.Renumbering
import Mathlib.SetTheory.Cardinal.Arithmetic

/-!
# ClassModel.Proofs.Correspondence

Libraries that tell the same by names. If whatever a library declares and
instantiates is declared and instantiated in another one, there is a renumbering
under which its types denote the same there (`Library.exists_corresponds`).
Class-likes that spell the same named one are then equal up to the renumbering
(`Corresponds.classLike_eq`), and so are the diagnostics that tell the same.
-/

namespace ClassModel

/-- A relation that tells apart the identifiers of a list follows a
permutation. -/
theorem Id.exists_perm {label : String} {r : Id label → Id label → Prop} (ids : List (Id label))
    (total : ∀ id ∈ ids, ∃ id', r id id')
    (inj : ∀ id₁ id₂ id', r id₁ id' → r id₂ id' → id₁ = id₂) :
    ∃ turn : Equiv.Perm (Id label), ∀ id ∈ ids, r id (turn id) := by
  choose turn turns using total
  let inside : Set (Id label) := { id | id ∈ ids }
  have injective : Function.Injective fun id : inside => turn id.1 id.2 := by
    intro id₁ id₂ same
    have turned := turns id₂.1 id₂.2
    rw [← show turn id₁.1 id₁.2 = turn id₂.1 id₂.2 from same] at turned
    exact Subtype.ext (inj _ _ _ (turns id₁.1 id₁.2) turned)
  have infinite : Infinite (Id label) :=
    Infinite.of_injective (Id.mk : Nat → Id label) fun _ _ => (Id.mk.inj ·)
  have small : Cardinal.mk inside < Cardinal.mk (Id label) :=
    lt_of_lt_of_le (Set.Finite.lt_aleph0 (List.finite_toSet ids)) (Cardinal.aleph0_le_mk _)
  obtain ⟨whole, agrees⟩ :=
    Cardinal.extend_function_of_lt ⟨_, injective⟩ small ⟨Equiv.refl (Id label)⟩
  refine ⟨whole, fun id mem => ?_⟩
  rw [agrees ⟨id, mem⟩]
  exact turns id mem

/-- The diagnostic, mentioning other class-likes. -/
def Diagnostic.mentioning : Diagnostic → List ClassId → Diagnostic
  | mismatchedArguments signature _ expected found strict, [id] =>
    mismatchedArguments signature id expected found strict
  | invalidSupertype signature _ expected, [id] => invalidSupertype signature id expected
  | multipleSuperclasses signature _ _, [existing, ignored] =>
    multipleSuperclasses signature existing ignored
  | redefinedClassLike _ signature, [id] => redefinedClassLike id signature
  | redefinedMember _ member, [id] => redefinedMember id member
  | unknownStaticValue _ identifier, [id] => unknownStaticValue id identifier
  | cyclicInheritance _, [id] => cyclicInheritance id
  | other, _ => other

/-- A diagnostic is told by its bare form and by what it mentions. -/
theorem Diagnostic.mentioning_mentioned (diagnostic : Diagnostic) :
    diagnostic.bare.mentioning diagnostic.mentioned = diagnostic := by
  cases diagnostic <;> rfl

theorem Renumbering.bare_diagnostic (renumbering : Renumbering) (diagnostic : Diagnostic) :
    (renumbering.diagnostic diagnostic).bare = diagnostic.bare := by
  cases diagnostic <;> rfl

theorem Renumbering.mentioned_diagnostic (renumbering : Renumbering) (diagnostic : Diagnostic) :
    (renumbering.diagnostic diagnostic).mentioned
      = diagnostic.mentioned.map renumbering.classLikes := by
  cases diagnostic <;> rfl

namespace Library

/-- Under the renumbering, class-likes are of the same types in the other
library, and own the corresponding generic parameters. -/
structure Corresponds (renumbering : Renumbering) (before after : Library) : Prop where
  classLike {id : ClassId} {tree : TypeTree} : before.Denotes (.classLike id) tree →
    after.Denotes (.classLike (renumbering.classLikes id)) tree
  parametersOf {id : ClassId} {name : String} : before.IsNamed id name →
    after.parametersOf (renumbering.classLikes id)
      = (before.parametersOf id).map renumbering.parameters
  parameter {id : ParameterId} {found : GenericParameter} : before.parameter? id = some found →
    ∃ found', after.parameter? (renumbering.parameters id) = some found'
      ∧ found'.identifier = found.identifier
      ∧ found'.owner = renumbering.classLikes found.owner

/-- The class-likes spell the same named one, and both or none are
instantiations that are filled in. -/
structure SpellAlike (before after : Library) (scope scope' : Scope) (options : Options)
    (id id' : ClassId) (classLike classLike' : ClassLike) : Prop where
  known : before.classLike? id = some classLike
  known' : after.classLike? id' = some classLike'
  materialized : classLike'.specialization?.map (·.isMaterialized)
    = classLike.specialization?.map (·.isMaterialized)
  spells : ∃ context context' named, before.SpellsClass scope options context id classLike named
    ∧ after.SpellsClass scope' options context' id' classLike' named

variable {before after : Library} {scope scope' : Scope} {options : Options}
  {renumbering : Renumbering}

/-! ## The renumbering -/

/-- A class-like that is there denotes a type. -/
theorem Coherent.exists_denotes {library : Library} (coherent : library.Coherent scope options)
    {id : ClassId} {classLike : ClassLike} (known : library.classLike? id = some classLike) :
    ∃ tree, library.Denotes (.classLike id) tree := by
  cases specialized : classLike.specialization? with
  | none => exact ⟨.declared classLike.identifier 0, id, classLike, rfl, ⟨known, specialized⟩, rfl⟩
  | some specialization =>
    obtain ⟨tree, isInstance⟩ := coherent.exists_isInstance known specialized
    exact ⟨tree, isInstance.1⟩

/-- A class-like owns the generic parameters that it lists. -/
theorem Coherent.owned_of_place {library : Library} (coherent : library.Coherent scope options)
    {id : ClassId} {name : String} {place : Nat} {parameter : ParameterId}
    (isNamed : library.IsNamed id name)
    (here : (library.parametersOf id)[place]? = some parameter) :
    ∃ found, library.parameter? parameter = some found ∧ found.owner = id := by
  obtain ⟨classLike, declared, rfl⟩ := isNamed
  rw [Library.parametersOf, declared.1, Option.map_some, Option.getD_some] at here
  exact coherent.owned declared (List.mem_of_getElem? here)

/-- A generic parameter has one place, in one class-like. -/
theorem Coherent.place_unique {library : Library} (coherent : library.Coherent scope options)
    {id id' : ClassId} {name name' : String} {place place' : Nat} {parameter : ParameterId}
    (isNamed : library.IsNamed id name) (isNamed' : library.IsNamed id' name')
    (here : (library.parametersOf id)[place]? = some parameter)
    (here' : (library.parametersOf id')[place']? = some parameter) :
    name = name' ∧ place = place' := by
  obtain ⟨found, known, rfl⟩ := coherent.owned_of_place isNamed here
  obtain ⟨found', known', rfl⟩ := coherent.owned_of_place isNamed' here'
  cases known.symm.trans known'
  refine ⟨isNamed.name_inj isNamed', ?_⟩
  obtain ⟨classLike, declared, rfl⟩ := isNamed
  rw [Library.parametersOf, declared.1, Option.map_some, Option.getD_some] at here here'
  obtain ⟨inside, _⟩ := List.getElem?_eq_some_iff.1 here
  exact (List.getElem?_inj inside (coherent.genericParameters_nodup declared)).1
    (here.trans here'.symm)

/-- The generic parameters have the same place in class-likes of one name. -/
def SamePlace (before after : Library) (parameter parameter' : ParameterId) : Prop :=
  ∃ (id id' : ClassId) (name : String) (place : Nat), before.IsNamed id name
    ∧ after.IsNamed id' name ∧ (before.parametersOf id)[place]? = some parameter
    ∧ (after.parametersOf id')[place]? = some parameter'

section Exists

variable (coherent : before.Coherent scope options) (coherent' : after.Coherent scope' options)
  (wider : ∀ name shape, scope name = some shape → scope' name = some shape)

include coherent coherent' wider

/-- What is declared is declared in the wider scope. -/
theorem exists_isNamed {id : ClassId} {name : String} (isNamed : before.IsNamed id name) :
    ∃ id', after.IsNamed id' name := by
  obtain ⟨classLike, declared, rfl, shape⟩ := coherent.exists_shape isNamed
  obtain ⟨id', classLike', declared', same, _⟩ := coherent'.scope_iff.1 (wider _ _ shape)
  exact ⟨id', classLike', declared', same⟩

/-- What is declared has generic parameters of the same names. -/
theorem parameterNames_eq {id id' : ClassId} {name : String} (isNamed : before.IsNamed id name)
    (isNamed' : after.IsNamed id' name) : (after.parametersOf id').map after.parameterName
      = (before.parametersOf id).map before.parameterName := by
  obtain ⟨classLike, declared, rfl, shape⟩ := coherent.exists_shape isNamed
  obtain ⟨classLike', declared', _, shape'⟩ := coherent'.exists_shape isNamed'
  have same := (wider _ _ shape).symm.trans shape'
  simp only [shapeOf, Option.some.injEq, Shape.mk.injEq] at same
  rw [parametersOf, parametersOf, declared.1, declared'.1]
  exact same.2.symm

/-- The class-likes are of the same types under a permutation. -/
theorem exists_classLikes (has : ∀ tree, before.Has tree → after.Has tree) :
    ∃ turn : Equiv.Perm ClassId, ∀ id tree, before.Denotes (.classLike id) tree →
      after.Denotes (.classLike (turn id)) tree := by
  obtain ⟨turn, sameType⟩ := @Id.exists_perm "ClassLike" (fun id id' =>
      ∃ tree, before.Denotes (.classLike id) tree ∧ after.Denotes (.classLike id') tree)
    before.classLikes.ids (fun id mem => by
      obtain ⟨classLike, known⟩ := isSome_classLike?_of_mem_ids mem
      obtain ⟨tree, denotes⟩ := coherent.exists_denotes known
      rcases denotes.classLike_cases with ⟨name, rfl, isNamed⟩ | ⟨name, trees, rfl, isInstance⟩
      · obtain ⟨id', isNamed'⟩ := exists_isNamed coherent coherent' wider isNamed
        exact ⟨id', _, denotes, isNamed'.denotes⟩
      · obtain ⟨id', isInstance'⟩ := has _ ⟨id, isInstance⟩
        exact ⟨id', _, denotes, isInstance'.1⟩)
    (by
      rintro id₁ id₂ id' ⟨tree₁, denotes₁, denotes₁'⟩ ⟨tree₂, denotes₂, denotes₂'⟩
      obtain rfl := denotes₁'.unique coherent'.toDeclares denotes₂'
      simpa [Ty.classLike] using coherent.denotes_inj denotes₁ denotes₂)
  refine ⟨turn, fun id tree denotes => ?_⟩
  have known : before.classLikes.contains id := by
    rw [← Arena.isSome_get?]
    exact denotes.knows
  obtain ⟨tree', denotes', denotes''⟩ := sameType id ((Arena.mem_ids _ _).2 known)
  obtain rfl := denotes.unique coherent.toDeclares denotes'
  exact denotes''

/-- The generic parameters have the same places under a permutation. -/
theorem exists_parameters : ∃ turn : Equiv.Perm ParameterId,
    ∀ parameter found, before.parameter? parameter = some found →
      SamePlace before after parameter (turn parameter) := by
  obtain ⟨turn, samePlace⟩ := @Id.exists_perm _ (SamePlace before after) before.parameters.ids
    (fun parameter mem => by
      rw [Arena.mem_ids, ← Arena.isSome_get?, Option.isSome_iff_exists] at mem
      obtain ⟨found, known⟩ := mem
      obtain ⟨classLike, declared, mem⟩ := coherent.owner_mem known
      have isNamed : before.IsNamed found.owner classLike.identifier := ⟨classLike, declared, rfl⟩
      obtain ⟨id', isNamed'⟩ := exists_isNamed coherent coherent' wider isNamed
      obtain ⟨place, here⟩ := List.mem_iff_getElem?.1 mem
      have here : (before.parametersOf found.owner)[place]? = some parameter := by
        rwa [parametersOf, declared.1, Option.map_some, Option.getD_some]
      have there :=
        congrArg (·[place]?) (parameterNames_eq coherent coherent' wider isNamed isNamed')
      simp only [List.getElem?_map, here, Option.map_some, Option.map_eq_some_iff] at there
      obtain ⟨parameter', there, _⟩ := there
      exact ⟨parameter', _, id', _, place, isNamed, isNamed', here, there⟩)
    (by
      rintro parameter₁ parameter₂ parameter'
        ⟨id₁, id₁', name₁, place₁, isNamed₁, isNamed₁', here₁, there₁⟩
        ⟨id₂, id₂', name₂, place₂, isNamed₂, isNamed₂', here₂, there₂⟩
      obtain ⟨rfl, rfl⟩ := coherent'.place_unique isNamed₁' isNamed₂' there₁ there₂
      obtain rfl := coherent.isNamed_inj isNamed₁ isNamed₂
      exact Option.some.inj (here₁.symm.trans here₂))
  refine ⟨turn, fun parameter found known => samePlace parameter ?_⟩
  rw [Arena.mem_ids, ← Arena.isSome_get?]
  exact Option.isSome_iff_exists.2 ⟨found, known⟩

/-- There is a renumbering under which the class-likes are of the same types. -/
theorem exists_corresponds (has : ∀ tree, before.Has tree → after.Has tree) :
    ∃ renumbering, before.Corresponds renumbering after := by
  obtain ⟨classLikes, denotes⟩ := exists_classLikes coherent coherent' wider has
  obtain ⟨parameters, samePlace⟩ := exists_parameters coherent coherent' wider
  -- corresponding places hold corresponding generic parameters
  have there {id : ClassId} {name : String} {place : Nat} {parameter : ParameterId}
      (isNamed : before.IsNamed id name)
      (here : (before.parametersOf id)[place]? = some parameter) :
      (after.parametersOf (classLikes id))[place]? = some (parameters parameter) := by
    obtain ⟨found, known, _⟩ := coherent.owned_of_place isNamed here
    obtain ⟨id₂, id₂', name₂, place₂, isNamed₂, isNamed₂', here₂, there₂⟩ :=
      samePlace parameter found known
    obtain ⟨rfl, rfl⟩ := coherent.place_unique isNamed isNamed₂ here here₂
    obtain rfl := coherent.isNamed_inj isNamed isNamed₂
    obtain rfl := coherent'.isNamed_inj (denotes id _ isNamed.denotes).isNamed isNamed₂'
    exact there₂
  have names {id : ClassId} {name : String} (isNamed : before.IsNamed id name) :=
    parameterNames_eq coherent coherent' wider isNamed (denotes id _ isNamed.denotes).isNamed
  refine ⟨⟨classLikes, parameters⟩, denotes _ _, fun {id name} isNamed => ?_,
    fun {id found} known => ?_⟩
  · refine List.ext_getElem? fun place => ?_
    rw [List.getElem?_map]
    cases here : (before.parametersOf id)[place]? with
    | none =>
      have outside := congrArg (·[place]?) (names isNamed)
      simpa [here] using outside
    | some parameter => exact there isNamed here
  · obtain ⟨classLike, declared, mem⟩ := coherent.owner_mem known
    have isNamed : before.IsNamed found.owner classLike.identifier := ⟨classLike, declared, rfl⟩
    obtain ⟨place, here⟩ := List.mem_iff_getElem?.1 mem
    have here : (before.parametersOf found.owner)[place]? = some id := by
      rwa [Library.parametersOf, declared.1, Option.map_some, Option.getD_some]
    have there := there isNamed here
    obtain ⟨found', known', owner⟩ :=
      coherent'.owned_of_place (denotes _ _ isNamed.denotes).isNamed there
    have same := congrArg (·[place]?) (names isNamed)
    simp only [List.getElem?_map, here, there, Option.map_some, parameterName, known, known',
      Option.getD_some, Option.some.injEq] at same
    exact ⟨found', known', same, owner⟩

end Exists

/-! ## Types -/

theorem parameterNamed?_eq (library : Library) (id : ClassId) (name : String) :
    library.parameterNamed? id name = (library.parametersOf id).find? fun parameter =>
      (library.parameter? parameter).map (·.identifier) == some name := by
  rw [Library.parameterNamed?, Library.parametersOf]
  cases library.classLike? id <;> rfl

namespace Corresponds

section Types

variable (corresponds : before.Corresponds renumbering after)

include corresponds

theorem isNamed {id : ClassId} {name : String} (isNamed : before.IsNamed id name) :
    after.IsNamed (renumbering.classLikes id) name :=
  (corresponds.classLike isNamed.denotes).isNamed

theorem isInstance {id : ClassId} {tree : TypeTree} (isInstance : before.IsInstance id tree) :
    after.IsInstance (renumbering.classLikes id) tree :=
  ⟨corresponds.classLike isInstance.1, isInstance.2⟩

/-- A generic parameter is found under its name. -/
theorem parameterNamed? (coherent : before.Coherent scope options) {id : ClassId}
    {context name : String} {parameter : ParameterId} (isNamed : before.IsNamed id context)
    (named : before.parameterNamed? id name = some parameter) :
    after.parameterNamed? (renumbering.classLikes id) name
      = some (renumbering.parameters parameter) := by
  rw [parameterNamed?_eq] at named ⊢
  have places : List.Forall₂ (fun parameter parameter' =>
      parameter' = renumbering.parameters parameter
        ∧ (after.parameter? parameter').map (·.identifier)
        = (before.parameter? parameter).map (·.identifier))
      (before.parametersOf id) (after.parametersOf (renumbering.classLikes id)) := by
    rw [corresponds.parametersOf isNamed, List.forall₂_map_right_iff, List.forall₂_same]
    intro parameter mem
    obtain ⟨place, here⟩ := List.mem_iff_getElem?.1 mem
    obtain ⟨found, known, _⟩ := coherent.owned_of_place isNamed here
    obtain ⟨found', known', same, _⟩ := corresponds.parameter known
    exact ⟨rfl, by rw [known, known', Option.map_some, Option.map_some, same]⟩
  have related := Related.find? (q := fun parameter =>
    (after.parameter? parameter).map (·.identifier) == some name) places
    fun _ _ same => by rw [same.2]
  rw [named] at related
  generalize List.find? _ (after.parametersOf (renumbering.classLikes id)) = found at related ⊢
  cases related with
  | some related => rw [related.1]

/-- A type denotes the same in the other library. -/
theorem denotes (coherent : before.Coherent scope options) {type : Ty} {tree : TypeTree}
    (denotes : before.Denotes type tree) : after.Denotes (renumbering.type type) tree := by
  cases tree with
  | primitive primitive n =>
    obtain rfl := denotes
    exact renumbering.type_array _ n
  | declared name n =>
    obtain ⟨id, classLike, rfl, declared⟩ := denotes
    obtain ⟨classLike', declared'⟩ := corresponds.isNamed ⟨classLike, declared⟩
    exact ⟨_, classLike', renumbering.type_array _ n, declared'⟩
  | applied name trees n =>
    obtain ⟨id, classLike, specialization, rfl, rest⟩ := denotes
    have element : before.Denotes (.classLike id) (.applied name trees 0) :=
      ⟨id, classLike, specialization, rfl, rest⟩
    obtain ⟨_, classLike', specialization', same, rest'⟩ := corresponds.classLike element
    cases ((Ty.eq_array_iff rfl rfl).1 same).1
    exact ⟨_, classLike', specialization', renumbering.type_array _ n, rest'⟩
  | parameter owner name n =>
    obtain ⟨parameter, id, classLike, rfl, declared, rfl, named⟩ := denotes
    have isNamed : before.IsNamed id classLike.identifier := ⟨classLike, declared, rfl⟩
    obtain ⟨classLike', declared', same⟩ := corresponds.isNamed isNamed
    exact ⟨_, _, classLike', renumbering.type_array _ n, declared', same,
      corresponds.parameterNamed? coherent isNamed named⟩

/-- What denotes the same is the same under the renumbering. -/
theorem type_eq (coherent : before.Coherent scope options)
    (coherent' : after.Coherent scope' options) {type type' : Ty} {tree : TypeTree}
    (denotes : before.Denotes type tree)
    (denotes' : after.Denotes type' tree) : type' = renumbering.type type :=
  coherent'.denotes_inj denotes' (corresponds.denotes coherent denotes)

theorem classLike_eq (coherent' : after.Coherent scope' options) {id id' : ClassId}
    {tree : TypeTree} (denotes : before.Denotes (.classLike id) tree)
    (denotes' : after.Denotes (.classLike id') tree) : id' = renumbering.classLikes id := by
  cases coherent'.denotes_inj denotes' (corresponds.classLike denotes)
  rfl

/-- What a class-like denotes in the other library, it denotes here. -/
theorem denotes_iff (coherent : before.Coherent scope options)
    (coherent' : after.Coherent scope' options) {id : ClassId} {classLike : ClassLike}
    (known : before.classLike? id = some classLike) {tree : TypeTree} :
    after.Denotes (.classLike (renumbering.classLikes id)) tree
      ↔ before.Denotes (.classLike id) tree := by
  refine ⟨fun denotes' => ?_, corresponds.classLike⟩
  obtain ⟨tree', denotes⟩ := coherent.exists_denotes known
  obtain rfl := (corresponds.classLike denotes).unique coherent'.toDeclares denotes'
  exact denotes

end Types

/-! ## Contents -/

section Contents

variable {context context' : String} (corresponds : before.Corresponds renumbering after)
  (coherent : before.Coherent scope options) (coherent' : after.Coherent scope' options)

include corresponds coherent coherent'

theorem means_eq {type type' : Ty} {tree : TypeTree}
    (means : before.Means scope options context type tree)
    (means' : after.Means scope' options context' type' tree) : type' = renumbering.type type :=
  corresponds.type_eq coherent coherent' means.denotes means'.denotes

theorem formal_eq {formal formal' : Formal} {named : NamedFormal}
    (spells : before.SpellsFormal scope options context formal named)
    (spells' : after.SpellsFormal scope' options context' formal' named) :
    formal' = renumbering.formal formal := by
  have bare := spells'.bare.trans spells.bare.symm
  have type := corresponds.means_eq coherent coherent' spells.type spells'.type
  cases formal
  cases formal'
  simp_all [Formal.bare, Renumbering.formal]

theorem attribute_eq {found found' : Attribute} {named : NamedAttribute}
    (spells : before.SpellsAttribute scope options context found named)
    (spells' : after.SpellsAttribute scope' options context' found' named) :
    found' = renumbering.field found := by
  have bare := spells'.bare.trans spells.bare.symm
  have type := corresponds.means_eq coherent coherent' spells.type spells'.type
  cases found
  cases found'
  simp_all [Attribute.bare, Renumbering.field]

theorem method_eq {method method' : Method} {named : NamedMethod}
    (spells : before.SpellsMethod scope options context method named)
    (spells' : after.SpellsMethod scope' options context' method' named) :
    method' = renumbering.method method := by
  have bare := spells'.bare.trans spells.bare.symm
  have returned : method'.returnType? = method.returnType?.map renumbering.type :=
    Related.optional_eq_map spells.returnType? spells'.returnType?
      fun _ _ _ => corresponds.means_eq coherent coherent'
  have formals : method'.formals = method.formals.map renumbering.formal :=
    Related.eq_map spells.formals spells'.formals
      fun _ _ _ => corresponds.formal_eq coherent coherent'
  cases method
  cases method'
  simp_all [Method.bare, Renumbering.method]

/-- The generic parameters of corresponding class-likes correspond, with their
bounds. -/
theorem parameter_eq {found found' : GenericParameter} {named : NamedParameter}
    (owner : found'.owner = renumbering.classLikes found.owner)
    (spells : before.SpellsParameter scope options context found named)
    (spells' : after.SpellsParameter scope' options context' found' named) :
    found' = renumbering.parameter found := by
  have identifier := spells'.identifier.trans spells.identifier.symm
  have upperBounds : found'.upperBounds = found.upperBounds.map renumbering.type :=
    Related.eq_map spells.upperBounds spells'.upperBounds
      fun _ _ _ => corresponds.means_eq coherent coherent'
  have lowerBound : found'.lowerBound? = found.lowerBound?.map renumbering.type :=
    Related.optional_eq_map spells.lowerBound? spells'.lowerBound?
      fun _ _ _ => corresponds.means_eq coherent coherent'
  cases found
  cases found'
  simp_all [Renumbering.parameter]

omit coherent in
theorem kind_eq {id id' : ClassId} {classLike classLike' : ClassLike} {named : NamedClass}
    (spells : before.SpellsClass scope options context id classLike named)
    (spells' : after.SpellsClass scope' options context' id' classLike' named) :
    classLike'.kind = renumbering.kind classLike.kind := by
  have superclass : classLike'.kind.superclass?
      = classLike.kind.superclass?.map renumbering.classLikes :=
    Related.optional_eq_map spells.superclass? spells'.superclass?
      fun _ _ _ means means' => corresponds.classLike_eq coherent' means.denotes means'.denotes
  have interfaces : classLike'.kind.interfaces
      = classLike.kind.interfaces.map renumbering.classLikes :=
    Related.eq_map spells.interfaces spells'.interfaces
      fun _ _ _ means means' => corresponds.classLike_eq coherent' means.denotes means'.denotes
  have rest := spells'.kind.trans spells.kind.symm
  generalize classLike.kind = kind, classLike'.kind = kind' at superclass interfaces rest
  cases kind <;> cases kind' <;>
    simp_all [Kind.withoutSupertypes, Kind.withSuperclass, Kind.withInterfaces, Kind.superclass?,
      Kind.interfaces, Renumbering.kind]

/-- What corresponds was asked for in the same way. -/
theorem specialization_eq {id : ClassId} {classLike classLike' : ClassLike}
    (known : before.classLike? id = some classLike)
    (known' : after.classLike? (renumbering.classLikes id) = some classLike')
    (materialized : classLike'.specialization?.map (·.isMaterialized)
      = classLike.specialization?.map (·.isMaterialized)) :
    classLike'.specialization? = classLike.specialization?.map renumbering.specialization := by
  cases specialized : classLike.specialization? with
  | none => simpa [specialized] using materialized
  | some specialization =>
    obtain ⟨base, arguments, instantiates⟩ := coherent.instantiates known specialized
    have isInstance := corresponds.isInstance (instantiates.isInstance known specialized)
    obtain ⟨_, _, specialization', base', same, known'', name, specialized', instantiates'⟩ :=
      coherent'.of_denotes_applied isInstance.1
    cases same
    cases known'.symm.trans known''
    rw [specialized, specialized', Option.map_some, Option.map_some, Option.some.injEq]
      at materialized
    have sameBase : specialization'.base = renumbering.classLikes specialization.base :=
      coherent'.isNamed_inj ⟨base', instantiates'.declared, name⟩
        (corresponds.isNamed ⟨base, instantiates.declared, rfl⟩)
    have sameArguments : specialization'.arguments
        = specialization.arguments.map renumbering.type :=
      Related.eq_map (denotesAll_iff.1 instantiates.denotes)
        (denotesAll_iff.1 instantiates'.denotes)
        fun _ _ _ => corresponds.type_eq coherent coherent'
    have signature := instantiates'.signature.trans (name ▸ instantiates.signature.symm)
    have depth := instantiates'.depth.trans (name ▸ instantiates.depth.symm)
    rw [specialized', Option.map_some]
    cases specialization
    cases specialization'
    simp_all [Renumbering.specialization]

theorem genericParameters_eq {id : ClassId} {classLike classLike' : ClassLike}
    (known : before.classLike? id = some classLike)
    (known' : after.classLike? (renumbering.classLikes id) = some classLike') :
    classLike'.genericParameters = classLike.genericParameters.map renumbering.parameters := by
  cases specialized : classLike.specialization? with
  | none =>
    have same := corresponds.parametersOf ⟨classLike, ⟨known, specialized⟩, rfl⟩
    simpa [Library.parametersOf, known, known'] using same
  | some specialization =>
    obtain ⟨base, arguments, instantiates⟩ := coherent.instantiates known specialized
    have isInstance := corresponds.isInstance (instantiates.isInstance known specialized)
    obtain ⟨_, _, _, _, same, known'', _, _, instantiates'⟩ :=
      coherent'.of_denotes_applied isInstance.1
    cases same
    cases known'.symm.trans known''
    rw [instantiates.genericParameters, instantiates'.genericParameters, List.map_nil]

/-- Corresponding class-likes that spell the same named one are the same, up to
their caches. -/
theorem classLike_renumbered {id : ClassId} {classLike classLike' : ClassLike}
    (alike : before.SpellAlike after scope scope' options id (renumbering.classLikes id) classLike
      classLike') :
    classLike' = { renumbering.classLike classLike with localCache := classLike'.localCache } := by
  obtain ⟨known, known', materialized, context, context', named, spells, spells'⟩ := alike
  have bare := spells'.bare.trans spells.bare.symm
  have kind := corresponds.kind_eq coherent' spells spells'
  have genericParameters := corresponds.genericParameters_eq coherent coherent' known known'
  have specialization := corresponds.specialization_eq coherent coherent' known known' materialized
  have methods : classLike'.methods = classLike.methods.map renumbering.method :=
    Related.eq_map spells.methods spells'.methods
      fun _ _ _ => corresponds.method_eq coherent coherent'
  have attributes : classLike'.attributes = classLike.attributes.map renumbering.field :=
    Related.eq_map spells.attributes spells'.attributes
      fun _ _ _ => corresponds.attribute_eq coherent coherent'
  clear known known' materialized spells spells'
  cases classLike
  cases classLike'
  simp_all [ClassLike.bare, Renumbering.classLike]

/-- The generic parameters of corresponding class-likes correspond. -/
theorem parameter?_eq {id : ClassId} {classLike classLike' : ClassLike}
    (alike : before.SpellAlike after scope scope' options id (renumbering.classLikes id) classLike
      classLike') {parameter : ParameterId} (mem : parameter ∈ classLike.genericParameters) :
    after.parameter? (renumbering.parameters parameter)
      = (before.parameter? parameter).map renumbering.parameter := by
  obtain ⟨known, known', _, context, context', named, spells, spells'⟩ := alike
  have both := Related.join (q := fun parameter parameter' => after.parameter? parameter'
      = (before.parameter? parameter).map renumbering.parameter) spells.parameters
    spells'.parameters (by
      rintro named _ parameter parameter' ⟨found, known, owner, spells⟩
        ⟨found', known', owner', spells'⟩
      rw [known, known', Option.map_some,
        corresponds.parameter_eq coherent coherent' (by rw [owner, owner']) spells spells'])
  rw [corresponds.genericParameters_eq coherent coherent' known known',
    List.forall₂_map_right_iff, List.forall₂_same] at both
  exact both parameter mem

end Contents

/-! ## Diagnostics -/

/-- Diagnostics that tell the same are the same, under the renumbering. -/
theorem diagnostic_eq (corresponds : before.Corresponds renumbering after)
    (coherent' : after.Coherent scope' options) {diagnostic diagnostic' : Diagnostic}
    {named : NamedDiagnostic} (tells : before.Tells diagnostic named)
    (tells' : after.Tells diagnostic' named) : diagnostic' = renumbering.diagnostic diagnostic := by
  have mentioned : diagnostic'.mentioned = diagnostic.mentioned.map renumbering.classLikes :=
    Related.eq_map tells.2 tells'.2 fun _ _ _ => corresponds.classLike_eq coherent'
  rw [← diagnostic'.mentioning_mentioned, tells'.1, ← tells.1, mentioned,
    ← renumbering.bare_diagnostic, ← renumbering.mentioned_diagnostic,
    Diagnostic.mentioning_mentioned]

/-! ## Caches -/

section Caches

variable {place? : Option ClassId} (corresponds : before.Corresponds renumbering after)

include corresponds

theorem hosts {tree : TypeTree} (hosts : before.Hosts place? tree) :
    after.Hosts (place?.map renumbering.classLikes) tree := by
  unfold Hosts at *
  generalize tree.owners.head? = owner? at *
  cases hosts with
  | none => exact .none
  | some isNamed => exact .some (corresponds.isNamed isNamed)

variable (coherent : before.Coherent scope options) (coherent' : after.Coherent scope' options)

include coherent coherent'

/-- What is hosted in the other library is hosted here. -/
theorem hosts_back (known : ∀ id ∈ place?, (before.classLike? id).isSome) {tree : TypeTree}
    (hosts : after.Hosts (place?.map renumbering.classLikes) tree) : before.Hosts place? tree := by
  unfold Hosts at *
  generalize tree.owners.head? = owner? at *
  cases place? with
  | none =>
    cases hosts
    exact .none
  | some id =>
    obtain ⟨classLike, known⟩ := Option.isSome_iff_exists.1 (known id rfl)
    cases hosts with
    | some isNamed =>
      exact .some ((corresponds.denotes_iff coherent coherent' known).1 isNamed.denotes).isNamed

/-- What is cached is cached under the same key in the other library. -/
theorem mem_cacheOf {key : String} {id : ClassId} (mem : (key, id) ∈ before.cacheOf place?) :
    (key, renumbering.classLikes id) ∈ after.cacheOf (place?.map renumbering.classLikes) := by
  obtain ⟨tree, isInstance, hosts, same⟩ := coherent.mem_cacheOf.1 mem
  exact coherent'.mem_cacheOf.2
    ⟨tree, corresponds.isInstance isInstance, corresponds.hosts hosts, same⟩

/-- Corresponding caches have corresponding entries, if the other library has
no further instantiation to cache there. -/
theorem perm_cacheOf (known : ∀ id ∈ place?, (before.classLike? id).isSome)
    (has : ∀ tree, after.Has tree → before.Hosts place? tree → before.Has tree) :
    (renumbering.cache (before.cacheOf place?)).Perm
      (after.cacheOf (place?.map renumbering.classLikes)) := by
  have nodup : (renumbering.cache (before.cacheOf place?)).Nodup := by
    refine List.Nodup.map ?_ coherent.cacheOf_nodup
    rintro ⟨key, id⟩ ⟨key', id'⟩ same
    simpa [renumbering.classLikes_inj.eq_iff] using same
  rw [List.perm_ext_iff_of_nodup nodup coherent'.cacheOf_nodup]
  intro entry
  constructor
  · intro mem
    obtain ⟨⟨key, id⟩, cached, rfl⟩ := List.mem_map.1 mem
    exact corresponds.mem_cacheOf coherent coherent' cached
  · intro mem
    obtain ⟨tree, isInstance', hosts', same⟩ := coherent'.mem_cacheOf.1 mem
    have hosts := corresponds.hosts_back coherent coherent' known hosts'
    obtain ⟨id, isInstance⟩ := has tree ⟨_, isInstance'⟩ hosts
    refine List.mem_map.2
      ⟨(tree.key, id), coherent.mem_cacheOf.2 ⟨tree, isInstance, hosts, rfl⟩, ?_⟩
    exact Prod.ext same.symm
      (coherent'.canonical isInstance' (corresponds.isInstance isInstance)).symm

end Caches

/-! ## Libraries -/

section Libraries

variable (corresponds : before.Corresponds renumbering after)
  (coherent : before.Coherent scope options) (coherent' : after.Coherent scope' options)
  (narrower : ∀ name shape, scope' name = some shape → scope name = some shape)
  (has : ∀ tree, after.Has tree → before.Has tree)

include corresponds coherent coherent' narrower has

/-- Every class-like of the other library corresponds to one of the library. -/
theorem exists_denotes {id : ClassId} {tree : TypeTree}
    (denotes' : after.Denotes (.classLike (renumbering.classLikes id)) tree) :
    before.Denotes (.classLike id) tree := by
  obtain ⟨original, denotes⟩ : ∃ original, before.Denotes (.classLike original) tree := by
    rcases denotes'.classLike_cases with ⟨name, rfl, isNamed'⟩ | ⟨_, _, _, isInstance'⟩
    · obtain ⟨original, isNamed⟩ := exists_isNamed coherent' coherent narrower isNamed'
      exact ⟨original, isNamed.denotes⟩
    · obtain ⟨original, isInstance⟩ := has tree ⟨_, isInstance'⟩
      exact ⟨original, isInstance.1⟩
  obtain rfl : id = original :=
    renumbering.classLikes_inj (corresponds.classLike_eq coherent' denotes denotes')
  exact denotes

theorem isSome_classLike? (id : ClassId) :
    (after.classLike? (renumbering.classLikes id)).isSome = (before.classLike? id).isSome := by
  rw [Bool.eq_iff_iff, Option.isSome_iff_exists]
  constructor
  · rintro ⟨classLike', known'⟩
    obtain ⟨tree, denotes'⟩ := coherent'.exists_denotes known'
    exact (corresponds.exists_denotes coherent coherent' narrower has denotes').knows
  · intro known
    obtain ⟨classLike, known⟩ := Option.isSome_iff_exists.1 known
    obtain ⟨tree, denotes⟩ := coherent.exists_denotes known
    exact Option.isSome_iff_exists.1 (corresponds.classLike denotes).knows

theorem isSome_parameter? (parameter : ParameterId) :
    (after.parameter? (renumbering.parameters parameter)).isSome
      = (before.parameter? parameter).isSome := by
  rw [Bool.eq_iff_iff, Option.isSome_iff_exists, Option.isSome_iff_exists]
  constructor
  · rintro ⟨found', known'⟩
    obtain ⟨classLike', declared', mem'⟩ := coherent'.owner_mem known'
    obtain ⟨owner, same⟩ := renumbering.classLikes.surjective found'.owner
    rw [← same] at declared'
    have isNamed := (corresponds.exists_denotes coherent coherent' narrower has
      (IsNamed.denotes ⟨classLike', declared', rfl⟩)).isNamed
    have listed := corresponds.parametersOf isNamed
    rw [Library.parametersOf, declared'.1, Option.map_some, Option.getD_some] at listed
    rw [listed, List.mem_map_of_injective renumbering.parameters.injective] at mem'
    obtain ⟨place, here⟩ := List.mem_iff_getElem?.1 mem'
    obtain ⟨found, known, _⟩ := coherent.owned_of_place isNamed here
    exact ⟨found, known⟩
  · rintro ⟨found, known⟩
    obtain ⟨found', known', _⟩ := corresponds.parameter known
    exact ⟨found', known'⟩

theorem types_perm : (before.types.map renumbering.classLikes).Perm after.types := by
  rw [List.perm_ext_iff_of_nodup
    ((List.nodup_map_iff renumbering.classLikes_inj).2 coherent.types_nodup) coherent'.types_nodup]
  intro id
  obtain ⟨id, rfl⟩ := renumbering.classLikes.surjective id
  rw [List.mem_map_of_injective renumbering.classLikes_inj, coherent.mem_types, coherent'.mem_types]
  constructor
  · rintro ⟨classLike, declared⟩
    obtain ⟨classLike', declared', _⟩ := corresponds.isNamed ⟨classLike, declared, rfl⟩
    exact ⟨classLike', declared'⟩
  · rintro ⟨classLike', declared'⟩
    obtain ⟨classLike, declared, _⟩ := (corresponds.exists_denotes coherent coherent' narrower has
      (IsNamed.denotes ⟨classLike', declared', rfl⟩)).isNamed
    exact ⟨classLike, declared⟩

/-- Libraries are the same under different identifiers, if each has what the
other one has, and corresponding class-likes spell the same. -/
theorem renumbered (alike : ∀ id classLike, before.classLike? id = some classLike →
      ∃ classLike', before.SpellAlike after scope scope' options id (renumbering.classLikes id)
        classLike classLike') : before.Renumbered renumbering after where
  classLike? id := by
    have both := corresponds.isSome_classLike? coherent coherent' narrower has id
    cases known : before.classLike? id with
    | none =>
      rw [known, Option.isSome_none, Option.isSome_eq_false_iff, Option.isNone_iff_eq_none] at both
      rw [both]
      exact .none
    | some classLike =>
      obtain ⟨classLike', alike⟩ := alike id classLike known
      have cache : (renumbering.cache (before.cacheOf (some id))).Perm
          (after.cacheOf (some (renumbering.classLikes id))) :=
        corresponds.perm_cacheOf coherent coherent' (by simp [known]) fun tree has' _ =>
          has tree has'
      rw [cacheOf, cacheOf, known, alike.known'] at cache
      rw [alike.known']
      exact .some ⟨cache, corresponds.classLike_renumbered coherent coherent' alike⟩
  parameter? parameter := by
    have both := corresponds.isSome_parameter? coherent coherent' narrower has parameter
    cases known : before.parameter? parameter with
    | none =>
      rw [known, Option.isSome_none, Option.isSome_eq_false_iff, Option.isNone_iff_eq_none] at both
      rw [both, Option.map_none]
    | some found =>
      obtain ⟨classLike, declared, mem⟩ := coherent.owner_mem known
      obtain ⟨classLike', alike⟩ := alike _ _ declared.1
      rw [← known]
      exact corresponds.parameter?_eq coherent coherent' alike mem
  types := corresponds.types_perm coherent coherent' narrower has
  typeCache := by
    have cache : (renumbering.cache (before.cacheOf none)).Perm (after.cacheOf none) :=
      corresponds.perm_cacheOf coherent coherent' (by simp) fun tree has' _ => has tree has'
    exact cache

end Libraries

theorem byIdentifier?_eq (corresponds : before.Corresponds renumbering after)
    (coherent : before.Coherent scope options) (coherent' : after.Coherent scope' options)
    {name : String} (narrower : scope name = none → scope' name = none) :
    after.byIdentifier? name = (before.byIdentifier? name).map renumbering.classLikes := by
  cases found : before.byIdentifier? name with
  | none =>
    exact coherent'.byIdentifier?_eq_none_iff.2
      (narrower (coherent.byIdentifier?_eq_none_iff.1 found))
  | some id =>
    exact coherent'.byIdentifier?_eq_some_iff.2
      (corresponds.isNamed (coherent.byIdentifier?_eq_some_iff.1 found))

end Corresponds

end Library

/-! ## Compiled libraries -/

section Compiled

variable {options : Options} {declarations declarations' : List Declaration}
  {names names' : List String} {before after : Library} {diagnostics diagnostics' : List Diagnostic}
  {renumbering : Renumbering}

/-- Where declared class-likes and instantiations have the same contents, the
class-likes of compiled libraries spell alike. -/
theorem Compiled.exists_spellAlike
    (compiled : Compiled options declarations names before diagnostics)
    (compiled' : Compiled options declarations' names' after diagnostics')
    (corresponds : before.Corresponds renumbering after)
    (declared : ∀ id name, before.IsNamed id name →
      contentOf options declarations names name = contentOf options declarations' names' name)
    (instances : ∀ name trees, before.Has (.applied name trees 0) →
      ((scopeOf declarations).instanceOf options
        (contentOf options declarations names) name trees).value
        = ((scopeOf declarations').instanceOf options (contentOf options declarations' names') name
          trees).value)
    {id : ClassId} {classLike : ClassLike} (known : before.classLike? id = some classLike) :
    ∃ classLike', before.SpellAlike after (scopeOf declarations) (scopeOf declarations') options id
      (renumbering.classLikes id) classLike classLike' := by
  obtain ⟨tree, denotes⟩ := compiled.coherent.exists_denotes known
  rcases denotes.classLike_cases with ⟨name, rfl, isNamed⟩ | ⟨name, trees, rfl, isInstance⟩
  · have isNamed' := corresponds.isNamed isNamed
    obtain ⟨_, known₁, spells⟩ := compiled.realizes id name isNamed
    obtain ⟨classLike', known', spells'⟩ := compiled'.realizes _ name isNamed'
    rw [← declared id name isNamed] at spells'
    obtain ⟨_, plain, _⟩ := isNamed
    obtain ⟨_, plain', _⟩ := isNamed'
    cases known.symm.trans known₁
    cases known.symm.trans plain.1
    cases known'.symm.trans plain'.1
    exact ⟨classLike', known, known', by rw [plain.2, plain'.2], name, name, _, spells, spells'⟩
  · have isInstance' := corresponds.isInstance isInstance
    have filledIn := (compiled.complete isInstance).filledIn isInstance
    have filledIn' := (compiled'.complete isInstance').filledIn isInstance'
    obtain ⟨context, _, _, _, _, known₁, spells⟩ := filledIn.spells
    obtain ⟨context', _, _, _, classLike', known', spells'⟩ := filledIn'.spells
    rw [← instances name trees ⟨id, isInstance⟩] at spells'
    cases known.symm.trans known₁
    obtain ⟨specialization, found, filled⟩ := filledIn.isMaterialized
    obtain ⟨specialization', found', filled'⟩ := filledIn'.isMaterialized
    rw [Library.specialization?, known, Option.bind_some] at found
    rw [Library.specialization?, known', Option.bind_some] at found'
    exact ⟨classLike', known, known', by simp [found, found', filled, filled'], context, context',
      _, spells, spells'⟩

end Compiled

end ClassModel
