import ClassModel.Compile.Resolve
import ClassModel.Proofs.Key
import ClassModel.Proofs.Related
import Mathlib.Logic.Basic

/-!
# ClassModel.Proofs.Denotation

What the types of a library stand for. `Library.Declares` says that the
declared class-likes of a library are those of a scope, each under one
identifier; `Library.Denotes` relates a type, which refers to class-likes and
generic parameters by identifier, to the tree that spells it out by names.

A type denotes at most one tree (`Denotes.unique`), whatever instantiations the
library holds.
-/

namespace ClassModel

namespace Library

/-- The class-like is declared, as opposed to an instantiation. -/
def IsDeclared (library : Library) (id : ClassId) (classLike : ClassLike) : Prop :=
  library.classLike? id = some classLike ∧ classLike.specialization? = none

/-- The name of a generic parameter. -/
def parameterName (library : Library) (id : ParameterId) : String :=
  ((library.parameter? id).map (·.identifier)).getD ""

/-- What a scope knows about a class-like of the library. -/
def shapeOf (library : Library) (classLike : ClassLike) : Shape :=
  ⟨classLike.kind.keyword, classLike.genericParameters.map library.parameterName⟩

/-- The declared class-likes of the library are those of the scope. -/
structure Declares (library : Library) (scope : Scope) : Prop where
  types_nodup : library.types.Nodup
  mem_types {id : ClassId} : id ∈ library.types ↔ ∃ classLike, library.IsDeclared id classLike
  identifier_inj {id id' : ClassId} {classLike classLike' : ClassLike} :
    library.IsDeclared id classLike → library.IsDeclared id' classLike' →
      classLike.identifier = classLike'.identifier → id = id'
  scope_iff {name : String} {shape : Shape} :
    scope name = some shape ↔ ∃ id classLike, library.IsDeclared id classLike
      ∧ classLike.identifier = name ∧ library.shapeOf classLike = shape
  owned {id : ClassId} {classLike : ClassLike} {parameter : ParameterId} :
    library.IsDeclared id classLike → parameter ∈ classLike.genericParameters →
      ∃ found, library.parameter? parameter = some found ∧ found.owner = id
  genericParameters_nodup {id : ClassId} {classLike : ClassLike} :
    library.IsDeclared id classLike → classLike.genericParameters.Nodup
  owner_mem {parameter : ParameterId} {found : GenericParameter} :
    library.parameter? parameter = some found → ∃ classLike,
      library.IsDeclared found.owner classLike ∧ parameter ∈ classLike.genericParameters
  enum_parameters {name : String} {shape : Shape} :
    scope name = some shape → shape.keyword = .enum → shape.parameters = []
  isName {name : String} {shape : Shape} :
    scope name = some shape → IsName name ∧ ∀ parameter ∈ shape.parameters, IsName parameter
  object : scope Standard.objectIdentifier = some ⟨.class, []⟩

/-! ## Names -/

namespace Declares

variable {library : Library} {scope : Scope}

theorem scope_identifier (declares : library.Declares scope) {id : ClassId} {classLike : ClassLike}
    (declared : library.IsDeclared id classLike) :
    scope classLike.identifier = some (library.shapeOf classLike) :=
  declares.scope_iff.2 ⟨id, classLike, declared, rfl, rfl⟩

/-- Looking up a name finds the declared class-like that bears it. -/
theorem byIdentifier?_eq_some_iff (declares : library.Declares scope) {name : String}
    {id : ClassId} : library.byIdentifier? name = some id
      ↔ ∃ classLike, library.IsDeclared id classLike ∧ classLike.identifier = name := by
  have bears {id : ClassId} : ((library.classLike? id).map (·.identifier) == some name) = true
      ↔ ∃ classLike, library.classLike? id = some classLike ∧ classLike.identifier = name := by
    simp
  have sound {id : ClassId} (found : library.byIdentifier? name = some id) :
      ∃ classLike, library.IsDeclared id classLike ∧ classLike.identifier = name := by
    unfold byIdentifier? at found
    have named := List.find?_some found
    obtain ⟨classLike, known, named⟩ := bears.1 named
    obtain ⟨classLike', declared⟩ := declares.mem_types.1 (List.mem_of_find?_eq_some found)
    obtain rfl : classLike' = classLike := Option.some.inj (declared.1.symm.trans known)
    exact ⟨classLike', declared, named⟩
  constructor
  · exact sound
  · rintro ⟨classLike, declared, named⟩
    cases found : library.byIdentifier? name with
    | none =>
      have := List.find?_eq_none.1 found id (declares.mem_types.2 ⟨classLike, declared⟩)
      exact absurd (bears.2 ⟨classLike, declared.1, named⟩) this
    | some other =>
      obtain ⟨classLike', declared', named'⟩ := sound found
      rw [declares.identifier_inj declared declared' (named.trans named'.symm)]

theorem byIdentifier?_identifier (declares : library.Declares scope) {id : ClassId}
    {classLike : ClassLike} (declared : library.IsDeclared id classLike) :
    library.byIdentifier? classLike.identifier = some id :=
  declares.byIdentifier?_eq_some_iff.2 ⟨classLike, declared, rfl⟩

/-- A name is found exactly if the scope knows it. -/
theorem byIdentifier?_eq_none_iff (declares : library.Declares scope) {name : String} :
    library.byIdentifier? name = none ↔ scope name = none := by
  rw [← Option.not_isSome_iff_eq_none, ← Option.not_isSome_iff_eq_none, not_iff_not,
    Option.isSome_iff_exists, Option.isSome_iff_exists]
  constructor
  · rintro ⟨id, found⟩
    obtain ⟨classLike, declared, rfl⟩ := declares.byIdentifier?_eq_some_iff.1 found
    exact ⟨_, declares.scope_identifier declared⟩
  · rintro ⟨shape, known⟩
    obtain ⟨id, classLike, declared, rfl, rfl⟩ := declares.scope_iff.1 known
    exact ⟨id, declares.byIdentifier?_identifier declared⟩

end Declares

/-! ## Denotation -/

mutual

/-- The type of the library is the one that the tree spells. -/
def Denotes (library : Library) : Ty → TypeTree → Prop
  | type, .primitive primitive n => type = (Ty.primitive primitive).array n
  | type, .declared name n => ∃ id classLike, type = (Ty.classLike id).array n
      ∧ library.IsDeclared id classLike ∧ classLike.identifier = name
  | type, .applied name arguments n => ∃ id classLike specialization,
      type = (Ty.classLike id).array n
      ∧ library.classLike? id = some classLike ∧ classLike.identifier = name
      ∧ classLike.specialization? = some specialization
      ∧ library.DenotesAll specialization.arguments arguments
  | type, .parameter owner name n => ∃ parameter id classLike,
      type = (Ty.parameter parameter).array n
      ∧ library.IsDeclared id classLike ∧ classLike.identifier = owner
      ∧ library.parameterNamed? id name = some parameter

/-- The types of the library are those that the trees spell. -/
def DenotesAll (library : Library) : List Ty → List TypeTree → Prop
  | types, [] => types = []
  | types, tree :: trees => ∃ type rest, types = type :: rest
      ∧ library.Denotes type tree ∧ library.DenotesAll rest trees

end

/-- The class-like is the instantiation that the tree spells. -/
def IsInstance (library : Library) (id : ClassId) (tree : TypeTree) : Prop :=
  library.Denotes (.classLike id) tree ∧ ∃ name arguments, tree = .applied name arguments 0

variable {library : Library}

theorem IsInstance.exists_specialization {id : ClassId} {tree : TypeTree}
    (isInstance : library.IsInstance id tree) : ∃ classLike specialization,
      library.classLike? id = some classLike ∧ classLike.specialization? = some specialization := by
  obtain ⟨denotes, name, arguments, rfl⟩ := isInstance
  obtain ⟨_, classLike, specialization, same, known, _, specialized, _⟩ := denotes
  cases same
  exact ⟨classLike, specialization, known, specialized⟩

theorem denotesAll_iff {types : List Ty} {trees : List TypeTree} :
    library.DenotesAll types trees ↔ List.Forall₂ library.Denotes types trees := by
  induction trees generalizing types with
  | nil => simp [DenotesAll]
  | cons tree trees ih =>
    rw [DenotesAll]
    constructor
    · rintro ⟨type, rest, rfl, first, later⟩
      exact .cons first (ih.1 later)
    · rintro (_ | ⟨first, later⟩)
      exact ⟨_, _, rfl, first, ih.2 later⟩

theorem Denotes.array {type : Ty} {tree : TypeTree} (denotes : library.Denotes type tree)
    (n : Nat) : library.Denotes (type.array n) (tree.array n) := by
  cases tree with
  | primitive primitive m =>
    rw [Denotes] at denotes
    exact denotes ▸ Ty.array_array ..
  | declared name m =>
    obtain ⟨id, classLike, rfl, found⟩ := denotes
    exact ⟨id, classLike, Ty.array_array .., found⟩
  | applied name arguments m =>
    obtain ⟨id, classLike, specialization, rfl, found⟩ := denotes
    exact ⟨id, classLike, specialization, Ty.array_array .., found⟩
  | parameter owner name m =>
    obtain ⟨parameter, id, classLike, rfl, found⟩ := denotes
    exact ⟨parameter, id, classLike, Ty.array_array .., found⟩

/-- A type that spells a tree is in normal form. -/
theorem Denotes.isNormal {type : Ty} {tree : TypeTree} (denotes : library.Denotes type tree) :
    type.IsNormal := by
  cases tree with
  | primitive primitive n =>
    rw [Denotes] at denotes
    exact denotes ▸ Ty.isNormal_array rfl n
  | declared name n =>
    obtain ⟨id, _, rfl, _⟩ := denotes
    exact Ty.isNormal_array rfl n
  | applied name arguments n =>
    obtain ⟨id, _, _, rfl, _⟩ := denotes
    exact Ty.isNormal_array rfl n
  | parameter owner name n =>
    obtain ⟨parameter, _, _, rfl, _⟩ := denotes
    exact Ty.isNormal_array rfl n

/-- The class-like or the generic parameter that the type refers to is part of
the library. -/
def Knows (library : Library) : Ty → Prop
  | .primitive _ => True
  | .classLike id => (library.classLike? id).isSome
  | .parameter id => (library.parameter? id).isSome
  | .arrayOf item _ => library.Knows item

@[simp] theorem knows_array (type : Ty) (n : Nat) :
    library.Knows (type.array n) = library.Knows type :=
  type.apply_array (fun _ known => known) (fun _ _ => rfl) (fun _ => rfl) (fun _ _ _ => rfl) n

theorem parameterNamed?_eq_some {id : ClassId} {classLike : ClassLike} {name : String}
    {parameter : ParameterId} (known : library.classLike? id = some classLike)
    (named : library.parameterNamed? id name = some parameter) :
    parameter ∈ classLike.genericParameters
      ∧ ∃ found, library.parameter? parameter = some found ∧ found.identifier = name := by
  simp only [parameterNamed?, known, Option.bind_eq_bind, Option.bind_some] at named
  have bears := List.find?_some named
  exact ⟨List.mem_of_find?_eq_some named, by simpa using bears⟩

/-- A type that spells a tree refers to something. -/
theorem Denotes.knows {type : Ty} {tree : TypeTree} (denotes : library.Denotes type tree) :
    library.Knows type := by
  cases tree with
  | primitive primitive n =>
    obtain rfl := denotes
    simp [Knows]
  | declared name n =>
    obtain ⟨id, classLike, rfl, declared, _⟩ := denotes
    simp [Knows, declared.1]
  | applied name trees n =>
    obtain ⟨id, classLike, specialization, rfl, known, _⟩ := denotes
    simp [Knows, known]
  | parameter owner name n =>
    obtain ⟨parameter, id, classLike, rfl, declared, _, named⟩ := denotes
    obtain ⟨_, found, known, _⟩ := parameterNamed?_eq_some declared.1 named
    simp [Knows, known]

/-- A type spells at most one tree. -/
theorem Denotes.unique {scope : Scope} (declares : library.Declares scope) {type : Ty}
    {tree tree' : TypeTree} (denotes : library.Denotes type tree)
    (denotes' : library.Denotes type tree') : tree = tree' := by
  induction tree generalizing type tree' with
  | primitive primitive n =>
    cases tree' <;> simp_all [Denotes]
  | declared name n =>
    obtain ⟨id, classLike, rfl, declared, rfl⟩ := denotes
    cases tree' with
    | primitive primitive m => simp [Denotes] at denotes'
    | declared name' m =>
      obtain ⟨id', classLike', same, declared', rfl⟩ := denotes'
      obtain ⟨⟨⟩, rfl⟩ := (Ty.array_inj rfl rfl).1 same
      cases declared.1.symm.trans declared'.1
      rfl
    | applied name' arguments m =>
      obtain ⟨id', classLike', specialization, same, known, _, specialized, _⟩ := denotes'
      obtain ⟨⟨⟩, rfl⟩ := (Ty.array_inj rfl rfl).1 same
      cases declared.1.symm.trans known
      simp [declared.2] at specialized
    | parameter owner name' m => simp [Denotes] at denotes'
  | applied name arguments n ih =>
    obtain ⟨id, classLike, specialization, rfl, known, rfl, specialized, all⟩ := denotes
    cases tree' with
    | primitive primitive m => simp [Denotes] at denotes'
    | declared name' m =>
      obtain ⟨id', classLike', same, declared, rfl⟩ := denotes'
      obtain ⟨⟨⟩, rfl⟩ := (Ty.array_inj rfl rfl).1 same
      cases known.symm.trans declared.1
      exact absurd declared.2 (by simp [specialized])
    | applied name' arguments' m =>
      obtain ⟨id', classLike', specialization', same, known', rfl, specialized', all'⟩ := denotes'
      obtain ⟨⟨⟩, rfl⟩ := (Ty.array_inj rfl rfl).1 same
      cases known.symm.trans known'
      cases specialized.symm.trans specialized'
      rw [denotesAll_iff] at all all'
      rw [Related.unique all all' fun tree mem _ _ first first' => ih tree mem first first']
    | parameter owner name' m => simp [Denotes] at denotes'
  | parameter owner name n =>
    obtain ⟨parameter, id, classLike, rfl, declared, rfl, named⟩ := denotes
    cases tree' with
    | primitive primitive m => simp [Denotes] at denotes'
    | declared name' m => simp [Denotes] at denotes'
    | applied name' arguments m => simp [Denotes] at denotes'
    | parameter owner' name' m =>
      obtain ⟨parameter', id', classLike', same, declared', rfl, named'⟩ := denotes'
      obtain ⟨⟨⟩, rfl⟩ := (Ty.array_inj rfl rfl).1 same
      obtain ⟨mem, found, known, rfl⟩ := parameterNamed?_eq_some declared.1 named
      obtain ⟨mem', found', known', rfl⟩ := parameterNamed?_eq_some declared'.1 named'
      cases known.symm.trans known'
      obtain ⟨found₁, known₁, owner⟩ := declares.owned declared mem
      obtain ⟨found₂, known₂, owner'⟩ := declares.owned declared' mem'
      cases known₁.symm.trans known₂
      cases owner.symm.trans owner'
      cases declared.1.symm.trans declared'.1
      rfl

end Library

end ClassModel
