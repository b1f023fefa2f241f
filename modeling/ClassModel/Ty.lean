import ClassModel.Operator
import ClassModel.Value

/-!
# ClassModel.Ty

The types of the language. An array has items and a number of dimensions. Its
items could be arrays again, and it could have no dimension at all; then one
array would have many forms. `Ty.array` makes arrays of the normal form only
(`Ty.IsNormal`): it adds dimensions to those that are there (`array_array`).
-/

namespace ClassModel

/-- Identifies a class, interface or enum, instantiations included. -/
abbrev ClassId := Id "ClassLike"

/-- Identifies a generic parameter. -/
abbrev ParameterId := Id "GenericParameter"

/-- A type of the language. -/
inductive Ty where
  | primitive (type : Primitive)
  /-- The instances of a class-like, or of an instantiation of a generic one. -/
  | classLike (id : ClassId)
  /-- What a generic parameter stands for, as long as nothing is substituted for it. -/
  | parameter (id : ParameterId)
  /-- Arrays of the items, in whatever form. -/
  | arrayOf (item : Ty) (dimension : Nat)
  deriving DecidableEq, Inhabited

namespace Ty

/-- The type `void`, which also stands for a type that could not be read. -/
def void : Ty := primitive .void

/-! ## Arrays -/

/-- Whether the type is an array. -/
def isArray : Ty → Bool
  | arrayOf .. => true
  | primitive _ | classLike _ | parameter _ => false

@[simp] theorem isArray_primitive (type : Primitive) : (primitive type).isArray = false := by rfl

@[simp] theorem isArray_classLike (id : ClassId) : (classLike id).isArray = false := by rfl

@[simp] theorem isArray_parameter (id : ParameterId) : (parameter id).isArray = false := by rfl

@[simp] theorem isArray_arrayOf (item : Ty) (n : Nat) : (arrayOf item n).isArray = true := by rfl

/-- Arrays of the type, in the given number of dimensions. Those of an array
are added to. -/
def array (type : Ty) (dimension : Nat) : Ty :=
  if dimension = 0 then type
  else
    match type with
    | arrayOf item inner => arrayOf item (inner + dimension)
    | primitive _ | classLike _ | parameter _ => arrayOf type dimension

/-- An array holds something that is no array, and has at least one dimension. -/
def IsNormal : Ty → Prop
  | arrayOf item dimension => item.isArray = false ∧ 0 < dimension
  | primitive _ | classLike _ | parameter _ => True

instance (type : Ty) : Decidable type.IsNormal :=
  match type with
  | arrayOf item dimension =>
    inferInstanceAs (Decidable (item.isArray = false ∧ 0 < dimension))
  | primitive _ | classLike _ | parameter _ => inferInstanceAs (Decidable True)

@[simp] theorem array_zero (type : Ty) : type.array 0 = type := rfl

theorem array_arrayOf (item : Ty) (inner : Nat) {dimension : Nat} (positive : 0 < dimension) :
    (arrayOf item inner).array dimension = arrayOf item (inner + dimension) :=
  if_neg (by omega)

theorem array_of_isArray_eq_false {type : Ty} (plain : type.isArray = false) {dimension : Nat}
    (positive : 0 < dimension) : type.array dimension = arrayOf type dimension := by
  cases type with
  | arrayOf => cases plain
  | primitive | classLike | parameter => exact if_neg (by omega)

/-- Dimensions are added up, whatever they are added to. -/
theorem array_array (type : Ty) (m n : Nat) : (type.array m).array n = type.array (m + n) := by
  rcases Nat.eq_zero_or_pos m with rfl | first
  · rw [array_zero, Nat.zero_add]
  rcases Nat.eq_zero_or_pos n with rfl | second
  · rw [array_zero, Nat.add_zero]
  cases type with
  | arrayOf item inner =>
    rw [array_arrayOf _ _ first, array_arrayOf _ _ second, array_arrayOf _ _ (by omega),
      Nat.add_assoc]
  | primitive | classLike | parameter =>
    rw [array_of_isArray_eq_false rfl first, array_arrayOf _ _ second,
      array_of_isArray_eq_false rfl (by omega)]

/-- Arrays of a type in normal form are in normal form. -/
theorem IsNormal.array {type : Ty} (normal : type.IsNormal) (dimension : Nat) :
    (type.array dimension).IsNormal := by
  rcases Nat.eq_zero_or_pos dimension with rfl | positive
  · exact normal
  cases type with
  | arrayOf item inner =>
    rw [array_arrayOf _ _ positive]
    exact ⟨normal.1, Nat.add_pos_right _ positive⟩
  | primitive | classLike | parameter =>
    rw [array_of_isArray_eq_false rfl positive]
    exact ⟨rfl, positive⟩

theorem isNormal_array {type : Ty} (plain : type.isArray = false) (dimension : Nat) :
    (type.array dimension).IsNormal := by
  refine IsNormal.array ?_ dimension
  cases type with
  | arrayOf => cases plain
  | primitive | classLike | parameter => trivial

/-- Types that are no arrays are told apart below any number of dimensions. -/
@[simp] theorem array_inj {type type' : Ty} (plain : type.isArray = false)
    (plain' : type'.isArray = false) {m n : Nat} :
    type.array m = type'.array n ↔ type = type' ∧ m = n := by
  refine ⟨fun same => ?_, fun ⟨same, same'⟩ => same ▸ same' ▸ rfl⟩
  rcases Nat.eq_zero_or_pos m with rfl | first <;> rcases Nat.eq_zero_or_pos n with rfl | second
  · exact ⟨same, rfl⟩
  · rw [array_zero, array_of_isArray_eq_false plain' second] at same
    rw [same] at plain
    cases plain
  · rw [array_zero, array_of_isArray_eq_false plain first] at same
    rw [← same] at plain'
    cases plain'
  · rw [array_of_isArray_eq_false plain first, array_of_isArray_eq_false plain' second] at same
    exact ⟨(arrayOf.inj same).1, (arrayOf.inj same).2⟩

@[simp] theorem eq_array_iff {type type' : Ty} (plain : type.isArray = false)
    (plain' : type'.isArray = false) {n : Nat} : type = type'.array n ↔ type = type' ∧ 0 = n :=
  array_inj (m := 0) plain plain'

@[simp] theorem array_eq_iff {type type' : Ty} (plain : type.isArray = false)
    (plain' : type'.isArray = false) {n : Nat} : type.array n = type' ↔ type = type' ∧ n = 0 :=
  array_inj (n := 0) plain plain'

/-- The type, or what it has arrays of. -/
def innermost : Ty → Ty
  | arrayOf item _ => item.innermost
  | primitive type => primitive type
  | classLike id => classLike id
  | parameter id => parameter id

theorem isArray_innermost (type : Ty) : type.innermost.isArray = false := by
  induction type with
  | primitive | classLike | parameter => rfl
  | arrayOf item n ih => exact ih

/-- A type in normal form has its dimensions only once. -/
theorem IsNormal.exists_eq_array {type : Ty} (normal : type.IsNormal) :
    ∃ dimension, type = type.innermost.array dimension := by
  cases type with
  | primitive | classLike | parameter => exact ⟨0, rfl⟩
  | arrayOf item dimension =>
    have plain : item.innermost = item := by
      cases item with
      | arrayOf => cases normal.1
      | primitive | classLike | parameter => rfl
    refine ⟨dimension, ?_⟩
    rw [innermost, plain, array_of_isArray_eq_false normal.1 normal.2]

/-- What is computed of the items of an array, and adds up over dimensions, is computed of an
array in whatever form. -/
theorem apply_array {β : Type} {answer : Ty → β} (lift : Nat → β → β)
    (step : ∀ item n, answer (arrayOf item n) = lift n (answer item)) (zero : ∀ x, lift 0 x = x)
    (add : ∀ x m n, lift n (lift m x) = lift (m + n) x) (type : Ty) (n : Nat) :
    answer (type.array n) = lift n (answer type) := by
  rcases Nat.eq_zero_or_pos n with rfl | positive
  · exact (zero _).symm
  cases type with
  | arrayOf item m => rw [array_arrayOf _ _ positive, step, step, add]
  | primitive | classLike | parameter => rw [array_of_isArray_eq_false rfl positive, step]

/-- What holds of all types that are no arrays, and passes on to arrays, holds of all types in
normal form. -/
theorem IsNormal.induction {motive : Ty → Prop} {type : Ty} (normal : type.IsNormal)
    (primitive : ∀ type n, motive ((primitive type).array n))
    (classLike : ∀ id n, motive ((classLike id).array n))
    (parameter : ∀ id n, motive ((parameter id).array n)) : motive type := by
  obtain ⟨n, same⟩ := normal.exists_eq_array
  have plain := type.isArray_innermost
  generalize type.innermost = item at same plain
  subst same
  cases item with
  | primitive type => exact primitive type n
  | classLike id => exact classLike id n
  | parameter id => exact parameter id n
  | arrayOf => cases plain

/-! ## Parts -/

/-- The primitive type, if the type is one. -/
def primitive? : Ty → Option Primitive
  | primitive type => some type
  | classLike _ | parameter _ | arrayOf .. => none

/-- The class-like, if the type is the type of its instances. -/
def classLike? : Ty → Option ClassId
  | classLike id => some id
  | primitive _ | parameter _ | arrayOf .. => none

/-- Whether the type is primitive and not the type of `null`. -/
def isValuePrimitive (type : Ty) : Bool :=
  match type.primitive? with
  | some found => found != .null
  | none => false

/-- Whether the type is `void`. -/
def isVoid (type : Ty) : Bool := type.primitive? == some .void

/-- What an attribute of the type holds before it is assigned. -/
def defaultValue (type : Ty) : Value :=
  match type.primitive? with
  | some found => found.defaultValue
  | none => .null

/-! ## Operators -/

/-- How a failing operator describes an operand of the type. -/
def operandKind (type : Ty) : OperandKind :=
  if type.isArray then .array
  else match type.primitive? with
    | some type => .primitive type
    | none => .reference

/-- The type of `lhs OPERATOR rhs`. -/
def binaryResultType (operator : BinaryOperator) (lhs rhs : Ty) : Except OperatorError Primitive :=
  match lhs.primitive?, rhs.primitive? with
  | some p, some q =>
    match operator.resultType? p q with
    | some result => .ok result
    | none => .error (.unsupported operator.text (.primitive p))
  | _, _ =>
    .error (.unsupported operator.text (if lhs.isArray || rhs.isArray then .array else .reference))

/-- The type of `OPERATOR operand`. -/
def unaryResultType (operator : UnaryOperator) (operand : Ty) : Except OperatorError Primitive :=
  match operand.primitive?.bind operator.resultType? with
  | some result => .ok result
  | none => .error (.unsupported operator.text operand.operandKind)

end Ty

end ClassModel
