/-!
# ClassModel.Primitive

The primitive types, their wrapper classes and the conversions between them.
`widensTo` is the implicit conversion: identity, or one that loses no
magnitude.
-/

namespace ClassModel

/-- The primitive types, including the pseudo types `void` and `null`. -/
inductive Primitive where
  | void
  | null
  | int
  | long
  | float
  | double
  | boolean
  | char
  deriving DecidableEq, Repr, Inhabited

namespace Primitive

/-- All primitive types. -/
def all : List Primitive := [void, null, int, long, float, double, boolean, char]

/-- The name of a primitive type. -/
def text : Primitive → String
  | void => "void"
  | null => "null"
  | int => "int"
  | long => "long"
  | float => "float"
  | double => "double"
  | boolean => "boolean"
  | char => "char"

/-- The primitive type of the given name. -/
def ofText? (name : String) : Option Primitive := all.find? (·.text == name)

theorem mem_all (primitive : Primitive) : primitive ∈ all := by
  cases primitive <;> decide

/-- A primitive type is recovered from its name. -/
theorem ofText?_text (primitive : Primitive) : ofText? primitive.text = some primitive := by
  cases primitive <;> decide

/-- Whether values of the type are whole numbers. -/
def isIntegral : Primitive → Bool
  | int | long | char => true
  | _ => false

/-- Whether values of the type are numbers. -/
def isNumeric : Primitive → Bool
  | int | long | float | double | char => true
  | _ => false

/-- The class that wraps values of the type. -/
def boxedIdentifier? : Primitive → Option String
  | int => some "Integer"
  | long => some "Long"
  | float => some "Float"
  | double => some "Double"
  | boolean => some "Boolean"
  | char => some "Character"
  | void | null => none

/-- The primitive type that the class of the given name wraps. -/
def ofBoxedIdentifier? (name : String) : Option Primitive :=
  all.find? (·.boxedIdentifier? == some name)

/-- Whether a value of the type converts implicitly to the target. -/
def widensTo : Primitive → Primitive → Bool
  | void, void | null, null | boolean, boolean => true
  | char, char | char, int | char, long | char, float | char, double => true
  | int, int | int, long | int, float | int, double => true
  | long, long | long, float | long, double => true
  | float, float | float, double => true
  | double, double => true
  | _, _ => false

/-- The type in which a single operand is computed: a `char` counts as an
`int`. -/
def promoted : Primitive → Primitive
  | char => int
  | other => other

/-- The type in which two numeric operands are computed: the wider of the two
promoted types. -/
def promotedWith (lhs rhs : Primitive) : Primitive :=
  if lhs.promoted.widensTo rhs.promoted then rhs.promoted else lhs.promoted

end Primitive

end ClassModel
