import ClassModel.Primitive

/-!
# ClassModel.Operator

The operators of the language and their typing on primitive types. Operators
are grouped by the operands that they accept, so that typing and evaluation
decide once per group.
-/

namespace ClassModel

/-! ## The operators -/

/-- Operators on numbers that yield a number. -/
inductive Arithmetic where
  | add
  | subtract
  | multiply
  | divide
  | remainder
  deriving DecidableEq, Repr

/-- Operators that order two numbers. -/
inductive Relation where
  | less
  | lessEqual
  | greater
  | greaterEqual
  deriving DecidableEq, Repr

/-- Operators that compare two numbers or two truth values. -/
inductive Equality where
  | equal
  | notEqual
  deriving DecidableEq, Repr

/-- Operators on truth values alone. -/
inductive Connective where
  | and
  | or
  deriving DecidableEq, Repr

/-- Operators on the bits of whole numbers, or on truth values. -/
inductive Bitwise where
  | and
  | or
  | xor
  deriving DecidableEq, Repr

/-- Operators that move the bits of a whole number. -/
inductive Shift where
  | left
  | right
  | unsignedRight
  deriving DecidableEq, Repr

/-- An operator between two operands. -/
inductive BinaryOperator where
  | arithmetic (operator : Arithmetic)
  | relation (operator : Relation)
  | equality (operator : Equality)
  | connective (operator : Connective)
  | bitwise (operator : Bitwise)
  | shift (operator : Shift)
  deriving DecidableEq, Repr

/-- An operator in front of its operand. -/
inductive UnaryOperator where
  | negate
  | plus
  | logicalNot
  | bitwiseNot
  deriving DecidableEq, Repr

namespace BinaryOperator

/-- All operators between two operands. -/
def all : List BinaryOperator :=
  [Arithmetic.add, .subtract, .multiply, .divide, .remainder].map arithmetic
    ++ [Equality.equal, .notEqual].map equality
    ++ [Relation.less, .lessEqual, .greater, .greaterEqual].map relation
    ++ [Connective.and, .or].map connective
    ++ [Bitwise.and, .or, .xor].map bitwise
    ++ [Shift.left, .right, .unsignedRight].map shift

/-- The sign of an operator. -/
def text : BinaryOperator → String
  | arithmetic .add => "+"
  | arithmetic .subtract => "-"
  | arithmetic .multiply => "*"
  | arithmetic .divide => "/"
  | arithmetic .remainder => "%"
  | relation .less => "<"
  | relation .lessEqual => "<="
  | relation .greater => ">"
  | relation .greaterEqual => ">="
  | equality .equal => "=="
  | equality .notEqual => "!="
  | connective .and => "&&"
  | connective .or => "||"
  | bitwise .and => "&"
  | bitwise .or => "|"
  | bitwise .xor => "^"
  | shift .left => "<<"
  | shift .right => ">>"
  | shift .unsignedRight => ">>>"

/-- The operator with the given sign. -/
def ofText? (sign : String) : Option BinaryOperator := all.find? (·.text == sign)

end BinaryOperator

namespace UnaryOperator

/-- All operators in front of an operand. -/
def all : List UnaryOperator := [negate, plus, logicalNot, bitwiseNot]

/-- The sign of an operator. -/
def text : UnaryOperator → String
  | negate => "-"
  | plus => "+"
  | logicalNot => "!"
  | bitwiseNot => "~"

/-- The operator with the given sign. -/
def ofText? (sign : String) : Option UnaryOperator := all.find? (·.text == sign)

end UnaryOperator

/-! ## Typing -/

/-- The type of `lhs OPERATOR rhs`, unless the operator does not apply. -/
def BinaryOperator.resultType? (operator : BinaryOperator) (lhs rhs : Primitive) :
    Option Primitive :=
  let numeric := lhs.isNumeric && rhs.isNumeric
  let integral := lhs.isIntegral && rhs.isIntegral
  let boolean := lhs = .boolean && rhs = .boolean
  match operator with
  | .arithmetic _ => if numeric then some (lhs.promotedWith rhs) else none
  | .relation _ => if numeric then some .boolean else none
  | .equality _ => if numeric || boolean then some .boolean else none
  | .connective _ => if boolean then some .boolean else none
  | .bitwise _ =>
    if boolean then some .boolean
    else if integral then some (lhs.promotedWith rhs)
    else none
  | .shift _ => if integral then some lhs.promoted else none

/-- The type of `OPERATOR operand`, unless the operator does not apply. -/
def UnaryOperator.resultType? (operator : UnaryOperator) (operand : Primitive) :
    Option Primitive :=
  match operator with
  | .negate | .plus => if operand.isNumeric then some operand.promoted else none
  | .logicalNot => if operand = .boolean then some .boolean else none
  | .bitwiseNot => if operand.isIntegral then some operand.promoted else none

/-! ## Failure -/

/-- What an operator was applied to, as far as its failure tells. -/
inductive OperandKind where
  | primitive (type : Primitive)
  | array
  | reference
  deriving DecidableEq, Repr

/-- The description of an operand. -/
def OperandKind.text : OperandKind → String
  | primitive type => type.text
  | array => "array"
  | reference => "reference operand"

/-- Why an operation has no result. -/
inductive OperatorError where
  /-- The operator with the given sign does not apply to the operand. -/
  | unsupported (sign : String) (operand : OperandKind)
  /-- A whole number was divided by zero. -/
  | divisionByZero
  deriving DecidableEq, Repr

/-- The text of an error. -/
def OperatorError.message : OperatorError → String
  | unsupported sign operand =>
    "operator \x60" ++ sign ++ "\x60 is not supported for " ++ operand.text
  | divisionByZero => "/ by zero"

end ClassModel
