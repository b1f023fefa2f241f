import ClassModel.Number.Remainder
import ClassModel.Operator
import ClassModel.Value

/-!
# ClassModel.Operator.Evaluate

Operators on values. Two numbers are first brought to a common type
(`NumberPair.of`); whole numbers then wrap around in the width of that type.
The distance of a shift is masked to the width of the shifted operand.
-/

namespace ClassModel

/-! ## Numeric operands -/

/-- A number after promotion. -/
inductive Numeric where
  | int (value : Int32)
  | long (value : Int64)
  | float (value : Float32)
  | double (value : Float)

namespace Numeric

/-- The number held by a value; a character counts as its code point. -/
def ofValue? : Value → Option Numeric
  | .int value => some (int value)
  | .long value => some (long value)
  | .float value => some (float value)
  | .double value => some (double value)
  | .char value => some (int (Int32.ofNat value.toNat))
  | _ => none

/-- The value of a number. -/
def toValue : Numeric → Value
  | int value => .int value
  | long value => .long value
  | float value => .float value
  | double value => .double value

/-- The number in single precision. -/
def toSingle : Numeric → Float32
  | int value => value.toFloat32
  | long value => value.toFloat32
  | float value => value
  | double value => value.toFloat32

/-- The number in double precision. -/
def toDouble : Numeric → Float
  | int value => value.toFloat
  | long value => value.toFloat
  | float value => value.toFloat
  | double value => value

end Numeric

/-- Two numbers of a common type. -/
inductive NumberPair where
  | ints (lhs rhs : Int32)
  | longs (lhs rhs : Int64)
  | floats (lhs rhs : Float32)
  | doubles (lhs rhs : Float)

namespace NumberPair

/-- Brings two numbers to the wider of their types. -/
def of : Numeric → Numeric → NumberPair
  | .int lhs, .int rhs => ints lhs rhs
  | .int lhs, .long rhs => longs lhs.toInt64 rhs
  | .long lhs, .int rhs => longs lhs rhs.toInt64
  | .long lhs, .long rhs => longs lhs rhs
  | .double lhs, rhs => doubles lhs rhs.toDouble
  | lhs, .double rhs => doubles lhs.toDouble rhs
  | .float lhs, rhs => floats lhs rhs.toSingle
  | lhs, .float rhs => floats lhs.toSingle rhs

/-- The common type of two values that are numbers. -/
def ofValues? (lhs rhs : Value) : Option NumberPair := do
  return of (← Numeric.ofValue? lhs) (← Numeric.ofValue? rhs)

end NumberPair

/-! ## Each group of operators -/

namespace Arithmetic

/-- The remainder of single-precision division. -/
def remainderSingle (lhs rhs : Float32) : Float32 :=
  .ofBits (Number.BinaryFormat.single.remainder lhs.toBits.toNat rhs.toBits.toNat).toUInt32

/-- The remainder of double-precision division. -/
def remainderDouble (lhs rhs : Float) : Float :=
  .ofBits (Number.BinaryFormat.double.remainder lhs.toBits.toNat rhs.toBits.toNat).toUInt64

/-- Arithmetic on a common type. Whole numbers wrap around, and their
division truncates toward zero; only it can fail. -/
def evaluate (operator : Arithmetic) : NumberPair → Except OperatorError Numeric
  | .ints lhs rhs =>
    match operator with
    | add => .ok (.int (lhs + rhs))
    | subtract => .ok (.int (lhs - rhs))
    | multiply => .ok (.int (lhs * rhs))
    | divide => if rhs = 0 then .error .divisionByZero else .ok (.int (lhs / rhs))
    | remainder => if rhs = 0 then .error .divisionByZero else .ok (.int (lhs % rhs))
  | .longs lhs rhs =>
    match operator with
    | add => .ok (.long (lhs + rhs))
    | subtract => .ok (.long (lhs - rhs))
    | multiply => .ok (.long (lhs * rhs))
    | divide => if rhs = 0 then .error .divisionByZero else .ok (.long (lhs / rhs))
    | remainder => if rhs = 0 then .error .divisionByZero else .ok (.long (lhs % rhs))
  | .floats lhs rhs =>
    match operator with
    | add => .ok (.float (lhs + rhs))
    | subtract => .ok (.float (lhs - rhs))
    | multiply => .ok (.float (lhs * rhs))
    | divide => .ok (.float (lhs / rhs))
    | remainder => .ok (.float (remainderSingle lhs rhs))
  | .doubles lhs rhs =>
    match operator with
    | add => .ok (.double (lhs + rhs))
    | subtract => .ok (.double (lhs - rhs))
    | multiply => .ok (.double (lhs * rhs))
    | divide => .ok (.double (lhs / rhs))
    | remainder => .ok (.double (remainderDouble lhs rhs))

end Arithmetic

/-- The order of two numbers of a common type; a NaN stands in none. -/
def Relation.evaluate (operator : Relation) (pair : NumberPair) : Bool :=
  match operator, pair with
  | less, .ints lhs rhs => lhs < rhs
  | less, .longs lhs rhs => lhs < rhs
  | less, .floats lhs rhs => lhs < rhs
  | less, .doubles lhs rhs => lhs < rhs
  | lessEqual, .ints lhs rhs => lhs ≤ rhs
  | lessEqual, .longs lhs rhs => lhs ≤ rhs
  | lessEqual, .floats lhs rhs => lhs ≤ rhs
  | lessEqual, .doubles lhs rhs => lhs ≤ rhs
  | greater, .ints lhs rhs => rhs < lhs
  | greater, .longs lhs rhs => rhs < lhs
  | greater, .floats lhs rhs => rhs < lhs
  | greater, .doubles lhs rhs => rhs < lhs
  | greaterEqual, .ints lhs rhs => rhs ≤ lhs
  | greaterEqual, .longs lhs rhs => rhs ≤ lhs
  | greaterEqual, .floats lhs rhs => rhs ≤ lhs
  | greaterEqual, .doubles lhs rhs => rhs ≤ lhs

/-- Whether two numbers of a common type are equal; a NaN equals nothing. -/
def NumberPair.areEqual : NumberPair → Bool
  | ints lhs rhs => lhs == rhs
  | longs lhs rhs => lhs == rhs
  | floats lhs rhs => lhs == rhs
  | doubles lhs rhs => lhs == rhs

/-- The answer of a comparison whose operands are equal or not. -/
def Equality.evaluate (operator : Equality) (equal : Bool) : Bool :=
  match operator with
  | .equal => equal
  | .notEqual => !equal

/-- A connective of two truth values. -/
def Connective.evaluate (operator : Connective) (lhs rhs : Bool) : Bool :=
  match operator with
  | and => lhs && rhs
  | or => lhs || rhs

namespace Bitwise

/-- A bitwise operator between two truth values. -/
def evaluateBool (operator : Bitwise) (lhs rhs : Bool) : Bool :=
  match operator with
  | and => lhs && rhs
  | or => lhs || rhs
  | xor => lhs ^^ rhs

/-- A bitwise operator between two whole numbers; there is none between
floating-point numbers. -/
def evaluate? (operator : Bitwise) : NumberPair → Option Numeric
  | .ints lhs rhs =>
    match operator with
    | and => some (.int (lhs &&& rhs))
    | or => some (.int (lhs ||| rhs))
    | xor => some (.int (lhs ^^^ rhs))
  | .longs lhs rhs =>
    match operator with
    | and => some (.long (lhs &&& rhs))
    | or => some (.long (lhs ||| rhs))
    | xor => some (.long (lhs ^^^ rhs))
  | .floats .. | .doubles .. => none

end Bitwise

namespace Shift

/-- The low 32 bits of a whole number of either width, as the distance of a
shift. -/
def distance? : Numeric → Option UInt32
  | .int value => some value.toInt64.toUInt64.toUInt32
  | .long value => some value.toUInt64.toUInt32
  | .float _ | .double _ => none

/-- Shifts 32 bits; the low five bits of the distance count. -/
def evaluateInt (operator : Shift) (lhs : Int32) (distance : UInt32) : Int32 :=
  let steps := (distance &&& 31).toNat
  match operator with
  | left => lhs <<< Int32.ofNat steps
  | right => lhs >>> Int32.ofNat steps
  | unsignedRight => (lhs.toUInt32 >>> UInt32.ofNat steps).toInt32

/-- Shifts 64 bits; the low six bits of the distance count. -/
def evaluateLong (operator : Shift) (lhs : Int64) (distance : UInt32) : Int64 :=
  let steps := (distance &&& 63).toNat
  match operator with
  | left => lhs <<< Int64.ofNat steps
  | right => lhs >>> Int64.ofNat steps
  | unsignedRight => (lhs.toUInt64 >>> UInt64.ofNat steps).toInt64

/-- Shifts a whole number in its own width. -/
def evaluate? (operator : Shift) (lhs : Numeric) (distance : UInt32) : Option Numeric :=
  match lhs with
  | .int value => some (.int (operator.evaluateInt value distance))
  | .long value => some (.long (operator.evaluateLong value distance))
  | .float _ | .double _ => none

end Shift

/-! ## Evaluation -/

namespace BinaryOperator

/-- Evaluation, with no answer where the operator does not apply. -/
def evaluate? (operator : BinaryOperator) (lhs rhs : Value) :
    Option (Except OperatorError Value) :=
  match operator with
  | arithmetic operator => do
    let pair ← NumberPair.ofValues? lhs rhs
    return (operator.evaluate pair).map Numeric.toValue
  | relation operator => do
    let pair ← NumberPair.ofValues? lhs rhs
    return .ok (.boolean (operator.evaluate pair))
  | equality operator =>
    match lhs, rhs with
    | .boolean lhs, .boolean rhs => some (.ok (.boolean (operator.evaluate (lhs == rhs))))
    | lhs, rhs => do
      let pair ← NumberPair.ofValues? lhs rhs
      return .ok (.boolean (operator.evaluate pair.areEqual))
  | connective operator =>
    match lhs, rhs with
    | .boolean lhs, .boolean rhs => some (.ok (.boolean (operator.evaluate lhs rhs)))
    | _, _ => none
  | bitwise operator =>
    match lhs, rhs with
    | .boolean lhs, .boolean rhs => some (.ok (.boolean (operator.evaluateBool lhs rhs)))
    | lhs, rhs => do
      let pair ← NumberPair.ofValues? lhs rhs
      return .ok (← operator.evaluate? pair).toValue
  | shift operator => do
    let number ← Numeric.ofValue? lhs
    let distance ← Shift.distance? (← Numeric.ofValue? rhs)
    return .ok (← operator.evaluate? number distance).toValue

/-- The operand that an unsupported operation is blamed on: a reference on
either side, otherwise the left operand. -/
def blame (lhs rhs : Value) : OperandKind :=
  match lhs.primitive?, rhs.primitive? with
  | some type, some _ => .primitive type
  | _, _ => .reference

/-- The value of `lhs OPERATOR rhs`. -/
def evaluate (operator : BinaryOperator) (lhs rhs : Value) : Except OperatorError Value :=
  (operator.evaluate? lhs rhs).getD (.error (.unsupported operator.text (blame lhs rhs)))

end BinaryOperator

namespace UnaryOperator

/-- The number with its sign changed; whole numbers wrap around. -/
def negated : Numeric → Numeric
  | .int value => .int (-value)
  | .long value => .long (-value)
  | .float value => .float (-value)
  | .double value => .double (-value)

/-- The whole number with all its bits changed. -/
def complement? : Numeric → Option Numeric
  | .int value => some (.int (~~~value))
  | .long value => some (.long (~~~value))
  | .float _ | .double _ => none

/-- Evaluation, with no answer where the operator does not apply. -/
def evaluate? (operator : UnaryOperator) (operand : Value) : Option Value :=
  match operator with
  | negate => (Numeric.ofValue? operand).map fun number => (negated number).toValue
  | plus => (Numeric.ofValue? operand).map Numeric.toValue
  | logicalNot =>
    match operand with
    | .boolean value => some (.boolean !value)
    | _ => none
  | bitwiseNot => do
    let number ← Numeric.ofValue? operand
    return (← complement? number).toValue

/-- The value of `OPERATOR operand`. -/
def evaluate (operator : UnaryOperator) (operand : Value) : Except OperatorError Value :=
  match operator.evaluate? operand, operand.primitive? with
  | some value, _ => .ok value
  | none, some type => .error (.unsupported operator.text (.primitive type))
  | none, none => .error (.unsupported operator.text .reference)

end UnaryOperator

end ClassModel
