import ClassModel.Operator.Evaluate
import Mathlib.Algebra.Group.Int.Defs

/-!
# ClassModel.Proofs.Typing

Typing and evaluating operators agree (`areTyped`). An operator that has no
type for its operands is refused, and one that has a type answers a value of
it. Only the division of a whole number by zero has a type and no value.

Both sides are compared on operands that are numbers of a common type: their
type is the one that typing tells (`NumberPair.exists_ofValues?`), and each
group of operators stays in it.
-/

namespace ClassModel

/-! ## Whole numbers -/

/-- The whole number that a value holds; a character counts as its code
point. -/
def Value.integer? : Value → Option Int
  | .int value => some value.toInt
  | .long value => some value.toInt
  | .char value => some value.toNat
  | _ => none

/-- The values of integral types are whole numbers. -/
theorem Value.isSome_integer? {value : Value} {type : Primitive}
    (typed : value.primitive? = some type) : value.integer?.isSome = type.isIntegral := by
  cases value <;> cases typed <;> rfl

/-! ## Operands -/

namespace Numeric

/-- The type of a number. -/
def type : Numeric → Primitive
  | int _ => .int
  | long _ => .long
  | float _ => .float
  | double _ => .double

/-- The whole number, if it is one. -/
def integer? : Numeric → Option Int
  | int value => some value.toInt
  | long value => some value.toInt
  | float _ | double _ => none

@[simp] theorem primitive?_toValue (number : Numeric) :
    number.toValue.primitive? = some number.type := by
  cases number <;> rfl

/-- Promotion makes numbers of the values of numeric types. -/
theorem map_type_ofValue? (value : Value) : (ofValue? value).map type
    = (value.primitive?.filter Primitive.isNumeric).map Primitive.promoted := by
  cases value <;> rfl

/-- Promotion keeps whole numbers as they are. -/
theorem bind_integer?_ofValue? (value : Value) :
    (ofValue? value).bind integer? = value.integer? := by
  cases value with
  | char value =>
    have small : value.toNat < 2 ^ 31 := by
      have := value.valid
      simp only [UInt32.isValidChar, Nat.isValidChar] at this
      change value.val.toNat < 2 ^ 31
      omega
    simp [ofValue?, integer?, Value.integer?, Int32.toInt_ofNat_of_lt small]
  | _ => rfl

theorem exists_ofValue? {value : Value} {type : Primitive} (typed : value.primitive? = some type)
    (isNumeric : type.isNumeric = true) :
    ∃ number, ofValue? value = some number ∧ number.type = type.promoted := by
  have types := map_type_ofValue? value
  rw [typed, Option.filter_some, if_pos isNumeric] at types
  exact Option.map_eq_some_iff.1 types

theorem ofValue?_eq_none {value : Value} {type : Primitive} (typed : value.primitive? = some type)
    (isNumeric : type.isNumeric = false) : ofValue? value = none := by
  have types := map_type_ofValue? value
  rw [typed, Option.filter_some, isNumeric] at types
  simpa using types

theorem ofValue?_of_reference {value : Value} (reference : value.primitive? = none) :
    ofValue? value = none := by
  have types := map_type_ofValue? value
  rw [reference] at types
  simpa using types

end Numeric

namespace Primitive

theorem promotedWith_promoted (lhs rhs : Primitive) :
    lhs.promoted.promotedWith rhs.promoted = lhs.promotedWith rhs := by
  cases lhs <;> cases rhs <;> rfl

theorem isNumeric_of_isIntegral {type : Primitive} (isIntegral : type.isIntegral = true) :
    type.isNumeric = true := by
  cases type <;> first | rfl | cases isIntegral

/-- The common type of two numbers is integral if both are whole. -/
theorem promotedWith_integral {lhs rhs : Primitive}
    (isNumeric : (lhs.isNumeric && rhs.isNumeric) = true) :
    (lhs.promotedWith rhs = .int ∨ lhs.promotedWith rhs = .long)
      ↔ (lhs.isIntegral && rhs.isIntegral) = true := by
  revert isNumeric
  cases lhs <;> cases rhs <;> decide

end Primitive

namespace NumberPair

/-- The common type of the numbers. -/
def type : NumberPair → Primitive
  | ints .. => .int
  | longs .. => .long
  | floats .. => .float
  | doubles .. => .double

/-- Division by the right number fails. -/
def HasZeroDivisor : NumberPair → Prop
  | ints _ rhs => rhs = 0
  | longs _ rhs => rhs = 0
  | floats .. | doubles .. => False

@[simp] theorem type_of (lhs rhs : Numeric) :
    (of lhs rhs).type = lhs.type.promotedWith rhs.type := by
  cases lhs <;> cases rhs <;> rfl

theorem ofValues?_eq_some_iff {lhs rhs : Value} {pair : NumberPair} :
    ofValues? lhs rhs = some pair ↔ ∃ left right, Numeric.ofValue? lhs = some left
      ∧ Numeric.ofValue? rhs = some right ∧ of left right = pair := by
  simp [ofValues?, Option.bind_eq_some_iff]

variable {lhs rhs : Value} {p q : Primitive}

/-- Two numbers have a common type, the one that typing tells. -/
theorem exists_ofValues? (left : lhs.primitive? = some p) (right : rhs.primitive? = some q)
    (isNumeric : (p.isNumeric && q.isNumeric) = true) :
    ∃ pair, ofValues? lhs rhs = some pair ∧ pair.type = p.promotedWith q := by
  rw [Bool.and_eq_true] at isNumeric
  obtain ⟨number, found, type⟩ := Numeric.exists_ofValue? left isNumeric.1
  obtain ⟨number', found', type'⟩ := Numeric.exists_ofValue? right isNumeric.2
  refine ⟨of number number', ofValues?_eq_some_iff.2 ⟨_, _, found, found', rfl⟩, ?_⟩
  rw [type_of, type, type', Primitive.promotedWith_promoted]

theorem ofValues?_eq_none (left : lhs.primitive? = some p) (right : rhs.primitive? = some q)
    (isNumeric : (p.isNumeric && q.isNumeric) = false) : ofValues? lhs rhs = none := by
  rw [Bool.and_eq_false_iff] at isNumeric
  rcases isNumeric with isNumeric | isNumeric
  · simp [ofValues?, Numeric.ofValue?_eq_none left isNumeric]
  · simp [ofValues?, Numeric.ofValue?_eq_none right isNumeric]

theorem ofValues?_of_reference (reference : lhs.primitive? = none ∨ rhs.primitive? = none) :
    ofValues? lhs rhs = none := by
  rcases reference with reference | reference
  · simp [ofValues?, Numeric.ofValue?_of_reference reference]
  · simp [ofValues?, Numeric.ofValue?_of_reference reference]

/-- Division fails if the numbers are whole and the right one is zero. -/
theorem hasZeroDivisor_iff {pair : NumberPair} (found : ofValues? lhs rhs = some pair) :
    pair.HasZeroDivisor
      ↔ (pair.type = .int ∨ pair.type = .long) ∧ rhs.integer? = some 0 := by
  obtain ⟨left, right, _, known, rfl⟩ := ofValues?_eq_some_iff.1 found
  rw [← Numeric.bind_integer?_ofValue? rhs, known, Option.bind_some]
  cases left <;> cases right <;>
    simp [of, HasZeroDivisor, type, Numeric.integer?, ← Int32.toInt_inj, ← Int64.toInt_inj]

end NumberPair

/-! ## Each group of operators -/

/-- Arithmetic stays in the type of its operands. It fails where it divides a
whole number by zero. -/
theorem Arithmetic.evaluate_cases (operator : Arithmetic) (pair : NumberPair) :
    ((operator = .divide ∨ operator = .remainder) ∧ pair.HasZeroDivisor
        ∧ operator.evaluate pair = .error .divisionByZero)
      ∨ (¬ ((operator = .divide ∨ operator = .remainder) ∧ pair.HasZeroDivisor)
        ∧ ∃ number, operator.evaluate pair = .ok number ∧ number.type = pair.type) := by
  cases pair with
  | ints lhs rhs | longs lhs rhs =>
    by_cases zero : rhs = 0
    · cases operator <;>
        simp [Arithmetic.evaluate, NumberPair.HasZeroDivisor, NumberPair.type, Numeric.type, zero]
    · cases operator <;>
        simp [Arithmetic.evaluate, NumberPair.HasZeroDivisor, NumberPair.type, Numeric.type, zero]
  | floats lhs rhs | doubles lhs rhs =>
    cases operator <;>
      simp [Arithmetic.evaluate, NumberPair.HasZeroDivisor, NumberPair.type, Numeric.type]

/-- Bitwise operators stay in the type of whole operands, and apply to no
others. -/
theorem Bitwise.map_type_evaluate? (operator : Bitwise) (pair : NumberPair) :
    (operator.evaluate? pair).map Numeric.type
      = if pair.type = .int ∨ pair.type = .long then some pair.type else none := by
  cases pair <;> cases operator <;> simp [Bitwise.evaluate?, NumberPair.type, Numeric.type]

theorem toNat_ofInt_uInt32 (n : Int) : (UInt32.ofInt n).toNat = (n % 2 ^ 32).toNat := by
  have small : (n % 2 ^ 32).toNat < 2 ^ 32 := by omega
  rw [UInt32.ofInt]
  exact UInt32.toNat_ofNat_of_lt' small

/-- Truncating a `long` keeps it modulo the lower width. -/
theorem toUInt32_toUInt64 (value : Int64) : value.toUInt64.toUInt32 = .ofInt value.toInt := by
  have wraps : value.toInt = (value.toUInt64.toNat : Int).bmod (2 ^ 64) :=
    BitVec.toInt_eq_toNat_bmod value.toBitVec
  have divides : (2 ^ 32 : Int) ∣ ((2 ^ 64 : Nat) : Int) := by decide
  have low : value.toInt % 2 ^ 32 = value.toUInt64.toNat % 2 ^ 32 := by
    rw [wraps, ← Int.emod_emod_of_dvd _ divides, Int.bmod_emod, Int.emod_emod_of_dvd _ divides]
  rw [← UInt32.toNat_inj, toNat_ofInt_uInt32, low, UInt64.toNat_toUInt32]
  omega

/-- The low bits of a whole number of either width are a distance. -/
theorem Shift.distance?_eq (number : Numeric) :
    Shift.distance? number = number.integer?.map UInt32.ofInt := by
  cases number with
  | int value =>
    rw [distance?, toUInt32_toUInt64, Int32.toInt_toInt64]
    rfl
  | long value =>
    rw [distance?, toUInt32_toUInt64]
    rfl
  | float value | double value => rfl

/-- Shifts stay in the type of the operand that is shifted. -/
theorem Shift.map_type_evaluate? (operator : Shift) (number : Numeric) (distance : UInt32) :
    (operator.evaluate? number distance).map Numeric.type
      = number.integer?.map fun _ => number.type := by
  cases number <;> rfl

theorem Value.exists_of_boolean {value : Value} (typed : value.primitive? = some .boolean) :
    ∃ truth, value = .boolean truth := by
  cases value <;> first | exact ⟨_, rfl⟩ | cases typed

/-! ## Evaluation -/

namespace BinaryOperator

/-- A whole number is divided by zero, where the operation has the given
type. -/
def DividesByZero (operator : BinaryOperator) (type : Primitive) (rhs : Value) : Prop :=
  (operator = .arithmetic .divide ∨ operator = .arithmetic .remainder)
    ∧ (type = .int ∨ type = .long) ∧ rhs.integer? = some 0

/-- Evaluating does what typing tells. -/
structure IsTyped (operator : BinaryOperator) (lhs rhs : Value) : Prop where
  reference : lhs.primitive? = none ∨ rhs.primitive? = none →
    operator.evaluate lhs rhs = .error (.unsupported operator.text .reference)
  untyped {p q : Primitive} : lhs.primitive? = some p → rhs.primitive? = some q →
    operator.resultType? p q = none →
      operator.evaluate lhs rhs = .error (.unsupported operator.text (.primitive p))
  divided {p q type : Primitive} : lhs.primitive? = some p → rhs.primitive? = some q →
    operator.resultType? p q = some type → (operator.evaluate lhs rhs = .error .divisionByZero
      ↔ operator.DividesByZero type rhs)
  typed {p q type : Primitive} : lhs.primitive? = some p → rhs.primitive? = some q →
    operator.resultType? p q = some type → ¬ operator.DividesByZero type rhs →
      ∃ value, operator.evaluate lhs rhs = .ok value ∧ value.primitive? = some type

/-- What an operation of the type answers. -/
def Answers (operator : BinaryOperator) (lhs rhs : Value) (type : Primitive) : Prop :=
  (operator.DividesByZero type rhs
      ∧ operator.evaluate? lhs rhs = some (.error .divisionByZero))
    ∨ (¬ operator.DividesByZero type rhs
      ∧ ∃ value, operator.evaluate? lhs rhs = some (.ok value) ∧ value.primitive? = some type)

variable {lhs rhs : Value} {p q : Primitive}

/-- Only arithmetic may divide by zero. -/
theorem answers_of_value {operator : BinaryOperator} {type : Primitive} {value : Value}
    (other : ∀ arithmetic, operator ≠ .arithmetic arithmetic)
    (found : operator.evaluate? lhs rhs = some (.ok value)) (typed : value.primitive? = some type) :
    operator.Answers lhs rhs type := by
  refine .inr ⟨fun divides => ?_, value, found, typed⟩
  rcases divides.1 with same | same
  · exact other _ same
  · exact other _ same

/-- Two truth values have a truth value. -/
theorem answers_of_truths {operator : BinaryOperator} (answer : Bool → Bool → Bool)
    (other : ∀ arithmetic, operator ≠ .arithmetic arithmetic)
    (found : ∀ truth truth', operator.evaluate? (.boolean truth) (.boolean truth')
      = some (.ok (.boolean (answer truth truth'))))
    (left : lhs.primitive? = some .boolean) (right : rhs.primitive? = some .boolean) :
    operator.Answers lhs rhs .boolean := by
  obtain ⟨truth, rfl⟩ := Value.exists_of_boolean left
  obtain ⟨truth', rfl⟩ := Value.exists_of_boolean right
  exact answers_of_value other (found truth truth') rfl

/-- Where one of the operands is a reference nothing applies. -/
theorem evaluate?_of_reference (operator : BinaryOperator)
    (reference : lhs.primitive? = none ∨ rhs.primitive? = none) :
    operator.evaluate? lhs rhs = none := by
  have noPair := NumberPair.ofValues?_of_reference reference
  cases operator with
  | arithmetic operator | relation operator => simp [evaluate?, noPair]
  | equality operator | bitwise operator =>
    simp only [evaluate?]
    split
    · simp [Value.primitive?] at reference
    · simp [noPair]
  | connective operator =>
    simp only [evaluate?]
    split
    · simp [Value.primitive?] at reference
    · rfl
  | shift operator =>
    rcases reference with reference | reference
    · simp [evaluate?, Numeric.ofValue?_of_reference reference]
    · cases found : Numeric.ofValue? lhs <;>
        simp [evaluate?, found, Numeric.ofValue?_of_reference reference]

theorem evaluate?_shift (operator : Shift) (lhs rhs : Value) : (shift operator).evaluate? lhs rhs
    = rhs.integer?.bind fun distance => (Numeric.ofValue? lhs).bind fun number =>
      (operator.evaluate? number (.ofInt distance)).map fun result => .ok result.toValue := by
  rw [← Numeric.bind_integer?_ofValue? rhs]
  cases left : Numeric.ofValue? lhs with
  | none => cases right : Numeric.ofValue? rhs <;> simp [evaluate?, left, right]
  | some number =>
    cases right : Numeric.ofValue? rhs with
    | none => simp [evaluate?, left, right]
    | some number' =>
      simp only [evaluate?, left, right, Option.bind_eq_bind, Option.bind_some, Shift.distance?_eq]
      cases number'.integer? with
      | none => rfl
      | some distance =>
        cases evaluated : operator.evaluate? number (.ofInt distance) <;> simp [evaluated]

section Groups

variable {operator : BinaryOperator} (left : lhs.primitive? = some p)
  (right : rhs.primitive? = some q)
include left right

theorem evaluate?_arithmetic_eq_none {operator : Arithmetic}
    (untyped : (arithmetic operator).resultType? p q = none) :
    (arithmetic operator).evaluate? lhs rhs = none := by
  simp only [resultType?, ite_eq_right_iff, reduceCtorEq, imp_false, Bool.not_eq_true] at untyped
  simp [evaluate?, NumberPair.ofValues?_eq_none left right untyped]

theorem answers_arithmetic {operator : Arithmetic} {type : Primitive}
    (typed : (arithmetic operator).resultType? p q = some type) :
    (arithmetic operator).Answers lhs rhs type := by
  simp only [resultType?, Option.ite_none_right_eq_some, Option.some.injEq] at typed
  obtain ⟨isNumeric, rfl⟩ := typed
  obtain ⟨pair, found, type⟩ := NumberPair.exists_ofValues? left right isNumeric
  have zero := NumberPair.hasZeroDivisor_iff found
  rw [type] at zero
  have divides : (arithmetic operator).DividesByZero (p.promotedWith q) rhs
      ↔ (operator = .divide ∨ operator = .remainder) ∧ pair.HasZeroDivisor := by
    simp [DividesByZero, zero]
  rw [Answers, divides]
  refine (operator.evaluate_cases pair).imp (fun fails => ⟨⟨fails.1, fails.2.1⟩, ?_⟩)
    fun ⟨away, number, evaluated, same⟩ => ⟨away, number.toValue, ?_, ?_⟩
  · simp [evaluate?, found, fails.2.2, Except.map]
  · simp [evaluate?, found, evaluated, Except.map]
  · rw [Numeric.primitive?_toValue, same, type]

theorem evaluate?_relation_eq_none {operator : Relation}
    (untyped : (relation operator).resultType? p q = none) :
    (relation operator).evaluate? lhs rhs = none := by
  simp only [resultType?, ite_eq_right_iff, reduceCtorEq, imp_false, Bool.not_eq_true] at untyped
  simp [evaluate?, NumberPair.ofValues?_eq_none left right untyped]

theorem answers_relation {operator : Relation} {type : Primitive}
    (typed : (relation operator).resultType? p q = some type) :
    (relation operator).Answers lhs rhs type := by
  simp only [resultType?, Option.ite_none_right_eq_some, Option.some.injEq] at typed
  obtain ⟨isNumeric, rfl⟩ := typed
  obtain ⟨pair, found, _⟩ := NumberPair.exists_ofValues? left right isNumeric
  exact answers_of_value (by simp) (by simp [evaluate?, found]; rfl) rfl

theorem evaluate?_equality_eq_none {operator : Equality}
    (untyped : (equality operator).resultType? p q = none) :
    (equality operator).evaluate? lhs rhs = none := by
  simp only [resultType?, ite_eq_right_iff, reduceCtorEq, imp_false, Bool.not_eq_true,
    Bool.or_eq_false_iff] at untyped
  simp only [evaluate?]
  split
  · cases left
    cases right
    simp at untyped
  · simp [NumberPair.ofValues?_eq_none left right untyped.1]

theorem answers_equality {operator : Equality} {type : Primitive}
    (typed : (equality operator).resultType? p q = some type) :
    (equality operator).Answers lhs rhs type := by
  simp only [resultType?, Option.ite_none_right_eq_some, Option.some.injEq, Bool.or_eq_true]
    at typed
  obtain ⟨applies, rfl⟩ := typed
  cases isNumeric : p.isNumeric && q.isNumeric with
  | true =>
    obtain ⟨pair, found, _⟩ := NumberPair.exists_ofValues? left right isNumeric
    have answer : (equality operator).evaluate? lhs rhs
        = some (.ok (.boolean (operator.evaluate pair.areEqual))) := by
      simp only [evaluate?]
      split
      · cases left
        cases isNumeric
      · simp [found]
    exact answers_of_value (by simp) answer rfl
  | false =>
    have truths : p = .boolean ∧ q = .boolean := by simpa [isNumeric] using applies
    obtain ⟨rfl, rfl⟩ := truths
    exact answers_of_truths (fun lhs rhs => operator.evaluate (lhs == rhs)) (by simp)
      (fun _ _ => rfl) left right

theorem evaluate?_connective_eq_none {operator : Connective}
    (untyped : (connective operator).resultType? p q = none) :
    (connective operator).evaluate? lhs rhs = none := by
  simp only [resultType?, ite_eq_right_iff, reduceCtorEq, imp_false] at untyped
  simp only [evaluate?]
  split
  · cases left
    cases right
    simp at untyped
  · rfl

theorem answers_connective {operator : Connective} {type : Primitive}
    (typed : (connective operator).resultType? p q = some type) :
    (connective operator).Answers lhs rhs type := by
  simp only [resultType?, Option.ite_none_right_eq_some, Option.some.injEq, Bool.and_eq_true,
    decide_eq_true_eq] at typed
  obtain ⟨⟨rfl, rfl⟩, rfl⟩ := typed
  exact answers_of_truths operator.evaluate (by simp) (fun _ _ => rfl) left right

theorem evaluate?_bitwise_eq_none {operator : Bitwise}
    (untyped : (bitwise operator).resultType? p q = none) :
    (bitwise operator).evaluate? lhs rhs = none := by
  simp only [resultType?] at untyped
  split at untyped
  · cases untyped
  simp only [ite_eq_right_iff, reduceCtorEq, imp_false] at untyped
  simp only [evaluate?]
  split
  · cases left
    cases right
    simp at *
  cases isNumeric : p.isNumeric && q.isNumeric with
  | false => simp [NumberPair.ofValues?_eq_none left right isNumeric]
  | true =>
    -- the common type is not integral
    obtain ⟨pair, found, type⟩ := NumberPair.exists_ofValues? left right isNumeric
    have types := operator.map_type_evaluate? pair
    rw [type, if_neg (fun whole => untyped ((Primitive.promotedWith_integral isNumeric).1 whole)),
      Option.map_eq_none_iff] at types
    simp [found, types]

theorem answers_bitwise {operator : Bitwise} {type : Primitive}
    (typed : (bitwise operator).resultType? p q = some type) :
    (bitwise operator).Answers lhs rhs type := by
  simp only [resultType?] at typed
  split at typed
  · next truths =>
    cases typed
    simp only [Bool.and_eq_true, decide_eq_true_eq] at truths
    obtain ⟨rfl, rfl⟩ := truths
    exact answers_of_truths operator.evaluateBool (by simp) (fun _ _ => rfl) left right
  · next others =>
    simp only [Option.ite_none_right_eq_some, Option.some.injEq] at typed
    obtain ⟨isIntegral, rfl⟩ := typed
    have isNumeric : (p.isNumeric && q.isNumeric) = true := by
      rw [Bool.and_eq_true] at isIntegral ⊢
      exact isIntegral.imp Primitive.isNumeric_of_isIntegral Primitive.isNumeric_of_isIntegral
    obtain ⟨pair, found, type⟩ := NumberPair.exists_ofValues? left right isNumeric
    have types := operator.map_type_evaluate? pair
    rw [type, if_pos ((Primitive.promotedWith_integral isNumeric).2 isIntegral),
      Option.map_eq_some_iff] at types
    obtain ⟨number, evaluated, type⟩ := types
    refine answers_of_value (by simp) ?_ (type ▸ number.primitive?_toValue)
    simp only [evaluate?]
    split
    · cases left
      cases right
      simp at others
    · simp [found, evaluated]

theorem evaluate?_shift_eq_none {operator : Shift}
    (untyped : (shift operator).resultType? p q = none) :
    (shift operator).evaluate? lhs rhs = none := by
  simp only [resultType?, ite_eq_right_iff, reduceCtorEq, imp_false] at untyped
  rw [evaluate?_shift]
  rw [← Value.isSome_integer? left, ← Value.isSome_integer? right] at untyped
  cases whole : rhs.integer? with
  | none => simp
  | some distance =>
    have noNumber : lhs.integer? = none := by simpa [whole] using untyped
    rw [← Numeric.bind_integer?_ofValue?] at noNumber
    cases found : Numeric.ofValue? lhs with
    | none => simp
    | some number =>
      have types := operator.map_type_evaluate? number (.ofInt distance)
      rw [found, Option.bind_some] at noNumber
      rw [noNumber, Option.map_none, Option.map_eq_none_iff] at types
      simp [types]

theorem answers_shift {operator : Shift} {type : Primitive}
    (typed : (shift operator).resultType? p q = some type) :
    (shift operator).Answers lhs rhs type := by
  simp only [resultType?, Option.ite_none_right_eq_some, Option.some.injEq, Bool.and_eq_true]
    at typed
  obtain ⟨⟨integral, integral'⟩, rfl⟩ := typed
  obtain ⟨number, found, type⟩ :=
    Numeric.exists_ofValue? left (Primitive.isNumeric_of_isIntegral integral)
  rw [← Value.isSome_integer? left, ← Numeric.bind_integer?_ofValue?, found, Option.bind_some,
    Option.isSome_iff_exists] at integral
  rw [← Value.isSome_integer? right, Option.isSome_iff_exists] at integral'
  obtain ⟨whole, isWhole⟩ := integral
  obtain ⟨distance, isDistance⟩ := integral'
  have types := operator.map_type_evaluate? number (.ofInt distance)
  rw [isWhole, Option.map_some, Option.map_eq_some_iff] at types
  obtain ⟨shifted, evaluated, same⟩ := types
  refine answers_of_value (by simp) ?_ ((same.trans type) ▸ shifted.primitive?_toValue)
  simp [evaluate?_shift, isDistance, found, evaluated]

/-- An operator without a type for its operands does not apply to them. -/
theorem evaluate?_eq_none (untyped : operator.resultType? p q = none) :
    operator.evaluate? lhs rhs = none := by
  cases operator with
  | arithmetic => exact evaluate?_arithmetic_eq_none left right untyped
  | relation => exact evaluate?_relation_eq_none left right untyped
  | equality => exact evaluate?_equality_eq_none left right untyped
  | connective => exact evaluate?_connective_eq_none left right untyped
  | bitwise => exact evaluate?_bitwise_eq_none left right untyped
  | shift => exact evaluate?_shift_eq_none left right untyped

/-- An operator with a type for its operands answers a value of it, unless it
divides by zero. -/
theorem answers {type : Primitive} (typed : operator.resultType? p q = some type) :
    operator.Answers lhs rhs type := by
  cases operator with
  | arithmetic => exact answers_arithmetic left right typed
  | relation => exact answers_relation left right typed
  | equality => exact answers_equality left right typed
  | connective => exact answers_connective left right typed
  | bitwise => exact answers_bitwise left right typed
  | shift => exact answers_shift left right typed

end Groups

/-- Evaluating between two values does what typing tells. -/
theorem isTyped (operator : BinaryOperator) (lhs rhs : Value) : operator.IsTyped lhs rhs where
  reference reference := by
    rw [evaluate, operator.evaluate?_of_reference reference, Option.getD_none, blame]
    rcases reference with reference | reference
    · rw [reference]
    · rw [reference]
      cases lhs.primitive? <;> rfl
  untyped left right untyped := by
    rw [evaluate, evaluate?_eq_none left right untyped, Option.getD_none, blame, left, right]
  divided left right typed := by
    rcases answers left right typed with ⟨divides, fails⟩ | ⟨away, value, found, _⟩
    · simp [evaluate, fails, divides]
    · simp [evaluate, found, away]
  typed left right typed away := by
    rcases answers left right typed with ⟨divides, _⟩ | ⟨_, value, found, type⟩
    · exact absurd divides away
    · exact ⟨value, by rw [evaluate, found, Option.getD_some], type⟩

end BinaryOperator

namespace UnaryOperator

/-- Evaluating does what typing tells, and no value makes it fail otherwise. -/
structure IsTyped (operator : UnaryOperator) (operand : Value) : Prop where
  reference : operand.primitive? = none →
    operator.evaluate operand = .error (.unsupported operator.text .reference)
  untyped {p : Primitive} : operand.primitive? = some p → operator.resultType? p = none →
    operator.evaluate operand = .error (.unsupported operator.text (.primitive p))
  typed {p type : Primitive} : operand.primitive? = some p → operator.resultType? p = some type →
    ∃ value, operator.evaluate operand = .ok value ∧ value.primitive? = some type
  faultless : operator.evaluate operand ≠ .error .divisionByZero

/-- The type of what an operator answers. -/
theorem map_primitive?_evaluate? (operator : UnaryOperator) (operand : Value) :
    (operator.evaluate? operand).map Value.primitive?
      = (operand.primitive?.bind operator.resultType?).map some := by
  cases operand <;> cases operator <;> rfl

/-- Evaluating a value does what typing tells. -/
theorem isTyped (operator : UnaryOperator) (operand : Value) : operator.IsTyped operand where
  reference reference := by
    have types := operator.map_primitive?_evaluate? operand
    rw [reference, Option.bind_none, Option.map_none, Option.map_eq_none_iff] at types
    rw [evaluate, types, reference]
  untyped known untyped := by
    have types := operator.map_primitive?_evaluate? operand
    rw [known, Option.bind_some, untyped, Option.map_none, Option.map_eq_none_iff] at types
    rw [evaluate, types, known]
  typed known typed := by
    have types := operator.map_primitive?_evaluate? operand
    rw [known, Option.bind_some, typed, Option.map_some, Option.map_eq_some_iff] at types
    obtain ⟨value, found, type⟩ := types
    exact ⟨value, by rw [evaluate, found], type⟩
  faultless := by
    rw [evaluate]
    split <;> simp

end UnaryOperator

/-- Evaluating operators does what typing them tells, for all operators and
operands. -/
theorem areTyped :
    (∀ (operator : BinaryOperator) (lhs rhs : Value), operator.IsTyped lhs rhs)
      ∧ ∀ (operator : UnaryOperator) (operand : Value), operator.IsTyped operand :=
  ⟨BinaryOperator.isTyped, UnaryOperator.isTyped⟩

end ClassModel
