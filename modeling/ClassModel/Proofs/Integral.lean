import ClassModel.Proofs.Typing
import Mathlib.Data.Int.Bitwise

/-!
# ClassModel.Proofs.Integral

Operators on whole numbers are exact up to their width (`computesExactly`).
Whole numbers are computed as integers and the result is reduced to a signed
number of 32 bits, or of 64 bits where a `long` takes part. The bits of a
negative number are those of its two's complement, and the distance of a shift
counts modulo the width of the number that is shifted.

Numbers of both widths are bit vectors, so each group of operators is compared
with the integers once, for bit vectors of any width.
-/

namespace ClassModel

/-! ## Exact results -/

/-- The exact result of arithmetic; division truncates toward zero. -/
def Arithmetic.exact : Arithmetic → Int → Int → Int
  | add, x, y => x + y
  | subtract, x, y => x - y
  | multiply, x, y => x * y
  | divide, x, y => x.tdiv y
  | remainder, x, y => x.tmod y

/-- The exact result of a shift by the given number of bits. -/
def Shift.exact (width : Nat) : Shift → Int → Nat → Int
  | left, x, steps => x * 2 ^ steps
  | right, x, steps => x.fdiv (2 ^ steps)
  | unsignedRight, x, steps => (x % 2 ^ width).fdiv (2 ^ steps)

/-- The order of two integers. -/
def Relation.exact : Relation → Int → Int → Bool
  | less, x, y => x < y
  | lessEqual, x, y => x ≤ y
  | greater, x, y => y < x
  | greaterEqual, x, y => y ≤ x

/-! ## Bit vectors -/

section BitVector

variable {w : Nat}

/-- Arithmetic on bit vectors. -/
def Arithmetic.onBits : Arithmetic → BitVec w → BitVec w → BitVec w
  | add, a, b => a + b
  | subtract, a, b => a - b
  | multiply, a, b => a * b
  | divide, a, b => a.sdiv b
  | remainder, a, b => a.srem b

/-- Bitwise operators on bit vectors. -/
def Bitwise.onBits : Bitwise → BitVec w → BitVec w → BitVec w
  | and, a, b => a &&& b
  | or, a, b => a ||| b
  | xor, a, b => a ^^^ b

/-- Shifts of a bit vector. -/
def Shift.onBits : Shift → BitVec w → Nat → BitVec w
  | left, a, steps => a <<< steps
  | right, a, steps => a.sshiftRight steps
  | unsignedRight, a, steps => a >>> steps

/-- Arithmetic is exact up to reduction. -/
theorem Arithmetic.toInt_onBits (operator : Arithmetic) (a b : BitVec w) :
    (operator.onBits a b).toInt = (operator.exact a.toInt b.toInt).bmod (2 ^ w) := by
  cases operator with
  | add => exact BitVec.toInt_add a b
  | subtract => exact BitVec.toInt_sub
  | multiply => exact BitVec.toInt_mul a b
  | divide => exact BitVec.toInt_sdiv a b
  | remainder => rw [exact, ← BitVec.toInt_srem, BitVec.toInt_bmod_cancel, onBits]

/-- The bits of a signed number; its sign goes on without end. -/
theorem testBit_toInt (x : BitVec w) (k : Nat) :
    x.toInt.testBit k = if k < w then x.getLsbD k else x.msb := by
  have beyond (x : BitVec w) (away : ¬ k < w) : x.toNat.testBit k = false :=
    Nat.testBit_lt_two_pow (Nat.lt_of_lt_of_le x.isLt
      (Nat.pow_le_pow_right (by decide) (Nat.le_of_not_lt away)))
  rw [BitVec.toInt_eq_msb_cond]
  cases negative : x.msb with
  | false =>
    rw [if_neg (by decide)]
    change x.toNat.testBit k = _
    split
    · rfl
    · next away => exact beyond x away
  | true =>
    have complement : (x.toNat : Int) - ((2 ^ w : Nat) : Int) = Int.negSucc (~~~x).toNat := by
      have := x.isLt
      rw [BitVec.toNat_not, Int.negSucc_eq]
      omega
    rw [if_pos rfl, complement]
    change (!(~~~x).toNat.testBit k) = _
    split
    · next inside =>
      change (!(~~~x).getLsbD k) = _
      simp [inside]
    · next away => rw [beyond _ away, Bool.not_false]

/-- Bitwise operators work bit by bit. -/
theorem Bitwise.testBit_toInt_onBits (operator : Bitwise) (a b : BitVec w) (k : Nat) :
    (operator.onBits a b).toInt.testBit k
      = operator.evaluateBool (a.toInt.testBit k) (b.toInt.testBit k) := by
  simp only [testBit_toInt]
  cases operator <;> split <;> simp [onBits, evaluateBool]

/-- A shift to the left multiplies. -/
theorem toInt_shiftLeft_eq (x : BitVec w) (steps : Nat) :
    (x <<< steps).toInt = (x.toInt * 2 ^ steps).bmod (2 ^ w) := by
  rw [BitVec.toInt_shiftLeft, Nat.shiftLeft_eq, BitVec.toInt_eq_toNat_bmod, Int.bmod_mul_bmod]
  norm_cast

/-- A shift to the right divides and rounds down. -/
theorem toInt_sshiftRight_eq (x : BitVec w) (steps : Nat) :
    (x.sshiftRight steps).toInt = (x.toInt.fdiv (2 ^ steps)).bmod (2 ^ w) := by
  rw [← BitVec.toInt_bmod_cancel (x.sshiftRight steps), BitVec.toInt_sshiftRight,
    Int.shiftRight_eq_div_pow, Int.fdiv_eq_ediv_of_nonneg _ (Int.pow_nonneg (by decide)),
    Int.natCast_pow]
  rfl

/-- An unsigned shift to the right divides the unsigned number. -/
theorem toInt_ushiftRight_eq (x : BitVec w) (steps : Nat) :
    (x >>> steps).toInt = ((x.toInt % 2 ^ w).fdiv (2 ^ steps)).bmod (2 ^ w) := by
  have unsigned : x.toInt % 2 ^ w = x.toNat := by
    calc x.toInt % 2 ^ w
      _ = (x.toNat : Int).bmod (2 ^ w) % ((2 ^ w : Nat) : Int) := by
        rw [BitVec.toInt_eq_toNat_bmod, Int.natCast_pow]
        rfl
      _ = (x.toNat : Int) % ((2 ^ w : Nat) : Int) := Int.bmod_emod
      _ = x.toNat := by exact_mod_cast Nat.mod_eq_of_lt x.isLt
  rw [unsigned, Int.fdiv_eq_ediv_of_nonneg _ (Int.pow_nonneg (by decide)),
    BitVec.toInt_eq_toNat_bmod, BitVec.toNat_ushiftRight, Nat.shiftRight_eq_div_pow,
    Int.natCast_ediv, Int.natCast_pow]
  rfl

/-- Shifts are exact up to reduction. -/
theorem Shift.toInt_onBits (operator : Shift) (a : BitVec w) (steps : Nat) :
    (operator.onBits a steps).toInt = (operator.exact w a.toInt steps).bmod (2 ^ w) := by
  cases operator with
  | left => exact toInt_shiftLeft_eq a steps
  | right => exact toInt_sshiftRight_eq a steps
  | unsignedRight => exact toInt_ushiftRight_eq a steps

end BitVector

/-! ## Both widths -/

/-- Masking the low bits of a distance reduces it modulo a power of two. -/
theorem toNat_ofInt_and {k : Nat} (n : Int) (within : k ≤ 32) :
    (UInt32.ofInt n).toNat &&& (2 ^ k - 1) = (n % 2 ^ k).toNat := by
  have divides : (2 : Int) ^ k ∣ 2 ^ 32 := pow_dvd_pow 2 within
  have low : ((n % 2 ^ 32).toNat : Int) = n % 2 ^ 32 :=
    Int.toNat_of_nonneg (Int.emod_nonneg n (by decide))
  rw [Nat.and_two_pow_sub_one_eq_mod, toNat_ofInt_uInt32, ← Int.emod_emod_of_dvd n divides, ← low]
  norm_cast

theorem Shift.evaluateInt_eq (operator : Shift) (a : Int32) (distance : Int) :
    operator.evaluateInt a (.ofInt distance)
      = .ofBitVec (operator.onBits a.toBitVec (distance % 32).toNat) := by
  have steps : (UInt32.ofInt distance &&& 31).toNat = (distance % 32).toNat :=
    (UInt32.toNat_and _ _).trans (toNat_ofInt_and (k := 5) distance (by decide))
  have masked : ∀ steps : Fin 32, ((Int32.ofNat steps).toBitVec.smod 32).toNat = steps
      ∧ ((UInt32.ofNat steps).toBitVec % 32).toNat = steps := by decide
  obtain ⟨signed, unsigned⟩ := masked ⟨(distance % 32).toNat, by omega⟩
  unfold evaluateInt
  rw [steps]
  cases operator with
  | left => exact congrArg (fun steps => Int32.ofBitVec (a.toBitVec <<< steps)) signed
  | right => exact congrArg (fun steps => Int32.ofBitVec (a.toBitVec.sshiftRight steps)) signed
  | unsignedRight => exact congrArg (fun steps => Int32.ofBitVec (a.toBitVec >>> steps)) unsigned

theorem Shift.evaluateLong_eq (operator : Shift) (a : Int64) (distance : Int) :
    operator.evaluateLong a (.ofInt distance)
      = .ofBitVec (operator.onBits a.toBitVec (distance % 64).toNat) := by
  have steps : (UInt32.ofInt distance &&& 63).toNat = (distance % 64).toNat :=
    (UInt32.toNat_and _ _).trans (toNat_ofInt_and (k := 6) distance (by decide))
  have masked : ∀ steps : Fin 64, ((Int64.ofNat steps).toBitVec.smod 64).toNat = steps
      ∧ ((UInt64.ofNat steps).toBitVec % 64).toNat = steps := by decide
  obtain ⟨signed, unsigned⟩ := masked ⟨(distance % 64).toNat, by omega⟩
  unfold evaluateLong
  rw [steps]
  cases operator with
  | left => exact congrArg (fun steps => Int64.ofBitVec (a.toBitVec <<< steps)) signed
  | right => exact congrArg (fun steps => Int64.ofBitVec (a.toBitVec.sshiftRight steps)) signed
  | unsignedRight => exact congrArg (fun steps => Int64.ofBitVec (a.toBitVec >>> steps)) unsigned

section Words

variable {a b : Int32} {c d : Int64}

/-- Division of two numbers that are not long fails for a zero divisor only. -/
theorem Arithmetic.evaluate_ints {operator : Arithmetic}
    (divisible : operator = .divide ∨ operator = .remainder → b.toInt ≠ 0) :
    operator.evaluate (.ints a b)
      = .ok (.int (.ofBitVec (operator.onBits a.toBitVec b.toBitVec))) := by
  have nonzero : b.toInt ≠ 0 → b ≠ 0 := by
    rintro away rfl
    exact away rfl
  cases operator with
  | divide => exact if_neg (nonzero (divisible (.inl rfl)))
  | remainder => exact if_neg (nonzero (divisible (.inr rfl)))
  | add | subtract | multiply => rfl

theorem Arithmetic.evaluate_longs {operator : Arithmetic}
    (divisible : operator = .divide ∨ operator = .remainder → d.toInt ≠ 0) :
    operator.evaluate (.longs c d)
      = .ok (.long (.ofBitVec (operator.onBits c.toBitVec d.toBitVec))) := by
  have nonzero : d.toInt ≠ 0 → d ≠ 0 := by
    rintro away rfl
    exact away rfl
  cases operator with
  | divide => exact if_neg (nonzero (divisible (.inl rfl)))
  | remainder => exact if_neg (nonzero (divisible (.inr rfl)))
  | add | subtract | multiply => rfl

theorem Bitwise.evaluate?_ints (operator : Bitwise) : operator.evaluate? (.ints a b)
    = some (.int (.ofBitVec (operator.onBits a.toBitVec b.toBitVec))) := by
  cases operator <;> rfl

theorem Bitwise.evaluate?_longs (operator : Bitwise) : operator.evaluate? (.longs c d)
    = some (.long (.ofBitVec (operator.onBits c.toBitVec d.toBitVec))) := by
  cases operator <;> rfl

theorem Relation.evaluate_ints (operator : Relation) :
    operator.evaluate (.ints a b) = operator.exact a.toInt b.toInt := by
  cases operator <;> simp [evaluate, exact, Int32.lt_iff_toInt_lt, Int32.le_iff_toInt_le]

theorem Relation.evaluate_longs (operator : Relation) :
    operator.evaluate (.longs c d) = operator.exact c.toInt d.toInt := by
  cases operator <;> simp [evaluate, exact, Int64.lt_iff_toInt_lt, Int64.le_iff_toInt_le]

theorem NumberPair.areEqual_ints : (ints a b).areEqual = (a.toInt == b.toInt) := by
  rw [areEqual, Bool.eq_iff_iff, beq_iff_eq, beq_iff_eq, Int32.toInt_inj]

theorem NumberPair.areEqual_longs : (longs c d).areEqual = (c.toInt == d.toInt) := by
  rw [areEqual, Bool.eq_iff_iff, beq_iff_eq, beq_iff_eq, Int64.toInt_inj]

end Words

/-- The number of bits in which a whole number is computed. -/
def Value.width : Value → Nat
  | .long _ => 64
  | _ => 32

/-- The number of bits in which two whole numbers are computed. -/
def commonWidth (lhs rhs : Value) : Nat := max lhs.width rhs.width

/-! ## Operands of a common width -/

section Operands

variable {lhs rhs : Value} {x y : Int}

/-- A whole number is promoted to one of two types. -/
theorem Numeric.ofValue?_whole (whole : lhs.integer? = some x) :
    (∃ a : Int32, ofValue? lhs = some (.int a) ∧ a.toInt = x ∧ lhs.width = 32)
      ∨ ∃ a : Int64, ofValue? lhs = some (.long a) ∧ a.toInt = x ∧ lhs.width = 64 := by
  have same := bind_integer?_ofValue? lhs
  rw [whole] at same
  cases lhs with
  | int a | char a => exact .inl ⟨_, rfl, Option.some.inj same, rfl⟩
  | long a => exact .inr ⟨_, rfl, Option.some.inj same, rfl⟩
  | _ => cases whole

/-- Two whole numbers of a common type are the given ones. -/
inductive Promotes (lhs rhs : Value) (x y : Int) : Prop where
  | ints (a b : Int32) : NumberPair.ofValues? lhs rhs = some (.ints a b) → a.toInt = x →
      b.toInt = y → commonWidth lhs rhs = 32 → Promotes lhs rhs x y
  | longs (a b : Int64) : NumberPair.ofValues? lhs rhs = some (.longs a b) → a.toInt = x →
      b.toInt = y → commonWidth lhs rhs = 64 → Promotes lhs rhs x y

theorem promotes (left : lhs.integer? = some x) (right : rhs.integer? = some y) :
    Promotes lhs rhs x y := by
  have pair {m n : Numeric} (left : Numeric.ofValue? lhs = some m)
      (right : Numeric.ofValue? rhs = some n) :
      NumberPair.ofValues? lhs rhs = some (.of m n) :=
    NumberPair.ofValues?_eq_some_iff.2 ⟨m, n, left, right, rfl⟩
  rcases Numeric.ofValue?_whole left with ⟨a, found, rfl, width⟩ | ⟨a, found, rfl, width⟩ <;>
    rcases Numeric.ofValue?_whole right with
      ⟨b, found', rfl, width'⟩ | ⟨b, found', rfl, width'⟩
  · exact .ints a b (pair found found') rfl rfl (by rw [commonWidth, width, width']; rfl)
  · exact .longs _ b (pair found found') (Int32.toInt_toInt64 a) rfl
      (by rw [commonWidth, width, width']; rfl)
  · exact .longs a _ (pair found found') rfl (Int32.toInt_toInt64 b)
      (by rw [commonWidth, width, width']; rfl)
  · exact .longs a b (pair found found') rfl rfl (by rw [commonWidth, width, width']; rfl)

end Operands

/-! ## Values -/

namespace BinaryOperator

variable {lhs rhs : Value} {pair : NumberPair}

theorem evaluate_arithmetic (found : NumberPair.ofValues? lhs rhs = some pair)
    (operator : Arithmetic) : (arithmetic operator).evaluate lhs rhs
      = (operator.evaluate pair).map Numeric.toValue := by
  simp [evaluate, evaluate?, found]

theorem evaluate_relation (found : NumberPair.ofValues? lhs rhs = some pair)
    (operator : Relation) : (relation operator).evaluate lhs rhs
      = .ok (.boolean (operator.evaluate pair)) := by
  simp [evaluate, evaluate?, found]

theorem evaluate_equality (found : NumberPair.ofValues? lhs rhs = some pair)
    (operator : Equality) : (equality operator).evaluate lhs rhs
      = .ok (.boolean (operator.evaluate pair.areEqual)) := by
  simp only [evaluate, evaluate?]
  split
  · simp [NumberPair.ofValues?, Numeric.ofValue?] at found
  · simp [found]

theorem evaluate_bitwise (found : NumberPair.ofValues? lhs rhs = some pair)
    {operator : Bitwise} {number : Numeric} (evaluated : operator.evaluate? pair = some number) :
    (bitwise operator).evaluate lhs rhs = .ok number.toValue := by
  simp only [evaluate, evaluate?]
  split
  · simp [NumberPair.ofValues?, Numeric.ofValue?] at found
  · simp [found, evaluated]

end BinaryOperator

/-! ## Exact operators -/

/-- The outcome is the integer, as a value of the given width. -/
def Yields (outcome : Except OperatorError Value) (width : Nat) (n : Int) : Prop :=
  ∃ value, outcome = .ok value
    ∧ value.primitive? = some (if width = 64 then .long else .int) ∧ value.integer? = some n

/-- All operators compute what they stand for on whole numbers. -/
structure ComputesExactly (lhs rhs : Value) (x y : Int) : Prop where
  arithmetic (operator : Arithmetic) : (operator = .divide ∨ operator = .remainder → y ≠ 0) →
    Yields ((BinaryOperator.arithmetic operator).evaluate lhs rhs) (commonWidth lhs rhs)
      ((operator.exact x y).bmod (2 ^ commonWidth lhs rhs))
  /-- The least number has no opposite: divided by minus one it stays itself. -/
  least : x = -2 ^ (commonWidth lhs rhs - 1) → y = -1 →
    Yields ((BinaryOperator.arithmetic .divide).evaluate lhs rhs) (commonWidth lhs rhs) x
      ∧ Yields ((BinaryOperator.arithmetic .remainder).evaluate lhs rhs) (commonWidth lhs rhs) 0
  /-- The quotient and the remainder make up the dividend. -/
  divided : y ≠ 0 → ∃ quotient rest,
    Yields ((BinaryOperator.arithmetic .divide).evaluate lhs rhs) (commonWidth lhs rhs) quotient
      ∧ Yields ((BinaryOperator.arithmetic .remainder).evaluate lhs rhs) (commonWidth lhs rhs) rest
      ∧ x = (quotient * y + rest).bmod (2 ^ commonWidth lhs rhs)
  bitwise (operator : Bitwise) : ∃ n,
    Yields ((BinaryOperator.bitwise operator).evaluate lhs rhs) (commonWidth lhs rhs) n
      ∧ ∀ k, n.testBit k = operator.evaluateBool (x.testBit k) (y.testBit k)
  shift (operator : Shift) : Yields ((BinaryOperator.shift operator).evaluate lhs rhs) lhs.width
    ((operator.exact lhs.width x (y % lhs.width).toNat).bmod (2 ^ lhs.width))
  relation (operator : Relation) : (BinaryOperator.relation operator).evaluate lhs rhs
    = .ok (.boolean (operator.exact x y))
  equality (operator : Equality) : (BinaryOperator.equality operator).evaluate lhs rhs
    = .ok (.boolean (operator.evaluate (x == y)))
  negate : UnaryOperator.negate.evaluate lhs
    = (BinaryOperator.arithmetic .subtract).evaluate (.int 0) lhs
  bitwiseNot : UnaryOperator.bitwiseNot.evaluate lhs
    = (BinaryOperator.bitwise .xor).evaluate lhs (.int (-1))

/-! ## Outcomes -/

theorem yields_int (bits : BitVec 32) : Yields (.ok (.int (.ofBitVec bits))) 32 bits.toInt :=
  ⟨_, rfl, rfl, rfl⟩

theorem yields_long (bits : BitVec 64) : Yields (.ok (.long (.ofBitVec bits))) 64 bits.toInt :=
  ⟨_, rfl, rfl, rfl⟩

section Exact

variable {lhs rhs : Value} {x y : Int}

theorem yields_arithmetic (promotes : Promotes lhs rhs x y) (operator : Arithmetic)
    (divisible : operator = .divide ∨ operator = .remainder → y ≠ 0) :
    Yields ((BinaryOperator.arithmetic operator).evaluate lhs rhs) (commonWidth lhs rhs)
      ((operator.exact x y).bmod (2 ^ commonWidth lhs rhs)) := by
  cases promotes with
  | ints a b found left right width =>
    subst left right
    rw [width, BinaryOperator.evaluate_arithmetic found, Arithmetic.evaluate_ints divisible]
    have reduced := operator.toInt_onBits a.toBitVec b.toBitVec
    exact reduced ▸ yields_int _
  | longs a b found left right width =>
    subst left right
    rw [width, BinaryOperator.evaluate_arithmetic found, Arithmetic.evaluate_longs divisible]
    have reduced := operator.toInt_onBits a.toBitVec b.toBitVec
    exact reduced ▸ yields_long _

theorem exists_yields_bitwise (promotes : Promotes lhs rhs x y) (operator : Bitwise) : ∃ n,
    Yields ((BinaryOperator.bitwise operator).evaluate lhs rhs) (commonWidth lhs rhs) n
      ∧ ∀ k, n.testBit k = operator.evaluateBool (x.testBit k) (y.testBit k) := by
  cases promotes with
  | ints a b found left right width =>
    subst left right
    rw [width, BinaryOperator.evaluate_bitwise found operator.evaluate?_ints]
    exact ⟨_, yields_int _, operator.testBit_toInt_onBits a.toBitVec b.toBitVec⟩
  | longs a b found left right width =>
    subst left right
    rw [width, BinaryOperator.evaluate_bitwise found operator.evaluate?_longs]
    exact ⟨_, yields_long _, operator.testBit_toInt_onBits a.toBitVec b.toBitVec⟩

theorem yields_shift (left : lhs.integer? = some x) (right : rhs.integer? = some y)
    (operator : Shift) : Yields ((BinaryOperator.shift operator).evaluate lhs rhs) lhs.width
      ((operator.exact lhs.width x (y % lhs.width).toNat).bmod (2 ^ lhs.width)) := by
  rw [BinaryOperator.evaluate, BinaryOperator.evaluate?_shift, right, Option.bind_some]
  rcases Numeric.ofValue?_whole left with ⟨a, found, rfl, width⟩ | ⟨a, found, rfl, width⟩
  · rw [found, width, Option.bind_some, Shift.evaluate?, Shift.evaluateInt_eq]
    have reduced := operator.toInt_onBits a.toBitVec (y % 32).toNat
    exact reduced ▸ yields_int _
  · rw [found, width, Option.bind_some, Shift.evaluate?, Shift.evaluateLong_eq]
    have reduced := operator.toInt_onBits a.toBitVec (y % 64).toNat
    exact reduced ▸ yields_long _

/-- A promoted number is not changed by reduction. -/
theorem bmod_of_promotes (promotes : Promotes lhs rhs x y) :
    x.bmod (2 ^ commonWidth lhs rhs) = x := by
  cases promotes with
  | ints a b found left right width =>
    subst left
    rw [width]
    exact a.toBitVec.toInt_bmod_cancel
  | longs a b found left right width =>
    subst left
    rw [width]
    exact a.toBitVec.toInt_bmod_cancel

/-- The quotient and the remainder make up the dividend, as far as it goes. -/
theorem bmod_tdiv_add_tmod (x y : Int) (m : Nat) :
    ((x.tdiv y).bmod m * y + (x.tmod y).bmod m).bmod m = x.bmod m := by
  calc ((x.tdiv y).bmod m * y + (x.tmod y).bmod m).bmod m
    _ = (((x.tdiv y).bmod m * y).bmod m + x.tmod y).bmod m := by
      rw [Int.add_bmod_bmod, Int.bmod_add_bmod]
    _ = (x.tdiv y * y + x.tmod y).bmod m := by rw [Int.bmod_mul_bmod, Int.bmod_add_bmod]
    _ = x.bmod m := by rw [Int.mul_comm, Int.mul_tdiv_add_tmod]

theorem commonWidth_cases (promotes : Promotes lhs rhs x y) :
    commonWidth lhs rhs = 32 ∨ commonWidth lhs rhs = 64 := by
  cases promotes with
  | ints _ _ _ _ _ width => exact .inl width
  | longs _ _ _ _ _ width => exact .inr width

/-- A number is negated by subtracting it from zero. -/
theorem UnaryOperator.evaluate_negate (left : lhs.integer? = some x) :
    negate.evaluate lhs = (BinaryOperator.arithmetic .subtract).evaluate (.int 0) lhs := by
  rcases Numeric.ofValue?_whole left with ⟨a, found, _⟩ | ⟨a, found, _⟩
  · have pair : NumberPair.ofValues? (.int 0) lhs = some (.ints 0 a) :=
      NumberPair.ofValues?_eq_some_iff.2 ⟨_, _, rfl, found, rfl⟩
    rw [BinaryOperator.evaluate_arithmetic pair, Arithmetic.evaluate, Int32.zero_sub]
    simp [evaluate, evaluate?, found, negated, Except.map]
  · have pair : NumberPair.ofValues? (.int 0) lhs = some (.longs 0 a) :=
      NumberPair.ofValues?_eq_some_iff.2 ⟨_, _, rfl, found, rfl⟩
    rw [BinaryOperator.evaluate_arithmetic pair, Arithmetic.evaluate, Int64.zero_sub]
    simp [evaluate, evaluate?, found, negated, Except.map]

/-- The bits of minus one are all set. -/
theorem UnaryOperator.evaluate_bitwiseNot (left : lhs.integer? = some x) :
    bitwiseNot.evaluate lhs = (BinaryOperator.bitwise .xor).evaluate lhs (.int (-1)) := by
  rcases Numeric.ofValue?_whole left with ⟨a, found, _⟩ | ⟨a, found, _⟩
  · have pair : NumberPair.ofValues? lhs (.int (-1)) = some (.ints a (-1)) :=
      NumberPair.ofValues?_eq_some_iff.2 ⟨_, _, found, rfl, rfl⟩
    rw [BinaryOperator.evaluate_bitwise pair rfl, Int32.xor_neg_one]
    simp [evaluate, evaluate?, found, complement?]
  · have pair : NumberPair.ofValues? lhs (.int (-1)) = some (.longs a (-1)) :=
      NumberPair.ofValues?_eq_some_iff.2 ⟨_, _, found, rfl, rfl⟩
    rw [BinaryOperator.evaluate_bitwise pair rfl, Int64.xor_neg_one]
    simp [evaluate, evaluate?, found, complement?]

end Exact

/-- Operators on whole numbers are exact up to their width. -/
theorem computesExactly {lhs rhs : Value} {x y : Int} (left : lhs.integer? = some x)
    (right : rhs.integer? = some y) : ComputesExactly lhs rhs x y where
  arithmetic := yields_arithmetic (promotes left right)
  least := by
    rintro rfl rfl
    have exact (operator : Arithmetic) :=
      yields_arithmetic (promotes left right) operator fun _ => by decide
    have quotient := exact .divide
    have rest := exact .remainder
    rcases commonWidth_cases (promotes left right) with width | width
    · rw [width] at quotient rest ⊢
      exact ⟨quotient, rest⟩
    · rw [width] at quotient rest ⊢
      exact ⟨quotient, rest⟩
  divided nonzero := by
    refine ⟨_, _, yields_arithmetic (promotes left right) .divide fun _ => nonzero,
      yields_arithmetic (promotes left right) .remainder fun _ => nonzero, ?_⟩
    rw [Arithmetic.exact, Arithmetic.exact, bmod_tdiv_add_tmod, bmod_of_promotes]
    exact promotes left right
  bitwise := exists_yields_bitwise (promotes left right)
  shift := yields_shift left right
  relation operator := by
    cases promotes left right with
    | ints a b found left right =>
      rw [BinaryOperator.evaluate_relation found, Relation.evaluate_ints, left, right]
    | longs a b found left right =>
      rw [BinaryOperator.evaluate_relation found, Relation.evaluate_longs, left, right]
  equality operator := by
    cases promotes left right with
    | ints a b found left right =>
      rw [BinaryOperator.evaluate_equality found, NumberPair.areEqual_ints, left, right]
    | longs a b found left right =>
      rw [BinaryOperator.evaluate_equality found, NumberPair.areEqual_longs, left, right]
  negate := UnaryOperator.evaluate_negate left
  bitwiseNot := UnaryOperator.evaluate_bitwiseNot left

/-- The least `long`, and a divisor that is promoted. -/
theorem computesExactly_least :
    (Value.long Int64.minValue).integer? = some (-2 ^ 63) ∧ (Value.int (-1)).integer? = some (-1)
      ∧ ComputesExactly (.long Int64.minValue) (.int (-1)) (-2 ^ 63) (-1) :=
  ⟨rfl, rfl, computesExactly rfl rfl⟩

/-- A distance below zero counts back from the width. -/
example : (BinaryOperator.shift .left).evaluate (.int 1) (.long (-1))
    = .ok (.int Int32.minValue) := rfl

end ClassModel
