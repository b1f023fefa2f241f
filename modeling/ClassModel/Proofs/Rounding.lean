import ClassModel.Number.Binary
import Mathlib.Algebra.Order.Field.Power
import Mathlib.Algebra.Order.Ring.Rat
import Mathlib.Tactic.FieldSimp
import Mathlib.Tactic.Linarith
import Mathlib.Tactic.Positivity
import Mathlib.Tactic.Ring

/-!
# ClassModel.Proofs.Rounding

Rounding to a binary format. The bit patterns of a format without a sign, in
ascending order, stand for ascending numbers. `BinaryFormat.IsNearest` says that
a pattern stands for the number nearest to a given one, and of two nearest ones
for the even one; `BinaryFormat.isNearest_ofRatio` that quotients are rounded so.

A pattern is a number of steps, one for each doubling of the unit, and a
significand in the unit of the last step (`BinaryFormat.ladder_add`). So the
significand may be rounded as a natural number: where it is rounded up to the
next step, the pattern is that of the next step.
-/

namespace ClassModel.Number

theorem cast_pow2 (n : Nat) : (pow2 n : ℚ) = 2 ^ n := by
  simp [pow2]

theorem pow2_pos (n : Nat) : 0 < pow2 n := Nat.pow_pos (by decide)

/-! ## Rounding to a natural number -/

/-- The natural number is nearest to the number, and the even one of two that
are. -/
structure IsRounded (value : ℚ) (n : Nat) : Prop where
  near : |value - n| ≤ 1 / 2
  even : |value - n| = 1 / 2 → n % 2 = 0

/-- Quotients of naturals are rounded to the nearest one. -/
theorem isRounded_roundDiv (num : Nat) {den : Nat} (positive : 0 < den) :
    IsRounded (num / den) (BinaryFormat.roundDiv num den) := by
  have positive' : (0 : ℚ) < den := by exact_mod_cast positive
  have quotient : (num : ℚ) / den = (num / den : Nat) + (num % den : Nat) / (den : ℚ) := by
    rw [add_div' _ _ _ positive'.ne', div_left_inj' positive'.ne']
    exact_mod_cast (Nat.div_add_mod' num den).symm
  have part : ((num % den : Nat) : ℚ) / den < 1 := by
    rw [div_lt_one positive']
    exact_mod_cast Nat.mod_lt num positive
  have part' : 0 ≤ ((num % den : Nat) : ℚ) / den := by positivity
  -- the rest compared to a half
  have half_le : 2 * (num % den) ≤ den ↔ ((num % den : Nat) : ℚ) / den ≤ 1 / 2 := by
    rw [div_le_iff₀ positive', ← Nat.cast_le (α := ℚ)]
    push_cast
    constructor <;> intro <;> linarith
  have half_eq : 2 * (num % den) = den ↔ ((num % den : Nat) : ℚ) / den = 1 / 2 := by
    rw [div_eq_iff positive'.ne', ← Nat.cast_inj (R := ℚ)]
    push_cast
    constructor <;> intro <;> linarith
  generalize hrest : ((num % den : Nat) : ℚ) / den = rest at *
  unfold BinaryFormat.roundDiv
  dsimp only
  split
  · next below =>
    have le : rest ≤ 1 / 2 := half_le.1 (by simp at below; omega)
    have distance : |(num : ℚ) / den - (num / den : Nat)| = rest := by
      rw [quotient, add_sub_cancel_left, abs_of_nonneg part']
    refine ⟨distance.trans_le le, fun tie => ?_⟩
    have := half_eq.2 (distance.symm.trans tie)
    simp at below
    omega
  · next above =>
    have le : 1 / 2 ≤ rest := by
      by_contra below
      have le := half_le.2 (by linarith)
      have ne : ¬ 2 * (num % den) = den := fun same => by
        have := half_eq.1 same
        linarith
      simp at above
      omega
    have distance : |(num : ℚ) / den - (num / den + 1 : Nat)| = 1 - rest := by
      rw [quotient, Nat.cast_add, Nat.cast_one, add_sub_add_left_eq_sub, abs_sub_comm,
        abs_of_nonneg (by linarith)]
    refine ⟨distance.trans_le (by linarith), fun tie => ?_⟩
    have := half_eq.2 (by linarith)
    simp at above
    omega

/-- The number that a number was rounded to is nearer than one that is further by
a whole, and nearer than one on the other side. Only from a half it is not. -/
theorem IsRounded.nearer {value other : ℚ} {n : Nat} (rounded : IsRounded value n)
    (away : n + 1 ≤ other ∨ other ≤ n - 1 ∨ n ≤ value ∧ other < n) :
    |value - n| ≤ |value - other| ∧ (|value - other| = |value - n| → |value - n| = 1 / 2) := by
  have near := rounded.near
  have bounds := abs_le.1 near
  obtain above | below | ⟨between, beyond⟩ := away
  · have far : |value - other| = other - value := by
      rw [abs_sub_comm, abs_of_nonneg (by linarith)]
    rw [far]
    exact ⟨by linarith, fun tie => le_antisymm near (by linarith)⟩
  · have far : |value - other| = value - other := abs_of_nonneg (by linarith)
    rw [far]
    exact ⟨by linarith, fun tie => le_antisymm near (by linarith)⟩
  · rw [abs_of_nonneg (sub_nonneg.2 between), abs_of_nonneg (by linarith)]
    exact ⟨by linarith, fun tie => by linarith⟩

namespace BinaryFormat

variable (format : BinaryFormat)

/-! ## The numbers of a format -/

/-- The number that a bit pattern without a sign stands for. Infinity counts as
the number that would come next. -/
def magnitude (bits : Nat) : ℚ :=
  match format.decode bits with
  | .finite _ significand exponent => significand * 2 ^ exponent
  | .infinite _ => format.hiddenBit * 2 ^ (format.minExponent + (format.maxField - 1 : Nat))
  | .nan => 0

/-- The bit pattern stands for the number of the format that is nearest to the
number; of two such patterns it is the even one. Numbers are rounded to infinity
as if it was the number that would come next. -/
structure IsNearest (value : ℚ) (bits : Nat) : Prop where
  le_infinity : bits ≤ format.infinity
  nearest : ∀ other ≤ format.infinity,
    |value - format.magnitude bits| ≤ |value - format.magnitude other|
  even : ∀ other ≤ format.infinity, other ≠ bits →
    |value - format.magnitude other| = |value - format.magnitude bits| → bits % 2 = 0

/-- The number of a bit pattern if there was no largest exponent. -/
def ladder (bits : Nat) : ℚ :=
  if bits / format.hiddenBit = 0 then (bits % format.hiddenBit : Nat) * 2 ^ format.minExponent
  else (format.hiddenBit + bits % format.hiddenBit : Nat)
    * 2 ^ (format.minExponent + (bits / format.hiddenBit - 1 : Nat))

theorem hiddenBit_pos : 0 < format.hiddenBit := pow2_pos _

theorem maxField_pos (hasExponent : 0 < format.exponent) : 0 < format.maxField := by
  have more : 1 < 2 ^ format.exponent := Nat.one_lt_two_pow hasExponent.ne'
  simp only [maxField, pow2, Nat.pow_eq]
  omega

theorem magnitude_eq_ladder (hasExponent : 0 < format.exponent) {bits : Nat}
    (within : bits ≤ format.infinity) : format.magnitude bits = format.ladder bits := by
  have positive := format.hiddenBit_pos
  have split := Nat.div_add_mod' bits format.hiddenBit
  have field_le : bits / format.hiddenBit ≤ format.maxField := by
    by_contra more
    have := Nat.mul_le_mul_right format.hiddenBit (Nat.lt_of_not_ge more)
    rw [Nat.succ_mul] at this
    rw [infinity] at within
    omega
  have field : bits / format.hiddenBit % (format.maxField + 1) = bits / format.hiddenBit :=
    Nat.mod_eq_of_lt (Nat.lt_succ_of_le field_le)
  unfold magnitude decode ladder
  simp only [field]
  by_cases isMax : bits / format.hiddenBit = format.maxField
  · have rest : bits % format.hiddenBit = 0 := by
      rw [infinity, ← isMax] at within
      omega
    simp only [isMax, rest, if_true, if_neg (format.maxField_pos hasExponent).ne', Nat.add_zero]
  · rw [if_neg isMax]
    by_cases zero : bits / format.hiddenBit = 0
    · simp only [zero, if_true]
    · simp only [zero, if_false]

/-- Every bit pattern is a number of steps and a significand that fits. -/
theorem exists_steps (bits : Nat) : ∃ steps significand,
    bits = steps * format.hiddenBit + significand
    ∧ significand < 2 * format.hiddenBit ∧ (steps = 0 ∨ format.hiddenBit ≤ significand) := by
  have positive := format.hiddenBit_pos
  have split := Nat.div_add_mod' bits format.hiddenBit
  have rest := Nat.mod_lt bits positive
  cases field : bits / format.hiddenBit with
  | zero =>
    rw [field, Nat.zero_mul, Nat.zero_add] at split
    exact ⟨0, bits, by omega, by omega, .inl rfl⟩
  | succ steps =>
    rw [field, Nat.succ_mul, Nat.add_assoc] at split
    exact ⟨steps, format.hiddenBit + bits % format.hiddenBit, by omega, by omega, .inr (by omega)⟩

/-- Within a step, patterns are significands in the unit of the step. The first
pattern of the next step is such a one too. -/
theorem ladder_add {steps significand : Nat} (fits : significand ≤ 2 * format.hiddenBit)
    (full : steps = 0 ∨ format.hiddenBit ≤ significand) :
    format.ladder (steps * format.hiddenBit + significand)
      = significand * 2 ^ (format.minExponent + (steps : ℤ)) := by
  have positive := format.hiddenBit_pos
  unfold ladder
  obtain less | ⟨rest, rfl⟩ :=
    (lt_or_ge significand format.hiddenBit).imp_right Nat.exists_eq_add_of_le
  · obtain rfl := full.resolve_right (by omega)
    rw [Nat.zero_mul, Nat.zero_add, Nat.div_eq_of_lt less, if_pos rfl, Nat.mod_eq_of_lt less]
    simp
  · have whole : steps * format.hiddenBit + (format.hiddenBit + rest)
        = rest + (steps + 1) * format.hiddenBit := by ring
    rw [whole, Nat.add_mul_div_right _ _ positive, Nat.add_mul_mod_self_right]
    obtain less | rfl : rest < format.hiddenBit ∨ rest = format.hiddenBit := by omega
    · rw [Nat.div_eq_of_lt less, Nat.mod_eq_of_lt less, if_neg (by omega)]
      simp
    · rw [Nat.div_self positive, Nat.mod_self, if_neg (by omega)]
      have more : 1 + (steps + 1) - 1 = steps + 1 := by omega
      rw [more, Nat.add_zero, Nat.cast_add, Nat.cast_add, Nat.cast_one, ← add_assoc,
        zpow_add_one₀ two_ne_zero]
      ring

theorem ladder_strictMono : StrictMono format.ladder := by
  refine strictMono_nat_of_lt_succ fun bits => ?_
  obtain ⟨steps, significand, rfl, fits, full⟩ := format.exists_steps bits
  rw [Nat.add_assoc, format.ladder_add (by omega) full, format.ladder_add (by omega) (by omega)]
  have unit : (0 : ℚ) < 2 ^ (format.minExponent + (steps : ℤ)) := by positivity
  exact mul_lt_mul_of_pos_right (by exact_mod_cast Nat.lt_succ_self _) unit

/-! ## The nearest pattern -/

section Nearest

variable {format} {value : ℚ} {steps significand : Nat}

/-- The significand that a number is rounded to fits, like the number. -/
theorem fits_of_isRounded (full : steps = 0 ∨ format.hiddenBit ≤ value)
    (fits : value < 2 * format.hiddenBit) (rounded : IsRounded value significand) :
    significand ≤ 2 * format.hiddenBit ∧ (steps = 0 ∨ format.hiddenBit ≤ significand) := by
  have bounds := abs_le.1 rounded.near
  constructor
  · have : (significand : ℚ) < (2 * format.hiddenBit + 1 : Nat) := by
      push_cast
      linarith
    exact Nat.lt_succ_iff.1 (by exact_mod_cast this)
  · refine full.imp_right fun full => ?_
    have : (format.hiddenBit : ℚ) < (significand + 1 : Nat) := by
      push_cast
      linarith
    exact Nat.lt_succ_iff.1 (by exact_mod_cast this)

/-- A later pattern is further by a whole unit. -/
theorem le_ladder_of_lt (fits : significand ≤ 2 * format.hiddenBit)
    (full : steps = 0 ∨ format.hiddenBit ≤ significand) {other : Nat}
    (later : steps * format.hiddenBit + significand < other) :
    (significand + 1) * 2 ^ (format.minExponent + (steps : ℤ)) ≤ format.ladder other := by
  have positive := format.hiddenBit_pos
  have unit : (0 : ℚ) < 2 ^ (format.minExponent + (steps : ℤ)) := by positivity
  obtain less | rfl := fits.lt_or_eq
  · calc ((significand : ℚ) + 1) * 2 ^ (format.minExponent + (steps : ℤ))
        = format.ladder (steps * format.hiddenBit + (significand + 1)) := by
          rw [format.ladder_add less (by omega)]
          push_cast
          rfl
      _ ≤ format.ladder other := format.ladder_strictMono.monotone later
  · -- the next pattern is of the next step, where the unit is twice as large
    have next : steps * format.hiddenBit + 2 * format.hiddenBit + 1
        = (steps + 1) * format.hiddenBit + (format.hiddenBit + 1) := by ring
    calc (((2 * format.hiddenBit : Nat) : ℚ) + 1) * 2 ^ (format.minExponent + (steps : ℤ))
        ≤ ((format.hiddenBit + 1 : Nat) : ℚ)
            * 2 ^ (format.minExponent + ((steps + 1 : Nat) : ℤ)) := by
          rw [Nat.cast_add steps, Nat.cast_one, ← add_assoc, zpow_add_one₀ two_ne_zero]
          push_cast
          nlinarith
      _ = format.ladder (steps * format.hiddenBit + 2 * format.hiddenBit + 1) := by
          rw [next, format.ladder_add (by omega) (by omega)]
      _ ≤ format.ladder other := format.ladder_strictMono.monotone later

/-- An earlier pattern is further by a whole unit, unless it is of an earlier
step. -/
theorem ladder_le_of_lt (fits : significand ≤ 2 * format.hiddenBit)
    (full : steps = 0 ∨ format.hiddenBit ≤ significand) {other : Nat}
    (earlier : other < steps * format.hiddenBit + significand) :
    format.ladder other ≤ (significand - 1) * 2 ^ (format.minExponent + (steps : ℤ))
      ∨ significand = format.hiddenBit ∧ steps ≠ 0
        ∧ format.ladder other < significand * 2 ^ (format.minExponent + (steps : ℤ)) := by
  by_cases first : steps ≠ 0 ∧ significand = format.hiddenBit
  · refine .inr ⟨first.2, first.1, ?_⟩
    rw [← format.ladder_add fits full]
    exact format.ladder_strictMono earlier
  · refine .inl ?_
    obtain ⟨before, rfl⟩ : ∃ before, significand = before + 1 := by
      refine Nat.exists_eq_succ_of_ne_zero ?_
      rintro rfl
      have := format.hiddenBit_pos
      obtain rfl : steps = 0 := by omega
      omega
    calc format.ladder other
        ≤ format.ladder (steps * format.hiddenBit + before) :=
          format.ladder_strictMono.monotone (by omega)
      _ = ((before + 1 : Nat) - 1 : ℚ) * 2 ^ (format.minExponent + (steps : ℤ)) := by
          rw [format.ladder_add (by omega) (by omega)]
          push_cast
          rw [add_sub_cancel_right]

/-- Rounding the significand gives the nearest pattern. -/
theorem ladder_nearest (full : steps = 0 ∨ format.hiddenBit ≤ value)
    (fits : value < 2 * format.hiddenBit) (rounded : IsRounded value significand) {other : Nat}
    (ne : other ≠ steps * format.hiddenBit + significand) :
    |value * 2 ^ (format.minExponent + (steps : ℤ))
          - format.ladder (steps * format.hiddenBit + significand)|
        ≤ |value * 2 ^ (format.minExponent + (steps : ℤ)) - format.ladder other|
      ∧ (|value * 2 ^ (format.minExponent + (steps : ℤ)) - format.ladder other|
          = |value * 2 ^ (format.minExponent + (steps : ℤ))
            - format.ladder (steps * format.hiddenBit + significand)|
        → significand % 2 = 0) := by
  obtain ⟨fits', full'⟩ := fits_of_isRounded full fits rounded
  rw [format.ladder_add fits' full']
  generalize hunit : (2 : ℚ) ^ (format.minExponent + (steps : ℤ)) = unit at *
  have positive : 0 < unit := hunit ▸ by positivity
  -- everything in the unit of the step
  obtain ⟨place, scaled⟩ : ∃ place, format.ladder other = place * unit :=
    ⟨_, (div_mul_cancel₀ _ positive.ne').symm⟩
  have away : significand + 1 ≤ place ∨ place ≤ significand - 1
      ∨ significand ≤ value ∧ place < significand := by
    obtain earlier | later := ne.lt_or_gt
    · have below := ladder_le_of_lt fits' full' earlier
      rw [hunit, scaled] at below
      refine .inr (below.imp (le_of_mul_le_mul_right · positive) ?_)
      rintro ⟨same, later, less⟩
      exact ⟨same ▸ full.resolve_left later, lt_of_mul_lt_mul_right less positive.le⟩
    · have above := le_ladder_of_lt fits' full' later
      rw [hunit, scaled] at above
      exact .inl (le_of_mul_le_mul_right above positive)
  obtain ⟨nearer, tie⟩ := rounded.nearer away
  rw [scaled, ← sub_mul, ← sub_mul, abs_mul, abs_mul, abs_of_pos positive]
  refine ⟨mul_le_mul_of_nonneg_right nearer positive.le, fun same => rounded.even (tie ?_)⟩
  exact mul_right_cancel₀ positive.ne' same

end Nearest

/-! ## The exponent of a quotient -/

theorem scaled_spec (num : Nat) {den : Nat} (positive : 0 < den) (exponent : ℤ) :
    0 < (scaled num den exponent).2
      ∧ ((scaled num den exponent).1 : ℚ) / (scaled num den exponent).2
        = num / den / 2 ^ exponent := by
  unfold scaled
  split
  · next negative =>
    have same : exponent = -(exponent.natAbs : ℤ) := by omega
    refine ⟨positive, ?_⟩
    rw [Nat.cast_mul, cast_pow2]
    conv_rhs => rw [same]
    rw [zpow_neg, zpow_natCast, div_inv_eq_mul, div_mul_eq_mul_div]
  · next nonneg =>
    have same : exponent = (exponent.natAbs : ℤ) := by omega
    refine ⟨Nat.mul_pos positive (pow2_pos _), ?_⟩
    rw [Nat.cast_mul, cast_pow2]
    conv_rhs => rw [same]
    rw [zpow_natCast, div_div]

/-- The lengths of two numbers tell their quotient up to a factor of two. -/
theorem quotient_bounds {num den : Nat} (nonzero : num ≠ 0) (positive : 0 < den) :
    (2 : ℚ) ^ ((num.log2 : ℤ) - den.log2) < 2 * (num / den)
      ∧ (num : ℚ) / den < 2 * 2 ^ ((num.log2 : ℤ) - den.log2) := by
  have positive' : (0 : ℚ) < den := by exact_mod_cast positive
  have low : (2 : ℚ) ^ num.log2 ≤ num := by exact_mod_cast Nat.log2_self_le nonzero
  have high : (num : ℚ) < 2 * 2 ^ num.log2 := by
    rw [← pow_succ']
    exact_mod_cast Nat.lt_log2_self
  have low' : (2 : ℚ) ^ den.log2 ≤ den := by exact_mod_cast Nat.log2_self_le positive.ne'
  have high' : (den : ℚ) < 2 * 2 ^ den.log2 := by
    rw [← pow_succ']
    exact_mod_cast Nat.lt_log2_self
  rw [zpow_sub₀ two_ne_zero, zpow_natCast, zpow_natCast, ← mul_div_assoc, ← mul_div_assoc,
    div_lt_div_iff₀ (by positivity) positive', div_lt_div_iff₀ positive' (by positivity)]
  constructor
  · calc (2 : ℚ) ^ num.log2 * den < 2 ^ num.log2 * (2 * 2 ^ den.log2) := by gcongr
      _ ≤ num * (2 * 2 ^ den.log2) := by gcongr
      _ = 2 * num * 2 ^ den.log2 := by ring
  · calc (num : ℚ) * 2 ^ den.log2 < 2 * 2 ^ num.log2 * 2 ^ den.log2 := by gcongr
      _ ≤ 2 * 2 ^ num.log2 * den := by gcongr

/-- A quotient has a full significand in the unit of its exponent, or the exponent
is the least one. -/
theorem exponentOf_spec {num den : Nat} (nonzero : num ≠ 0) (positive : 0 < den) :
    ∃ steps : Nat, format.exponentOf num den = format.minExponent + steps
      ∧ (steps = 0 ∨ format.hiddenBit ≤ (num : ℚ) / den / 2 ^ format.exponentOf num den)
      ∧ (num : ℚ) / den / 2 ^ format.exponentOf num den < 2 * format.hiddenBit := by
  obtain ⟨low, high⟩ := quotient_bounds nonzero positive
  generalize hguess : (num.log2 : ℤ) - den.log2 - format.fraction = guess
  -- the bounds in the unit of the guess
  have bits : ((num.log2 : ℤ) - den.log2) = guess + format.fraction := by omega
  have hidden : (format.hiddenBit : ℚ) = 2 ^ format.fraction := cast_pow2 _
  rw [bits, zpow_add₀ two_ne_zero, zpow_natCast, ← hidden] at low high
  -- the exponent at which the significand is full
  obtain ⟨full, isFull, least, most⟩ : ∃ full : ℤ,
      (if format.hiddenBit ≤ (scaled num den guess).1 / (scaled num den guess).2 then guess
        else guess - 1) = full
      ∧ format.hiddenBit ≤ (num : ℚ) / den / 2 ^ full
      ∧ (num : ℚ) / den / 2 ^ full < 2 * format.hiddenBit := by
    obtain ⟨den_pos, same⟩ := scaled_spec num positive guess
    have den_pos' : (0 : ℚ) < (scaled num den guess).2 := by exact_mod_cast den_pos
    have unit : (0 : ℚ) < 2 ^ guess := by positivity
    have reaches : format.hiddenBit ≤ (scaled num den guess).1 / (scaled num den guess).2
        ↔ (format.hiddenBit : ℚ) ≤ num / den / 2 ^ guess := by
      rw [Nat.le_div_iff_mul_le den_pos, ← same, le_div_iff₀ den_pos']
      exact_mod_cast Iff.rfl
    split
    · next reached =>
      refine ⟨guess, rfl, reaches.1 reached, ?_⟩
      rw [div_lt_iff₀ unit]
      linarith
    · next missed =>
      have missed := lt_of_not_ge (mt reaches.2 missed)
      rw [div_lt_iff₀ unit] at missed
      refine ⟨guess - 1, rfl, ?_⟩
      rw [zpow_sub_one₀ two_ne_zero, ← div_eq_mul_inv, div_div_eq_mul_div, le_div_iff₀ unit,
        div_lt_iff₀ unit]
      constructor <;> linarith
  have exponent : format.exponentOf num den = max format.minExponent full := by
    rw [← isFull, ← hguess]
    rfl
  obtain large | small := le_total format.minExponent full
  · rw [exponent, max_eq_right large]
    exact ⟨(full - format.minExponent).toNat, by omega, .inr least, most⟩
  · rw [exponent, max_eq_left small]
    refine ⟨0, by simp, .inl rfl, lt_of_le_of_lt ?_ most⟩
    gcongr
    exact one_le_two

/-! ## Quotients -/

/-- A pattern that is nearest among all is so up to infinity, and beyond infinity
it gives way to infinity. -/
theorem isNearest_min (hasExponent : 0 < format.exponent) {value : ℚ} {bits : Nat}
    (nearest : ∀ other, other ≠ bits →
      |value - format.ladder bits| ≤ |value - format.ladder other|
        ∧ (|value - format.ladder other| = |value - format.ladder bits| → bits % 2 = 0)) :
    format.IsNearest value (min format.infinity bits) := by
  obtain within | beyond := le_or_gt bits format.infinity
  · rw [min_eq_right within]
    refine ⟨within, fun other le => ?_, fun other le ne => ?_⟩
    · rw [format.magnitude_eq_ladder hasExponent within, format.magnitude_eq_ladder hasExponent le]
      obtain rfl | ne := eq_or_ne other bits
      · exact le_rfl
      · exact (nearest other ne).1
    · rw [format.magnitude_eq_ladder hasExponent within, format.magnitude_eq_ladder hasExponent le]
      exact (nearest other ne).2
  · rw [min_eq_left beyond.le]
    -- the number is beyond infinity, as it is nearer to what is beyond
    have above : format.ladder format.infinity < value := by
      by_contra below
      have ascends := format.ladder_strictMono beyond
      have nearer := (nearest _ beyond.ne).1
      rw [abs_sub_comm, abs_of_nonneg (by linarith), abs_sub_comm, abs_of_nonneg (by linarith)]
        at nearer
      linarith
    have further {other : Nat} (less : other < format.infinity) :
        |value - format.ladder format.infinity| < |value - format.ladder other| := by
      have ascends := format.ladder_strictMono less
      rw [abs_of_nonneg (by linarith), abs_of_nonneg (by linarith)]
      linarith
    refine ⟨le_rfl, fun other le => ?_, fun other le ne tie => ?_⟩
    · rw [format.magnitude_eq_ladder hasExponent le_rfl, format.magnitude_eq_ladder hasExponent le]
      obtain less | rfl := le.lt_or_eq
      · exact (further less).le
      · exact le_rfl
    · rw [format.magnitude_eq_ladder hasExponent le_rfl,
        format.magnitude_eq_ladder hasExponent le] at tie
      exact absurd tie (further (le.lt_of_ne ne)).ne'

/-- A quotient is rounded to the nearest number of the format, a tie to the even
one. -/
theorem isNearest_ofRatio (hasExponent : 0 < format.exponent) (hasFraction : 0 < format.fraction)
    (num : Nat) {den : Nat} (positive : 0 < den) :
    format.IsNearest (num / den) (format.ofRatio num den) := by
  unfold ofRatio
  split
  · next zero =>
    have least : format.ladder 0 = 0 := by simp [ladder]
    rw [zero, Nat.cast_zero, zero_div, ← Nat.min_zero format.infinity]
    exact format.isNearest_min hasExponent fun other _ => ⟨by simp [least], fun _ => rfl⟩
  · next nonzero =>
    obtain ⟨steps, exponent, full, fits⟩ := format.exponentOf_spec nonzero positive
    obtain ⟨den_pos, same⟩ := scaled_spec num positive (format.exponentOf num den)
    have rounded := isRounded_roundDiv (scaled num den (format.exponentOf num den)).1 den_pos
    rw [same] at rounded
    have count : (format.exponentOf num den - format.minExponent).toNat = steps := by omega
    have even : format.hiddenBit % 2 = 0 := by
      obtain ⟨more, isMore⟩ := Nat.exists_eq_succ_of_ne_zero hasFraction.ne'
      rw [hiddenBit, pow2, isMore, Nat.pow_eq, Nat.pow_succ, Nat.mul_mod_left]
    have value : (num : ℚ) / den = num / den / 2 ^ format.exponentOf num den
        * 2 ^ (format.minExponent + (steps : ℤ)) := by
      rw [← exponent, div_mul_cancel₀ _ (by positivity)]
    dsimp only
    rw [count]
    refine format.isNearest_min hasExponent fun other ne => ?_
    obtain ⟨nearer, tie⟩ := ladder_nearest full fits rounded ne
    rw [← value] at nearer tie
    refine ⟨nearer, fun same => ?_⟩
    rw [Nat.add_mod, Nat.mul_mod, even, tie same, Nat.mul_zero]

example : double.ofRatio 1 10 = 0x3FB999999999999A := by decide +kernel

variable {format} in
/-- At most one pattern is nearest: between two even ones there is another. -/
theorem IsNearest.unique (hasExponent : 0 < format.exponent) {value : ℚ} {bits bits' : Nat}
    (nearest : format.IsNearest value bits) (nearest' : format.IsNearest value bits') :
    bits = bits' := by
  wlog le : bits ≤ bits' generalizing bits bits'
  · exact (this nearest' nearest (Nat.le_of_not_ge le)).symm
  by_contra ne
  have tie := le_antisymm (nearest'.nearest _ nearest.le_infinity)
    (nearest.nearest _ nearest'.le_infinity)
  have even := nearest.even _ nearest'.le_infinity (Ne.symm ne) tie
  have even' := nearest'.even _ nearest.le_infinity ne tie.symm
  have between : bits + 1 < bits' := by omega
  have within := between.le.trans nearest'.le_infinity
  have closer := nearest.nearest _ within
  rw [format.magnitude_eq_ladder hasExponent within] at closer
  rw [format.magnitude_eq_ladder hasExponent nearest.le_infinity] at closer tie
  rw [format.magnitude_eq_ladder hasExponent nearest'.le_infinity] at tie
  have low := format.ladder_strictMono (Nat.lt_succ_self bits)
  have high := format.ladder_strictMono between
  -- the number is in the middle of the two, so what is between them is nearer
  have middle : 2 * value = format.ladder bits + format.ladder bits' := by
    obtain same | opposite := abs_eq_abs.1 tie
    · linarith
    · linarith
  obtain above | below := abs_cases (value - format.ladder (bits + 1)) <;>
    rw [abs_of_nonneg (a := value - format.ladder bits) (by linarith)] at closer <;>
    linarith

end BinaryFormat
end ClassModel.Number
