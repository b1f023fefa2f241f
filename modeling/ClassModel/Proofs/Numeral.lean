import ClassModel.Proofs.Printed
import ClassModel.Proofs.Rounding
import Mathlib.Tactic.IntervalCases

/-!
# ClassModel.Proofs.Numeral

Numeric literals. A numeral is written as a whole part, in which underscores may
stand behind the first digit, a fraction or none, and a suffix or none. Whatever
is written so is one token (`readsNumerals`). An integral one has the value of
its digits, as far as it fits into 63 bits; a floating one has the number of the
format of 64 bits that is nearest to the value of its digits.
-/

namespace ClassModel

/-! ## Numerals as they are written -/

/-- The whole part of a numeral: a digit, and then digits and underscores. -/
structure WholeText where
  first : Char
  more : List Char
  isDigit : first.isDigit = true
  continues : ∀ c ∈ more, c.isDigit = true ∨ c = '_'

namespace WholeText

variable (whole : WholeText)

def text : List Char := whole.first :: whole.more

/-- The digits without the underscores between them. -/
def digits : List Char := whole.text.filter (· != '_')

def value : Nat := Nat.ofDigitChars 10 whole.digits 0

end WholeText

/-- The fraction of a numeral: a point and at least one digit. -/
structure FractionText where
  digits : List Char
  nonempty : digits ≠ []
  areDigits : ∀ c ∈ digits, c.isDigit = true

namespace FractionText

variable (fraction : FractionText)

def text : List Char := '.' :: fraction.digits

def value : ℚ := Nat.ofDigitChars 10 fraction.digits 0 / 10 ^ fraction.digits.length

end FractionText

/-- The suffix of an integral numeral. -/
abbrev LongSuffix : Type := {c : Char // c ∈ ['l', 'L']}

/-- The suffix of a floating numeral. -/
abbrev FloatingSuffix : Type := {c : Char // c ∈ ['f', 'F', 'd', 'D']}

/-- The text of a suffix, if there is one. -/
def suffixText {letters : List Char} (suffix? : Option {c : Char // c ∈ letters}) : List Char :=
  suffix?.toList.map (·.val)

/-- The bits are those of the number of 64 bits that is nearest to the value. -/
def IsNearestDouble (value : ℚ) (bits : UInt64) : Prop :=
  ∀ other, Number.BinaryFormat.double.IsNearest value other ↔ other = bits.toNat

/-! ## Reading digits -/

theorem mem_digits_of_isDigit {c : Char} (digit : c.isDigit = true) :
    c ∈ ['0', '1', '2', '3', '4', '5', '6', '7', '8', '9'] := by
  have bounds : 48 ≤ c.toNat ∧ c.toNat ≤ 57 := by
    simpa [Char.isDigit, UInt32.le_iff_toNat_le] using digit
  rw [← Char.ofNat_toNat c]
  obtain ⟨low, high⟩ := bounds
  interval_cases c.toNat <;> decide

/-- A digit starts a number and nothing else. -/
theorem Lexeme.next_digit {c : Char} (digit : c.isDigit = true) (cs : List Char) :
    next c cs = Numeral.read c cs := by
  have mem := mem_digits_of_isDigit digit
  simp only [List.mem_cons, List.not_mem_nil, or_false] at mem
  rcases mem with rfl | rfl | rfl | rfl | rfl | rfl | rfl | rfl | rfl | rfl <;> rfl

namespace Numeral

variable (whole : WholeText)

theorem continuesWhole_of_mem {c : Char} (mem : c ∈ whole.more) : continuesWhole c = true := by
  simpa [continuesWhole] using whole.continues c mem

/-- A suffix continues no digits. -/
theorem endsDigits_suffixText {letters : List Char} (suffix? : Option {c : Char // c ∈ letters})
    (within : letters ⊆ ['f', 'F', 'd', 'D'] ++ ['l', 'L']) : EndsDigits (suffixText suffix?) := by
  cases suffix? with
  | none => exact fun _ mem => absurd mem (Option.not_mem_none _)
  | some suffix => exact endsDigits_suffix (within suffix.property)

/-- A numeral without a fraction is read up to its end. -/
theorem read_whole {suffix : List Char} (ends : EndsDigits suffix) :
    read whole.first (whole.more ++ suffix) = finish whole.text [] suffix := by
  rw [← List.nil_append suffix]
  exact read_eq_finish (fun _ mem => continuesWhole_of_mem whole mem) (fun c mem => (ends c mem).1)
    (fraction_of_ends ends)

/-- So is one with a fraction. -/
theorem read_fraction (fraction : FractionText) {suffix : List Char} (ends : EndsDigits suffix) :
    read whole.first (whole.more ++ (fraction.text ++ suffix))
      = finish whole.text fraction.text suffix := by
  refine read_eq_finish (fun _ mem => continuesWhole_of_mem whole mem) (by rintro _ ⟨⟩; decide) ?_
  obtain ⟨first, more, digits⟩ := List.exists_cons_of_ne_nil fraction.nonempty
  have areDigits := digits ▸ fraction.areDigits
  rw [List.forall_mem_cons] at areDigits
  rw [FractionText.text, digits, List.cons_append, List.cons_append, Numeral.fraction,
    if_pos areDigits.1, takeWhile_append_of_ends areDigits.2 fun c mem => (ends c mem).2.1]

/-! ## Values -/

/-- Digits in front of others count for as many powers of ten. -/
theorem value_append (whole digits : List Char) :
    (natOfDigits (whole ++ digits) : ℚ) / (Nat.pow 10 digits.length : Nat)
      = Nat.ofDigitChars 10 whole 0 + Nat.ofDigitChars 10 digits 0 / 10 ^ digits.length := by
  have joined : natOfDigits (whole ++ digits)
      = 10 ^ digits.length * Nat.ofDigitChars 10 whole 0 + Nat.ofDigitChars 10 digits 0 := by
    rw [← Nat.ofDigitChars_eq_ofDigitChars_zero, ← Nat.ofDigitChars_append]
    rfl
  have power : (10 : ℚ) ^ digits.length ≠ 0 := by positivity
  rw [joined, Nat.pow_eq]
  push_cast
  rw [add_div, mul_div_cancel_left₀ _ power]

/-- A floating numeral is the number nearest to the value of its digits. -/
theorem exists_bits (whole fraction : List Char) : ∃ bits,
    toFloat whole fraction = Float.ofBits bits
      ∧ IsNearestDouble (Nat.ofDigitChars 10 whole 0
        + Nat.ofDigitChars 10 (fraction.drop 1) 0 / 10 ^ (fraction.drop 1).length) bits := by
  have positive : 0 < Nat.pow 10 (fraction.drop 1).length := Nat.pow_pos (by decide)
  have nearest := Number.BinaryFormat.double.isNearest_ofRatio (by decide) (by decide)
    (natOfDigits (whole ++ fraction.drop 1)) positive
  have fits := nearest.le_infinity.trans_lt (show _ < 2 ^ 64 by decide)
  rw [← value_append]
  refine ⟨_, rfl, fun other => ?_⟩
  rw [Nat.toUInt64, UInt64.toNat_ofNat_of_lt' fits]
  exact ⟨fun nearest' => nearest'.unique (by decide) nearest, fun same => same ▸ nearest⟩

/-! ## Suffixes -/

theorem finish_long (suffix? : Option LongSuffix) : ∃ text,
    finish whole.text [] (suffixText suffix?)
      = (⟨text, .integer (min (2 ^ 63 - 1) whole.value), []⟩, []) := by
  match suffix? with
  | none => exact ⟨_, rfl⟩
  | some ⟨c, letter⟩ =>
    simp only [List.mem_cons, List.not_mem_nil, or_false] at letter
    obtain rfl | rfl := letter
    · exact ⟨_, rfl⟩
    · exact ⟨_, rfl⟩

theorem finish_floating (fraction : List Char) (suffix : FloatingSuffix) : ∃ text,
    finish whole.text fraction [suffix.val]
      = (⟨text, .floating (toFloat whole.digits fraction), []⟩, []) := by
  have letter := List.contains_iff_mem.2 suffix.property
  simp only [finish, if_pos letter]
  exact ⟨_, rfl⟩

theorem finish_fraction (fraction : FractionText) (suffix? : Option FloatingSuffix) : ∃ text,
    finish whole.text fraction.text (suffixText suffix?)
      = (⟨text, .floating (toFloat whole.digits fraction.text), []⟩, []) := by
  cases suffix? with
  | none => exact ⟨_, rfl⟩
  | some suffix => exact finish_floating whole fraction.text suffix

end Numeral

/-! ## Sources of one numeral -/

/-- A source that is a number up to its end has one token. -/
theorem tokenize_number {whole : WholeText} {rest : List Char} {text : List Char} {token : Token}
    (read : Numeral.read whole.first (whole.more ++ rest) = (⟨text, token, []⟩, [])) :
    tokenize (String.ofList (whole.text ++ rest)) = ⟨[token, .endOfInput], []⟩ :=
  tokenize_of_next ((Lexeme.next_digit whole.isDigit _).trans read)

/-- The decimal text of a number is its whole part. -/
theorem exists_text_eq (n : Nat) :
    ∃ whole : WholeText, toString n = String.ofList whole.text ∧ whole.value = n := by
  have areDigits {c : Char} (mem : c ∈ Nat.toDigits 10 n) : c.isDigit = true :=
    Nat.isDigit_of_mem_toDigits (by decide) (by decide) mem
  obtain ⟨first, more, digits⟩ : ∃ first more, Nat.toDigits 10 n = first :: more :=
    List.exists_cons_of_ne_nil Nat.toDigits_ne_nil
  let whole : WholeText :=
    { first, more
      isDigit := areDigits (digits ▸ List.mem_cons_self)
      continues := fun c mem => .inl (areDigits (digits ▸ List.mem_cons_of_mem _ mem)) }
  have text : whole.text = Nat.toDigits 10 n := digits.symm
  refine ⟨whole, by rw [text, Nat.toString_eq_ofList_toDigits], ?_⟩
  have plain : whole.digits = Nat.toDigits 10 n := by
    rw [WholeText.digits, text, List.filter_eq_self]
    intro c mem
    exact bne_iff_ne.2 fun same => Nat.underscore_not_in_toDigits (same ▸ mem)
  rw [WholeText.value, plain, Nat.ofDigitChars_toDigits (by decide) (by decide)]

/-- Numerals are read with their value. Digits and underscores behind a digit, with the
suffix of an integral number or none, are an integer with the value of the digits,
or with the largest value if that is less. With the suffix of a floating number, or
with a point and digits, they are the number of 64 bits that is nearest to the
value of the digits. Each is one token without errors. So every number is read back
from its decimal text. -/
theorem readsNumerals :
    (∀ (whole : WholeText) (suffix? : Option LongSuffix),
      tokenize (String.ofList (whole.text ++ suffixText suffix?))
        = ⟨[.integer (min (2 ^ 63 - 1) whole.value), .endOfInput], []⟩)
    ∧ (∀ (whole : WholeText) (suffix : FloatingSuffix), ∃ bits, IsNearestDouble whole.value bits
      ∧ tokenize (String.ofList (whole.text ++ [suffix.val]))
        = ⟨[.floating (Float.ofBits bits), .endOfInput], []⟩)
    ∧ (∀ (whole : WholeText) (fraction : FractionText) (suffix? : Option FloatingSuffix),
      ∃ bits, IsNearestDouble (whole.value + fraction.value) bits
        ∧ tokenize (String.ofList (whole.text ++ (fraction.text ++ suffixText suffix?)))
          = ⟨[.floating (Float.ofBits bits), .endOfInput], []⟩)
    ∧ ∀ n : Nat, tokenize (toString n) = ⟨[.integer (min (2 ^ 63 - 1) n), .endOfInput], []⟩ := by
  have integral (whole : WholeText) (suffix? : Option LongSuffix) :
      tokenize (String.ofList (whole.text ++ suffixText suffix?))
        = ⟨[.integer (min (2 ^ 63 - 1) whole.value), .endOfInput], []⟩ := by
    obtain ⟨text, ends⟩ := Numeral.finish_long whole suffix?
    refine tokenize_number ((Numeral.read_whole whole ?_).trans ends)
    exact Numeral.endsDigits_suffixText suffix? (List.subset_append_right _ _)
  refine ⟨integral, fun whole suffix => ?_, fun whole fraction suffix? => ?_, fun n => ?_⟩
  · obtain ⟨text, ends⟩ := Numeral.finish_floating whole [] suffix
    obtain ⟨bits, same, nearest⟩ := Numeral.exists_bits whole.digits []
    refine ⟨bits, ?_, ?_⟩
    · simpa [WholeText.value] using nearest
    · rw [← same]
      refine tokenize_number ((Numeral.read_whole whole ?_).trans ends)
      exact Numeral.endsDigits_suffixText (some suffix) (List.subset_append_left _ _)
  · obtain ⟨text, ends⟩ := Numeral.finish_fraction whole fraction suffix?
    obtain ⟨bits, same, nearest⟩ := Numeral.exists_bits whole.digits fraction.text
    refine ⟨bits, nearest, ?_⟩
    rw [← same]
    refine tokenize_number ((Numeral.read_fraction whole fraction ?_).trans ends)
    exact Numeral.endsDigits_suffixText suffix? (List.subset_append_left _ _)
  · obtain ⟨whole, text, value⟩ := exists_text_eq n
    have read := integral whole none
    rwa [suffixText, Option.toList_none, List.map_nil, List.append_nil, ← text, value] at read

example : tokenize "1_000_L" = ⟨[.integer 1000, .endOfInput], []⟩ := rfl

end ClassModel
