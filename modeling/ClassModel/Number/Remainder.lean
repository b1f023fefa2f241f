import ClassModel.Number.Binary

/-!
# ClassModel.Number.Remainder

The exact remainder of floating-point division truncated toward zero. The
remainder of two numbers of a format is a number of that format, so nothing
is rounded; it has the sign of the dividend.
-/

namespace ClassModel.Number.BinaryFormat

/-- The magnitude of the remainder of `m · 2 ^ e` by `m' · 2 ^ e'`, as a bit
pattern. -/
def remainderBits (format : BinaryFormat) (m : Nat) (e : Int) (m' : Nat) (e' : Int) : Nat :=
  let least := min e e'
  let rest := (m * pow2 (e - least).toNat) % (m' * pow2 (e' - least).toNat)
  let (num, den) := scaled rest 1 (-least)
  format.ofRatio num den

/-- The remainder of two bit patterns. There is none of an infinite dividend
or by zero; a finite dividend is its own remainder by infinity. -/
def remainder (format : BinaryFormat) (lhs rhs : Nat) : Nat :=
  match format.decode lhs, format.decode rhs with
  | .finite negative m e, .finite _ m' e' =>
    if m' = 0 then format.quietNan
    else
      (if negative then format.signBit else 0) + format.remainderBits m e m' e'
  | .finite .., .infinite _ => lhs
  | _, _ => format.quietNan

end ClassModel.Number.BinaryFormat
