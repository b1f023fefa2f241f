import ClassModel.Number.Shortest

/-!
# ClassModel.Number.Style

How a floating-point number is written. Every style writes the shortest digits
that read back; a `Style` decides where an exponent is used and how a whole
number ends.
-/

namespace ClassModel.Number

/-- The decisions of a way to write numbers. -/
structure Style where
  /-- Whether magnitudes from 10¹⁶ on and below 10⁻⁴ are written with an
  exponent. -/
  exponents : Bool
  /-- What follows the digits of a whole number. -/
  wholeTail : String

namespace Style

/-- Numbers as values show them: always with a point or an exponent. -/
def value : Style := ⟨true, ".0"⟩

/-- Numbers as they stand in a signature: plain digits. -/
def plain : Style := ⟨false, ""⟩

/-- The given number of zeros. -/
def zeros (count : Int) : String := String.ofList (List.replicate count.toNat '0')

/-- Digits around a decimal point. -/
def positional (style : Style) (decimal : Decimal) : String :=
  let digits := String.ofList decimal.digits
  if decimal.point ≤ 0 then "0." ++ zeros (-decimal.point) ++ digits
  else if decimal.digits.length ≤ decimal.point then
    digits ++ zeros (decimal.point - decimal.digits.length) ++ style.wholeTail
  else
    String.ofList (decimal.digits.take decimal.point.toNat) ++ "."
      ++ String.ofList (decimal.digits.drop decimal.point.toNat)

/-- One digit before the point, and the power of ten after an `e`. -/
def scientific (decimal : Decimal) : String :=
  let fraction := decimal.digits.drop 1
  String.ofList (decimal.digits.take 1)
    ++ (if fraction.isEmpty then "" else "." ++ String.ofList fraction)
    ++ "e" ++ toString (decimal.point - 1)

/-- The text of a decimal. -/
def decimal (style : Style) (decimal : Decimal) : String :=
  if style.exponents && (decimal.point < -3 || 16 < decimal.point) then scientific decimal
  else style.positional decimal

/-- The text of the number behind a bit pattern. -/
def render (style : Style) (format : BinaryFormat) (bits : Nat) : String :=
  let sign (negative : Bool) := if negative then "-" else ""
  match format.decode bits with
  | .nan => "NaN"
  | .infinite negative => sign negative ++ "inf"
  | .finite negative 0 _ => sign negative ++ "0" ++ style.wholeTail
  | .finite negative m e => sign negative ++ style.decimal (shortest format m e)

end Style

end ClassModel.Number
