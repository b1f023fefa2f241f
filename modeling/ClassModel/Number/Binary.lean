/-!
# ClassModel.Number.Binary

Binary floating-point formats as data: a sign, a biased exponent and a stored
fraction. `decode` reads the exact number behind a bit pattern and
`ofRatio` rounds an exact quotient to the nearest number of the format, a tie
going to the even significand.

Both work on natural numbers alone, so every step is exact.
-/

namespace ClassModel.Number

/-- A power of two. -/
def pow2 (n : Nat) : Nat := Nat.pow 2 n

/-- The widths of the fields of a floating-point format. -/
structure BinaryFormat where
  /-- The width of the stored fraction. -/
  fraction : Nat
  /-- The width of the biased exponent. -/
  exponent : Nat

namespace BinaryFormat

/-- The format of 32 bits. -/
def single : BinaryFormat := ⟨23, 8⟩

/-- The format of 64 bits. -/
def double : BinaryFormat := ⟨52, 11⟩

/-- The leading bit of a significand, which is not stored unless it is zero:
one more than the largest stored fraction. -/
def hiddenBit (format : BinaryFormat) : Nat := pow2 format.fraction

/-- The largest biased exponent, which marks what is no finite number. -/
def maxField (format : BinaryFormat) : Nat := pow2 format.exponent - 1

/-- The exponent of two that one unit of the least subnormal number stands
for. -/
def minExponent (format : BinaryFormat) : Int :=
  2 - (pow2 (format.exponent - 1) : Int) - format.fraction

/-- The bit pattern of positive infinity. -/
def infinity (format : BinaryFormat) : Nat := format.maxField * format.hiddenBit

/-- The bit that holds the sign. -/
def signBit (format : BinaryFormat) : Nat := pow2 (format.exponent + format.fraction)

/-- The bit pattern of the quiet number that is none. -/
def quietNan (format : BinaryFormat) : Nat :=
  format.infinity + pow2 (format.fraction - 1)

end BinaryFormat

/-- What a bit pattern stands for. -/
inductive Decoded where
  | nan
  | infinite (negative : Bool)
  /-- The number `± significand · 2 ^ exponent`. -/
  | finite (negative : Bool) (significand : Nat) (exponent : Int)
  deriving DecidableEq, Repr

namespace BinaryFormat

/-- The exact meaning of a bit pattern. -/
def decode (format : BinaryFormat) (bits : Nat) : Decoded :=
  let negative := bits / format.signBit % 2 = 1
  let field := bits / format.hiddenBit % (format.maxField + 1)
  let fraction := bits % format.hiddenBit
  if field = format.maxField then
    if fraction = 0 then .infinite negative else .nan
  else if field = 0 then
    .finite negative fraction format.minExponent
  else
    .finite negative (format.hiddenBit + fraction) (format.minExponent + (field - 1 : Nat))

/-- The quotient of two naturals, rounded to the nearest natural; a tie goes
to the even one. -/
def roundDiv (num den : Nat) : Nat :=
  let floor := num / den
  let twice := 2 * (num % den)
  if twice < den || (twice = den && floor % 2 = 0) then floor else floor + 1

/-- The numerator and the denominator of `num / (den · 2 ^ exponent)`. -/
def scaled (num den : Nat) (exponent : Int) : Nat × Nat :=
  if exponent < 0 then (num * pow2 exponent.natAbs, den) else (num, den * pow2 exponent.natAbs)

/-- The exponent at which `num / den` has a full significand, or the least
exponent of the format where there is none. -/
def exponentOf (format : BinaryFormat) (num den : Nat) : Int :=
  let guess : Int := (num.log2 : Int) - den.log2 - format.fraction
  let (n, d) := scaled num den guess
  max format.minExponent (if format.hiddenBit ≤ n / d then guess else guess - 1)

/-- The bit pattern of the number nearest to `num / den`, infinity where the
format ends. A significand that rounds up to the next power of two carries
into the exponent field by itself. -/
def ofRatio (format : BinaryFormat) (num den : Nat) : Nat :=
  if num = 0 then 0
  else
    let exponent := format.exponentOf num den
    let (n, d) := scaled num den exponent
    let steps := (exponent - format.minExponent).toNat
    min format.infinity (steps * format.hiddenBit + roundDiv n d)

end BinaryFormat

end ClassModel.Number
