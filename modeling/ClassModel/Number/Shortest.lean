import ClassModel.Number.Binary

/-!
# ClassModel.Number.Shortest

The shortest decimal that reads back as a given number of a binary format.

A positive number `m · 2 ^ e` is the nearest number of its format for an
interval of reals around it; the ends belong to the interval exactly if `m`
is even. For one digit, two digits and so on, the two neighbours of the number
on the decimal grid of that many digits are tested against the interval. The
first grid with a hit wins; of two hits the nearer is taken, and the upper one
on a tie.
-/

namespace ClassModel.Number

/-- The decimal `0.d₁d₂… · 10 ^ point`, without leading or trailing zeros. -/
structure Decimal where
  digits : List Char
  point : Int
  deriving DecidableEq, Repr

/-- The reals that round to a number, all over one denominator. -/
structure Interval where
  low : Nat
  value : Nat
  high : Nat
  den : Nat
  /-- Whether the two ends belong to the interval. -/
  closed : Bool

/-- The interval of the reals that round to `m · 2 ^ e`. Below a power of two
the numbers lie twice as dense, so the lower half is half as wide there. -/
def Interval.around (format : BinaryFormat) (m : Nat) (e : Int) : Interval :=
  let dense := m = format.hiddenBit && format.minExponent < e
  let unit := pow2 (e - 2).toNat
  { low := (4 * m - if dense then 1 else 2) * unit
    value := 4 * m * unit
    high := (4 * m + 2) * unit
    den := pow2 (2 - e).toNat
    closed := m % 2 = 0 }

namespace Interval

/-- The number of digits before the decimal point; for a number below one, the
number of zeros after it, negated. -/
def pointOf (interval : Interval) : Int :=
  let digitCount (n : Nat) : Int := (Nat.toDigits 10 n).length
  if interval.den ≤ interval.value then digitCount (interval.value / interval.den)
  else
    1 - digitCount ((interval.den + interval.value - 1) / interval.value - 1)

/-- Whether `candidate · num / den` lies in the interval. -/
def holds (interval : Interval) (candidate num den : Nat) : Bool :=
  let middle := candidate * num * interval.den
  if interval.closed then interval.low * den ≤ middle && middle ≤ interval.high * den
  else interval.low * den < middle && middle < interval.high * den

/-- The neighbour of the number on the grid of `num / den` that lies in the
interval; the nearer one if both do. -/
def onGrid? (interval : Interval) (num den : Nat) : Option Nat :=
  let above := interval.value * den
  let step := num * interval.den
  let floor := above / step
  match interval.holds floor num den, interval.holds (floor + 1) num den with
  | true, true => some (if 2 * (above % step) < step then floor else floor + 1)
  | true, false => some floor
  | false, true => some (floor + 1)
  | false, false => none

/-- The decimal of the given number of digits, if one lies in the interval. -/
def withDigits? (interval : Interval) (point : Int) (count : Nat) : Option Decimal :=
  let exponent := point - count
  let power := Nat.pow 10 exponent.natAbs
  let found := if exponent < 0 then interval.onGrid? 1 power else interval.onGrid? power 1
  found.map fun n =>
    let digits := Nat.toDigits 10 n
    { digits := (digits.reverse.dropWhile (· == '0')).reverse
      point := digits.length + exponent }

end Interval

/-- The shortest decimal that rounds to `m · 2 ^ e`, for a positive `m`.
Seventeen digits always suffice for the formats of up to 64 bits. -/
def shortest (format : BinaryFormat) (m : Nat) (e : Int) : Decimal :=
  let interval := Interval.around format m e
  let point := interval.pointOf
  let found := (List.range 17).findSome? fun count => interval.withDigits? point (count + 1)
  found.getD ⟨['0'], 1⟩

end ClassModel.Number
