import ClassModel.Number.Binary
import ClassModel.Toml.Value

/-!
# ClassModel.Toml.Scalar

The values that are written without quotes or brackets: truth values, numbers,
dates and times. Such a value is a word, and its form decides what it is.
-/

namespace ClassModel.Toml

/-! ## Numbers -/

/-- The digits of a number without the underscores between them. Each
underscore has to stand between two digits. -/
def digitsBetween? (isDigit : Char → Bool) : List Char → Option (List Char)
  | [] => none
  | [c] => if isDigit c then some [c] else none
  | c :: '_' :: rest => if isDigit c then (digitsBetween? isDigit rest).map (c :: ·) else none
  | c :: rest => if isDigit c then (digitsBetween? isDigit rest).map (c :: ·) else none

/-- The value of digits in a base up to sixteen. -/
def natOf (base : Nat) (digits : List Char) : Nat :=
  digits.foldl (fun value c =>
    let digit := if c.isDigit then c.toNat - '0'.toNat else c.toLower.toNat - 'a'.toNat + 10
    base * value + digit) 0

/-- The sign in front of a number, and the rest. -/
def signed : List Char → Bool × List Char
  | '-' :: rest => (true, rest)
  | '+' :: rest => (false, rest)
  | cs => (false, cs)

/-- The whole part of a decimal number: no zero stands in front of another
digit. -/
def whole? (cs : List Char) : Option Nat := do
  let digits ← digitsBetween? Char.isDigit cs
  if digits.length > 1 && digits.head? == some '0' then none
  return natOf 10 digits

/-- A number that fits into 64 bits with a sign. -/
def fitting? (value : Int) : Option Toml :=
  if -0x8000000000000000 ≤ value && value ≤ 0x7FFFFFFFFFFFFFFF then some (.integer value) else none

/-- Whether the character is a digit of the given base. -/
def isDigitOf (base : Nat) (c : Char) : Bool :=
  match base with
  | 2 => c == '0' || c == '1'
  | 8 => '0' ≤ c && c ≤ '7'
  | _ => c.isDigit || ('a' ≤ c.toLower && c.toLower ≤ 'f')

/-- A whole number. -/
def integer? (cs : List Char) : Option Toml :=
  let based (base : Nat) (rest : List Char) : Option Toml := do
    fitting? (natOf base (← digitsBetween? (isDigitOf base) rest))
  match cs with
  | '0' :: 'x' :: rest => based 16 rest
  | '0' :: 'o' :: rest => based 8 rest
  | '0' :: 'b' :: rest => based 2 rest
  | cs => do
    let (isNegative, rest) := signed cs
    let value ← whole? rest
    fitting? (if isNegative then -value else value)

/-- Whether the character may stand in front of an exponent. -/
def isExponentMark (c : Char) : Bool := c == 'e' || c == 'E'

/-- The exponent of a floating-point number, after its mark. -/
def exponent? (cs : List Char) : Option Int := do
  let (isNegative, rest) := signed cs
  let value := natOf 10 (← digitsBetween? Char.isDigit rest)
  return if isNegative then -(value : Int) else value

/-- What may follow the whole part of a floating-point number, as the digits of
its fraction and its exponent: one of the two is there. -/
def floatTail? : List Char → Option (List Char × Int)
  | '.' :: rest => do
    let fraction ← digitsBetween? Char.isDigit (rest.takeWhile (!isExponentMark ·))
    match rest.dropWhile (!isExponentMark ·) with
    | [] => return (fraction, 0)
    | _ :: rest => return (fraction, ← exponent? rest)
  | c :: rest => if isExponentMark c then (exponent? rest).map (([], ·)) else none
  | [] => none

/-- Whether `digits · 10 ^ exponent` is beyond the range of 64 bits. Only at the
order of magnitude of the largest number do the digits decide. -/
def isBeyondRange (digits : List Char) (exponent : Int) : Bool :=
  let digits := digits.dropWhile (· == '0')
  let magnitude := digits.length + exponent
  if digits.isEmpty || magnitude < 309 then false
  else if 309 < magnitude then true
  else
    let double := Number.BinaryFormat.double
    double.infinity ≤ double.ofRatio (natOf 10 digits * Nat.pow 10 exponent.toNat)
      (Nat.pow 10 (-exponent).toNat)

/-- A floating-point number. One that is too large is refused, unless it is
negative. -/
def float? (cs : List Char) : Option Toml :=
  let (isNegative, rest) := signed cs
  if rest == ['i', 'n', 'f'] || rest == ['n', 'a', 'n'] then some .float
  else do
    let isWhole (c : Char) := c.isDigit || c == '_'
    let whole := rest.takeWhile isWhole
    let _ ← whole? whole
    let (fraction, exponent) ← floatTail? (rest.dropWhile isWhole)
    let digits := whole.filter (· != '_') ++ fraction
    if !isNegative && isBeyondRange digits (exponent - fraction.length) then none
    else some .float

/-! ## Dates and times -/

/-- Reads a number of exactly the given count of digits. -/
def fixed? (count : Nat) (cs : List Char) : Option (Nat × List Char) :=
  let digits := cs.take count
  if digits.length = count && digits.all Char.isDigit then some (natOf 10 digits, cs.drop count)
  else none

/-- Reads the given character. -/
def char? (c : Char) : List Char → Option (List Char)
  | found :: rest => if found == c then some rest else none
  | [] => none

/-- The number of days of a month. -/
def daysOf (year month : Nat) : Nat :=
  if month = 2 then
    if year % 4 = 0 && (year % 100 != 0 || year % 400 = 0) then 29 else 28
  else if [4, 6, 9, 11].contains month then 30
  else 31

/-- Reads a date. -/
def date? (cs : List Char) : Option (List Char) := do
  let (year, cs) ← fixed? 4 cs
  let (month, cs) ← fixed? 2 (← char? '-' cs)
  let (day, cs) ← fixed? 2 (← char? '-' cs)
  if 1 ≤ month && month ≤ 12 && 1 ≤ day && day ≤ daysOf year month then return cs else none

/-- Reads a time of day. -/
def time? (cs : List Char) : Option (List Char) := do
  let (hour, cs) ← fixed? 2 cs
  let (minute, cs) ← fixed? 2 (← char? ':' cs)
  let (second, cs) ← fixed? 2 (← char? ':' cs)
  if hour ≤ 23 && minute ≤ 59 && second ≤ 60 then
    match cs with
    | '.' :: c :: rest => if c.isDigit then return rest.dropWhile Char.isDigit else none
    | '.' :: [] => none
    | cs => return cs
  else none

/-- Whether the text is a distance from universal time. -/
def isOffset (cs : List Char) : Bool :=
  let distance? (cs : List Char) : Option (List Char) := do
    let (hour, cs) ← fixed? 2 cs
    let (minute, cs) ← fixed? 2 (← char? ':' cs)
    if hour ≤ 23 && minute ≤ 59 then return cs else none
  match cs with
  | ['Z'] | ['z'] => true
  | '+' :: rest | '-' :: rest => distance? rest == some []
  | _ => false

/-- A date, a time of day or both. -/
def moment? (cs : List Char) : Option Toml :=
  match date? cs with
  | some [] => some .moment
  | some (c :: rest) =>
    if c == 'T' || c == 't' || c == ' ' then
      match time? rest with
      | some [] => some .moment
      | some rest => if isOffset rest then some .moment else none
      | none => none
    else none
  | none => if time? cs == some [] then some .moment else none

/-! ## Words -/

/-- Whether the character may stand in a word. -/
def continuesWord (c : Char) : Bool :=
  c.isAlphanum || c == '_' || c == '+' || c == '-' || c == '.' || c == ':'

/-- The word at the front of a text, and the rest. Between a date and a time of
day a space belongs to the word. -/
def word (cs : List Char) : List Char × List Char :=
  let first := cs.takeWhile continuesWord
  let rest := cs.dropWhile continuesWord
  match rest with
  | ' ' :: c :: _ =>
    if date? first == some [] && c.isDigit then
      let more := (rest.drop 1).takeWhile continuesWord
      (first ++ ' ' :: more, (rest.drop 1).dropWhile continuesWord)
    else (first, rest)
  | _ => (first, rest)

/-- The value of a word. -/
def scalar? (cs : List Char) : Option Toml :=
  if cs == ['t', 'r', 'u', 'e'] then some (.boolean true)
  else if cs == ['f', 'a', 'l', 's', 'e'] then some (.boolean false)
  else (integer? cs <|> float? cs) <|> moment? cs

end ClassModel.Toml
