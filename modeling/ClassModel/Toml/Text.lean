/-!
# ClassModel.Toml.Text

The characters of a TOML document: blanks, comments, line breaks, names and
quoted texts. A reader takes characters from the front and answers what it
read with the rest; where the grammar is violated it has no answer.
-/

namespace ClassModel.Toml

/-- Reads from the front of a text. -/
abbrev Reader (α : Type) := List Char → Option (α × List Char)

/-- Whether the character may stand in a comment or a text on one line. -/
def isPlain (c : Char) : Bool := c == '\t' || (0x20 ≤ c.toNat && c.toNat != 0x7F)

/-- Leaves out blanks. -/
def skipBlanks (cs : List Char) : List Char := cs.dropWhile fun c => c == ' ' || c == '\t'

/-- Leaves out a comment up to the end of its line. -/
def skipComment : List Char → List Char
  | '#' :: rest => rest.dropWhile isPlain
  | cs => cs

/-- Reads a line break, if one comes next. -/
def lineBreak? : List Char → Option (List Char)
  | '\n' :: rest => some rest
  | '\r' :: '\n' :: rest => some rest
  | _ => none

/-- Reads to the end of a line that holds nothing more, or to the end of the
text. -/
def lineEnd? (cs : List Char) : Option (List Char) :=
  match skipComment (skipBlanks cs) with
  | [] => some []
  | rest => lineBreak? rest

/-- Leaves out blanks, comments and line breaks; the number bounds the count of
lines. -/
def skipLines : Nat → List Char → List Char
  | 0, cs => cs
  | bound + 1, cs =>
    let rest := skipComment (skipBlanks cs)
    match lineBreak? rest with
    | some rest => skipLines bound rest
    | none => rest

/-! ## Quoted texts -/

/-- The value of a hexadecimal digit. -/
def hexDigit? (c : Char) : Option Nat :=
  if c.isDigit then some (c.toNat - '0'.toNat)
  else if 'a' ≤ c && c ≤ 'f' then some (c.toNat - 'a'.toNat + 10)
  else if 'A' ≤ c && c ≤ 'F' then some (c.toNat - 'A'.toNat + 10)
  else none

/-- Reads a code point of the given number of hexadecimal digits. -/
def codePoint (digits : Nat) : Reader Char := fun cs => do
  let read := cs.take digits
  if read.length < digits then none
  let value ← read.foldlM (fun value c => (hexDigit? c).map (16 * value + ·)) 0
  if h : value.isValidChar then return (Char.ofNatAux value h, cs.drop digits) else none

/-- Reads an escape after its backslash. -/
def escape : Reader Char
  | 'b' :: rest => some ('\x08', rest)
  | 't' :: rest => some ('\t', rest)
  | 'n' :: rest => some ('\n', rest)
  | 'f' :: rest => some ('\x0c', rest)
  | 'r' :: rest => some ('\r', rest)
  | '"' :: rest => some ('"', rest)
  | '\\' :: rest => some ('\\', rest)
  | 'u' :: rest => codePoint 4 rest
  | 'U' :: rest => codePoint 8 rest
  | _ => none

/-- Reads a text on one line up to its quote; escapes count where asked for.
The number bounds the count of characters. -/
def lineText (quote : Char) (escapes : Bool) : Nat → Reader (List Char)
  | 0, _ => none
  | _ + 1, [] => none
  | bound + 1, c :: rest =>
    if c == quote then some ([], rest)
    else if c == '\\' && escapes then do
      let (value, rest) ← escape rest
      let (text, rest) ← lineText quote escapes bound rest
      return (value :: text, rest)
    else if isPlain c then do
      let (text, rest) ← lineText quote escapes bound rest
      return (c :: text, rest)
    else none

/-- Leaves out blanks and line breaks. -/
def skipSpace : List Char → List Char
  | '\r' :: '\n' :: rest => skipSpace rest
  | c :: rest => if c == ' ' || c == '\t' || c == '\n' then skipSpace rest else c :: rest
  | [] => []

/-- Leaves out the line break after a backslash and all blanks and line breaks
that follow it. -/
def foldLine? (cs : List Char) : Option (List Char) :=
  (lineBreak? (skipBlanks cs)).map skipSpace

/-- Reads the quotes at the end of a text on several lines: up to two of them
belong to the text. -/
def closingQuotes? (quote : Char) (cs : List Char) : Option (List Char × List Char) :=
  let count := (cs.takeWhile (· == quote)).length
  if 3 ≤ count then
    let kept := min (count - 3) 2
    some (List.replicate kept quote, cs.drop (kept + 3))
  else none

/-- Reads a text on several lines up to its three quotes; escapes count where
asked for. The number bounds the count of characters. -/
def blockText (quote : Char) (escapes : Bool) : Nat → Reader (List Char)
  | 0, _ => none
  | _ + 1, [] => none
  | bound + 1, c :: rest =>
    match closingQuotes? quote (c :: rest) with
    | some found => some found
    | none =>
      if c == '\\' && escapes then
        match foldLine? rest with
        | some rest => blockText quote escapes bound rest
        | none => do
          let (value, rest) ← escape rest
          let (text, rest) ← blockText quote escapes bound rest
          return (value :: text, rest)
      else if isPlain c then do
        let (text, rest) ← blockText quote escapes bound rest
        return (c :: text, rest)
      else do
        let rest ← lineBreak? (c :: rest)
        let (text, rest) ← blockText quote escapes bound rest
        return ('\n' :: text, rest)

/-- Reads a text on one line, in either kind of quotes. -/
def quotedLine : Reader String
  | '"' :: rest => (lineText '"' true (rest.length + 1) rest).map (·.map String.ofList id)
  | '\'' :: rest => (lineText '\'' false (rest.length + 1) rest).map (·.map String.ofList id)
  | _ => none

/-- Reads a text on several lines, in either kind of quotes. A line break right
after the opening quotes does not count. -/
def quotedBlock : Reader String
  | '"' :: '"' :: '"' :: rest =>
    let rest := (lineBreak? rest).getD rest
    (blockText '"' true (rest.length + 1) rest).map (·.map String.ofList id)
  | '\'' :: '\'' :: '\'' :: rest =>
    let rest := (lineBreak? rest).getD rest
    (blockText '\'' false (rest.length + 1) rest).map (·.map String.ofList id)
  | _ => none

/-! ## Keys -/

/-- Whether the character may stand in a key without quotes. -/
def isBare (c : Char) : Bool := c.isAlphanum || c == '_' || c == '-'

/-- Reads a key. -/
def simpleKey (cs : List Char) : Option (String × List Char) :=
  match quotedLine cs with
  | some found => some found
  | none =>
    let key := cs.takeWhile isBare
    if key.isEmpty then none else some (String.ofList key, cs.dropWhile isBare)

/-- Reads keys between dots, at most as many as the number says. Blanks around
the keys do not count. -/
def keysWithin : Nat → Reader (List String)
  | 0, _ => none
  | bound + 1, cs => do
    let (key, rest) ← simpleKey (skipBlanks cs)
    match skipBlanks rest with
    | '.' :: rest => do
      let (path, rest) ← keysWithin bound rest
      return (key :: path, rest)
    | rest => return ([key], rest)

/-- The largest count of keys in a path, and the largest depth of brackets and
braces in a value. A document that goes beyond it is refused. -/
def maxDepth : Nat := 79

/-- Reads keys between dots. -/
def keyPath : Reader (List String) := keysWithin maxDepth

end ClassModel.Toml
