import ClassModel.Text.Alphabetic
import ClassModel.Text.WhiteSpace
import ClassModel.Token

/-!
# ClassModel.Token.Lexer

Tokenizing. A text is split into lexemes from left to right; `Lexeme.next`
reads one and leaves the rest. Every character belongs to exactly one lexeme
(`Lexeme.next_append`), and a lexeme holds its token and its errors on its own,
with offsets from its own start. The tokens of a text are those of its
lexemes followed by the mark of the end, and its errors are theirs shifted to
where they stand (`tokenize`).
-/

namespace ClassModel

/-! ## Character classes -/

/-- Whether a name may start with the character. -/
def startsIdentifier (c : Char) : Bool := c == '_' || c == '$' || Text.isAlphabetic c

/-- Whether a name may continue with the character. -/
def continuesIdentifier (c : Char) : Bool := startsIdentifier c || c.isDigit

/-- Whether the character is a token by itself. -/
def isPunctuation (c : Char) : Bool :=
  ['<', '>', ',', '(', ')', '[', ']', '&', ';', '{', '}', '='].contains c

/-- Whether the character may stand in the whole part of a number. -/
def continuesWhole (c : Char) : Bool := c.isDigit || c == '_'

/-- The character that an escape stands for. -/
def escapeValue? : Char → Option Char
  | '\'' => some '\''
  | '"' => some '"'
  | '\\' => some '\\'
  | 't' => some '\t'
  | 'n' => some '\n'
  | 'r' => some '\r'
  | '0' => some '\x00'
  | _ => none

/-! ## Lexemes -/

/-- The length of a text in bytes of UTF-8. -/
def utf8Length : List Char → Nat
  | [] => 0
  | c :: cs => c.utf8Size + utf8Length cs

/-- A piece of text that makes up one token. -/
structure Lexeme where
  text : List Char
  token : Token
  /-- The errors in the lexeme, with offsets from its start. -/
  errors : List LexicalError := []

/-- The part of a quoted literal after its opening quote. -/
structure Literal where
  /-- The decoded characters. -/
  value : List Char
  text : List Char
  errors : List LexicalError
  rest : List Char

namespace Literal

/-- Puts an item in front of the items read so far. -/
def prepend (literal : Literal) (value : List Char) (text : List Char)
    (errors : List LexicalError) : Literal :=
  { literal with
    value := value ++ literal.value
    text := text ++ literal.text
    errors := errors ++ literal.errors }

/-- The value and the errors of a backslash at the offset and the character
after it. An unknown escape is reported and stands for its character. -/
def ofEscape (offset : Nat) (c : Char) : Char × List LexicalError :=
  match escapeValue? c with
  | some value => (value, [])
  | none => (c, [⟨offset, .invalidEscape c⟩])

/-- Reads up to the closing double quote. The literal ends unclosed in front
of a line break and at the end of the text. -/
def readString (offset : Nat) : List Char → Literal
  | [] => ⟨[], [], [⟨0, .unterminatedLiteral '"'⟩], []⟩
  | ['\\'] => ⟨[], ['\\'], [⟨0, .unterminatedLiteral '"'⟩], []⟩
  | '\\' :: c :: rest =>
    let (value, errors) := ofEscape offset c
    (readString (offset + 1 + c.utf8Size) rest).prepend [value] ['\\', c] errors
  | c :: rest =>
    if c = '"' then ⟨[], [c], [], rest⟩
    else if c = '\n' || c = '\r' then ⟨[], [], [⟨0, .unterminatedLiteral '"'⟩], c :: rest⟩
    else (readString (offset + c.utf8Size) rest).prepend [c] [c] []

/-- Reads the item of a character literal; there is none in front of a single
quote or at the end. -/
def readItem : List Char → Literal
  | [] => ⟨[], [], [], []⟩
  | ['\\'] => ⟨[], ['\\'], [], []⟩
  | '\\' :: c :: rest =>
    let (value, errors) := ofEscape 1 c
    ⟨[value], ['\\', c], errors, rest⟩
  | c :: rest => if c = '\'' then ⟨[], [], [], c :: rest⟩ else ⟨[c], [c], [], rest⟩

/-- Reads the item of a character literal and the closing single quote. -/
def readCharacter (cs : List Char) : Literal :=
  let item := readItem cs
  match item.rest with
  | '\'' :: rest => { item with text := item.text ++ ['\''], rest := rest }
  | _ => { item with errors := item.errors ++ [⟨0, .unterminatedLiteral '\''⟩] }

end Literal

namespace Numeral

/-- The value of a run of decimal digits. -/
def natOfDigits (digits : List Char) : Nat :=
  digits.foldl (fun value c => 10 * value + (c.toNat - '0'.toNat)) 0

/-- The largest value of an integral literal; larger ones are capped. -/
def maxInteger : Nat := 0x7FFFFFFFFFFFFFFF

/-- The point and the digits after it, if a digit follows the point. -/
def fraction (cs : List Char) : List Char :=
  match cs with
  | '.' :: c :: rest => if c.isDigit then '.' :: c :: rest.takeWhile Char.isDigit else []
  | _ => []

/-- The value of a literal from its whole digits and its fraction. -/
def toFloat (whole fraction : List Char) : Float :=
  let digits := fraction.drop 1
  let bits := Number.BinaryFormat.double.ofRatio (natOfDigits (whole ++ digits))
    (Nat.pow 10 digits.length)
  Float.ofBits bits.toUInt64

/-- Reads a number whose first digit is given. Underscores may stand between
the whole digits; a fraction or one of the suffixes of floating-point numbers
makes it floating. -/
def read (first : Char) (cs : List Char) : Lexeme × List Char :=
  let whole := first :: cs.takeWhile continuesWhole
  let cs := cs.dropWhile continuesWhole
  let fraction := fraction cs
  let cs := cs.drop fraction.length
  let digits := whole.filter (· != '_')
  let integer : Token := .integer (min maxInteger (natOfDigits digits))
  let floating : Token := .floating (toFloat digits fraction)
  let plain := if fraction.isEmpty then integer else floating
  match cs with
  | c :: rest =>
    if ['f', 'F', 'd', 'D'].contains c then (⟨whole ++ fraction ++ [c], floating, []⟩, rest)
    else if ['l', 'L'].contains c && fraction.isEmpty then
      (⟨whole ++ fraction ++ [c], integer, []⟩, rest)
    else (⟨whole ++ fraction, plain, []⟩, c :: rest)
  | [] => (⟨whole ++ fraction, plain, []⟩, [])

end Numeral

/-- The token of a name: a truth value, a reserved word or an identifier. -/
def Token.ofWord (word : String) : Token :=
  if word == "true" then .boolean true
  else if word == "false" then .boolean false
  else match Keyword.ofText? word with
    | some reserved => .keyword reserved
    | none => .identifier word

namespace Lexeme

/-- Reads the lexeme that starts with the given character, and leaves the
rest. -/
def next (c : Char) (cs : List Char) : Lexeme × List Char :=
  if c = '\n' then (⟨[c], .newLine, []⟩, cs)
  else if c = '\r' then
    match cs with
    | '\n' :: rest => (⟨[c, '\n'], .newLine, []⟩, rest)
    | _ => (⟨[c], .newLine, []⟩, cs)
  else if Text.isBlank c then
    (⟨c :: cs.takeWhile Text.isBlank, .whitespace, []⟩, cs.dropWhile Text.isBlank)
  else if startsIdentifier c then
    let word := c :: cs.takeWhile continuesIdentifier
    (⟨word, .ofWord (String.ofList word), []⟩, cs.dropWhile continuesIdentifier)
  else if c.isDigit then Numeral.read c cs
  else if c = '.' then
    match cs with
    | '.' :: '.' :: rest => (⟨['.', '.', '.'], .ellipsis, []⟩, rest)
    | _ => (⟨[c], .punctuation c, []⟩, cs)
  else if c = '"' then
    let literal := Literal.readString 1 cs
    (⟨c :: literal.text, .string (String.ofList literal.value), literal.errors⟩, literal.rest)
  else if c = '\'' then
    let literal := Literal.readCharacter cs
    (⟨c :: literal.text, .character (literal.value.headD '\x00'), literal.errors⟩, literal.rest)
  else if isPunctuation c then (⟨[c], .punctuation c, []⟩, cs)
  else (⟨[c], .unknown c, [⟨0, .unexpectedCharacter c⟩]⟩, cs)

/-- The lexemes of a text, at most as many as the first argument says. -/
def split : Nat → List Char → List Lexeme
  | 0, _ => []
  | _, [] => []
  | count + 1, c :: cs =>
    let (lexeme, rest) := next c cs
    lexeme :: split count rest

/-- The lexemes of a text. There are never more of them than characters. -/
def all (cs : List Char) : List Lexeme := split cs.length cs

/-- The length of the lexeme in bytes of UTF-8. -/
def byteLength (lexeme : Lexeme) : Nat := utf8Length lexeme.text

end Lexeme

/-! ## Token sequences -/

/-- The outcome of tokenizing a text. -/
structure TokenStream where
  /-- The tokens; the last one marks the end. -/
  tokens : List Token
  errors : List LexicalError

namespace TokenStream

/-- The errors of lexemes that stand one after another from the given
position. -/
def errorsFrom (position : Nat) : List Lexeme → List LexicalError
  | [] => []
  | lexeme :: rest =>
    lexeme.errors.map (·.shift position) ++ errorsFrom (position + lexeme.byteLength) rest

/-- The token stream of consecutive lexemes. -/
def ofLexemes (lexemes : List Lexeme) : TokenStream :=
  { tokens := lexemes.map (·.token) ++ [.endOfInput]
    errors := errorsFrom 0 lexemes }

/-- The tokens that carry meaning: neither blanks, line breaks nor the end. -/
def significant (stream : TokenStream) : List Token :=
  stream.tokens.filter fun token => !token.isInsignificant

end TokenStream

/-- Splits a signature into tokens. -/
def tokenize (source : String) : TokenStream := .ofLexemes (Lexeme.all source.toList)

end ClassModel
