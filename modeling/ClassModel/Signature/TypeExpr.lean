import ClassModel.Signature.Expectation

/-!
# ClassModel.Signature.TypeExpr

Types as they are written, before their names are resolved. A name is followed
by type arguments only if it takes them, so reading asks which names do.

```
type      = name [ '<' arguments '>' ] { '[' ']' }
arguments = [ type { ',' type } [ ',' ] ]
```
-/

namespace ClassModel

/-- A written type. -/
inductive TypeExpr where
  /-- Another token stands in place of the type. -/
  | missing (found : String) (dimension : Nat)
  | name (identifier : String) (dimension : Nat)
  /-- A name with type arguments, which may lack their closing bracket. -/
  | application (identifier : String) (arguments : List TypeExpr) (unclosed? : Option Unmet)
    (dimension : Nat)

namespace TypeExpr

/-- Reads pairs of square brackets, and counts them. -/
def readDimension : List Token → Nat × List Token
  | first :: second :: rest =>
    if first.isMark '[' && second.isMark ']' then
      let (dimension, rest) := readDimension rest
      (dimension + 1, rest)
    else (0, first :: second :: rest)
  | tokens => (0, tokens)

mutual

/-- Reads a type; the number bounds how deep the reading goes. -/
def readWithin (takesArguments : String → Bool) : Nat → List Token → TypeExpr × List Token
  | 0, tokens => (.missing (Signature.nextText tokens) 0, tokens)
  | _ + 1, [] => (.missing (Signature.nextText []) 0, [])
  | bound + 1, .identifier identifier :: rest =>
    match takesArguments identifier, Signature.readMark '<' rest with
    | true, (none, rest) =>
      let (arguments, rest) := readArgumentsWithin takesArguments bound rest
      let (unclosed?, rest) := Signature.readMark '>' rest
      let (dimension, rest) := readDimension rest
      (.application identifier arguments unclosed? dimension, rest)
    | _, _ =>
      let (dimension, rest) := readDimension rest
      (.name identifier dimension, rest)
  | _ + 1, found :: rest =>
    let (dimension, rest) := readDimension rest
    (.missing found.text dimension, rest)

/-- Reads type arguments as long as a name follows; the number bounds how far
the reading goes. -/
def readArgumentsWithin (takesArguments : String → Bool) :
    Nat → List Token → List TypeExpr × List Token
  | 0, tokens => ([], tokens)
  | bound + 1, .identifier identifier :: rest =>
    let (type, rest) := readWithin takesArguments bound (.identifier identifier :: rest)
    match Signature.readMark ',' rest with
    | (none, rest) =>
      let (types, rest) := readArgumentsWithin takesArguments bound rest
      (type :: types, rest)
    | (some _, rest) => ([type], rest)
  | _ + 1, tokens => ([], tokens)

end

/-- Reads a type. Each step deeper consumes a token, so the number of tokens
bounds the depth. -/
def read (takesArguments : String → Bool) (tokens : List Token) : TypeExpr × List Token :=
  readWithin takesArguments (tokens.length + 1) tokens

/-- Reads types between marks, as long as a mark follows; the number bounds
the count of the marks. -/
def readSeparatedWithin (takesArguments : String → Bool) (mark : Char) :
    Nat → List Token → List TypeExpr × List Token
  | 0, tokens =>
    let (type, rest) := read takesArguments tokens
    ([type], rest)
  | bound + 1, tokens =>
    let (type, rest) := read takesArguments tokens
    match Signature.readMark mark rest with
    | (none, rest) =>
      let (types, rest) := readSeparatedWithin takesArguments mark bound rest
      (type :: types, rest)
    | (some _, rest) => ([type], rest)

/-- Reads one type or more between marks. -/
def readSeparated (takesArguments : String → Bool) (mark : Char) (tokens : List Token) :
    List TypeExpr × List Token :=
  readSeparatedWithin takesArguments mark tokens.length tokens

end TypeExpr

end ClassModel
