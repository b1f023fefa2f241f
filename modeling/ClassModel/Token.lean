import ClassModel.Number.Style
import ClassModel.Text.Quoted

/-!
# ClassModel.Token

The classified pieces of a signature, and the errors that reading one can
report. A token shows as the text it was read from, except that literals are
shown by their decoded value.
-/

namespace ClassModel

/-- The reserved words of a signature. -/
inductive Keyword where
  | «class»
  | interface
  | enum
  | «extends»
  | implements
  | super
  | «public»
  | «private»
  | «protected»
  | «abstract»
  | static
  | final
  | transient
  deriving DecidableEq, Repr

namespace Keyword

/-- All reserved words. -/
def all : List Keyword :=
  [«class», interface, enum, «extends», implements, super, «public», «private», «protected»,
    «abstract», static, final, transient]

/-- The spelling of a reserved word. -/
def text : Keyword → String
  | «class» => "class"
  | interface => "interface"
  | enum => "enum"
  | «extends» => "extends"
  | implements => "implements"
  | super => "super"
  | «public» => "public"
  | «private» => "private"
  | «protected» => "protected"
  | «abstract» => "abstract"
  | static => "static"
  | final => "final"
  | transient => "transient"

/-- The reserved word of the given spelling. -/
def ofText? (word : String) : Option Keyword := all.find? (·.text == word)

theorem mem_all (keyword : Keyword) : keyword ∈ all := by
  cases keyword <;> decide

/-- A reserved word is recovered from its spelling. -/
theorem ofText?_text (keyword : Keyword) : ofText? keyword.text = some keyword := by
  cases keyword <;> decide

end Keyword

/-- A classified piece of a signature. -/
inductive Token where
  /-- A name that is not reserved. -/
  | identifier (name : String)
  | keyword (word : Keyword)
  /-- A single punctuation character. -/
  | punctuation (mark : Char)
  /-- The variadic mark of three dots. -/
  | ellipsis
  /-- An integral literal; values beyond 63 bits are capped. -/
  | integer (value : Nat)
  | floating (value : Float)
  | boolean (value : Bool)
  /-- A double-quoted literal with its escapes decoded. -/
  | string (value : String)
  /-- A single-quoted literal with its escape decoded. -/
  | character (value : Char)
  /-- A run of blanks. -/
  | whitespace
  | newLine
  /-- A character that starts no token. -/
  | unknown (character : Char)
  /-- Closes every token sequence. -/
  | endOfInput

namespace Token

/-- Whether the token carries no meaning for a reader of signatures. -/
def isInsignificant : Token → Bool
  | whitespace | newLine | endOfInput => true
  | _ => false

/-- The text of a token in a message. -/
def text : Token → String
  | identifier name => name
  | keyword word => word.text
  | punctuation mark => mark.toString
  | ellipsis => "..."
  | integer value => toString value
  | floating value => Number.Style.plain.render .double value.toBits.toNat
  | boolean value => if value then "true" else "false"
  | string value => Text.quoteString value
  | .character value => Text.quoteChar value
  | whitespace => " "
  | newLine => "\n"
  | unknown c => c.toString
  | endOfInput => "end of signature"

/-- The name held by an identifier. -/
def identifier? : Token → Option String
  | identifier name => some name
  | _ => none

/-- Whether the token is the given punctuation mark. -/
def isMark (mark : Char) : Token → Bool
  | punctuation found => found == mark
  | _ => false

end Token

/-- What is wrong in the text of a token. -/
inductive LexicalFault where
  /-- No token starts with the character. -/
  | unexpectedCharacter (character : Char)
  /-- A literal is not closed before the end of its line. -/
  | unterminatedLiteral (quote : Char)
  /-- The character after a backslash names no escape. -/
  | invalidEscape (character : Char)
  deriving DecidableEq, Repr

/-- A fault at an offset counted in bytes of UTF-8. -/
structure LexicalError where
  offset : Nat
  fault : LexicalFault
  deriving DecidableEq, Repr

namespace LexicalError

/-- The same fault in a text that stands further right. -/
def shift (error : LexicalError) (distance : Nat) : LexicalError :=
  { error with offset := distance + error.offset }

/-- The text of the error. -/
def message (error : LexicalError) : String :=
  match error.fault with
  | .unexpectedCharacter c => s!"unexpected character \x60{c}\x60 at offset {error.offset}"
  | .unterminatedLiteral _ => s!"unterminated literal starting at offset {error.offset}"
  | .invalidEscape c => s!"invalid escape sequence \x60\\{c}\x60 at offset {error.offset}"

/-- What to do about the error. -/
def help? (error : LexicalError) : Option String :=
  match error.fault with
  | .unterminatedLiteral quote => some s!"close the literal with \x60{quote}\x60"
  | _ => none

end LexicalError

end ClassModel
