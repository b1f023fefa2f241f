import ClassModel.Token

/-!
# ClassModel.Signature.Expectation

What a reader of signatures looks for next. A reader never fails: where the
next token is another one it notes the expectation as unmet and goes on with
what it has.
-/

namespace ClassModel

/-- What is looked for at some place of a signature. -/
inductive Expectation where
  | mark (mark : Char)
  | identifier
  | clauseOrEnd
  | attributeEnd
  | methodEnd
  deriving DecidableEq, Repr

/-- The description of an expectation. -/
def Expectation.text : Expectation → String
  | mark c => "\x60" ++ c.toString ++ "\x60"
  | identifier => "an identifier"
  | clauseOrEnd => "\x60extends\x60, \x60implements\x60 or the end"
  | attributeEnd => "the end of the attribute"
  | methodEnd => "the end of the method"

/-- An expectation, and the text of the token that stands in its place. -/
structure Unmet where
  expected : Expectation
  found : String
  deriving DecidableEq, Repr

namespace Signature

/-- The text of the next token. -/
def nextText : List Token → String
  | [] => Token.endOfInput.text
  | token :: _ => token.text

/-- Reads a punctuation mark. -/
def readMark (mark : Char) : List Token → Option Unmet × List Token
  | [] => (some ⟨.mark mark, nextText []⟩, [])
  | token :: rest =>
    if token.isMark mark then (none, rest)
    else (some ⟨.mark mark, nextText (token :: rest)⟩, token :: rest)

/-- Reads a name. -/
def readIdentifier : List Token → Except Unmet String × List Token
  | .identifier name :: rest => (.ok name, rest)
  | tokens => (.error ⟨.identifier, nextText tokens⟩, tokens)

/-- Checks that nothing is left. -/
def readEnd (expected : Expectation) : List Token → Option Unmet
  | [] => none
  | tokens => some ⟨expected, nextText tokens⟩

end Signature

end ClassModel
