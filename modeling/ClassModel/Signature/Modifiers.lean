import ClassModel.ClassLike

/-!
# ClassModel.Signature.Modifiers

The words in front of a declaration or a member, in any order. Each flag is
set once its word occurs; of several visibilities the last one counts.
-/

namespace ClassModel

/-- What the words in front of a signature say. -/
structure Modifiers where
  visibility : Visibility := .public
  isAbstract : Bool := false
  isStatic : Bool := false
  isFinal : Bool := false
  isTransient : Bool := false
  deriving DecidableEq, Repr

namespace Modifiers

/-- Adds a word, if it is a modifier. -/
def add? (modifiers : Modifiers) : Keyword → Option Modifiers
  | .public => some { modifiers with visibility := .public }
  | .protected => some { modifiers with visibility := .protected }
  | .private => some { modifiers with visibility := .private }
  | .abstract => some { modifiers with isAbstract := true }
  | .static => some { modifiers with isStatic := true }
  | .final => some { modifiers with isFinal := true }
  | .transient => some { modifiers with isTransient := true }
  | .class | .interface | .enum | .extends | .implements | .super => none

/-- Adds the modifiers at the front of the tokens. -/
def readMore (modifiers : Modifiers) : List Token → Modifiers × List Token
  | .keyword word :: rest =>
    match modifiers.add? word with
    | some modifiers => readMore modifiers rest
    | none => (modifiers, .keyword word :: rest)
  | tokens => (modifiers, tokens)

/-- Reads the modifiers at the front of the tokens. -/
def read (tokens : List Token) : Modifiers × List Token := readMore {} tokens

end Modifiers

end ClassModel
