import ClassModel.Diagnostic
import ClassModel.Options
import ClassModel.Report.Log
import ClassModel.Token.Lexer

/-!
# ClassModel.Compile.Build

What all stages of a compilation share: the library under construction, the
instantiations whose supertypes and members are still to be filled in, and the
diagnostics reported so far. Diagnostics never stop a compilation; the few
errors that do leave the diagnostics in place.
-/

namespace ClassModel

/-- Why a compilation has no library. -/
inductive CompileError where
  /-- Errors were reported in strict mode. -/
  | aborted (errors : Nat)
  /-- An instantiation mentions generic parameters where none are in scope. -/
  | missingGenericContext (signature : String)
  /-- A class-like of another library was referred to. -/
  | invalidClassLike (id : ClassId)
  /-- More instantiations were requested than the compilation may fill in. -/
  | budgetExhausted
  deriving DecidableEq

/-- The text of the error. -/
def CompileError.message : CompileError → String
  | aborted errors => s!"compilation aborted: {errors} error(s) reported in strict mode"
  | missingGenericContext signature =>
    s!"instantiation \x60{signature}\x60 refers to generic parameters "
      ++ "outside of any generic context"
  | invalidClassLike id => s!"class-like \x60{id.render}\x60 is not part of the library"
  | budgetExhausted => "the instantiations don't come to an end"

/-- The state of a compilation. -/
structure BuildState where
  library : Library := .empty
  /-- The instantiations that are still to be filled in, oldest first. -/
  pending : List ClassId := []
  log : Log Diagnostic := .empty

/-- A step of a compilation. -/
abbrev Build := ExceptT CompileError (StateM BuildState)

namespace Build

/-- The library as it is now. -/
def library : Build Library := return (← get).library

/-- Replaces the library. -/
def setLibrary (library : Library) : Build Unit := modify ({ · with library })

/-- Reports a problem. -/
def report (diagnostic : Diagnostic) : Build Unit :=
  modify fun state => { state with log := state.log.report diagnostic }

/-- Reports an unmet expectation, if there is one. -/
def reportUnmet (signature : String) : Option Unmet → Build Unit
  | some unmet => report (.unexpectedToken signature unmet)
  | none => return

/-- The class-like of the identifier. -/
def classLike (id : ClassId) : Build ClassLike := do
  match (← library).classLike? id with
  | some classLike => return classLike
  | none => throw (.invalidClassLike id)

/-- Changes a class-like. -/
def modifyClassLike (id : ClassId) (change : ClassLike → ClassLike) : Build Unit := do
  let _ ← classLike id
  setLibrary ((← library).modify id change)

/-- The meaningful tokens of a signature. Its faulty tokens are reported. -/
def tokens (signature : String) : Build (List Token) := do
  let stream := tokenize signature
  stream.errors.forM fun error => report (.lexical signature error)
  return stream.significant

/-- A name that was expected; if it is missing, that is reported. -/
def nameOf? (signature : String) : Except Unmet String → Build (Option String)
  | .ok name => return some name
  | .error unmet => do
    report (.unexpectedToken signature unmet)
    return none

end Build

end ClassModel
