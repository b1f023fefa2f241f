import ClassModel.Compile.Layout
import ClassModel.Compile.Materialize
import ClassModel.Compile.Virtual

/-!
# ClassModel.Compile

Compiling declarations into a library. The declarations are taken in three
stages, each over all of them: names, hierarchy, members. Then the attributes
are laid out, the instantiations are filled in and the virtual methods are
marked.
-/

namespace ClassModel

/-- The outcome of a compilation. -/
structure Outcome where
  result : Except CompileError Library
  /-- The problems in the order in which they were reported. -/
  diagnostics : List Diagnostic

namespace Build

/-- All stages of a compilation. -/
def compileAll (options : Options) (budget : Nat) (declarations : List Declaration) :
    Build Unit := do
  let intakes ← registerAll options declarations
  intakes.forM (resolveHeader options)
  breakCycles
  intakes.forM fun intake => compileMembers options intake.id
  layOutAll
  materializeAll options budget
  setLibrary (← library).flagVirtual

end Build

/-- The number of errors among diagnostics. -/
def errorCount (library : Library) (diagnostics : List Diagnostic) : Nat :=
  diagnostics.countP fun diagnostic => (diagnostic.report library).severity == .error

/-- Compiles the standard prelude and then the declarations. The diagnostics
are told in any case; in strict mode a library with errors is refused. The
budget is the number of instantiations that may be filled in. -/
def compile (declarations : List Declaration) (options : Options) (budget : Nat) : Outcome :=
  let (result, state) :=
    (Build.compileAll options budget (Standard.prelude ++ declarations)).run.run {}
  let diagnostics := state.log.toList
  match result with
  | .error error => ⟨.error error, diagnostics⟩
  | .ok () =>
    let errors := errorCount state.library diagnostics
    if options.strict && errors > 0 then ⟨.error (.aborted errors), diagnostics⟩
    else ⟨.ok state.library, diagnostics⟩

end ClassModel
