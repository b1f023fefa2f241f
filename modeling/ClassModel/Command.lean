import ClassModel.Command.Arguments
import ClassModel.Compile
import ClassModel.Standard.Exceptions

/-!
# ClassModel.Command

The command: it compiles a library of the standard class-likes and prints a
summary of it. Problems are told apart from the summary, and the exit code
tells whether there were errors.
-/

namespace ClassModel.Command

/-- What the command leaves behind. -/
structure Result where
  exitCode : Nat
  output : String := ""
  problems : String := ""
  deriving DecidableEq, Repr

namespace Result

/-- A run that ends with an error. -/
def failed (exitCode : Nat) (message : String) : Result :=
  let report : Report := { message := message, severity := .error }
  { exitCode := exitCode, problems := report.render false ++ "\n" }

end Result

/-- The declarations to compile. -/
def LibraryChoice.declarations : LibraryChoice → List Declaration
  | prelude => []
  | standard => Standard.exceptions

/-- The help text. -/
def help : String :=
  "Compiles native library classes into a type model\n\n"
    ++ "  -c, --config <CONFIG>    A TOML file with the compilation options\n"
    ++ "  -l, --library <LIBRARY>  prelude or standard\n"
    ++ "  -f, --format <FORMAT>    summary or ron\n"
    ++ "  -v, --verbose            Logs the compilation passes\n"
    ++ "  -h, --help               Print help\n"

/-- More instantiations than the standard class-likes ask for. -/
def budget : Nat := 1000

/-- Compiles with the given options and prints the summary. -/
def compileWith (arguments : Arguments) (options : Options) : Result :=
  let outcome := compile arguments.library.declarations options budget
  let library := match outcome.result with
    | .ok library => library
    | .error _ => .empty
  let reports := outcome.diagnostics.map (·.report library)
  let problems := String.join (reports.map fun report => report.render false ++ "\n\n")
  match outcome.result with
  | .error error =>
    let failed := Result.failed 1 error.message
    { failed with problems := problems ++ failed.problems }
  | .ok library =>
    let hasError := reports.any (·.severity == .error)
    { exitCode := if hasError then 1 else 0
      output := library.summarize.render arguments.format ++ "\n"
      problems := problems }

/-- Runs the command on arguments that are understood. The file with options
is read by the given function. -/
def runWith (contentOf? : String → Option String) (arguments : Arguments) : Result :=
  let file? := arguments.config?.map fun path => { path := path, content? := contentOf? path }
  match Options.load file? with
  | .error error => .failed 1 error.message
  | .ok options => compileWith arguments options

/-- Runs the command. Arguments that are not understood end it with code 2,
and options that cannot be read with code 1. -/
def run (contentOf? : String → Option String) (arguments : List String) : Result :=
  match read arguments with
  | .error error => .failed 2 error.message
  | .ok .showHelp => { exitCode := 0, output := help }
  | .ok (.compile arguments) => runWith contentOf? arguments

end ClassModel.Command
