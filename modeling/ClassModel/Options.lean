import ClassModel.Toml.Document

/-!
# ClassModel.Options

What a compilation can be told, and how options are read from a TOML document.
Options that the document does not mention keep their defaults, and keys that
name no option are ignored.
-/

namespace ClassModel

/-- The options of a compilation. -/
structure Options where
  /-- Whether misuse counts as an error, and an error refuses the library. -/
  strict : Bool := false
  /-- How deeply instantiations may be nested. -/
  maxSpecializationDepth : Nat := 8
  deriving DecidableEq, Repr

/-- Why options could not be read. -/
inductive OptionsError where
  /-- There is no file at the path. -/
  | missingFile (path : String)
  /-- The text is no TOML document, or gives an option a value of another
  type. -/
  | invalidText
  deriving DecidableEq, Repr

/-- The text of the error. -/
def OptionsError.message : OptionsError → String
  | missingFile path => s!"failed to read \x60{path}\x60: No such file or directory (os error 2)"
  | invalidText => "invalid options"

namespace Options

/-- The truth value of an option. -/
def flag? (entries : Toml.Entries) (key : String) (default : Bool) : Option Bool :=
  match entries.lookup key with
  | none => some default
  | some (.boolean value) => some value
  | some _ => none

/-- The number that an option gives. -/
def count? (entries : Toml.Entries) (key : String) (default : Nat) : Option Nat :=
  match entries.lookup key with
  | none => some default
  | some (.integer value) => if 0 ≤ value then some value.toNat else none
  | some _ => none

/-- The options of a document. -/
def ofText (text : String) : Except OptionsError Options :=
  let options? : Option Options := do
    let entries ← Toml.document? text
    let strict ← flag? entries "strict" false
    let depth ← count? entries "max-specialization-depth" 8
    return { strict := strict, maxSpecializationDepth := depth }
  match options? with
  | some options => .ok options
  | none => .error .invalidText

/-- The text of a file, as far as there is one. -/
structure File where
  path : String
  content? : Option String

/-- The options of a file; without a file, the defaults. -/
def load : Option File → Except OptionsError Options
  | none => .ok {}
  | some file =>
    match file.content? with
    | none => .error (.missingFile file.path)
    | some content => ofText content

end Options

end ClassModel
