import ClassModel.Summary

/-!
# ClassModel.Command.Arguments

The arguments of the command line.

1. A long name follows two dashes; its value follows an equals sign or is the
   next argument.
2. A short name follows one dash, and several short names may share it; the
   value of the last one follows at once, after an equals sign, or is the next
   argument.
3. A value that is the next argument starts with no dash, unless it is one
   dash alone.
4. No option may be repeated, and there is nothing but options. Two dashes alone
   end them.
-/

namespace ClassModel.Command

/-- The declarations to compile on top of the prelude. -/
inductive LibraryChoice where
  | prelude
  | standard
  deriving DecidableEq, Repr

/-- What the command line asks for. -/
structure Arguments where
  /-- The path of a file with options. -/
  config? : Option String := none
  library : LibraryChoice := .standard
  format : OutputFormat := .listing
  verbose : Bool := false
  deriving DecidableEq, Repr

/-- The options of the command line. -/
inductive Flag where
  | config
  | library
  | format
  | verbose
  | help
  deriving DecidableEq, Repr

namespace Flag

/-- The name after two dashes. -/
def long : Flag → String
  | config => "config"
  | library => "library"
  | format => "format"
  | verbose => "verbose"
  | help => "help"

/-- The name after one dash. -/
def short : Flag → Char
  | config => 'c'
  | library => 'l'
  | format => 'f'
  | verbose => 'v'
  | help => 'h'

/-- All options. -/
def all : List Flag := [config, library, format, verbose, help]

/-- The option of the long name. -/
def ofLong? (name : String) : Option Flag := all.find? (·.long == name)

/-- The option of the short name. -/
def ofShort? (name : Char) : Option Flag := all.find? (·.short == name)

/-- Whether the option has a value. -/
def takesValue : Flag → Bool
  | config | library | format => true
  | verbose | help => false

end Flag

/-- Why arguments are not understood. -/
inductive UsageError where
  | unexpectedArgument (argument : String)
  | missingValue (flag : Flag)
  | invalidValue (flag : Flag) (value : String)
  /-- A value was given to an option that has none. -/
  | excessValue (flag : Flag)
  | repeated (flag : Flag)
  deriving DecidableEq, Repr

/-- The text of the error. -/
def UsageError.message : UsageError → String
  | unexpectedArgument argument => "unexpected argument '" ++ argument ++ "' found"
  | missingValue flag => "a value is required for '--" ++ flag.long ++ "' but none was supplied"
  | invalidValue flag value => "invalid value '" ++ value ++ "' for '--" ++ flag.long ++ "'"
  | excessValue flag => "unexpected value for '--" ++ flag.long ++ "' found; no more were expected"
  | repeated flag => "the argument '--" ++ flag.long ++ "' cannot be used multiple times"

/-- What the command is to do. -/
inductive Request where
  | compile (arguments : Arguments)
  | showHelp
  deriving DecidableEq, Repr

/-- The arguments that are read, and the options that occurred. -/
structure Draft where
  arguments : Arguments := {}
  seen : List Flag := []

namespace Draft

/-- Notes that an option occurs. -/
def mark (draft : Draft) (flag : Flag) : Except UsageError Draft :=
  if draft.seen.contains flag then .error (.repeated flag)
  else .ok { draft with seen := flag :: draft.seen }

/-- The arguments with an option set to a value. -/
def valued (arguments : Arguments) (flag : Flag) (value : String) : Except UsageError Arguments :=
  match flag, value with
  | .library, "prelude" => .ok { arguments with library := .prelude }
  | .library, "standard" => .ok { arguments with library := .standard }
  | .format, "summary" => .ok { arguments with format := .listing }
  | .format, "ron" => .ok { arguments with format := .ron }
  | .config, path =>
    if path.isEmpty then .error (.invalidValue flag path)
    else .ok { arguments with config? := some path }
  | flag, value => .error (.invalidValue flag value)

/-- Sets an option to a value. -/
def assign (draft : Draft) (flag : Flag) (value : String) : Except UsageError Draft := do
  let arguments ← valued draft.arguments flag value
  ({ draft with arguments }).mark flag

/-- Switches an option without a value on. -/
def switch (draft : Draft) (flag : Flag) : Except UsageError Draft :=
  ({ draft with arguments := { draft.arguments with verbose := true } }).mark flag

end Draft

/-- What an argument amounts to. -/
inductive Step where
  | done (draft : Draft)
  /-- The next argument is the value of the option. -/
  | needsValue (draft : Draft) (flag : Flag)
  | showHelp

/-- Reads an argument with a long name. -/
def longArgument (draft : Draft) (cs : List Char) : Except UsageError Step := do
  let name := String.ofList (cs.takeWhile (· != '='))
  let value? := match cs.dropWhile (· != '=') with
    | '=' :: value => some (String.ofList value)
    | _ => none
  match Flag.ofLong? name with
  | none => throw (.unexpectedArgument ("--" ++ String.ofList cs))
  | some flag =>
    match flag.takesValue, value? with
    | true, some value => return .done (← draft.assign flag value)
    | true, none => return .needsValue draft flag
    | false, some _ => throw (.excessValue flag)
    | false, none => if flag = .help then return .showHelp else return .done (← draft.switch flag)

/-- Reads an argument with short names. -/
def shortArgument (draft : Draft) : List Char → Except UsageError Step
  | [] => return .done draft
  | c :: cs => do
    match Flag.ofShort? c with
    | none => throw (.unexpectedArgument ("-" ++ c.toString))
    | some flag =>
      if flag.takesValue then
        match cs with
        | [] => return .needsValue draft flag
        | '=' :: value => return .done (← draft.assign flag (String.ofList value))
        | value => return .done (← draft.assign flag (String.ofList value))
      else if flag = .help then return .showHelp
      else shortArgument (← draft.switch flag) cs

/-- Reads an argument that is not the value of an option. -/
def argument (draft : Draft) (text : String) : Except UsageError Step :=
  match text.toList with
  | '-' :: '-' :: c :: cs => longArgument draft (c :: cs)
  | '-' :: c :: cs =>
    if c = '-' then .error (.unexpectedArgument text) else shortArgument draft (c :: cs)
  | _ => .error (.unexpectedArgument text)

/-- Whether the argument may be the value of the option before it. -/
def isValue (text : String) : Bool := text == "-" || !text.startsWith "-"

/-- Reads arguments from left to right. -/
def readFrom (draft : Draft) : List String → Except UsageError Request
  | [] => return .compile draft.arguments
  | ["--"] => return .compile draft.arguments
  | text :: rest => do
    match ← argument draft text with
    | .done draft => readFrom draft rest
    | .showHelp => return .showHelp
    | .needsValue draft flag =>
      match rest with
      | [] => throw (.missingValue flag)
      | value :: rest =>
        if isValue value then readFrom (← draft.assign flag value) rest
        else throw (.missingValue flag)

/-- Reads the arguments of the command line. -/
def read (arguments : List String) : Except UsageError Request := readFrom {} arguments

end ClassModel.Command
