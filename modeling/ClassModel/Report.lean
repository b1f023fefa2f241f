/-!
# ClassModel.Report

What is told to a user about a problem: a message with a severity, the
signature that was being read, and a help text. A report is written plain or
with the escape codes of a terminal.
-/

namespace ClassModel

/-- How grave a problem is. -/
inductive Severity where
  /-- The produced model is only approximate. -/
  | error
  /-- The produced model is not affected. -/
  | warning
  | info
  deriving DecidableEq, Repr

/-- A rendered problem. -/
structure Report where
  message : String
  severity : Severity
  /-- The signature that was being read. -/
  signature? : Option String := none
  /-- What to do about the problem, or what was done. -/
  help? : Option String := none
  deriving DecidableEq, Repr

/-! ## Terminal styles -/

/-- A terminal style, as the codes that switch it on. -/
structure TextStyle where
  codes : String

namespace TextStyle

/-- The code that switches every style off. -/
def reset : String := "\x1b[0m"

def bold : TextStyle := ⟨"1"⟩

def boldBrightRed : TextStyle := ⟨"1;91"⟩

def boldBrightGreen : TextStyle := ⟨"1;92"⟩

def boldBrightYellow : TextStyle := ⟨"1;93"⟩

def boldBrightBlue : TextStyle := ⟨"1;94"⟩

/-- The text that switches the style on. -/
def start (style : TextStyle) : String := "\x1b[" ++ style.codes ++ "m"

/-- A text in the style. Where the text itself switches all styles off, the
style is switched on again. -/
def apply (style : TextStyle) (text : String) : String :=
  style.start ++ text.replace reset (reset ++ style.start) ++ reset

/-- A text in the style if colours are wanted. -/
def applyIf (colored : Bool) (style : TextStyle) (text : String) : String :=
  if colored then style.apply text else text

end TextStyle

/-! ## Rendering -/

namespace Severity

/-- The tag in front of a message. -/
def tag : Severity → String
  | error => "[error]"
  | warning => "[warning]"
  | info => "[info]"

/-- The style of the tag. -/
def style : Severity → TextStyle
  | error => .boldBrightRed
  | warning => .boldBrightYellow
  | info => .boldBrightGreen

end Severity

/-- The text of a report: the tagged message, then a line each for the
signature and for the help. -/
def Report.render (colored : Bool) (report : Report) : String :=
  let tagged := report.severity.style.applyIf colored report.severity.tag
    ++ " " ++ TextStyle.bold.applyIf colored report.message
  let signature := match report.signature? with
    | some text =>
      "\n  " ++ TextStyle.boldBrightBlue.applyIf colored "-->" ++ " \x60" ++ text ++ "\x60"
    | none => ""
  let help := match report.help? with
    | some text => "\n  " ++ TextStyle.bold.applyIf colored "help:" ++ " " ++ text
    | none => ""
  tagged ++ signature ++ help

end ClassModel
