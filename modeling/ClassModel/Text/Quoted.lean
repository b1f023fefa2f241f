import ClassModel.Text.Extending
import ClassModel.Text.Printable

/-!
# ClassModel.Text.Quoted

Quoted texts, written so that they show what they hold:

1. NUL, tab, line feed, carriage return and the backslash have short escapes;
2. a quote is escaped where the `Escaping` asks for it;
3. a character that attaches to its neighbour or is unprintable is given by
   its code point, in hexadecimal between braces;
4. every other character stands for itself.
-/

namespace ClassModel.Text

/-- Which of the two quotes are escaped. -/
structure Escaping where
  single : Bool
  double : Bool
  deriving Repr, DecidableEq

namespace Escaping

/-- Inside double quotes only the double quote is escaped. -/
def forString : Escaping := ⟨false, true⟩

/-- Inside single quotes only the single quote is escaped. -/
def forChar : Escaping := ⟨true, false⟩

/-- Both quotes are escaped, whichever surrounds the text. -/
def forBoth : Escaping := ⟨true, true⟩

end Escaping

/-- The code point in hexadecimal, as `\u` with braces. -/
def codePointEscape (c : Char) : String :=
  "\\u\x7b" ++ String.ofList (Nat.toDigits 16 c.toNat) ++ "\x7d"

/-- One character of a quoted text. -/
def escapeChar (escaping : Escaping) (c : Char) : String :=
  match c with
  | '\x00' => "\\0"
  | '\t' => "\\t"
  | '\n' => "\\n"
  | '\r' => "\\r"
  | '\\' => "\\\\"
  | '\'' => if escaping.single then "\\'" else "'"
  | '"' => if escaping.double then "\\\"" else "\""
  | c => if isExtending c || !isPrintable c then codePointEscape c else c.toString

/-- The characters of a text, each escaped. -/
def escapeString (escaping : Escaping) (s : String) : String :=
  String.join (s.toList.map (escapeChar escaping))

/-- A text between double quotes. -/
def quoteString (s : String) : String := "\"" ++ escapeString .forString s ++ "\""

/-- A character between single quotes. -/
def quoteChar (c : Char) : String := "'" ++ escapeChar .forChar c ++ "'"

end ClassModel.Text
