import ClassModel.Text.Quoted

/-!
# ClassModel.Summary.Ron

Structured data in the notation RON, laid out over lines: each item and each
field stands on a line of its own, indented by four spaces per level and
followed by a comma. Only an empty list stays on one line.
-/

namespace ClassModel

/-- Structured data. -/
inductive Ron where
  | text (value : String)
  | number (value : Nat)
  /-- A bare word, such as the name of a case. -/
  | word (name : String)
  | list (items : List Ron)
  /-- Named fields in their order. -/
  | fields (fields : List (String × Ron))

namespace Ron

/-- The space in front of a line. -/
def indent (level : Nat) : String := String.join (List.replicate level "    ")

mutual

/-- The text of structured data whose lines after the first stand at the given
level. -/
def renderAt (level : Nat) : Ron → String
  | text value => "\"" ++ Text.escapeString .forBoth value ++ "\""
  | number value => toString value
  | word name => name
  | list [] => "[]"
  | list items => "[\n" ++ renderItems (level + 1) items ++ indent level ++ "]"
  | fields entries => "(\n" ++ renderFields (level + 1) entries ++ indent level ++ ")"

/-- The lines of the items of a list. -/
def renderItems (level : Nat) : List Ron → String
  | [] => ""
  | item :: items => indent level ++ renderAt level item ++ ",\n" ++ renderItems level items

/-- The lines of named fields. -/
def renderFields (level : Nat) : List (String × Ron) → String
  | [] => ""
  | (name, value) :: entries =>
    indent level ++ name ++ ": " ++ renderAt level value ++ ",\n" ++ renderFields level entries

end

/-- The text of structured data. -/
def render (data : Ron) : String := renderAt 0 data

end Ron

end ClassModel
