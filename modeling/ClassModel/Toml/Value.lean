/-!
# ClassModel.Toml.Value

The values of a TOML document, and the rules by which its lines build up
tables. A table may be opened once, by a header or by dotted keys; a table that
only stands above an opened one may still be opened itself. Inline tables and
arrays in brackets are complete as they are written.
-/

namespace ClassModel

/-- How a table came into a document. -/
inductive TableOrigin where
  /-- It stands above a table that a header opened. -/
  | implied
  /-- A header opened it. -/
  | header
  /-- Dotted keys opened it. -/
  | dotted
  deriving DecidableEq, Repr

/-- A value of a TOML document. Floats, dates and times are only told apart
from other values. -/
inductive Toml where
  | text (value : String)
  | integer (value : Int)
  | boolean (value : Bool)
  | float
  | moment
  | array (items : List Toml)
  | inlineTable (entries : List (String × Toml))
  | table (origin : TableOrigin) (entries : List (String × Toml))
  /-- The tables that array headers of one name opened, the last one first. -/
  | tables (items : List (List (String × Toml)))

namespace Toml

/-- The entries of a table, in the order of their first mention. -/
abbrev Entries := List (String × Toml)

/-- Replaces the value of a key that is there. -/
def Entries.replace (entries : Entries) (key : String) (value : Toml) : Entries :=
  entries.map fun entry => if entry.1 == key then (key, value) else entry

/-- The entries that a dotted key leads into, and how to put them back. A key is
set only in tables that dotted keys opened; on the way there they may pass an
implied table, and the last of the tables under one array header. -/
def dottedInto? (isLast : Bool) : Toml → Option (Entries × (Entries → Toml))
  | table .dotted inner => some (inner, table .dotted)
  | table .implied inner => if isLast then none else some (inner, table .implied)
  | tables (last :: others) =>
    if isLast then none else some (last, fun last => tables (last :: others))
  | _ => none

/-- The entries that a key of a header leads into, and how to put them back: of
several tables under one array header the last one is meant. -/
def headerInto? : Toml → Option (Entries × (Entries → Toml))
  | table origin inner => some (inner, table origin)
  | tables (last :: others) => some (last, fun last => tables (last :: others))
  | _ => none

/-- Sets a key, possibly behind dotted keys. A key is set once. -/
def Entries.set? (value : Toml) : List String → Entries → Option Entries
  | [], _ => none
  | [key], entries =>
    if (entries.lookup key).isSome then none else some (entries ++ [(key, value)])
  | key :: path, entries =>
    match entries.lookup key with
    | none => do
      let inner ← set? value path []
      return entries ++ [(key, .table .dotted inner)]
    | some found => do
      let (inner, rebuild) ← found.dottedInto? (path.length = 1)
      let inner ← set? value path inner
      return entries.replace key (rebuild inner)

/-- Changes the table that a header path leads to. Tables on the way that are
not there yet are implied. -/
def Entries.update? (change : Entries → Option Entries) : List String → Entries → Option Entries
  | [], entries => change entries
  | key :: path, entries =>
    match entries.lookup key with
    | none => do
      let inner ← update? change path []
      return entries ++ [(key, .table .implied inner)]
    | some found => do
      let (inner, rebuild) ← found.headerInto?
      let inner ← update? change path inner
      return entries.replace key (rebuild inner)

/-- Opens the table of a header. -/
def Entries.open? (key : String) (entries : Entries) : Option Entries :=
  match entries.lookup key with
  | none => some (entries ++ [(key, .table .header [])])
  | some (.table .implied inner) => some (entries.replace key (.table .header inner))
  | some _ => none

/-- Opens a further table of an array header. -/
def Entries.openNext? (key : String) (entries : Entries) : Option Entries :=
  match entries.lookup key with
  | none => some (entries ++ [(key, .tables [[]])])
  | some (.tables items) => some (entries.replace key (.tables ([] :: items)))
  | some _ => none

end Toml

end ClassModel
