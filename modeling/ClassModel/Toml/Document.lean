import ClassModel.Toml.Scalar
import ClassModel.Toml.Text

/-!
# ClassModel.Toml.Document

TOML documents. Each line sets a key, opens a table or holds nothing; the
values in brackets may span lines as far as the format allows.
-/

namespace ClassModel.Toml

/-! ## Values -/

mutual

/-- Reads a value whose brackets and braces are at most as deep as the first
number says; the second one bounds the steps of the reading. -/
def valueWithin : Nat → Nat → Reader Toml
  | _, 0, _ => none
  | depth, bound + 1, cs =>
    match depth, cs with
    | 0, '[' :: _ | 0, '{' :: _ => none
    | depth + 1, '[' :: rest => do
      let (items, rest) ← itemsWithin depth bound rest
      return (.array items, rest)
    | depth + 1, '{' :: rest =>
      match skipBlanks rest with
      | '}' :: rest => some (.inlineTable [], rest)
      | rest => do
        let (entries, rest) ← pairsWithin depth bound [] rest
        return (.inlineTable entries, rest)
    | _, cs =>
      match quotedBlock cs <|> quotedLine cs with
      | some (content, rest) => some (.text content, rest)
      | none => (scalar? (word cs).1).map (·, (word cs).2)

/-- Reads the items of an array up to its closing bracket. -/
def itemsWithin : Nat → Nat → Reader (List Toml)
  | _, 0, _ => none
  | depth, bound + 1, cs =>
    match skipLines cs.length cs with
    | ']' :: rest => some ([], rest)
    | cs => do
      let (item, rest) ← valueWithin depth bound cs
      match skipLines rest.length rest with
      | ',' :: rest => do
        let (items, rest) ← itemsWithin depth bound rest
        return (item :: items, rest)
      | ']' :: rest => return ([item], rest)
      | _ => none

/-- Reads the entries of an inline table up to its closing brace. -/
def pairsWithin : Nat → Nat → Entries → Reader Entries
  | _, 0, _, _ => none
  | depth, bound + 1, entries, cs => do
    let (path, rest) ← keyPath cs
    let rest ← match rest with
      | '=' :: rest => some (skipBlanks rest)
      | _ => none
    let (item, rest) ← valueWithin depth bound rest
    let entries ← entries.set? item path
    match skipBlanks rest with
    | ',' :: rest => pairsWithin depth bound entries rest
    | '}' :: rest => return (entries, rest)
    | _ => none

end

/-- Reads a value. -/
def value : Reader Toml := fun cs => valueWithin maxDepth (cs.length + 1) cs

/-! ## Lines -/

/-- The part of a document that is read: its entries, and the header that the
next keys belong to. -/
structure Draft where
  entries : Entries := []
  header : List String := []

/-- Reads a header in the given number of brackets, and opens its table. -/
def headerLine (brackets : Nat) (draft : Draft) : Reader Draft := fun cs => do
  let (path, rest) ← keyPath cs
  if rest.take brackets != List.replicate brackets ']' then none
  let key ← path.getLast?
  let change := if brackets = 1 then Entries.open? key else Entries.openNext? key
  let entries ← draft.entries.update? change path.dropLast
  return (⟨entries, path⟩, rest.drop brackets)

/-- Reads a key with its value, and sets it. -/
def pairLine (draft : Draft) : Reader Draft := fun cs => do
  let (path, rest) ← keyPath cs
  let rest ← match rest with
    | '=' :: rest => some (skipBlanks rest)
    | _ => none
  let (item, rest) ← value rest
  let entries ← draft.entries.update? (Entries.set? item path) draft.header
  return ({ draft with entries }, rest)

/-- Reads the lines of a document; the number bounds their count. -/
def lines : Nat → Draft → List Char → Option Draft
  | 0, _, _ => none
  | bound + 1, draft, cs =>
    match skipBlanks cs with
    | [] => some draft
    | start => do
      let (draft, rest) ← match start with
        | '[' :: '[' :: rest => headerLine 2 draft rest
        | '[' :: rest => headerLine 1 draft rest
        | '#' :: _ | '\n' :: _ | '\r' :: _ => some (draft, start)
        | start => pairLine draft start
      match ← lineEnd? rest with
      | [] => return draft
      | rest => lines bound draft rest

/-- The entries of a document, unless its text violates the format. A byte
order mark in front of it does not count. -/
def document? (text : String) : Option Entries :=
  let cs := match text.toList with
    | '\uFEFF' :: rest => rest
    | cs => cs
  (lines (cs.length + 1) {} cs).map (·.entries)

end ClassModel.Toml
