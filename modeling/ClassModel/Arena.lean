import ClassModel.Text.Quoted

/-!
# ClassModel.Arena

An `Arena` stores items and hands out an `Id` for each. Items are never
removed, so an identifier given out while its item is still incomplete stays
valid once the item is filled in. This is what lets class-likes and generic
parameters refer to each other before their declarations are read.

The main statements say what an operation does to look-up: `get?_insert`,
`get?_modify` and `size_modify`.
-/

namespace ClassModel

/-- Identifies an item of an arena. The label names the kind of item, so that
identifiers of different kinds are different types. -/
structure Id (label : String) where
  index : Nat
  deriving DecidableEq, Inhabited

namespace Id

/-- Identifiers are ordered as they were handed out. -/
instance {label : String} : Ord (Id label) where
  compare a b := compare a.index b.index

/-- The identifier with the kind of item it refers to. -/
def render {label : String} (id : Id label) : String :=
  s!"ID<{label}>({id.index})"

end Id

/-- Items under stable identifiers, in the order of their insertion. -/
structure Arena (label : String) (α : Type) where
  items : Array α := #[]

namespace Arena

variable {label : String} {α : Type}

/-- The arena without items. -/
def empty : Arena label α := {}

instance : Inhabited (Arena label α) := ⟨empty⟩

/-- The number of items. -/
def size (arena : Arena label α) : Nat := arena.items.size

/-- Whether there is no item. -/
def isEmpty (arena : Arena label α) : Bool := arena.items.isEmpty

/-- The identifier that the next item will receive. -/
def nextId (arena : Arena label α) : Id label := ⟨arena.size⟩

/-- Adds an item under the next identifier. -/
def insert (arena : Arena label α) (item : α) : Arena label α :=
  { items := arena.items.push item }

/-- Adds an item that is built from its own identifier. -/
def insertWith (arena : Arena label α) (build : Id label → α) : Arena label α :=
  arena.insert (build arena.nextId)

/-- The item under the identifier, unless the arena never handed it out. -/
def get? (arena : Arena label α) (id : Id label) : Option α := arena.items[id.index]?

/-- Whether the arena handed out the identifier. -/
def contains (arena : Arena label α) (id : Id label) : Bool := id.index < arena.size

/-- Changes the item under the identifier; a foreign identifier changes nothing. -/
def modify (arena : Arena label α) (id : Id label) (change : α → α) : Arena label α :=
  { items := arena.items.modify id.index change }

/-- The identifiers handed out so far, in order. -/
def ids (arena : Arena label α) : List (Id label) := (List.range arena.size).map Id.mk

/-- The items with their identifiers, in order. -/
def entries (arena : Arena label α) : List (Id label × α) :=
  arena.ids.zip arena.items.toList

/-- Why an item could not be fetched. -/
inductive Error where
  /-- The arena never handed out the identifier. -/
  | foreignId
  deriving DecidableEq

/-- The text of the error. -/
def Error.message : Error → String
  | .foreignId => "ID handed out by a different arena"

/-- The item under an identifier that is expected to be valid. -/
def fetch (arena : Arena label α) (id : Id label) : Except Error α :=
  match arena.get? id with
  | some item => .ok item
  | none => .error .foreignId

/-- An arena of texts, as a list of identifiers with their quoted items. -/
def render (arena : Arena label String) : String :=
  let shown := arena.entries.map fun (id, item) => id.render ++ ": " ++ Text.quoteString item
  "\x7b" ++ ", ".intercalate shown ++ "\x7d"

/-! ## Look-up after each operation -/

@[simp] theorem get?_empty (id : Id label) : (empty : Arena label α).get? id = none := by
  simp [empty, get?]

@[simp] theorem size_empty : (empty : Arena label α).size = 0 := rfl

@[simp] theorem size_insert (arena : Arena label α) (item : α) :
    (arena.insert item).size = arena.size + 1 := by
  simp [insert, size]

@[simp] theorem size_modify (arena : Arena label α) (id : Id label) (change : α → α) :
    (arena.modify id change).size = arena.size := by
  simp [modify, size]

/-- An insertion answers for the new identifier only. -/
theorem get?_insert (arena : Arena label α) (item : α) (id : Id label) :
    (arena.insert item).get? id = if id = arena.nextId then some item else arena.get? id := by
  cases id with
  | mk index =>
    by_cases h : index = arena.items.size
    · simp [insert, get?, nextId, size, h]
    · simp [insert, get?, nextId, size, h, Array.getElem?_push]

/-- A change is seen under its identifier only. -/
theorem get?_modify (arena : Arena label α) (id other : Id label) (change : α → α) :
    (arena.modify id change).get? other
      = if id = other then (arena.get? other).map change else arena.get? other := by
  cases id with
  | mk index =>
    cases other with
    | mk index' => simp [modify, get?, Array.getElem?_modify]

/-- Look-up succeeds exactly on the identifiers handed out. -/
theorem isSome_get? (arena : Arena label α) (id : Id label) :
    (arena.get? id).isSome = arena.contains id := by
  by_cases h : id.index < arena.items.size <;> simp [get?, contains, size, h]

theorem mem_ids (arena : Arena label α) (id : Id label) :
    id ∈ arena.ids ↔ arena.contains id = true := by
  cases id
  simp [ids, contains]

end Arena

end ClassModel
