import ClassModel.Text.Quoted

/-!
# ClassModel.Report.Log

Where problems are reported to. A `Log` keeps every entry in the order of
reporting and can be emptied into another one; `refuse` accepts none.
-/

namespace ClassModel

/-- The entries reported so far, in order. -/
structure Log (α : Type) where
  entries : Array α := #[]

namespace Log

variable {α : Type}

/-- The log without entries. -/
def empty : Log α := {}

/-- Adds an entry at the end. -/
def report (log : Log α) (entry : α) : Log α := { entries := log.entries.push entry }

/-- The entries in the order of reporting. -/
def toList (log : Log α) : List α := log.entries.toList

/-- The number of entries of the given kind. -/
def count (log : Log α) (matching : α → Bool) : Nat := log.toList.countP matching

/-- Moves every entry to the end of another log, and leaves none: the two logs
afterwards. -/
def moveTo (log target : Log α) : Log α × Log α :=
  (empty, { entries := target.entries ++ log.entries })

@[simp] theorem toList_empty : (empty : Log α).toList = [] := rfl

@[simp] theorem toList_report (log : Log α) (entry : α) :
    (log.report entry).toList = log.toList ++ [entry] := by
  simp [report, toList]

theorem toList_moveTo (log target : Log α) :
    (log.moveTo target).1.toList = [] ∧
      (log.moveTo target).2.toList = target.toList ++ log.toList := by
  simp [moveTo, toList, empty]

/-- A reported entry that was refused. -/
structure Refusal where
  entry : String

/-- Refuses an entry, for work that is expected to report none. -/
def refuse (entry : String) : Except Refusal Unit := .error ⟨entry⟩

/-- The text of a refusal: the quoted entry. -/
def Refusal.message (refusal : Refusal) : String := Text.quoteString refusal.entry

end Log

end ClassModel
