/-!
# ClassModel.Text.Ranges

A character class is given by a table of closed ranges of code points.
`Ranges.covers` decides membership by a walk through the table.
-/

namespace ClassModel.Text

/-- Closed ranges of code points, each as its first and its last member. -/
abbrev Ranges := List (Nat × Nat)

namespace Ranges

/-- Whether one of the ranges holds the code point of the character. -/
def covers (table : Ranges) (c : Char) : Bool :=
  table.any fun range => range.1 ≤ c.toNat && c.toNat ≤ range.2

theorem covers_nil (c : Char) : covers [] c = false := rfl

theorem covers_cons (range : Nat × Nat) (table : Ranges) (c : Char) :
    covers (range :: table) c = (range.1 ≤ c.toNat && c.toNat ≤ range.2 || covers table c) := rfl

theorem covers_iff {table : Ranges} {c : Char} :
    table.covers c = true ↔ ∃ range ∈ table, range.1 ≤ c.toNat ∧ c.toNat ≤ range.2 := by
  simp [covers]

end Ranges

end ClassModel.Text
