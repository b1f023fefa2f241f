import ClassModel.Walk
import Mathlib.Data.List.Forall2
import Mathlib.Data.List.Nodup
import Mathlib.Data.List.Perm.Subperm

/-!
# ClassModel.Proofs.Segment

Walks along a single successor. A `Segment` lists the nodes that are passed on
the way from one node to another one, or to the end. A walk lists the longest
segment without repetition (`along_eq`), and where no segment leads back to its
start, as on a `Cycle`, every walk comes to the end (`exists_path`). Where some
nodes are given another successor, those cycles are left that pass none of them
(`Redirects.cycle_iff`).
-/

namespace ClassModel.Walk

variable {α β : Type} {next? : α → Option α} {start? stop? : Option α} {node : α}
  {path path' : List α}

/-- The nodes that are passed on the way from the start until the stop is
reached. -/
inductive Segment (next? : α → Option α) (stop? : Option α) : Option α → List α → Prop where
  | nil : Segment next? stop? stop? []
  | cons {node : α} {path : List α} : Segment next? stop? (next? node) path →
      Segment next? stop? (some node) (node :: path)

/-- All nodes from the start on. -/
abbrev Path (next? : α → Option α) : Option α → List α → Prop := Segment next? none

namespace Segment

/-- A segment goes on where it stops. -/
theorem append {stop?' : Option α} (segment : Segment next? stop? start? path)
    (later : Segment next? stop?' stop? path') : Segment next? stop?' start? (path ++ path') := by
  induction segment with
  | nil => exact later
  | cons _ ih => exact .cons ih

/-- A segment passes through each of its nodes. -/
theorem split (segment : Segment next? stop? start? path) (mem : node ∈ path) :
    ∃ before after, path = before ++ node :: after
      ∧ Segment next? (some node) start? before
      ∧ Segment next? stop? (some node) (node :: after) := by
  induction segment with
  | nil => simp at mem
  | @cons first path later ih =>
    rcases List.mem_cons.1 mem with rfl | mem
    · exact ⟨[], path, rfl, .nil, .cons later⟩
    · obtain ⟨before, after, rfl, segment, segment'⟩ := ih mem
      exact ⟨first :: before, after, rfl, .cons segment, segment'⟩

theorem path_unique (segment : Path next? start? path) (segment' : Path next? start? path') :
    path = path' := by
  induction segment generalizing path' with
  | nil =>
    cases segment'
    rfl
  | cons _ ih =>
    cases segment' with
    | cons later => rw [ih later]

/-- What comes to its end repeats no node. -/
theorem path_nodup (segment : Path next? start? path) : path.Nodup := by
  induction segment with
  | nil => exact .nil
  | @cons node path later ih =>
    refine List.nodup_cons.2 ⟨fun mem => ?_, ih⟩
    obtain ⟨before, after, rfl, _, again⟩ := later.split mem
    -- the path from the second visit on would be the whole path
    have same := congrArg List.length (again.path_unique (.cons later))
    simp at same
    omega

/-- The last node of a path has no successor. -/
theorem getLast?_bind (segment : Segment next? stop? start? path) (nonempty : path ≠ []) :
    path.getLast?.bind next? = stop? := by
  induction segment with
  | nil => exact absurd rfl nonempty
  | @cons node path later ih =>
    cases path with
    | nil =>
      show next? node = stop?
      generalize next? node = found at later ⊢
      cases later
      rfl
    | cons second path =>
      rw [List.getLast?_cons_cons]
      exact ih (by simp)

/-- A path has a last node, and that has no successor. -/
theorem exists_getLast? (segment : Path next? (some node) path) :
    ∃ last ∈ path, path.getLast? = some last ∧ next? last = none := by
  have nonempty : path ≠ [] := by
    rintro rfl
    cases segment
  have ends := segment.getLast?_bind nonempty
  obtain ⟨last, found⟩ := Option.ne_none_iff_exists'.1 (mt List.getLast?_eq_none_iff.1 nonempty)
  rw [found, Option.bind_some] at ends
  exact ⟨last, List.mem_of_getLast? found, found, ends⟩

/-- Every node but the last one has a successor. -/
theorem isSome_of_mem_dropLast (segment : Segment next? stop? start? path)
    (mem : node ∈ path.dropLast) : (next? node).isSome := by
  induction segment with
  | nil => simp at mem
  | @cons first path later ih =>
    cases path with
    | nil => simp at mem
    | cons second path =>
      rw [List.dropLast_cons_cons, List.mem_cons] at mem
      rcases mem with rfl | mem
      · generalize next? node = found at later ⊢
        cases later
        rfl
      · exact ih mem

/-- A segment without repetition is no longer than the nodes that have a
successor, and one. -/
theorem length_le (segment : Segment next? stop? start? path) (nodup : path.Nodup)
    {nodes : List α} (inside : ∀ node, (next? node).isSome → node ∈ nodes) :
    path.length ≤ nodes.length + 1 := by
  have sub :
      path.dropLast ⊆ nodes := fun node mem => inside node (segment.isSome_of_mem_dropLast mem)
  have le := (List.subperm_of_subset (nodup.sublist (List.dropLast_sublist path)) sub).length_le
  rw [List.length_dropLast] at le
  omega

/-- A segment is one of related nodes as well, if their successors are
related. -/
theorem related {next?' : β → Option β} {r : α → β → Prop} {start?' : Option β}
    (segment : Segment next? stop? start? path) (start : Option.Rel r start? start?')
    (step : ∀ a b, r a b → Option.Rel r (next? a) (next?' b)) :
    ∃ stop?' path', Segment next?' stop?' start?' path' ∧ List.Forall₂ r path path'
      ∧ Option.Rel r stop? stop?' := by
  induction segment generalizing start?' with
  | nil => exact ⟨start?', [], .nil, .nil, start⟩
  | cons _ ih =>
    cases start with
    | some first =>
      obtain ⟨stop?', path', later, all, stop⟩ := ih (step _ _ first)
      exact ⟨stop?', _ :: path', .cons later, .cons first all, stop⟩

/-- A segment is one of images as well, if the successor of an image is the image
of the successor. -/
theorem map {next?' : β → Option β} {f : α → β} (segment : Segment next? stop? start? path)
    (step : ∀ node, next?' (f node) = (next? node).map f) :
    Segment next?' (stop?.map f) (start?.map f) (path.map f) := by
  induction segment with
  | nil => exact .nil
  | @cons node path _ ih =>
    refine .cons ?_
    rw [step]
    exact ih

/-- What holds of the start and is kept by each step holds of all nodes. -/
theorem forall_mem {p : α → Prop} (segment : Segment next? stop? start? path)
    (start : ∀ node ∈ start?, p node)
    (step : ∀ node, p node → ∀ successor ∈ next? node, p successor) : ∀ node ∈ path, p node := by
  induction segment with
  | nil => simp
  | @cons node path _ ih =>
    rw [List.forall_mem_cons]
    exact ⟨start node rfl, ih (step node (start node rfl))⟩

/-- A segment that avoids the changed nodes stays one. -/
theorem congr {next?' : α → Option α} (segment : Segment next? stop? start? path)
    (same : ∀ node ∈ path, next?' node = next? node) : Segment next?' stop? start? path := by
  induction segment with
  | nil => exact .nil
  | @cons node path later ih =>
    refine .cons ?_
    rw [same node (by simp)]
    exact ih fun node mem => same node (by simp [mem])

end Segment

/-! ## Walks -/

section Along

variable [BEq α] [LawfulBEq α]

/-- A walk lists a segment until there is no successor or the successor is
listed already. -/
theorem along_eq_append {bound : Nat} {listed : List α}
    (segment : Segment next? stop? start? path) (nodup : (listed ++ path).Nodup)
    (within : path.length ≤ bound) (stops : ∀ node ∈ stop?, node ∈ listed ++ path) :
    along next? bound listed start? = listed ++ path := by
  induction segment generalizing bound listed with
  | nil =>
    rw [List.append_nil] at stops ⊢
    cases bound with
    | zero => rfl
    | succ bound =>
      cases stop? with
      | none => rfl
      | some node => rw [along, if_pos (List.contains_iff_mem.2 (stops node rfl))]
  | @cons node path later ih =>
    cases bound with
    | zero => simp at within
    | succ bound =>
      have new : node ∉ listed := fun mem =>
        (List.nodup_append.1 nodup).2.2 node mem node (by simp) rfl
      rw [along, if_neg (by simpa using new)]
      simp only [List.append_cons listed node path] at nodup stops ⊢
      exact ih nodup (by simpa using within) stops

theorem along_eq {bound : Nat} (segment : Segment next? stop? start? path) (nodup : path.Nodup)
    (within : path.length ≤ bound) (stops : ∀ node ∈ stop?, node ∈ path) :
    along next? bound [] start? = path :=
  along_eq_append segment nodup within stops

end Along

/-! ## Cycles -/

/-- The way from a node back to itself, which passes each node once. The path holds
the other nodes. -/
def Cycle (next? : α → Option α) (node : α) (path : List α) : Prop :=
  Segment next? (some node) (some node) (node :: path) ∧ (node :: path).Nodup

namespace Cycle

/-- On a cycle, each node has a successor. -/
theorem isSome (cycle : Cycle next? node path) : (next? node).isSome := by
  obtain ⟨segment, _⟩ := cycle
  cases segment with
  | cons later =>
    generalize next? node = successor? at later ⊢
    cases later <;> rfl

/-- A cycle leads from each of its nodes back to it. -/
theorem rotate {other : α} (cycle : Cycle next? node path) (mem : other ∈ node :: path) :
    ∃ path', Cycle next? other path' ∧ (other :: path').Perm (node :: path) := by
  obtain ⟨segment, nodup⟩ := cycle
  obtain ⟨before, after, same, first, second⟩ := segment.split mem
  have perm : (other :: (after ++ before)).Perm (node :: path) := by
    rw [same, ← List.cons_append]
    exact List.perm_append_comm
  exact ⟨after ++ before, ⟨second.append first, perm.nodup_iff.2 nodup⟩, perm⟩

/-- There is one way back only. -/
theorem unique (cycle : Cycle next? node path) (cycle' : Cycle next? node path') :
    path = path' := by
  -- Without the node on them, both ways stop at it the first time.
  have same {start? : Option α} {path path' : List α}
      (segment : Segment next? (some node) start? path) (new : node ∉ path)
      (segment' : Segment next? (some node) start? path') (new' : node ∉ path') : path = path' := by
    induction segment generalizing path' with
    | nil =>
      cases segment' with
      | nil => rfl
      | cons _ => simp at new'
    | cons _ ih =>
      cases segment' with
      | nil => simp at new
      | cons later =>
        rw [ih (fun mem => new (by simp [mem])) later fun mem => new' (by simp [mem])]
  obtain ⟨segment, nodup⟩ := cycle
  obtain ⟨segment', nodup'⟩ := cycle'
  cases segment with
  | cons later =>
    cases segment' with
    | cons later' =>
      exact same later (List.nodup_cons.1 nodup).1 later' (List.nodup_cons.1 nodup').1

end Cycle

/-- Among the nodes inside, the redirected ones have the top as their new
successor, above which there is nothing. -/
structure Redirects (inside redirected : α → Prop) (top : α) (next? next?' : α → Option α) :
    Prop where
  changed {node : α} : redirected node → next?' node = some top
  kept {node : α} : inside node → ¬ redirected node → next?' node = next? node
  closed {node successor : α} : inside node → next? node = some successor → inside successor
  inside_top : inside top
  ends : next? top = none
  top_kept : ¬ redirected top

namespace Redirects

variable {inside redirected : α → Prop} {top : α} {next?' : α → Option α}

theorem ends_after (redirects : Redirects inside redirected top next? next?') :
    next?' top = none :=
  (redirects.kept redirects.inside_top redirects.top_kept).trans redirects.ends

theorem inside_successor (redirects : Redirects inside redirected top next? next?')
    {node successor : α} (mem : inside node) (found : next?' node = some successor) :
    inside successor := by
  by_cases changed : redirected node
  · cases (redirects.changed changed).symm.trans found
    exact redirects.inside_top
  · exact redirects.closed mem ((redirects.kept mem changed).symm.trans found)

/-- The cycles that are left pass no redirected node. -/
theorem cycle_iff (redirects : Redirects inside redirected top next? next?') {node : α}
    {path : List α} (mem : inside node) : Cycle next?' node path
      ↔ Cycle next? node path ∧ ∀ other ∈ node :: path, ¬ redirected other := by
  constructor
  · intro cycle
    have all : ∀ other ∈ node :: path, inside other :=
      cycle.1.forall_mem (fun _ first => Option.some.inj first ▸ mem)
        fun _ mem _ => redirects.inside_successor mem
    have avoids : ∀ other ∈ node :: path, ¬ redirected other := by
      intro other mem changed
      obtain ⟨path', ⟨segment, _⟩, _⟩ := cycle.rotate mem
      -- The successor is the top, and nothing follows that.
      cases segment with
      | cons later =>
        rw [redirects.changed changed] at later
        cases later with
        | nil => exact redirects.top_kept changed
        | cons later =>
          rw [redirects.ends_after] at later
          cases later
    exact ⟨⟨cycle.1.congr fun other mem => (redirects.kept (all other mem) (avoids other mem)).symm,
      cycle.2⟩, avoids⟩
  · rintro ⟨cycle, avoids⟩
    have all : ∀ other ∈ node :: path, inside other :=
      cycle.1.forall_mem (fun _ first => Option.some.inj first ▸ mem)
        fun _ mem _ => redirects.closed mem
    exact ⟨cycle.1.congr fun other mem => redirects.kept (all other mem) (avoids other mem),
      cycle.2⟩

end Redirects

/-! ## The end of a walk -/

variable {size : Nat}

/-- Where segments without repetition are not arbitrarily long, one of them
leads to the end or to one of its nodes. -/
theorem exists_segment
    (bounded : ∀ path stop?, Segment next? stop? start? path → path.Nodup → path.length ≤ size) :
    ∃ path stop?, Segment next? stop? start? path ∧ path.Nodup ∧ ∀ node ∈ stop?, node ∈ path := by
  have longer (n : Nat) : (∃ path stop?, Segment next? stop? start? path ∧ path.Nodup
        ∧ ∀ node ∈ stop?, node ∈ path)
      ∨ ∃ path stop?, Segment next? stop? start? path ∧ path.Nodup ∧ path.length = n := by
    induction n with
    | zero => exact .inr ⟨[], start?, .nil, .nil, rfl⟩
    | succ n ih =>
      rcases ih with found | ⟨path, stop?, segment, nodup, length⟩
      · exact .inl found
      · cases stop? with
        | none => exact .inl ⟨path, none, segment, nodup, by simp⟩
        | some node =>
          by_cases mem : node ∈ path
          · exact .inl ⟨path, some node, segment, nodup, by simpa using mem⟩
          · refine .inr
              ⟨path ++ [node], next? node, segment.append (.cons .nil), ?_, by simp [length]⟩
            simpa using nodup.concat mem
  rcases longer (size + 1) with found | ⟨path, stop?, segment, nodup, length⟩
  · exact found
  · have := bounded path stop? segment nodup
    omega

/-- Where no cycle is in reach, a walk comes to the end. -/
theorem exists_path
    (bounded : ∀ path stop?, Segment next? stop? start? path → path.Nodup → path.length ≤ size)
    (straight : ∀ node before after, Segment next? (some node) start? before →
      ¬ Cycle next? node after) :
    ∃ path, Path next? start? path := by
  obtain ⟨path, stop?, segment, nodup, stops⟩ := exists_segment bounded
  cases stop? with
  | none => exact ⟨path, segment⟩
  | some node =>
    obtain ⟨before, after, rfl, first, loop⟩ := segment.split (stops node rfl)
    exact absurd ⟨loop, (List.nodup_append.1 nodup).2.1⟩ (straight node before after first)

/-! ## Orders -/

/-- Each node stands after its successor, and stands once. -/
inductive Ordered (next? : α → Option α) : List α → Prop where
  | nil : Ordered next? []
  | snoc {order : List α} {node : α} : Ordered next? order → node ∉ order →
      (∀ above ∈ next? node, above ∈ order) → Ordered next? (order ++ [node])

namespace Ordered

variable {order : List α}

theorem nodup (ordered : Ordered next? order) : order.Nodup := by
  induction ordered with
  | nil => exact .nil
  | snoc _ new _ ih => simpa using ih.concat new

theorem mem_of_next? (ordered : Ordered next? order) {above : α} (mem : node ∈ order)
    (found : next? node = some above) : above ∈ order := by
  induction ordered with
  | nil => simp at mem
  | snoc _ _ first ih =>
    rcases List.mem_append.1 mem with mem | mem
    · exact List.mem_append_left _ (ih mem)
    · obtain rfl := List.mem_singleton.1 mem
      exact List.mem_append_left _ (first above found)

/-- From each node there is a way to the end. -/
theorem exists_path (ordered : Ordered next? order) (mem : node ∈ order) :
    ∃ path, Path next? (some node) path := by
  induction ordered generalizing node with
  | nil => simp at mem
  | @snoc order last ordered new first ih =>
    rcases List.mem_append.1 mem with mem | mem
    · exact ih mem
    · obtain rfl := List.mem_singleton.1 mem
      cases found : next? node with
      | none => exact ⟨[node], .cons (found ▸ .nil)⟩
      | some above =>
        obtain ⟨path, segment⟩ := ih (first above found)
        exact ⟨node :: path, .cons (found ▸ segment)⟩

theorem map {next?' : β → Option β} {f : α → β} (ordered : Ordered next? order)
    (step : ∀ node ∈ order, next?' (f node) = (next? node).map f)
    (inj : ∀ a ∈ order, ∀ b ∈ order, f a = f b → a = b) : Ordered next?' (order.map f) := by
  induction ordered with
  | nil => exact .nil
  | @snoc order node ordered new first ih =>
    rw [List.map_append]
    refine .snoc (ih (fun node mem => step node (by simp [mem]))
      fun a mem b mem' => inj a (by simp [mem]) b (by simp [mem'])) ?_ fun above found => ?_
    · intro mem
      obtain ⟨other, mem, same⟩ := List.mem_map.1 mem
      exact new (inj other (by simp [mem]) node (by simp) same ▸ mem)
    · rw [step node (by simp)] at found
      obtain ⟨above, found', rfl⟩ := Option.map_eq_some_iff.1 found
      exact List.mem_map_of_mem (first above found')

/-- A path to the end joins an order with its last nodes first. -/
theorem append_path [BEq α] [LawfulBEq α] (ordered : Ordered next? order)
    (segment : Path next? start? path) :
    Ordered next? (order ++ path.reverse.filter (!order.contains ·))
      ∧ ∀ node ∈ path, node ∈ order ++ path.reverse.filter (!order.contains ·) := by
  induction segment with
  | nil => exact ⟨by simpa using ordered, by simp⟩
  | @cons node path later ih =>
    obtain ⟨ordered', all⟩ := ih
    have nodup : (node :: path).Nodup := (Segment.cons later).path_nodup
    rw [List.reverse_cons, List.filter_append, ← List.append_assoc]
    by_cases mem : node ∈ order
    · have empty : [node].filter (!order.contains ·) = [] := by simp [mem]
      rw [empty, List.append_nil]
      refine ⟨ordered', fun other mem' => ?_⟩
      rcases List.mem_cons.1 mem' with rfl | mem'
      · exact List.mem_append_left _ mem
      · exact all other mem'
    · have kept : [node].filter (!order.contains ·) = [node] := by simp [mem]
      rw [kept]
      refine ⟨.snoc ordered' ?_ fun above found => ?_, fun other mem' => ?_⟩
      · simp [mem, (List.nodup_cons.1 nodup).1]
      · rw [found] at later
        cases later
        exact all above (by simp)
      · rcases List.mem_cons.1 mem' with rfl | mem'
        · simp
        · exact List.mem_append_left _ (all other mem')

end Ordered

end ClassModel.Walk
