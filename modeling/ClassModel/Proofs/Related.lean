import Mathlib.Data.List.Forall2
import Mathlib.Data.List.Nodup

/-!
# ClassModel.Proofs.Related

Lists that are related member by member, where the relation is known to be
useful for the members of the lists only. This is how what holds of the
arguments of an instantiation is put together.
-/

namespace ClassModel.Related

variable {α β γ δ : Type} {r r' : α → β → Prop} {xs : List α} {ys ys' : List β}

/-- Lists are related to one list only, if each of its members is related to
nothing else. -/
theorem unique (h : List.Forall₂ r xs ys) (h' : List.Forall₂ r xs ys')
    (step : ∀ y ∈ ys, ∀ x y', r x y → r x y' → y = y') : ys = ys' := by
  induction h generalizing ys' with
  | nil =>
    cases h'
    rfl
  | cons first later ih =>
    cases h' with
    | cons first' later' =>
      rw [step _ (by simp) _ _ first first', ih later' fun y mem => step y (by simp [mem])]

/-- Related lists are related in another way as well, if that holds of their
members. -/
theorem imp (h : List.Forall₂ r xs ys) (step : ∀ y ∈ ys, ∀ x, r x y → r' x y) :
    List.Forall₂ r' xs ys := by
  induction h with
  | nil => exact .nil
  | cons first later ih =>
    exact .cons (step _ (by simp) _ first) (ih fun y mem => step y (by simp [mem]))

theorem exists_of_mem {y : β} (h : List.Forall₂ r xs ys) (mem : y ∈ ys) : ∃ x ∈ xs, r x y := by
  induction h with
  | nil => simp at mem
  | cons first later ih =>
    rcases List.mem_cons.1 mem with rfl | mem
    · exact ⟨_, by simp, first⟩
    · obtain ⟨x, mem, related⟩ := ih mem
      exact ⟨x, by simp [mem], related⟩

/-- The members at the same place are related. -/
theorem exists_getElem? {i : Nat} {y : β} (h : List.Forall₂ r xs ys) (found : ys[i]? = some y) :
    ∃ x, xs[i]? = some x ∧ r x y := by
  induction h generalizing i with
  | nil => simp at found
  | cons first later ih =>
    cases i with
    | zero =>
      cases found
      exact ⟨_, rfl, first⟩
    | succ i => exact ih found

/-- Related lists stay related when one place of the second changes. -/
theorem modify {place : Nat} {change : β → β} (h : List.Forall₂ r xs ys)
    (step : ∀ i x y, xs[i]? = some x → r x y → r' x (if place = i then change y else y)) :
    List.Forall₂ r' xs (ys.modify place change) := by
  rw [List.forall₂_iff_get] at h ⊢
  obtain ⟨length, related⟩ := h
  refine ⟨by simpa using length, fun i inside inside' => ?_⟩
  have inside'' : i < ys.length := by simpa using inside'
  simpa [List.getElem_modify] using
    step i _ _ (List.getElem?_eq_getElem inside) (related i inside inside'')

/-- Related lists stay related when their members change by their places. -/
theorem mapIdx {r' : γ → δ → Prop} {f : Nat → α → γ} {g : Nat → β → δ} (h : List.Forall₂ r xs ys)
    (step : ∀ i x y, xs[i]? = some x → r x y → r' (f i x) (g i y)) :
    List.Forall₂ r' (xs.mapIdx f) (ys.mapIdx g) := by
  rw [List.forall₂_iff_get] at h ⊢
  obtain ⟨length, related⟩ := h
  refine ⟨by simpa using length, fun i inside inside' => ?_⟩
  rw [List.length_mapIdx] at inside inside'
  simpa using step i _ _ (List.getElem?_eq_getElem inside) (related i inside inside')

/-- Lists that are related to the same list are related to each other. -/
theorem join {q : α → γ → Prop} {r' : γ → β → Prop} {zs : List γ} (h : List.Forall₂ r xs ys)
    (h' : List.Forall₂ r' zs ys) (step : ∀ y ∈ ys, ∀ x z, r x y → r' z y → q x z) :
    List.Forall₂ q xs zs := by
  induction h generalizing zs with
  | nil =>
    cases h'
    exact .nil
  | cons first later ih =>
    cases h' with
    | cons first' later' =>
      exact .cons (step _ (by simp) _ _ first first')
        (ih later' fun y mem => step y (by simp [mem]))

/-- Of lists that are related to the same list, one is computed from the other,
if that holds of their members. -/
theorem eq_map {r' : γ → β → Prop} {f : α → γ} {zs : List γ} (h : List.Forall₂ r xs ys)
    (h' : List.Forall₂ r' zs ys) (step : ∀ x y z, r x y → r' z y → z = f x) : zs = xs.map f := by
  induction h generalizing zs with
  | nil =>
    cases h'
    rfl
  | cons first later ih =>
    cases h' with
    | cons first' later' => rw [List.map_cons, step _ _ _ first first', ih later']

theorem optional_eq_map {r' : γ → β → Prop} {f : α → γ} {x? : Option α} {y? : Option β}
    {z? : Option γ} (h : Option.Rel r x? y?) (h' : Option.Rel r' z? y?)
    (step : ∀ x y z, r x y → r' z y → z = f x) : z? = x?.map f := by
  cases h with
  | none =>
    cases h'
    rfl
  | some related =>
    cases h' with
    | some related' => rw [Option.map_some, step _ _ _ related related']

/-- Something is computed from each member, if it is computed from related
members. -/
theorem exists_mapM {q : γ → β → Prop} {f : α → Option γ} (h : List.Forall₂ r xs ys)
    (step : ∀ y ∈ ys, ∀ x, r x y → ∃ z, f x = some z ∧ q z y) :
    ∃ zs, xs.mapM f = some zs ∧ List.Forall₂ q zs ys := by
  induction h with
  | nil => exact ⟨[], rfl, .nil⟩
  | cons first later ih =>
    obtain ⟨z, computed, related⟩ := step _ (by simp) _ first
    obtain ⟨zs, all, relatedAll⟩ := ih fun y mem => step y (by simp [mem])
    exact ⟨z :: zs, by simp [List.mapM_cons, computed, all], .cons related relatedAll⟩

theorem optional {x? : Option α} {y? : Option β} (h : Option.Rel r x? y?)
    (step : ∀ x y, r x y → r' x y) : Option.Rel r' x? y? := by
  cases h with
  | none => exact .none
  | some related => exact .some (step _ _ related)

/-- What is related to a value, and to what is made of it, is related. -/
theorem optional_join {q : α → γ → Prop} {r' : γ → δ → Prop} {f : β → δ} {x? : Option α}
    {y? : Option β} {z? : Option γ} (h : Option.Rel r x? y?) (h' : Option.Rel r' z? (y?.map f))
    (step : ∀ y ∈ y?, ∀ x z, r x y → r' z (f y) → q x z) : Option.Rel q x? z? := by
  cases h with
  | none =>
    cases h'
    exact .none
  | some related =>
    cases h' with
    | some related' => exact .some (step _ rfl _ _ related related')

theorem optional_flip {x? : Option α} {y? : Option β} (h : Option.Rel r x? y?) :
    Option.Rel (fun y x => r x y) y? x? := by
  cases h with
  | none => exact .none
  | some related => exact .some related

theorem toList {x? : Option α} {y? : Option β} (h : Option.Rel r x? y?) :
    List.Forall₂ r x?.toList y?.toList := by
  cases h with
  | none => exact .nil
  | some related => exact .cons related .nil

theorem isNone_eq {x? : Option α} {y? : Option β} (h : Option.Rel r x? y?) :
    x?.isNone = y?.isNone := by
  cases h <;> rfl

/-- What is the same for related members is the same for related lists. -/
theorem map_eq {f : α → γ} {g : β → γ} (h : List.Forall₂ r xs ys)
    (step : ∀ y ∈ ys, ∀ x, r x y → f x = g y) : xs.map f = ys.map g := by
  induction h with
  | nil => rfl
  | cons first later ih =>
    rw [List.map_cons, List.map_cons, step _ (by simp) _ first,
      ih fun y mem => step y (by simp [mem])]

/-- Members of related lists are the same if what identifies them is. -/
theorem inj {f : α → γ} {g : β → γ} (h : List.Forall₂ r xs ys)
    (step : ∀ x y, r x y → f x = g y) (nodup : (ys.map g).Nodup) {x x' : α} (mem : x ∈ xs)
    (mem' : x' ∈ xs) (same : f x = f x') : x = x' := by
  rw [← map_eq h fun y _ x => step x y] at nodup
  exact List.inj_on_of_nodup_map nodup mem mem' same

/-- Related lists have a member with a property, if that holds of their
members. -/
theorem any_eq {p : α → Bool} {q : β → Bool} (h : List.Forall₂ r xs ys)
    (step : ∀ x y, r x y → p x = q y) : xs.any p = ys.any q := by
  induction h with
  | nil => rfl
  | cons first later ih => rw [List.any_cons, List.any_cons, step _ _ first, ih]

theorem filter {p : α → Bool} {q : β → Bool} (h : List.Forall₂ r xs ys)
    (step : ∀ x y, r x y → p x = q y) : List.Forall₂ r (xs.filter p) (ys.filter q) :=
  List.rel_filter (fun _ _ related => iff_of_eq (congrArg (· = true) (step _ _ related))) h

theorem optional_filter {x? : Option α} {y? : Option β} {p : α → Bool} {q : β → Bool}
    (h : Option.Rel r x? y?) (step : ∀ x y, r x y → p x = q y) :
    Option.Rel r (x?.filter p) (y?.filter q) := by
  cases h with
  | none => exact .none
  | some related =>
    rw [Option.filter_some, Option.filter_some, step _ _ related]
    split
    · exact .some related
    · exact .none

/-- What is found first in related lists is related. -/
theorem find? {p : α → Bool} {q : β → Bool} (h : List.Forall₂ r xs ys)
    (step : ∀ x y, r x y → p x = q y) : Option.Rel r (xs.find? p) (ys.find? q) := by
  induction h with
  | nil => exact .none
  | @cons x y xs ys first later ih =>
    cases holds : p x with
    | true =>
      rw [List.find?_cons_of_pos holds, List.find?_cons_of_pos (step _ _ first ▸ holds)]
      exact .some first
    | false =>
      rw [List.find?_cons_of_neg (by simp [holds]),
        List.find?_cons_of_neg (by simp [← step _ _ first, holds])]
      exact ih

/-- What is found first in related lists is related, if it is in the members. -/
theorem findSome? {related : γ → δ → Prop} {f : α → Option γ} {g : β → List δ}
    (h : List.Forall₂ r xs ys)
    (step : ∀ y ∈ ys, ∀ x, r x y → Option.Rel related (f x) (g y).head?) :
    Option.Rel related (xs.findSome? f) (ys.flatMap g).head? := by
  induction h with
  | nil => exact .none
  | @cons x y xs ys first later ih =>
    have head := step y (by simp) x first
    have tail := ih fun y mem => step y (by simp [mem])
    cases found : f x with
    | none =>
      rw [found] at head
      have empty : g y = [] := by
        cases listed : g y with
        | nil => rfl
        | cons member members => simp [listed] at head
      simpa [found, empty] using tail
    | some member =>
      rw [found] at head
      cases listed : g y with
      | nil => simp [listed] at head
      | cons member' members => simpa [found, listed] using head

end ClassModel.Related
