import ClassModel.Library.Hierarchy
import Mathlib.Data.List.Nodup
import Mathlib.Data.List.Perm.Subperm
import Mathlib.Data.List.TakeWhile
import Mathlib.Logic.Relation

/-!
# ClassModel.Proofs.Reach

What a walk through the hierarchy comes upon. A breadth-first walk with a bound
that is at least the number of nodes lists the nodes in reach and no others
(`Walk.mem_breadthFirst_iff`), and a search finds what is in reach
(`Walk.exists_search?_eq`). The bound of a library is high enough, so `isSubtype` decides
whether a class-like is in reach (`Library.isSubtype_iff`), and answers as a walk
that lists everything above does (`Library.isSubtype_eq`).
-/

namespace ClassModel

namespace Walk

variable {α : Type} [BEq α] {next : α → List α} {bound : Nat}
  {nodes listed queue : List α} {node : α}

/-- The second node is the first one, or the walk leads to it. -/
abbrev Reaches (next : α → List α) : α → α → Prop :=
  Relation.ReflTransGen fun node successor => successor ∈ next node

/-- What is dropped from the queue is listed. -/
theorem mem_dropWhile [LawfulBEq α] (listed : List α) (mem : node ∈ queue) :
    node ∈ listed ∨ node ∈ queue.dropWhile listed.contains := by
  rw [← List.takeWhile_append_dropWhile (p := listed.contains) (l := queue),
    List.mem_append] at mem
  exact mem.imp_left fun mem =>
    List.contains_iff_mem.1 (List.all_eq_true.1 List.all_takeWhile _ mem)

/-- What is left in front of the queue is not yet listed. -/
theorem not_mem_of_dropWhile [LawfulBEq α] {rest : List α}
    (dropped : queue.dropWhile listed.contains = node :: rest) : node ∉ listed := by
  have head := List.head_dropWhile_not listed.contains (l := queue) (by simp [dropped])
  simpa [dropped] using head

theorem subset_breadthFirst : listed ⊆ breadthFirst next bound listed queue := by
  induction bound generalizing listed queue with
  | zero => exact List.Subset.refl _
  | succ bound ih =>
    rw [breadthFirst]
    split
    · exact List.Subset.refl _
    · exact List.Subset.trans (List.subset_append_left _ _) ih

/-- What a walk lists beyond the given nodes is in reach of the queue. -/
theorem exists_reaches (mem : node ∈ breadthFirst next bound listed queue) :
    node ∈ listed ∨ ∃ start ∈ queue, Reaches next start node := by
  induction bound generalizing listed queue with
  | zero => exact .inl mem
  | succ bound ih =>
    rw [breadthFirst] at mem
    split at mem
    · exact .inl mem
    · next first rest dropped =>
      have queued : first :: rest ⊆ queue := dropped ▸ (List.dropWhile_sublist _).subset
      have start := queued List.mem_cons_self
      rcases ih mem with mem | ⟨second, mem, reaches⟩
      · rcases List.mem_append.1 mem with mem | mem
        · exact .inl mem
        · exact .inr ⟨first, start, List.mem_singleton.1 mem ▸ .refl⟩
      · rcases List.mem_append.1 mem with mem | mem
        · exact .inr ⟨second, queued (List.mem_cons_of_mem _ mem), reaches⟩
        · exact .inr ⟨first, start, .head mem reaches⟩

/-- What a walk keeps up: it lists some of the nodes, each once, and what
follows a listed node is listed or stands in the queue. -/
structure Frontier (next : α → List α) (nodes listed queue : List α) : Prop where
  nodup : listed.Nodup
  listed_subset : listed ⊆ nodes
  queue_subset : queue ⊆ nodes
  successor {node successor : α} : node ∈ listed → successor ∈ next node →
    successor ∈ listed ∨ successor ∈ queue

/-- Listing the first node that is not yet listed keeps that up. -/
theorem Frontier.step [LawfulBEq α] (frontier : Frontier next nodes listed queue)
    (inside : ∀ node ∈ nodes, next node ⊆ nodes) {rest : List α}
    (dropped : queue.dropWhile listed.contains = node :: rest) :
    Frontier next nodes (listed ++ [node]) (rest ++ next node) := by
  have queued : node :: rest ⊆ queue := dropped ▸ (List.dropWhile_sublist _).subset
  have mem : node ∈ nodes := frontier.queue_subset (queued List.mem_cons_self)
  constructor
  · simpa using frontier.nodup.concat (not_mem_of_dropWhile dropped)
  · exact List.append_subset.2 ⟨frontier.listed_subset, List.cons_subset.2 ⟨mem, List.nil_subset _⟩⟩
  · exact List.append_subset.2
      ⟨fun other mem =>
        frontier.queue_subset (queued (List.mem_cons_of_mem _ mem)), inside node mem⟩
  · intro other successor mem follows
    rcases List.mem_append.1 mem with mem | mem
    · rcases frontier.successor mem follows with mem | mem
      · exact .inl (List.mem_append_left _ mem)
      · rcases mem_dropWhile listed mem with mem | mem
        · exact .inl (List.mem_append_left _ mem)
        · rw [dropped] at mem
          rcases List.mem_cons.1 mem with rfl | mem
          · exact .inl (by simp)
          · exact .inr (List.mem_append_left _ mem)
    · obtain rfl := List.mem_singleton.1 mem
      exact .inr (List.mem_append_right _ follows)

omit [BEq α] in
/-- If as many nodes are listed as there are, all are listed. -/
theorem Frontier.subset_listed (frontier : Frontier next nodes listed queue)
    (enough : nodes.length ≤ listed.length) : nodes ⊆ listed :=
  have sub := List.subperm_of_subset frontier.nodup frontier.listed_subset
  (sub.perm_of_length_le enough).symm.subset

/-- A walk with a high enough bound goes on until nothing new is left. -/
theorem Frontier.closed [LawfulBEq α] (frontier : Frontier next nodes listed queue)
    (inside : ∀ node ∈ nodes, next node ⊆ nodes) (enough : nodes.length ≤ bound + listed.length) :
    queue ⊆ breadthFirst next bound listed queue
      ∧ ∀ node ∈ breadthFirst next bound listed queue,
        next node ⊆ breadthFirst next bound listed queue := by
  induction bound generalizing listed queue with
  | zero =>
    have all : nodes ⊆ listed := frontier.subset_listed (by omega)
    exact ⟨List.Subset.trans frontier.queue_subset all, fun node mem =>
      List.Subset.trans (inside node (frontier.listed_subset mem)) all⟩
  | succ bound ih =>
    rw [breadthFirst]
    split
    · next dropped =>
      have listed_of_queue {node : α} (mem : node ∈ queue) : node ∈ listed := by
        simpa [dropped] using mem_dropWhile listed mem
      exact ⟨fun _ => listed_of_queue, fun node mem successor follows =>
        (frontier.successor mem follows).elim id listed_of_queue⟩
    · next first rest dropped =>
      have closed := ih (frontier.step inside dropped) (by simp; omega)
      refine ⟨fun node mem => ?_, closed.2⟩
      rcases mem_dropWhile listed mem with mem | mem
      · exact subset_breadthFirst (List.mem_append_left _ mem)
      · rw [dropped] at mem
        rcases List.mem_cons.1 mem with rfl | mem
        · exact subset_breadthFirst (by simp)
        · exact closed.1 (List.mem_append_left _ mem)

/-- Where all is listed that stands in the queue, a walk is at its end. -/
theorem breadthFirst_of_subset [LawfulBEq α] (all : queue ⊆ listed) :
    breadthFirst next bound listed queue = listed := by
  have dropped : queue.dropWhile listed.contains = [] :=
    List.dropWhile_eq_nil_iff.2 fun node mem => List.contains_iff_mem.2 (all mem)
  cases bound with
  | zero => rfl
  | succ bound => rw [breadthFirst, dropped]

/-- A walk with a high enough bound ends by itself: no higher bound makes it list
more. -/
theorem Frontier.breadthFirst_eq [LawfulBEq α] (frontier : Frontier next nodes listed queue)
    (inside : ∀ node ∈ nodes, next node ⊆ nodes) (enough : nodes.length ≤ bound + listed.length)
    {higher : Nat} (le : bound ≤ higher) :
    breadthFirst next higher listed queue = breadthFirst next bound listed queue := by
  induction bound generalizing listed queue higher with
  | zero =>
    have all : nodes ⊆ listed := frontier.subset_listed (by omega)
    exact breadthFirst_of_subset (List.Subset.trans frontier.queue_subset all)
  | succ bound ih =>
    cases higher with
    | zero => omega
    | succ higher =>
      rw [breadthFirst, breadthFirst]
      split
      · rfl
      · next first rest dropped =>
        exact ih (frontier.step inside dropped) (by simp; omega) (by omega)

/-- A walk with a high enough bound lists all that is in reach of the queue. -/
theorem mem_breadthFirst_iff [LawfulBEq α] (frontier : Frontier next nodes listed queue)
    (inside : ∀ node ∈ nodes, next node ⊆ nodes) (enough : nodes.length ≤ bound + listed.length) :
    node ∈ breadthFirst next bound listed queue
      ↔ node ∈ listed ∨ ∃ start ∈ queue, Reaches next start node := by
  refine ⟨exists_reaches, ?_⟩
  have closed := frontier.closed inside enough
  rintro (mem | ⟨start, mem, reaches⟩)
  · exact subset_breadthFirst mem
  · induction reaches with
    | refl => exact closed.1 mem
    | tail _ follows ih => exact closed.2 _ ih follows

/-! ## Searches -/

omit [BEq α] in
/-- The order of the queue does not matter. -/
theorem Frontier.congr (frontier : Frontier next nodes listed queue) {queue' : List α}
    (same : ∀ node, node ∈ queue' ↔ node ∈ queue) : Frontier next nodes listed queue' where
  nodup := frontier.nodup
  listed_subset := frontier.listed_subset
  queue_subset node mem := frontier.queue_subset ((same node).1 mem)
  successor mem follows := (frontier.successor mem follows).imp_right (same _).2

omit [BEq α] in
/-- What is listed already may be dropped from the queue. -/
theorem Frontier.of_subset (frontier : Frontier next nodes listed queue)
    (all : queue ⊆ listed) : Frontier next nodes listed [] where
  nodup := frontier.nodup
  listed_subset := frontier.listed_subset
  queue_subset := List.nil_subset _
  successor mem follows := .inl ((frontier.successor mem follows).elim id (all ·))

/-- A wanted node is in reach of the queue. -/
def Hits (next : α → List α) (wanted : α → Bool) (queue : List α) : Prop :=
  ∃ start ∈ queue, ∃ node, Reaches next start node ∧ wanted node = true

omit [BEq α] in
/-- Whatever is in reach is listed, or in reach of the queue. -/
theorem Frontier.reaches (frontier : Frontier next nodes listed queue) {start : α}
    (mem : start ∈ listed ∨ start ∈ queue) (reaches : Reaches next start node) :
    node ∈ listed ∨ ∃ start ∈ queue, Reaches next start node := by
  induction reaches with
  | refl => exact mem.imp_right fun mem => ⟨_, mem, .refl⟩
  | tail _ follows ih =>
    rcases ih with listed | ⟨start, queued, reaches⟩
    · exact (frontier.successor listed follows).imp_right fun mem => ⟨_, mem, .refl⟩
    · exact .inr ⟨start, queued, reaches.tail follows⟩

omit [BEq α] in
/-- If nothing wanted is listed, what is wanted is in reach of the queue. -/
theorem Frontier.hits {wanted : α → Bool} (frontier : Frontier next nodes listed queue)
    (missed : ∀ node ∈ listed, wanted node = false) {start : α}
    (mem : start ∈ listed ∨ start ∈ queue) (reaches : Reaches next start node)
    (isWanted : wanted node = true) : Hits next wanted queue := by
  rcases frontier.reaches mem reaches with mem | ⟨start, mem, reaches⟩
  · exact absurd isWanted (by simp [missed node mem])
  · exact ⟨start, mem, node, reaches, isWanted⟩

/-- Visiting a node that is not wanted hides nothing: what was in reach of the stack
is in reach of the successors or of the rest. -/
theorem Frontier.hits_step [LawfulBEq α] {wanted : α → Bool} {visited stack rest : List α}
    (frontier : Frontier next nodes visited stack) (inside : ∀ node ∈ nodes, next node ⊆ nodes)
    (dropped : stack.dropWhile visited.contains = node :: rest)
    (missed : ∀ other ∈ visited ++ [node], wanted other = false) :
    Frontier next nodes (visited ++ [node]) ((next node).reverse ++ rest)
      ∧ (Hits next wanted ((next node).reverse ++ rest) ↔ Hits next wanted stack) := by
  have stacked : node :: rest ⊆ stack := dropped ▸ (List.dropWhile_sublist _).subset
  have further : Frontier next nodes (visited ++ [node]) ((next node).reverse ++ rest) :=
    (frontier.step inside dropped).congr (by simp [or_comm])
  refine ⟨further, ?_, ?_⟩
  · rintro ⟨start, mem, last, reaches, isWanted⟩
    rcases List.mem_append.1 mem with mem | mem
    · exact ⟨node, stacked (.head _), last, .head (List.mem_reverse.1 mem) reaches, isWanted⟩
    · exact ⟨start, stacked (.tail _ mem), last, reaches, isWanted⟩
  · rintro ⟨start, mem, last, reaches, isWanted⟩
    have mem' : start ∈ visited ∨ start = node ∨ start ∈ rest := by
      simpa [dropped] using mem_dropWhile visited mem
    refine further.hits missed ?_ reaches isWanted
    simp only [List.mem_append, List.mem_singleton]
    tauto

/-- A search with a high enough bound comes to an end, and finds a wanted node if
there is one in reach of the stack. -/
theorem exists_search?_eq [LawfulBEq α] (wanted : α → Bool) {visited stack : List α}
    (frontier : Frontier next nodes visited stack) (inside : ∀ node ∈ nodes, next node ⊆ nodes)
    (enough : nodes.length < bound + visited.length)
    (missed : ∀ node ∈ visited, wanted node = false) :
    ∃ found, search? next wanted bound visited stack = some found
      ∧ (found = true ↔ Hits next wanted stack) := by
  induction bound generalizing visited stack with
  | zero =>
    have le := (List.subperm_of_subset frontier.nodup frontier.listed_subset).length_le
    omega
  | succ bound ih =>
    rw [search?]
    split
    · next dropped =>
      -- nothing new is left in the stack
      have all : stack ⊆ visited := fun node mem => by
        simpa [dropped] using mem_dropWhile visited mem
      refine ⟨false, rfl, by simp, fun ⟨start, mem, node, reaches, isWanted⟩ => ?_⟩
      obtain ⟨_, mem, _⟩ :=
        (frontier.of_subset all).hits missed (.inl (all mem)) reaches isWanted
      cases mem
    · next node rest dropped =>
      have stacked : node :: rest ⊆ stack := dropped ▸ (List.dropWhile_sublist _).subset
      split
      · next isWanted =>
        exact ⟨true, rfl, fun _ => ⟨node, stacked (.head _), node, .refl, isWanted⟩, fun _ => rfl⟩
      · next notWanted =>
        have missed' : ∀ other ∈ visited ++ [node], wanted other = false := by
          simpa [or_imp, forall_and] using And.intro missed notWanted
        obtain ⟨further, same⟩ := frontier.hits_step inside dropped missed'
        obtain ⟨found, answer, iff⟩ := ih further (by simp; omega) missed'
        exact ⟨found, answer, iff.trans same⟩

end Walk

/-! ## The hierarchy -/

namespace Library

variable (library : Library)

/-- The second class-like is the first one or above it. -/
abbrev IsAbove : ClassId → ClassId → Prop := Walk.Reaches library.directSupertypes

/-- What is above something that is there is named as a supertype. -/
theorem mem_supertypes {id supertype : ClassId} (mem : supertype ∈ library.directSupertypes id) :
    supertype ∈ library.classLikes.ids.flatMap library.directSupertypes := by
  refine List.mem_flatMap.2 ⟨id, ?_, mem⟩
  rw [Arena.mem_ids, ← Arena.isSome_get?]
  cases found : library.classLikes.get? id with
  | some classLike => rfl
  | none => simp [directSupertypes, hierarchyKind?, classLike?, found] at mem

/-- The class-likes that may be above a class-like: itself, and whatever is named
as a supertype. -/
def candidates (id : ClassId) : List ClassId :=
  id :: library.classLikes.ids.flatMap library.directSupertypes

/-- The bound on walks leaves room for all of them. -/
theorem length_candidates_le (id : ClassId) (listed : List ClassId) :
    (library.candidates id).length ≤ library.walkBound + listed.length := by
  rw [candidates, List.length_cons, walkBound]
  omega

theorem directSupertypes_subset_candidates (id node : ClassId) :
    library.directSupertypes node ⊆ library.candidates id := fun _ mem =>
  List.mem_cons_of_mem _ (library.mem_supertypes mem)

theorem mem_candidates {id above : ClassId} (isAbove : library.IsAbove id above) :
    above ∈ library.candidates id := by
  cases isAbove with
  | refl => exact List.mem_cons_self
  | tail _ mem => exact library.directSupertypes_subset_candidates id _ mem

/-- Where nothing is directly above a class-like, nothing else is in reach. -/
theorem eq_of_isAbove {library : Library} {id above : ClassId}
    (top : library.directSupertypes id = []) (isAbove : library.IsAbove id above) : above = id := by
  rcases isAbove.cases_head with same | ⟨_, follows, _⟩
  · exact same.symm
  · rw [top] at follows
    cases follows

/-- The class-like and everything above it, nearest first. -/
def supertypeClosure (id : ClassId) : List ClassId :=
  Walk.breadthFirst library.directSupertypes library.walkBound [] [id]

theorem frontier_supertypeClosure (id : ClassId) :
    Walk.Frontier library.directSupertypes (library.candidates id) [] [id] :=
  ⟨.nil, List.nil_subset _, by simp [candidates], fun mem => absurd mem (by simp)⟩

theorem mem_supertypeClosure_iff {id above : ClassId} :
    above ∈ library.supertypeClosure id ↔ library.IsAbove id above := by
  rw [supertypeClosure, Walk.mem_breadthFirst_iff (library.frontier_supertypeClosure id)
    (fun node _ => library.directSupertypes_subset_candidates id node)
    (library.length_candidates_le id [])]
  simp

/-- With more turns than there are class-likes in reach, the search upwards comes to
an end. -/
theorem exists_isSubtypeWithin? {bound : Nat} (enough : library.walkBound < bound)
    (source target : ClassId) : ∃ found, library.isSubtypeWithin? bound source target = some found
      ∧ (found = true ↔ (library.isObject target = true ∧ (library.classLike? source).isSome)
        ∨ library.isObject target = false
          ∧ ∃ above, library.IsAbove source above
            ∧ (above = target ∨ library.baseOf above = target)) := by
  have le := library.length_candidates_le source []
  have turns : (library.candidates source).length < bound + ([] : List ClassId).length := by omega
  rw [isSubtypeWithin?]
  cases library.isObject target with
  | true => exact ⟨_, rfl, by simp⟩
  | false =>
    obtain ⟨found, answer, iff⟩ :=
      Walk.exists_search?_eq (fun id => id == target || library.baseOf id == target)
        (library.frontier_supertypeClosure source)
        (fun node _ => library.directSupertypes_subset_candidates source node) turns (by simp)
    exact ⟨found, answer, by simpa [Walk.Hits] using iff⟩

theorem isSubtypeWithin?_eq {bound : Nat} (enough : library.walkBound < bound)
    (source target : ClassId) :
    library.isSubtypeWithin? bound source target = some (library.isSubtype source target) := by
  obtain ⟨found, answer, iff⟩ := library.exists_isSubtypeWithin? enough source target
  obtain ⟨found', answer', iff'⟩ :=
    library.exists_isSubtypeWithin? (Nat.lt_succ_self _) source target
  rw [isSubtype, answer, answer', Option.getD_some, Option.some_inj, Bool.eq_iff_iff]
  exact iff.trans iff'.symm

/-- A class-like is below all that it reaches, and below the bases of that. -/
theorem isSubtype_iff {source target : ClassId} : library.isSubtype source target = true
    ↔ (library.isObject target = true ∧ (library.classLike? source).isSome)
      ∨ library.isObject target = false
        ∧ ∃ above, library.IsAbove source above
          ∧ (above = target ∨ library.baseOf above = target) := by
  obtain ⟨found, answer, iff⟩ :=
    library.exists_isSubtypeWithin? (Nat.lt_succ_self _) source target
  rwa [isSubtype, answer, Option.getD_some]

/-- The search, which stops where it finds the target, answers as a walk does that
lists all that is above the source first. -/
theorem isSubtype_eq (source target : ClassId) : library.isSubtype source target
    = if library.isObject target then (library.classLike? source).isSome
      else (library.supertypeClosure source).any fun id =>
        id == target || library.baseOf id == target := by
  rw [Bool.eq_iff_iff, isSubtype_iff]
  cases library.isObject target with
  | true => simp
  | false => simp [List.any_eq_true, mem_supertypeClosure_iff]

/-- In any library, whatever its supertypes are, the search upwards comes to its
end by itself, whatever number of turns it may have beyond the bound; a class-like
is below the root class if it is there, and below another class-like if that, or
an instantiation of it, is reached by some number of steps to a direct
supertype. -/
theorem decidesSubtype (source target : ClassId) :
    (∀ bound > library.walkBound,
        library.isSubtypeWithin? bound source target = some (library.isSubtype source target))
      ∧ (library.isSubtype source target = true ↔
        if library.isObject target = true then (library.classLike? source).isSome = true
        else ∃ above,
          Relation.ReflTransGen (fun id supertype => supertype ∈ library.directSupertypes id)
              source above
            ∧ (above = target ∨ library.baseOf above = target)) := by
  refine ⟨fun bound enough => library.isSubtypeWithin?_eq enough source target, ?_⟩
  rw [isSubtype_iff]
  cases library.isObject target with
  | true => simp
  | false => simp

end Library

end ClassModel
