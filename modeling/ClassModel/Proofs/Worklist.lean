import ClassModel.Proofs.Materialize
import Mathlib.Data.List.Nodup
import Mathlib.Data.List.Perm.Subperm

/-!
# ClassModel.Proofs.Worklist

Filling in all instantiations. What is asked for while an instantiation is
filled in depends on its type and on the contents of the declared class-likes
only, so the instantiations in the end are those that are `Requested`, in
whatever order they were created (`Progress.has_iff`). The worklist comes to
its end exactly if the budget is enough for them (`Progress.run`).
-/

namespace ClassModel

/-- An arena hands out each identifier once. -/
theorem Arena.nodup_ids {label : String} {α : Type} (arena : Arena label α) : arena.ids.Nodup :=
  List.Nodup.map (fun _ _ same => by simpa using same) List.nodup_range

variable {scope : Scope} {options : Options} {content : String → NamedClass}

/-- What happens while the instantiation is filled in. -/
def Scope.eventsOf (scope : Scope) (options : Options) (content : String → NamedClass) :
    TypeTree → List Event
  | .applied name trees _ => (scope.instanceOf options content name trees).events
  | _ => []

/-- The instantiations that are asked for in the end. -/
inductive Scope.Requested (scope : Scope) (options : Options) (content : String → NamedClass)
    (initial : TypeTree → Prop) : TypeTree → Prop where
  | initial {tree : TypeTree} : initial tree → Requested scope options content initial tree
  | inner {tree inner : TypeTree} : Requested scope options content initial tree →
      inner ∈ requests (scope.eventsOf options content tree) →
        Requested scope options content initial inner

namespace Library

/-- The declared class-likes are the named ones. -/
def Realizes (library : Library) (scope : Scope) (options : Options)
    (content : String → NamedClass) : Prop :=
  ∀ id name, library.IsNamed id name → library.Spells scope options name id (content name)

/-- The class-like is an instantiation that is filled in, and all that it asks
for is there. -/
structure IsComplete (library : Library) (scope : Scope) (options : Options)
    (content : String → NamedClass) (id : ClassId) : Prop where
  filledIn {name : String} {trees : List TypeTree} :
    library.IsInstance id (.applied name trees 0) →
      library.FilledIn scope options content id name trees
  served {tree inner : TypeTree} : library.IsInstance id tree →
    inner ∈ requests (scope.eventsOf options content tree) → library.Has inner

variable {library before after : Library} {focus : ClassId → Prop}

theorem Grows.has (h : before.Grows focus after) {tree : TypeTree} (has : before.Has tree) :
    after.Has tree :=
  has.imp fun _ => h.isInstance

theorem mem_instances {id : ClassId} :
    id ∈ library.instances ↔ (library.specialization? id).isSome := by
  rw [instances, List.mem_filter, and_iff_right_iff_imp, Option.isSome_iff_exists]
  rintro ⟨specialization, found⟩
  obtain ⟨classLike, known, _⟩ := specialization?_eq_some found
  rw [Arena.mem_ids, ← Arena.isSome_get?]
  exact Option.isSome_iff_exists.2 ⟨classLike, known⟩

theorem Coherent.mem_instances_iff (coherent : library.Coherent scope options) {id : ClassId} :
    id ∈ library.instances ↔ ∃ tree, library.IsInstance id tree := by
  rw [mem_instances, Option.isSome_iff_exists]
  constructor
  · rintro ⟨specialization, found⟩
    obtain ⟨classLike, known, specialized⟩ := specialization?_eq_some found
    exact coherent.exists_isInstance known specialized
  · rintro ⟨tree, isInstance⟩
    obtain ⟨classLike, specialization, known, specialized⟩ := isInstance.exists_specialization
    exact ⟨specialization, by simp [specialization?, known, specialized]⟩

theorem nodup_instances (library : Library) : library.instances.Nodup :=
  List.Nodup.filter _ (Arena.nodup_ids _)

/-- The instantiations spell distinct types, which are the types that the
library has. -/
theorem Coherent.exists_trees (coherent : library.Coherent scope options) : ∃ trees,
    List.Forall₂ library.IsInstance library.instances trees ∧ trees.Nodup
      ∧ ∀ tree, tree ∈ trees ↔ library.Has tree := by
  have spelled : ∀ ids : List ClassId, (∀ id ∈ ids, id ∈ library.instances) → ids.Nodup →
      ∃ trees, List.Forall₂ library.IsInstance ids trees ∧ trees.Nodup := by
    intro ids inside nodup
    induction ids with
    | nil => exact ⟨[], .nil, .nil⟩
    | cons id ids ih =>
      obtain ⟨new, nodup⟩ := List.nodup_cons.1 nodup
      obtain ⟨trees, all, distinct⟩ := ih (fun id mem => inside id (by simp [mem])) nodup
      obtain ⟨tree, isInstance⟩ := coherent.mem_instances_iff.1 (inside id (by simp))
      refine ⟨tree :: trees, .cons isInstance all, List.nodup_cons.2 ⟨fun mem => new ?_, distinct⟩⟩
      obtain ⟨id', mem', isInstance'⟩ := Related.exists_of_mem all mem
      rwa [coherent.canonical isInstance isInstance']
  obtain ⟨trees, all, distinct⟩ := spelled _ (fun _ mem => mem) library.nodup_instances
  refine ⟨trees, all, distinct, fun tree => ⟨fun mem => ?_, fun ⟨id, isInstance⟩ => ?_⟩⟩
  · obtain ⟨id, _, isInstance⟩ := Related.exists_of_mem all mem
    exact ⟨id, isInstance⟩
  · have mem : id ∈ library.instances := coherent.mem_instances_iff.2 ⟨tree, isInstance⟩
    obtain ⟨tree', mem, isInstance'⟩ := Related.exists_of_mem (List.Forall₂.flip all) mem
    rwa [isInstance.1.unique coherent.toDeclares isInstance'.1]

/-- A library that has what another one has has no fewer instantiations. -/
theorem Coherent.length_instances_le {other : Library} (coherent : library.Coherent scope options)
    (coherent' : other.Coherent scope options) (sub : ∀ tree, library.Has tree → other.Has tree) :
    library.instances.length ≤ other.instances.length := by
  obtain ⟨trees, all, distinct, mem_iff⟩ := coherent.exists_trees
  obtain ⟨trees', all', _, mem_iff'⟩ := coherent'.exists_trees
  rw [all.length_eq, all'.length_eq]
  exact (List.subperm_of_subset distinct fun tree mem =>
    (mem_iff' tree).2 (sub tree ((mem_iff tree).1 mem))).length_le

/-! ## Growth -/

theorem Grows.realizes (h : before.Grows focus after)
    (away : ∀ id name, before.IsNamed id name → ¬ focus id)
    (realizes : before.Realizes scope options content) : after.Realizes scope options content := by
  intro id name isNamed
  have isNamed := h.isNamed_iff.1 isNamed
  exact h.spells (away id name isNamed) (realizes id name isNamed)

theorem Grows.filledIn (h : before.Grows focus after) {id : ClassId} (away : ¬ focus id)
    {name : String} {trees : List TypeTree}
    (filledIn : before.FilledIn scope options content id name trees) :
    after.FilledIn scope options content id name trees where
  isInstance := h.isInstance filledIn.isInstance
  isMaterialized := by
    obtain ⟨specialization, found, isMaterialized⟩ := filledIn.isMaterialized
    obtain ⟨classLike, known, specialized⟩ := specialization?_eq_some found
    obtain ⟨later, known', _, same⟩ := h.classLike known
    refine ⟨specialization, ?_, isMaterialized⟩
    rw [specialization?, known', Option.bind_some, ← specialized]
    exact congrArg (·.specialization?) (same away)
  spells := by
    obtain ⟨context, shape, inScope, wf, spells⟩ := filledIn.spells
    exact ⟨context, shape, inScope, wf, h.spells away spells⟩

theorem Grows.isComplete (h : before.Grows focus after) (coherent : before.Coherent scope options)
    {id : ClassId} (mem : id ∈ before.instances) (away : ¬ focus id)
    (complete : before.IsComplete scope options content id) :
    after.IsComplete scope options content id := by
  obtain ⟨specialization, found⟩ := Option.isSome_iff_exists.1 (mem_instances.1 mem)
  obtain ⟨classLike, known, _⟩ := specialization?_eq_some found
  exact {
    filledIn := fun isInstance =>
      h.filledIn away (complete.filledIn (h.isInstance_back coherent known isInstance))
    served := fun isInstance mem =>
      h.has (complete.served (h.isInstance_back coherent known isInstance) mem) }

/-- An instantiation is complete if it is filled in and what that asks for is
there. -/
theorem FilledIn.isComplete {library : Library} {id : ClassId} {name : String}
    {trees : List TypeTree} (filledIn : library.FilledIn scope options content id name trees)
    (declares : library.Declares scope)
    (served : ∀ inner ∈ requests (scope.eventsOf options content (.applied name trees 0)),
      library.Has inner) : library.IsComplete scope options content id where
  filledIn {name' trees'} isInstance := by
    cases filledIn.isInstance.1.unique declares isInstance.1
    exact filledIn
  served {tree inner} isInstance mem := by
    cases filledIn.isInstance.1.unique declares isInstance.1
    exact served inner mem

end Library

/-! ## The loop -/

/-- How far the worklist has come: what is filled in and what is pending are
all instantiations, and all of them were asked for. -/
structure Progress (scope : Scope) (options : Options) (content : String → NamedClass)
    (initial : TypeTree → Prop) (before : List NamedDiagnostic) (done : List ClassId)
    (state : BuildState) : Prop where
  coherent : state.library.Coherent scope options
  realizes : state.library.Realizes scope options content
  instances : state.library.instances = done ++ state.pending
  complete {id : ClassId} : id ∈ done → state.library.IsComplete scope options content id
  asked {tree : TypeTree} : initial tree → state.library.Has tree
  requested {tree : TypeTree} :
    state.library.Has tree → scope.Requested options content initial tree
  log : ∃ trees, List.Forall₂ state.library.IsInstance done trees
    ∧ List.Forall₂ state.library.Tells state.log.toList
        (before ++ reports (trees.flatMap (scope.eventsOf options content)))

namespace Progress

variable {initial : TypeTree → Prop} {before : List NamedDiagnostic} {done : List ClassId}
  {state : BuildState}

/-- Filling in one instantiation is a step of the worklist. -/
theorem step {id : ClassId} {pending : List ClassId}
    (progress : Progress scope options content initial before done state)
    (next : state.pending = id :: pending) :
    (Build.materialize options id).Yields { state with pending } fun _ after =>
      Progress scope options content initial before (done ++ [id]) after
        ∧ state.library.Grows (fun _ => True) after.library := by
  have coherent := progress.coherent
  have mem : id ∈ state.library.instances := by simp [progress.instances, next]
  obtain ⟨tree, isInstance⟩ := coherent.mem_instances_iff.1 mem
  obtain ⟨name, arguments, rfl⟩ := isInstance.2
  have notDeclared (name : String) (isNamed : state.library.IsNamed id name) : False := by
    obtain ⟨classLike, declared, _⟩ := isNamed
    obtain ⟨classLike', specialization, known, specialized⟩ := isInstance.exists_specialization
    cases known.symm.trans declared.1
    cases specialized.symm.trans declared.2
  have new : id ∉ done := by
    have nodup := state.library.nodup_instances
    rw [progress.instances, next] at nodup
    exact fun mem => (List.nodup_append.1 nodup).2.2 id mem id (by simp) rfl
  have refines :
      Refines scope options (· = id) { state with pending } (Build.materialize options id)
      (scope.instanceOf options content name arguments) fun after _ _ =>
        after.FilledIn scope options content id name arguments :=
    .materialize coherent isInstance progress.realizes
  refine Build.Yields.mono refines fun _ after ⟨coherent', steps, filledIn⟩ => ?_
  have grows := steps.grows
  refine ⟨?_, grows.mono fun _ _ => trivial⟩
  exact {
    coherent := coherent'
    realizes := grows.realizes (fun id' name isNamed same => notDeclared name (same ▸ isNamed))
      progress.realizes
    instances := by
      obtain ⟨created, pending_eq, instances⟩ := steps.pending
      rw [instances, pending_eq, progress.instances, next]
      simp
    complete := by
      intro id' mem'
      rcases List.mem_append.1 mem' with mem' | mem'
      · have mem'' : id' ∈ state.library.instances := by simp [progress.instances, mem']
        exact grows.isComplete coherent mem'' (fun same => new (same ▸ mem'))
          (progress.complete mem')
      · obtain rfl := List.mem_singleton.1 mem'
        exact filledIn.isComplete coherent'.toDeclares fun inner mem =>
          (steps.has inner).2 (.inr mem)
    asked := fun holds => grows.has (progress.asked holds)
    requested := by
      intro tree has
      rcases (steps.has tree).1 has with has | mem
      · exact progress.requested has
      · exact .inner (progress.requested ⟨id, isInstance⟩) mem
    log := by
      obtain ⟨trees, all, tells⟩ := progress.log
      obtain ⟨diagnostics, log, tells'⟩ := steps.log
      refine ⟨trees ++ [.applied name arguments 0], ?_, ?_⟩
      · exact List.rel_append (all.imp fun _ _ => grows.isInstance)
          (.cons (grows.isInstance isInstance) .nil)
      · rw [log, List.flatMap_append, reports_append, List.flatMap_singleton, ← List.append_assoc]
        exact List.rel_append (tells.imp fun _ _ => grows.tells) tells' }

/-- The worklist comes to its end, or more instantiations are pending than the
budget was for. -/
theorem run (budget : Nat)
    (progress : Progress scope options content initial before done state) :
    ∃ filled after, Progress scope options content initial before (done ++ filled) after
      ∧ state.library.Grows (fun _ => True) after.library
      ∧ ((Build.materializeAll options budget).run.run state = (.ok (), after)
          ∧ after.pending = [] ∧ filled.length ≤ budget
        ∨ (Build.materializeAll options budget).run.run state = (.error .budgetExhausted, after)
          ∧ after.pending ≠ [] ∧ filled.length = budget) := by
  induction budget generalizing done state with
  | zero =>
    refine ⟨[], state, by rwa [List.append_nil], .refl _, ?_⟩
    cases pending : state.pending with
    | nil =>
      refine .inl ⟨?_, rfl, by simp⟩
      rw [Build.materializeAll, Build.run_get_bind, pending]
      rfl
    | cons id pending =>
      refine .inr ⟨?_, by simp, rfl⟩
      rw [Build.materializeAll, Build.run_get_bind, pending]
      rfl
  | succ budget ih =>
    cases pending : state.pending with
    | nil =>
      refine ⟨[], state, by rwa [List.append_nil], .refl _, .inl ⟨?_, pending, by simp⟩⟩
      rw [Build.materializeAll, Build.run_get_bind, pending]
      rfl
    | cons id pending =>
      obtain ⟨_, after, run, progress, grows⟩ := (progress.step ‹_›).exists_run
      obtain ⟨filled, last, progress, grows', outcome⟩ := ih progress
      have first : (Build.materializeAll options (budget + 1)).run.run state
          = (Build.materializeAll options budget).run.run after := by
        rw [Build.materializeAll, Build.run_get_bind, pending]
        dsimp only
        rw [Build.run_modify_bind, Build.run_bind, run]
      rw [List.append_assoc] at progress
      refine ⟨id :: filled, last, progress, grows.trans grows', ?_⟩
      rw [first]
      simpa using outcome

/-! ## The end -/

theorem isComplete (progress : Progress scope options content initial before done state)
    (finished : state.pending = []) {id : ClassId} {tree : TypeTree}
    (isInstance : state.library.IsInstance id tree) :
    state.library.IsComplete scope options content id := by
  have mem := progress.coherent.mem_instances_iff.2 ⟨tree, isInstance⟩
  rw [progress.instances, finished, List.append_nil] at mem
  exact progress.complete mem

/-- In the end there is what was asked for. -/
theorem has_iff (progress : Progress scope options content initial before done state)
    (finished : state.pending = []) {tree : TypeTree} :
    state.library.Has tree ↔ scope.Requested options content initial tree := by
  refine ⟨progress.requested, fun requested => ?_⟩
  induction requested with
  | initial holds => exact progress.asked holds
  | inner _ mem has =>
    obtain ⟨id, isInstance⟩ := has
    exact (progress.isComplete finished isInstance).served isInstance mem

end Progress

end ClassModel
