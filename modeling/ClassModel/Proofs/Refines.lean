import ClassModel.Proofs.Reference
import ClassModel.Proofs.Run

/-!
# ClassModel.Proofs.Refines

How the steps of a compilation follow their counterparts by names. A step
`Refines` a traced answer if, from a coherent library, it ends with a related
answer and a coherent library that has grown, if it reports the diagnostics of
the trace, and if it creates exactly the requested instantiations that were not
there. Refinements are put together like the steps.
-/

namespace ClassModel

/-- One more item has the next identifier. -/
theorem Arena.ids_eq_append {label : String} {α : Type} {before after : Arena label α}
    (size : after.size = before.size + 1) : after.ids = before.ids ++ [before.nextId] := by
  rw [Arena.ids, Arena.ids, size, List.range_succ, List.map_append]
  rfl

namespace Library

/-- The instantiations in the order of their creation. -/
def instances (library : Library) : List ClassId :=
  library.classLikes.ids.filter fun id => (library.specialization? id).isSome

/-- The library has the instantiation. -/
def Has (library : Library) (tree : TypeTree) : Prop := ∃ id, library.IsInstance id tree

/-- The diagnostic is the named one. -/
def Tells (library : Library) (diagnostic : Diagnostic) (named : NamedDiagnostic) : Prop :=
  diagnostic.bare = named.bare
    ∧ List.Forall₂ (fun id tree => library.Denotes (.classLike id) tree)
      diagnostic.mentioned named.mentioned

variable {before after library : Library} {focus : ClassId → Prop} {scope : Scope}
  {options : Options}

theorem specialization?_eq_some {id : ClassId} {specialization : Specialization}
    (found : library.specialization? id = some specialization) : ∃ classLike,
      library.classLike? id = some classLike ∧ classLike.specialization? = some specialization := by
  simpa [specialization?, Option.bind_eq_some_iff] using found

theorem Grows.tells (h : before.Grows focus after) {diagnostic : Diagnostic}
    {named : NamedDiagnostic} (tells : before.Tells diagnostic named) :
    after.Tells diagnostic named :=
  ⟨tells.1, tells.2.imp fun _ _ => h.denotes⟩

theorem Grows.isSome_specialization? (h : before.Grows focus after) {id : ClassId}
    {classLike : ClassLike} (known : before.classLike? id = some classLike) :
    (after.specialization? id).isSome = (before.specialization? id).isSome := by
  obtain ⟨later, known', keeps, _⟩ := h.classLike known
  simp only [specialization?, known, known', Option.bind_some]
  rw [← Option.isSome_map (f := Specialization.request), keeps.specialization?, Option.isSome_map]

theorem isSome_classLike?_of_mem_ids {id : ClassId} (mem : id ∈ library.classLikes.ids) :
    ∃ classLike, library.classLike? id = some classLike := by
  rw [Arena.mem_ids, ← Arena.isSome_get?] at mem
  exact Option.isSome_iff_exists.1 mem

theorem Revises.instances (h : before.Revises focus after) :
    after.instances = before.instances := by
  have ids : after.classLikes.ids = before.classLikes.ids := by
    rw [Arena.ids, Arena.ids, h.size]
  rw [Library.instances, Library.instances, ids]
  apply List.filter_congr
  intro id mem
  obtain ⟨classLike, known⟩ := isSome_classLike?_of_mem_ids mem
  rw [h.isSome_specialization? known]

theorem instances_create {shell : ClassLike} {place? : Option ClassId} (key : String)
    (specialized : shell.specialization?.isSome)
    (known : place? ≠ some library.classLikes.nextId) :
    (library.create shell place? key).instances
      = library.instances ++ [library.classLikes.nextId] := by
  have ids : (library.create shell place? key).classLikes.ids
      = library.classLikes.ids ++ [library.classLikes.nextId] :=
    Arena.ids_eq_append (by cases place? <;> simp [create, keep, insert, cache, modify])
  have new : ((library.create shell place? key).specialization?
      library.classLikes.nextId).isSome := by
    simpa [specialization?, classLike?_create key known] using specialized
  rw [instances, instances, ids, List.filter_append]
  congr 1
  · apply List.filter_congr
    intro id mem
    obtain ⟨classLike, found⟩ := isSome_classLike?_of_mem_ids mem
    rw [(grows_create key specialized known).isSome_specialization? found]
  · simp [new]

end Library

/-! ## Steps -/

/-- What a step of a compilation does to the state, given what happens. -/
structure Steps (focus : ClassId → Prop) (before after : BuildState) (events : List Event) :
    Prop where
  grows : before.library.Grows focus after.library
  log : ∃ diagnostics, after.log.toList = before.log.toList ++ diagnostics
    ∧ List.Forall₂ after.library.Tells diagnostics (reports events)
  pending : ∃ created, after.pending = before.pending ++ created
    ∧ after.library.instances = before.library.instances ++ created
  has (tree : TypeTree) : after.library.Has tree ↔
    before.library.Has tree ∨ tree ∈ requests events

namespace Steps

variable {focus focus' : ClassId → Prop} {first before after third : BuildState}
  {events events' : List Event} {scope : Scope} {options : Options}

theorem refl (state : BuildState) : Steps focus state state [] where
  grows := .refl _
  log := ⟨[], by simp, .nil⟩
  pending := ⟨[], by simp⟩
  has tree := by simp [requests]

theorem trans (h : Steps focus first before events) (h' : Steps focus before third events') :
    Steps focus first third (events ++ events') where
  grows := h.grows.trans h'.grows
  log := by
    obtain ⟨diagnostics, log, tells⟩ := h.log
    obtain ⟨diagnostics', log', tells'⟩ := h'.log
    refine ⟨diagnostics ++ diagnostics', by rw [log', log, List.append_assoc], ?_⟩
    rw [reports_append]
    exact List.rel_append (tells.imp fun _ _ => h'.grows.tells) tells'
  pending := by
    obtain ⟨created, pending, instances⟩ := h.pending
    obtain ⟨created', pending', instances'⟩ := h'.pending
    exact ⟨created ++ created', by rw [pending', pending, List.append_assoc],
      by rw [instances', instances, List.append_assoc]⟩
  has tree := by rw [h'.has, h.has, requests_append, List.mem_append, or_assoc]

theorem mono (h : Steps focus before after events) (wider : ∀ id, focus id → focus' id) :
    Steps focus' before after events :=
  { h with grows := h.grows.mono wider }

/-- A step with nobody in focus may have anybody in focus. -/
theorem widen (h : Steps Library.nobody before after events) : Steps focus before after events :=
  { h with grows := h.grows.widen }

end Steps

/-! ## Refinement -/

/-- From the state, the step ends with an answer that is related to the traced
one, in a coherent library, and what happens is what the trace tells. -/
def Refines {α β : Type} (scope : Scope) (options : Options) (focus : ClassId → Prop)
    (state : BuildState) (step : Build α) (traced : Traced β) (related : Library → α → β → Prop) :
    Prop :=
  step.Yields state fun answer after => after.library.Coherent scope options
    ∧ Steps focus state after traced.events ∧ related after.library answer traced.value

namespace Refines

variable {α β γ δ : Type} {scope : Scope} {options : Options} {focus : ClassId → Prop}
  {state : BuildState} {step : Build α} {traced : Traced β}
  {related related' : Library → α → β → Prop} {related₂ : Library → γ → δ → Prop}

protected theorem pure {answer : α} {value : β} (coherent : state.library.Coherent scope options)
    (holds : related state.library answer value) :
    Refines scope options focus state (pure answer) (pure value) related := by
  rw [Refines, Build.yields_pure]
  exact ⟨coherent, .refl state, holds⟩

/-- Refinements follow one another. -/
protected theorem bind {next : α → Build γ} {tracedNext : β → Traced δ}
    (first : Refines scope options focus state step traced related)
    (later : ∀ answer after, after.library.Coherent scope options →
      state.library.Grows focus after.library → related after.library answer traced.value →
        Refines scope options focus after (next answer) (tracedNext traced.value) related₂) :
    Refines scope options focus state (step >>= next) (traced >>= tracedNext) related₂ := by
  rw [Refines, Build.yields_bind]
  refine first.mono fun answer after h => ?_
  obtain ⟨coherent, steps, holds⟩ := h
  refine (later answer after coherent steps.grows holds).mono fun answer' after' h' => ?_
  obtain ⟨coherent', steps', holds'⟩ := h'
  exact ⟨coherent', steps.trans steps', holds'⟩

theorem mono (h : Refines scope options focus state step traced related)
    (weaker : ∀ answer after, state.library.Grows focus after → related after answer traced.value →
      related' after answer traced.value) :
    Refines scope options focus state step traced related' :=
  Build.Yields.mono h fun answer after ⟨coherent, steps, holds⟩ =>
    ⟨coherent, steps, weaker answer after.library steps.grows holds⟩

/-- Refinements follow one another. The contents of class-likes stay in the
first step. -/
theorem bind_quiet {next : α → Build γ} {tracedNext : β → Traced δ}
    (first : Refines scope options Library.nobody state step traced related)
    (later : ∀ answer after, after.library.Coherent scope options →
      state.library.Grows Library.nobody after.library → related after.library answer traced.value →
        Refines scope options focus after (next answer) (tracedNext traced.value) related₂) :
    Refines scope options focus state (step >>= next) (traced >>= tracedNext) related₂ := by
  rw [Refines, Build.yields_bind]
  refine Build.Yields.mono first fun answer after h => ?_
  obtain ⟨coherent, steps, holds⟩ := h
  refine Build.Yields.mono (later answer after coherent steps.grows holds)
    fun answer' after' h' => ?_
  obtain ⟨coherent', steps', holds'⟩ := h'
  exact ⟨coherent', steps.widen.trans steps', holds'⟩

/-- Reading the library is no step of the trace. -/
theorem library {next : Library → Build α}
    (h : Refines scope options focus state (next state.library) traced related) :
    Refines scope options focus state (Build.library >>= next) traced related := by
  rw [Refines, Build.yields_bind, Build.yields_library]
  exact h

/-- Reading a class-like is no step of the trace. -/
theorem classLike {id : ClassId} {found : ClassLike} {next : ClassLike → Build α}
    (known : state.library.classLike? id = some found)
    (h : Refines scope options focus state (next found) traced related) :
    Refines scope options focus state (Build.classLike id >>= next) traced related := by
  rw [Refines, Build.yields_bind, Build.yields_classLike known]
  exact h

/-- Applying a function to the answer is no step of the trace. -/
theorem map {change : α → γ} {change' : β → δ}
    (h : Refines scope options focus state step traced related)
    (holds : ∀ answer after, related after answer traced.value →
      related₂ after (change answer) (change' traced.value)) :
    Refines scope options focus state (step >>= fun answer => pure (change answer))
      (traced >>= fun value => pure (change' value)) related₂ :=
  h.bind fun answer _ coherent _ related => .pure coherent (holds answer _ related)

/-- The trace may go on to answer something else. -/
theorem answer {value : δ} {related₂ : Library → α → δ → Prop}
    (h : Refines scope options Library.nobody state step traced related)
    (holds : ∀ answer after, state.library.Grows Library.nobody after →
      related₂ after answer value) :
    Refines scope options focus state step (traced >>= fun _ => pure value) related₂ :=
  Build.Yields.mono h fun answer after ⟨coherent, steps, _⟩ => ⟨coherent, by
    rw [Traced.events_bind, Traced.events_pure, List.append_nil]
    exact steps.widen, holds answer after.library steps.grows⟩

theorem reportOf {diagnostic bare : Diagnostic} {mentioned : List TypeTree}
    (coherent : state.library.Coherent scope options) (same : diagnostic.bare = bare)
    (tells : List.Forall₂ (fun id tree => state.library.Denotes (.classLike id) tree)
      diagnostic.mentioned mentioned) :
    Refines scope options focus state (Build.report diagnostic) (Traced.reportOf bare mentioned)
      fun _ _ _ => True := by
  rw [Refines, Build.yields_report]
  refine ⟨coherent, ⟨.refl _, ⟨[diagnostic], by simp, ?_⟩, ⟨[], by simp⟩, ?_⟩, trivial⟩
  · exact .cons ⟨same, tells⟩ .nil
  · intro tree
    simp [Traced.reportOf, requests]

/-- A diagnostic that mentions no class-like. -/
theorem report {diagnostic : Diagnostic} (coherent : state.library.Coherent scope options)
    (silent : diagnostic.bare = diagnostic ∧ diagnostic.mentioned = []) :
    Refines scope options focus state (Build.report diagnostic) (Traced.report diagnostic)
      fun _ _ _ => True :=
  reportOf coherent silent.1 (silent.2 ▸ .nil)

/-- Reporting for each member of a list. -/
theorem forM {ι : Type} {f : ι → Build Unit} {g : ι → Traced Unit}
    (step : ∀ i state, state.library.Coherent scope options →
      Refines scope options focus state (f i) (g i) fun _ _ _ => True) :
    ∀ (is : List ι) (state : BuildState), state.library.Coherent scope options →
      Refines scope options focus state (is.forM f) (is.forM g) fun _ _ _ => True
  | [], _, coherent => .pure coherent trivial
  | i :: is, state, coherent =>
    (step i state coherent).bind fun _ after coherent _ _ => forM step is after coherent

/-- Doing something for each member of a list, while an account of it is kept
along a related list. -/
theorem forM_foldlM_related {ι κ σ : Type} {f : ι → Build Unit} {g : σ → κ → Traced σ}
    {invariant : Library → σ → Prop} {is : List ι} {ks : List κ} {r : ι → κ → Prop}
    (step : ∀ k ∈ ks, ∀ i, r i k → ∀ (state : BuildState) (s : σ),
      state.library.Coherent scope options → invariant state.library s →
        Refines scope options focus state (f i) (g s k) fun after _ s => invariant after s)
    {state : BuildState} {s : σ} (coherent : state.library.Coherent scope options)
    (holds : invariant state.library s) (all : List.Forall₂ r is ks) :
    Refines scope options focus state (is.forM f) (ks.foldlM g s) fun after _ s =>
      invariant after s := by
  induction all generalizing state s with
  | nil => exact .pure coherent holds
  | @cons i k is ks first later ih =>
    rw [List.foldlM_cons]
    exact (step k (by simp) i first state s coherent holds).bind fun _ after coherent _ holds =>
      ih (fun k mem => step k (by simp [mem])) coherent holds

/-- Doing something for each member of a list, while an account of it is kept. -/
theorem forM_foldlM {ι σ : Type} {f : ι → Build Unit} {g : σ → ι → Traced σ}
    {invariant : Library → σ → Prop} {is : List ι}
    (step : ∀ i ∈ is, ∀ (state : BuildState) (s : σ), state.library.Coherent scope options →
      invariant state.library s →
        Refines scope options focus state (f i) (g s i) fun after _ s => invariant after s)
    {state : BuildState} {s : σ} (coherent : state.library.Coherent scope options)
    (holds : invariant state.library s) :
    Refines scope options focus state (is.forM f) (is.foldlM g s) fun after _ s =>
      invariant after s :=
  forM_foldlM_related (fun i mem _ same => same ▸ step i mem) coherent holds
    (List.forall₂_same.2 fun _ _ => rfl)

/-- Doing something for each member of a list, and collecting the answers. -/
theorem mapM {f : α → Build γ} {g : β → Traced δ} {r : α → β → Prop} {xs : List α} {ys : List β}
    (step : ∀ y ∈ ys, ∀ x, r x y → ∀ after : BuildState, after.library.Coherent scope options →
      state.library.Grows Library.nobody after.library →
        Refines scope options Library.nobody after (f x) (g y) related₂)
    (stays : ∀ before after c d, Library.Grows Library.nobody before after →
      related₂ before c d → related₂ after c d)
    (coherent : state.library.Coherent scope options) (all : List.Forall₂ r xs ys) :
    Refines scope options Library.nobody state (xs.mapM f) (ys.mapM g) fun after =>
      List.Forall₂ (related₂ after) := by
  induction ys generalizing xs state with
  | nil =>
    cases all
    exact .pure coherent .nil
  | cons y ys ih =>
    cases all with
    | cons first later =>
      rw [List.mapM_cons, List.mapM_cons]
      refine (step y (by simp) _ first state coherent (.refl _)).bind
        fun c after coherent grows related => ?_
      refine (ih (fun y mem x related after coherent grows' => step y (by simp [mem]) x related
        after coherent (grows.trans grows')) coherent later).bind
          fun cs _ coherent grows' relatedAll => ?_
      exact .pure coherent (.cons (stays _ _ _ _ grows' related) relatedAll)

/-- Doing something if there is something to do it with. -/
theorem optionMapM {f : α → Build γ} {g : β → Traced δ} {r : α → β → Prop} {x? : Option α}
    {y? : Option β}
    (step : ∀ x y, r x y → Refines scope options Library.nobody state (f x) (g y) related₂)
    (coherent : state.library.Coherent scope options) (all : Option.Rel r x? y?) :
    Refines scope options Library.nobody state (x?.mapM f) (y?.mapM g) fun after =>
      Option.Rel (related₂ after) := by
  cases all with
  | none => exact .pure coherent .none
  | @some x y related =>
    rw [show (some x).mapM f = some <$> f x from rfl, show (some y).mapM g = some <$> g y from rfl,
      ← bind_pure_comp, ← bind_pure_comp]
    exact (step x y related).map fun _ _ related => .some related

theorem reportUnmet {signature : String} (unmet? : Option Unmet)
    (coherent : state.library.Coherent scope options) :
    Refines scope options focus state (Build.reportUnmet signature unmet?)
      (Traced.reportUnmet signature unmet?) fun _ _ _ => True := by
  cases unmet? with
  | none => exact .pure coherent trivial
  | some unmet => exact report coherent ⟨rfl, rfl⟩

theorem tokens (signature : String) (coherent : state.library.Coherent scope options) :
    Refines scope options focus state (Build.tokens signature) (Traced.tokens signature)
      fun _ tokens tokens' => tokens = (tokenize signature).significant ∧ tokens' = tokens :=
  (forM (fun _ _ coherent => report coherent ⟨rfl, rfl⟩) _ state coherent).bind
    fun _ _ coherent _ _ => .pure coherent ⟨rfl, rfl⟩

theorem nameOf? {signature : String} (name : Except Unmet String)
    (coherent : state.library.Coherent scope options) :
    Refines scope options focus state (Build.nameOf? signature name)
      (Traced.nameOf? signature name) fun _ name? name?' => name? = name?' := by
  cases name with
  | ok name => exact .pure coherent rfl
  | error unmet =>
    exact (report coherent ⟨rfl, rfl⟩).bind fun _ _ coherent _ _ => .pure coherent rfl

/-! ## Silence -/

/-- Where the trace tells of no diagnostic, none is logged. -/
theorem exists_run_of_silent (refines : Refines scope options focus state step traced related)
    (silent : reports traced.events = []) : ∃ answer after,
      step.run.run state = (.ok answer, after) ∧ after.log.toList = state.log.toList
        ∧ related after.library answer traced.value := by
  obtain ⟨answer, after, run, _, steps, holds⟩ := Build.Yields.exists_run refines
  obtain ⟨diagnostics, log, tells⟩ := steps.log
  rw [silent, List.forall₂_nil_right_iff] at tells
  exact ⟨answer, after, run, by rw [log, tells, List.append_nil], holds⟩

/-- Where nothing is logged, the trace tells of no diagnostic. -/
theorem silent_of_run {answer : α} {after : BuildState}
    (refines : Refines scope options focus state step traced related)
    (run : step.run.run state = (.ok answer, after))
    (silent : after.log.toList = state.log.toList) : reports traced.events = [] := by
  obtain ⟨_, _, run', _, steps, _⟩ := Build.Yields.exists_run refines
  cases run.symm.trans run'
  obtain ⟨diagnostics, log, tells⟩ := steps.log
  rw [silent, List.self_eq_append_right] at log
  subst log
  exact List.forall₂_nil_left_iff.1 tells

end Refines

end ClassModel
