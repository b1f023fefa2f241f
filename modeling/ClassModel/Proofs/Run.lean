import ClassModel.Compile

/-!
# ClassModel.Proofs.Run

How the steps of a compilation run. `Build.Yields` says that a step ends with
an answer, and what holds of the answer and of the state after it. It has one
equation for each way of putting steps together and for each elementary step,
so a stage is opened by rewriting, and its parts are used through what they
yield. `Build.Answers` says that a step ends with the answer and changes nothing.
The outcome of a compilation is that of the run of its stages
(`compile_eq_ofRun`).
-/

namespace ClassModel

namespace Build

variable {α β : Type} {state : BuildState} {post post' : α → BuildState → Prop}

/-- The step ends with an answer, and the condition holds of the answer and of
the state that the step leaves behind. -/
def Yields (step : Build α) (state : BuildState) (post : α → BuildState → Prop) : Prop :=
  match step.run.run state with
  | (.ok answer, after) => post answer after
  | (.error _, _) => False

/-- A step that yields something has run to an answer. -/
theorem Yields.exists_run {step : Build α} (yields : step.Yields state post) :
    ∃ answer after, step.run.run state = (.ok answer, after) ∧ post answer after := by
  unfold Yields at yields
  split at yields
  · next answer after run => exact ⟨answer, after, run, yields⟩
  · exact yields.elim

theorem Yields.mono {step : Build α} (yields : step.Yields state post)
    (weaker : ∀ answer after, post answer after → post' answer after) :
    step.Yields state post' := by
  unfold Yields at yields ⊢
  split at yields
  · exact weaker _ _ yields
  · exact yields

/-! ## Putting steps together -/

theorem run_bind (step : Build α) (next : α → Build β) (state : BuildState) :
    (step >>= next).run.run state = match step.run.run state with
      | (.ok answer, after) => (next answer).run.run after
      | (.error error, after) => (.error error, after) := by
  rw [ExceptT.run_bind, StateT.run_bind]
  rcases step.run.run state with ⟨outcome, after⟩
  cases outcome <;> rfl

theorem run_get_bind (next : BuildState → Build β) (state : BuildState) :
    (get >>= next).run.run state = (next state).run.run state := rfl

theorem run_modify_bind (change : BuildState → BuildState) (next : Unit → Build β)
    (state : BuildState) :
    (modify change >>= next).run.run state = (next ()).run.run (change state) := rfl

@[simp] theorem yields_pure (answer : α) :
    (pure answer : Build α).Yields state post ↔ post answer state := Iff.rfl

@[simp] theorem yields_bind (step : Build α) (next : α → Build β)
    (post : β → BuildState → Prop) :
    (step >>= next).Yields state post
      ↔ step.Yields state fun answer after => (next answer).Yields after post := by
  unfold Yields
  rw [run_bind]
  rcases step.run.run state with ⟨outcome, after⟩
  cases outcome <;> rfl

@[simp] theorem yields_map (change : α → β) (step : Build α) (post : β → BuildState → Prop) :
    (change <$> step).Yields state post
      ↔ step.Yields state fun answer after => post (change answer) after := by
  rw [← bind_pure_comp, yields_bind]
  rfl

@[simp] theorem yields_throw (error : CompileError) :
    (throw error : Build α).Yields state post ↔ False := Iff.rfl

/-! ## Elementary steps -/

@[simp] theorem yields_get {post : BuildState → BuildState → Prop} :
    (get : Build BuildState).Yields state post ↔ post state state := Iff.rfl

@[simp] theorem yields_modify {post : Unit → BuildState → Prop}
    (change : BuildState → BuildState) :
    (modify change : Build Unit).Yields state post ↔ post () (change state) := Iff.rfl

@[simp] theorem yields_library {post : Library → BuildState → Prop} :
    library.Yields state post ↔ post state.library state := Iff.rfl

@[simp] theorem yields_setLibrary {post : Unit → BuildState → Prop} (library : Library) :
    (setLibrary library).Yields state post ↔ post () { state with library } := Iff.rfl

@[simp] theorem yields_report {post : Unit → BuildState → Prop} (diagnostic : Diagnostic) :
    (report diagnostic).Yields state post
      ↔ post () { state with log := state.log.report diagnostic } := Iff.rfl

theorem yields_classLike {post : ClassLike → BuildState → Prop} {id : ClassId}
    {found : ClassLike} (known : state.library.classLike? id = some found) :
    (classLike id).Yields state post ↔ post found state := by
  simp [classLike, known]

theorem yields_modifyClassLike {post : Unit → BuildState → Prop} {id : ClassId}
    {found : ClassLike} (known : state.library.classLike? id = some found)
    (change : ClassLike → ClassLike) :
    (modifyClassLike id change).Yields state post
      ↔ post () { state with library := state.library.modify id change } := by
  simp [modifyClassLike, yields_classLike known]

/-! ## Steps that change nothing -/

/-- The step answers without changing anything. -/
def Answers (step : Build α) (state : BuildState) (answer : α) : Prop :=
  step.Yields state fun found after => found = answer ∧ after = state

theorem Answers.pure (answer : α) (state : BuildState) :
    (Pure.pure answer : Build α).Answers state answer := ⟨rfl, rfl⟩

/-- Steps that change nothing follow one another. -/
theorem Answers.bind {step : Build α} {next : α → Build β} {answer : α}
    {answer' : β} (first : step.Answers state answer)
    (later : (next answer).Answers state answer') : (step >>= next).Answers state answer' := by
  rw [Answers, yields_bind]
  refine Yields.mono first ?_
  rintro _ _ ⟨rfl, rfl⟩
  exact later

/-- Reading the library changes nothing. -/
theorem Answers.library {next : Library → Build α} {answer : α}
    (later : (next state.library).Answers state answer) :
    (Build.library >>= next).Answers state answer := by
  have found : Build.library.Answers state state.library := ⟨rfl, rfl⟩
  exact found.bind later

theorem Answers.run_eq {step : Build α} {answer : α}
    (answers : step.Answers state answer) : step.run.run state = (.ok answer, state) := by
  obtain ⟨_, _, run, rfl, rfl⟩ := answers.exists_run
  exact run

end Build

/-! ## The outcome of a run -/

/-- The outcome, once all stages have come to their end. -/
def Outcome.ofCompiled (options : Options) (library : Library) (diagnostics : List Diagnostic) :
    Outcome :=
  let errors := errorCount library diagnostics
  if options.strict && errors > 0 then ⟨.error (.aborted errors), diagnostics⟩
  else ⟨.ok library, diagnostics⟩

namespace Outcome

variable (options : Options) (library : Library) (diagnostics : List Diagnostic)

theorem diagnostics_ofCompiled :
    (ofCompiled options library diagnostics).diagnostics = diagnostics := by
  unfold ofCompiled
  dsimp only
  split <;> rfl

theorem result_ofCompiled : (ofCompiled options library diagnostics).result =
    if options.strict ∧ errorCount library diagnostics ≠ 0 then
      .error (.aborted (errorCount library diagnostics))
    else .ok library := by
  unfold ofCompiled
  dsimp only
  simp only [gt_iff_lt, Nat.pos_iff_ne_zero, Bool.and_eq_true, decide_eq_true_iff]
  split <;> rfl

theorem result_ofCompiled_ne :
    (ofCompiled options library diagnostics).result ≠ .error .budgetExhausted := by
  rw [result_ofCompiled]
  split <;> simp

/-- A library without a diagnostic is returned in any mode. -/
theorem ofCompiled_nil : ofCompiled options library [] = ⟨.ok library, []⟩ := by
  simp [ofCompiled, errorCount]

/-- A library that is returned is the one that was compiled. -/
theorem eq_of_result_ofCompiled {found : Library}
    (returned : (ofCompiled options library diagnostics).result = .ok found) : found = library := by
  rw [result_ofCompiled] at returned
  split at returned <;> cases returned
  rfl

end Outcome

/-- The outcome of a run of all stages. -/
def Outcome.ofRun (options : Options) (ran : Except CompileError Unit × BuildState) : Outcome :=
  match ran.1 with
  | .error error => ⟨.error error, ran.2.log.toList⟩
  | .ok () => .ofCompiled options ran.2.library ran.2.log.toList

theorem Outcome.diagnostics_ofRun (options : Options)
    (ran : Except CompileError Unit × BuildState) :
    (ofRun options ran).diagnostics = ran.2.log.toList := by
  obtain ⟨_ | _, state⟩ := ran
  · rfl
  · exact diagnostics_ofCompiled ..

theorem compile_eq_ofRun (declarations : List Declaration) (options : Options) (budget : Nat) :
    compile declarations options budget
      = .ofRun options ((Build.compileAll options budget
          (Standard.prelude ++ declarations)).run.run {}) := by
  unfold compile
  dsimp only
  generalize (Build.compileAll options budget
    (Standard.prelude ++ declarations)).run.run {} = ran
  obtain ⟨result, state⟩ := ran
  cases result <;> rfl

end ClassModel
