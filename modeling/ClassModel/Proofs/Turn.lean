import ClassModel.Proofs.Cycles

/-!
# ClassModel.Proofs.Turn

The turn of a header. In the second stage the headers are resolved one after
another, each in the state that the earlier ones have left (`Build.HeaderTurn`).
When it is the turn of a header, nothing but its registration is known of its
class-like, and what it makes of the class-like stays until the end of the stage
(`Build.HeaderTurn.exists_traces`).
-/

namespace ClassModel

/-- A list that is related to a split one is split alike. -/
theorem Related.exists_append_cons {α β : Type} {r : α → β → Prop} {earlier later : List α} {x : α}
    {ys : List β} (h : List.Forall₂ r (earlier ++ x :: later) ys) :
    ∃ earlier' y later', ys = earlier' ++ y :: later' ∧ List.Forall₂ r earlier earlier'
      ∧ r x y ∧ List.Forall₂ r later later' := by
  induction earlier generalizing ys with
  | nil =>
    cases h with
    | cons own later => exact ⟨[], _, _, rfl, .nil, own, later⟩
  | cons first earlier ih =>
    cases h with
    | cons related h =>
      obtain ⟨earlier', y, later', rfl, first, own, later⟩ := ih h
      exact ⟨_ :: earlier', y, later', rfl, .cons related first, own, later⟩

namespace Build

/-- In the second stage, the header of the intake is resolved between the states
`before` and `after`, and the stage ends in the state `last`. -/
def HeaderTurn (options : Options) (declarations : List Declaration) (intake : Intake)
    (before after last : BuildState) : Prop :=
  ∃ earlier later registered,
    (registerAll options declarations).run.run {} = (.ok (earlier ++ intake :: later), registered)
      ∧ (earlier.forM (resolveHeader options)).run.run registered = (.ok (), before)
      ∧ (resolveHeader options intake).run.run before = (.ok (), after)
      ∧ (later.forM (resolveHeader options)).run.run after = (.ok (), last)

/-- Steps that have come to their end have each come to its end. -/
theorem exists_run_of_bind {α β : Type} {step : Build α} {next : α → Build β}
    {state last : BuildState} {answer : β}
    (run : (step >>= next).run.run state = (.ok answer, last)) : ∃ middle after,
      step.run.run state = (.ok middle, after)
        ∧ (next middle).run.run after = (.ok answer, last) := by
  rw [run_bind] at run
  rcases found : step.run.run state with ⟨_ | middle, after⟩
  · rw [found] at run
    cases run
  · rw [found] at run
    exact ⟨middle, after, rfl, run⟩

variable {options : Options} {declarations : List Declaration}

/-- The second stage comes to its end, and each header has its turn. -/
theorem exists_headerTurns (options : Options)
    (sound : Registration.Sound (registrationsOf declarations)) : ∃ intakes last,
      (readHeaders options declarations).run.run {} = (.ok intakes, last)
        ∧ ∀ intake ∈ intakes, ∃ before after,
          HeaderTurn options declarations intake before after last := by
  obtain ⟨intakes, last, read, _⟩ := (yields_readHeaders options sound).exists_run
  refine ⟨intakes, last, read, fun intake mem => ?_⟩
  obtain ⟨intakes, registered, register, read⟩ := exists_run_of_bind read
  obtain ⟨_, _, resolve, answer⟩ := exists_run_of_bind read
  cases answer
  obtain ⟨earlier, later, rfl⟩ := List.append_of_mem mem
  have split : (earlier ++ intake :: later).forM (resolveHeader options)
      = earlier.forM (resolveHeader options) >>= fun _ =>
        resolveHeader options intake >>= fun _ => later.forM (resolveHeader options) :=
    List.forM_append
  rw [split] at resolve
  obtain ⟨_, before, first, rest⟩ := exists_run_of_bind resolve
  obtain ⟨_, after, own, rest⟩ := exists_run_of_bind rest
  exact ⟨before, after, earlier, later, registered, register, first, own, rest⟩

/-- What happens in the turn of a header, told by names. -/
structure TracesHeader (options : Options) (declarations : List Declaration) (intake : Intake)
    (registration : Registration) (before after last : BuildState) : Prop where
  mem : registration ∈ registrationsOf declarations
  takes : before.library.Takes intake registration
  coherent : before.library.Coherent (scopeOf declarations) options
  declaredAs : before.library.DeclaredAs (scopeOf declarations) options registration.identifier
    intake.id registration.named
  steps : Steps (· = intake.id) before after
    (registration.named.resolveHeader (scopeOf declarations) options intake.signature
      intake.rest).events
  grows : after.library.Grows Library.anybody last.library
  resolved :
    last.library.DeclaredAs (scopeOf declarations) options registration.identifier intake.id
    (registration.named.resolveHeader (scopeOf declarations) options intake.signature
      intake.rest).value

namespace TracesHeader

variable {intake : Intake} {registration : Registration} {before after last : BuildState}
  (traces : TracesHeader options declarations intake registration before after last)

include traces

theorem grows_last : before.library.Grows Library.anybody last.library :=
  (traces.steps.grows.mono fun _ _ => trivial).trans traces.grows

/-- The library and the scope agree on what is read of the rest of the header. -/
theorem read_eq {classLike : ClassLike}
    (known : before.library.classLike? intake.id = some classLike) :
    HeaderRest.read (before.library.takesArguments intake.id) (!classLike.kind.isEnum) intake.rest
      = .read ((scopeOf declarations).takesArguments registration.identifier)
        (!registration.start.kind.isEnum) registration.start.rest := by
  obtain ⟨_, declared, _, spells⟩ := traces.declaredAs.exists_classLike
  cases known.symm.trans declared.1
  have kind : classLike.kind.isEnum = registration.start.kind.isEnum := by
    have same := congrArg Kind.isEnum spells.kind
    rw [Kind.isEnum_withoutSupertypes] at same
    exact same.trans (Kind.isEnum_withoutSupertypes _)
  rw [kind, traces.takes.rest, traces.coherent.takesArguments_eq traces.declaredAs.isNamed]

end TracesHeader

/-- Headers are resolved as by names. -/
theorem traces_of_run {scope : Scope} {state after : BuildState} {content : String → NamedClass}
    {intakes : List Intake} {registrations : List Registration}
    (coherent : state.library.Coherent scope options)
    (realizes : state.library.Realizes scope options content)
    (takes : List.Forall₂ state.library.Takes intakes registrations)
    (run : (intakes.forM (resolveHeader options)).run.run state = (.ok (), after)) :
    after.library.Coherent scope options
      ∧ state.library.Grows Library.anybody after.library
      ∧ after.library.Realizes scope options
        (Registration.resolveHeaders scope options registrations content).value := by
  obtain ⟨_, _, run', coherent, steps, realizes⟩ :=
    Yields.exists_run (Refines.resolveHeaders coherent realizes takes)
  cases run.symm.trans run'
  exact ⟨coherent, steps.grows, realizes⟩

/-- The declarations are registered, and taken in in their order. -/
theorem exists_registered (options : Options)
    (sound : Registration.Sound (registrationsOf declarations)) : ∃ intakes registered,
      (registerAll options declarations).run.run {} = (.ok intakes, registered)
        ∧ registered.library.Registered ((registrationsOf declarations).map Registration.entry)
        ∧ registered.library.Coherent (scopeOf declarations) options
        ∧ List.Forall₂ registered.library.Takes intakes (registrationsOf declarations) := by
  obtain ⟨intakes, registered, register, registering, takes⟩ :=
    Yields.exists_run (Registering.registerAll_start options declarations)
  have isRegistered : registered.library.Registered
      ((registrationsOf declarations).map Registration.entry) := registering.registered
  exact ⟨intakes, registered, register, isRegistered, isRegistered.coherent sound, takes⟩

/-- In its turn a header is resolved as by names. -/
theorem HeaderTurn.exists_traces {intake : Intake} {before after last : BuildState}
    (sound : Registration.Sound (registrationsOf declarations))
    (turn : HeaderTurn options declarations intake before after last) : ∃ registration,
      TracesHeader options declarations intake registration before after last
        ∧ ∀ {intakes registered},
          (registerAll options declarations).run.run {} = (.ok intakes, registered) →
            registered.library.Takes intake registration := by
  obtain ⟨earlier, later, registered, register, first, own, rest⟩ := turn
  obtain ⟨_, _, register', isRegistered, coherent, takes⟩ := exists_registered options sound
  cases register.symm.trans register'
  obtain ⟨earlier', registration, later', split, takesEarlier, takesOwn, takesLater⟩ :=
    Related.exists_append_cons takes
  have mem : registration ∈ registrationsOf declarations := by simp [split]
  -- The other headers are those of other names.
  obtain ⟨notEarlier, notLater⟩ : registration.identifier ∉ earlier'.map Registration.identifier
      ∧ registration.identifier ∉ later'.map Registration.identifier := by
    have nodup := nodup_declaredNames declarations
    rw [declaredNames, split, List.map_append, List.map_cons] at nodup
    have apart := List.nodup_append.1 nodup
    exact ⟨fun mem => apart.2.2 _ mem _ List.mem_cons_self rfl, (List.nodup_cons.1 apart.2.1).1⟩
  obtain ⟨coherent, grows, realizes⟩ :=
    traces_of_run coherent (isRegistered.realizes sound) takesEarlier first
  have takes : before.library.Takes intake registration :=
    ⟨grows.isNamed_iff.2 takesOwn.isNamed, takesOwn.signature, takesOwn.rest⟩
  have declaredAs := realizes.declaredAs takes.isNamed
  rw [Registration.resolveHeaders, value_reviseAll_of_not_mem notEarlier, Registration.contentOf,
    isRegistered.find?_eq mem] at declaredAs
  obtain ⟨_, _, own', coherent', steps, resolved⟩ :=
    Yields.exists_run (Refines.resolveHeader coherent declaredAs)
  cases own.symm.trans own'
  obtain ⟨_, grows', realizes'⟩ := traces_of_run coherent'
    (realizes.update coherent' steps.grows resolved)
    (Refines.takes_of_grows (grows.trans (steps.grows.mono fun _ _ => trivial)) takesLater) rest
  refine ⟨registration, ⟨mem, takes, coherent, declaredAs, steps, grows', ?_⟩, fun again => by
    cases register.symm.trans again
    exact takesOwn⟩
  have last := realizes'.declaredAs (grows'.isNamed_iff.2 resolved.isNamed)
  rwa [Registration.resolveHeaders, value_reviseAll_of_not_mem notLater, Function.update_self]
    at last

/-- Each registration has its turn. -/
theorem exists_traces_of_mem (options : Options)
    (sound : Registration.Sound (registrationsOf declarations)) {registration : Registration}
    (mem : registration ∈ registrationsOf declarations) : ∃ intake before after last,
      HeaderTurn options declarations intake before after last
        ∧ TracesHeader options declarations intake registration before after last := by
  obtain ⟨intakes, registered, register, isRegistered, _, takes⟩ := exists_registered options sound
  obtain ⟨intake, taken, takes⟩ := Related.exists_of_mem takes mem
  obtain ⟨_, last, read, turns⟩ := exists_headerTurns options sound
  obtain ⟨_, _, register', read⟩ := exists_run_of_bind read
  cases register.symm.trans register'
  obtain ⟨_, _, _, answer⟩ := exists_run_of_bind read
  cases answer
  obtain ⟨before, after, turn⟩ := turns intake taken
  obtain ⟨registration', traces, takes'⟩ := turn.exists_traces sound
  have same := takes.isNamed.name_inj (takes' register).isNamed
  obtain rfl := List.inj_on_of_nodup_map (nodup_declaredNames declarations) mem traces.mem same
  exact ⟨intake, before, after, last, turn, traces⟩

end Build

end ClassModel
