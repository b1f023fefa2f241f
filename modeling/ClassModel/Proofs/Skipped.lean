import ClassModel.Proofs.Lockstep
import ClassModel.Proofs.Register

/-!
# ClassModel.Proofs.Skipped

A declaration that is skipped leaves no trace but what is told of it
(`skips_of_isSkipped`). It is skipped if its header declares no name, or one
that is declared before. Registering it then only adds to what has been reported
(`Build.yields_register_of_refusal?`), and nothing that follows depends on that
(`Build.mirrors_compileRest`).
-/

namespace ClassModel

/-! ## Skipped declarations -/

namespace Declaration

variable (declaration : Declaration)

/-- The start of the header. -/
def start : Except HeaderError HeaderStart :=
  HeaderStart.read (tokenize declaration.signature).significant

/-- The name that the header declares. -/
def name? : Option String := declaration.start.toOption.map (·.identifier)

/-- What is told of the faulty tokens of the header. -/
def faults : List Diagnostic :=
  (tokenize declaration.signature).errors.map (.lexical declaration.signature)

/-- The diagnostic tells why the declaration is skipped. -/
inductive Refusal (options : Options) : Diagnostic → Prop
  /-- No keyword follows the modifiers. -/
  | noKeyword {found : String} : declaration.start = .error (.noKeyword found) →
      Refusal options (.unrecognizedKeyword declaration.signature found options.strict)
  /-- No name follows the keyword. -/
  | noIdentifier {unmet : Unmet} : declaration.start = .error (.noIdentifier unmet) →
      Refusal options (.unexpectedToken declaration.signature unmet)
  /-- The name is taken. -/
  | redefined {start : HeaderStart} (existing : ClassId) : declaration.start = .ok start →
      Refusal options (.redefinedClassLike existing declaration.signature)

/-- After the prelude and the others, the declaration declares no name of its
own. -/
def IsSkipped (former : List Declaration) : Prop :=
  ∀ name ∈ declaration.name?, name ∈ (Standard.prelude ++ former).filterMap name?

instance (former : List Declaration) : Decidable (declaration.IsSkipped former) :=
  inferInstanceAs (Decidable (∀ name ∈ declaration.name?, _))

/-- The declaration cannot be registered besides the class-likes of the
library, which the diagnostic tells. -/
def refusal? (options : Options) (library : Library) : Option Diagnostic :=
  match declaration.start with
  | .error (.noKeyword found) =>
    some (.unrecognizedKeyword declaration.signature found options.strict)
  | .error (.noIdentifier unmet) => some (.unexpectedToken declaration.signature unmet)
  | .ok start =>
    (library.byIdentifier? start.identifier).map (.redefinedClassLike · declaration.signature)

variable {declaration} {options : Options}

theorem refusal_of_refusal? {library : Library} {verdict : Diagnostic}
    (refused : declaration.refusal? options library = some verdict) :
    declaration.Refusal options verdict := by
  unfold refusal? at refused
  split at refused
  · next read =>
    cases refused
    exact .noKeyword read
  · next read =>
    cases refused
    exact .noIdentifier read
  · next read =>
    obtain ⟨existing, _, rfl⟩ := Option.map_eq_some_iff.1 refused
    exact .redefined existing read

/-- Nothing but the header of a declaration decides on it. -/
theorem refusal?_congr {other : Declaration} (same : other.signature = declaration.signature)
    (library : Library) :
    other.refusal? options library = declaration.refusal? options library := by
  rw [refusal?, refusal?, start, start, same]

theorem faults_congr {other : Declaration} (same : other.signature = declaration.signature) :
    other.faults = declaration.faults := by
  rw [faults, faults, same]

end Declaration

namespace Registration

variable {options : Options}

/-- What is declared is registered, unless the name is taken. -/
theorem exists_of_start {declaration : Declaration} {start : HeaderStart}
    (read : declaration.start = .ok start) (taken : List Registration) :
    ∃ registration ∈ taken ++ (read? options taken declaration).value.toList,
      registration.identifier = start.identifier := by
  rw [Declaration.start] at read
  rw [read?, Traced.value_bind, show (Traced.tokens declaration.signature).value
    = (tokenize declaration.signature).significant from rfl, read]
  dsimp only
  split
  · next isTaken =>
    obtain ⟨registration, mem, same⟩ := List.any_eq_true.1 isTaken
    exact ⟨registration, List.mem_append_left _ mem, eq_of_beq same⟩
  · exact ⟨⟨start, declaration⟩, List.mem_append_right _ List.mem_cons_self, rfl⟩

theorem exists_of_name? {declaration : Declaration} {declarations : List Declaration}
    (mem : declaration ∈ declarations) {name : String} (declares : declaration.name? = some name)
    (taken : List Registration) :
    ∃ registration ∈ taken ++ (readAll options taken declarations).value,
      registration.identifier = name := by
  induction declarations generalizing taken with
  | nil => cases mem
  | cons first declarations ih =>
    rw [readAll, Traced.value_bind, Traced.value_bind, Traced.value_pure, ← List.append_assoc]
    rcases List.mem_cons.1 mem with rfl | mem
    · rw [Declaration.name?] at declares
      cases read : declaration.start with
      | error error =>
        rw [read] at declares
        cases declares
      | ok start =>
        rw [read] at declares
        cases declares
        obtain ⟨registration, mem, same⟩ := exists_of_start read taken
        exact ⟨registration, List.mem_append_left _ mem, same⟩
    · exact ih mem _

end Registration

theorem Declaration.exists_refusal? {declaration : Declaration} {former : List Declaration}
    {options : Options} (skipped : declaration.IsSkipped former) {library : Library}
    (registered : library.Registered
      ((Registration.readAll {} [] (Standard.prelude ++ former)).value.map Registration.entry)) :
    ∃ verdict, declaration.refusal? options library = some verdict := by
  cases read : declaration.start with
  | error error => cases error <;> exact ⟨_, by rw [refusal?, read]⟩
  | ok start =>
    obtain ⟨earlier, mem, declares⟩ := List.mem_filterMap.1 <|
      skipped start.identifier (by rw [name?, read]; rfl)
    obtain ⟨registration, mem, same⟩ := Registration.exists_of_name? mem declares []
    have isSome : (library.byIdentifier? start.identifier).isSome := by
      rw [registered.isSome_byIdentifier?, List.any_eq_true]
      exact ⟨registration.entry, List.mem_map_of_mem mem, beq_of_eq same⟩
    obtain ⟨existing, found⟩ := Option.isSome_iff_exists.1 isSome
    exact ⟨.redefinedClassLike existing declaration.signature, by simp [refusal?, read, found]⟩

/-! ## Registering a skipped declaration -/

/-- The state with other reports. -/
def BuildState.reporting (state : BuildState) (diagnostics : List Diagnostic) : BuildState :=
  { state with log := { entries := diagnostics.toArray } }

namespace BuildState

variable (state : BuildState) (diagnostics : List Diagnostic)

@[simp] theorem toList_reporting : (state.reporting diagnostics).log.toList = diagnostics := rfl

@[simp] theorem library_reporting : (state.reporting diagnostics).library = state.library := rfl

theorem after_eq_reporting :
    state.after diagnostics = state.reporting (diagnostics ++ state.log.toList) := by
  simp [after, reporting, Log.after, Log.toList]

end BuildState

namespace Build

variable {α : Type} {options : Options} {state : BuildState} {diagnostics : List Diagnostic}

/-- A step that mirrors itself runs to the same end whatever has been
reported. -/
theorem Mirrors.run_reporting {step : Build α} (mirrors : Mirrors (fun _ => False) step step)
    (state : BuildState) : ∃ (result : Except CompileError α) (last : BuildState), ∀ diagnostics,
      step.run.run (state.reporting diagnostics)
        = (result, last.reporting (diagnostics ++ last.log.toList)) := by
  cases run : step.run.run (state.reporting []) with
  | mk result last =>
    obtain ⟨_, _, same⟩ := mirrors _ _ _ run
    refine ⟨result, last, fun diagnostics => ?_⟩
    have mirrored := same (fun _ _ => not_false) diagnostics
    rw [BuildState.after_eq_reporting, BuildState.after_eq_reporting,
      BuildState.toList_reporting, List.append_nil] at mirrored
    exact mirrored

theorem yields_report_reporting {post : Unit → BuildState → Prop} (diagnostic : Diagnostic) :
    (report diagnostic).Yields (state.reporting diagnostics) post
      ↔ post () (state.reporting (diagnostics ++ [diagnostic])) := by
  rw [yields_report]
  simp [BuildState.reporting, Log.report]

theorem yields_tokens_reporting (signature : String) :
    (tokens signature).Yields (state.reporting diagnostics) fun tokens after =>
      tokens = (tokenize signature).significant ∧ after = state.reporting
        (diagnostics ++ (tokenize signature).errors.map (.lexical signature)) := by
  have all (errors : List LexicalError) :
      (errors.forM fun error => report (.lexical signature error)).Yields
        (state.reporting diagnostics) fun _ after =>
          after = state.reporting (diagnostics ++ errors.map (.lexical signature)) := by
    induction errors generalizing diagnostics with
    | nil => exact congrArg state.reporting (List.append_nil _).symm
    | cons error errors ih =>
      change Yields (report (.lexical signature error) >>= fun _ => List.forM errors _) _ _
      rw [yields_bind, yields_report_reporting, List.map_cons,
        List.append_cons diagnostics _ (errors.map _)]
      exact ih
  unfold tokens
  rw [yields_bind]
  exact (all _).mono fun _ _ same => ⟨rfl, same⟩

/-- Registering a declaration that is refused only tells so. -/
theorem yields_register_of_refusal? {declaration : Declaration} {verdict : Diagnostic}
    (refused : declaration.refusal? options state.library = some verdict)
    (diagnostics : List Diagnostic) :
    (register options declaration).Yields (state.reporting diagnostics) fun intake? after =>
      intake? = none
        ∧ after = state.reporting (diagnostics ++ (declaration.faults ++ [verdict])) := by
  have tell : (report verdict >>= fun _ => pure none : Build (Option Intake)).Yields
      (state.reporting (diagnostics ++ declaration.faults)) fun intake? after => intake? = none
        ∧ after = state.reporting (diagnostics ++ (declaration.faults ++ [verdict])) := by
    rw [yields_bind, yields_report_reporting, List.append_assoc]
    exact ⟨rfl, rfl⟩
  unfold register
  rw [yields_bind]
  refine (yields_tokens_reporting _).mono ?_
  rintro _ _ ⟨rfl, rfl⟩
  unfold Declaration.refusal? Declaration.start at refused
  cases read : HeaderStart.read (tokenize declaration.signature).significant with
  | error error =>
    rw [read] at refused
    cases error <;> cases refused <;> exact tell
  | ok start =>
    rw [read] at refused
    obtain ⟨existing, found, rfl⟩ := Option.map_eq_some_iff.1 refused
    have taken : state.library.register (start.classLike declaration) = .error existing := by
      rw [Library.register,
        show (start.classLike declaration).identifier = start.identifier from rfl, found]
    dsimp only
    rw [yields_bind, yields_library, BuildState.library_reporting, taken]
    exact tell

/-- What follows the registration of the first declarations. -/
def compileRest (options : Options) (budget : Nat) (latter : List Declaration)
    (intakes : List Intake) : Build Unit := do
  let more ← registerAll options latter
  compileIntakes options budget (intakes ++ more)

theorem compileAll_append (options : Options) (budget : Nat) (former latter : List Declaration) :
    compileAll options budget (former ++ latter)
      = registerAll options former >>= compileRest options budget latter := by
  rw [compileAll_eq_registerAll, registerAll_append]
  simp only [bind_assoc, pure_bind]
  rfl

/-- A declaration that is refused has no influence on what follows, except for
what is told of it. -/
theorem run_compileRest_cons {declaration : Declaration} {verdict : Diagnostic}
    (refused : declaration.refusal? options state.library = some verdict) (budget : Nat)
    (latter : List Declaration) (intakes : List Intake) (diagnostics : List Diagnostic) :
    (compileRest options budget (declaration :: latter) intakes).run.run
        (state.reporting diagnostics)
      = (compileRest options budget latter intakes).run.run
        (state.reporting (diagnostics ++ (declaration.faults ++ [verdict]))) := by
  unfold compileRest
  rw [registerAll]
  simp only [bind_assoc, pure_bind]
  obtain ⟨_, _, run, rfl, rfl⟩ := (yields_register_of_refusal? refused diagnostics).exists_run
  rw [run_bind, run]
  simp only [Option.toList_none, List.nil_append]

/-- Nothing else depends on what has been told. -/
theorem mirrors_compileRest (options : Options) (budget : Nat) (latter : List Declaration)
    (intakes : List Intake) : Mirrors (fun _ => False) (compileRest options budget latter intakes)
      (compileRest options budget latter intakes) :=
  ((follows_registerAll_same ⟨rfl, .inl rfl⟩ latter).bind fun _ =>
    follows_compileIntakes_same ⟨rfl, .inl rfl⟩ budget _).mirrors

/-- When the first declarations are registered, a further one that is refused
changes nothing of what follows, and is told of at that place. -/
theorem exists_run_compileAll_append (options : Options) (budget : Nat)
    (former latter : List Declaration) :
    ∃ (library : Library) (result : Except CompileError Unit) (last : BuildState)
        (earlier later : List Diagnostic),
      library.Registered ((Registration.readAll {} [] former).value.map Registration.entry)
        ∧ (compileAll options budget (former ++ latter)).run.run {}
          = (result, last.reporting (earlier ++ later))
        ∧ ∀ (declaration : Declaration) verdict, declaration.refusal? options library
          = some verdict →
          (compileAll options budget (former ++ declaration :: latter)).run.run {}
            = (result, last.reporting (earlier ++ (declaration.faults ++ [verdict]) ++ later)) := by
  obtain ⟨intakes, state, first, registering, _⟩ :=
    (Registering.registerAll_start options former).exists_run
  obtain ⟨result, last, same⟩ :=
    (mirrors_compileRest options budget latter intakes).run_reporting state
  refine ⟨state.library, result, last, state.log.toList, last.log.toList, registering.registered,
    ?_, fun declaration verdict refused => ?_⟩
  · rw [compileAll_append, run_bind, first, ← same]
    rfl
  · rw [compileAll_append, run_bind, first, ← same]
    exact run_compileRest_cons refused budget latter intakes state.log.toList

end Build

/-! ## The outcome -/

/-- The outcome with the declaration is the one without it, but for what is told
of the declaration: its faulty tokens, and then why it is skipped. -/
structure Outcome.Skips (options : Options) (outcome : Outcome) (declaration : Declaration)
    (without : Outcome) : Prop where
  result : outcome.result = without.result
  diagnostics : ∃ earlier verdict later, declaration.Refusal options verdict
    ∧ without.diagnostics = earlier ++ later
    ∧ outcome.diagnostics = earlier ++ (declaration.faults ++ [verdict]) ++ later

/-- What is compiled without strictness is never refused. -/
theorem compile_eq_of_run {declarations : List Declaration} {options : Options} {budget : Nat}
    (lenient : options.strict = false) {result : Except CompileError Unit} {last : BuildState}
    (run : (Build.compileAll options budget
      (Standard.prelude ++ declarations)).run.run {} = (result, last)) :
    compile declarations options budget
      = ⟨result.map fun _ => last.library, last.log.toList⟩ := by
  rw [compile_eq_ofRun, run]
  cases result with
  | error error => rfl
  | ok value => simp [Outcome.ofRun, Outcome.ofCompiled, lenient, Except.map]

/-- A skipped declaration leaves no trace but what is told of it, and nothing but
its header is read. -/
theorem skips_of_isSkipped {former latter : List Declaration} {declaration : Declaration}
    {options : Options} {budget : Nat} (lenient : options.strict = false)
    (skipped : declaration.IsSkipped former) :
    (compile (former ++ [declaration] ++ latter) options budget).Skips options declaration
        (compile (former ++ latter) options budget)
      ∧ ∀ other : Declaration, other.signature = declaration.signature →
        compile (former ++ [other] ++ latter) options budget
          = compile (former ++ [declaration] ++ latter) options budget := by
  obtain ⟨library, result, last, earlier, later, registered, without, along⟩ :=
    Build.exists_run_compileAll_append options budget
      (Standard.prelude ++ former) latter
  obtain ⟨verdict, refused⟩ := declaration.exists_refusal? skipped registered
  rw [List.append_assoc] at without
  have outcome (other : Declaration) (refused : other.refusal? options library = some verdict) :
      compile (former ++ [other] ++ latter) options budget = ⟨result.map fun _ => last.library,
        earlier ++ (other.faults ++ [verdict]) ++ later⟩ := by
    refine compile_eq_of_run lenient (Eq.trans ?_ (along other verdict refused))
    simp only [List.append_assoc, List.singleton_append]
  refine ⟨?_, fun other same => ?_⟩
  · rw [outcome declaration refused, compile_eq_of_run lenient without]
    exact ⟨rfl, earlier, verdict, later, Declaration.refusal_of_refusal? refused, rfl, rfl⟩
  · rw [outcome declaration refused, outcome other
      ((Declaration.refusal?_congr same library).trans refused), Declaration.faults_congr same]

/-- A generic class. -/
def Declaration.box : Declaration where
  signature := "class Box<T>"

/-- Another class of its name, in a header with a faulty token. -/
def Declaration.otherBox : Declaration where
  signature := "class Box<T> # extends Crate"
  attributes := ["T content"]

/-- A class below an instantiation of it. -/
def Declaration.crate : Declaration where
  signature := "class Crate extends Box<String>"

theorem skips_otherBox : Declaration.otherBox.IsSkipped [.box]
    ∧ ({} : Options).strict = false
    ∧ (compile ([.box] ++ [.otherBox] ++ [.crate]) {} 1).Skips {} .otherBox
      (compile ([.box] ++ [.crate]) {} 1) := by
  have skipped : Declaration.otherBox.IsSkipped [.box] := by decide +kernel
  exact ⟨skipped, rfl, (skips_of_isSkipped rfl skipped).1⟩

end ClassModel
