import ClassModel.Proofs.Prototypes
import ClassModel.Proofs.Run

/-!
# ClassModel.Proofs.Variation

A second compilation that differs from a first one by a `Variation`: the
signatures have other texts that read the same, it is strict or not, and where a
diagnostic of some kind is reported nothing is asked of it. Its step follows the
one of the first compilation (`Build.Follows`) if it comes to the same answer and
the same state, but for the texts that are kept in the library and the signatures
that are quoted in what is reported, whatever was reported before. What is
reported tells which of the compilations is strict.

Steps that follow one another are put together here, from the elementary ones
on. The walk through the stages is another module's.
-/

namespace ClassModel

/-! ## Texts -/

/-- The texts have the same meaningful tokens, and the same lexical errors if
there are any. -/
structure SameTokens (text text' : String) : Prop where
  errors : (tokenize text').errors = (tokenize text).errors
  significant : (tokenize text').significant = (tokenize text).significant

/-- The change gives every text one that reads the same. -/
def IsRespelling (respell : String → String) : Prop := ∀ text, SameTokens text (respell text)

/-- The declaration with other texts for its signatures. -/
def Declaration.respell (respell : String → String) (declaration : Declaration) : Declaration :=
  { declaration with
    signature := respell declaration.signature
    attributes := declaration.attributes.map respell
    methods := declaration.methods.map fun method => (respell method.1, method.2) }

/-- The diagnostic with another text for the signature that it quotes as it was
written. The instantiation that is nested too deeply is no such quotation: it
is told in its canonical form. -/
def Diagnostic.requote (quote : String → String) : Diagnostic → Diagnostic
  | lexical signature error => lexical (quote signature) error
  | unexpectedToken signature unmet => unexpectedToken (quote signature) unmet
  | expectedType signature found => expectedType (quote signature) found
  | unknownType signature identifier => unknownType (quote signature) identifier
  | unrecognizedKeyword signature found strict =>
    unrecognizedKeyword (quote signature) found strict
  | mismatchedArguments signature classLike expected found strict =>
    mismatchedArguments (quote signature) classLike expected found strict
  | implementsOnInterface signature => implementsOnInterface (quote signature)
  | invalidSupertype signature supertype expected =>
    invalidSupertype (quote signature) supertype expected
  | expectedClassLike signature found => expectedClassLike (quote signature) found
  | multipleSuperclasses signature existing ignored =>
    multipleSuperclasses (quote signature) existing ignored
  | redefinedClassLike existing signature => redefinedClassLike existing (quote signature)
  | misplacedEllipsis signature parameter => misplacedEllipsis (quote signature) parameter
  | depthExceeded signature maximum => depthExceeded signature maximum
  | redefinedMember classLike member => redefinedMember classLike member
  | unknownStaticValue classLike identifier => unknownStaticValue classLike identifier
  | cyclicInheritance classLike => cyclicInheritance classLike

/-- The diagnostic of another mode: a misuse tells whether the compilation is
strict. -/
def Diagnostic.mapStrict (change : Bool → Bool) : Diagnostic → Diagnostic
  | unrecognizedKeyword signature found strict =>
    unrecognizedKeyword signature found (change strict)
  | mismatchedArguments signature classLike expected found strict =>
    mismatchedArguments signature classLike expected found (change strict)
  | other => other

/-- The diagnostic as it is told in strict mode, or without it. -/
abbrev Diagnostic.inMode (strict : Bool) : Diagnostic → Diagnostic := mapStrict fun _ => strict

theorem Diagnostic.mapStrict_id : mapStrict id = id := by
  funext diagnostic
  cases diagnostic <;> rfl

/-- How a second compilation may differ from a first one. -/
structure Variation where
  /-- The texts of the second one. -/
  respell : String → String
  /-- The quotations are told apart by this much. -/
  quote : String → String
  /-- Whether the second one is strict. -/
  strict : Bool → Bool
  /-- Where the first one reports such a diagnostic, the second one is free. -/
  frees : Diagnostic → Prop
  isRespelling : IsRespelling respell
  quote_respell (text : String) : quote (respell text) = quote text

namespace Variation

variable (variation : Variation)

/-- The declaration with the other texts. -/
abbrev declaration : Declaration → Declaration := Declaration.respell variation.respell

/-- The class-like with the other texts in its declaration. -/
abbrev classLike : ClassLike → ClassLike :=
  ClassLike.withPrototype (Option.map variation.declaration)

/-- The library with the other texts in the declarations of its class-likes. -/
abbrev library : Library → Library := Library.withPrototypes (Option.map variation.declaration)

/-- What is told in place of the diagnostic, as far as it is told apart. -/
def retell (diagnostic : Diagnostic) : Diagnostic :=
  (diagnostic.mapStrict variation.strict).requote variation.quote

/-- In the same mode the same is told. -/
theorem retell_of_strict_eq {variation : Variation} (same : variation.strict = id) :
    variation.retell = Diagnostic.requote variation.quote := by
  funext diagnostic
  rw [retell, same, Diagnostic.mapStrict_id]
  rfl

/-- The registered declaration with the other header. -/
def intake (intake : Intake) : Intake :=
  { intake with signature := variation.respell intake.signature }

end Variation

/-- The states differ in the texts of declarations and in what has been
reported. -/
structure BuildState.Varies (variation : Variation) (state state' : BuildState) : Prop where
  library : state'.library = variation.library state.library
  pending : state'.pending = state.pending

namespace Build

variable {α β γ δ ι κ : Type} {variation : Variation} {change : α → β}

/-- The first step only adds to what has been reported. Unless it reports a
diagnostic that frees the second one, the second one answers what becomes of the
answer of the first one by the change, and adds the same diagnostics but for
their quotations and for the mode in which they are told. -/
def Follows (variation : Variation) (change : α → β) (step : Build α) (step' : Build β) : Prop :=
  ∀ state, ∃ added, (step.run.run state).2.log.toList = state.log.toList ++ added
    ∧ ((∀ diagnostic ∈ added, ¬ variation.frees diagnostic) →
      ∀ state', state.Varies variation state' →
        (step'.run.run state').1 = (step.run.run state).1.map change
          ∧ (step.run.run state).2.Varies variation (step'.run.run state').2
          ∧ ∃ added', (step'.run.run state').2.log.toList = state'.log.toList ++ added'
            ∧ added'.map (Diagnostic.requote variation.quote) = added.map variation.retell)

namespace Follows

/-! ## Putting steps together -/

/-- A step that reports nothing. -/
theorem of_silent {step : Build α} {step' : Build β}
    (silent : ∀ state, (step.run.run state).2.log = state.log)
    (same : ∀ state state', state.Varies variation state' →
      (step'.run.run state').1 = (step.run.run state).1.map change
        ∧ (step.run.run state).2.Varies variation (step'.run.run state').2
        ∧ (step'.run.run state').2.log = state'.log) : Follows variation change step step' := by
  intro state
  refine ⟨[], by rw [silent, List.append_nil], fun _ state' varies => ?_⟩
  obtain ⟨answer, varies, silent'⟩ := same state state' varies
  exact ⟨answer, varies, [], by rw [silent', List.append_nil], rfl⟩

theorem pure (value : α) : Follows variation change (pure value) (pure (change value)) :=
  .of_silent (fun _ => rfl) fun _ _ varies => ⟨rfl, varies, rfl⟩

theorem throw (error : CompileError) : Follows variation change (throw error) (throw error) :=
  .of_silent (fun _ => rfl) fun _ _ varies => ⟨rfl, varies, rfl⟩

theorem bind_change {change' : γ → δ} {step : Build α} {step' : Build β} {next : α → Build γ}
    {next' : β → Build δ} (first : Follows variation change step step')
    (rest : ∀ value, Follows variation change' (next value) (next' (change value))) :
    Follows variation change' (step >>= next) (step' >>= next') := by
  intro state
  obtain ⟨added, log, same⟩ := first state
  simp only [run_bind]
  generalize step.run.run state = ran at log same
  obtain ⟨answer, after⟩ := ran
  cases answer with
  | error error =>
    refine ⟨added, log, fun silent state' varies => ?_⟩
    have along := same silent state' varies
    generalize step'.run.run state' = ran' at along
    obtain ⟨answer', after'⟩ := ran'
    obtain ⟨answer, varies, logged⟩ := along
    cases answer
    exact ⟨rfl, varies, logged⟩
  | ok value =>
    obtain ⟨later, log', same'⟩ := rest value after
    refine ⟨added ++ later, by rw [log', log, List.append_assoc], fun silent state' varies => ?_⟩
    rw [List.forall_mem_append] at silent
    have along := same silent.1 state' varies
    generalize step'.run.run state' = ran' at along
    obtain ⟨answer', after'⟩ := ran'
    obtain ⟨answer, varies, added', logged, quoted⟩ := along
    cases answer
    obtain ⟨answer, varies, later', logged', quoted'⟩ := same' silent.2 after' varies
    refine ⟨answer, varies, added' ++ later', ?_, ?_⟩
    · rw [logged', logged, List.append_assoc]
    · rw [List.map_append, List.map_append, quoted, quoted']

/-- After the same answer. -/
theorem bind {step step' : Build γ} {next : γ → Build α} {next' : γ → Build β}
    (first : Follows variation id step step')
    (rest : ∀ value, Follows variation change (next value) (next' value)) :
    Follows variation change (step >>= next) (step' >>= next') :=
  first.bind_change rest

theorem map {step step' : Build α} (f : α → γ) (first : Follows variation id step step') :
    Follows variation id (f <$> step) (f <$> step') := by
  rw [← bind_pure_comp, ← bind_pure_comp]
  exact first.bind fun _ => .pure _

theorem forM_map {f : ι → Build PUnit} {f' : κ → Build PUnit} (g : ι → κ) {values : List ι}
    (each : ∀ value, Follows variation id (f value) (f' (g value))) :
    Follows variation id (values.forM f) ((values.map g).forM f') := by
  induction values with
  | nil => exact .pure _
  | cons value values ih => exact (each value).bind fun _ => ih

theorem forM {f f' : ι → Build PUnit} {values : List ι}
    (each : ∀ value, Follows variation id (f value) (f' value)) :
    Follows variation id (values.forM f) (values.forM f') := by
  have mapped : Follows variation id (values.forM f) ((values.map id).forM f') := forM_map id each
  rwa [List.map_id] at mapped

theorem mapM {f f' : ι → Build α} {values : List ι}
    (each : ∀ value, Follows variation id (f value) (f' value)) :
    Follows variation id (values.mapM f) (values.mapM f') := by
  induction values with
  | nil =>
    rw [List.mapM_nil, List.mapM_nil]
    exact .pure _
  | cons value values ih =>
    rw [List.mapM_cons, List.mapM_cons]
    exact (each value).bind fun _ => ih.bind fun _ => .pure _

theorem optionMapM {f f' : ι → Build α} (each : ∀ value, Follows variation id (f value) (f' value))
    (value? : Option ι) : Follows variation id (value?.mapM f) (value?.mapM f') := by
  cases value? with
  | none => exact .pure _
  | some value => exact (each value).map _

end Follows

/-- Where the first step reports a diagnostic that frees the second one, nothing
is asked of that. -/
theorem follows_of_frees {diagnostic : Diagnostic} (frees : variation.frees diagnostic) (value : α)
    (step' : Build β) :
    Follows variation change (report diagnostic >>= fun _ => pure value) step' := fun state =>
  ⟨[diagnostic], state.log.toList_report diagnostic,
    fun silent => absurd frees (silent _ List.mem_cons_self)⟩

/-! ## Elementary steps -/

/-- The library is read, for its outline or for the texts in it. -/
theorem follows_library {next : Library → Build α} {next' : Library → Build β}
    (rest : ∀ library, library.SameOutline (variation.library library) →
      Follows variation change (next library) (next' (variation.library library))) :
    Follows variation change (library >>= next) (library >>= next') := by
  have first : Follows variation variation.library library library :=
    .of_silent (fun _ => rfl) fun _ _ varies => ⟨congrArg Except.ok varies.library, varies, rfl⟩
  exact first.bind_change fun library => rest library library.sameOutline_withPrototypes

/-- The state is looked at for what is the same in both of them. -/
theorem follows_get {next next' : BuildState → Build α}
    (rest : ∀ state, Follows variation id (next state) (next' state))
    (same : ∀ state state', state.Varies variation state' → next' state' = next' state) :
    Follows variation id (get >>= next) (get >>= next') := by
  intro state
  obtain ⟨added, log, follows⟩ := rest state state
  refine ⟨added, log, fun silent state' varies => ?_⟩
  rw [run_get_bind, run_get_bind, same state state' varies]
  exact follows silent state' varies

theorem follows_setLibrary {library library' : Library}
    (same : library' = variation.library library) :
    Follows variation id (setLibrary library) (setLibrary library') :=
  .of_silent (fun _ => rfl) fun _ _ varies => ⟨rfl, ⟨same, varies.pending⟩, rfl⟩

theorem follows_report {diagnostic diagnostic' : Diagnostic}
    (same : diagnostic'.requote variation.quote = variation.retell diagnostic) :
    Follows variation id (report diagnostic) (report diagnostic') := fun state =>
  ⟨[diagnostic], state.log.toList_report diagnostic, fun _ state' varies =>
    ⟨rfl, ⟨varies.library, varies.pending⟩, [diagnostic'], state'.log.toList_report diagnostic',
      congrArg ([·]) same⟩⟩

theorem follows_classLike {id : ClassId} {next : ClassLike → Build α} {next' : ClassLike → Build β}
    (rest : ∀ classLike,
      Follows variation change (next classLike) (next' (variation.classLike classLike))) :
    Follows variation change (classLike id >>= next) (classLike id >>= next') := by
  have first : Follows variation variation.classLike (classLike id) (classLike id) := by
    refine follows_library fun library _ => ?_
    rw [Library.classLike?_withPrototypes]
    cases library.classLike? id with
    | none => exact .throw _
    | some classLike => exact .pure _
  exact first.bind_change rest

theorem follows_modifyClassLike (owner : ClassId) {f : ClassLike → ClassLike}
    (commute : ∀ classLike,
      variation.classLike (f classLike) = f (variation.classLike classLike)) :
    Follows variation id (modifyClassLike owner f) (modifyClassLike owner f) :=
  follows_classLike fun _ => follows_library fun library _ =>
    follows_setLibrary (library.modify_withPrototypes owner commute)

/-- This is the only step that looks into a signature. What follows sees its
meaningful tokens. -/
theorem follows_bind_tokens {signature signature' : String}
    (same : variation.quote signature' = variation.quote signature)
    (errors : (tokenize signature').errors = (tokenize signature).errors)
    {next : List Token → Build α} {next' : List Token → Build β}
    (rest : Follows variation change (next (tokenize signature).significant)
      (next' (tokenize signature').significant)) :
    Follows variation change (tokens signature >>= next) (tokens signature' >>= next') := by
  simp only [tokens, bind_assoc, pure_bind, errors]
  exact .bind (.forM fun error => follows_report (congrArg (Diagnostic.lexical · error) same))
    fun _ => rest

theorem follows_tokens (signature : String) :
    Follows variation id (tokens signature) (tokens (variation.respell signature)) := by
  have reads := variation.isRespelling signature
  rw [← bind_pure (tokens signature), ← bind_pure (tokens (variation.respell signature))]
  refine follows_bind_tokens (variation.quote_respell signature) reads.errors ?_
  rw [reads.significant]
  exact .pure _

end Build

end ClassModel
