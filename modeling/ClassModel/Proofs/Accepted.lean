import ClassModel.Proofs.AsWritten
import ClassModel.Proofs.Grammar

/-!
# ClassModel.Proofs.Accepted

Methods that are compiled in silence. The readers note what they miss; where
they miss nothing, what they answer is complete, and the tokens that they have
taken have the form that is read (`MethodExpr.isMethod_read`). What is missed is
reported, so a method without a diagnostic has the form of a method, up to commas
behind the last items of lists and empty angle brackets (`isMethod_of_silent`).
-/

namespace ClassModel

theorem Token.eq_of_isMark {token : Token} {mark : Char} (found : token.isMark mark = true) :
    token = .punctuation mark := by
  cases token with
  | punctuation c =>
    rw [isMark, beq_iff_eq] at found
    rw [found]
  | _ => cases found

/-! ## What is taken -/

/-- The tokens are some of the kind, and the rest. -/
def Grammar.Takes (IsTaken : List Token → Prop) (tokens rest : List Token) : Prop :=
  ∃ taken, IsTaken taken ∧ tokens = taken ++ rest

open Grammar

/-- An item, a comma, and what is listed behind it. -/
theorem Grammar.Takes.comma {IsItem : List Token → Prop} {tokens later rest : List Token}
    (first : Takes IsItem tokens (.punctuation ',' :: later))
    (listed : rest = later ∨ Takes (Listed True IsItem) later rest) :
    Takes (Listed True IsItem) tokens rest := by
  obtain ⟨item, isItem, rfl⟩ := first
  rcases listed with rfl | ⟨items, listed, rfl⟩
  · exact ⟨_, .trailed trivial isItem, by rw [List.append_assoc]; rfl⟩
  · exact ⟨_, .cons isItem listed, by rw [List.append_assoc]; rfl⟩

namespace Signature

variable {mark : Char} {tokens rest : List Token}

theorem eq_of_readMark (read : readMark mark tokens = (none, rest)) :
    tokens = .punctuation mark :: rest := by
  cases tokens with
  | nil => cases read
  | cons token tokens =>
    rw [readMark] at read
    split at read
    · next found =>
      cases read
      rw [Token.eq_of_isMark found]
    · cases read

/-- The mark is there, and is read. -/
theorem eq_cons_readMark (met : (readMark mark tokens).1 = none) :
    tokens = .punctuation mark :: (readMark mark tokens).2 :=
  eq_of_readMark (by rw [← met])

theorem eq_of_readMark_unmet {unmet : Unmet} (read : readMark mark tokens = (some unmet, rest)) :
    rest = tokens := by
  cases tokens with
  | nil => cases read; rfl
  | cons token tokens =>
    rw [readMark] at read
    split at read <;> cases read
    rfl

theorem eq_cons_readIdentifier {name : String} (met : (readIdentifier tokens).1 = .ok name) :
    tokens = .identifier name :: (readIdentifier tokens).2 := by
  unfold readIdentifier at met ⊢
  split at met <;> cases met
  rfl

theorem eq_of_readEnd {expected : Expectation} (read : readEnd expected tokens = none) :
    tokens = [] := by
  cases tokens with
  | nil => rfl
  | cons => cases read

end Signature

open Signature

theorem Modifiers.takes_readMore (modifiers : Modifiers) (tokens : List Token) :
    ∃ words : List Keyword, (∀ word ∈ words, word.IsModifier)
      ∧ tokens = words.map .keyword ++ (readMore modifiers tokens).2 := by
  fun_induction readMore modifiers tokens with
  | case1 modifiers word rest added adds ih =>
    obtain ⟨words, all, same⟩ := ih
    refine ⟨word :: words, List.forall_mem_cons.2 ⟨?_, all⟩, congrArg (_ :: ·) same⟩
    cases word <;> first | rfl | cases adds
  | case2 | case3 => exact ⟨[], by simp, rfl⟩

namespace TypeExpr

/-- Nothing is missed in the type. Only names of the kind have no arguments between
their angle brackets. -/
def IsComplete (empties : String → Prop) : TypeExpr → Prop
  | missing _ _ => False
  | name _ _ => True
  | application identifier arguments unclosed? _ => unclosed? = none
    ∧ (arguments = [] → empties identifier)
    ∧ ∀ argument ∈ arguments, argument.IsComplete empties

theorem eq_of_readDimension (tokens : List Token) :
    tokens = TypeTree.bracketTokens (readDimension tokens).1 ++ (readDimension tokens).2 := by
  fun_induction readDimension tokens with
  | case1 first second rest found dimension rest' read ih =>
    rw [read] at ih
    rw [Bool.and_eq_true] at found
    rw [Token.eq_of_isMark found.1, Token.eq_of_isMark found.2, TypeTree.bracketTokens,
      List.cons_append, List.cons_append, ← ih]
  | case2 | case3 => rfl

variable {empties : String → Prop} {takesArguments : String → Bool}

theorem takes_name (identifier : String) (rest : List Token) :
    Takes (IsType (.lenient empties)) (.identifier identifier :: rest) (readDimension rest).2 :=
  ⟨_, .name identifier _, congrArg (_ :: ·) (eq_of_readDimension rest)⟩

/-- A name, and arguments between angle brackets. -/
theorem takes_application (identifier : String) {opened listed rest : List Token}
    (closed : listed = .punctuation '>' :: rest)
    (arguments : empties identifier ∧ listed = opened
      ∨ Takes (Listed True (IsType (.lenient empties))) opened listed) :
    Takes (IsType (.lenient empties)) (.identifier identifier :: .punctuation '<' :: opened)
      (readDimension rest).2 := by
  have brackets := eq_of_readDimension rest
  subst closed
  rcases arguments with ⟨allowed, rfl⟩ | ⟨arguments, listed, rfl⟩
  · exact ⟨_, .empty identifier _ allowed, congrArg (_ :: _ :: _ :: ·) brackets⟩
  · refine ⟨_, .application identifier (readDimension rest).1 listed, ?_⟩
    rw [List.cons_append, List.cons_append, List.append_assoc, List.cons_append, ← brackets]

/-- What is complete has been read of the tokens of a type, or of a list of types. -/
theorem takes_reading :
    (∀ bound tokens, (readWithin takesArguments bound tokens).1.IsComplete empties →
        Takes (IsType (.lenient empties)) tokens (readWithin takesArguments bound tokens).2)
      ∧ ∀ bound tokens, (∀ argument ∈ (readArgumentsWithin takesArguments bound tokens).1,
          argument.IsComplete empties) →
        (readArgumentsWithin takesArguments bound tokens).1 = []
            ∧ (readArgumentsWithin takesArguments bound tokens).2 = tokens
          ∨ Takes (Listed True (IsType (.lenient empties))) tokens
            (readArgumentsWithin takesArguments bound tokens).2 := by
  apply reading_induction
  case zero | nil => simp [readWithin, IsComplete]
  case name =>
    intro bound identifier rest arguments complete
    rw [readWithin] at complete ⊢
    split
    · next after takes opens =>
      -- The name takes arguments, and they are opened.
      have listed := arguments after
      simp only [takes, opens, IsComplete] at complete
      rcases read : readArgumentsWithin takesArguments bound after with ⟨arguments, after'⟩
      rw [read] at listed complete
      rcases close : readMark '>' after' with ⟨unclosed?, rest'⟩
      rw [close] at complete
      obtain ⟨rfl : unclosed? = none, filled, complete⟩ := complete
      simp only [close, eq_of_readMark opens]
      exact takes_application identifier (eq_of_readMark close)
        ((listed complete).imp_left (And.imp_left filled))
    · exact takes_name identifier rest
  case missing =>
    intro bound found rest noName complete
    rw [readWithin_of_noName noName, IsComplete] at complete
    cases complete
  case none =>
    intro bound tokens stops _
    exact .inl (by simp [stops])
  case argument =>
    intro bound identifier rest first later complete
    rcases read : readWithin takesArguments bound (.identifier identifier :: rest)
      with ⟨type, rest'⟩
    rw [read] at first
    simp only [readArgumentsWithin, read] at complete ⊢
    -- Behind a comma there may be no further argument.
    right
    rcases comma : readMark ',' rest' with ⟨_ | unmet, rest''⟩
    · simp only [comma, List.forall_mem_cons] at complete ⊢
      have first := first complete.1
      rw [eq_of_readMark comma] at first
      exact first.comma ((later rest'' complete.2).imp_left And.right)
    · simp only [comma, List.forall_mem_singleton] at complete ⊢
      obtain ⟨taken, isType, same⟩ := first complete
      exact ⟨taken, .last isType, by rw [same, eq_of_readMark_unmet comma]⟩

theorem takes_read {tokens : List Token}
    (complete : (read takesArguments tokens).1.IsComplete empties) :
    Takes (IsType (.lenient empties)) tokens (read takesArguments tokens).2 :=
  takes_reading.1 _ tokens complete

end TypeExpr

/-- Nothing is missed in the formal parameter. -/
structure FormalExpr.IsComplete (empties : String → Prop) (expr : FormalExpr) : Prop where
  type : expr.type.IsComplete empties
  identifier : ∃ name, expr.identifier = .ok name

/-- Nothing is missed in the list of formal parameters. -/
structure FormalListExpr.IsComplete (empties : String → Prop) (expr : FormalListExpr) : Prop where
  unopened? : expr.unopened? = none
  formals : ∀ formal ∈ expr.formals, formal.IsComplete empties
  unclosed? : expr.unclosed? = none

namespace MethodExpr

/-- Nothing is missed in the method. -/
structure IsComplete (empties : String → Prop) (expr : MethodExpr) : Prop where
  returnType? : ∀ type ∈ expr.returnType?, type.IsComplete empties
  identifier : ∃ name, expr.identifier = .ok name
  formalList : expr.formalList.IsComplete empties
  trailing? : expr.trailing? = none

variable {empties : String → Prop} {takesArguments : String → Bool} {tokens : List Token}

theorem eq_of_readEllipsis (tokens : List Token) :
    tokens = .ellipsis :: (readEllipsis tokens).2 ∨ tokens = (readEllipsis tokens).2 := by
  unfold readEllipsis
  split
  · exact .inl rfl
  · exact .inr rfl

theorem takes_readFormal (complete : (readFormal takesArguments tokens).1.IsComplete empties) :
    Takes (IsFormal (.lenient empties)) tokens (readFormal takesArguments tokens).2 := by
  obtain ⟨type, name, identifier⟩ := complete
  simp only [readFormal] at type identifier ⊢
  obtain ⟨taken, isType, same⟩ := TypeExpr.takes_read type
  have named := eq_cons_readIdentifier identifier
  generalize (readIdentifier _).2 = rest at named ⊢
  rcases eq_of_readEllipsis (TypeExpr.read takesArguments tokens).2 with marked | unmarked
  · rw [marked, named] at same
    exact ⟨_, .variadic name isType, by rw [same, List.append_assoc]; rfl⟩
  · rw [unmarked, named] at same
    exact ⟨_, .single name isType, by rw [same, List.append_assoc]; rfl⟩

theorem takes_readFormalsWithin (bound : Nat) (tokens : List Token)
    (complete : ∀ formal ∈ (readFormalsWithin takesArguments bound tokens).1,
      formal.IsComplete empties) :
    (readFormalsWithin takesArguments bound tokens).2 = tokens
      ∨ Takes (Listed True (IsFormal (.lenient empties))) tokens
        (readFormalsWithin takesArguments bound tokens).2 := by
  fun_induction readFormalsWithin takesArguments bound tokens with
  | case1 => exact .inl rfl
  | case2 bound identifier rest formal later read rest' comma formals rest'' more ih =>
    rw [List.forall_mem_cons] at complete
    have first := takes_readFormal (by rw [read]; exact complete.1)
    rw [read, eq_of_readMark comma] at first
    rw [more] at ih
    exact .inr (first.comma (ih complete.2))
  | case3 bound identifier rest formal later read unmet rest' other =>
    rw [List.forall_mem_singleton] at complete
    have first := takes_readFormal (by rw [read]; exact complete)
    rw [read] at first
    obtain ⟨taken, isFormal, same⟩ := first
    exact .inr ⟨taken, .last isFormal, by rw [same, eq_of_readMark_unmet other]⟩
  | case4 => exact .inl rfl

/-- A complete list of formal parameters stands in its brackets. -/
theorem takes_readFormalList
    (complete : (readFormalList takesArguments tokens).1.IsComplete empties) :
    Takes
      (fun taken => ∃ formals, (formals = [] ∨ Listed True (IsFormal (.lenient empties)) formals)
        ∧ taken = .punctuation '(' :: (formals ++ [.punctuation ')']))
      tokens (readFormalList takesArguments tokens).2 := by
  obtain ⟨unopened?, formals, unclosed?⟩ := complete
  rcases opens : readMark '(' tokens with ⟨_ | unmet, rest⟩
  · simp only [readFormalList, opens] at formals unclosed? ⊢
    have listed := takes_readFormalsWithin _ rest formals
    have closed := eq_cons_readMark unclosed?
    generalize (readMark ')' _).2 = rest' at closed ⊢
    rw [eq_of_readMark opens]
    rcases listed with same | ⟨taken, listed, same⟩
    · exact ⟨_, ⟨[], .inl rfl, rfl⟩, congrArg (_ :: ·) (same.symm.trans closed)⟩
    · rw [closed] at same
      exact ⟨_, ⟨taken, .inr listed, rfl⟩, by rw [same, List.cons_append, List.append_assoc]; rfl⟩
  · simp [readFormalList, opens] at unopened?

theorem takes_readReturnType?
    (complete : ∀ type ∈ (readReturnType? takesArguments tokens).1, type.IsComplete empties) :
    Takes (fun taken => taken = [] ∨ IsType (.lenient empties) taken) tokens
      (readReturnType? takesArguments tokens).2 := by
  unfold readReturnType? at complete ⊢
  split
  · exact ⟨[], .inl rfl, rfl⟩
  · next other =>
    rw [if_neg other] at complete
    obtain ⟨taken, isType, same⟩ := TypeExpr.takes_read (complete _ rfl)
    exact ⟨taken, .inr isType, same⟩

/-- Tokens that are read as a complete method have the form of one. -/
theorem isMethod_read (complete : (read takesArguments tokens).IsComplete empties) :
    IsMethod (.lenient empties) tokens := by
  obtain ⟨returnType?, ⟨name, identifier⟩, formalList, trailing?⟩ := complete
  simp only [read, Modifiers.read] at returnType? identifier formalList trailing?
  obtain ⟨words, modifiers, front⟩ := Modifiers.takes_readMore {} tokens
  obtain ⟨type, isType, typed⟩ := takes_readReturnType? returnType?
  have named := eq_cons_readIdentifier identifier
  obtain ⟨_, ⟨formals, listed, rfl⟩, listing⟩ := takes_readFormalList formalList
  rw [eq_of_readEnd trailing?, List.append_nil] at listing
  rw [listing] at named
  rw [front, typed, named]
  exact .intro name modifiers isType listed

end MethodExpr

/-! ## What is missed is reported -/

namespace Traced

variable {signature : String}

theorem eq_none_of_reportUnmet {unmet? : Option Unmet}
    (silent : reports (reportUnmet signature unmet?).events = []) : unmet? = none := by
  cases unmet? with
  | none => rfl
  | some unmet => cases silent

theorem exists_eq_of_nameOf? {identifier : Except Unmet String}
    (silent : reports (nameOf? signature identifier).events = []) :
    ∃ name, identifier = .ok name := by
  cases identifier with
  | error unmet => cases silent
  | ok name => exact ⟨name, rfl⟩

end Traced

namespace Scope

variable {scope : Scope} {options : Options} {context signature : String}

/-- There is a class-like of the name, and it has no generic parameters. -/
def IsPlain (scope : Scope) (name : String) : Prop :=
  ∃ shape, scope name = some shape ∧ shape.parameters = []

/-- A class-like that is applied to no arguments without a diagnostic takes none. -/
theorem isPlain_of_instantiate {name : String} (takes : scope.takesArguments context name = true)
    (silent : reports (scope.instantiate options name [] signature).events = []) :
    scope.IsPlain name := by
  rw [instantiate, Traced.events_bind, reports_append, List.append_eq_nil_iff, fitArguments]
    at silent
  split at silent
  · next fits =>
    have none : scope.parametersOf name = [] := List.length_eq_zero_iff.1 fits.symm
    rw [takesArguments, Bool.and_eq_true] at takes
    split at takes
    · next shape known =>
      rw [parametersOf, known] at none
      exact ⟨shape, known, none⟩
    · cases takes.2
  · cases silent.1

theorem isComplete_of_resolve {expr : TypeExpr}
    (applies : expr.Applies (scope.takesArguments context))
    (silent : reports (scope.resolve options context signature expr).events = []) :
    expr.IsComplete scope.IsPlain := by
  induction expr with
  | missing found dimension => cases silent
  | name identifier dimension =>
    rw [TypeExpr.IsComplete]
    trivial
  | application identifier arguments unclosed? dimension ih =>
    rw [resolve, resolveAll_eq_mapM] at silent
    simp only [Traced.events_bind, Traced.events_mapM, Traced.value_mapM, reports_append,
      reports_flatMap, List.append_eq_nil_iff, List.flatMap_eq_nil_iff] at silent
    obtain ⟨each, closed, applied, _⟩ := silent
    rw [TypeExpr.Applies] at applies
    rw [TypeExpr.IsComplete]
    refine ⟨Traced.eq_none_of_reportUnmet closed, ?_, fun argument mem =>
      ih argument mem (applies.2 argument mem) (each argument mem)⟩
    rintro rfl
    exact isPlain_of_instantiate applies.1 applied

theorem isComplete_of_compileFormals {position : Nat} {exprs : List FormalExpr}
    (applies : ∀ expr ∈ exprs, expr.type.Applies (scope.takesArguments context))
    (silent : reports (scope.compileFormals options context signature position exprs).events = []) :
    ∀ expr ∈ exprs, expr.IsComplete scope.IsPlain := by
  induction exprs generalizing position with
  | nil => simp
  | cons expr exprs ih =>
    simp only [compileFormals, Traced.events_bind, reports_append, List.append_eq_nil_iff] at silent
    obtain ⟨type, identifier, later, _⟩ := silent
    rw [List.forall_mem_cons] at applies ⊢
    exact ⟨⟨isComplete_of_resolve applies.1 type, Traced.exists_eq_of_nameOf? identifier⟩,
      ih applies.2 later⟩

theorem isComplete_of_compileMethod {source : String} {body : Body}
    (silent : reports (scope.compileMethod options context source body).events = []) :
    (MethodExpr.read (scope.takesArguments context) (tokenize source).significant).IsComplete
      scope.IsPlain := by
  have value : (Traced.tokens source).value = (tokenize source).significant := rfl
  simp only [compileMethod, Traced.events_bind, value, reports_append, List.append_eq_nil_iff]
    at silent
  have applies := MethodExpr.applies_read (scope.takesArguments context)
    (tokenize source).significant
  generalize MethodExpr.read (scope.takesArguments context) (tokenize source).significant = expr
    at silent applies ⊢
  obtain ⟨_, returned, identifier, opened, formals, closed, trailing, _⟩ := silent
  refine {
    returnType? := ?_
    identifier := Traced.exists_eq_of_nameOf? identifier
    formalList :=
      ⟨Traced.eq_none_of_reportUnmet opened, isComplete_of_compileFormals applies.2 formals,
      Traced.eq_none_of_reportUnmet closed⟩
    trailing? := Traced.eq_none_of_reportUnmet trailing }
  intro type mem
  rw [Option.mem_def] at mem
  rw [mem, compileReturnType?, Traced.events_bind, reports_append, List.append_eq_nil_iff]
    at returned
  exact isComplete_of_resolve (applies.1 type mem) returned.1

end Scope

/-- A signature that is compiled as a method of a declared class-like without a
diagnostic has the form of a method, except that commas may stand behind the last
items of its lists, and that the angle brackets behind class-likes without generic
parameters may be empty. So it has the strict form exactly if no item is missing. -/
theorem isMethod_of_silent {options : Options} {declarations : List Declaration}
    {state after : BuildState}
    (compiles : Build.CompilesMembers options (Standard.prelude ++ declarations) state)
    {owner : ClassId} {context : String} (isNamed : state.library.IsNamed owner context)
    {source : String} {body : Body} {compiled : Method}
    (run : (Build.compileMethod options owner source body).run.run state = (.ok compiled, after))
    (silent : after.log.toList = state.log.toList) :
    IsMethod (.lenient (scopeOf (Standard.prelude ++ declarations)).IsPlain)
        (tokenize source).significant
      ∧ (IsMethod .strict (tokenize source).significant
        ↔ HasNoGap (tokenize source).significant) := by
  obtain ⟨coherent, _⟩ := compiles.realizes (sound_prelude declarations)
  have isMethod := MethodExpr.isMethod_read
    (Scope.isComplete_of_compileMethod ((Refines.compileMethod coherent isNamed).silent_of_run
      run silent))
  exact ⟨isMethod, isMethod_strict_iff isMethod⟩

/-! ## Samples -/

/-- A comma behind a formal parameter is no reason for a diagnostic. -/
theorem Scope.silent_samples (scope : Scope) (options : Options) (context : String) (body : Body) :
    reports (scope.compileMethod options context "void f(int... a)" body).events = []
      ∧ reports (scope.compileMethod options context "void f(int a,)" body).events = [] := by
  have ofRead {source : String} {isVariadic : Bool} (tokens : List Token)
      (lexed : Traced.tokens source = pure tokens)
      (read : MethodExpr.read (scope.takesArguments context) tokens
        = ⟨{}, some (.name "void" 0), .ok "f",
          { formals := [⟨.name "int" 0, isVariadic, .ok "a"⟩] }, none⟩) :
      reports (scope.compileMethod options context source body).events = [] := by
    rw [compileMethod, lexed, pure_bind, read]
    rfl
  exact ⟨ofRead [.identifier "void", .identifier "f", .punctuation '(', .identifier "int",
      .ellipsis, .identifier "a", .punctuation ')'] rfl rfl,
    ofRead [.identifier "void", .identifier "f", .punctuation '(', .identifier "int",
      .identifier "a", .punctuation ',', .punctuation ')'] rfl rfl⟩

/-- What is compiled by names without a diagnostic is compiled without one. -/
theorem exists_silent_run {source : String} {body : Body}
    (silent : ∀ (scope : Scope) (context : String),
      reports (scope.compileMethod {} context source body).events = []) : ∃ state owner,
    Build.CompilesMembers {} (Standard.prelude ++ Declaration.generic) state
      ∧ state.library.IsNamed owner "Box"
      ∧ ∃ compiled after, (Build.compileMethod {} owner source body).run.run state
          = (.ok compiled, after)
        ∧ after.log.toList = state.log.toList := by
  obtain ⟨state, owner, compiles, isNamed⟩ := exists_compilesMembers_generic
  obtain ⟨coherent, _⟩ := compiles.realizes (sound_prelude _)
  obtain ⟨compiled, after, run, log, _⟩ :=
    (Refines.compileMethod coherent isNamed).exists_run_of_silent (silent _ _)
  exact ⟨state, owner, compiles, isNamed, compiled, after, run, log⟩

theorem isMethod_of_silent_variadic : ∃ state owner,
    Build.CompilesMembers {} (Standard.prelude ++ Declaration.generic) state
      ∧ state.library.IsNamed owner "Box"
      ∧ ∃ compiled after,
        (Build.compileMethod {} owner "void f(int... a)" (.expression "null")).run.run state
          = (.ok compiled, after)
        ∧ after.log.toList = state.log.toList
        ∧ IsMethod .strict (tokenize "void f(int... a)").significant := by
  obtain ⟨state, owner, compiles, isNamed, compiled, after, run, silent⟩ :=
    exists_silent_run fun scope context => (scope.silent_samples {} context (.expression "null")).1
  exact ⟨state, owner, compiles, isNamed, compiled, after, run, silent,
    (isMethod_of_silent compiles isNamed run silent).2.2 (by decide +kernel)⟩

/-- A comma behind the last formal parameter is accepted without a diagnostic. -/
theorem exists_accepted_gap : ∃ state owner,
    Build.CompilesMembers {} (Standard.prelude ++ Declaration.generic) state
      ∧ state.library.IsNamed owner "Box"
      ∧ ∃ compiled after,
        (Build.compileMethod {} owner "void f(int a,)" (.expression "null")).run.run state
          = (.ok compiled, after)
        ∧ after.log.toList = state.log.toList
        ∧ ¬ IsMethod .strict (tokenize "void f(int a,)").significant := by
  obtain ⟨state, owner, compiles, isNamed, compiled, after, run, silent⟩ :=
    exists_silent_run fun scope context => (scope.silent_samples {} context (.expression "null")).2
  have gap : ¬ HasNoGap (tokenize "void f(int a,)").significant := by decide +kernel
  exact ⟨state, owner, compiles, isNamed, compiled, after, run, silent,
    fun isMethod => gap isMethod.hasNoGap⟩

end ClassModel
