import ClassModel.Proofs.Accepted
import ClassModel.Proofs.Bounded
import ClassModel.Proofs.Reread
import ClassModel.Proofs.Turn

/-!
# ClassModel.Proofs.Landing

Where the bounds of generic parameters land. A header is read twice, and the
second reading gives its bounds to the generic parameters of the first one by
their positions. The readings recover differently from what is malformed: the
first one counts angle brackets, the second one ends a type at the first token
that does not belong to it. So a bound may land on a parameter of another name
(`exists_misplaced`), but not as long as the types before it close their angle
brackets (`landsOnNamed`).
-/

namespace ClassModel

/-! ## Landings -/

/-- A bound, with the name that was read last and the generic parameter that the
bound is given to, if there is one. -/
structure Landing where
  name : String
  parameter? : Option ParameterId
  bound : BoundExpr

/-- The bounds that a header gives to the generic parameters, in order. -/
def landings : List ParameterId → List ParameterExpr → List Landing
  | _, [] => []
  | ids, expr :: exprs =>
    expr.bounds.map (⟨expr.identifier, ids.head?, ·⟩) ++ landings ids.tail exprs

/-- Resolving the bounds of a header goes through its landings. -/
theorem Build.resolveParameters_eq_forM (options : Options) (intake : Intake)
    (ids : List ParameterId)
    (exprs : List ParameterExpr) : resolveParameters options intake ids exprs
      = (landings ids exprs).forM fun landing =>
        resolveBoundExpr options intake landing.parameter? landing.bound := by
  have bounds (name : String) (parameter? : Option ParameterId) (bounds : List BoundExpr) :
      (bounds.map (⟨name, parameter?, ·⟩ : BoundExpr → Landing)).forM (fun landing =>
        resolveBoundExpr options intake landing.parameter? landing.bound)
      = resolveBounds options intake parameter? bounds :=
    List.forM_map
  have append (first second : List Landing) (f : Landing → Build Unit) :
      (first ++ second).forM f = first.forM f >>= fun _ => second.forM f :=
    List.forM_append
  induction exprs generalizing ids with
  | nil => cases ids <;> rfl
  | cons expr exprs ih =>
    rw [landings, append, bounds, ← ih]
    cases ids <;> rfl

/-- A bound lands on one of the generic parameters, if it lands at all. -/
theorem mem_of_mem_landings {ids : List ParameterId} {exprs : List ParameterExpr}
    {landing : Landing} (mem : landing ∈ landings ids exprs) {id : ParameterId}
    (lands : landing.parameter? = some id) : id ∈ ids := by
  induction exprs generalizing ids with
  | nil => cases mem
  | cons expr exprs ih =>
    rw [landings, List.mem_append, List.mem_map] at mem
    rcases mem with ⟨bound, _, rfl⟩ | mem
    · exact List.mem_of_head? lands
    · exact List.mem_of_mem_tail (ih mem)

/-! ## Closed brackets -/

/-- No angle bracket is left open in the type, and none stands in its place. -/
def TypeExpr.IsBalanced : TypeExpr → Prop
  | missing found _ => found ≠ "<"
  | name _ _ => True
  | application _ arguments unclosed? _ =>
    unclosed? = none ∧ ∀ argument ∈ arguments, argument.IsBalanced

/-- No angle bracket is left open in the bounds of the parameter. -/
def ParameterExpr.IsBalanced (expr : ParameterExpr) : Prop :=
  ∀ bound ∈ expr.bounds, ∀ type ∈ bound.types, type.IsBalanced

namespace ParameterNames

/-- The token is no bracket and no comma. -/
def IsSkipped (token : Token) : Prop :=
  token.isMark '<' = false ∧ token.isMark '>' = false ∧ token.isMark ',' = false

theorem pastBounds_skipped {token : Token} (skipped : IsSkipped token) (depth : Nat)
    (rest : List Token) : pastBounds depth (token :: rest) = pastBounds depth rest := by
  simp [pastBounds, skipped.1, skipped.2.1, skipped.2.2]

theorem pastBounds_opening (depth : Nat) (rest : List Token) :
    pastBounds depth (.punctuation '<' :: rest) = pastBounds (depth + 1) rest := by
  simp [pastBounds, Token.isMark]

theorem pastBounds_closing (depth : Nat) (rest : List Token) :
    pastBounds (depth + 2) (.punctuation '>' :: rest) = pastBounds (depth + 1) rest := by
  simp [pastBounds, Token.isMark]

theorem pastBounds_comma (depth : Nat) (rest : List Token) :
    pastBounds (depth + 2) (.punctuation ',' :: rest) = pastBounds (depth + 2) rest := by
  simp [pastBounds, Token.isMark]

theorem pastBounds_dimension (depth : Nat) (tokens : List Token) :
    pastBounds depth (TypeExpr.readDimension tokens).2 = pastBounds depth tokens := by
  fun_induction TypeExpr.readDimension tokens with
  | case1 first second rest brackets dimension rest' read ih =>
    rw [read] at ih
    rw [Bool.and_eq_true] at brackets
    have skipped {token : Token} {mark : Char} (isMark : token.isMark mark = true)
        (other : mark = '[' ∨ mark = ']') : IsSkipped token := by
      rcases other with rfl | rfl <;> cases token <;> simp_all [Token.isMark, IsSkipped]
    rw [pastBounds_skipped (skipped brackets.1 (.inl rfl)),
      pastBounds_skipped (skipped brackets.2 (.inr rfl)), ← ih]
  | case2 | case3 => rfl

variable {takes : String → Bool}

/-- The first reading passes over a type that starts with a name, and over type
arguments. -/
theorem pastBounds_reading :
    (∀ bound tokens, ∀ depth name rest, tokens = .identifier name :: rest →
        (TypeExpr.readWithin takes bound tokens).1.IsBalanced →
          pastBounds (depth + 1) (TypeExpr.readWithin takes bound tokens).2
            = pastBounds (depth + 1) tokens)
      ∧ ∀ bound tokens, ∀ depth,
        (∀ type ∈ (TypeExpr.readArgumentsWithin takes bound tokens).1, type.IsBalanced) →
          pastBounds (depth + 2) (TypeExpr.readArgumentsWithin takes bound tokens).2
            = pastBounds (depth + 2) tokens := by
  apply TypeExpr.reading_induction
  case zero =>
    intros
    rfl
  case nil => exact nofun
  case name =>
    intro bound name tokens arguments depth _ _ _ balanced
    rw [pastBounds_skipped ⟨rfl, rfl, rfl⟩]
    rw [TypeExpr.readWithin] at balanced ⊢
    split at balanced
    · next rest _ opens =>
      have arguments := arguments rest depth
      rw [Signature.eq_of_readMark opens, pastBounds_opening]
      generalize TypeExpr.readArgumentsWithin takes bound rest = read at balanced arguments ⊢
      rcases closes : Signature.readMark '>' read.2 with ⟨unclosed?, rest'⟩
      simp only [closes, TypeExpr.IsBalanced] at balanced ⊢
      rw [balanced.1] at closes
      rw [pastBounds_dimension, ← arguments balanced.2, Signature.eq_of_readMark closes,
        pastBounds_closing]
    · exact pastBounds_dimension _ _
  case missing =>
    intro bound found rest noName depth name _ same
    cases same
    exact absurd rfl (noName name)
  case none =>
    intro bound tokens stops depth _
    rw [stops]
  case argument =>
    intro bound name tokens first later depth balanced
    have first := first (depth + 1) name tokens rfl
    rw [TypeExpr.readArgumentsWithin] at balanced ⊢
    generalize TypeExpr.readWithin takes bound (.identifier name :: tokens) = read
      at balanced first ⊢
    rcases comma : Signature.readMark ',' read.2 with ⟨_ | unmet, rest⟩
    · simp only [comma, List.forall_mem_cons] at balanced ⊢
      rw [later rest depth balanced.2, ← first balanced.1, Signature.eq_of_readMark comma,
        pastBounds_comma]
    · simp only [comma, List.forall_mem_singleton] at balanced ⊢
      rw [Signature.eq_of_readMark_unmet comma, first balanced]

theorem pastBounds_readWithin (bound depth : Nat) (name : String) (tokens : List Token)
    (balanced : (TypeExpr.readWithin takes bound (.identifier name :: tokens)).1.IsBalanced) :
    pastBounds (depth + 1) (TypeExpr.readWithin takes bound (.identifier name :: tokens)).2
      = pastBounds (depth + 1) (.identifier name :: tokens) :=
  pastBounds_reading.1 bound _ depth name tokens rfl balanced

/-- The names that the first reading goes on with, inside the bounds of a parameter
in front of the tokens, or none if it has come to its end. -/
def Tracks (names : List String) (tokens : List Token) : Prop :=
  names = pastBounds 1 tokens ∨ names = []

/-- The names are tracked, or the second reading comes to its end, because a name
stands where none belongs. -/
def Resumes (names : List String) (tokens : List Token) : Prop :=
  Tracks names tokens ∨ ∃ name rest, tokens = .identifier name :: rest

/-- Behind a token that belongs to the bounds the names are still tracked. -/
theorem Resumes.next {names : List String} {token : Token} {rest : List Token}
    (resumes : Resumes names (token :: rest)) (skipped : IsSkipped token)
    (noName : ∀ name, token ≠ .identifier name) : Tracks names rest := by
  rcases resumes with (rfl | none) | ⟨name, rest, same⟩
  · exact .inl (pastBounds_skipped skipped _ _)
  · exact .inr none
  · cases same
    exact absurd rfl (noName name)

/-- A comma, and what the first reading goes on with behind it. -/
theorem Resumes.comma {names : List String} {rest : List Token}
    (resumes : Resumes names (.punctuation ',' :: rest)) : names = atName rest ∨ names = [] := by
  rcases resumes with (rfl | none) | ⟨name, rest, same⟩
  · exact .inl (by simp [pastBounds, Token.isMark])
  · exact .inr none
  · cases same

/-- A token that stands in place of a type. A closing bracket ends the first
reading, and so does a comma, unless a name behind it ends the second one. -/
theorem Tracks.missing {names : List String} {found : Token} {rest : List Token}
    (tracks : Tracks names (found :: rest)) (balanced : found.text ≠ "<") :
    Resumes names (TypeExpr.readDimension rest).2 := by
  rcases tracks with rfl | none
  · by_cases closing : found = .punctuation '>'
    · subst closing
      exact .inl (.inr (by simp [pastBounds, Token.isMark]))
    by_cases comma : found = .punctuation ','
    · subst comma
      rw [show pastBounds 1 (.punctuation ',' :: rest) = atName rest by
        simp [pastBounds, Token.isMark]]
      fun_cases atName rest with
      | case1 identifier rest =>
        refine .inr ⟨identifier, rest, ?_⟩
        cases rest <;> rfl
      | case2 => exact .inl (.inr rfl)
    · have skipped : IsSkipped found := by
        refine ⟨?_, ?_, ?_⟩ <;> rw [Bool.eq_false_iff] <;> intro isMark <;>
          have same := Token.eq_of_isMark isMark <;> subst same
        · exact balanced rfl
        · exact closing rfl
        · exact comma rfl
      rw [pastBounds_skipped skipped]
      exact .inl (.inl (pastBounds_dimension _ _).symm)
  · exact .inl (.inr none)

/-- After a type whose brackets are closed the first reading stands where the second
one does. -/
theorem Tracks.read {names : List String} {tokens : List Token} (tracks : Tracks names tokens)
    (balanced : (TypeExpr.read takes tokens).1.IsBalanced) :
    Resumes names (TypeExpr.read takes tokens).2 := by
  rw [TypeExpr.read] at balanced ⊢
  rcases tokens with _ | ⟨found, tokens⟩
  · exact .inl tracks
  cases found with
  | identifier name =>
    rw [Resumes, Tracks, pastBounds_readWithin _ 0 name tokens balanced]
    exact .inl tracks
  | _ =>
    rw [TypeExpr.readWithin] at balanced ⊢
    · rw [TypeExpr.IsBalanced] at balanced
      exact tracks.missing balanced
    all_goals simp

theorem Tracks.readSeparatedWithin {names : List String} {bound : Nat} {tokens : List Token}
    (tracks : Tracks names tokens)
    (balanced : ∀ type ∈ (TypeExpr.readSeparatedWithin takes '&' bound tokens).1,
      type.IsBalanced) :
    Resumes names (TypeExpr.readSeparatedWithin takes '&' bound tokens).2 := by
  induction bound generalizing tokens with
  | zero =>
    rw [TypeExpr.readSeparatedWithin] at balanced ⊢
    exact tracks.read (balanced _ List.mem_cons_self)
  | succ bound ih =>
    have first : (TypeExpr.read takes tokens).1.IsBalanced → Resumes names _ := tracks.read
    rw [TypeExpr.readSeparatedWithin] at balanced ⊢
    generalize TypeExpr.read takes tokens = read at balanced first ⊢
    rcases mark : Signature.readMark '&' read.2 with ⟨_ | unmet, rest⟩
    · simp only [mark, List.forall_mem_cons] at balanced ⊢
      have resumes := first balanced.1
      rw [Signature.eq_of_readMark mark] at resumes
      exact ih (resumes.next ⟨rfl, rfl, rfl⟩ (by rintro _ ⟨⟩)) balanced.2
    · simp only [mark, List.forall_mem_singleton] at balanced ⊢
      rw [Signature.eq_of_readMark_unmet mark]
      exact first balanced

theorem Resumes.readBoundsWithin {names : List String} {bound : Nat} {tokens : List Token}
    (resumes : Resumes names tokens)
    (balanced : ∀ expr ∈ (HeaderRest.readBoundsWithin takes bound tokens).1,
      ∀ type ∈ expr.types, type.IsBalanced) :
    Resumes names (HeaderRest.readBoundsWithin takes bound tokens).2 := by
  fun_induction HeaderRest.readBoundsWithin takes bound tokens with
  | case1 => exact resumes
  | case2 bound rest types rest' read bounds rest'' more ih =>
    rw [List.forall_mem_cons] at balanced
    rw [more] at ih
    have first : (∀ type ∈ (TypeExpr.readSeparated takes '&' rest).1, type.IsBalanced) →
        Resumes names (TypeExpr.readSeparated takes '&' rest).2 :=
      (resumes.next ⟨rfl, rfl, rfl⟩ (by rintro _ ⟨⟩)).readSeparatedWithin
    rw [read] at first
    exact ih (first balanced.1) balanced.2
  | case3 bound rest type rest' read bounds rest'' more ih =>
    rw [List.forall_mem_cons] at balanced
    rw [more] at ih
    have first : (TypeExpr.read takes rest).1.IsBalanced →
        Resumes names (TypeExpr.read takes rest).2 :=
      (resumes.next ⟨rfl, rfl, rfl⟩ (by rintro _ ⟨⟩)).read
    rw [read] at first
    exact ih (first (balanced.1 _ List.mem_cons_self)) balanced.2
  | case4 => exact resumes

/-! ## Names and parameters -/

/-- The names of the first reading are those of the second one, as long as the bounds
close their brackets. -/
inductive Paired : List String → List ParameterExpr → Prop where
  | ended (exprs : List ParameterExpr) : Paired [] exprs
  | unread (names : List String) : Paired names []
  | cons {names : List String} {exprs : List ParameterExpr} (expr : ParameterExpr) :
    (expr.IsBalanced → Paired names exprs) → Paired (expr.identifier :: names) (expr :: exprs)

theorem paired_readParametersWithin (bound : Nat) (tokens : List Token) :
    Paired (atName tokens) (HeaderRest.readParametersWithin takes bound tokens).1 := by
  fun_induction HeaderRest.readParametersWithin takes bound tokens with
  | case1 => exact .unread _
  | case2 bound identifier rest bounds rest' read rest'' comma parameters last more ih =>
    rw [atName]
    refine .cons ⟨identifier, bounds⟩ fun balanced => ?_
    have resumes : _ → Resumes (pastBounds 1 rest)
        (HeaderRest.readBoundsWithin takes rest.length rest).2 :=
      Resumes.readBoundsWithin (.inl (.inl rfl))
    rw [read, Signature.eq_of_readMark comma] at resumes
    rw [more] at ih
    rcases (resumes balanced).comma with same | none
    · rwa [same]
    · rw [none]
      exact .ended _
  | case3 bound identifier rest bounds rest' read =>
    rw [atName]
    exact .cons ⟨identifier, bounds⟩ fun _ => .unread _
  | case4 => exact .unread _

theorem paired_readParameterList (tokens : List Token) :
    Paired (ParameterNames.read tokens)
      (HeaderRest.readParameterList takes tokens).1.parameters := by
  unfold ParameterNames.read HeaderRest.readParameterList
  rcases Signature.readMark '<' tokens with ⟨_ | unmet, rest⟩
  · exact paired_readParametersWithin rest.length rest
  · exact .ended _

/-- As long as the bounds close their brackets, they land on the parameters of the
names that were read last. -/
theorem Paired.eq_name {ids : List ParameterId} {names : List String} {exprs : List ParameterExpr}
    {nameOf : ParameterId → String} (paired : Paired names exprs) (named : ids.map nameOf = names)
    (count : Nat) (balanced : ∀ expr ∈ exprs.take count, expr.IsBalanced) :
    ∀ landing ∈ landings ids (exprs.take (count + 1)), ∀ id ∈ landing.parameter?,
      nameOf id = landing.name := by
  induction paired generalizing ids count with
  | ended exprs =>
    intro landing mem id lands
    rw [List.map_eq_nil_iff.1 named] at mem
    exact nomatch mem_of_mem_landings mem lands
  | unread names => exact List.forall_mem_nil _
  | @cons names exprs expr _ ih =>
    obtain ⟨id, ids, rfl, same, named⟩ := List.map_eq_cons_iff.1 named
    rw [List.take_succ_cons, landings, List.forall_mem_append, List.forall_mem_map]
    constructor
    · rintro bound _ _ ⟨⟩
      exact same
    · cases count with
      | zero => exact List.forall_mem_nil _
      | succ count =>
        rw [List.take_succ_cons, List.forall_mem_cons] at balanced
        exact ih balanced.1 named count balanced.2

end ParameterNames

/-! ## In the turn of a header -/

/-- The bounds of a header land on the generic parameters of its own class-like, and
on those of the right name as long as brackets are closed. -/
structure Build.LandsBounds (options : Options) (intake : Intake) (library : Library)
    (ids : List ParameterId) (exprs : List ParameterExpr) : Prop where
  /-- Resolving the bounds goes through the landings. -/
  resolves : resolveParameters options intake ids exprs
    = (landings ids exprs).forM fun landing =>
      resolveBoundExpr options intake landing.parameter? landing.bound
  owned : ∀ landing ∈ landings ids exprs, ∀ id ∈ landing.parameter?,
    ∃ found, library.parameter? id = some found ∧ found.owner = intake.id
  /-- If the first parameters close their brackets, the bounds of these and of the
  next one land on the parameters whose names were read last. -/
  named (count : Nat) : (∀ expr ∈ exprs.take count, expr.IsBalanced) →
    ∀ landing ∈ landings ids (exprs.take (count + 1)), ∀ id ∈ landing.parameter?,
      ∃ found, library.parameter? id = some found ∧ found.identifier = landing.name

/-- Whatever is declared, the bounds of a header land on generic parameters of the
class-like, and as long as brackets are closed on those whose names were read
last. -/
theorem landsOnNamed {options : Options} {declarations : List Declaration} {intake : Intake}
    {before after last : BuildState}
    (turn : Build.HeaderTurn options (Standard.prelude ++ declarations) intake before after last) :
    ∃ classLike, before.library.classLike? intake.id = some classLike
      ∧ Build.LandsBounds options intake before.library classLike.genericParameters
        (HeaderRest.read (before.library.takesArguments intake.id) (!classLike.kind.isEnum)
          intake.rest).parameterList.parameters := by
  obtain ⟨registration, traces, _⟩ := turn.exists_traces (sound_prelude declarations)
  obtain ⟨classLike, declared, _, spells⟩ := traces.declaredAs.exists_classLike
  refine ⟨classLike, declared.1, ?_⟩
  have found {id : ParameterId} (mem : id ∈ classLike.genericParameters) :
      ∃ found, before.library.parameter? id = some found ∧ found.owner = intake.id
        ∧ before.library.parameterName id = found.identifier := by
    obtain ⟨_, _, found, known, owner, _⟩ := Related.exists_of_mem spells.parameters.flip mem
    exact ⟨found, known, owner, by rw [Library.parameterName, known]; rfl⟩
  have names : classLike.genericParameters.map before.library.parameterName
      = registration.parameters := by
    have same : classLike.genericParameters.map before.library.parameterName
        = registration.named.parameters.map (·.identifier) := by
      refine Related.map_eq spells.parameters ?_
      rintro _ id _ ⟨found, known, _, spells⟩
      rw [Library.parameterName, known]
      exact spells.identifier
    rw [same, Registration.named, List.map_map]
    exact List.map_id _
  rw [traces.read_eq declared.1]
  have paired : ParameterNames.Paired registration.parameters
      (HeaderRest.read ((scopeOf (Standard.prelude ++ declarations)).takesArguments
        registration.identifier) (!registration.start.kind.isEnum)
          registration.start.rest).parameterList.parameters := by
    unfold Registration.parameters HeaderRest.read
    cases registration.start.kind.isEnum with
    | false => exact ParameterNames.paired_readParameterList _
    | true => exact .ended _
  exact {
    resolves := Build.resolveParameters_eq_forM ..
    owned := fun landing mem id lands => by
      obtain ⟨found, known, owner, _⟩ := found (mem_of_mem_landings mem lands)
      exact ⟨found, known, owner⟩
    named := fun count balanced landing mem id lands => by
      have same := paired.eq_name names count balanced landing mem id lands
      obtain ⟨found, known, _, name⟩ := found (mem_of_mem_landings mem lands)
      exact ⟨found, known, name.symm.trans same⟩ }

/-- The type arguments in a bound contain what looks like a further generic parameter. -/
def Declaration.shelf : List Declaration :=
  [{ signature := "class Box<E>" },
    { signature := "class Shelf<T extends Box<Integer extends Object, U super String>, V>" }]

theorem landsOnNamed_shelf : ∃ intake before after last classLike,
    Build.HeaderTurn {} (Standard.prelude ++ Declaration.shelf) intake before after last
      ∧ before.library.classLike? intake.id = some classLike ∧ classLike.identifier = "Shelf"
      ∧ Build.LandsBounds {} intake before.library classLike.genericParameters
        (HeaderRest.read (before.library.takesArguments intake.id) (!classLike.kind.isEnum)
          intake.rest).parameterList.parameters := by
  have known : (registrationsOf (Standard.prelude ++ Declaration.shelf)).any
      (·.identifier == "Shelf") = true := by
    decide +kernel
  obtain ⟨registration, mem, same⟩ := List.any_eq_true.1 known
  obtain ⟨intake, before, after, last, turn, traces⟩ :=
    Build.exists_traces_of_mem {} (sound_prelude Declaration.shelf) mem
  obtain ⟨classLike, found, lands⟩ := landsOnNamed turn
  obtain ⟨classLike', declared, named, _⟩ := traces.declaredAs.exists_classLike
  cases found.symm.trans declared.1
  exact ⟨intake, before, after, last, classLike, turn, found, named.trans (eq_of_beq same), lands⟩

/-! ## A misplaced bound -/

/-- The second generic parameter is `V` in the first reading, and in the second one it
is `U` and gets a lower bound. -/
def Registration.misplaces (scope : Scope) (registration : Registration) : Bool :=
  registration.parameters == ["T", "V"]
    && (match (HeaderRest.read (scope.takesArguments registration.identifier)
        (!registration.start.kind.isEnum) registration.start.rest).parameterList.parameters with
      | [_, ⟨name, [.lower (.name type 0)]⟩] => name == "U" && type == "String"
      | _ => false)
    && match (scope.resolve {} registration.identifier registration.declaration.signature
        (.name "String" 0)).value with
      | .declared name 0 => name == "String"
      | _ => false

theorem Registration.eq_of_misplaces {scope : Scope} {registration : Registration}
    (holds : registration.misplaces scope = true) :
    registration.parameters = ["T", "V"]
      ∧ (∃ first, (HeaderRest.read (scope.takesArguments registration.identifier)
        (!registration.start.kind.isEnum) registration.start.rest).parameterList.parameters
          = [first, ⟨"U", [.lower (.name "String" 0)]⟩])
      ∧ (scope.resolve {} registration.identifier registration.declaration.signature
        (.name "String" 0)).value = .declared "String" 0 := by
  rw [misplaces, Bool.and_eq_true, Bool.and_eq_true, beq_iff_eq] at holds
  obtain ⟨⟨names, read⟩, resolved⟩ := holds
  refine ⟨names, ?_, ?_⟩
  · split at read
    · next first name type same =>
      rw [Bool.and_eq_true, beq_iff_eq, beq_iff_eq] at read
      exact ⟨first, by rw [same, read.1, read.2]⟩
    · cases read
  · split at resolved
    · next name same => rw [same, eq_of_beq resolved]
    · cases resolved

/-- A bound that is read for one name may land on the generic parameter of another
one. -/
theorem exists_misplaced : ∃ intake before after last classLike landing id earlier later bound,
    Build.HeaderTurn {} (Standard.prelude ++ Declaration.shelf) intake before after last
      ∧ before.library.classLike? intake.id = some classLike
      ∧ landing ∈ landings classLike.genericParameters
        (HeaderRest.read (before.library.takesArguments intake.id) (!classLike.kind.isEnum)
          intake.rest).parameterList.parameters
      ∧ landing.name = "U" ∧ landing.parameter? = some id
      ∧ before.library.parameter? id = some earlier ∧ earlier.identifier = "V"
      ∧ earlier.lowerBound? = none
      ∧ last.library.parameter? id = some later ∧ later.identifier = "V"
      ∧ later.lowerBound? = some bound
      ∧ last.library.Denotes bound (.declared "String" 0) := by
  generalize declared : Standard.prelude ++ Declaration.shelf = declarations
  have some : (registrationsOf declarations).any
      (Registration.misplaces (scopeOf declarations)) = true := by
    rw [← declared]
    decide +kernel
  obtain ⟨registration, mem, misplaces⟩ := List.any_eq_true.1 some
  obtain ⟨names, ⟨first, read⟩, resolved⟩ := Registration.eq_of_misplaces misplaces
  obtain ⟨intake, before, after, last, turn, traces⟩ :=
    Build.exists_traces_of_mem {} (declared ▸ sound_prelude Declaration.shelf) mem
  obtain ⟨classLike, found, _, spells⟩ := traces.declaredAs.exists_classLike
  obtain ⟨classLike', found', _, spells'⟩ := traces.resolved.exists_classLike
  -- The second generic parameter before its bounds are resolved, and after.
  have second : registration.named.parameters[1]? = .some { identifier := "V" } := by
    rw [Registration.named, names]
    rfl
  have second' : (registration.named.resolveHeader (scopeOf declarations) {} intake.signature
      intake.rest).value.parameters[1]?
        = .some { identifier := "V", lowerBound? := .some (.declared "String" 0) } := by
    have isEnum : registration.named.bare.kind.isEnum = registration.start.kind.isEnum :=
      Kind.isEnum_withoutSupertypes _
    rw [NamedClass.parameters_resolveHeader, NamedClass.getElem?_resolveParameters rfl, second,
      isEnum, traces.takes.rest, traces.takes.signature,
      show registration.named.identifier = registration.identifier from rfl, read]
    simp [NamedParameter.resolveBounds, NamedParameter.resolveBoundExpr,
      NamedParameter.resolveBound, resolved, TypeTree.isBound, NamedParameter.withLowerBound]
  obtain ⟨id, place, earlier, known, _, bare⟩ := Related.exists_getElem? spells.parameters second
  obtain ⟨id', place', later, known', _, bounded⟩ :=
    Related.exists_getElem? spells'.parameters second'
  obtain rfl : id' = id := by
    have same := traces.grows_last.parametersOf traces.declaredAs.isNamed
    simp only [Library.parametersOf, found.1, found'.1, Option.map_some, Option.getD_some] at same
    rw [same, place] at place'
    exact (Option.some.inj place').symm
  have unbounded := bare.lowerBound?
  have lower := bounded.lowerBound?
  generalize unset : earlier.lowerBound? = none? at unbounded
  generalize set : later.lowerBound? = bound? at lower
  cases unbounded
  cases lower with
  | @some bound _ means =>
  refine ⟨intake, before, after, last, classLike, ⟨"U", id', .lower (.name "String" 0)⟩, id',
    earlier, later, bound, turn, found.1, ?_, rfl, rfl, known, bare.identifier, unset, known',
    bounded.identifier, set, means.denotes⟩
  rw [traces.read_eq found.1, read]
  have head : classLike.genericParameters.tail.head? = .some id' := by
    rw [List.head?_tail, place]
  simp [landings, head]

end ClassModel
