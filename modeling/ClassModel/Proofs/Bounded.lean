import ClassModel.Proofs.Invariant

/-!
# ClassModel.Proofs.Bounded

What the bounds of a header come to, by names. Resolving them goes from one
generic parameter to the next and changes the class-like at its position. In the
end each generic parameter has got its own bounds and no others
(`NamedClass.getElem?_resolveParameters`), and what is reported is reported of
one bound after the other (`NamedClass.reports_resolveParameters`).
-/

namespace ClassModel

variable (scope : Scope) (options : Options) (context signature : String)

/-! ## One generic parameter -/

namespace NamedParameter

/-- The parameter with a further bound, if the type can be one. -/
def resolveBound (change : NamedParameter → TypeTree → NamedParameter)
    (parameter : NamedParameter) (type : TypeExpr) : NamedParameter :=
  let tree := (scope.resolve options context signature type).value
  if tree.isBound then change parameter tree else parameter

def resolveBoundExpr (parameter : NamedParameter) : BoundExpr → NamedParameter
  | .upper types =>
    types.foldl (resolveBound scope options context signature .withUpperBound) parameter
  | .lower type => parameter.resolveBound scope options context signature .withLowerBound type

/-- The parameter with the bounds that are written. -/
def resolveBounds (bounds : List BoundExpr) (parameter : NamedParameter) : NamedParameter :=
  bounds.foldl (resolveBoundExpr scope options context signature) parameter

end NamedParameter

/-- What is reported when a type is resolved as a bound. -/
def Scope.boundReports (type : TypeExpr) : List NamedDiagnostic :=
  reports (do
    let tree ← scope.resolve options context signature type
    NamedClass.checkedBound? signature tree).events

namespace NamedClass

/-- The class-like with another generic parameter at the position. -/
def modifyParameter (position : Nat) (change : NamedParameter → NamedParameter)
    (named : NamedClass) : NamedClass :=
  { named with parameters := named.parameters.modify position change }

theorem identifier_modifyParameter (position : Nat) (change : NamedParameter → NamedParameter)
    (named : NamedClass) : (named.modifyParameter position change).identifier = named.identifier :=
  rfl

variable {scope : Scope} {options : Options} {context signature : String} {named : NamedClass}

/-- The answer is the class-like with another generic parameter at the position. -/
structure ChangesParameter (named : NamedClass) (traced : Traced NamedClass) (position : Nat)
    (change : NamedParameter → NamedParameter) (diagnostics : List NamedDiagnostic) : Prop where
  value : traced.value = named.modifyParameter position change
  reports : reports traced.events = diagnostics

/-- Changes at one position add up. -/
theorem ChangesParameter.foldlM {ι : Type} {step : NamedClass → ι → Traced NamedClass}
    {position : Nat} {change : NamedParameter → ι → NamedParameter}
    {diagnostics : ι → List NamedDiagnostic}
    (each : ∀ named i, named.identifier = context →
      ChangesParameter named (step named i) position (change · i) (diagnostics i))
    (same : named.identifier = context) (is : List ι) :
    ChangesParameter named (is.foldlM step named) position (is.foldl change ·)
      (is.flatMap diagnostics) := by
  induction is generalizing named with
  | nil =>
    refine ⟨?_, rfl⟩
    show named = named.modifyParameter position id
    rw [modifyParameter, List.modify_id]
  | cons i is ih =>
    obtain ⟨value, told⟩ := each named i same
    have later := ih ((identifier_modifyParameter position (change · i) named).trans same)
    rw [List.foldlM_cons]
    constructor
    · rw [Traced.value_bind, value, later.value, modifyParameter, modifyParameter, modifyParameter,
        List.modify_modify_eq]
      rfl
    · rw [Traced.events_bind, reports_append, told, value, later.reports, List.flatMap_cons]

theorem changes_resolveBound (same : named.identifier = context) (position : Nat)
    (change : NamedParameter → TypeTree → NamedParameter) (type : TypeExpr) :
    ChangesParameter named
      (named.resolveBound scope options signature position change type) position
      (·.resolveBound scope options context signature change type)
      (scope.boundReports options context signature type) := by
  subst same
  unfold resolveBound Scope.boundReports NamedParameter.resolveBound
  generalize scope.resolve options named.identifier signature type = resolved
  unfold checkedBound?
  by_cases isBound : resolved.value.isBound = true
  · constructor
    · simp only [Traced.value_bind, isBound, if_true, Traced.value_pure]
      rfl
    · simp only [Traced.events_bind, isBound, if_true, Traced.events_pure, List.append_nil,
        Traced.value_pure]
  · constructor
    · simp only [Traced.value_bind, isBound, Bool.false_eq_true, if_false, Traced.value_pure]
      show named = named.modifyParameter position id
      rw [modifyParameter, List.modify_id]
    · simp only [Traced.events_bind, Traced.value_bind, isBound, Bool.false_eq_true, if_false,
        Traced.events_pure, List.append_nil, Traced.value_pure]

theorem changes_resolveBoundExpr (same : named.identifier = context) (position : Nat)
    (bound : BoundExpr) :
    ChangesParameter named (named.resolveBoundExpr scope options signature position bound) position
      (·.resolveBoundExpr scope options context signature bound)
      (bound.types.flatMap (scope.boundReports options context signature)) := by
  cases bound with
  | upper types =>
    exact .foldlM (fun named type same => changes_resolveBound same position _ type) same types
  | lower type =>
    rw [BoundExpr.types, List.flatMap_singleton]
    exact changes_resolveBound same position _ type

theorem changes_resolveBounds (same : named.identifier = context) (position : Nat)
    (bounds : List BoundExpr) :
    ChangesParameter named (bounds.foldlM (fun named bound =>
        named.resolveBoundExpr scope options signature position bound) named) position
      (·.resolveBounds scope options context signature bounds)
      (bounds.flatMap fun bound =>
        bound.types.flatMap (scope.boundReports options context signature)) :=
  .foldlM (fun _ bound same => changes_resolveBoundExpr same position bound) same bounds

/-! ## All generic parameters -/

/-- The bounds of a header are reported one after the other. -/
theorem reports_resolveParameters (same : named.identifier = context) (position : Nat)
    (exprs : List ParameterExpr) :
    reports (named.resolveParameters scope options signature position exprs).events
      = exprs.flatMap fun expr => expr.bounds.flatMap fun bound =>
        bound.types.flatMap (scope.boundReports options context signature) := by
  induction exprs generalizing position named with
  | nil => rfl
  | cons expr exprs ih =>
    have changes := @changes_resolveBounds scope options _ signature _ same position expr.bounds
    rw [resolveParameters, Traced.events_bind, reports_append, changes.reports, changes.value,
      List.flatMap_cons, ih ((identifier_modifyParameter ..).trans same)]

/-- The bounds of a header change nothing but generic parameters. -/
theorem exists_value_resolveParameters (position : Nat) (exprs : List ParameterExpr) :
    ∃ parameters, (named.resolveParameters scope options signature position exprs).value
      = { named with parameters } := by
  induction exprs generalizing position named with
  | nil => exact ⟨_, rfl⟩
  | cons expr exprs ih =>
    rw [resolveParameters, Traced.value_bind,
      (changes_resolveBounds rfl position expr.bounds).value]
    exact ih _

/-- Each generic parameter gets the bounds that are written for it. -/
theorem getElem?_resolveParameters (same : named.identifier = context) (position : Nat)
    (exprs : List ParameterExpr) (i : Nat) :
    (named.resolveParameters scope options signature position exprs).value.parameters[i]?
      = named.parameters[i]?.map fun parameter =>
        if position ≤ i then parameter.resolveBounds scope options context signature
          ((exprs[i - position]?.map (·.bounds)).getD [])
        else parameter := by
  induction exprs generalizing position named with
  | nil => simp [resolveParameters, NamedParameter.resolveBounds]
  | cons expr exprs ih =>
    have changes := @changes_resolveBounds scope options _ signature _ same position expr.bounds
    rw [resolveParameters, Traced.value_bind, changes.value,
      ih ((identifier_modifyParameter ..).trans same), modifyParameter, List.getElem?_modify,
      Option.map_eq_map, Option.map_map]
    congr 1
    funext parameter
    rw [Function.comp_apply]
    rcases Nat.lt_trichotomy i position with below | rfl | above
    · rw [if_neg (by omega), if_neg (by omega), if_neg (by omega)]
    · rw [if_neg (by omega), if_pos rfl, if_pos (Nat.le_refl i), Nat.sub_self]
      rfl
    · have next : i - position = i - (position + 1) + 1 := by omega
      rw [if_pos (Nat.succ_le_of_lt above), if_neg (Nat.ne_of_lt above),
        if_pos (Nat.le_of_lt above), next, List.getElem?_cons_succ]

/-! ## The whole header -/

theorem parameters_addSupertype (clause : ClauseKind) (tree : TypeTree) (named : NamedClass) :
    (named.addSupertype scope signature clause tree).value.parameters = named.parameters := by
  unfold addSupertype
  split
  · rfl
  · dsimp only
    split
    · rfl
    · split <;> rfl

theorem parameters_resolveClause (clause : ClauseExpr) (named : NamedClass) :
    (named.resolveClause scope options signature clause).value.parameters = named.parameters := by
  have types (isRejected : Bool) :
      (clause.types.foldlM (fun (named : NamedClass) type =>
        named.resolveSupertype scope options signature clause.kind isRejected type)
          named).value.parameters = named.parameters := by
    refine Traced.value_foldlM_of (p := fun after : NamedClass =>
      after.parameters = named.parameters) (fun after type same => ?_) rfl clause.types
    rw [resolveSupertype, Traced.value_bind]
    split
    · exact same
    · exact (parameters_addSupertype _ _ _).trans same
  unfold resolveClause
  dsimp only
  split <;> exact types _

/-- The clauses of a header leave the generic parameters as they are. -/
theorem parameters_resolveHeader (rest : List Token) (named : NamedClass) :
    (named.resolveHeader scope options signature rest).value.parameters
      = (named.resolveParameters scope options signature 0
        (HeaderRest.read (scope.takesArguments named.identifier) (!named.bare.kind.isEnum)
          rest).parameterList.parameters).value.parameters := by
  have default (named : NamedClass) :
      named.withDefaultSuperclass.parameters = named.parameters := by
    unfold withDefaultSuperclass
    split <;> rfl
  rw [resolveHeader_eq, resolveRest]
  simp only [Traced.value_bind, Traced.value_pure]
  rw [default]
  exact Traced.value_foldlM_of (p := fun after : NamedClass => after.parameters = _)
    (fun after clause same => (parameters_resolveClause clause after).trans same) rfl _

end NamedClass

end ClassModel
