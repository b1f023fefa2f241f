import ClassModel.Proofs.Named

/-!
# ClassModel.Proofs.Traced

Computations by names. A `Traced` answer comes with what happens on the way to
it: diagnostics are reported and instantiations are requested, in order. What
is computed by names depends on no library, so it is the same whatever has been
compiled before.
-/

namespace ClassModel

/-- What takes the place of an identifier where class-likes are told by names. -/
def ClassId.placeholder : ClassId := ⟨0⟩

/-- The class-likes that a diagnostic mentions. -/
def Diagnostic.mentioned : Diagnostic → List ClassId
  | mismatchedArguments _ id .. | invalidSupertype _ id _ | redefinedClassLike id _
  | redefinedMember id _ | unknownStaticValue id _ | cyclicInheritance id => [id]
  | multipleSuperclasses _ existing ignored => [existing, ignored]
  | lexical .. | unexpectedToken .. | expectedType .. | unknownType .. | unrecognizedKeyword ..
  | implementsOnInterface _ | expectedClassLike .. | misplacedEllipsis .. | depthExceeded .. => []

/-- A diagnostic without the class-likes that it mentions. -/
def Diagnostic.bare : Diagnostic → Diagnostic
  | mismatchedArguments signature _ expected found strict =>
    mismatchedArguments signature .placeholder expected found strict
  | invalidSupertype signature _ expected => invalidSupertype signature .placeholder expected
  | multipleSuperclasses signature _ _ => multipleSuperclasses signature .placeholder .placeholder
  | redefinedClassLike _ signature => redefinedClassLike .placeholder signature
  | redefinedMember _ member => redefinedMember .placeholder member
  | unknownStaticValue _ identifier => unknownStaticValue .placeholder identifier
  | cyclicInheritance _ => cyclicInheritance .placeholder
  | other => other

/-- A diagnostic, with the class-likes that it mentions. -/
structure NamedDiagnostic where
  bare : Diagnostic
  mentioned : List TypeTree := []

/-- What happens during a computation. -/
inductive Event where
  | reported (diagnostic : NamedDiagnostic)
  /-- The instantiation was asked for. -/
  | requested (tree : TypeTree)

/-- An answer, and what happens on the way to it. -/
structure Traced (α : Type) where
  value : α
  events : List Event := []

namespace Traced

variable {α β : Type}

instance : Monad Traced where
  pure value := { value }
  bind step next := ⟨(next step.value).value, step.events ++ (next step.value).events⟩

@[simp] theorem value_pure (value : α) : (pure value : Traced α).value = value := rfl

@[simp] theorem events_pure (value : α) : (pure value : Traced α).events = [] := rfl

@[simp] theorem value_bind (step : Traced α) (next : α → Traced β) :
    (step >>= next).value = (next step.value).value := rfl

@[simp] theorem events_bind (step : Traced α) (next : α → Traced β) :
    (step >>= next).events = step.events ++ (next step.value).events := rfl

instance : LawfulMonad Traced := by
  refine LawfulMonad.mk' Traced ?_ (fun value next => rfl) ?_
  · intro α step
    show Traced.mk step.value (step.events ++ []) = step
    rw [List.append_nil]
  · intro α β γ step next last
    show Traced.mk _ _ = Traced.mk _ _
    rw [events_bind, List.append_assoc]
    rfl

@[simp] theorem value_map (change : α → β) (step : Traced α) :
    (change <$> step).value = change step.value := rfl

@[simp] theorem events_map (change : α → β) (step : Traced α) :
    (change <$> step).events = step.events :=
  List.append_nil _

@[simp] theorem value_mapM (step : α → Traced β) (values : List α) :
    (values.mapM step).value = values.map fun value => (step value).value := by
  induction values with
  | nil => rfl
  | cons value values ih =>
    rw [List.mapM_cons, value_bind, value_bind, ih, value_pure, List.map_cons]

@[simp] theorem events_mapM (step : α → Traced β) (values : List α) :
    (values.mapM step).events = values.flatMap fun value => (step value).events := by
  induction values with
  | nil => rfl
  | cons value values ih =>
    rw [List.mapM_cons, events_bind, events_bind, ih, events_pure, List.append_nil,
      List.flatMap_cons]

@[simp] theorem value_optionMapM (step : α → Traced β) (value? : Option α) :
    (value?.mapM step).value = value?.map fun value => (step value).value := by
  cases value? <;> rfl

@[simp] theorem events_optionMapM (step : α → Traced β) (value? : Option α) :
    (value?.mapM step).events = value?.toList.flatMap fun value => (step value).events := by
  cases value? with
  | none => rfl
  | some value =>
    change (step value).events ++ [] = (step value).events ++ []
    rfl

/-- What follows a step sees its answer only. -/
theorem bind_congr {step : Traced α} {next next' : α → Traced β}
    (same : next step.value = next' step.value) : step >>= next = step >>= next' := by
  show Traced.mk _ _ = Traced.mk _ _
  rw [same]

/-- Reports a problem that mentions class-likes. -/
def reportOf (bare : Diagnostic) (mentioned : List TypeTree) : Traced Unit :=
  ⟨(), [.reported { bare, mentioned }]⟩

/-- Reports a problem. -/
def report (diagnostic : Diagnostic) : Traced Unit := reportOf diagnostic []

/-- Asks for an instantiation. -/
def request (tree : TypeTree) : Traced Unit := ⟨(), [.requested tree]⟩

/-- Reports an unmet expectation, if there is one. -/
def reportUnmet (signature : String) : Option Unmet → Traced Unit
  | some unmet => report (.unexpectedToken signature unmet)
  | none => return

/-- The meaningful tokens of a signature. -/
def tokens (signature : String) : Traced (List Token) := do
  let stream := tokenize signature
  stream.errors.forM fun error => report (.lexical signature error)
  return stream.significant

/-- A name that was expected. -/
def nameOf? (signature : String) : Except Unmet String → Traced (Option String)
  | .ok name => return some name
  | .error unmet => do
    report (.unexpectedToken signature unmet)
    return none

end Traced

/-- The diagnostics among what happened. -/
def reports (events : List Event) : List NamedDiagnostic :=
  events.filterMap fun
    | .reported diagnostic => some diagnostic
    | .requested _ => none

/-- The instantiations that were asked for. -/
def requests (events : List Event) : List TypeTree :=
  events.filterMap fun
    | .reported _ => none
    | .requested tree => some tree

@[simp] theorem reports_append (events events' : List Event) :
    reports (events ++ events') = reports events ++ reports events' :=
  List.filterMap_append

@[simp] theorem requests_append (events events' : List Event) :
    requests (events ++ events') = requests events ++ requests events' :=
  List.filterMap_append

theorem requests_flatMap {α : Type} (events : α → List Event) (values : List α) :
    requests (values.flatMap events) = values.flatMap fun value => requests (events value) :=
  List.filterMap_flatMap

theorem reports_flatMap {α : Type} (events : α → List Event) (values : List α) :
    reports (values.flatMap events) = values.flatMap fun value => reports (events value) :=
  List.filterMap_flatMap

/-- No diagnostic of the kind is reported. -/
def Silent (kind : Diagnostic → Prop) (events : List Event) : Prop :=
  ∀ named ∈ reports events, ¬ kind named.bare

theorem Silent.append {kind : Diagnostic → Prop} {events events' : List Event}
    (silent : Silent kind (events ++ events')) : Silent kind events ∧ Silent kind events' := by
  rw [Silent, reports_append] at silent
  exact ⟨fun named mem => silent named (List.mem_append_left _ mem),
    fun named mem => silent named (List.mem_append_right _ mem)⟩

theorem Silent.of_mem {α : Type} {kind : Diagnostic → Prop} {events : α → List Event}
    {values : List α} {value : α} (silent : Silent kind (values.flatMap events))
    (mem : value ∈ values) : Silent kind (events value) := by
  rw [Silent, reports_flatMap] at silent
  exact fun named mem' => silent named (List.mem_flatMap.2 ⟨value, mem, mem'⟩)

end ClassModel
