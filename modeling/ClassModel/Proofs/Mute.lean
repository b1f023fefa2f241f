import ClassModel.Proofs.Compiled
import ClassModel.Proofs.Substituted

/-!
# ClassModel.Proofs.Mute

Who complains about what. A step of a compilation is mute about a kind of
diagnostics if it reports none of them (`Traced.IsMute`). Reading types reports
nothing about what they are part of (`Scope.isMute_resolve`), and reading the
text of a member reports nothing about the member as a whole
(`Scope.isMute_compileMethod`). Values are supplied when a class-like is laid
out, and nothing else that happens in a compilation reports anything about them.
So the complaints about values are those of the layouts
(`unknownValues_eventsOf`).
-/

namespace ClassModel

/-! ## Complaints -/

/-- The name for which there is no static attribute, if the diagnostic is about
a value supplied for the class-like. -/
def Diagnostic.unknownValue? (id : ClassId) : Diagnostic → Option String
  | unknownStaticValue id' identifier => if id' = id then some identifier else none
  | _ => none

/-- The name for which there is no static attribute, if the diagnostic is about
a value supplied for the class-like of the name. -/
def NamedDiagnostic.unknownValue? (name : String) (named : NamedDiagnostic) : Option String :=
  match named.bare, named.mentioned with
  | .unknownStaticValue _ identifier, [.declared name' 0] =>
    if name' = name then some identifier else none
  | _, _ => none

/-- The names for which values were supplied to the class-like in vain. -/
def unknownValues (name : String) (events : List Event) : List String :=
  (reports events).filterMap (·.unknownValue? name)

theorem unknownValues_append (name : String) (events events' : List Event) :
    unknownValues name (events ++ events')
      = unknownValues name events ++ unknownValues name events' := by
  rw [unknownValues, reports_append, List.filterMap_append]
  rfl

theorem unknownValues_flatMap {α : Type} (name : String) (events : α → List Event)
    (values : List α) : unknownValues name (values.flatMap events)
      = values.flatMap fun value => unknownValues name (events value) := by
  rw [unknownValues, reports_flatMap, List.filterMap_flatMap]
  rfl

/-- The diagnostic is about a value for which there is no static attribute. -/
def Diagnostic.IsUnknownValue : Diagnostic → Prop
  | unknownStaticValue .. => True
  | _ => False

/-- The diagnostic is about a member of a class-like as a whole. -/
def Diagnostic.IsAboutMember : Diagnostic → Prop
  | redefinedMember .. | unknownStaticValue .. => True
  | _ => False

/-- The diagnostic is about what types and names are put together to: about formal
parameters as a list, or about a member. -/
def Diagnostic.IsAboutWhole : Diagnostic → Prop
  | misplacedEllipsis .. | redefinedMember .. | unknownStaticValue .. => True
  | _ => False

theorem Diagnostic.IsAboutMember.isAboutWhole {diagnostic : Diagnostic}
    (isAboutMember : diagnostic.IsAboutMember) : diagnostic.IsAboutWhole := by
  cases diagnostic <;> trivial

theorem Diagnostic.IsUnknownValue.isAboutMember {diagnostic : Diagnostic}
    (isUnknownValue : diagnostic.IsUnknownValue) : diagnostic.IsAboutMember := by
  cases diagnostic <;> trivial

/-- No diagnostic of the kind is reported. -/
structure Traced.IsMute {α : Type} (kind : Diagnostic → Prop) (traced : Traced α) : Prop where
  silent : Silent kind traced.events

namespace Traced.IsMute

variable {α β σ ι : Type} {kind : Diagnostic → Prop}

theorem pure (value : α) : (pure value : Traced α).IsMute kind := ⟨fun _ mem => by cases mem⟩

theorem bind {traced : Traced α} {next : α → Traced β} (first : traced.IsMute kind)
    (rest : ∀ value, (next value).IsMute kind) : (traced >>= next).IsMute kind where
  silent named mem := by
    rw [events_bind, reports_append] at mem
    exact (List.mem_append.1 mem).elim (first.silent named) ((rest _).silent named)

theorem reportOf {bare : Diagnostic} {mentioned : List TypeTree} (other : ¬ kind bare) :
    (Traced.reportOf bare mentioned).IsMute kind :=
  ⟨fun _ mem => List.mem_singleton.1 mem ▸ other⟩

theorem report {diagnostic : Diagnostic} (other : ¬ kind diagnostic) :
    (Traced.report diagnostic).IsMute kind := reportOf other

theorem request (tree : TypeTree) : (Traced.request tree).IsMute kind :=
  ⟨fun _ mem => by cases mem⟩

theorem mapM {step : α → Traced β} {values : List α}
    (each : ∀ value ∈ values, (step value).IsMute kind) : (values.mapM step).IsMute kind where
  silent named mem := by
    rw [events_mapM, reports_flatMap, List.mem_flatMap] at mem
    obtain ⟨value, inside, mem⟩ := mem
    exact (each value inside).silent named mem

theorem foldlM {step : σ → ι → Traced σ}
    (each : ∀ state value, (step state value).IsMute kind) (state : σ) (values : List ι) :
    (values.foldlM step state).IsMute kind := by
  induction values generalizing state with
  | nil => exact pure _
  | cons value values ih =>
    rw [List.foldlM_cons]
    exact (each state value).bind ih

/-- What reports nothing about a whole reports nothing about members. -/
theorem ofWhole {traced : Traced α} (mute : traced.IsMute Diagnostic.IsAboutWhole) :
    traced.IsMute Diagnostic.IsAboutMember :=
  ⟨fun named mem isAboutMember => mute.silent named mem isAboutMember.isAboutWhole⟩

/-- What reports nothing about members reports nothing about static values. -/
theorem ofMembers {traced : Traced α} (mute : traced.IsMute Diagnostic.IsAboutMember) :
    traced.IsMute Diagnostic.IsUnknownValue :=
  ⟨fun named mem isUnknownValue => mute.silent named mem isUnknownValue.isAboutMember⟩

theorem unknownValues {traced : Traced α} (mute : traced.IsMute Diagnostic.IsUnknownValue)
    (name : String) : unknownValues name traced.events = [] := by
  refine List.filterMap_eq_nil_iff.2 fun named mem => ?_
  have other := mute.silent named mem
  unfold NamedDiagnostic.unknownValue?
  split
  · next same _ => exact absurd (same ▸ trivial) other
  · rfl

theorem reportUnmet (signature : String) (unmet? : Option Unmet) :
    (Traced.reportUnmet signature unmet?).IsMute Diagnostic.IsAboutWhole := by
  cases unmet? with
  | none => exact pure _
  | some unmet => exact report id

theorem nameOf? (signature : String) (name : Except Unmet String) :
    (Traced.nameOf? signature name).IsMute Diagnostic.IsAboutWhole := by
  cases name with
  | ok name => exact pure _
  | error unmet => exact (report id).bind fun _ => pure _

theorem tokens (signature : String) :
    (Traced.tokens signature).IsMute Diagnostic.IsAboutWhole := by
  have reported (errors : List LexicalError) :
      (errors.forM fun error => Traced.report (.lexical signature error)).IsMute
        Diagnostic.IsAboutWhole := by
    induction errors with
    | nil => exact pure _
    | cons error errors ih => exact (report id).bind fun _ => ih
  exact (reported _).bind fun _ => pure _

end Traced.IsMute

open Traced
open Diagnostic (IsAboutMember IsAboutWhole IsUnknownValue)

/-! ## Types -/

namespace Scope

variable (scope : Scope) (options : Options) (context signature : String)

theorem isMute_instantiate (base : String) (arguments : List TypeTree) :
    (scope.instantiate options base arguments signature).IsMute IsAboutWhole := by
  have fitted : (fitArguments options base (scope.parametersOf base).length arguments
      signature).IsMute IsAboutWhole := by
    unfold fitArguments
    split
    · exact .pure _
    · exact (IsMute.reportOf id).bind fun _ => .pure _
  refine fitted.bind fun arguments => ?_
  dsimp only
  split
  · exact .pure _
  · split
    · exact (IsMute.report id).bind fun _ => .pure _
    · exact (IsMute.request _).bind fun _ => .pure _

theorem isMute_resolveName (name : String) :
    (scope.resolveName context signature name).IsMute IsAboutWhole := by
  unfold resolveName
  split
  · exact .pure _
  · split
    · exact .pure _
    · split
      · exact .pure _
      · exact (IsMute.report id).bind fun _ => .pure _

theorem isMute_resolve (expr : TypeExpr) :
    (scope.resolve options context signature expr).IsMute IsAboutWhole := by
  induction expr with
  | missing found dimension =>
    rw [resolve]
    exact (IsMute.report id).bind fun _ => .pure _
  | name name dimension =>
    rw [resolve]
    exact (scope.isMute_resolveName context signature name).bind fun _ => .pure _
  | application name arguments unclosed? dimension ih =>
    rw [resolve, resolveAll_eq_mapM]
    exact (IsMute.mapM ih).bind fun arguments => (IsMute.reportUnmet _ _).bind fun _ =>
      (scope.isMute_instantiate options signature name arguments).bind fun _ => .pure _

theorem isMute_substitute (arguments : List (String × TypeTree)) (tree : TypeTree) :
    (tree.substitute scope options arguments).IsMute IsAboutWhole := by
  induction tree with
  | primitive | declared | parameter =>
    rw [TypeTree.substitute]
    exact .pure _
  | applied name trees n ih =>
    rw [TypeTree.substitute_applied, TypeTree.substituteAll_eq_mapM]
    exact ((IsMute.mapM ih).bind fun _ => scope.isMute_instantiate options _ _ _).bind
      fun _ => .pure _

end Scope

/-! ## Headers -/

namespace NamedClass

variable (scope : Scope) (options : Options) (signature : String) (named : NamedClass)

theorem isMute_resolveBound (position : Nat) (change : NamedParameter → TypeTree → NamedParameter)
    (type : TypeExpr) :
    (named.resolveBound scope options signature position change type).IsMute IsAboutWhole := by
  refine (scope.isMute_resolve options _ signature type).bind fun tree => .bind ?_ fun bound? => ?_
  · unfold checkedBound?
    split
    · exact .pure _
    · exact (IsMute.report id).bind fun _ => .pure _
  · cases bound? with
    | none => exact .pure _
    | some bound => exact .pure _

theorem isMute_resolveBoundExpr (position : Nat) (bound : BoundExpr) :
    (named.resolveBoundExpr scope options signature position bound).IsMute IsAboutWhole := by
  cases bound with
  | upper types => exact .foldlM (fun named type => named.isMute_resolveBound ..) _ _
  | lower type => exact named.isMute_resolveBound ..

theorem isMute_resolveParameters (position : Nat) (exprs : List ParameterExpr) :
    (named.resolveParameters scope options signature position exprs).IsMute IsAboutWhole := by
  induction exprs generalizing position named with
  | nil => exact .pure _
  | cons expr exprs ih =>
    rw [resolveParameters]
    exact (IsMute.foldlM (fun named bound => named.isMute_resolveBoundExpr ..) _ _).bind
      fun named => ih named _

theorem isMute_addSupertype (clause : ClauseKind) (tree : TypeTree) :
    (named.addSupertype scope signature clause tree).IsMute IsAboutWhole := by
  unfold addSupertype
  split
  · exact (IsMute.report id).bind fun _ => .pure _
  · dsimp only
    split
    · exact (IsMute.reportOf id).bind fun _ => .pure _
    · split
      · exact (IsMute.reportOf id).bind fun _ => .pure _
      · exact .pure _
      · exact .pure _

theorem isMute_resolveClause (clause : ClauseExpr) :
    (named.resolveClause scope options signature clause).IsMute IsAboutWhole := by
  have types (isRejected : Bool) : (clause.types.foldlM (fun (named : NamedClass) type =>
      named.resolveSupertype scope options signature clause.kind isRejected type) named).IsMute
        IsAboutWhole := by
    refine .foldlM (fun named type => ?_) _ _
    refine (scope.isMute_resolve options _ signature type).bind fun tree => ?_
    cases isRejected with
    | true => exact .pure _
    | false => exact named.isMute_addSupertype ..
  unfold resolveClause
  dsimp only
  split
  · exact (IsMute.report id).bind fun _ => types _
  · exact types _

theorem isMute_resolveHeader (rest : List Token) :
    (named.resolveHeader scope options signature rest).IsMute IsAboutWhole :=
  (named.isMute_resolveParameters ..).bind fun _ => (IsMute.reportUnmet _ _).bind fun _ =>
    (IsMute.foldlM (fun named _ => named.isMute_resolveClause ..) _ _).bind fun _ =>
      (IsMute.reportUnmet _ _).bind fun _ => .pure _

/-! ## Members -/

end NamedClass

namespace Scope

variable (scope : Scope) (options : Options) (signature : String)

theorem isMute_compileAttribute? (owner : String) :
    (scope.compileAttribute? options owner signature).IsMute IsAboutWhole := by
  refine (IsMute.tokens signature).bind fun tokens => (scope.isMute_resolve ..).bind fun tree =>
    (IsMute.nameOf? _ _).bind fun name? => ?_
  cases name? with
  | none => exact .pure _
  | some identifier => exact (IsMute.reportUnmet _ _).bind fun _ => .pure _

theorem isMute_compileFormals (owner : String) (position : Nat) (exprs : List FormalExpr) :
    (scope.compileFormals options owner signature position exprs).IsMute IsAboutWhole := by
  induction exprs generalizing position with
  | nil => exact .pure _
  | cons expr exprs ih =>
    rw [compileFormals]
    exact (scope.isMute_resolve ..).bind fun _ => (IsMute.nameOf? _ _).bind fun _ =>
      (ih _).bind fun _ => .pure _

theorem isMute_compileReturnType? (owner : String) (type? : Option TypeExpr) :
    (scope.compileReturnType? options owner signature type?).IsMute IsAboutWhole := by
  cases type? with
  | none => exact .pure _
  | some type => exact (scope.isMute_resolve ..).bind fun _ => .pure _

theorem isMute_placeEllipsis (formals : List NamedFormal) :
    (placeEllipsis signature formals).IsMute IsAboutMember := by
  fun_induction placeEllipsis signature formals with
  | case1 | case2 => exact .pure _
  | case3 formal formals alone rest variadic ih =>
    exact (IsMute.report id).bind fun _ => ih.bind fun _ => .pure _
  | case4 formal formals alone rest single ih => exact ih.bind fun _ => .pure _

theorem isMute_compileMethod (owner : String) (body : Body) :
    (scope.compileMethod options owner signature body).IsMute IsAboutMember := by
  exact (IsMute.tokens signature).ofWhole.bind fun tokens =>
    (scope.isMute_compileReturnType? ..).ofWhole.bind fun _ =>
      (IsMute.nameOf? _ _).ofWhole.bind fun _ => (IsMute.reportUnmet _ _).ofWhole.bind fun _ =>
        (scope.isMute_compileFormals ..).ofWhole.bind fun _ =>
          (IsMute.reportUnmet _ _).ofWhole.bind fun _ =>
            (IsMute.reportUnmet _ _).ofWhole.bind fun _ =>
              (isMute_placeEllipsis ..).bind fun _ => .pure _

end Scope

namespace NamedClass

variable (scope : Scope) (options : Options) (signature : String) (named : NamedClass)

theorem isMute_addAttribute :
    (named.addAttribute scope options signature).IsMute IsUnknownValue := by
  refine .bind (scope.isMute_compileAttribute? ..).ofWhole.ofMembers fun found? => ?_
  cases found? with
  | none => exact .pure _
  | some found =>
    dsimp only
    split
    · exact (IsMute.reportOf id).bind fun _ => .pure _
    · exact .pure _

theorem isMute_addMethod (body : Body) :
    (named.addMethod scope options signature body).IsMute IsUnknownValue := by
  refine .bind (scope.isMute_compileMethod ..).ofMembers fun method => ?_
  split
  · exact (IsMute.reportOf id).bind fun _ => .pure _
  · exact .pure _

theorem isMute_compileMembers (declaration : Declaration) :
    (named.compileMembers scope options declaration).IsMute IsUnknownValue :=
  (IsMute.foldlM (fun named _ => named.isMute_addAttribute ..) _ _).bind fun _ =>
    (IsMute.foldlM (fun named _ => named.isMute_addMethod ..) _ _).bind fun _ => .pure _

end NamedClass

/-! ## Stages -/

theorem Registration.isMute_readAll (taken : List Registration)
    (declarations : List Declaration) :
    (readAll options taken declarations).IsMute IsAboutWhole := by
  induction declarations generalizing taken with
  | nil => exact .pure _
  | cons declaration declarations ih =>
    refine .bind ?_ fun _ => (ih _).bind fun _ => .pure _
    refine (IsMute.tokens _).bind fun tokens => ?_
    split
    · exact (IsMute.report id).bind fun _ => .pure _
    · exact (IsMute.report id).bind fun _ => .pure _
    · split
      · exact (IsMute.reportOf id).bind fun _ => .pure _
      · exact .pure _

theorem isMute_reviseAll {κ : Type} {kind : Diagnostic → Prop} {nameOf : κ → String}
    {change : κ → (String → NamedClass) → Traced NamedClass}
    (each : ∀ k content, (change k content).IsMute kind) (ks : List κ)
    (content : String → NamedClass) : (reviseAll nameOf change ks content).IsMute kind :=
  .foldlM (fun content k => (each k content).bind fun _ => .pure _) _ _

theorem isMute_membersOf (options : Options) (declarations : List Declaration) :
    (membersOf options declarations).IsMute IsUnknownValue := by
  refine .bind (.bind ?_ fun content => ?_) fun content => ?_
  · exact isMute_reviseAll (fun _ _ => (NamedClass.isMute_resolveHeader ..).ofWhole.ofMembers) _ _
  · refine isMute_reviseAll (fun name content => ?_) _ _
    unfold cutCycle
    split
    · exact (IsMute.reportOf id).bind fun _ => .pure _
    · exact .pure _
  · exact isMute_reviseAll (fun _ _ => NamedClass.isMute_compileMembers ..) _ _

/-- Filling in an instantiation reports nothing about static values. -/
theorem Scope.unknownValues_eventsOf (scope : Scope) (options : Options)
    (content : String → NamedClass) (name : String) (tree : TypeTree) :
    unknownValues name (scope.eventsOf options content tree) = [] := by
  cases tree with
  | applied base trees n =>
    rw [eventsOf, instanceOf, NamedClass.events_substitute, unknownValues_flatMap]
    exact List.flatMap_eq_nil_iff.2 fun type _ =>
      (scope.isMute_substitute options _ type).ofWhole.ofMembers.unknownValues name
  | primitive primitive n | declared base n | parameter owner base n => rfl

/-- In a compilation, only the layouts report anything about static values. -/
theorem unknownValues_eventsOf (options : Options) (declarations : List Declaration)
    (names : List String) (trees : List TypeTree) (name : String) :
    unknownValues name (eventsOf options declarations names trees)
      = unknownValues name (layOutAll names (membersOf options declarations).value).events := by
  have filled : unknownValues name (trees.flatMap ((scopeOf declarations).eventsOf options
      (contentOf options declarations names))) = [] := by
    rw [unknownValues_flatMap]
    exact List.flatMap_eq_nil_iff.2 fun tree _ => Scope.unknownValues_eventsOf ..
  rw [eventsOf, unknownValues_append, filled, List.append_nil, preparation, unknownValues_append,
    (Registration.isMute_readAll [] declarations).ofWhole.ofMembers.unknownValues, List.nil_append,
    unknownValues_append, (isMute_membersOf options declarations).unknownValues, List.nil_append]

end ClassModel
