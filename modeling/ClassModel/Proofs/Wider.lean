import ClassModel.Proofs.Preparation
import ClassModel.Proofs.Reread
import ClassModel.Proofs.Substitute

/-!
# ClassModel.Proofs.Wider

Compiling a class-like in a wider scope. Where every name refers to something,
further declarations change nothing: whatever is read, resolved and compiled is
the same in a scope that knows more (`NamedClass.extends_resolveHeader`,
`NamedClass.extends_compileMembers`).
-/

namespace ClassModel

/-! ## Scopes -/

namespace Scope

/-- What the scope knows, the other one knows as well. -/
def IsIn (scope scope' : Scope) : Prop :=
  ∀ name shape, scope name = some shape → scope' name = some shape

/-- The name refers to something in the signatures of the class-like. -/
def Knows (scope : Scope) (context name : String) : Prop :=
  (Primitive.ofText? name).isSome ∨ scope.declaresParameter context name = true
    ∨ (scope name).isSome

variable {scope scope' : Scope} {context name : String}

theorem parametersOf_eq_of_isIn (isIn : scope.IsIn scope') (known : (scope name).isSome) :
    scope'.parametersOf name = scope.parametersOf name := by
  obtain ⟨shape, known⟩ := Option.isSome_iff_exists.1 known
  rw [parametersOf, parametersOf, known, isIn _ _ known]

theorem declaresParameter_eq_of_isIn (isIn : scope.IsIn scope') (known : (scope context).isSome) :
    scope'.declaresParameter context = scope.declaresParameter context := by
  funext name
  rw [declaresParameter, declaresParameter, parametersOf_eq_of_isIn isIn known]

/-- A name that refers to something takes arguments as before. -/
theorem Knows.takesArguments_eq (knows : scope.Knows context name) (isIn : scope.IsIn scope')
    (known : (scope context).isSome) :
    scope.takesArguments context name = scope'.takesArguments context name := by
  rw [takesArguments, takesArguments, declaresParameter_eq_of_isIn isIn known]
  rcases knows with primitive | parameter | declared
  · simp [Option.isNone_eq_false_iff.2 primitive]
  · simp [parameter]
  · obtain ⟨shape, declared⟩ := Option.isSome_iff_exists.1 declared
    rw [declared, isIn _ _ declared]

theorem instantiate_eq_of_isIn {options : Options} {arguments : List TypeTree} {signature : String}
    (isIn : scope.IsIn scope') (known : (scope name).isSome) :
    scope'.instantiate options name arguments signature
      = scope.instantiate options name arguments signature := by
  rw [instantiate, instantiate, parametersOf_eq_of_isIn isIn known]

end Scope

/-! ## Events -/

/-- Every name that was met refers to something. -/
def Familiar : List Event → Prop :=
  Silent fun diagnostic => ∃ signature identifier, diagnostic = .unknownType signature identifier

/-- Where every name refers to something, the condition holds and the other
computation does the same. -/
def Traced.Extends {α : Type} (condition : Prop) (traced traced' : Traced α) : Prop :=
  Familiar traced.events → condition ∧ traced' = traced

namespace Traced.Extends

variable {α β σ ι : Type} {p q : Prop} {traced traced' : Traced α}

theorem refl (traced : Traced α) : traced.Extends True traced := fun _ => ⟨trivial, rfl⟩

theorem imp (h : traced.Extends p traced') (step : p → q) : traced.Extends q traced' :=
  fun familiar => (h familiar).imp_left step

theorem bind {next next' : α → Traced β} (first : traced.Extends p traced')
    (rest : (next traced.value).Extends q (next' traced.value)) :
    (traced >>= next).Extends (p ∧ q) (traced' >>= next') := by
  intro familiar
  rw [events_bind] at familiar
  obtain ⟨holds, rfl⟩ := first familiar.append.1
  obtain ⟨holds', same⟩ := rest familiar.append.2
  exact ⟨⟨holds, holds'⟩, bind_congr same⟩

/-- A computation that does not look at the scope does the same. -/
theorem after {step : Traced β} {next next' : β → Traced α}
    (rest : (next step.value).Extends q (next' step.value)) :
    (step >>= next).Extends q (step >>= next') :=
  ((refl step).bind rest).imp And.right

/-- What follows does the same. -/
theorem andThen {next next' : α → Traced β} (first : traced.Extends p traced')
    (same : next' traced.value = next traced.value) :
    (traced >>= next).Extends p (traced' >>= next') :=
  (first.bind (q := True) (by rw [same]; exact refl _)).imp And.left

theorem foldlM {step step' : σ → ι → Traced σ} {holds : ι → Prop} {invariant : σ → Prop}
    {values : List ι}
    (same : ∀ value ∈ values, ∀ state, invariant state →
      invariant (step state value).value
        ∧ (step state value).Extends (holds value) (step' state value))
    {state : σ} (start : invariant state) :
    (values.foldlM step state).Extends (∀ value ∈ values, holds value)
      (values.foldlM step' state) := by
  induction values generalizing state with
  | nil => exact (refl _).imp fun _ => by simp
  | cons value values ih =>
    obtain ⟨keeps, first⟩ := same value (by simp) state start
    rw [List.foldlM_cons, List.foldlM_cons]
    refine (first.bind (ih (fun value mem => same value (by simp [mem])) keeps)).imp ?_
    simp

end Traced.Extends

/-! ## Types -/

section Types

variable {scope scope' : Scope} {options : Options} {context signature : String}

theorem Scope.extends_resolveName (isIn : scope.IsIn scope') (known : (scope context).isSome)
    (name : String) : (scope.resolveName context signature name).Extends
      (scope.Knows context name) (scope'.resolveName context signature name) := by
  intro familiar
  unfold resolveName at familiar ⊢
  rw [declaresParameter_eq_of_isIn isIn known]
  cases primitive : Primitive.ofText? name with
  | some primitive' => exact ⟨.inl (by simp [primitive]), rfl⟩
  | none =>
    rw [primitive] at familiar
    dsimp only at familiar ⊢
    split
    · next parameter => exact ⟨.inr (.inl parameter), rfl⟩
    · next notParameter =>
      rw [if_neg notParameter] at familiar
      cases declared : scope name with
      | some shape =>
        refine ⟨.inr (.inr (by rw [declared]; rfl)), ?_⟩
        rw [isIn _ _ declared]
      | none =>
        rw [declared] at familiar
        exact (familiar ⟨.unknownType signature name, []⟩ (List.mem_singleton_self _)
          ⟨_, _, rfl⟩).elim

/-- Written types are resolved as before, if each of them is. -/
theorem Scope.extends_resolveAll {exprs : List TypeExpr}
    (step : ∀ expr ∈ exprs, (scope.resolve options context signature expr).Extends
      (expr.All (scope.Knows context)) (scope'.resolve options context signature expr)) :
    (scope.resolveAll options context signature exprs).Extends
      (∀ expr ∈ exprs, expr.All (scope.Knows context))
      (scope'.resolveAll options context signature exprs) := by
  induction exprs with
  | nil => exact (Traced.Extends.refl _).imp fun _ => by simp
  | cons expr exprs ih =>
    rw [resolveAll, resolveAll]
    refine ((step expr (by simp)).bind
      ((ih fun expr mem => step expr (by simp [mem])).andThen rfl)).imp ?_
    simp

theorem Scope.extends_resolve (isIn : scope.IsIn scope') (known : (scope context).isSome)
    {expr : TypeExpr} (applies : expr.Applies (scope.takesArguments context)) :
    (scope.resolve options context signature expr).Extends (expr.All (scope.Knows context))
      (scope'.resolve options context signature expr) := by
  induction expr with
  | missing found dimension =>
    rw [resolve, resolve, TypeExpr.All]
    exact .refl _
  | name name dimension =>
    rw [resolve, resolve, TypeExpr.All]
    exact (extends_resolveName isIn known name).andThen rfl
  | application name arguments unclosed? dimension ih =>
    rw [TypeExpr.Applies] at applies
    obtain ⟨_, shape, declared⟩ := Scope.takesArguments_eq_true applies.1
    have declared : (scope name).isSome := by rw [declared]; rfl
    have inside := extends_resolveAll fun argument mem => ih argument mem (applies.2 argument mem)
    rw [resolve, resolve, TypeExpr.All]
    refine (inside.andThen ?_).imp fun inside => ⟨.inr (.inr declared), inside⟩
    rw [instantiate_eq_of_isIn isIn declared]

/-- A type refers to the class-like of an array of it. -/
theorem TypeTree.mem_className?_array {tree : TypeTree} {n : Nat} {name : String}
    (mem : name ∈ (tree.array n).className?) : name ∈ tree.className? := by
  cases tree with
  | declared other m | applied other trees m =>
    cases m <;> cases n <;> simp_all [TypeTree.array, TypeTree.className?]
  | primitive primitive m | parameter owner other m => cases mem

/-- A written type refers to a class-like that is declared. -/
theorem Scope.className?_resolve (object : (scope Standard.objectIdentifier).isSome)
    {expr : TypeExpr} (applies : expr.Applies (scope.takesArguments context)) :
    ∀ name ∈ (scope.resolve options context signature expr).value.className?,
      (scope name).isSome := by
  intro name mem
  cases expr with
  | missing found dimension =>
    rw [resolve, Traced.value_bind, Traced.value_pure] at mem
    cases TypeTree.mem_className?_array mem
  | name identifier dimension =>
    rw [resolve, Traced.value_bind, Traced.value_pure] at mem
    have mem := TypeTree.mem_className?_array mem
    unfold resolveName at mem
    split at mem
    · cases mem
    · split at mem
      · cases mem
      · split at mem
        · next declared =>
          cases mem
          exact declared
        · cases mem
          exact object
  | application identifier arguments unclosed? dimension =>
    rw [resolve, Traced.value_bind, Traced.value_bind, Traced.value_bind, Traced.value_pure] at mem
    have mem := TypeTree.mem_className?_array mem
    rw [className?_instantiate] at mem
    cases mem
    rw [TypeExpr.Applies] at applies
    obtain ⟨_, shape, declared⟩ := Scope.takesArguments_eq_true applies.1
    rw [declared]
    rfl

end Types

/-! ## Headers -/

namespace NamedClass

variable {scope scope' : Scope} {options : Options} {context signature : String}
  {named : NamedClass}

/-- Changing the contents goes on under the same name. -/
theorem identifier_foldlM {ι : Type} {step : NamedClass → ι → Traced NamedClass} {values : List ι}
    (keeps : ∀ named value, (step named value).value.identifier = named.identifier)
    (named : NamedClass) : (values.foldlM step named).value.identifier = named.identifier := by
  induction values generalizing named with
  | nil => rfl
  | cons value values ih =>
    rw [List.foldlM_cons, Traced.value_bind, ih, keeps]

theorem identifier_resolveBound {position : Nat}
    {change : NamedParameter → TypeTree → NamedParameter} {type : TypeExpr} (named : NamedClass) :
    (named.resolveBound scope options signature position change type).value.identifier
      = named.identifier := by
  rw [resolveBound, Traced.value_bind, Traced.value_bind]
  split <;> rfl

theorem identifier_resolveBoundExpr {position : Nat} {bound : BoundExpr} (named : NamedClass) :
    (named.resolveBoundExpr scope options signature position bound).value.identifier
      = named.identifier := by
  cases bound with
  | upper types => exact identifier_foldlM (fun named _ => identifier_resolveBound named) named
  | lower type => exact identifier_resolveBound named

theorem identifier_resolveParameters {position : Nat} {parameters : List ParameterExpr}
    (named : NamedClass) :
    (named.resolveParameters scope options signature position parameters).value.identifier
      = named.identifier := by
  induction parameters generalizing position named with
  | nil => rfl
  | cons expr parameters ih =>
    rw [resolveParameters, Traced.value_bind, ih]
    exact identifier_foldlM (fun named _ => identifier_resolveBoundExpr named) named

theorem identifier_addSupertype {clause : ClauseKind} {tree : TypeTree} (named : NamedClass) :
    (named.addSupertype scope signature clause tree).value.identifier = named.identifier := by
  unfold addSupertype
  split
  · rfl
  · dsimp only
    split
    · rfl
    · split <;> rfl

theorem identifier_resolveSupertype {clause : ClauseKind} {isRejected : Bool} {type : TypeExpr}
    (named : NamedClass) :
    (named.resolveSupertype scope options signature clause isRejected type).value.identifier
      = named.identifier := by
  rw [resolveSupertype, Traced.value_bind]
  split
  · rfl
  · exact identifier_addSupertype named

theorem identifier_resolveClause {clause : ClauseExpr} (named : NamedClass) :
    (named.resolveClause scope options signature clause).value.identifier = named.identifier := by
  unfold resolveClause
  dsimp only
  split <;> exact identifier_foldlM (fun named _ => identifier_resolveSupertype named) named

/-- Resolves what is read of the rest of a header. -/
def resolveRest (scope : Scope) (options : Options) (signature : String) (header : HeaderRest)
    (named : NamedClass) : Traced NamedClass := do
  let named ← named.resolveParameters scope options signature 0 header.parameterList.parameters
  Traced.reportUnmet signature header.parameterList.unclosed?
  let named ← header.clauses.foldlM (fun named clause =>
    named.resolveClause scope options signature clause) named
  Traced.reportUnmet signature header.trailing?
  return named.withDefaultSuperclass

theorem resolveHeader_eq (rest : List Token) (named : NamedClass) :
    named.resolveHeader scope options signature rest
      = named.resolveRest scope options signature
        (.read (scope.takesArguments named.identifier) (!named.bare.kind.isEnum) rest) := rfl

theorem identifier_resolveHeader {rest : List Token} (named : NamedClass) :
    (named.resolveHeader scope options signature rest).value.identifier = named.identifier := by
  have default (named : NamedClass) :
      named.withDefaultSuperclass.identifier = named.identifier := by
    unfold withDefaultSuperclass
    split <;> rfl
  rw [resolveHeader_eq, resolveRest]
  simp only [Traced.value_bind, Traced.value_pure]
  rw [default, identifier_foldlM fun named _ => identifier_resolveClause named,
    identifier_resolveParameters]

section Extends

variable (isIn : scope.IsIn scope') (known : (scope context).isSome)

include isIn known

theorem extends_resolveBound {position : Nat} {change : NamedParameter → TypeTree → NamedParameter}
    {type : TypeExpr} (applies : type.Applies (scope.takesArguments context))
    (same : named.identifier = context) :
    (named.resolveBound scope options signature position change type).Extends
      (type.All (scope.Knows context))
      (named.resolveBound scope' options signature position change type) := by
  rw [resolveBound, resolveBound, same]
  exact (Scope.extends_resolve isIn known applies).andThen rfl

theorem extends_resolveBoundExpr {position : Nat} {bound : BoundExpr}
    (applies : bound.Applies (scope.takesArguments context)) (same : named.identifier = context) :
    (named.resolveBoundExpr scope options signature position bound).Extends
      (∀ type ∈ bound.types, type.All (scope.Knows context))
      (named.resolveBoundExpr scope' options signature position bound) := by
  cases bound with
  | upper types =>
    exact .foldlM (fun type mem named same => ⟨(identifier_resolveBound named).trans same,
      extends_resolveBound isIn known (applies type mem) same⟩) same
  | lower type =>
    refine (extends_resolveBound isIn known applies same).imp fun all => ?_
    simpa [BoundExpr.types] using all

theorem extends_resolveParameters {position : Nat} {parameters : List ParameterExpr}
    (applies : ∀ parameter ∈ parameters, ∀ expr ∈ parameter.bounds,
      expr.Applies (scope.takesArguments context)) (same : named.identifier = context) :
    (named.resolveParameters scope options signature position parameters).Extends
      (∀ parameter ∈ parameters, ∀ expr ∈ parameter.bounds, ∀ type ∈ expr.types,
        type.All (scope.Knows context))
      (named.resolveParameters scope' options signature position parameters) := by
  induction parameters generalizing position named with
  | nil => exact (Traced.Extends.refl _).imp fun _ => by simp
  | cons expr parameters ih =>
    rw [resolveParameters, resolveParameters]
    refine (Traced.Extends.bind (.foldlM (fun bound mem named same =>
        ⟨(identifier_resolveBoundExpr named).trans same,
          extends_resolveBoundExpr isIn known (applies expr (by simp) bound mem) same⟩) same)
      (ih (fun parameter mem => applies parameter (by simp [mem])) ?_)).imp ?_
    · exact (identifier_foldlM (fun named _ => identifier_resolveBoundExpr named) named).trans same
    · simp

omit known in
/-- A supertype that was resolved is accepted as before. -/
theorem addSupertype_eq {clause : ClauseKind} {tree : TypeTree}
    (inside : ∀ name ∈ tree.className?, (scope name).isSome) :
    named.addSupertype scope' signature clause tree
      = named.addSupertype scope signature clause tree := by
  unfold addSupertype
  cases refers : tree.className? with
  | none => rfl
  | some name =>
    obtain ⟨shape, declared⟩ := Option.isSome_iff_exists.1 (inside name refers)
    rw [Option.bind_some, Option.bind_some, declared, isIn _ _ declared]

variable (object : (scope Standard.objectIdentifier).isSome)

include object

theorem extends_resolveSupertype {clause : ClauseKind} {isRejected : Bool} {type : TypeExpr}
    (applies : type.Applies (scope.takesArguments context)) (same : named.identifier = context) :
    (named.resolveSupertype scope options signature clause isRejected type).Extends
      (type.All (scope.Knows context))
      (named.resolveSupertype scope' options signature clause isRejected type) := by
  rw [resolveSupertype, resolveSupertype, same]
  refine (Scope.extends_resolve isIn known applies).andThen ?_
  rw [addSupertype_eq isIn (Scope.className?_resolve object applies)]

theorem extends_resolveClause {clause : ClauseExpr}
    (applies : ∀ type ∈ clause.types, type.Applies (scope.takesArguments context))
    (same : named.identifier = context) :
    (named.resolveClause scope options signature clause).Extends
      (∀ type ∈ clause.types, type.All (scope.Knows context))
      (named.resolveClause scope' options signature clause) := by
  have types (isRejected : Bool) : (clause.types.foldlM (fun (named : NamedClass) type =>
        named.resolveSupertype scope options signature clause.kind isRejected type) named).Extends
      (∀ type ∈ clause.types, type.All (scope.Knows context))
      (clause.types.foldlM (fun (named : NamedClass) type =>
        named.resolveSupertype scope' options signature clause.kind isRejected type) named) :=
    .foldlM (fun type mem named same => ⟨(identifier_resolveSupertype named).trans same,
      extends_resolveSupertype isIn known object (applies type mem) same⟩) same
  unfold resolveClause
  dsimp only
  split
  · exact (types _).after
  · exact types _

/-- Where every name in the rest of a header refers to something, it is
resolved as before. -/
theorem extends_resolveRest {header : HeaderRest}
    (inParameters : ∀ parameter ∈ header.parameterList.parameters, ∀ expr ∈ parameter.bounds,
      expr.Applies (scope.takesArguments context))
    (inClauses : ∀ clause ∈ header.clauses, ∀ type ∈ clause.types,
      type.Applies (scope.takesArguments context)) (same : named.identifier = context) :
    (named.resolveRest scope options signature header).Extends (header.All (scope.Knows context))
      (named.resolveRest scope' options signature header) := by
  have clauses (named : NamedClass) (same : named.identifier = context) :
      (header.clauses.foldlM (fun (named : NamedClass) clause =>
        named.resolveClause scope options signature clause) named).Extends
      (∀ clause ∈ header.clauses, ∀ type ∈ clause.types, type.All (scope.Knows context))
      (header.clauses.foldlM (fun (named : NamedClass) clause =>
        named.resolveClause scope' options signature clause) named) :=
    .foldlM (fun clause mem named same => ⟨(identifier_resolveClause named).trans same,
      extends_resolveClause isIn known object (inClauses clause mem) same⟩) same
  unfold resolveRest
  refine ((extends_resolveParameters isIn known inParameters same).bind (.after ?_)).imp
    fun both : _ ∧ (∀ clause ∈ header.clauses, ∀ type ∈ clause.types,
      type.All (scope.Knows context)) => ⟨both.1, both.2⟩
  exact (clauses _ ((identifier_resolveParameters named).trans same)).andThen rfl

/-- Where every name in a header refers to something, further declarations do
not change what it says. -/
theorem extends_resolveHeader {rest : List Token} (same : named.identifier = context) :
    (named.resolveHeader scope options signature rest).Extends True
      (named.resolveHeader scope' options signature rest) := by
  intro familiar
  rw [resolveHeader_eq, same] at familiar
  obtain ⟨inParameters, inClauses⟩ := HeaderRest.applies_read (scope.takesArguments context)
    (!named.bare.kind.isEnum) rest
  obtain ⟨all, kept⟩ :=
    extends_resolveRest isIn known object inParameters inClauses same familiar
  have reread := HeaderRest.read_eq (all.imp fun _ knows => knows.takesArguments_eq isIn known)
  rw [resolveHeader_eq, resolveHeader_eq, same, reread, kept]
  exact ⟨trivial, rfl⟩

end Extends

end NamedClass

/-! ## Members -/

namespace Scope

variable {scope scope' : Scope} {options : Options} {context signature : String}
  (isIn : scope.IsIn scope') (known : (scope context).isSome)

include isIn known

theorem extends_compileAttribute? : (scope.compileAttribute? options context signature).Extends True
    (scope'.compileAttribute? options context signature) := by
  refine .after ?_
  generalize (Traced.tokens signature).value = tokens
  intro familiar
  have type : (scope.resolve options context signature _).Extends _ _ := Scope.extends_resolve isIn
    known (AttributeExpr.applies_read (scope.takesArguments context) tokens)
  have reread : AttributeExpr.read (scope'.takesArguments context) tokens
      = AttributeExpr.read (scope.takesArguments context) tokens :=
    AttributeExpr.read_eq ((type familiar.append.1).1.imp fun _ knows =>
      knows.takesArguments_eq isIn known)
  dsimp only
  rw [reread]
  exact (type.andThen rfl).imp (fun _ => trivial) familiar

theorem extends_compileReturnType? {type? : Option TypeExpr}
    (applies : ∀ type ∈ type?, type.Applies (scope.takesArguments context)) :
    (scope.compileReturnType? options context signature type?).Extends
      (∀ type ∈ type?, type.All (scope.Knows context))
      (scope'.compileReturnType? options context signature type?) := by
  cases type? with
  | none => exact (Traced.Extends.refl _).imp fun _ => by simp
  | some type =>
    rw [compileReturnType?, compileReturnType?]
    refine ((Scope.extends_resolve isIn known (applies type rfl)).andThen rfl).imp fun all => ?_
    simpa using all

theorem extends_compileFormals {position : Nat} {exprs : List FormalExpr}
    (applies : ∀ expr ∈ exprs, expr.type.Applies (scope.takesArguments context)) :
    (scope.compileFormals options context signature position exprs).Extends
      (∀ expr ∈ exprs, expr.type.All (scope.Knows context))
      (scope'.compileFormals options context signature position exprs) := by
  induction exprs generalizing position with
  | nil => exact (Traced.Extends.refl _).imp fun _ => by simp
  | cons expr exprs ih =>
    rw [compileFormals, compileFormals]
    refine (Traced.Extends.bind (q := ∀ expr ∈ exprs, expr.type.All (scope.Knows context))
      (Scope.extends_resolve isIn known (applies expr (by simp))) (.after ?_)).imp (by simp)
    exact (ih fun expr mem => applies expr (by simp [mem])).andThen rfl

theorem extends_compileMethod {body : Body} :
    (scope.compileMethod options context signature body).Extends True
      (scope'.compileMethod options context signature body) := by
  refine .after ?_
  generalize (Traced.tokens signature).value = tokens
  intro familiar
  obtain ⟨applies, inFormals⟩ := MethodExpr.applies_read (scope.takesArguments context) tokens
  have returned : (scope.compileReturnType? options context signature _).Extends _ _ :=
    extends_compileReturnType? isIn known applies
  have formals : (scope.compileFormals options context signature 1 _).Extends _ _ :=
    extends_compileFormals isIn known inFormals
  have all : (MethodExpr.read (scope.takesArguments context) tokens).All (scope.Knows context) :=
    ⟨(returned familiar.append.1).1,
      (formals familiar.append.2.append.2.append.2.append.1).1⟩
  have reread : MethodExpr.read (scope'.takesArguments context) tokens
      = MethodExpr.read (scope.takesArguments context) tokens :=
    MethodExpr.read_eq (all.imp fun _ knows => knows.takesArguments_eq isIn known)
  dsimp only
  rw [reread]
  refine (returned.bind (q := True) (.after ?_)).imp (fun _ => trivial) familiar
  refine .after ?_
  exact (formals.andThen rfl).imp fun _ => trivial

end Scope

namespace NamedClass

variable {scope scope' : Scope} {options : Options} {context signature : String}
  {named : NamedClass}

theorem identifier_addAttribute (named : NamedClass) :
    (named.addAttribute scope options signature).value.identifier = named.identifier := by
  rw [addAttribute, Traced.value_bind]
  split
  · rfl
  · split <;> rfl

theorem identifier_addMethod {body : Body} (named : NamedClass) :
    (named.addMethod scope options signature body).value.identifier = named.identifier := by
  rw [addMethod, Traced.value_bind]
  split <;> rfl

/-- Where every name in the members of a class-like refers to something,
further declarations do not change the members. -/
theorem extends_compileMembers (isIn : scope.IsIn scope') (known : (scope context).isSome)
    {declaration : Declaration} (same : named.identifier = context) :
    (named.compileMembers scope options declaration).Extends True
      (named.compileMembers scope' options declaration) := by
  have field (named : NamedClass) (same : named.identifier = context) (signature : String) :
      (named.addAttribute scope options signature).Extends True
        (named.addAttribute scope' options signature) := by
    rw [addAttribute, addAttribute, same]
    exact (Scope.extends_compileAttribute? isIn known).andThen rfl
  have attributes : (declaration.attributes.foldlM (fun (named : NamedClass) signature =>
        named.addAttribute scope options signature) named).Extends
      (∀ signature ∈ declaration.attributes, True)
      (declaration.attributes.foldlM (fun (named : NamedClass) signature =>
        named.addAttribute scope' options signature) named) :=
    .foldlM (fun signature _ named same => ⟨(identifier_addAttribute named).trans same,
      field named same signature⟩) same
  have method (named : NamedClass) (same : named.identifier = context) (method : String × Body) :
      (named.addMethod scope options method.1 method.2).Extends True
        (named.addMethod scope' options method.1 method.2) := by
    rw [addMethod, addMethod, same]
    exact (Scope.extends_compileMethod isIn known).andThen rfl
  have methods (named : NamedClass) (same : named.identifier = context) :
      (declaration.methods.foldlM (fun (named : NamedClass) (method : String × Body) =>
        named.addMethod scope options method.1 method.2) named).Extends
      (∀ method ∈ declaration.methods, True)
      (declaration.methods.foldlM (fun (named : NamedClass) (method : String × Body) =>
        named.addMethod scope' options method.1 method.2) named) :=
    .foldlM (fun supplied _ named same => ⟨(identifier_addMethod named).trans same,
      method named same supplied⟩) same
  refine (attributes.bind ((methods _ ?_).andThen rfl)).imp fun _ => trivial
  exact (identifier_foldlM (fun named _ => identifier_addAttribute named) named).trans same

end NamedClass

end ClassModel
