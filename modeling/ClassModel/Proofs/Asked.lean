import ClassModel.Proofs.Composition
import ClassModel.Proofs.Wider

/-!
# ClassModel.Proofs.Asked

Which instantiations are asked for. A class-like asks for what the types that
are written in its header and its members ask for
(`NamedClass.asks_resolveHeader`, `NamedClass.asks_compileMembers`), and those
mention its own generic parameters only (`Scope.asks_resolve`). Filling in an
instantiation asks for no other generic parameters than the instantiation
mentions (`Scope.over_of_mem_requests`).
-/

namespace ClassModel

namespace TypeTree

/-- Every generic parameter in the type, told by owner and name, is such a
one. -/
def Over (p : String → String → Prop) (tree : TypeTree) : Prop :=
  ∀ entry ∈ tree.parameters, p entry.1 entry.2

/-- Every generic parameter in the type belongs to such a class-like. -/
def Within (p : String → Prop) (tree : TypeTree) : Prop := ∀ owner ∈ tree.owners, p owner

end TypeTree

/-- Only such instantiations are asked for. -/
def Traced.Asks {α : Type} (p : TypeTree → Prop) (traced : Traced α) : Prop :=
  ∀ tree ∈ requests traced.events, p tree

namespace TypeTree

variable {p : String → String → Prop}

theorem within_iff_over {p : String → Prop} {tree : TypeTree} :
    tree.Within p ↔ tree.Over fun owner _ => p owner := by
  rw [Within, owners_eq_map, List.forall_mem_map, Over]

theorem over_array {tree : TypeTree} {n : Nat} : (tree.array n).Over p ↔ tree.Over p := by
  rw [Over, Over, parameters_array]

theorem over_applied {name : String} {trees : List TypeTree} {n : Nat} :
    (applied name trees n).Over p ↔ ∀ tree ∈ trees, tree.Over p := by
  simp only [Over, parameters, List.forall_mem_flatMap]

theorem over_declared (name : String) (n : Nat) : (declared name n).Over p := by
  simp [Over, parameters]

theorem over_object : object.Over p := over_declared _ _

end TypeTree

namespace Traced.Asks

variable {α β σ ι : Type} {p : TypeTree → Prop}

theorem quiet {traced : Traced α} (none : requests traced.events = []) : traced.Asks p := by
  intro tree mem
  rw [none] at mem
  cases mem

theorem pure (value : α) : (pure value : Traced α).Asks p := quiet rfl

theorem reportOf (bare : Diagnostic) (mentioned : List TypeTree) :
    (Traced.reportOf bare mentioned).Asks p := quiet rfl

theorem report (diagnostic : Diagnostic) : (Traced.report diagnostic).Asks p := quiet rfl

theorem bind {traced : Traced α} {next : α → Traced β} (first : traced.Asks p)
    (rest : (next traced.value).Asks p) : (traced >>= next).Asks p := by
  intro tree mem
  rw [events_bind, requests_append, List.mem_append] at mem
  exact mem.elim (first tree) (rest tree)

theorem foldlM {step : σ → ι → Traced σ} {invariant : σ → Prop} {values : List ι}
    (asks : ∀ value ∈ values, ∀ state, invariant state →
      invariant (step state value).value ∧ (step state value).Asks p)
    {state : σ} (start : invariant state) : (values.foldlM step state).Asks p := by
  induction values generalizing state with
  | nil => exact pure _
  | cons value values ih =>
    obtain ⟨keeps, first⟩ := asks value (by simp) state start
    rw [List.foldlM_cons]
    exact first.bind (ih (fun value mem => asks value (by simp [mem])) keeps)

theorem mapM {step : α → Traced β} {values : List α}
    (asks : ∀ value ∈ values, (step value).Asks p) : (values.mapM step).Asks p := by
  intro tree mem
  rw [events_mapM, requests_flatMap, List.mem_flatMap] at mem
  obtain ⟨value, mem, asked⟩ := mem
  exact asks value mem tree asked

theorem reportUnmet (signature : String) (unmet? : Option Unmet) :
    (Traced.reportUnmet signature unmet?).Asks p := by
  cases unmet? with
  | none => exact pure _
  | some unmet => exact report _

theorem nameOf? (signature : String) (name : Except Unmet String) :
    (Traced.nameOf? signature name).Asks p := by
  cases name with
  | ok name => exact pure _
  | error unmet => exact (report _).bind (pure _)

theorem tokens (signature : String) : (Traced.tokens signature).Asks p := by
  have reported (errors : List LexicalError) :
      (errors.forM fun error => Traced.report (.lexical signature error)).Asks p := by
    induction errors with
    | nil => exact pure _
    | cons error errors ih => exact (report _).bind ih
  exact (reported _).bind (pure _)

end Traced.Asks

/-! ## Types -/

namespace Scope

variable {scope : Scope} {options : Options} {context signature : String}

/-- A generic class-like with arguments gives way to the class-like itself, or
is asked for with the arguments, where the root class is in place of missing
ones. -/
theorem instantiate_cases (scope : Scope) (options : Options) (base : String)
    (arguments : List TypeTree) (signature : String) :
    ((scope.instantiate options base arguments signature).value = .declared base 0
        ∧ requests (scope.instantiate options base arguments signature).events = [])
      ∨ ∃ fitted : List TypeTree, (∀ tree ∈ fitted, tree ∈ arguments ∨ tree = .object)
        ∧ (scope.instantiate options base arguments signature).value = .applied base fitted 0
        ∧ requests (scope.instantiate options base arguments signature).events
          = [.applied base fitted 0] := by
  have fitted (expected : Nat) :
      requests (fitArguments options base expected arguments signature).events = []
        ∧ ∀ tree ∈ (fitArguments options base expected arguments signature).value,
          tree ∈ arguments ∨ tree = .object := by
    unfold fitArguments
    split
    · exact ⟨rfl, fun _ => .inl⟩
    · refine ⟨rfl, fun tree mem => ?_⟩
      exact (List.mem_append.1 (List.mem_of_mem_take mem)).imp_right List.eq_of_mem_replicate
  obtain ⟨quiet, fitted⟩ := fitted (scope.parametersOf base).length
  unfold instantiate
  rw [Traced.value_bind, Traced.events_bind, requests_append, quiet, List.nil_append]
  generalize (fitArguments options base (scope.parametersOf base).length arguments signature).value
    = trees at *
  dsimp only
  split
  · exact .inl ⟨rfl, rfl⟩
  · split
    · exact .inl ⟨rfl, rfl⟩
    · exact .inr ⟨trees, fitted, rfl, rfl⟩

/-- Applying a generic class-like asks for no more generic parameters than the
arguments mention. -/
theorem over_instantiate {p : String → String → Prop} (scope : Scope) (options : Options)
    (base : String) {arguments : List TypeTree} (holds : ∀ argument ∈ arguments, argument.Over p)
    (signature : String) :
    (scope.instantiate options base arguments signature).value.Over p
      ∧ (scope.instantiate options base arguments signature).Asks (TypeTree.Over p) := by
  unfold Traced.Asks
  obtain ⟨value, asked⟩ | ⟨fitted, inside, value, asked⟩ :=
    scope.instantiate_cases options base arguments signature
  · rw [value, asked]
    exact ⟨TypeTree.over_declared _ _, by simp⟩
  · have applied : (TypeTree.applied base fitted 0).Over p := by
      refine TypeTree.over_applied.2 fun tree mem => ?_
      rcases inside tree mem with mem | rfl
      · exact holds tree mem
      · exact TypeTree.over_object
    rw [value, asked]
    exact ⟨applied, by simpa using applied⟩

/-- Resolving a type asks for the generic parameters of the context only. -/
theorem over_resolve (expr : TypeExpr) :
    (scope.resolve options context signature expr).value.Over (fun owner _ => owner = context)
      ∧ (scope.resolve options context signature expr).Asks
        (TypeTree.Over fun owner _ => owner = context) := by
  induction expr with
  | missing found dimension =>
    rw [resolve]
    exact ⟨by simp [TypeTree.Over, TypeTree.void, TypeTree.array, TypeTree.parameters],
      (Traced.Asks.report _).bind (.pure _)⟩
  | name name dimension =>
    rw [resolve, Traced.value_bind, Traced.value_pure, TypeTree.over_array]
    have both : (scope.resolveName context signature name).value.Over
          (fun owner _ => owner = context)
        ∧ (scope.resolveName context signature name).Asks
          (TypeTree.Over fun owner _ => owner = context) := by
      unfold resolveName
      split
      · exact ⟨by simp [TypeTree.Over, TypeTree.parameters], .pure _⟩
      · split
        · exact ⟨by simp [TypeTree.Over, TypeTree.parameters], .pure _⟩
        · split
          · exact ⟨TypeTree.over_declared _ _, .pure _⟩
          · exact ⟨TypeTree.over_object, (Traced.Asks.report _).bind (.pure _)⟩
    exact ⟨both.1, both.2.bind (.pure _)⟩
  | application name arguments unclosed? dimension ih =>
    rw [resolve, resolveAll_eq_mapM]
    simp only [Traced.value_bind, Traced.value_pure, TypeTree.over_array]
    have inside : ∀ argument ∈ (arguments.mapM (scope.resolve options context signature)).value,
        argument.Over fun owner _ => owner = context := by
      rw [Traced.value_mapM, List.forall_mem_map]
      exact fun expr mem => (ih expr mem).1
    obtain ⟨value, asks⟩ := scope.over_instantiate options name inside signature
    exact ⟨value, (Traced.Asks.mapM fun expr mem => (ih expr mem).2).bind
      ((Traced.Asks.reportUnmet _ _).bind (asks.bind (.pure _)))⟩

theorem asks_resolve (expr : TypeExpr) :
    (scope.resolve options context signature expr).Asks (TypeTree.Within (· = context)) :=
  fun tree mem => TypeTree.within_iff_over.2 ((over_resolve expr).2 tree mem)

end Scope

/-! ## Headers and members -/

namespace NamedClass

variable {scope : Scope} {options : Options} {context signature : String} {named : NamedClass}
  {p : TypeTree → Prop}

theorem asks_resolveBound {position : Nat} {change : NamedParameter → TypeTree → NamedParameter}
    {type : TypeExpr} (same : named.identifier = context)
    (asks : (scope.resolve options context signature type).Asks p) :
    (named.resolveBound scope options signature position change type).Asks p := by
  rw [resolveBound, same]
  refine asks.bind (.bind ?_ ?_)
  · unfold checkedBound?
    split
    · exact .pure _
    · exact (Traced.Asks.report _).bind (.pure _)
  · split <;> exact .pure _

theorem asks_resolveBoundExpr {position : Nat} {bound : BoundExpr}
    (same : named.identifier = context)
    (asks : ∀ type ∈ bound.types, (scope.resolve options context signature type).Asks p) :
    (named.resolveBoundExpr scope options signature position bound).Asks p := by
  cases bound with
  | upper types =>
    exact .foldlM (fun type mem named same => ⟨(identifier_resolveBound named).trans same,
      asks_resolveBound same (asks type mem)⟩) same
  | lower type => exact asks_resolveBound same (asks type (by simp [BoundExpr.types]))

theorem asks_resolveParameters {position : Nat} {parameters : List ParameterExpr}
    (same : named.identifier = context)
    (asks : ∀ type ∈ parameters.flatMap (·.bounds.flatMap BoundExpr.types),
      (scope.resolve options context signature type).Asks p) :
    (named.resolveParameters scope options signature position parameters).Asks p := by
  induction parameters generalizing position named with
  | nil => exact .pure _
  | cons expr parameters ih =>
    rw [List.flatMap_cons] at asks
    rw [resolveParameters]
    refine Traced.Asks.bind (.foldlM (fun bound mem named same =>
      ⟨(identifier_resolveBoundExpr named).trans same, asks_resolveBoundExpr same
        fun type mem' =>
          asks type (List.mem_append_left _ (List.mem_flatMap.2 ⟨bound, mem, mem'⟩))⟩)
      same) (ih ?_ fun type mem => asks type (List.mem_append_right _ mem))
    exact (identifier_foldlM (fun named _ => identifier_resolveBoundExpr named) named).trans same

theorem asks_addSupertype {clause : ClauseKind} {tree : TypeTree} :
    (named.addSupertype scope signature clause tree).Asks p := by
  unfold addSupertype
  split
  · exact (Traced.Asks.report _).bind (.pure _)
  · dsimp only
    split
    · exact (Traced.Asks.reportOf _ _).bind (.pure _)
    · split
      · exact (Traced.Asks.reportOf _ _).bind (.pure _)
      · exact .pure _
      · exact .pure _

theorem asks_resolveClause {clause : ClauseExpr} (same : named.identifier = context)
    (asks : ∀ type ∈ clause.types, (scope.resolve options context signature type).Asks p) :
    (named.resolveClause scope options signature clause).Asks p := by
  have types (isRejected : Bool) : (clause.types.foldlM (fun (named : NamedClass) type =>
        named.resolveSupertype scope options signature clause.kind isRejected type)
          named).Asks p := by
    refine .foldlM (fun type mem named same => ⟨(identifier_resolveSupertype named).trans same, ?_⟩)
      same
    rw [resolveSupertype, same]
    refine (asks type mem).bind ?_
    split
    · exact .pure _
    · exact asks_addSupertype
  unfold resolveClause
  dsimp only
  split
  · exact (Traced.Asks.report _).bind (types _)
  · exact types _

/-- A header asks for what its types ask for. -/
theorem asks_resolveHeader {rest : List Token} (same : named.identifier = context)
    (asks : ∀ type ∈ (HeaderRest.read (scope.takesArguments context) (!named.bare.kind.isEnum)
      rest).types, (scope.resolve options context signature type).Asks p) :
    (named.resolveHeader scope options signature rest).Asks p := by
  rw [resolveHeader_eq, same]
  generalize HeaderRest.read _ _ rest = header at asks ⊢
  rw [HeaderRest.types] at asks
  have parameters : (named.resolveParameters scope options signature 0
      header.parameterList.parameters).Asks p :=
    asks_resolveParameters same fun type mem => asks type (List.mem_append_left _ mem)
  have clauses {named : NamedClass} (same : named.identifier = context) :
      (header.clauses.foldlM (fun (named : NamedClass) clause =>
        named.resolveClause scope options signature clause) named).Asks p := by
    refine .foldlM (fun clause mem named same => ⟨(identifier_resolveClause named).trans same,
      asks_resolveClause same fun type mem' => asks type ?_⟩) same
    exact List.mem_append_right _ (List.mem_flatMap.2 ⟨clause, mem, mem'⟩)
  exact parameters.bind ((Traced.Asks.reportUnmet _ _).bind
    ((clauses ((identifier_resolveParameters named).trans same)).bind
      ((Traced.Asks.reportUnmet _ _).bind (.pure _))))

theorem asks_addAttribute (same : named.identifier = context)
    (asks : (scope.resolve options context signature (AttributeExpr.read
      (scope.takesArguments context) (tokenize signature).significant).type).Asks p) :
    (named.addAttribute scope options signature).Asks p := by
  rw [addAttribute, same, Scope.compileAttribute?]
  refine .bind ((Traced.Asks.tokens _).bind (.bind asks ((Traced.Asks.nameOf? _ _).bind ?_))) ?_
  · split
    · exact .pure _
    · exact (Traced.Asks.reportUnmet _ _).bind (.pure _)
  · split
    · exact .pure _
    · split
      · exact (Traced.Asks.reportOf _ _).bind (.pure _)
      · exact .pure _

theorem asks_compileFormals (position : Nat) {exprs : List FormalExpr}
    (asks : ∀ expr ∈ exprs, (scope.resolve options context signature expr.type).Asks p) :
    (scope.compileFormals options context signature position exprs).Asks p := by
  induction exprs generalizing position with
  | nil => exact .pure _
  | cons expr exprs ih =>
    rw [Scope.compileFormals]
    exact (asks expr (by simp)).bind ((Traced.Asks.nameOf? _ _).bind
      ((ih _ fun expr mem => asks expr (by simp [mem])).bind (.pure _)))

theorem asks_placeEllipsis {formals : List NamedFormal} :
    (Scope.placeEllipsis signature formals).Asks p := by
  induction formals with
  | nil => exact .pure _
  | cons formal formals ih =>
    cases formals with
    | nil => exact .pure _
    | cons next formals =>
      rw [Scope.placeEllipsis.eq_3 _ _ _ (by simp)]
      dsimp only
      split
      · exact (Traced.Asks.report _).bind (ih.bind (.pure _))
      · exact ih.bind (.pure _)

theorem asks_compileReturnType? {type? : Option TypeExpr}
    (asks : ∀ type ∈ type?, (scope.resolve options context signature type).Asks p) :
    (scope.compileReturnType? options context signature type?).Asks p := by
  cases type? with
  | none => exact .pure _
  | some type => exact (asks type rfl).bind (.pure _)

theorem asks_addMethod {body : Body} (same : named.identifier = context)
    (asks : ∀ type ∈ (MethodExpr.read (scope.takesArguments context)
      (tokenize signature).significant).types,
        (scope.resolve options context signature type).Asks p) :
    (named.addMethod scope options signature body).Asks p := by
  rw [addMethod, same, Scope.compileMethod]
  rw [MethodExpr.types] at asks
  have returnType? := asks_compileReturnType? fun type mem =>
    asks type (List.mem_append_left _ (Option.mem_toList.2 mem))
  have formals := asks_compileFormals 1 fun expr mem =>
    asks _ (List.mem_append_right _ (List.mem_map_of_mem mem))
  refine .bind ((Traced.Asks.tokens _).bind (.bind returnType? ((Traced.Asks.nameOf? _ _).bind
    ((Traced.Asks.reportUnmet _ _).bind (.bind formals ((Traced.Asks.reportUnmet _ _).bind
      ((Traced.Asks.reportUnmet _ _).bind (asks_placeEllipsis.bind (.pure _))))))))) ?_
  split
  · exact (Traced.Asks.reportOf _ _).bind (.pure _)
  · exact .pure _

/-- The members ask for what their types ask for. -/
theorem asks_compileMembers {declaration : Declaration} (same : named.identifier = context)
    (attributes : ∀ signature ∈ declaration.attributes,
      (scope.resolve options context signature (AttributeExpr.read (scope.takesArguments context)
        (tokenize signature).significant).type).Asks p)
    (methods : ∀ method ∈ declaration.methods, ∀ type ∈ (MethodExpr.read
      (scope.takesArguments context) (tokenize method.1).significant).types,
        (scope.resolve options context method.1 type).Asks p) :
    (named.compileMembers scope options declaration).Asks p := by
  refine Traced.Asks.bind (.foldlM (fun signature mem named same =>
    ⟨(identifier_addAttribute named).trans same, asks_addAttribute same (attributes signature mem)⟩)
      same) (.bind (.foldlM (fun method mem named same => ⟨(identifier_addMethod named).trans same,
        asks_addMethod same (methods method mem)⟩) ?_) (.pure _))
  exact (identifier_foldlM (fun named _ => identifier_addAttribute named) named).trans same

end NamedClass

/-! ## Instantiations -/

section Substitute

variable {scope : Scope} {options : Options} {base : String} {arguments : List (String × TypeTree)}
  {p : String → String → Prop}

/-- What holds of the substituted leaves of a type, and is kept by applying
generic class-likes, holds of what substituting answers with and asks for. -/
theorem TypeTree.substitute_keeps (before : TypeTree → Prop) {after : TypeTree → Prop}
    (inner : ∀ name trees n, before (.applied name trees n) → ∀ tree ∈ trees, before tree)
    (primitive : ∀ type n, before (.primitive type n) → after (.primitive type n))
    (declared : ∀ name n, before (.declared name n) → after (.declared name n))
    (parameter : ∀ owner name n, before (.parameter owner name n) →
      after (((arguments.lookup name).getD (.parameter owner name 0)).array n))
    (applied : ∀ name trees n (substituted : List TypeTree) signature,
      before (.applied name trees n) → substituted.length = trees.length →
        (∀ tree ∈ substituted, after tree) →
          after ((scope.instantiate options name substituted signature).value.array n)
            ∧ (scope.instantiate options name substituted signature).Asks after)
    {tree : TypeTree} (holds : before tree) :
    after (tree.substitute scope options arguments).value
      ∧ (tree.substitute scope options arguments).Asks after := by
  induction tree with
  | primitive type n =>
    rw [substitute]
    exact ⟨primitive type n holds, .pure _⟩
  | declared name n =>
    rw [substitute]
    exact ⟨declared name n holds, .pure _⟩
  | parameter owner name n =>
    rw [substitute]
    exact ⟨parameter owner name n holds, .pure _⟩
  | applied name trees n ih =>
    have all (tree : TypeTree) (mem : tree ∈ trees) :=
      ih tree mem (inner name trees n holds tree mem)
    have substituted : ∀ tree ∈ (trees.mapM (TypeTree.substitute scope options arguments)).value,
        after tree := by
      rw [Traced.value_mapM, List.forall_mem_map]
      exact fun tree mem => (all tree mem).1
    rw [substitute_applied, substituteAll_eq_mapM]
    obtain ⟨value, asks⟩ := applied name trees n _ (TypeTree.applied name trees 0).signature holds
      (by rw [Traced.value_mapM, List.length_map]) substituted
    exact ⟨value, .bind (.bind (.mapM fun tree mem => (all tree mem).2) asks) (.pure _)⟩

theorem TypeTree.WellFormed.inner {name : String} {trees : List TypeTree} {n : Nat}
    (wf : (applied name trees n).WellFormed scope options base) :
    ∀ tree ∈ trees, tree.WellFormed scope options base := by
  rw [WellFormed] at wf
  exact wf.2.2.2.2

/-- A generic parameter in a well-formed type is one of the base. -/
theorem TypeTree.WellFormed.mem_parametersOf {owner name : String} {n : Nat}
    (wf : (parameter owner name n).WellFormed scope options base) :
    name ∈ scope.parametersOf base := by
  rw [WellFormed] at wf
  obtain ⟨rfl, shape, known, mem⟩ := wf
  rwa [Scope.parametersOf, known, Option.map_some, Option.getD_some]

/-- Substituting asks for no more generic parameters than the arguments
mention. -/
theorem TypeTree.over_substitute {tree : TypeTree} (wf : tree.WellFormed scope options base)
    (holds : ∀ name ∈ scope.parametersOf base, ∃ argument,
      arguments.lookup name = some argument ∧ argument.Over p) :
    (tree.substitute scope options arguments).value.Over p
      ∧ (tree.substitute scope options arguments).Asks (TypeTree.Over p) := by
  refine substitute_keeps (WellFormed scope options base) (fun _ _ _ => WellFormed.inner)
    (fun type n _ => ?_) (fun name n _ => over_declared name n) (fun owner name n wf => ?_)
    (fun name trees n substituted signature _ _ holds => ?_) wf
  · simp [Over, parameters]
  · obtain ⟨argument, looked, held⟩ := holds name wf.mem_parametersOf
    rw [looked]
    exact over_array.2 held
  · rw [over_array]
    exact scope.over_instantiate options _ holds _

/-- Applying a generic class-like to well-formed arguments, one for each generic
parameter, asks for a well-formed type. -/
theorem Scope.wellFormed_instantiate {name context signature : String} {trees : List TypeTree}
    (fits : ∃ shape, scope name = some shape ∧ shape.parameters.length = trees.length)
    (notPrimitive : Primitive.ofText? name = none) (nonempty : trees ≠ [])
    (wf : ∀ tree ∈ trees, tree.WellFormed scope options context) :
    (scope.instantiate options name trees signature).value.WellFormed scope options context
      ∧ (scope.instantiate options name trees signature).Asks
        (·.WellFormed scope options context) := by
  rw [instantiate_of_fits fits nonempty]
  split
  · obtain ⟨shape, known, _⟩ := fits
    rw [Traced.value_bind, Traced.value_pure, TypeTree.WellFormed]
    exact ⟨⟨by rw [known, Option.isSome_some], notPrimitive⟩,
      (Traced.Asks.report _).bind (.pure _)⟩
  · next deep =>
    have applied : (TypeTree.applied name trees 0).WellFormed scope options context := by
      rw [TypeTree.WellFormed]
      exact ⟨fits, notPrimitive, nonempty, Nat.le_of_not_lt deep, wf⟩
    rw [Traced.value_bind, Traced.value_pure]
    refine ⟨applied, .bind (fun tree mem => ?_) (.pure _)⟩
    obtain rfl := List.mem_singleton.1 mem
    exact applied

/-- Substituting asks for well-formed types if the arguments are well formed. -/
theorem TypeTree.wellFormed_substitute {context : String} {tree : TypeTree}
    (wf : tree.WellFormed scope options base)
    (inside : ∀ name ∈ scope.parametersOf base, ∃ argument,
      arguments.lookup name = some argument ∧ argument.WellFormed scope options context) :
    (tree.substitute scope options arguments).value.WellFormed scope options context
      ∧ (tree.substitute scope options arguments).Asks (·.WellFormed scope options context) := by
  refine substitute_keeps (WellFormed scope options base) (fun _ _ _ => WellFormed.inner)
    (fun type n _ => ?_) (fun name n wf => ?_) (fun owner name n wf => ?_)
    (fun name trees n substituted signature wf same all => ?_) wf
  · rw [WellFormed]
    trivial
  · rwa [WellFormed] at *
  · obtain ⟨argument, looked, wf⟩ := inside name wf.mem_parametersOf
    rw [looked]
    exact wellFormed_array.2 wf
  · rw [WellFormed] at wf
    obtain ⟨⟨shape, known, fits⟩, notPrimitive, nonempty, _⟩ := wf
    rw [wellFormed_array]
    refine Scope.wellFormed_instantiate ⟨shape, known, fits.trans same.symm⟩ notPrimitive ?_ all
    rw [← List.length_pos_iff, same]
    exact List.length_pos_of_ne_nil nonempty

/-- An instantiation has an argument for each generic parameter of its base. -/
theorem Scope.exists_argument {name parameter context : String} {trees : List TypeTree} {n : Nat}
    (wf : (TypeTree.applied name trees n).WellFormed scope options context) {q : TypeTree → Prop}
    (all : ∀ tree ∈ trees, q tree) (mem : parameter ∈ scope.parametersOf name) :
    ∃ argument, ((scope.parametersOf name).zip trees).lookup parameter = some argument
      ∧ q argument := by
  rw [TypeTree.WellFormed] at wf
  obtain ⟨⟨shape, known, fits⟩, _⟩ := wf
  rw [parametersOf, known, Option.map_some, Option.getD_some] at mem ⊢
  obtain ⟨argument, mem, looked⟩ := exists_lookup_zip fits mem
  exact ⟨argument, looked, all argument mem⟩

/-- The base of an instantiation is known. -/
theorem TypeTree.WellFormed.isSome {name context : String} {trees : List TypeTree} {n : Nat}
    (wf : (applied name trees n).WellFormed scope options context) : (scope name).isSome := by
  rw [WellFormed] at wf
  obtain ⟨⟨shape, known, _⟩, _⟩ := wf
  rw [known, Option.isSome_some]

/-- What filling in an instantiation asks for is asked for by the substitution in
a type of its base. -/
theorem Scope.exists_of_mem_requests {content : String → NamedClass} {tree inner : TypeTree}
    (mem : inner ∈ requests (scope.eventsOf options content tree)) :
    ∃ name trees n, tree = .applied name trees n ∧ ∃ type ∈ (content name).types,
      inner ∈ requests (type.substitute scope options
        ((scope.parametersOf name).zip trees)).events := by
  cases tree with
  | applied name trees n =>
    rw [eventsOf, instanceOf, NamedClass.events_substitute, requests_flatMap,
      List.mem_flatMap] at mem
    exact ⟨name, trees, n, rfl, mem⟩
  | primitive primitive n | declared name n | parameter owner name n => cases mem

/-- Filling in an instantiation asks for no more generic parameters than the
instantiation mentions. -/
theorem Scope.over_of_mem_requests {content : String → NamedClass} {context : String}
    {tree inner : TypeTree} (wf : tree.WellFormed scope options context)
    (types : ∀ name, (scope name).isSome →
      ∀ type ∈ (content name).types, type.WellFormed scope options name)
    (holds : tree.Over p) (mem : inner ∈ requests (scope.eventsOf options content tree)) :
    inner.Over p := by
  obtain ⟨name, trees, n, rfl, type, mem, asked⟩ := exists_of_mem_requests mem
  exact (TypeTree.over_substitute (types name wf.isSome type mem)
    fun _ => exists_argument wf (TypeTree.over_applied.1 holds)).2 inner asked

end Substitute

end ClassModel
