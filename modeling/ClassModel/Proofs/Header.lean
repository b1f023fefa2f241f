import ClassModel.Compile.Hierarchy
import ClassModel.Proofs.Revision

/-!
# ClassModel.Proofs.Header

Resolving the rest of a header follows the resolution by names
(`Refines.resolveHeader`): first the bounds of the generic parameters, then the
supertypes.
-/

namespace ClassModel.Refines

variable {scope : Scope} {options : Options} {context : String} {state : BuildState}
  {intake : Intake} {named : NamedClass}

/-! ## Bounds -/

/-- A type that is no class-like where one is needed is told as it is written. -/
theorem expectedClassLike {signature : String} {type : Ty} {tree : TypeTree}
    (coherent : state.library.Coherent scope options)
    (denotes : state.library.Denotes type tree) :
    Refines scope options Library.nobody state
      (Build.report (.expectedClassLike signature (state.library.signatureOf type)))
      (Traced.report (.expectedClassLike signature tree.signature)) fun _ _ _ => True := by
  rw [coherent.signatureOf_eq denotes]
  exact report coherent ⟨rfl, rfl⟩

theorem checkedBound? {signature : String} {type : Ty} {tree : TypeTree}
    (coherent : state.library.Coherent scope options)
    (means : state.library.Means scope options context type tree) :
    Refines scope options Library.nobody state (Build.checkedBound? signature type)
      (NamedClass.checkedBound? signature tree) fun after =>
        Option.Rel (after.Means scope options context) := by
  have rejected : Refines scope options Library.nobody state
      (Build.report (.expectedClassLike signature (state.library.signatureOf type)) >>= fun _ =>
        pure none)
      (Traced.report (.expectedClassLike signature tree.signature) >>= fun _ => pure none)
      fun after => Option.Rel (after.Means scope options context) :=
    (expectedClassLike coherent means.denotes).bind fun _ _ coherent _ _ => .pure coherent .none
  have accepted : Refines scope options Library.nobody state (pure (some type)) (pure (some tree))
      fun after => Option.Rel (after.Means scope options context) := .pure coherent (.some means)
  have denotes := means.denotes
  cases tree with
  | primitive primitive n =>
    obtain rfl := denotes
    cases n <;> exact rejected
  | declared name n =>
    obtain ⟨id, classLike, rfl, _⟩ := denotes
    cases n with
    | zero => exact accepted
    | succ n => exact rejected
  | applied name arguments n =>
    obtain ⟨id, classLike, specialization, rfl, _⟩ := denotes
    cases n with
    | zero => exact accepted
    | succ n => exact rejected
  | parameter owner name n =>
    obtain ⟨parameter, id, classLike, rfl, _⟩ := denotes
    cases n with
    | zero => exact accepted
    | succ n => exact rejected

/-- The bounds of the generic parameter at the position change by the one type
as by the other. -/
def Corresponds (change : GenericParameter → Ty → GenericParameter)
    (change' : NamedParameter → TypeTree → NamedParameter) : Prop :=
  (∀ found type, (change found type).identifier = found.identifier
      ∧ (change found type).owner = found.owner)
    ∧ ∀ (library : Library) (scope : Scope) (options : Options)
      (context : String) found named type tree,
      library.SpellsParameter scope options context found named →
        library.Means scope options context type tree →
          library.SpellsParameter scope options context (change found type) (change' named tree)

theorem corresponds_withUpperBound :
    Corresponds GenericParameter.withUpperBound NamedParameter.withUpperBound := by
  refine ⟨fun _ _ => ⟨rfl, rfl⟩, fun library scope options context found named type tree spells
    means => ⟨spells.identifier, ?_, spells.lowerBound?⟩⟩
  exact List.rel_append spells.upperBounds (.cons means .nil)

theorem corresponds_withLowerBound :
    Corresponds GenericParameter.withLowerBound NamedParameter.withLowerBound :=
  ⟨fun _ _ => ⟨rfl, rfl⟩, fun _ _ _ _ _ _ _ _ spells means =>
    ⟨spells.identifier, spells.upperBounds, .some means⟩⟩

theorem resolveBound {parameters : List ParameterId} {position : Nat}
    {change : GenericParameter → Ty → GenericParameter}
    {change' : NamedParameter → TypeTree → NamedParameter} {type : TypeExpr}
    (corresponds : Corresponds change change')
    (applies : type.Applies (scope.takesArguments context))
    (coherent : state.library.Coherent scope options)
    (declaredAs : state.library.DeclaredAs scope options context intake.id named)
    (parameters_eq : state.library.parametersOf intake.id = parameters) :
    Refines scope options (· = intake.id) state
      (Build.resolveBound options intake parameters[position]? change type)
      (named.resolveBound scope options intake.signature position change' type) fun after _ named =>
        after.DeclaredAs scope options context intake.id named
          ∧ after.parametersOf intake.id = parameters := by
  unfold Build.resolveBound NamedClass.resolveBound
  rw [declaredAs.identifier_eq]
  refine (resolve applies coherent declaredAs.isNamed).bind_quiet
    fun type after coherent grows means => ?_
  refine (checkedBound? coherent means).bind_quiet fun bound? after' coherent grows' bound => ?_
  generalize (NamedClass.checkedBound? intake.signature _).value = bound?' at bound ⊢
  have grows := grows.trans grows'
  have parameters_eq := (grows.parametersOf declaredAs.isNamed).trans parameters_eq
  have declaredAs := grows.declaredAs not_false declaredAs
  cases bound with
  | none => exact .pure coherent ⟨declaredAs, parameters_eq⟩
  | @some bound tree means =>
    cases place : parameters[position]? with
    | none =>
      have same : named.parameters.modify position (change' · tree) = named.parameters := by
        obtain ⟨classLike, declared, _, spells⟩ := declaredAs.exists_classLike
        apply List.modify_eq_self
        rw [← spells.parameters.length_eq]
        simpa [← parameters_eq, Library.parametersOf, declared.1] using place
      simp only [same]
      exact .pure coherent ⟨declaredAs, parameters_eq⟩
    | some parameter =>
      apply Refines.library
      rw [← parameters_eq] at place
      have identifier (found : GenericParameter) := (corresponds.1 found bound).1
      have owner (found : GenericParameter) := (corresponds.1 found bound).2
      have revises := Library.revises_modifyParameter_of_position coherent place
        declaredAs.isNamed identifier owner
      exact setLibrary coherent revises
        ⟨declaredAs.modifyParameter coherent place identifier owner
          (fun found named spells => corresponds.2 _ _ _ _ found named bound tree spells means),
          (revises.parametersOf declaredAs.isNamed).trans parameters_eq⟩

/-- What is kept while the header of a class-like is resolved. -/
def Resolving (scope : Scope) (options : Options) (context : String) (id : ClassId)
    (parameters : List ParameterId) (library : Library) (named : NamedClass) : Prop :=
  library.DeclaredAs scope options context id named ∧ library.parametersOf id = parameters

theorem resolveBounds {parameters : List ParameterId} (position : Nat) {bounds : List BoundExpr}
    (applies : ∀ bound ∈ bounds, bound.Applies (scope.takesArguments context))
    (coherent : state.library.Coherent scope options)
    (resolving : Resolving scope options context intake.id parameters state.library named) :
    Refines scope options (· = intake.id) state
      (Build.resolveBounds options intake parameters[position]? bounds)
      (bounds.foldlM (fun named bound =>
        named.resolveBoundExpr scope options intake.signature position bound) named)
      fun after _ named => Resolving scope options context intake.id parameters after named := by
  refine forM_foldlM (fun bound mem state named coherent resolving => ?_) coherent resolving
  have applies := applies bound mem
  cases bound with
  | upper types =>
    refine forM_foldlM (fun type mem state named coherent resolving => ?_) coherent resolving
    exact resolveBound corresponds_withUpperBound (applies type mem) coherent resolving.1
      resolving.2
  | lower type =>
    exact resolveBound corresponds_withLowerBound applies coherent resolving.1 resolving.2

theorem resolveParameters {parameters : List ParameterId} (position : Nat)
    {exprs : List ParameterExpr}
    (applies : ∀ expr ∈ exprs, ∀ bound ∈ expr.bounds,
      bound.Applies (scope.takesArguments context))
    (coherent : state.library.Coherent scope options)
    (resolving : Resolving scope options context intake.id parameters state.library named) :
    Refines scope options (· = intake.id) state
      (Build.resolveParameters options intake (parameters.drop position) exprs)
      (named.resolveParameters scope options intake.signature position exprs)
      fun after _ named => Resolving scope options context intake.id parameters after named := by
  induction exprs generalizing position state named with
  | nil =>
    rw [Build.resolveParameters, NamedClass.resolveParameters]
    exact .pure coherent resolving
  | cons expr exprs ih =>
    have rest (state : BuildState) (named : NamedClass)
        (coherent : state.library.Coherent scope options)
        (resolving : Resolving scope options context intake.id parameters state.library named) :=
      ih (position + 1) (fun expr mem => applies expr (by simp [mem])) coherent resolving
    have bounds := resolveBounds position (applies expr (by simp)) coherent resolving
    rw [NamedClass.resolveParameters]
    cases place : parameters[position]? with
    | none =>
      have ended : parameters.drop position = [] := by simpa using place
      have ended' : parameters.drop (position + 1) = [] := by
        simp only [List.drop_eq_nil_iff] at ended ⊢
        omega
      rw [place] at bounds
      rw [ended, Build.resolveParameters]
      refine bounds.bind fun _ after coherent _ resolving => ?_
      have rest := rest after _ coherent resolving
      rwa [ended'] at rest
    | some parameter =>
      rw [place] at bounds
      rw [List.drop_eq_getElem_cons (List.getElem?_eq_some_iff.1 place).1, Build.resolveParameters,
        (List.getElem?_eq_some_iff.1 place).2]
      exact bounds.bind fun _ after coherent _ resolving => rest after _ coherent resolving

/-! ## Supertypes -/

theorem acceptedBy_withoutSupertypes (kind : Kind) (clause : ClauseKind) :
    Build.acceptedBy kind.withoutSupertypes clause = Build.acceptedBy kind clause := by
  cases kind <;> cases clause <;> rfl

theorem accepts_eq (accepted : SupertypeKind) (kind : Kind) :
    Build.accepts accepted kind = accepted.admits kind.keyword := by
  cases accepted <;> cases kind <;> rfl

/-- Only a class accepts a superclass. -/
theorem isClass_of_acceptedBy {kind : Kind} {clause : ClauseKind}
    (accepted : Build.acceptedBy kind clause = .class) : kind.isClass = true := by
  cases kind <;> cases clause <;> simp_all [Build.acceptedBy, Kind.isClass]

section Supertype

variable {library : Library} {id supertype : ClassId} {classLike : ClassLike} {tree : TypeTree}
  (spells : library.SpellsClass scope options context id classLike named)
  (means : library.Means scope options context (.classLike supertype) tree)

include spells means

/-- A class with another superclass spells its tree. -/
theorem spellsClass_withSuperclass (isClass : classLike.kind.isClass = true) :
    library.SpellsClass scope options context id
      { classLike with kind := classLike.kind.withSuperclass (some supertype) }
      { named with superclass? := some tree } :=
  { spells with
    bare := by
      rw [← spells.bare]
      simp [ClassLike.bare]
    superclass? := by
      rw [Kind.superclass?_withSuperclass isClass]
      exact .some means
    interfaces := by
      rw [Kind.interfaces_withSuperclass]
      exact spells.interfaces }

/-- A class-like with a further interface spells its tree after the others. -/
theorem spellsClass_withInterface : library.SpellsClass scope options context id
    { classLike with
      kind := classLike.kind.withInterfaces (classLike.kind.interfaces ++ [supertype]) }
    { named with interfaces := named.interfaces ++ [tree] } :=
  { spells with
    bare := by
      rw [← spells.bare]
      simp [ClassLike.bare]
    superclass? := by
      rw [Kind.superclass?_withInterfaces]
      exact spells.superclass?
    interfaces := by
      rw [Kind.interfaces_withInterfaces]
      exact List.rel_append spells.interfaces (.cons means .nil) }

end Supertype

theorem addSupertype {clause : ClauseKind} {type : Ty} {tree : TypeTree}
    (coherent : state.library.Coherent scope options)
    (declaredAs : state.library.DeclaredAs scope options context intake.id named)
    (means : state.library.Means scope options context type tree) :
    Refines scope options (· = intake.id) state (Build.addSupertype intake clause type)
      (named.addSupertype scope intake.signature clause tree) fun after _ named =>
        after.DeclaredAs scope options context intake.id named := by
  obtain ⟨classLike, declared, same, spells⟩ := declaredAs.exists_classLike
  unfold Build.addSupertype NamedClass.addSupertype
  apply Refines.library
  rcases className?_cases coherent means.denotes with ⟨notClassLike, unnamed⟩
    | ⟨supertype, name, rfl, className, isNamed⟩
  · rw [notClassLike, unnamed]
    exact (expectedClassLike coherent means.denotes).answer fun _ _ grows =>
      grows.declaredAs not_false declaredAs
  obtain ⟨base, declared', _, shape⟩ := coherent.exists_shape isNamed
  rw [className, Option.bind_some, shape]
  apply Refines.classLike declared.1
  apply Refines.classLike declared'.1
  have accepted_eq : Build.acceptedBy named.bare.kind clause
      = Build.acceptedBy classLike.kind clause := by
    rw [← spells.kind, acceptedBy_withoutSupertypes]
  have superclass_eq : state.library.superclass? intake.id = classLike.kind.superclass? := by
    simp [Library.superclass?, Library.hierarchyKind?, declared.1, declared.2]
  simp only [accepted_eq, accepts_eq, superclass_eq, Library.shapeOf]
  generalize accepted : Build.acceptedBy classLike.kind clause = accepts
  by_cases admitted : accepts.admits base.kind.keyword = true
  · simp only [admitted, Bool.not_true, Bool.false_eq_true, if_false]
    have existing := spells.superclass?
    cases accepts with
    | nothing => cases admitted
    | «class» =>
      generalize superclass? : classLike.kind.superclass? = existing? at existing ⊢
      generalize superclass?' : named.superclass? = existing?' at existing ⊢
      cases existing with
      | some existing =>
        refine answer (reportOf coherent rfl ?_) fun _ _ grows =>
          grows.declaredAs not_false declaredAs
        exact .cons existing.denotes (.cons means.denotes .nil)
      | none =>
        exact modifyClassLike coherent declaredAs.isNamed declared.1
          ⟨rfl, rfl, rfl, by simp, rfl, rfl, rfl⟩ rfl
          (spellsClass_withSuperclass spells means (isClass_of_acceptedBy accepted))
    | interface =>
      exact modifyClassLike coherent declaredAs.isNamed declared.1
        ⟨rfl, rfl, rfl, by simp, rfl, rfl, rfl⟩ rfl (spellsClass_withInterface spells means)
  · simp only [Bool.not_eq_true] at admitted
    simp only [admitted, Bool.not_false, if_true]
    refine answer (reportOf coherent rfl ?_) fun _ _ grows => grows.declaredAs not_false declaredAs
    exact .cons means.denotes .nil

theorem resolveSupertype (clause : ClauseKind) (isRejected : Bool) {type : TypeExpr}
    (applies : type.Applies (scope.takesArguments context))
    (coherent : state.library.Coherent scope options)
    (declaredAs : state.library.DeclaredAs scope options context intake.id named) :
    Refines scope options (· = intake.id) state
      (Build.resolveSupertype options intake clause isRejected type)
      (named.resolveSupertype scope options intake.signature clause isRejected type)
      fun after _ named => after.DeclaredAs scope options context intake.id named := by
  unfold Build.resolveSupertype NamedClass.resolveSupertype
  rw [declaredAs.identifier_eq]
  refine (resolve applies coherent declaredAs.isNamed).bind_quiet
    fun type after coherent grows means => ?_
  have declaredAs := grows.declaredAs not_false declaredAs
  cases isRejected with
  | true => exact .pure coherent declaredAs
  | false => exact addSupertype coherent declaredAs means

theorem resolveClause {clause : ClauseExpr}
    (applies : ∀ type ∈ clause.types, type.Applies (scope.takesArguments context))
    (coherent : state.library.Coherent scope options)
    (declaredAs : state.library.DeclaredAs scope options context intake.id named) :
    Refines scope options (· = intake.id) state (Build.resolveClause options intake clause)
      (named.resolveClause scope options intake.signature clause) fun after _ named =>
        after.DeclaredAs scope options context intake.id named := by
  obtain ⟨classLike, declared, _, spells⟩ := declaredAs.exists_classLike
  unfold Build.resolveClause NamedClass.resolveClause
  apply Refines.classLike declared.1
  have isInterface : named.bare.kind.isInterface = classLike.kind.isInterface := by
    rw [← spells.kind, Kind.isInterface_withoutSupertypes]
  have types (isRejected : Bool) (after : BuildState)
    (coherent : after.library.Coherent scope options)
      (declaredAs : after.library.DeclaredAs scope options context intake.id named) :=
    forM_foldlM (fun type mem _ _ coherent declaredAs =>
      resolveSupertype clause.kind isRejected (applies type mem) coherent declaredAs)
        coherent declaredAs
  simp only [isInterface]
  cases classLike.kind.isInterface && clause.kind == .implements with
  | false => exact types false state coherent declaredAs
  | true =>
    exact (report coherent ⟨rfl, rfl⟩).bind_quiet fun _ after coherent grows _ =>
      types true after coherent (grows.declaredAs not_false declaredAs)

theorem defaultSuperclass (coherent : state.library.Coherent scope options)
    (declaredAs : state.library.DeclaredAs scope options context intake.id named) :
    Refines scope options (· = intake.id) state (Build.defaultSuperclass intake.id)
      (pure named.withDefaultSuperclass) fun after _ named =>
        after.DeclaredAs scope options context intake.id named := by
  obtain ⟨classLike, declared, _, spells⟩ := declaredAs.exists_classLike
  unfold Build.defaultSuperclass NamedClass.withDefaultSuperclass
  apply Refines.library
  apply Refines.classLike declared.1
  have isClass : named.bare.kind.isClass = classLike.kind.isClass := by
    rw [← spells.kind, Kind.isClass_withoutSupertypes]
  rw [isClass, ← Related.isNone_eq spells.superclass?, declaredAs.identifier_eq, bne,
    ← coherent.isObject_eq declaredAs.isNamed]
  by_cases lacks : (classLike.kind.isClass && classLike.kind.superclass?.isNone
      && !state.library.isObject intake.id) = true
  · obtain ⟨object, found, _⟩ := coherent.exists_objectId?
    have means : state.library.Means scope options context _ _ := coherent.means_object
    rw [Library.objectType, found] at means
    simp only [lacks, if_true]
    simp only [Bool.and_eq_true] at lacks
    refine modifyClassLike coherent declaredAs.isNamed declared.1 ?_ rfl ?_
    · exact ⟨rfl, rfl, rfl, by simp, rfl, rfl, rfl⟩
    · exact { spells with
        bare := by
          rw [← spells.bare]
          simp [ClassLike.bare]
        superclass? := by
          rw [Kind.superclass?_withSuperclass lacks.1.1, found]
          exact .some means
        interfaces := by
          rw [Kind.interfaces_withSuperclass]
          exact spells.interfaces }
  · rw [if_neg lacks, if_neg lacks]
    exact .pure coherent declaredAs

/-- Resolving the rest of a header follows the resolution by names. -/
theorem resolveHeader (coherent : state.library.Coherent scope options)
    (declaredAs : state.library.DeclaredAs scope options context intake.id named) :
    Refines scope options (· = intake.id) state (Build.resolveHeader options intake)
      (named.resolveHeader scope options intake.signature intake.rest) fun after _ named =>
        after.DeclaredAs scope options context intake.id named := by
  obtain ⟨classLike, declared, _, spells⟩ := declaredAs.exists_classLike
  unfold Build.resolveHeader NamedClass.resolveHeader
  apply Refines.classLike declared.1
  apply Refines.library
  have isEnum : named.bare.kind.isEnum = classLike.kind.isEnum := by
    rw [← spells.kind, Kind.isEnum_withoutSupertypes]
  simp only [isEnum, declaredAs.identifier_eq, coherent.takesArguments_eq declaredAs.isNamed]
  have applies := HeaderRest.applies_read (scope.takesArguments context)
    (!classLike.kind.isEnum) intake.rest
  generalize HeaderRest.read (scope.takesArguments context) _ intake.rest = header at applies ⊢
  have parameters_eq : state.library.parametersOf intake.id = classLike.genericParameters := by
    simp [Library.parametersOf, declared.1]
  refine (resolveParameters 0 applies.1 coherent ⟨declaredAs, parameters_eq⟩).bind
    fun _ after coherent _ resolving => ?_
  refine (reportUnmet _ coherent).bind_quiet fun _ after coherent grows _ => ?_
  refine (forM_foldlM (fun clause mem _ _ coherent declaredAs =>
    resolveClause (applies.2 clause mem) coherent declaredAs) coherent
      (grows.declaredAs not_false resolving.1)).bind fun _ after coherent _ declaredAs => ?_
  refine (reportUnmet _ coherent).bind_quiet fun _ after coherent grows _ => ?_
  exact defaultSuperclass coherent (grows.declaredAs not_false declaredAs)

end ClassModel.Refines
