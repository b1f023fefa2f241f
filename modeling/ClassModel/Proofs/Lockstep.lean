import ClassModel.Proofs.Variation

/-!
# ClassModel.Proofs.Lockstep

Two compilations side by side. Every step of a compilation follows the same step
on other texts, strict or not, as long as the texts read the same and the lower
limit on the nesting of instantiations is not exceeded
(`Build.follows_compileAll`).

With the same texts a step comes to the same end (`Build.Follows.run_start`), and it
`Build.Mirrors` itself: nothing that was reported has an influence on what is
compiled.
-/

namespace ClassModel

namespace Build

variable {γ : Type} {variation : Variation} {options options' : Options}

/-- The second options are as strict as the variation says. The limits are the
same; or the second one is higher, and the second compilation is free where the
first one is exceeded. -/
structure Relaxes (variation : Variation) (options options' : Options) : Prop where
  strict : options'.strict = variation.strict options.strict
  depth : options.maxSpecializationDepth = options'.maxSpecializationDepth
    ∨ options.maxSpecializationDepth ≤ options'.maxSpecializationDepth
      ∧ ∀ signature, variation.frees (.depthExceeded signature options.maxSpecializationDepth)

variable (relaxes : Relaxes variation options options')

/-! ## Names -/

theorem follows_createParameter (owner : ClassId) (identifier : String) :
    Follows variation id (createParameter owner identifier) (createParameter owner identifier) := by
  refine follows_library fun library _ => follows_setLibrary ?_
  refine (library.insertParameter { identifier, owner }).2.modify_withPrototypes owner fun _ => ?_
  rfl

include relaxes in
theorem follows_register (declaration : Declaration) :
    Follows variation (Option.map variation.intake) (register options declaration)
      (register options' (variation.declaration declaration)) := by
  have same := variation.quote_respell declaration.signature
  refine (follows_tokens _).bind fun tokens => ?_
  cases HeaderStart.read tokens with
  | error error =>
    cases error with
    | noKeyword found =>
      refine .bind (follows_report ?_) fun _ => .pure _
      rw [Variation.retell, Diagnostic.mapStrict, Diagnostic.requote, Diagnostic.requote,
        relaxes.strict]
      exact congrArg (Diagnostic.unrecognizedKeyword · found _) same
    | noIdentifier unmet =>
      exact .bind (follows_report (congrArg (Diagnostic.unexpectedToken · unmet) same))
        fun _ => .pure _
  | ok start =>
    refine follows_library fun library _ => ?_
    have registered : (variation.library library).register
          (start.classLike (variation.declaration declaration))
        = (library.register (start.classLike declaration)).map (Prod.map id variation.library) :=
      library.register_withPrototypes (start.classLike declaration)
    rw [registered]
    cases library.register (start.classLike declaration) with
    | error existing =>
      exact .bind (follows_report (congrArg (Diagnostic.redefinedClassLike existing) same))
        fun _ => .pure _
    | ok created =>
      obtain ⟨id, library⟩ := created
      refine (follows_setLibrary rfl).bind fun _ => ?_
      dsimp only
      split
      · exact .pure _
      · exact .bind (.forM fun _ => follows_createParameter _ _) fun _ => .pure _

include relaxes in
theorem follows_registerAll (declarations : List Declaration) :
    Follows variation (List.map variation.intake) (registerAll options declarations)
      (registerAll options' (declarations.map variation.declaration)) := by
  induction declarations with
  | nil => exact .pure _
  | cons declaration declarations ih =>
    refine (follows_register relaxes declaration).bind_change fun intake? => ?_
    refine ih.bind_change fun intakes => ?_
    have joined : (intake?.map variation.intake).toList ++ intakes.map variation.intake
        = (intake?.toList ++ intakes).map variation.intake := by
      cases intake? <;> simp
    rw [joined]
    exact .pure _

/-! ## Types -/

section Types

variable (context : ClassId) {signature signature' : String}
  (same : variation.quote signature' = variation.quote signature)

include same

theorem follows_reportUnmet (unmet? : Option Unmet) :
    Follows variation id (reportUnmet signature unmet?) (reportUnmet signature' unmet?) := by
  cases unmet? with
  | none => exact .pure _
  | some unmet => exact follows_report (congrArg (Diagnostic.unexpectedToken · unmet) same)

theorem follows_nameOf? (name : Except Unmet String) :
    Follows variation id (nameOf? signature name) (nameOf? signature' name) := by
  cases name with
  | ok name => exact .pure _
  | error unmet =>
    exact .bind (follows_report (congrArg (Diagnostic.unexpectedToken · unmet) same))
      fun _ => .pure _

theorem follows_resolveName (name : String) :
    Follows variation id (resolveName context signature name)
      (resolveName context signature' name) := by
  refine follows_library fun library outline => ?_
  rw [outline.parameterNamed?, outline.byIdentifier?, outline.objectType]
  split
  · exact .pure _
  · exact .pure _
  · exact .pure _
  · exact .bind (follows_report (congrArg (Diagnostic.unknownType · name) same)) fun _ => .pure _

include relaxes in
theorem follows_fitArguments (base : ClassId) (expected : Nat) (arguments : List Ty) :
    Follows variation id (fitArguments options base expected arguments signature)
      (fitArguments options' base expected arguments signature') := by
  unfold fitArguments
  split
  · exact .pure _
  · refine .bind (follows_report ?_) fun _ => ?_
    · rw [Variation.retell, Diagnostic.mapStrict, Diagnostic.requote, Diagnostic.requote, same,
        relaxes.strict]
    refine follows_library fun library outline => ?_
    rw [outline.objectType]
    exact .pure _

omit same in
theorem follows_createInstantiation (baseClass : ClassLike) (specialization : Specialization)
    (context? : Option ClassId) (key : String) :
    Follows variation id (createInstantiation baseClass specialization context? key)
      (createInstantiation (variation.classLike baseClass) specialization context? key) := by
  have enqueue (created : ClassId) : Follows variation id
      (do modify fun state => { state with pending := state.pending ++ [created] }; pure created)
      (do modify fun state => { state with pending := state.pending ++ [created] }; pure created) :=
    .of_silent (fun _ => rfl) fun _ _ varies =>
      ⟨rfl, ⟨varies.library, congrArg (· ++ [created]) varies.pending⟩, rfl⟩
  refine follows_library fun before outline => ?_
  have inserted : (variation.library before).insert
        ((variation.classLike baseClass).shell specialization)
      = ((before.insert (baseClass.shell specialization)).1,
        variation.library (before.insert (baseClass.shell specialization)).2) :=
    before.insert_withPrototypes (baseClass.shell specialization)
  rw [inserted, outline.anyOpen]
  refine (follows_setLibrary rfl).bind fun _ => ?_
  cases context? with
  | none => exact (follows_setLibrary rfl).bind fun _ => enqueue _
  | some context =>
    dsimp only
    split
    · refine .bind (follows_modifyClassLike context fun _ => ?_) fun _ => enqueue _
      rfl
    · exact (follows_setLibrary rfl).bind fun _ => enqueue _

include relaxes

/-- An instantiation is known by its key; the signature that asks for it is
quoted and nothing else. -/
theorem follows_instantiate (base : ClassId) (arguments : List Ty) (context? : Option ClassId) :
    Follows variation id (instantiate options base arguments context? signature)
      (instantiate options' base arguments context? signature') := by
  refine follows_classLike fun baseClass => ?_
  refine (follows_fitArguments relaxes same _ _ _).bind fun arguments => ?_
  split
  · exact .pure _
  refine follows_library fun library outline => ?_
  rw [outline.signatureOf, outline.keyOf, outline.instantiation?, outline.depthOfApplication,
    outline.anyOpen, ClassLike.identifier_withPrototype]
  dsimp only
  split
  · exact .pure _
  by_cases exceeded : options.maxSpecializationDepth < library.depthOfApplication arguments
  · rw [if_pos exceeded]
    rcases relaxes.depth with depth | ⟨_, frees⟩
    · rw [if_pos (depth ▸ exceeded), ← depth]
      exact .bind (follows_report rfl) fun _ => .pure _
    · exact follows_of_frees (frees _) _ _
  · have fits : ¬ options'.maxSpecializationDepth < library.depthOfApplication arguments := by
      rcases relaxes.depth with same | ⟨le, _⟩ <;> omega
    rw [if_neg exceeded, if_neg fits]
    split
    · exact (Follows.throw _).bind fun _ =>
        (follows_createInstantiation _ _ _ _).bind fun _ => .pure _
    · exact (follows_createInstantiation _ _ _ _).bind fun _ => .pure _

end Types

mutual

theorem follows_resolve (relaxes : Relaxes variation options options') (context : ClassId)
    {signature signature' : String}
    (same : variation.quote signature' = variation.quote signature) :
    (type : TypeExpr) → Follows variation id (resolve options context signature type)
      (resolve options' context signature' type)
  | .missing found dimension =>
    .bind (follows_report (congrArg (Diagnostic.expectedType · found) same)) fun _ => .pure _
  | .name name dimension => (follows_resolveName context same name).bind fun _ => .pure _
  | .application name arguments unclosed? dimension => by
    rw [resolve, resolve]
    refine (follows_resolveAll relaxes context same arguments).bind fun _ => ?_
    refine (follows_reportUnmet same _).bind fun _ => follows_library fun library outline => ?_
    rw [outline.byIdentifier?]
    split
    · exact (follows_instantiate relaxes same _ _ _).bind fun _ => .pure _
    · exact (follows_resolveName context same name).bind fun _ => .pure _

theorem follows_resolveAll (relaxes : Relaxes variation options options') (context : ClassId)
    {signature signature' : String}
    (same : variation.quote signature' = variation.quote signature) :
    (types : List TypeExpr) → Follows variation id (resolveAll options context signature types)
      (resolveAll options' context signature' types)
  | [] => .pure _
  | type :: types => (follows_resolve relaxes context same type).bind fun _ =>
    (follows_resolveAll relaxes context same types).bind fun _ => .pure _

end

/-! ## Headers -/

section Headers

variable (intake : Intake)

theorem follows_checkedBound? (bound : Ty) :
    Follows variation id (checkedBound? intake.signature bound)
      (checkedBound? (variation.intake intake).signature bound) := by
  unfold checkedBound?
  split
  · exact .pure _
  · exact .pure _
  · refine follows_library fun library outline => ?_
    rw [outline.signatureOf]
    exact .bind (follows_report (congrArg (Diagnostic.expectedClassLike · _)
      (variation.quote_respell intake.signature))) fun _ => .pure _

theorem follows_addSupertype (clause : ClauseKind) (type : Ty) :
    Follows variation id (addSupertype intake clause type)
      (addSupertype (variation.intake intake) clause type) := by
  have same := variation.quote_respell intake.signature
  refine follows_library fun library outline => ?_
  rw [outline.signatureOf, outline.baseOf, outline.superclass?]
  split
  · exact follows_report (congrArg (Diagnostic.expectedClassLike · _) same)
  refine follows_classLike fun classLike => follows_classLike fun base => ?_
  rw [ClassLike.kind_withPrototype, ClassLike.kind_withPrototype]
  dsimp only [Variation.intake]
  split
  · exact follows_report (congrArg (Diagnostic.invalidSupertype · _ _) same)
  split
  · exact follows_report (congrArg (Diagnostic.multipleSuperclasses · _ _) same)
  · refine follows_modifyClassLike _ fun _ => ?_
    rfl
  · refine follows_modifyClassLike _ fun _ => ?_
    rfl

theorem follows_defaultSuperclass (owner : ClassId) :
    Follows variation id (defaultSuperclass owner) (defaultSuperclass owner) := by
  refine follows_library fun library outline => follows_classLike fun classLike => ?_
  rw [outline.isObject, outline.objectId?, ClassLike.kind_withPrototype]
  dsimp only
  split
  · refine follows_modifyClassLike _ fun _ => ?_
    rfl
  · exact .pure _

include relaxes

theorem follows_resolveBound (parameter? : Option ParameterId)
    (change : GenericParameter → Ty → GenericParameter) (type : TypeExpr) :
    Follows variation id (resolveBound options intake parameter? change type)
      (resolveBound options' (variation.intake intake) parameter? change type) := by
  refine (follows_resolve relaxes _ (variation.quote_respell _) _).bind fun _ => ?_
  refine (follows_checkedBound? intake _).bind fun _ => ?_
  split
  · exact follows_library fun library _ => follows_setLibrary rfl
  · exact .pure _

theorem follows_resolveBounds (parameter? : Option ParameterId) (bounds : List BoundExpr) :
    Follows variation id (resolveBounds options intake parameter? bounds)
      (resolveBounds options' (variation.intake intake) parameter? bounds) := by
  refine .forM fun bound => ?_
  cases bound with
  | upper types => exact .forM fun _ => follows_resolveBound relaxes _ _ _ _
  | lower type => exact follows_resolveBound relaxes _ _ _ _

theorem follows_resolveParameters (ids : List ParameterId) (exprs : List ParameterExpr) :
    Follows variation id (resolveParameters options intake ids exprs)
      (resolveParameters options' (variation.intake intake) ids exprs) := by
  induction exprs generalizing ids with
  | nil =>
    rw [resolveParameters, resolveParameters]
    exact .pure _
  | cons expr exprs ih =>
    cases ids with
    | nil => exact (follows_resolveBounds relaxes _ _ _).bind fun _ => ih []
    | cons parameter ids => exact (follows_resolveBounds relaxes _ _ _).bind fun _ => ih ids

theorem follows_resolveClause (clause : ClauseExpr) :
    Follows variation id (resolveClause options intake clause)
      (resolveClause options' (variation.intake intake) clause) := by
  have same := variation.quote_respell intake.signature
  have types (isRejected : Bool) : Follows variation id
      (clause.types.forM (resolveSupertype options intake clause.kind isRejected))
      (clause.types.forM
        (resolveSupertype options' (variation.intake intake) clause.kind isRejected)) := by
    refine .forM fun type => (follows_resolve relaxes _ same _).bind fun _ => ?_
    split
    · exact .pure _
    · exact follows_addSupertype _ _ _
  refine follows_classLike fun classLike => ?_
  rw [ClassLike.kind_withPrototype]
  dsimp only
  split
  · exact .bind (follows_report (congrArg Diagnostic.implementsOnInterface same)) fun _ => types _
  · exact types _

theorem follows_resolveHeader :
    Follows variation id (resolveHeader options intake)
      (resolveHeader options' (variation.intake intake)) := by
  have same := variation.quote_respell intake.signature
  refine follows_classLike fun classLike => follows_library fun library outline => ?_
  rw [outline.takesArguments]
  refine (follows_resolveParameters relaxes _ _ _).bind fun _ => ?_
  refine (follows_reportUnmet same _).bind fun _ => ?_
  refine .bind (.forM fun _ => follows_resolveClause relaxes _ _) fun _ => ?_
  exact (follows_reportUnmet same _).bind fun _ => follows_defaultSuperclass _

end Headers

theorem follows_breakCycle (owner : ClassId) :
    Follows variation id (breakCycle owner) (breakCycle owner) := by
  refine follows_library fun library outline => ?_
  rw [outline.isAboveItself, outline.objectId?]
  split
  · refine .bind (follows_report rfl) fun _ => follows_modifyClassLike _ fun _ => ?_
    rfl
  · exact .pure _

theorem follows_breakCycles : Follows variation id breakCycles breakCycles :=
  follows_library fun library outline => by
    rw [outline.types]
    exact .forM follows_breakCycle

/-! ## Members -/

section Members

variable (owner : ClassId)

theorem follows_placeEllipsis {signature signature' : String}
    (same : variation.quote signature' = variation.quote signature) (formals : List Formal) :
    Follows variation id (placeEllipsis signature formals) (placeEllipsis signature' formals) := by
  induction formals with
  | nil => exact .pure _
  | cons formal formals ih =>
    cases formals with
    | nil => exact .pure _
    | cons next formals =>
      simp only [placeEllipsis]
      split
      · exact .bind (follows_report (congrArg (Diagnostic.misplacedEllipsis · _) same)) fun _ =>
          ih.bind fun _ => .pure _
      · exact ih.bind fun _ => .pure _

include relaxes

theorem follows_compileAttribute? {signature signature' : String}
    (same : variation.quote signature' = variation.quote signature)
    (errors : (tokenize signature').errors = (tokenize signature).errors)
    (reads : ∀ takes, AttributeExpr.read takes (tokenize signature').significant
      = AttributeExpr.read takes (tokenize signature).significant) :
    Follows variation id (compileAttribute? options owner signature)
      (compileAttribute? options' owner signature') := by
  refine follows_bind_tokens same errors (follows_library fun library outline => ?_)
  rw [outline.takesArguments, reads]
  refine (follows_resolve relaxes _ same _).bind fun _ =>
    (follows_nameOf? same _).bind fun name? => ?_
  cases name? with
  | none => exact .pure _
  | some name => exact (follows_reportUnmet same _).bind fun _ => .pure _

theorem follows_addAttribute (signature : String) :
    Follows variation id (addAttribute options owner signature)
      (addAttribute options' owner (variation.respell signature)) := by
  have reads := variation.isRespelling signature
  refine (follows_compileAttribute? relaxes _ (variation.quote_respell _) reads.errors
    fun _ => by rw [reads.significant]).bind fun found? => ?_
  cases found? with
  | none => exact .pure _
  | some found =>
    refine follows_classLike fun classLike => ?_
    rw [show (variation.classLike classLike).attribute? found.identifier
      = classLike.attribute? found.identifier from rfl]
    split
    · exact follows_report rfl
    · refine follows_modifyClassLike _ fun _ => ?_
      rfl

theorem follows_compileFormals {signature signature' : String}
    (same : variation.quote signature' = variation.quote signature) (position : Nat)
    (exprs : List FormalExpr) :
    Follows variation id (compileFormals options owner signature position exprs)
      (compileFormals options' owner signature' position exprs) := by
  induction exprs generalizing position with
  | nil => exact .pure _
  | cons expr exprs ih =>
    exact (follows_resolve relaxes _ same _).bind fun _ => (follows_nameOf? same _).bind fun _ =>
      (ih _).bind fun _ => .pure _

/-- The type of a result is resolved if there is one. -/
theorem follows_bind_returnType? {owner : ClassId} {signature signature' : String}
    (same : variation.quote signature' = variation.quote signature) {type? : Option TypeExpr}
    {next next' : Option Ty → Build γ}
    (rest : ∀ returnType?, Follows variation id (next returnType?) (next' returnType?)) :
    Follows variation id
      (match type? with
        | some type => do
          let returnType? ← some <$> resolve options owner signature type
          next returnType?
        | none => do
          let returnType? ← pure none
          next returnType?)
      (match type? with
        | some type => do
          let returnType? ← some <$> resolve options' owner signature' type
          next' returnType?
        | none => do
          let returnType? ← pure none
          next' returnType?) := by
  cases type? with
  | none => exact (Follows.pure _).bind rest
  | some type => exact ((follows_resolve relaxes _ same _).map _).bind rest

theorem follows_compileMethod {signature signature' : String}
    (same : variation.quote signature' = variation.quote signature)
    (errors : (tokenize signature').errors = (tokenize signature).errors)
    (reads : ∀ takes, MethodExpr.read takes (tokenize signature').significant
      = MethodExpr.read takes (tokenize signature).significant) (body : Body) :
    Follows variation id (compileMethod options owner signature body)
      (compileMethod options' owner signature' body) := by
  refine follows_bind_tokens same errors (follows_library fun library outline => ?_)
  rw [outline.takesArguments, reads]
  refine follows_bind_returnType? relaxes same fun _ => ?_
  refine (follows_nameOf? same _).bind fun _ => (follows_reportUnmet same _).bind fun _ => ?_
  refine (follows_compileFormals relaxes _ same _ _).bind fun _ => ?_
  refine (follows_reportUnmet same _).bind fun _ => (follows_reportUnmet same _).bind fun _ => ?_
  refine (follows_placeEllipsis same _).bind fun _ => follows_library fun library outline => ?_
  rw [outline.methodSignature]
  exact .pure _

theorem follows_addMethod (signature : String) (body : Body) :
    Follows variation id (addMethod options owner signature body)
      (addMethod options' owner (variation.respell signature) body) := by
  have reads := variation.isRespelling signature
  refine (follows_compileMethod relaxes _ (variation.quote_respell _) reads.errors
    (fun _ => by rw [reads.significant]) body).bind fun method => ?_
  refine follows_classLike fun classLike => ?_
  rw [show (variation.classLike classLike).method? method.signature
    = classLike.method? method.signature from rfl]
  split
  · exact follows_report rfl
  · refine follows_modifyClassLike _ fun _ => ?_
    rfl

theorem follows_compileMembers :
    Follows variation id (compileMembers options owner) (compileMembers options' owner) := by
  refine follows_classLike fun classLike => ?_
  rw [ClassLike.prototype?_withPrototype]
  cases classLike.prototype? with
  | none => exact .pure _
  | some declaration =>
    refine .bind (.forM_map _ (follows_addAttribute relaxes owner)) fun _ => ?_
    refine .bind (.forM_map _ fun method =>
      follows_addMethod relaxes owner method.1 method.2) fun _ => ?_
    refine follows_modifyClassLike _ fun _ => ?_
    rfl

end Members

/-! ## Layouts -/

theorem follows_supplyStaticValue (owner : ClassId) (identifier : String) (value : Value) :
    Follows variation id (supplyStaticValue owner identifier value)
      (supplyStaticValue owner identifier value) := by
  refine follows_classLike fun classLike => ?_
  rw [show (variation.classLike classLike).staticAttribute? identifier
    = classLike.staticAttribute? identifier from rfl]
  split
  · refine follows_modifyClassLike _ fun _ => ?_
    rfl
  · exact follows_report rfl

/-- The static values are kept with the declaration, and no respelling changes
them. -/
theorem follows_supplyStaticValues (owner : ClassId) :
    Follows variation id
      (do match (← classLike owner).prototype? with
        | none => return
        | some declaration =>
          declaration.staticValues.forM fun (identifier, value) =>
            supplyStaticValue owner identifier value)
      (do match (← classLike owner).prototype? with
        | none => return
        | some declaration =>
          declaration.staticValues.forM fun (identifier, value) =>
            supplyStaticValue owner identifier value) := by
  refine follows_classLike fun classLike => ?_
  rw [ClassLike.prototype?_withPrototype]
  cases classLike.prototype? with
  | none => exact .pure _
  | some declaration => exact .forM fun _ => follows_supplyStaticValue _ _ _

theorem follows_layOut (owner : ClassId) : Follows variation id (layOut owner) (layOut owner) := by
  refine follows_library fun library outline => ?_
  have above : (library.declaredSuperclass? owner).bind (variation.library library).classLike?
      = ((library.declaredSuperclass? owner).bind library.classLike?).map variation.classLike := by
    cases library.declaredSuperclass? owner with
    | none => rfl
    | some superclass => exact library.classLike?_withPrototypes superclass
  rw [outline.declaredSuperclass?, above]
  cases (library.declaredSuperclass? owner).bind library.classLike? with
  | none =>
    refine .bind (follows_modifyClassLike _ fun _ => ?_) fun _ => follows_supplyStaticValues owner
    rfl
  | some superclass =>
    refine .bind (follows_modifyClassLike _ fun _ => ?_) fun _ => follows_supplyStaticValues owner
    rfl

theorem follows_layOutAll : Follows variation id layOutAll layOutAll :=
  follows_library fun library outline => by
    rw [outline.layoutOrder]
    exact .forM follows_layOut

/-! ## Instantiations -/

section Instantiations

variable (substitution : Substitution)

include relaxes

theorem follows_substituteArguments {inType inType' : Ty → Build Ty}
    (each : ∀ type, Follows variation id (inType type) (inType' type)) (owner : ClassId)
    (specialization : Specialization) :
    Follows variation id (substituteArguments options inType owner specialization)
      (substituteArguments options' inType' owner specialization) := by
  refine .bind (.mapM each) fun arguments => ?_
  split
  · exact .pure _
  · refine follows_library fun library outline => ?_
    rw [outline.ownerOfFirst?]
    exact follows_instantiate relaxes rfl _ _ _

theorem follows_substituteWithin (depth : Nat) (type : Ty) :
    Follows variation id (substituteWithin options substitution depth type)
      (substituteWithin options' substitution depth type) := by
  induction depth generalizing type with
  | zero =>
    induction type with
    | primitive primitive => exact .pure _
    | parameter id => exact .pure _
    | classLike id => exact follows_classLike fun _ => .pure _
    | arrayOf item n ih => exact ih.bind fun _ => .pure _
  | succ depth ih =>
    induction type with
    | primitive primitive => exact .pure _
    | parameter id => exact .pure _
    | arrayOf item n ih => exact ih.bind fun _ => .pure _
    | classLike id =>
      refine follows_classLike fun classLike => ?_
      rw [ClassLike.specialization?_withPrototype]
      cases classLike.specialization? with
      | none => exact .pure _
      | some specialization => exact follows_substituteArguments relaxes ih _ _

theorem follows_substitute (type : Ty) :
    Follows variation id (substitute options substitution type)
      (substitute options' substitution type) :=
  follows_library fun library outline => by
    rw [outline.depthOf]
    exact follows_substituteWithin relaxes _ _ _

theorem follows_substituteClassLike (owner : ClassId) :
    Follows variation id (substituteClassLike options substitution owner)
      (substituteClassLike options' substitution owner) :=
  (follows_substitute relaxes _ _).bind fun _ => .pure _

theorem follows_substituteKind (kind : Kind) :
    Follows variation id (substituteKind options substitution kind)
      (substituteKind options' substitution kind) := by
  cases kind with
  | «class» superclass? interfaces isAbstract =>
    refine .bind (.optionMapM (follows_substituteClassLike relaxes _) _) fun _ => ?_
    exact .bind (.mapM (follows_substituteClassLike relaxes _)) fun _ => .pure _
  | interface extended =>
    exact .bind (.mapM (follows_substituteClassLike relaxes _)) fun _ => .pure _
  | enum interfaces constants => exact .pure _

theorem follows_substituteMethod (method : Method) :
    Follows variation id (substituteMethod options substitution method)
      (substituteMethod options' substitution method) := by
  refine .bind (.optionMapM (follows_substitute relaxes _) _) fun _ => ?_
  refine .bind (.mapM fun _ => (follows_substitute relaxes _ _).bind fun _ => .pure _) fun _ => ?_
  refine follows_library fun library outline => ?_
  rw [outline.methodSignature]
  exact .pure _

theorem follows_substituteAttribute (found : Attribute) :
    Follows variation id (substituteAttribute options substitution found)
      (substituteAttribute options' substitution found) :=
  (follows_substitute relaxes _ _).bind fun _ => .pure _

omit substitution

theorem follows_materialize (owner : ClassId) :
    Follows variation id (materialize options owner) (materialize options' owner) := by
  refine follows_classLike fun classLike => ?_
  rw [ClassLike.specialization?_withPrototype]
  cases classLike.specialization? with
  | none => exact .pure _
  | some specialization =>
    refine follows_classLike fun base => ?_
    refine (follows_substituteKind relaxes _ _).bind fun _ => ?_
    refine .bind (.mapM (follows_substituteMethod relaxes _)) fun _ => ?_
    refine .bind (.mapM (follows_substituteAttribute relaxes _)) fun _ => ?_
    refine follows_modifyClassLike _ fun _ => ?_
    rfl

theorem follows_materializeAll (budget : Nat) :
    Follows variation id (materializeAll options budget) (materializeAll options' budget) := by
  induction budget with
  | zero =>
    refine follows_get (fun state => ?_) fun _ _ varies => by simp only [varies.pending]
    split
    · exact .pure _
    · exact .throw _
  | succ budget ih =>
    refine follows_get (fun state => ?_) fun _ _ varies => by simp only [varies.pending]
    cases state.pending with
    | nil => exact .pure _
    | cons owner pending =>
      have first : Follows variation id (modify ({ · with pending }) : Build Unit)
          (modify ({ · with pending })) :=
        .of_silent (fun _ => rfl) fun _ _ varies => ⟨rfl, ⟨varies.library, rfl⟩, rfl⟩
      exact first.bind fun _ => (follows_materialize relaxes owner).bind fun _ => ih

end Instantiations

/-! ## All stages -/

/-- The stages that follow the registration. -/
def compileIntakes (options : Options) (budget : Nat) (intakes : List Intake) : Build Unit := do
  intakes.forM (resolveHeader options)
  breakCycles
  intakes.forM fun intake => compileMembers options intake.id
  layOutAll
  materializeAll options budget
  setLibrary (← library).flagVirtual

theorem compileAll_eq_registerAll (options : Options) (budget : Nat)
    (declarations : List Declaration) : compileAll options budget declarations
      = registerAll options declarations >>= compileIntakes options budget := rfl

section Stages

include relaxes

theorem follows_compileIntakes (budget : Nat) (intakes : List Intake) :
    Follows variation id (compileIntakes options budget intakes)
      (compileIntakes options' budget (intakes.map variation.intake)) := by
  refine .bind (.forM_map _ (follows_resolveHeader relaxes)) fun _ => ?_
  refine follows_breakCycles.bind fun _ => ?_
  refine .bind (.forM_map _ fun intake => follows_compileMembers relaxes intake.id) fun _ => ?_
  refine follows_layOutAll.bind fun _ => (follows_materializeAll relaxes budget).bind fun _ => ?_
  exact follows_library fun library _ => follows_setLibrary library.flagVirtual_withPrototypes

theorem follows_compileAll (budget : Nat) (declarations : List Declaration) :
    Follows variation id (compileAll options budget declarations)
      (compileAll options' budget (declarations.map variation.declaration)) := by
  rw [compileAll_eq_registerAll, compileAll_eq_registerAll]
  exact (follows_registerAll relaxes _).bind_change (follows_compileIntakes relaxes budget)

end Stages

end Build

/-! ## The same texts -/

/-- The log after an earlier one. -/
def Log.after {α : Type} (earlier : List α) (log : Log α) : Log α :=
  { entries := earlier.toArray ++ log.entries }

/-- The state, had there been reports before. -/
def BuildState.after (earlier : List Diagnostic) (state : BuildState) : BuildState :=
  { state with log := state.log.after earlier }

@[simp] theorem BuildState.toList_after (earlier : List Diagnostic) (state : BuildState) :
    (state.after earlier).log.toList = earlier ++ state.log.toList := by
  simp [after, Log.after, Log.toList]

/-- The state is known by its library, what is pending there and what has been
reported. -/
theorem BuildState.eq_after {earlier : List Diagnostic} {state state' : BuildState}
    (library : state'.library = state.library) (pending : state'.pending = state.pending)
    (log : state'.log.toList = earlier ++ state.log.toList) : state' = state.after earlier := by
  obtain ⟨_, _, ⟨entries⟩⟩ := state
  obtain ⟨_, _, ⟨entries'⟩⟩ := state'
  have same : entries' = earlier.toArray ++ entries :=
    Array.ext' (by rw [Array.toList_append]; exact log)
  cases library
  cases pending
  cases same
  rfl

theorem Diagnostic.requote_id : Diagnostic.requote id = id := by
  funext diagnostic
  cases diagnostic <;> rfl

namespace Variation

/-- No text is another one, and a diagnostic of the kind frees the second
compilation. -/
def same (strict : Bool → Bool) (kind : Diagnostic → Prop) : Variation where
  respell := id
  quote := id
  strict := strict
  frees := kind
  isRespelling _ := ⟨rfl, rfl⟩
  quote_respell _ := rfl

variable {strict : Bool → Bool} {kind : Diagnostic → Prop}

theorem declaration_same : (same strict kind).declaration = id := by
  funext declaration
  simp [same, Declaration.respell]

theorem intake_same : (same strict kind).intake = id := rfl

theorem retell_same : (same strict kind).retell = Diagnostic.mapStrict strict :=
  funext fun diagnostic => congrFun Diagnostic.requote_id (diagnostic.mapStrict strict)

theorem library_same : (same strict kind).library = id := by
  funext library
  rw [Variation.library, declaration_same, Option.map_id]
  exact library.withPrototypes_id

end Variation

namespace Build

variable {α : Type} {strict : Bool → Bool} {kind : Diagnostic → Prop}

/-- A step that follows another one on the same texts comes to the same end, and tells
the same in its own mode. -/
theorem Follows.on_same {step step' : Build α} (follows : Follows (.same strict kind) id step step')
    (state : BuildState) : ∃ added, (step.run.run state).2.log.toList = state.log.toList ++ added
      ∧ ((∀ diagnostic ∈ added, ¬ kind diagnostic) → ∀ state' : BuildState,
        state'.library = state.library → state'.pending = state.pending →
          (step'.run.run state').1 = (step.run.run state).1
            ∧ (step'.run.run state').2.library = (step.run.run state).2.library
            ∧ (step'.run.run state').2.pending = (step.run.run state).2.pending
            ∧ (step'.run.run state').2.log.toList
              = state'.log.toList ++ added.map (Diagnostic.mapStrict strict)) := by
  obtain ⟨added, log, along⟩ := follows state
  refine ⟨added, log, fun silent state' library pending => ?_⟩
  obtain ⟨answer, ⟨library', pending'⟩, added', log', quoted⟩ :=
    along silent state' ⟨by rw [Variation.library_same]; exact library, pending⟩
  rw [Except.map_id] at answer
  rw [Variation.library_same] at library'
  rw [Variation.retell_same] at quoted
  simp only [Variation.same, Diagnostic.requote_id, List.map_id_fun, id] at quoted
  exact ⟨answer, library', pending', by rw [log', quoted]⟩

/-- From the start, it tells the same from the first diagnostic to the last one. -/
theorem Follows.run_start {step step' : Build α}
    (follows : Follows (.same strict kind) id step step')
    (silent : ∀ diagnostic ∈ (step.run.run {}).2.log.toList, ¬ kind diagnostic) :
    (step'.run.run {}).1 = (step.run.run {}).1
      ∧ (step'.run.run {}).2.library = (step.run.run {}).2.library
      ∧ (step'.run.run {}).2.log.toList
        = (step.run.run {}).2.log.toList.map (Diagnostic.mapStrict strict) := by
  obtain ⟨added, log, along⟩ := follows.on_same {}
  replace log : (step.run.run {}).2.log.toList = added := log
  obtain ⟨answer, library, _, log'⟩ :=
    along (fun diagnostic mem => silent diagnostic (log ▸ mem)) {} rfl rfl
  exact ⟨answer, library, by rw [log]; exact log'⟩

/-- The first step only adds to what has been reported. Unless it reports a
diagnostic of the kind, the second step does the same, whatever else has been
reported before. -/
def Mirrors (kind : Diagnostic → Prop) (step step' : Build α) : Prop :=
  ∀ state result after, step.run.run state = (result, after) →
    ∃ added, after.log.toList = state.log.toList ++ added
      ∧ ((∀ diagnostic ∈ added, ¬ kind diagnostic) → ∀ earlier,
        step'.run.run (state.after earlier) = (result, after.after earlier))

/-- With the same texts, a step that follows another one mirrors it. -/
theorem Follows.mirrors {step step' : Build α} (follows : Follows (.same id kind) id step step') :
    Mirrors kind step step' := by
  intro state result last run
  obtain ⟨added, log, along⟩ := follows.on_same state
  rw [run] at log along
  refine ⟨added, log, fun silent earlier => ?_⟩
  obtain ⟨answer, library, pending, log'⟩ := along silent (state.after earlier) rfl rfl
  refine Prod.ext answer (BuildState.eq_after library pending ?_)
  rw [log', Diagnostic.mapStrict_id, List.map_id, BuildState.toList_after, log, List.append_assoc]

section Relaxed

variable {options options' : Options} (relaxes : Relaxes (.same strict kind) options options')

include relaxes

/-- Registering the same declarations. -/
theorem follows_registerAll_same (declarations : List Declaration) :
    Follows (.same strict kind) id (registerAll options declarations)
      (registerAll options' declarations) := by
  have follows : Follows (.same strict kind) _ (registerAll options declarations)
      (registerAll options' _) := follows_registerAll relaxes declarations
  rwa [Variation.intake_same, Variation.declaration_same, List.map_id_fun, List.map_id] at follows

/-- Compiling the same registered declarations. -/
theorem follows_compileIntakes_same (budget : Nat) (intakes : List Intake) :
    Follows (.same strict kind) id (compileIntakes options budget intakes)
      (compileIntakes options' budget intakes) := by
  have follows : Follows (.same strict kind) id (compileIntakes options budget intakes)
      (compileIntakes options' budget _) := follows_compileIntakes relaxes budget intakes
  rwa [Variation.intake_same, List.map_id] at follows

/-- Compiling the same declarations. -/
theorem follows_compileAll_same (budget : Nat) (declarations : List Declaration) :
    Follows (.same strict kind) id (compileAll options budget declarations)
      (compileAll options' budget declarations) := by
  rw [compileAll_eq_registerAll, compileAll_eq_registerAll]
  exact (follows_registerAll_same relaxes _).bind (follows_compileIntakes_same relaxes budget)

end Relaxed

end Build

end ClassModel
