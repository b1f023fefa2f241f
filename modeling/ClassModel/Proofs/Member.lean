import ClassModel.Compile.Member
import ClassModel.Proofs.Revision

/-!
# ClassModel.Proofs.Member

Compiling the members of a class-like follows the compilation by names
(`Refines.compileMembers`).
-/

namespace ClassModel

variable {scope : Scope} {options : Options} {context signature : String}

/-- The signature of a method is told by the trees of its types. -/
theorem Library.Coherent.methodSignature_eq {library : Library}
    (coherent : library.Coherent scope options) (identifier : String) {formals : List Formal}
    {formals' : List NamedFormal}
    (spells : List.Forall₂ (library.SpellsFormal scope options context) formals formals') :
    library.methodSignature identifier formals = NamedMethod.signature identifier formals' := by
  rw [methodSignature, NamedMethod.signature, Related.map_eq spells]
  intro formal' _ formal spells
  rw [coherent.signatureOf_eq spells.type.denotes, spells.isVariadic]

namespace Refines

variable {state : BuildState} {id : ClassId} {named : NamedClass}

/-- A declared class-like is told of by its tree. -/
theorem denotes_tree {library : Library}
    (declaredAs : library.DeclaredAs scope options context id named) :
    library.Denotes (.classLike id) named.tree := by
  obtain ⟨classLike, declared, same, _⟩ := declaredAs.exists_classLike
  rw [NamedClass.tree, declaredAs.identifier_eq]
  exact ⟨id, classLike, rfl, declared, same⟩

/-! ## Attributes -/

theorem compileAttribute? (coherent : state.library.Coherent scope options)
    (isNamed : state.library.IsNamed id context) :
    Refines scope options Library.nobody state (Build.compileAttribute? options id signature)
      (scope.compileAttribute? options context signature) fun after =>
        Option.Rel (after.SpellsAttribute scope options context) := by
  unfold Build.compileAttribute? Scope.compileAttribute?
  refine (tokens signature coherent).bind fun tokens after coherent grows same => ?_
  obtain ⟨rfl, same⟩ := same
  rw [same]
  apply Refines.library
  have isNamed := grows.isNamed_iff.2 isNamed
  rw [coherent.takesArguments_eq isNamed]
  have applies := AttributeExpr.applies_read (scope.takesArguments context)
    (tokenize signature).significant
  generalize AttributeExpr.read (scope.takesArguments context) _ = expr at applies ⊢
  refine (resolve applies coherent isNamed).bind fun type after coherent grows means => ?_
  refine (nameOf? expr.identifier coherent).bind fun name? after coherent grows' same => ?_
  rw [← same]
  cases name? with
  | none => exact .pure coherent .none
  | some identifier =>
    refine (reportUnmet _ coherent).bind fun _ after coherent grows'' _ => ?_
    exact .pure coherent (.some ⟨rfl, grows''.means (grows'.means means)⟩)

theorem addAttribute (coherent : state.library.Coherent scope options)
    (declaredAs : state.library.DeclaredAs scope options context id named) :
    Refines scope options (· = id) state (Build.addAttribute options id signature)
      (named.addAttribute scope options signature) fun after _ named =>
        after.DeclaredAs scope options context id named := by
  unfold Build.addAttribute NamedClass.addAttribute
  rw [declaredAs.identifier_eq]
  refine (compileAttribute? coherent declaredAs.isNamed).bind_quiet
    fun found? after coherent grows found => ?_
  generalize (scope.compileAttribute? options context signature).value = found?' at found ⊢
  have declaredAs := grows.declaredAs not_false declaredAs
  cases found with
  | none => exact .pure coherent declaredAs
  | @some found found' spellsFound =>
    obtain ⟨classLike, declared, _, spells⟩ := declaredAs.exists_classLike
    apply Refines.classLike declared.1
    have isThere : (classLike.attribute? found.identifier).isSome
        = named.attributes.any (·.bare.identifier == found'.bare.identifier) := by
      rw [ClassLike.attribute?, List.isSome_find?, spellsFound.identifier]
      exact Related.any_eq spells.attributes fun _ _ spells => by rw [spells.identifier]
    simp only [isThere]
    split
    · rw [spellsFound.identifier]
      exact answer (reportOf coherent rfl (.cons (denotes_tree declaredAs) .nil)) fun _ _ grows =>
        grows.declaredAs not_false declaredAs
    · refine modifyClassLike coherent declaredAs.isNamed declared.1
        ⟨rfl, rfl, rfl, rfl, rfl, rfl, rfl⟩ rfl ?_
      exact { spells with
        bare := spells.bare
        attributes := List.rel_append spells.attributes (.cons spellsFound .nil) }

/-! ## Methods -/

theorem compileFormals {position : Nat} {exprs : List FormalExpr}
    (applies : ∀ expr ∈ exprs, expr.type.Applies (scope.takesArguments context))
    (coherent : state.library.Coherent scope options)
    (isNamed : state.library.IsNamed id context) :
    Refines scope options Library.nobody state
      (Build.compileFormals options id signature position exprs)
      (scope.compileFormals options context signature position exprs) fun after =>
        List.Forall₂ (after.SpellsFormal scope options context) := by
  induction exprs generalizing position state with
  | nil => exact .pure coherent .nil
  | cons expr exprs ih =>
    rw [Build.compileFormals, Scope.compileFormals]
    refine (resolve (applies expr (by simp)) coherent isNamed).bind
      fun type after coherent grows means => ?_
    refine (nameOf? expr.identifier coherent).bind fun name? after' coherent grows' same => ?_
    rw [← same]
    have grows := grows.trans grows'
    refine (ih (fun expr mem => applies expr (by simp [mem])) coherent
      (grows.isNamed_iff.2 isNamed)).bind fun formals _ coherent grows'' spells => ?_
    exact .pure coherent (.cons ⟨rfl, grows''.means (grows'.means means)⟩ spells)

theorem placeEllipsis {formals : List Formal} {formals' : List NamedFormal}
    (coherent : state.library.Coherent scope options)
    (spells : List.Forall₂ (state.library.SpellsFormal scope options context) formals formals') :
    Refines scope options Library.nobody state (Build.placeEllipsis signature formals)
      (Scope.placeEllipsis signature formals') fun after =>
        List.Forall₂ (after.SpellsFormal scope options context) := by
  induction formals' generalizing formals state with
  | nil =>
    cases spells
    exact .pure coherent .nil
  | cons formal' formals' ih =>
    cases spells with
    | @cons formal _ formals _ first later =>
    cases later with
    | nil => exact .pure coherent (.cons first .nil)
    | @cons second second' formals formals' next later =>
      have rest {state : BuildState} (coherent : state.library.Coherent scope options)
          (spells : List.Forall₂ (state.library.SpellsFormal scope options context)
            (formal :: second :: formals) (formal' :: second' :: formals')) :
          Refines scope options Library.nobody state
            (Build.placeEllipsis signature (second :: formals) >>= fun formals =>
              pure ({ formal with isVariadic := false } :: formals))
            (Scope.placeEllipsis signature (second' :: formals') >>= fun formals =>
              pure ({ formal' with bare := { formal'.bare with isVariadic := false } } :: formals))
            fun after => List.Forall₂ (after.SpellsFormal scope options context) := by
        cases spells with
        | cons first later =>
        refine (ih coherent later).bind fun formals _ coherent grows spells => ?_
        refine .pure coherent (.cons ⟨?_, grows.means first.type⟩ spells)
        rw [← first.bare]
        rfl
      have spells := List.Forall₂.cons first (.cons next later)
      rw [Build.placeEllipsis.eq_3 _ _ _ (by simp), Scope.placeEllipsis.eq_3 _ _ _ (by simp),
        ← first.isVariadic, ← first.identifier]
      split
      · refine (report coherent ⟨rfl, rfl⟩).bind fun _ _ coherent grows _ => ?_
        exact rest coherent (spells.imp fun _ _ spells => ⟨spells.bare, grows.means spells.type⟩)
      · exact rest coherent spells

/-- The type of a result is resolved if there is one. -/
theorem bind_returnType? {γ δ : Type} {next : Option Ty → Build γ}
    {next' : Option TypeTree → Traced δ} {related : Library → γ → δ → Prop}
    {type? : Option TypeExpr}
    (applies : ∀ type, type? = some type → type.Applies (scope.takesArguments context))
    (coherent : state.library.Coherent scope options)
    (isNamed : state.library.IsNamed id context)
    (later : ∀ (returnType? : Option Ty) (returnType?' : Option TypeTree) (after : BuildState),
      after.library.Coherent scope options → state.library.Grows Library.nobody after.library →
        Option.Rel (after.library.Means scope options context) returnType? returnType?' →
          Refines scope options Library.nobody after (next returnType?)
            (next' returnType?') related) :
    Refines scope options Library.nobody state
      (match type? with
        | some type => do
          let returnType? ← some <$> Build.resolve options id signature type
          next returnType?
        | none => do
          let returnType? ← pure none
          next returnType?)
      (scope.compileReturnType? options context signature type? >>= next') related := by
  cases type? with
  | none =>
    have first : Refines scope options Library.nobody state (pure none) (pure none)
        fun after => Option.Rel (after.Means scope options context) := .pure coherent .none
    exact first.bind fun _ after => later _ _ after
  | some type =>
    have first : Refines scope options Library.nobody state
        (some <$> Build.resolve options id signature type)
        (scope.resolve options context signature type >>= fun tree => pure (some tree))
        fun after => Option.Rel (after.Means scope options context) := by
      rw [← bind_pure_comp]
      exact (resolve (applies type rfl) coherent isNamed).map fun _ _ means => .some means
    exact first.bind fun _ after => later _ _ after

theorem compileMethod {body : Body} (coherent : state.library.Coherent scope options)
    (isNamed : state.library.IsNamed id context) :
    Refines scope options Library.nobody state (Build.compileMethod options id signature body)
      (scope.compileMethod options context signature body) fun after method method' =>
        after.SpellsMethod scope options context method method' := by
  unfold Build.compileMethod Scope.compileMethod
  refine (tokens signature coherent).bind fun tokens after coherent grows same => ?_
  obtain ⟨rfl, same⟩ := same
  rw [same]
  apply Refines.library
  have isNamed := grows.isNamed_iff.2 isNamed
  rw [coherent.takesArguments_eq isNamed]
  have applies := MethodExpr.applies_read (scope.takesArguments context)
    (tokenize signature).significant
  generalize MethodExpr.read (scope.takesArguments context) _ = expr at applies ⊢
  refine bind_returnType? applies.1 coherent isNamed
    fun returnType? returnType?' after coherent grows returned => ?_
  have isNamed := grows.isNamed_iff.2 isNamed
  refine (nameOf? expr.identifier coherent).bind fun name? after coherent grows₁ same => ?_
  rw [← same]
  refine (reportUnmet _ coherent).bind fun _ after coherent grows₂ _ => ?_
  have isNamed := (grows₁.trans grows₂).isNamed_iff.2 isNamed
  refine (compileFormals applies.2 coherent isNamed).bind
    fun formals after coherent grows₃ spells => ?_
  refine (reportUnmet _ coherent).bind fun _ after coherent grows₄ _ => ?_
  refine (reportUnmet _ coherent).bind fun _ after coherent grows₅ _ => ?_
  have grows := grows₄.trans grows₅
  refine (placeEllipsis coherent (spells.imp fun _ _ spells =>
    ⟨spells.bare, grows.means spells.type⟩)).bind fun formals after coherent grows₆ spells => ?_
  apply Refines.library
  rw [coherent.methodSignature_eq _ spells]
  have grows := (((grows₁.trans grows₂).trans grows₃).trans grows).trans grows₆
  exact .pure coherent ⟨rfl, Related.optional returned fun _ _ => grows.means, spells⟩

theorem addMethod {body : Body} (coherent : state.library.Coherent scope options)
    (declaredAs : state.library.DeclaredAs scope options context id named) :
    Refines scope options (· = id) state (Build.addMethod options id signature body)
      (named.addMethod scope options signature body) fun after _ named =>
        after.DeclaredAs scope options context id named := by
  unfold Build.addMethod NamedClass.addMethod
  rw [declaredAs.identifier_eq]
  refine (compileMethod coherent declaredAs.isNamed).bind_quiet
    fun method after coherent grows spellsMethod => ?_
  generalize (scope.compileMethod options context signature body).value = method' at spellsMethod ⊢
  have declaredAs := grows.declaredAs not_false declaredAs
  obtain ⟨classLike, declared, _, spells⟩ := declaredAs.exists_classLike
  apply Refines.classLike declared.1
  have isThere : (classLike.method? method.signature).isSome
      = named.methods.any (·.bare.signature == method'.bare.signature) := by
    rw [ClassLike.method?, List.isSome_find?, spellsMethod.signature]
    exact Related.any_eq spells.methods fun _ _ spells => by rw [spells.signature]
  simp only [isThere]
  split
  · rw [spellsMethod.signature]
    exact answer (reportOf coherent rfl (.cons (denotes_tree declaredAs) .nil)) fun _ _ grows =>
      grows.declaredAs not_false declaredAs
  · refine modifyClassLike coherent declaredAs.isNamed declared.1
      ⟨rfl, rfl, rfl, rfl, rfl, rfl, rfl⟩ rfl ?_
    exact { spells with
      bare := spells.bare
      methods := List.rel_append spells.methods (.cons spellsMethod .nil) }

/-! ## All members -/

theorem withConstants (constants : List String) (coherent : state.library.Coherent scope options)
    (declaredAs : state.library.DeclaredAs scope options context id named) :
    Refines scope options (· = id) state
      (Build.modifyClassLike id fun classLike =>
        { classLike with kind := classLike.kind.withConstants constants })
      (pure (named.withConstants constants)) fun after _ named =>
        after.DeclaredAs scope options context id named := by
  obtain ⟨classLike, declared, _, spells⟩ := declaredAs.exists_classLike
  refine modifyClassLike coherent declaredAs.isNamed declared.1 ?_ rfl ?_
  · exact ⟨rfl, rfl, rfl, by simp, rfl, rfl, rfl⟩
  · exact { spells with
      bare := by
        rw [NamedClass.withConstants, ← spells.bare]
        simp [ClassLike.bare]
      superclass? := by
        rw [Kind.superclass?_withConstants]
        exact spells.superclass?
      interfaces := by
        rw [Kind.interfaces_withConstants]
        exact spells.interfaces }

theorem addAttributes {signatures : List String} (coherent : state.library.Coherent scope options)
    (declaredAs : state.library.DeclaredAs scope options context id named) :
    Refines scope options (· = id) state (signatures.forM (Build.addAttribute options id))
      (signatures.foldlM (fun named signature => named.addAttribute scope options signature) named)
      fun after _ named => after.DeclaredAs scope options context id named :=
  forM_foldlM (fun _ _ _ _ => addAttribute) coherent declaredAs

theorem addMethods {entries : List (String × Body)}
    (coherent : state.library.Coherent scope options)
    (declaredAs : state.library.DeclaredAs scope options context id named) :
    Refines scope options (· = id) state
      (entries.forM fun (signature, body) => Build.addMethod options id signature body)
      (entries.foldlM (fun named (signature, body) =>
        named.addMethod scope options signature body) named)
      fun after _ named => after.DeclaredAs scope options context id named :=
  forM_foldlM (fun _ _ _ _ => addMethod) coherent declaredAs

/-- Compiling the members of a class-like follows the compilation by names. -/
theorem compileMembers {declaration : Declaration}
    (coherent : state.library.Coherent scope options)
    (declaredAs : state.library.DeclaredAs scope options context id named)
    (prototype? : named.bare.prototype? = some declaration) :
    Refines scope options (· = id) state (Build.compileMembers options id)
      (named.compileMembers scope options declaration) fun after _ named =>
        after.DeclaredAs scope options context id named := by
  obtain ⟨classLike, declared, _, spells⟩ := declaredAs.exists_classLike
  have prototype?_eq : classLike.prototype? = some declaration := by
    rw [← prototype?, ← spells.bare]
    rfl
  unfold Build.compileMembers NamedClass.compileMembers
  apply Refines.classLike declared.1
  rw [prototype?_eq]
  refine (addAttributes coherent declaredAs).bind fun _ after coherent _ declaredAs => ?_
  refine (addMethods coherent declaredAs).bind fun _ after coherent _ declaredAs => ?_
  exact withConstants declaration.enumConstants coherent declaredAs

end Refines

end ClassModel
