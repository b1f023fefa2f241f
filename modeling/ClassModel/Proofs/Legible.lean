import ClassModel.Proofs.Accepted
import ClassModel.Proofs.Mute
import ClassModel.Proofs.Overload

/-!
# ClassModel.Proofs.Legible

Methods that are told apart by their signatures. In the text of a type, a name
stands for a generic parameter or for a class-like, and the text does not tell
for which. Within one class-like a name that is resolved without a diagnostic is
always taken for the same thing, so types of one class-like that are written
alike are the same (`TypeTree.IsWritable.signature_inj`). Its methods then have
the same signature exactly if they have the same name and the same types of
formal parameters, and are variadic alike (`Library.IsLegible.signature_eq_iff`).
-/

namespace ClassModel

/-! ## Types -/

/-- Types of one class-like that are written alike are the same: the text can be
read as nothing else. -/
theorem TypeTree.IsWritable.signature_inj {scope : Scope} {options : Options} {context : String}
    (hasWords : scope.HasWords) (enums : scope.HasPlainEnums) {tree tree' : TypeTree}
    (writable : tree.IsWritable scope options context)
    (writable' : tree'.IsWritable scope options context)
    (same : tree.signature = tree'.signature) : tree = tree' := by
  -- The text is split into the tokens of the type, these are read as what is
  -- written, and that is resolved to the type.
  have read {tree : TypeTree} (writable : tree.IsWritable scope options context) :
      (scope.resolve options context "" (TypeExpr.read (scope.takesArguments context)
        (tokenize tree.signature).significant).1).value = tree := by
    have lexes := lexes_text (writable.wellFormed.spelled hasWords) closes_nil
    have tokens : TypeExpr.read (scope.takesArguments context) (tree.tokens ++ [])
        = (tree.written, []) :=
      readWithin_tokens (writable.applies_written enums) (by simp) (by rintro _ ⟨⟩)
    rw [List.append_nil] at tokens
    rw [lexes.tokenize_eq.2, tokens]
    exact (Scope.resolve_written "" writable).1
  rw [← read writable, ← read writable', same]

namespace TypeTree

variable {scope : Scope} {context : String}

@[simp] theorem unshadowed_array {tree : TypeTree} {n : Nat} :
    (tree.array n).Unshadowed scope context ↔ tree.Unshadowed scope context := by
  cases tree <;> simp [array, Unshadowed]

end TypeTree

namespace Scope

variable {scope : Scope} {options : Options} {context signature : String}

theorem unshadowed_resolveName {name : String}
    (silent : reports (scope.resolveName context signature name).events = []) :
    (scope.resolveName context signature name).value.Unshadowed scope context := by
  unfold resolveName at silent ⊢
  split
  · rw [Traced.value_pure, TypeTree.Unshadowed]
    trivial
  · next notPrimitive =>
    simp only [notPrimitive] at silent
    split
    · rw [Traced.value_pure, TypeTree.Unshadowed]
      exact notPrimitive
    · next free =>
      rw [if_neg free] at silent
      split
      · rw [Traced.value_pure, TypeTree.Unshadowed]
        simpa using free
      · next unknown =>
        rw [if_neg unknown] at silent
        cases silent

theorem unshadowed_instantiate {name : String} {arguments : List TypeTree}
    (free : scope.declaresParameter context name = false)
    (all : ∀ argument ∈ arguments, argument.Unshadowed scope context)
    (silent : reports (scope.instantiate options name arguments signature).events = []) :
    (scope.instantiate options name arguments signature).value.Unshadowed scope context := by
  rw [instantiate, fitArguments] at silent ⊢
  split at silent
  · next fits =>
    rw [if_pos fits, pure_bind]
    rw [pure_bind] at silent
    dsimp only at silent ⊢
    split
    · rw [Traced.value_pure, TypeTree.Unshadowed]
      exact free
    · next nonempty =>
      rw [if_neg nonempty] at silent
      split
      · next deep =>
        rw [if_pos deep] at silent
        cases silent
      · rw [Traced.value_bind, Traced.value_pure, TypeTree.Unshadowed]
        exact ⟨free, all⟩
  · cases silent

/-- In a type that is resolved without a diagnostic, no name is taken for another
one. -/
theorem unshadowed_resolve {expr : TypeExpr}
    (applies : expr.Applies (scope.takesArguments context))
    (silent : reports (scope.resolve options context signature expr).events = []) :
    (scope.resolve options context signature expr).value.Unshadowed scope context := by
  induction expr with
  | missing found dimension => cases silent
  | name name dimension =>
    rw [resolve, Traced.events_bind, reports_append, List.append_eq_nil_iff] at silent
    rw [resolve, Traced.value_bind, Traced.value_pure, TypeTree.unshadowed_array]
    exact unshadowed_resolveName silent.1
  | application name arguments unclosed? dimension ih =>
    rw [resolve, resolveAll_eq_mapM] at silent ⊢
    simp only [Traced.events_bind, Traced.events_mapM, Traced.value_mapM, reports_append,
      reports_flatMap, List.append_eq_nil_iff, List.flatMap_eq_nil_iff] at silent
    obtain ⟨each, _, instantiated, _⟩ := silent
    rw [TypeExpr.Applies] at applies
    have free : scope.declaresParameter context name = false := by
      have takes := applies.1
      simp only [takesArguments, Bool.and_eq_true, Bool.not_eq_true'] at takes
      exact takes.1.2
    simp only [Traced.value_bind, Traced.value_pure, Traced.value_mapM, TypeTree.unshadowed_array]
    refine unshadowed_instantiate free (List.forall_mem_map.2 fun argument mem => ?_) instantiated
    exact ih argument mem (applies.2 argument mem) (each argument mem)

theorem unshadowed_compileFormals {position : Nat} {exprs : List FormalExpr}
    (applies : ∀ expr ∈ exprs, expr.type.Applies (scope.takesArguments context))
    (silent : reports (scope.compileFormals options context signature position exprs).events = []) :
    ∀ formal ∈ (scope.compileFormals options context signature position exprs).value,
      formal.type.Unshadowed scope context := by
  induction exprs generalizing position with
  | nil => simp [compileFormals]
  | cons expr exprs ih =>
    simp only [compileFormals, Traced.events_bind, reports_append, List.append_eq_nil_iff] at silent
    obtain ⟨type, _, later, _⟩ := silent
    rw [List.forall_mem_cons] at applies
    simp only [compileFormals, Traced.value_bind, Traced.value_pure, List.forall_mem_cons]
    exact ⟨unshadowed_resolve applies.1 type, ih applies.2 later⟩

/-- The formal parameters keep their types. -/
theorem map_type_placeEllipsis (formals : List NamedFormal) :
    (placeEllipsis signature formals).value.map (·.type) = formals.map (·.type) := by
  fun_induction placeEllipsis signature formals with
  | case1 | case2 => rfl
  | case3 formal formals alone rest variadic ih | case4 formal formals alone rest single ih =>
    exact congrArg (formal.type :: ·) ih

theorem unshadowed_compileMethod {body : Body}
    (silent : reports (scope.compileMethod options context signature body).events = []) :
    ∀ formal ∈ (scope.compileMethod options context signature body).value.formals,
      formal.type.Unshadowed scope context := by
  have value : (Traced.tokens signature).value = (tokenize signature).significant := rfl
  simp only [compileMethod, Traced.events_bind, value, reports_append, List.append_eq_nil_iff]
    at silent
  have applies := MethodExpr.applies_read (scope.takesArguments context)
    (tokenize signature).significant
  simp only [compileMethod, Traced.value_bind, Traced.value_pure, value]
  generalize MethodExpr.read (scope.takesArguments context) (tokenize signature).significant = expr
    at silent applies ⊢
  obtain ⟨_, _, _, _, formals, _⟩ := silent
  intro formal mem
  have listed := List.mem_map_of_mem (f := NamedFormal.type) mem
  rw [map_type_placeEllipsis] at listed
  obtain ⟨formal', mem', same⟩ := List.mem_map.1 listed
  exact same ▸ unshadowed_compileFormals applies.2 formals formal' mem'

end Scope

/-! ## Methods -/

/-- What tells a method from the others of a class-like: its name, and of each of
its formal parameters the type and whether it is variadic. -/
structure Profile where
  identifier : String
  formals : List (Ty × Bool)
  deriving DecidableEq

def Method.profile (method : Method) : Profile where
  identifier := method.identifier
  formals := method.formals.map fun formal => (formal.type, formal.isVariadic)

namespace Library

/-- The method has the signature that goes with its formal parameters, the types
of which can be read back where they are written. -/
structure IsLegible (library : Library) (scope : Scope) (options : Options) (context : String)
    (method : Method) : Prop where
  signature : method.signature = library.methodSignature method.identifier method.formals
  types : ∀ formal ∈ method.formals, ∃ tree, library.Denotes formal.type tree
    ∧ tree.IsWritable scope options context

variable {library : Library} {scope : Scope} {options : Options} {context : String}

/-- A method that is compiled without a diagnostic is legible. -/
theorem SpellsMethod.isLegible {source : String} {body : Body} {method : Method}
    (coherent : library.Coherent scope options)
    (spells : library.SpellsMethod scope options context method
      (scope.compileMethod options context source body).value)
    (silent : reports (scope.compileMethod options context source body).events = []) :
    library.IsLegible scope options context method where
  signature := by
    rw [coherent.methodSignature_eq _ spells.formals, spells.signature, spells.identifier]
    exact (scope.signature_compileMethod options context source body).1
  types formal mem := by
    obtain ⟨formal', mem', spells⟩ := Related.exists_of_mem spells.formals.flip mem
    exact ⟨formal'.type, spells.type.denotes, spells.type.wellFormed,
      Scope.unshadowed_compileMethod silent formal' mem'⟩

theorem IsLegible.grows {after : Library} {focus : ClassId → Prop} {method : Method}
    (legible : library.IsLegible scope options context method)
    (coherent : library.Coherent scope options) (coherent' : after.Coherent scope options)
    (grows : library.Grows focus after) : after.IsLegible scope options context method where
  signature := by
    have texts : method.formals.map (fun formal =>
          library.signatureOf formal.type ++ if formal.isVariadic then "..." else "")
        = method.formals.map fun formal =>
          after.signatureOf formal.type ++ if formal.isVariadic then "..." else "" := by
      refine List.map_congr_left fun formal mem => ?_
      obtain ⟨tree, denotes, _⟩ := legible.types formal mem
      rw [coherent.signatureOf_eq denotes, coherent'.signatureOf_eq (grows.denotes denotes)]
    rw [legible.signature, methodSignature, methodSignature, texts]
  types formal mem := by
    obtain ⟨tree, denotes, writable⟩ := legible.types formal mem
    exact ⟨tree, grows.denotes denotes, writable⟩

theorem IsLegible.areListable (coherent : library.Coherent scope options)
    (isSpelled : scope.IsSpelled) {method : Method}
    (legible : library.IsLegible scope options context method) :
    library.AreListable method.formals := by
  intro formal mem
  obtain ⟨tree, denotes, writable⟩ := legible.types formal mem
  rw [coherent.signatureOf_eq denotes]
  exact TypeTree.isTypeText_signature isSpelled writable.wellFormed

/-- Legible methods of one class-like have the same signature exactly if they have
the same name, and the same types and marks of formal parameters. -/
theorem IsLegible.signature_eq_iff (coherent : library.Coherent scope options)
    (hasWords : scope.HasWords) (isSpelled : scope.IsSpelled) {method method' : Method}
    (legible : library.IsLegible scope options context method)
    (legible' : library.IsLegible scope options context method') :
    method.signature = method'.signature ↔ method.profile = method'.profile := by
  have enums : scope.HasPlainEnums := fun _ _ => coherent.enum_parameters
  rw [legible.signature, legible'.signature]
  constructor
  · intro same
    obtain ⟨identifier, alike⟩ := methodSignature_inj (legible.areListable coherent isSpelled)
      (legible'.areListable coherent isSpelled) same
    have formals : method.formals.map (fun formal => (formal.type, formal.isVariadic))
        = method'.formals.map fun formal => (formal.type, formal.isVariadic) := by
      refine Related.map_eq ((List.forall₂_and_left _ _).2 ⟨legible.types, alike⟩)
        fun formal' mem' formal both => ?_
      obtain ⟨⟨tree, denotes, writable⟩, alike⟩ := both
      obtain ⟨tree', denotes', writable'⟩ := legible'.types formal' mem'
      have type := alike.type
      rw [coherent.signatureOf_eq denotes, coherent.signatureOf_eq denotes'] at type
      obtain rfl := writable.signature_inj hasWords enums writable' type
      rw [coherent.denotes_inj denotes denotes', alike.isVariadic]
    rw [Method.profile, Method.profile, identifier, formals]
  · intro same
    have texts {formals : List Formal} : formals.map (fun formal =>
          library.signatureOf formal.type ++ if formal.isVariadic then "..." else "")
        = (formals.map fun formal => (formal.type, formal.isVariadic)).map fun shown =>
          library.signatureOf shown.1 ++ if shown.2 then "..." else "" := by
      rw [List.map_map]
      rfl
    obtain ⟨identifier, formals⟩ := Profile.mk.inj same
    rw [methodSignature, methodSignature, texts, texts, identifier, formals]

end Library

end ClassModel
