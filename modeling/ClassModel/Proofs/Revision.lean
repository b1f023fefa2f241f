import ClassModel.Proofs.Resolve

/-!
# ClassModel.Proofs.Revision

Changing the contents of a class-like. The library stays coherent as long as
the change keeps what others rely on, and what the class-like spells changes as
the content does.
-/

namespace ClassModel

namespace Library

/-- The class-like is declared under the name, and is the named one. -/
structure DeclaredAs (library : Library) (scope : Scope) (options : Options) (context : String)
    (id : ClassId) (named : NamedClass) : Prop where
  isNamed : library.IsNamed id context
  spells : library.Spells scope options context id named

/-- The generic parameters of a class-like. -/
def parametersOf (library : Library) (id : ClassId) : List ParameterId :=
  ((library.classLike? id).map (·.genericParameters)).getD []

variable {library before after : Library} {scope : Scope} {options : Options} {context : String}
  {focus : ClassId → Prop} {id : ClassId} {named : NamedClass}

namespace DeclaredAs

theorem exists_classLike (declaredAs : library.DeclaredAs scope options context id named) :
    ∃ classLike, library.IsDeclared id classLike ∧ classLike.identifier = context
      ∧ library.SpellsClass scope options context id classLike named := by
  obtain ⟨classLike, declared, same⟩ := declaredAs.isNamed
  obtain ⟨classLike', known, spells⟩ := declaredAs.spells
  cases declared.1.symm.trans known
  exact ⟨classLike, declared, same, spells⟩

theorem identifier_eq (declaredAs : library.DeclaredAs scope options context id named) :
    named.identifier = context := by
  obtain ⟨classLike, declared, same, spells⟩ := declaredAs.exists_classLike
  rw [NamedClass.identifier, ← spells.bare, ← same]
  rfl

end DeclaredAs

theorem Grows.declaredAs (h : before.Grows focus after) (away : ¬ focus id)
    (declaredAs : before.DeclaredAs scope options context id named) :
    after.DeclaredAs scope options context id named :=
  ⟨h.isNamed_iff.2 declaredAs.isNamed, h.spells away declaredAs.spells⟩

theorem Grows.parametersOf (h : before.Grows focus after) (isNamed : before.IsNamed id context) :
    after.parametersOf id = before.parametersOf id := by
  obtain ⟨classLike, ⟨known, _⟩, _⟩ := isNamed
  obtain ⟨later, known', keeps, _⟩ := h.classLike known
  simp [Library.parametersOf, known, known', keeps.genericParameters]

/-! ## Class-likes -/

section Modify

variable {found : ClassLike} {change : ClassLike → ClassLike}

theorem classLike?_modify (library : Library) (id other : ClassId)
    (change : ClassLike → ClassLike) : (library.modify id change).classLike? other
      = if id = other then (library.classLike? other).map change else library.classLike? other :=
  Arena.get?_modify ..

theorem revises_modify (known : library.classLike? id = some found)
    (keeps : found.Keeps (change found)) (cache : (change found).localCache = found.localCache) :
    library.Revises (· = id) (library.modify id change) where
  types := rfl
  classLike {other classLike} known' := by
    rw [classLike?_modify]
    split
    · next same =>
      subst same
      cases known.symm.trans known'
      exact ⟨_, by rw [known]; rfl, keeps, fun away => absurd rfl away⟩
    · exact ⟨classLike, known', .refl _, fun _ => rfl⟩
  created {other classLike} known' new := by
    rw [classLike?_modify, new] at known'
    split at known' <;> simp at known'
  parameter known' := ⟨_, known', rfl, rfl, fun _ => rfl⟩
  parameter_old known' := ⟨_, known'⟩
  size := Arena.size_modify ..
  cacheOf place? := by
    cases place? with
    | none => rfl
    | some other =>
      simp only [cacheOf, classLike?_modify]
      split
      · next same =>
        subst same
        simp [known, cache]
      · rfl

/-- A change that keeps what others rely on is one of the class-like alone. -/
theorem Spells.modify (known : library.classLike? id = some found)
    (keeps : found.Keeps (change found)) (cache : (change found).localCache = found.localCache)
    (spells : library.SpellsClass scope options context id (change found) named) :
    (library.modify id change).Spells scope options context id named := by
  have grows := (revises_modify known keeps cache).toGrows
  refine ⟨change found, by rw [classLike?_modify, if_pos rfl, known]; rfl, ?_⟩
  exact {
    bare := spells.bare
    superclass? := Related.optional spells.superclass? fun _ _ => grows.means
    interfaces := spells.interfaces.imp fun _ _ => grows.means
    parameters := spells.parameters.imp fun _ _ ⟨parameter, known, owner, spells⟩ =>
      ⟨parameter, known, owner, grows.spellsParameter spells⟩
    methods := spells.methods.imp fun _ _ => grows.spellsMethod
    attributes := spells.attributes.imp fun _ _ => grows.spellsAttribute }

end Modify

/-! ## Generic parameters -/

section ModifyParameter

variable {parameter : ParameterId} {found : GenericParameter}
  {change : GenericParameter → GenericParameter}

theorem parameter?_modifyParameter (library : Library) (id other : ParameterId)
    (change : GenericParameter → GenericParameter) :
    (library.modifyParameter id change).parameter? other
      = if id = other then (library.parameter? other).map change else library.parameter? other :=
  Arena.get?_modify ..

theorem revises_modifyParameter (known : library.parameter? parameter = some found)
    (identifier : (change found).identifier = found.identifier)
    (owner : (change found).owner = found.owner) :
    library.Revises (· = found.owner) (library.modifyParameter parameter change) where
  types := rfl
  classLike known' := ⟨_, known', .refl _, fun _ => rfl⟩
  created known' new := by
    rw [show (library.modifyParameter parameter change).classLike? = library.classLike? from rfl,
      new] at known'
    cases known'
  parameter {other found'} known' := by
    rw [parameter?_modifyParameter]
    split
    · next same =>
      subst same
      cases known.symm.trans known'
      exact ⟨_, by rw [known]; rfl, identifier, owner, fun away => absurd rfl away⟩
    · exact ⟨found', known', rfl, rfl, fun _ => rfl⟩
  parameter_old {other found'} known' := by
    rw [parameter?_modifyParameter] at known'
    split at known'
    · rw [Option.map_eq_some_iff] at known'
      obtain ⟨earlier, known', _⟩ := known'
      exact ⟨earlier, known'⟩
    · exact ⟨found', known'⟩
  size := rfl
  cacheOf place? := by cases place? <;> rfl

/-- Changing a generic parameter of a class-like is a change of the class-like
alone. -/
theorem revises_modifyParameter_of_position {position : Nat}
    (coherent : library.Coherent scope options)
    (place : (library.parametersOf id)[position]? = some parameter)
    (isNamed : library.IsNamed id context)
    (identifier : ∀ found, (change found).identifier = found.identifier)
    (owner : ∀ found, (change found).owner = found.owner) :
    library.Revises (· = id) (library.modifyParameter parameter change) := by
  obtain ⟨classLike, declared, _⟩ := isNamed
  have mem : parameter ∈ classLike.genericParameters := by
    simp only [parametersOf, declared.1, Option.map_some, Option.getD_some] at place
    exact List.mem_of_getElem? place
  obtain ⟨found, known, rfl⟩ := coherent.owned declared mem
  exact revises_modifyParameter known (identifier found) (owner found)

/-- A class-like spells its generic parameters as they are afterwards. -/
theorem DeclaredAs.modifyParameter {position : Nat} {change' : NamedParameter → NamedParameter}
    (coherent : library.Coherent scope options)
    (place : (library.parametersOf id)[position]? = some parameter)
    (declaredAs : library.DeclaredAs scope options context id named)
    (identifier : ∀ found, (change found).identifier = found.identifier)
    (owner : ∀ found, (change found).owner = found.owner)
    (spells : ∀ found named, library.SpellsParameter scope options context found named →
      library.SpellsParameter scope options context (change found) (change' named)) :
    (library.modifyParameter parameter change).DeclaredAs scope options context id
      { named with parameters := named.parameters.modify position change' } := by
  have grows := (revises_modifyParameter_of_position coherent place declaredAs.isNamed identifier
    owner).toGrows
  refine ⟨grows.isNamed_iff.2 declaredAs.isNamed, ?_⟩
  obtain ⟨classLike, declared, same, spellsClass⟩ := declaredAs.exists_classLike
  simp only [parametersOf, declared.1, Option.map_some, Option.getD_some] at place
  refine ⟨classLike, declared.1, ?_⟩
  exact {
    bare := spellsClass.bare
    superclass? := Related.optional spellsClass.superclass? fun _ _ => grows.means
    interfaces := spellsClass.interfaces.imp fun _ _ => grows.means
    parameters := by
      refine Related.modify spellsClass.parameters ?_
      rintro i other named at_i ⟨found, known, owned, spelled⟩
      rw [parameter?_modifyParameter]
      by_cases here : position = i
      · subst here
        cases place.symm.trans at_i
        rw [if_pos rfl, if_pos rfl, known]
        exact ⟨_, rfl, (owner found).trans owned, grows.spellsParameter (spells _ _ spelled)⟩
      · -- a generic parameter is declared at one position only
        have away : parameter ≠ other := by
          rintro rfl
          obtain ⟨inside, place⟩ := List.getElem?_eq_some_iff.1 place
          obtain ⟨inside', at_i⟩ := List.getElem?_eq_some_iff.1 at_i
          exact here ((List.getElem_inj (coherent.genericParameters_nodup declared)).1
            (place.trans at_i.symm))
        rw [if_neg away, if_neg here]
        exact ⟨found, known, owned, grows.spellsParameter spelled⟩
    methods := spellsClass.methods.imp fun _ _ => grows.spellsMethod
    attributes := spellsClass.attributes.imp fun _ _ => grows.spellsAttribute }

end ModifyParameter

end Library

/-! ## Steps -/

namespace Refines

variable {α β : Type} {scope : Scope} {options : Options} {context : String} {state : BuildState}
  {id : ClassId} {found : ClassLike} {named : NamedClass}

/-- A revision of the library is a step in which nothing happens. -/
theorem setLibrary {focus : ClassId → Prop} {library : Library} {value : β}
    {related : Library → Unit → β → Prop}
    (coherent : state.library.Coherent scope options)
    (revises : state.library.Revises focus library) (holds : related library () value) :
    Refines scope options focus state (Build.setLibrary library) (pure value) related := by
  rw [Refines, Build.yields_setLibrary]
  refine ⟨revises.coherent coherent, ⟨revises.toGrows, ⟨[], by simp, .nil⟩, ⟨[], ?_⟩, ?_⟩, holds⟩
  · simp [revises.instances]
  · intro tree
    simp only [Library.Has, revises.isInstance_iff coherent]
    simp [requests]

/-- Changing a class-like is a step in which nothing happens. -/
theorem modify {change : ClassLike → ClassLike} {value : β}
    {related : Library → Unit → β → Prop} (coherent : state.library.Coherent scope options)
    (known : state.library.classLike? id = some found) (keeps : found.Keeps (change found))
    (cache : (change found).localCache = found.localCache)
    (holds : related (state.library.modify id change) () value) :
    Refines scope options (· = id) state (Build.modifyClassLike id change)
      (pure value) related := by
  unfold Build.modifyClassLike
  apply Refines.classLike known
  apply Refines.library
  exact setLibrary coherent (Library.revises_modify known keeps cache) holds

/-- Changing a declared class-like follows the change by names. -/
theorem modifyClassLike {change : ClassLike → ClassLike}
    (coherent : state.library.Coherent scope options)
    (isNamed : state.library.IsNamed id context)
    (known : state.library.classLike? id = some found) (keeps : found.Keeps (change found))
    (cache : (change found).localCache = found.localCache)
    (spells : state.library.SpellsClass scope options context id (change found) named) :
    Refines scope options (· = id) state (Build.modifyClassLike id change) (pure named)
      fun after _ named => after.DeclaredAs scope options context id named := by
  have grows := (Library.revises_modify known keeps cache).toGrows
  exact modify coherent known keeps cache
    ⟨grows.isNamed_iff.2 isNamed, .modify known keeps cache spells⟩

end Refines

end ClassModel
