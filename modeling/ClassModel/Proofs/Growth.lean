import ClassModel.Proofs.Denotation

/-!
# ClassModel.Proofs.Growth

How a library changes while declarations are compiled. Once all declarations
are registered, a library only grows (`Library.Grows`): instantiations are
added, caches are filled, and the class-likes in focus are given their
supertypes, members and layouts, while names, generic parameters and the
requests behind instantiations stay. What a type denotes therefore stays as
well (`Grows.denotes`).
-/

namespace ClassModel

/-- What was asked for when an instantiation was created. -/
def Specialization.request (specialization : Specialization) : Specialization :=
  { specialization with isMaterialized := false }

/-- The later state of a class-like: its supertypes, members, layout and cache
may have changed. -/
structure ClassLike.Keeps (before after : ClassLike) : Prop where
  identifier : after.identifier = before.identifier
  visibility : after.visibility = before.visibility
  isFinal : after.isFinal = before.isFinal
  keyword : after.kind.keyword = before.kind.keyword
  genericParameters : after.genericParameters = before.genericParameters
  prototype? : after.prototype? = before.prototype?
  specialization? : after.specialization?.map (·.request)
    = before.specialization?.map (·.request)

/-- A class-like without its cache. -/
def ClassLike.content (classLike : ClassLike) : ClassLike := { classLike with localCache := [] }

namespace ClassLike

theorem Keeps.refl (classLike : ClassLike) : classLike.Keeps classLike :=
  ⟨rfl, rfl, rfl, rfl, rfl, rfl, rfl⟩

theorem Keeps.trans {first second third : ClassLike} (h : first.Keeps second)
    (h' : second.Keeps third) : first.Keeps third where
  identifier := h'.identifier.trans h.identifier
  visibility := h'.visibility.trans h.visibility
  isFinal := h'.isFinal.trans h.isFinal
  keyword := h'.keyword.trans h.keyword
  genericParameters := h'.genericParameters.trans h.genericParameters
  prototype? := h'.prototype?.trans h.prototype?
  specialization? := h'.specialization?.trans h.specialization?

/-- Class-likes of one content differ in their caches only. -/
theorem Keeps.of_content {before after : ClassLike} (same : after.content = before.content) :
    before.Keeps after := by
  simp only [content, ClassLike.mk.injEq] at same
  obtain ⟨identifier, visibility, isFinal, kind, genericParameters, _, _, _, _, prototype,
    specialization⟩ := same
  exact ⟨identifier, visibility, isFinal, by rw [kind], genericParameters, prototype,
    by rw [specialization]⟩

theorem Keeps.specialization?_eq_none {before after : ClassLike} (keeps : before.Keeps after) :
    after.specialization? = none ↔ before.specialization? = none := by
  rw [← Option.map_eq_none_iff (f := Specialization.request), keeps.specialization?,
    Option.map_eq_none_iff]

/-- An instantiation stays one, of the same base with the same arguments. -/
theorem Keeps.exists_specialization {before after : ClassLike} (keeps : before.Keeps after)
    {specialization : Specialization} (known : before.specialization? = some specialization) :
    ∃ later, after.specialization? = some later ∧ later.request = specialization.request := by
  have same := keeps.specialization?
  rw [known, Option.map_some, Option.map_eq_some_iff] at same
  exact same

end ClassLike

namespace Library

/-- The library at a later time. Only the class-likes in focus, and the
generic parameters that they own, may have other contents. -/
structure Grows (focus : ClassId → Prop) (before after : Library) : Prop where
  types : after.types = before.types
  classLike {id : ClassId} {classLike : ClassLike} :
    before.classLike? id = some classLike → ∃ later, after.classLike? id = some later
      ∧ classLike.Keeps later ∧ (¬ focus id → later.content = classLike.content)
  created {id : ClassId} {classLike : ClassLike} :
    after.classLike? id = some classLike → before.classLike? id = none →
      classLike.specialization?.isSome
  parameter {id : ParameterId} {parameter : GenericParameter} :
    before.parameter? id = some parameter → ∃ later, after.parameter? id = some later
      ∧ later.identifier = parameter.identifier ∧ later.owner = parameter.owner
      ∧ (¬ focus parameter.owner → later = parameter)
  parameter_old {id : ParameterId} {parameter : GenericParameter} :
    after.parameter? id = some parameter → ∃ earlier, before.parameter? id = some earlier

/-- No class-like. -/
def nobody : ClassId → Prop := fun _ => False

namespace Grows

variable {focus focus' : ClassId → Prop} {first before after third : Library}

theorem refl (library : Library) : library.Grows focus library where
  types := rfl
  classLike known := ⟨_, known, .refl _, fun _ => rfl⟩
  created known new := by simp [known] at new
  parameter known := ⟨_, known, rfl, rfl, fun _ => rfl⟩
  parameter_old known := ⟨_, known⟩

theorem trans (h : first.Grows focus before) (h' : before.Grows focus third) :
    first.Grows focus third where
  types := h'.types.trans h.types
  classLike known := by
    obtain ⟨later, known, keeps, same⟩ := h.classLike known
    obtain ⟨last, known, keeps', same'⟩ := h'.classLike known
    exact ⟨last, known, keeps.trans keeps', fun away => (same' away).trans (same away)⟩
  created {id classLike} known new := by
    cases middle : before.classLike? id with
    | none => exact h'.created known middle
    | some classLike' =>
      obtain ⟨later, known', keeps, _⟩ := h'.classLike middle
      cases known.symm.trans known'
      have := h.created middle new
      cases isInstance : classLike.specialization? with
      | none => simp [keeps.specialization?_eq_none.1 isInstance] at this
      | some _ => rfl
  parameter known := by
    obtain ⟨later, known, named, owned, same⟩ := h.parameter known
    obtain ⟨last, known, named', owned', same'⟩ := h'.parameter known
    exact ⟨last, known, named'.trans named, owned'.trans owned,
      fun away => (same' (owned ▸ away)).trans (same away)⟩
  parameter_old known := by
    obtain ⟨earlier, known⟩ := h'.parameter_old known
    exact h.parameter_old known

theorem mono (h : before.Grows focus after) (wider : ∀ id, focus id → focus' id) :
    before.Grows focus' after where
  types := h.types
  classLike known := by
    obtain ⟨later, known, keeps, same⟩ := h.classLike known
    exact ⟨later, known, keeps, fun away => same fun near => away (wider _ near)⟩
  created := h.created
  parameter known := by
    obtain ⟨later, known, named, owned, same⟩ := h.parameter known
    exact ⟨later, known, named, owned, fun away => same fun near => away (wider _ near)⟩
  parameter_old := h.parameter_old

/-- Growth with nobody in focus is growth with anybody in focus. -/
theorem widen (h : before.Grows nobody after) : before.Grows focus after :=
  h.mono fun _ near => near.elim

/-! ## What stays -/

theorem isDeclared (h : before.Grows focus after) {id : ClassId} {classLike : ClassLike}
    (declared : before.IsDeclared id classLike) :
    ∃ later, after.IsDeclared id later ∧ classLike.Keeps later := by
  obtain ⟨later, known, keeps, _⟩ := h.classLike declared.1
  exact ⟨later, ⟨known, keeps.specialization?_eq_none.2 declared.2⟩, keeps⟩

/-- Declared class-likes are not created any more. -/
theorem isDeclared_back (h : before.Grows focus after) {id : ClassId} {classLike : ClassLike}
    (declared : after.IsDeclared id classLike) :
    ∃ earlier, before.IsDeclared id earlier ∧ earlier.Keeps classLike := by
  cases known : before.classLike? id with
  | none =>
    have := h.created declared.1 known
    simp [declared.2] at this
  | some earlier =>
    obtain ⟨later, known', keeps, _⟩ := h.classLike known
    cases declared.1.symm.trans known'
    exact ⟨earlier, ⟨known, keeps.specialization?_eq_none.1 declared.2⟩, keeps⟩

/-- Which generic parameters there are, and under which names, is settled. -/
theorem parameter_identifier (h : before.Grows focus after) (id : ParameterId) :
    (after.parameter? id).map (·.identifier) = (before.parameter? id).map (·.identifier) := by
  cases known : before.parameter? id with
  | some parameter =>
    obtain ⟨later, known', named, _⟩ := h.parameter known
    simp [known', named]
  | none =>
    cases known' : after.parameter? id with
    | none => rfl
    | some parameter =>
      obtain ⟨earlier, known'⟩ := h.parameter_old known'
      simp [known] at known'

theorem parameterName (h : before.Grows focus after) :
    after.parameterName = before.parameterName := by
  funext id
  rw [Library.parameterName, Library.parameterName, h.parameter_identifier]

theorem parameterNamed? (h : before.Grows focus after) {id : ClassId} {classLike : ClassLike}
    (known : before.classLike? id = some classLike) (name : String) :
    after.parameterNamed? id name = before.parameterNamed? id name := by
  obtain ⟨later, known', keeps, _⟩ := h.classLike known
  simp only [Library.parameterNamed?, known, known', Option.bind_eq_bind, Option.bind_some,
    keeps.genericParameters, h.parameter_identifier]

theorem shapeOf (h : before.Grows focus after) {classLike later : ClassLike}
    (keeps : classLike.Keeps later) : after.shapeOf later = before.shapeOf classLike := by
  rw [Library.shapeOf, Library.shapeOf, keeps.keyword, keeps.genericParameters, h.parameterName]

/-- A type denotes what it denoted before. -/
theorem denotes (h : before.Grows focus after) {type : Ty} {tree : TypeTree}
    (denotes : before.Denotes type tree) : after.Denotes type tree := by
  induction tree generalizing type with
  | primitive primitive n => exact denotes
  | declared name n =>
    obtain ⟨id, classLike, rfl, declared, rfl⟩ := denotes
    obtain ⟨later, declared, keeps⟩ := h.isDeclared declared
    exact ⟨id, later, rfl, declared, keeps.identifier⟩
  | applied name arguments n ih =>
    obtain ⟨id, classLike, specialization, rfl, known, rfl, specialized, all⟩ := denotes
    obtain ⟨later, known', keeps, _⟩ := h.classLike known
    obtain ⟨specialization', specialized', same⟩ := keeps.exists_specialization specialized
    refine ⟨id, later, specialization', rfl, known', keeps.identifier, specialized', ?_⟩
    have arguments_eq : specialization'.arguments = specialization.arguments := by
      simpa [Specialization.request] using congrArg (·.arguments) same
    rw [denotesAll_iff] at all ⊢
    rw [arguments_eq]
    exact Related.imp all fun tree mem type denotes => ih tree mem denotes
  | parameter owner name n =>
    obtain ⟨parameter, id, classLike, rfl, declared, rfl, named⟩ := denotes
    obtain ⟨later, declared', keeps⟩ := h.isDeclared declared
    exact ⟨parameter, id, later, rfl, declared', keeps.identifier,
      (h.parameterNamed? declared.1 name).trans named⟩

theorem denotesAll (h : before.Grows focus after) {types : List Ty} {trees : List TypeTree}
    (all : before.DenotesAll types trees) : after.DenotesAll types trees := by
  rw [denotesAll_iff] at all ⊢
  exact all.imp fun _ _ denotes => h.denotes denotes

theorem isInstance (h : before.Grows focus after) {id : ClassId} {tree : TypeTree}
    (isInstance : before.IsInstance id tree) : after.IsInstance id tree :=
  ⟨h.denotes isInstance.1, isInstance.2⟩

/-- The declared class-likes stay those of the scope. -/
theorem declares {scope : Scope} (h : before.Grows focus after)
    (declares : before.Declares scope) : after.Declares scope where
  types_nodup := h.types ▸ declares.types_nodup
  mem_types {id} := by
    rw [h.types, declares.mem_types]
    constructor
    · rintro ⟨_, declared⟩
      obtain ⟨later, declared, _⟩ := h.isDeclared declared
      exact ⟨later, declared⟩
    · rintro ⟨_, declared⟩
      obtain ⟨earlier, declared, _⟩ := h.isDeclared_back declared
      exact ⟨earlier, declared⟩
  identifier_inj declared declared' same := by
    obtain ⟨earlier, declared, keeps⟩ := h.isDeclared_back declared
    obtain ⟨earlier', declared', keeps'⟩ := h.isDeclared_back declared'
    rw [keeps.identifier, keeps'.identifier] at same
    exact declares.identifier_inj declared declared' same
  scope_iff {name shape} := by
    rw [declares.scope_iff]
    constructor
    · rintro ⟨id, classLike, declared, rfl, rfl⟩
      obtain ⟨later, declared, keeps⟩ := h.isDeclared declared
      exact ⟨id, later, declared, keeps.identifier, h.shapeOf keeps⟩
    · rintro ⟨id, later, declared, rfl, rfl⟩
      obtain ⟨classLike, declared, keeps⟩ := h.isDeclared_back declared
      exact ⟨id, classLike, declared, keeps.identifier.symm, (h.shapeOf keeps).symm⟩
  owned declared mem := by
    obtain ⟨earlier, declared, keeps⟩ := h.isDeclared_back declared
    rw [keeps.genericParameters] at mem
    obtain ⟨found, known, owner⟩ := declares.owned declared mem
    obtain ⟨later, known, _, owner', _⟩ := h.parameter known
    exact ⟨later, known, owner'.trans owner⟩
  genericParameters_nodup declared := by
    obtain ⟨earlier, declared, keeps⟩ := h.isDeclared_back declared
    rw [keeps.genericParameters]
    exact declares.genericParameters_nodup declared
  owner_mem known := by
    obtain ⟨earlier, known'⟩ := h.parameter_old known
    obtain ⟨later, known'', _, owner, _⟩ := h.parameter known'
    cases known.symm.trans known''
    obtain ⟨classLike, declared, mem⟩ := declares.owner_mem known'
    obtain ⟨later', declared, keeps⟩ := h.isDeclared declared
    exact ⟨later', owner ▸ declared, keeps.genericParameters ▸ mem⟩
  enum_parameters := declares.enum_parameters
  isName := declares.isName
  object := declares.object

end Grows

end Library

end ClassModel
