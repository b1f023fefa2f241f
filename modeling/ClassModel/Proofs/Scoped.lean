import ClassModel.Proofs.Further

/-!
# ClassModel.Proofs.Scoped

Generic parameters stay in scope (`isScoped_of_compile`). In the signatures of
a declared class-like stand its own generic parameters only, and in those of an
instantiation the ones that its arguments mention. Both come from the trees
that the types spell: resolving a type finds generic parameters of the context
only, and substituting brings in those of the arguments only.
-/

namespace ClassModel

namespace Library

/-- The generic parameter belongs to the class-like. -/
def Owns (library : Library) (id : ClassId) (parameter : ParameterId) : Prop :=
  ∃ found, library.parameter? parameter = some found ∧ found.owner = id

/-- Generic parameters occur only where they are in scope. -/
structure IsScoped (library : Library) : Prop where
  /-- The supertypes and members of a declared class-like mention its own
  generic parameters. -/
  declared {id : ClassId} {classLike : ClassLike} {type : Ty} {parameter : ParameterId} :
    library.IsDeclared id classLike → type ∈ classLike.types →
      library.Mentions parameter type → library.Owns id parameter
  /-- So do the bounds of its generic parameters. -/
  bound {id : ClassId} {classLike : ClassLike} {bounded parameter : ParameterId}
    {found : GenericParameter} {type : Ty} : library.IsDeclared id classLike →
      bounded ∈ classLike.genericParameters → library.parameter? bounded = some found →
        type ∈ found.bounds → library.Mentions parameter type → library.Owns id parameter
  /-- The supertypes and members of an instantiation mention what its arguments
  mention. -/
  instantiation {id : ClassId} {classLike : ClassLike} {specialization : Specialization}
    {type : Ty} {parameter : ParameterId} : library.classLike? id = some classLike →
      classLike.specialization? = some specialization → type ∈ classLike.types →
        library.Mentions parameter type → library.MentionsIn parameter specialization
  closed {id : ClassId} {classLike : ClassLike} {specialization : Specialization} {type : Ty} :
    library.classLike? id = some classLike → classLike.specialization? = some specialization →
      (∀ parameter, ¬ library.MentionsIn parameter specialization) → type ∈ classLike.types →
        ∀ parameter, ¬ library.Mentions parameter type
  /-- The test for open types finds out whether anything is mentioned. -/
  isOpen_iff {type : Ty} : library.Knows type →
    (library.isOpen type = true ↔ ∃ parameter, library.Mentions parameter type)

variable {library before after : Library} {scope : Scope} {options : Options} {context : String}
  {parameter : ParameterId} {type : Ty}

/-! ## Mentioned parameters -/

/-- What is mentioned depends on the instantiations only. -/
theorem Mentions.of_specialization?_eq
    (same : ∀ id, after.specialization? id = before.specialization? id)
    (mentions : before.Mentions parameter type) : after.Mentions parameter type := by
  induction mentions with
  | itself => exact .itself
  | argument found mem _ ih => exact .argument ((same _).trans found) mem ih
  | item dimension _ ih => exact .item dimension ih

namespace Coherent

variable (coherent : library.Coherent scope options)
include coherent

/-- A type that stands in the signatures of a class-like mentions the generic
parameters of the class-like only. -/
theorem owns_of_mentions {id : ClassId} {tree : TypeTree} (isNamed : library.IsNamed id context)
    (means : library.Means scope options context type tree)
    (mentions : library.Mentions parameter type) : library.Owns id parameter := by
  obtain ⟨owner, mem, found, classLike, known, declared, rfl⟩ :=
    coherent.exists_owner mentions means.denotes
  obtain same := means.wellFormed.eq_of_mem_owners mem
  exact ⟨found, known, coherent.isNamed_inj ⟨classLike, declared, same⟩ isNamed⟩

theorem isOpen_iff (knows : library.Knows type) :
    library.isOpen type = true ↔ ∃ parameter, library.Mentions parameter type := by
  have ofTree {type : Ty} (tree : TypeTree) (denotes : library.Denotes type tree) :
      library.isOpen type = true ↔ ∃ parameter, library.Mentions parameter type := by
    rw [coherent.isOpen_eq denotes, Bool.not_eq_true', List.isEmpty_eq_false_iff_exists_mem]
    constructor
    · rintro ⟨owner, mem⟩
      exact exists_mentions denotes mem
    · rintro ⟨parameter, mentions⟩
      obtain ⟨owner, mem, _⟩ := coherent.exists_owner mentions denotes
      exact ⟨owner, mem⟩
  induction type with
  | primitive primitive => exact ofTree (.primitive primitive 0) rfl
  | classLike id =>
    obtain ⟨classLike, known⟩ := Option.isSome_iff_exists.1 knows
    cases specialized : classLike.specialization? with
    | none =>
      exact ofTree (.declared classLike.identifier 0)
        ⟨id, classLike, rfl, ⟨known, specialized⟩, rfl⟩
    | some specialization =>
      obtain ⟨_, trees, instantiates⟩ := coherent.instantiates known specialized
      exact ofTree (.applied classLike.identifier trees 0)
        ⟨id, classLike, specialization, rfl, known, rfl, specialized, instantiates.denotes⟩
  | parameter id =>
    -- of two generic parameters of one name only the first has a tree
    refine ⟨fun _ => ⟨id, .itself⟩, fun _ => ?_⟩
    simp [isOpen, firstParameter?, depthOf, parameterWithin?, parameterFrom?]
  | arrayOf item dimension ih =>
    have ofItem : library.isOpen (.arrayOf item dimension) = library.isOpen item := by
      rw [isOpen, isOpen, firstParameter?, firstParameter?, depthOf]
      cases library.depthOf item <;> rfl
    rw [ofItem]
    refine (ih knows).trans (exists_congr fun parameter => ⟨.item dimension, fun mentions => ?_⟩)
    cases mentions with
    | item _ mentions => exact mentions

end Coherent

/-! ## Marks -/

theorem Marked.isScoped {marks : ClassId → Nat → Bool} (marked : Marked marks before after)
    (coherent : after.Coherent scope options) (isScoped : before.IsScoped) : after.IsScoped := by
  have back {parameter : ParameterId} {type : Ty} :
      after.Mentions parameter type → before.Mentions parameter type :=
    Mentions.of_specialization?_eq fun id => (marked.specialization? id).symm
  have forth {parameter : ParameterId} {specialization : Specialization} :
      before.MentionsIn parameter specialization → after.MentionsIn parameter specialization :=
    fun ⟨argument, mem, mentions⟩ =>
      ⟨argument, mem, mentions.of_specialization?_eq marked.specialization?⟩
  have owns {id : ClassId} {parameter : ParameterId} :
      before.Owns id parameter → after.Owns id parameter := by
    rw [Owns, Owns, parameter?, parameter?, marked.parameters]
    exact fun owns => owns
  have unmarked {id : ClassId} {classLike : ClassLike}
      (known : after.classLike? id = some classLike) :
      ∃ former, before.classLike? id = some former ∧ former.types = classLike.types
        ∧ former.specialization? = classLike.specialization?
        ∧ former.genericParameters = classLike.genericParameters := by
    rw [marked.classLike?, Option.map_eq_some_iff] at known
    obtain ⟨former, known, rfl⟩ := known
    exact ⟨former, known, (types_mark _ _).symm, rfl, rfl⟩
  have instantiation {id : ClassId} {classLike : ClassLike} {specialization : Specialization}
      {type : Ty} {parameter : ParameterId} (known : after.classLike? id = some classLike)
      (specialized : classLike.specialization? = some specialization)
      (mem : type ∈ classLike.types) (mentions : after.Mentions parameter type) :
      after.MentionsIn parameter specialization := by
    obtain ⟨former, known, types, same, _⟩ := unmarked known
    exact forth (isScoped.instantiation known (same.trans specialized) (types ▸ mem)
      (back mentions))
  exact {
    declared := fun declared mem mentions => by
      obtain ⟨former, known, types, same, _⟩ := unmarked declared.1
      exact owns (isScoped.declared ⟨known, same.trans declared.2⟩ (types ▸ mem) (back mentions))
    bound := fun declared bounded known mem mentions => by
      obtain ⟨former, known', _, same, parameters⟩ := unmarked declared.1
      rw [parameter?, marked.parameters] at known
      exact owns (isScoped.bound ⟨known', same.trans declared.2⟩ (parameters ▸ bounded) known mem
        (back mentions))
    instantiation := instantiation
    closed := fun known specialized closed mem _ mentions =>
      closed _ (instantiation known specialized mem mentions)
    isOpen_iff := coherent.isOpen_iff }

end Library

/-! ## Compiled libraries -/

section Compiled

variable {options : Options} {declarations : List Declaration} {names : List String}
  {library : Library} {diagnostics : List Diagnostic}

namespace Compiled

variable (compiled : Compiled options declarations names library diagnostics) {id : ClassId}
  {classLike : ClassLike} {type : Ty} {parameter : ParameterId}
include compiled

/-- A declared class-like mentions its own generic parameters only. -/
theorem owns (declared : library.IsDeclared id classLike) (mem : type ∈ classLike.types)
    (mentions : library.Mentions parameter type) : library.Owns id parameter := by
  have isNamed : library.IsNamed id classLike.identifier := ⟨classLike, declared, rfl⟩
  obtain ⟨_, known, spells⟩ := compiled.realizes id _ isNamed
  cases declared.1.symm.trans known
  obtain ⟨tree, _, means⟩ := Related.exists_of_mem spells.types.flip mem
  exact compiled.coherent.owns_of_mentions isNamed means mentions

/-- The bounds of a generic parameter mention those of its owner only. -/
theorem owns_of_bound {bounded : ParameterId} {found : GenericParameter}
    (declared : library.IsDeclared id classLike) (mem : bounded ∈ classLike.genericParameters)
    (known : library.parameter? bounded = some found) (mem' : type ∈ found.bounds)
    (mentions : library.Mentions parameter type) : library.Owns id parameter := by
  have isNamed : library.IsNamed id classLike.identifier := ⟨classLike, declared, rfl⟩
  obtain ⟨_, known', spells⟩ := compiled.realizes id _ isNamed
  cases declared.1.symm.trans known'
  obtain ⟨_, _, _, found', _, spells⟩ := Related.exists_of_mem spells.parameters.flip mem
  cases known.symm.trans found'
  obtain ⟨tree, _, means⟩ := Related.exists_of_mem spells.bounds.flip mem'
  exact compiled.coherent.owns_of_mentions isNamed means mentions

/-- An instantiation mentions what its arguments mention. -/
theorem mentionsIn {specialization : Specialization}
    (known : library.classLike? id = some classLike)
    (specialized : classLike.specialization? = some specialization) (mem : type ∈ classLike.types)
    (mentions : library.Mentions parameter type) :
    library.MentionsIn parameter specialization := by
  have coherent := compiled.coherent
  obtain ⟨base, trees, instantiates⟩ := coherent.instantiates known specialized
  have isInstance := instantiates.isInstance known specialized
  obtain ⟨context, _, _, wf, _, known', spells⟩ :=
    ((compiled.complete isInstance).filledIn isInstance).spells
  cases known.symm.trans known'
  obtain ⟨tree, listed, means⟩ := Related.exists_of_mem spells.types.flip mem
  -- the type is one of the base, with the arguments in place of its parameters
  rw [Scope.instanceOf, NamedClass.types_substitute] at listed
  obtain ⟨pattern, written, rfl⟩ := List.mem_map.1 listed
  have wf' := compiled.wellFormed_types
    (Option.isSome_iff_exists.2 ⟨_, coherent.scope_identifier instantiates.declared⟩) written
  have own : (TypeTree.applied base.identifier trees 0).Over fun owner name =>
      (owner, name) ∈ (TypeTree.applied base.identifier trees 0).parameters := fun _ mem => mem
  have bounded := (TypeTree.over_substitute wf' fun _ =>
    Scope.exists_argument wf (TypeTree.over_applied.1 own)).1
  obtain ⟨entry, mem, refers⟩ := (coherent.mentions_iff means.denotes).1 mentions
  have found : library.specialization? id = some specialization := by
    rw [Library.specialization?, known, Option.bind_some, specialized]
  exact (Library.mentionsIn_iff found).2
    ((coherent.mentions_iff isInstance.1).2 ⟨entry, bounded entry mem, refers⟩)

theorem isScoped : library.IsScoped where
  declared := compiled.owns
  bound := compiled.owns_of_bound
  instantiation := compiled.mentionsIn
  closed known specialized closed mem _ mentions :=
    closed _ (compiled.mentionsIn known specialized mem mentions)
  isOpen_iff := compiled.coherent.isOpen_iff

end Compiled

end Compiled

/-- Generic parameters stay in scope in every library that a compilation
returns. -/
theorem isScoped_of_compile {declarations : List Declaration} {options : Options} {budget : Nat}
    {library : Library} (returned : (compile declarations options budget).result = .ok library) :
    library.IsScoped := by
  obtain ⟨names, before, compiled, marked⟩ := exists_compiled returned
  exact marked.isScoped (marked.revises.coherent compiled.coherent) compiled.isScoped

theorem isScoped_sample : ∃ library,
    (compile Declaration.sample {} 6).result = .ok library ∧ library.IsScoped := by
  obtain ⟨library, returned, _⟩ := exists_isSample
  exact ⟨library, returned, isScoped_of_compile returned⟩

end ClassModel
