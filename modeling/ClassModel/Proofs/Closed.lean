import ClassModel.Proofs.Substituted

/-!
# ClassModel.Proofs.Closed

How a compilation may end (`isClosed_of_compile`). Only strict mode refuses a
library, and in a library that is returned every identifier refers to
something in it. The class-likes that an instantiation is made of were created
before it, so types are well founded.
-/

namespace ClassModel

/-- The types of a method. -/
def Method.types (method : Method) : List Ty :=
  method.returnType?.toList ++ method.formals.map (·.type)

/-- The types of the supertypes and members of a class-like. -/
def ClassLike.types (classLike : ClassLike) : List Ty :=
  classLike.kind.supertypes.map .classLike ++ classLike.methods.flatMap Method.types
    ++ classLike.attributes.map (·.type)

/-- The types that bound a generic parameter. -/
def GenericParameter.bounds (parameter : GenericParameter) : List Ty :=
  parameter.upperBounds ++ parameter.lowerBound?.toList

/-- What an instantiation is made of: its base and its arguments. -/
def Specialization.parts (specialization : Specialization) : List Ty :=
  .classLike specialization.base :: specialization.arguments

namespace Library

/-- The class-like is the other one, or occurs in it at any depth. -/
inductive Within (library : Library) (inner : ClassId) : ClassId → Prop where
  | itself : Within library inner inner
  | part {id part : ClassId} {specialization : Specialization} {type : Ty} :
    library.specialization? id = some specialization → type ∈ specialization.parts →
      type.innermost = .classLike part → Within library inner part → Within library inner id

/-- Every identifier in the library refers to something in it. -/
structure IsClosed (library : Library) : Prop where
  types_nodup : library.types.Nodup
  mem_types {id : ClassId} : id ∈ library.types ↔ ∃ classLike, library.IsDeclared id classLike
  byIdentifier? {id : ClassId} {classLike : ClassLike} : library.IsDeclared id classLike →
    library.byIdentifier? classLike.identifier = some id
  type {id : ClassId} {classLike : ClassLike} {type : Ty} :
    library.classLike? id = some classLike → type ∈ classLike.types → library.Knows type
  genericParameter {id : ClassId} {classLike : ClassLike} {parameter : ParameterId} :
    library.classLike? id = some classLike → parameter ∈ classLike.genericParameters →
      ∃ found, library.parameter? parameter = some found ∧ found.owner = id
  owner {parameter : ParameterId} {found : GenericParameter} :
    library.parameter? parameter = some found → (library.classLike? found.owner).isSome
  bound {parameter : ParameterId} {found : GenericParameter} {type : Ty} :
    library.parameter? parameter = some found → type ∈ found.bounds → library.Knows type
  cached {entry : CacheEntry} :
    entry ∈ library.cacheEntries → (library.classLike? entry.id).isSome
  base {id : ClassId} {specialization : Specialization} :
    library.specialization? id = some specialization →
      ∃ base, library.IsDeclared specialization.base base
  argument {id : ClassId} {specialization : Specialization} {type : Ty} :
    library.specialization? id = some specialization → type ∈ specialization.arguments →
      library.Knows type
  /-- An instantiation is created after all class-likes in its arguments. -/
  older {id inner argument : ClassId} {specialization : Specialization} {type : Ty} :
    library.specialization? id = some specialization → type ∈ specialization.arguments →
      type.innermost = .classLike argument → library.Within inner argument →
        inner.index < id.index

variable {library before after : Library} {scope : Scope} {options : Options} {context : String}

/-! ## Types -/

theorem SpellsMethod.types {method : Method} {named : NamedMethod}
    (spells : library.SpellsMethod scope options context method named) :
    List.Forall₂ (library.Means scope options context) method.types named.types := by
  refine List.rel_append (Related.toList spells.returnType?) ?_
  rw [List.forall₂_map_left_iff, List.forall₂_map_right_iff]
  exact spells.formals.imp fun _ _ spells => spells.type

/-- The types of a class-like mean those of the named one that it spells. -/
theorem SpellsClass.types {id : ClassId} {classLike : ClassLike} {named : NamedClass}
    (spells : library.SpellsClass scope options context id classLike named) :
    List.Forall₂ (library.Means scope options context) classLike.types named.types := by
  refine List.rel_append (List.rel_append ?_ ?_) ?_
  · rw [List.forall₂_map_left_iff]
    exact spells.supertypes
  · exact List.rel_flatMap spells.methods fun _ _ spells => spells.types
  · rw [List.forall₂_map_left_iff, List.forall₂_map_right_iff]
    exact spells.attributes.imp fun _ _ spells => spells.type

theorem SpellsParameter.bounds {found : GenericParameter} {named : NamedParameter}
    (spells : library.SpellsParameter scope options context found named) :
    List.Forall₂ (library.Means scope options context) found.bounds
      (named.upperBounds ++ named.lowerBound?.toList) :=
  List.rel_append spells.upperBounds (Related.toList spells.lowerBound?)

/-- Types that mean something refer to something. -/
theorem knows_of_means {types : List Ty} {trees : List TypeTree}
    (means : List.Forall₂ (library.Means scope options context) types trees) {type : Ty}
    (mem : type ∈ types) : library.Knows type := by
  obtain ⟨tree, _, means⟩ := Related.exists_of_mem means.flip mem
  exact means.denotes.knows

/-- Marks on methods leave the types as they are. -/
theorem types_mark (classLike : ClassLike) (marks : Nat → Bool) :
    (classLike.mark marks).types = classLike.types := by
  rw [ClassLike.types, ClassLike.types, List.flatMap_def, List.flatMap_def,
    classLike.map_methods_mark fun _ _ => rfl]
  rfl

/-! ## Libraries -/

namespace Coherent

/-- Each part of an instantiation was created before it. -/
theorem index_lt (coherent : library.Coherent scope options) {id part : ClassId}
    {specialization : Specialization} {type : Ty}
    (found : library.specialization? id = some specialization) (mem : type ∈ specialization.parts)
    (isPart : type.innermost = .classLike part) : part.index < id.index := by
  obtain ⟨classLike, known, specialized⟩ := specialization?_eq_some found
  have normal : type.IsNormal := by
    rcases List.mem_cons.1 mem with rfl | mem
    · trivial
    · exact (coherent.exists_denotes_argument found mem).elim fun _ => Denotes.isNormal
  obtain ⟨dimension, same⟩ := normal.exists_eq_array
  rw [same, isPart] at mem
  exact coherent.older known specialized mem

theorem index_le (coherent : library.Coherent scope options) {inner id : ClassId}
    (within : library.Within inner id) : inner.index ≤ id.index := by
  induction within with
  | itself => exact Nat.le_refl _
  | part found mem isPart _ ih =>
    exact Nat.le_trans ih (Nat.le_of_lt (coherent.index_lt found mem isPart))

/-- A library is closed if its class-likes and its generic parameters refer to
what is there. -/
theorem isClosed (coherent : library.Coherent scope options)
    (type : ∀ id classLike, library.classLike? id = some classLike → ∀ type ∈ classLike.types,
      library.Knows type)
    (bound : ∀ parameter found, library.parameter? parameter = some found →
      ∀ type ∈ found.bounds, library.Knows type) : library.IsClosed where
  types_nodup := coherent.types_nodup
  mem_types := coherent.mem_types
  byIdentifier? := coherent.byIdentifier?_identifier
  type known mem := type _ _ known _ mem
  genericParameter {id classLike parameter} known mem := by
    cases specialized : classLike.specialization? with
    | none => exact coherent.owned ⟨known, specialized⟩ mem
    | some specialization =>
      obtain ⟨_, _, instantiates⟩ := coherent.instantiates known specialized
      simp [instantiates.genericParameters] at mem
  owner known := by
    obtain ⟨classLike, declared, _⟩ := coherent.owner_mem known
    rw [declared.1, Option.isSome_some]
  bound known mem := bound _ _ known _ mem
  cached mem := by
    obtain ⟨_, isInstance, _⟩ := coherent.mem_cacheEntries.1 mem
    exact isInstance.1.knows
  base found := by
    obtain ⟨classLike, known, specialized⟩ := specialization?_eq_some found
    obtain ⟨base, _, instantiates⟩ := coherent.instantiates known specialized
    exact ⟨base, instantiates.declared⟩
  argument found mem :=
    (coherent.exists_denotes_argument found mem).elim fun _ => Denotes.knows
  older found mem isArgument within :=
    Nat.lt_of_le_of_lt (coherent.index_le within)
      (coherent.index_lt found (List.mem_cons_of_mem _ mem) isArgument)

end Coherent

theorem Marked.knows {marks : ClassId → Nat → Bool} (h : Marked marks before after) {type : Ty}
    (knows : before.Knows type) : after.Knows type := by
  induction type with
  | primitive primitive => trivial
  | classLike id => simpa [Knows, h.classLike?] using knows
  | parameter id => simpa [Knows, parameter?, h.parameters] using knows
  | arrayOf item dimension ih => exact ih knows

end Library

section Compiled

variable {options : Options} {declarations : List Declaration} {names : List String}
  {library : Library} {diagnostics : List Diagnostic}

/-- Every class-like of a compiled library spells a named one. -/
theorem Compiled.exists_spells (compiled : Compiled options declarations names library diagnostics)
    {id : ClassId} {classLike : ClassLike} (known : library.classLike? id = some classLike) :
    ∃ context named,
      library.SpellsClass (scopeOf declarations) options context id classLike named := by
  cases specialized : classLike.specialization? with
  | none =>
    obtain ⟨classLike', known', spells⟩ :=
      compiled.realizes id _ ⟨classLike, ⟨known, specialized⟩, rfl⟩
    cases known.symm.trans known'
    exact ⟨_, _, spells⟩
  | some specialization =>
    obtain ⟨base, arguments, instantiates⟩ := compiled.coherent.instantiates known specialized
    have isInstance := instantiates.isInstance known specialized
    obtain ⟨context, _, _, _, classLike', known', spells⟩ :=
      ((compiled.complete isInstance).filledIn isInstance).spells
    cases known.symm.trans known'
    exact ⟨_, _, spells⟩

theorem Compiled.exists_spellsParameter
    (compiled : Compiled options declarations names library diagnostics) {parameter : ParameterId}
    {found : GenericParameter} (known : library.parameter? parameter = some found) :
    ∃ context named,
      library.SpellsParameter (scopeOf declarations) options context found named := by
  obtain ⟨classLike, declared, mem⟩ := compiled.coherent.owner_mem known
  obtain ⟨context, named, spells⟩ := compiled.exists_spells declared.1
  obtain ⟨named, _, found', known', _, spells⟩ := Related.exists_of_mem spells.parameters.flip mem
  cases known.symm.trans known'
  exact ⟨_, _, spells⟩

end Compiled

/-- A compilation that comes to its end returns a library in which every
identifier refers to something, unless strict mode refuses the library. -/
theorem isClosed_of_compile (declarations : List Declaration) (options : Options) (budget : Nat) :
    match (compile declarations options budget).result with
    | .ok library => library.IsClosed
    | .error (.aborted _) => options.strict = true
    | .error .budgetExhausted => True
    | .error (.missingGenericContext _) | .error (.invalidClassLike _) => False := by
  have cases := compile_cases declarations options budget
  revert cases
  generalize compile declarations options budget = outcome
  rintro ⟨names, before, diagnostics, ⟨compiled, _, rfl⟩ | ⟨_, rfl⟩⟩
  · unfold Outcome.ofCompiled
    dsimp only
    by_cases refused : (options.strict
      && errorCount before.flagVirtual diagnostics > 0) = true
    · rw [if_pos refused]
      exact (Bool.and_eq_true_iff.1 refused).1
    · rw [if_neg refused]
      have marked := Library.marked_flagVirtual compiled.specialization?_base
      refine (marked.revises.coherent compiled.coherent).isClosed ?_ ?_
      · intro id classLike known type mem
        rw [marked.classLike?, Option.map_eq_some_iff] at known
        obtain ⟨classLike, known, rfl⟩ := known
        obtain ⟨context, named, spells⟩ := compiled.exists_spells known
        rw [Library.types_mark] at mem
        exact marked.knows (Library.knows_of_means spells.types mem)
      · intro parameter found known type mem
        rw [Library.parameter?, marked.parameters] at known
        obtain ⟨context, named, spells⟩ := compiled.exists_spellsParameter known
        exact marked.knows (Library.knows_of_means spells.bounds mem)
  · exact True.intro

end ClassModel
