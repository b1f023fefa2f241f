import ClassModel.Proofs.Embedding
import ClassModel.Proofs.Invariant

/-!
# ClassModel.Proofs.Virtual

Which methods are virtual in the end. No method is marked before the last stage
(`isVirtual_eq_false`), and the last stage marks a method exactly if a method of
a declared class-like implements it, in the class-like itself or in an
instantiation of it (`isFlagged_of_compile`). A method that only instantiations
implement is not marked (`exists_missed`).
-/

namespace ClassModel

/-! ## Before the last stage -/

/-- Methods that are added are not marked. -/
theorem NamedClass.keeps_unmarked (scope : Scope) :
    scope.Keeps fun _ named => ∀ method ∈ named.methods, method.bare.isVirtual = false where
  parameters unmarked _ _ _ := unmarked
  superclass? unmarked _ _ _ := unmarked
  interfaces unmarked _ _ := unmarked
  attributes unmarked _ _ := unmarked
  methods unmarked method admitted := by
    intro other mem
    rcases List.mem_append.1 mem with mem | mem
    · exact unmarked other mem
    · rw [List.mem_singleton.1 mem]
      exact admitted.unmarked
  constants unmarked _ := unmarked
  layout unmarked _ := unmarked

theorem unmarked_contentOf {options : Options} {declarations : List Declaration}
    (object : scopeOf declarations Standard.objectIdentifier = some ⟨.class, []⟩)
    (names : List String) (name : String) :
    ∀ method ∈ (contentOf options declarations names name).methods,
      method.bare.isVirtual = false := by
  have keeps := NamedClass.keeps_unmarked (scopeOf declarations)
  refine keeps.contentOf object (keeps.resolveHeaders object (fun name => ?_) _) names name
  unfold Registration.contentOf
  split <;> simp [Registration.named]

namespace Library

theorem IsSubstitutedMethod.isInstance {library : Library} {substituted? : Ty → Option Ty}
    {base method : Method} (same : library.IsSubstitutedMethod substituted? base method) :
    method.isInstance = base.isInstance := by
  have isStatic : method.isStatic = base.isStatic := by rw [same.rest]
  have isConstructor : method.isConstructor = base.isConstructor := by
    have returned := same.returnType?
    rw [Method.isConstructor, Method.isConstructor]
    generalize base.returnType? = type?, method.returnType? = type?' at returned ⊢
    cases returned <;> rfl
  rw [Method.isInstance, Method.isInstance, isStatic, isConstructor]

section Compiled

variable {library : Library} {options : Options} {declarations : List Declaration}
  {names : List String} {diagnostics : List Diagnostic}
    (compiled : Compiled options declarations names library diagnostics)

include compiled

/-- The methods of a class-like belong to objects as those of its base do. -/
theorem map_isInstance_baseOf (id : ClassId) : (library.methodsOf id).map (·.isInstance)
    = (library.methodsOf (library.baseOf id)).map (·.isInstance) := by
  cases found : library.specialization? id with
  | none => rw [baseOf, found]
  | some specialization =>
    obtain ⟨_, _, methods⟩ := exists_substituted_methods compiled found
    exact Related.map_eq methods.flip fun _ _ _ same => same.isInstance

/-- Methods at the same position of class-likes of the same base belong both to
objects, or none of them does. -/
theorem isInstance_eq {id id' : ClassId} {index : Nat} {method method' : Method}
    (same : library.baseOf id = library.baseOf id')
    (own : (library.methodsOf id)[index]? = some method)
    (own' : (library.methodsOf id')[index]? = some method') :
    method.isInstance = method'.isInstance := by
  have first := congrArg (·[index]?) (map_isInstance_baseOf compiled id)
  have second := congrArg (·[index]?) (map_isInstance_baseOf compiled id')
  simp only [List.getElem?_map, own, own', same, Option.map_some] at first second
  exact Option.some.inj (first.trans second.symm)

/-- No method is marked before the last stage. -/
theorem isVirtual_eq_false {id : ClassId} {method : Method} (own : method ∈ library.methodsOf id) :
    method.isVirtual = false := by
  rw [methodsOf] at own
  split at own
  · next classLike known =>
    obtain ⟨name, _, named, _, spells, told⟩ := exists_spells compiled known
    have plain := @unmarked_contentOf options declarations compiled.coherent.object names name
    have unmarked : ∀ method ∈ named.methods, method.bare.isVirtual = false := by
      rcases told with rfl | ⟨arguments, rfl⟩
      · exact plain
      · simp only [NamedClass.substitute, Traced.value_bind, Traced.value_pure, Traced.value_mapM,
          List.forall_mem_map]
        exact plain
    obtain ⟨method', mem, spells⟩ := Related.exists_of_mem spells.methods.flip own
    rw [← unmarked method' mem, ← spells.bare]
    rfl
  · cases own

/-- The last stage marks the methods of an instantiation as those of its base. -/
theorem marks_eq {id : ClassId} {index : Nat} {method : Method}
    (own : (library.methodsOf id)[index]? = some method) :
    library.marks id index = library.implementedRefs.contains (library.baseOf id, index) := by
  cases found : library.specialization? id with
  | none => simp [marks, baseOf, found]
  | some specialization =>
    have base : library.baseOf id = specialization.base := by rw [baseOf, found]
    have plain := compiled.specialization?_base id specialization found
    have counterpart := congrArg (·[index]?) (map_isInstance_baseOf compiled id)
    simp only [List.getElem?_map, own, Option.map_some] at counterpart
    obtain ⟨baseMethod, baseOwn, _⟩ := Option.map_eq_some_iff.1 counterpart.symm
    have unmarked := isVirtual_eq_false compiled (List.mem_of_getElem? baseOwn)
    rw [base] at baseOwn ⊢
    -- Nothing was marked before, so the flags are told by what is marked now.
    have same := marks_eq_base compiled.specialization?_base found baseOwn
    rw [unmarked, Bool.false_or, Bool.false_or] at same
    rw [same]
    simp [marks, plain]

end Compiled

/-! ## Overridden methods -/

/-- A method of a declared class-like implements the method at the position, in
the class-like of the identifier or in an instantiation of it. -/
def IsOverridden (library : Library) (id : ClassId) (index : Nat) : Prop :=
  ∃ source ∈ library.types, ∃ supertype ∈ (library.lookupOrder source).drop 1,
    library.baseOf supertype = id ∧ ∃ method ∈ library.methodsOf source, ∃ candidate,
      (library.methodsOf supertype)[index]? = some candidate ∧ method.isInstance = true
        ∧ library.implements method candidate = true

/-- What the last stage marks in a base is implemented there, or in an
instantiation of it. -/
theorem mem_implementedRefs_iff {library : Library} {id : ClassId} {index : Nat}
    (base : library.baseOf id = id) : (id, index) ∈ library.implementedRefs
      ↔ ∃ source ∈ library.types, ∃ supertype ∈ (library.lookupOrder source).drop 1,
        library.baseOf supertype = id ∧ ∃ method ∈ library.methodsOf source, ∃ candidate,
          (library.methodsOf supertype)[index]? = some candidate ∧ method.isInstance = true
            ∧ candidate.isInstance = true ∧ library.implements method candidate = true := by
  simp only [implementedRefs, implementedBy, List.mem_flatMap, List.mem_filter, mem_implementedIn]
  constructor
  · rintro ⟨source, listed, method, ⟨own, isInstance⟩, supertype, above, candidate, _, found,
      isInstance', implements, same | same⟩
    -- A hit is written down for the class-like itself and for its base.
    · cases same
      exact ⟨source, listed, _, above, base, method, own, candidate, found, isInstance,
        isInstance', implements⟩
    · cases same
      exact ⟨source, listed, supertype, above, rfl, method, own, candidate, found, isInstance,
        isInstance', implements⟩
  · rintro ⟨source, listed, supertype, above, rfl, method, own, candidate, found, isInstance,
      isInstance', implements⟩
    exact ⟨source, listed, method, ⟨own, isInstance⟩, supertype, above, candidate, index, found,
      isInstance', implements, .inr rfl⟩

/-- Marks do not change what is overridden. -/
theorem Marked.isOverridden_iff {marks : ClassId → Nat → Bool} {before after : Library}
    (h : Marked marks before after) {id : ClassId} {index : Nat} :
    after.IsOverridden id index ↔ before.IsOverridden id index := by
  simp only [IsOverridden, h.types, h.lookupOrder, h.baseOf, h.methodsOf, List.mem_mapIdx,
    List.getElem?_mapIdx, Option.map_eq_some_iff]
  constructor
  · rintro ⟨source, listed, supertype, above, base, _, ⟨i, inside, rfl⟩, _, ⟨candidate, found, rfl⟩,
      isInstance, implements⟩
    rw [h.implements_mark] at implements
    exact ⟨source, listed, supertype, above, base, _, List.getElem_mem inside, candidate, found,
      isInstance, implements⟩
  · rintro ⟨source, listed, supertype, above, base, method, own, candidate, found, isInstance,
      implements⟩
    obtain ⟨i, inside, rfl⟩ := List.getElem_of_mem own
    refine ⟨source, listed, supertype, above, base, _, ⟨i, inside, rfl⟩, _, ⟨candidate, found, rfl⟩,
      isInstance, ?_⟩
    rwa [h.implements_mark]

/-- The virtual methods are those that declared class-likes override. -/
structure IsFlagged (library : Library) : Prop where
  /-- A method of a declared class-like is virtual exactly if it belongs to
  objects and is overridden. -/
  isVirtual_iff {id : ClassId} {index : Nat} {method : Method} : id ∈ library.types →
    (library.methodsOf id)[index]? = some method →
      (method.isVirtual = true ↔ method.isInstance = true ∧ library.IsOverridden id index)
  /-- A method of an instantiation is virtual exactly if that of its base is. -/
  map_isVirtual (id : ClassId) : (library.methodsOf id).map (·.isVirtual)
    = (library.methodsOf (library.baseOf id)).map (·.isVirtual)

section Flagged

variable {before after : Library} {options : Options} {declarations : List Declaration}
  {names : List String} {diagnostics : List Diagnostic}
  (compiled : Compiled options declarations names before diagnostics)
  (marked : Marked before.marks before after)

include compiled marked

/-- The marks of a class-like are those that its base gets. -/
theorem map_isVirtual (id : ClassId) : (after.methodsOf id).map (·.isVirtual)
    = (List.range (before.methodsOf id).length).map fun index =>
        before.implementedRefs.contains (before.baseOf id, index) := by
  refine List.ext_getElem? fun index => ?_
  rw [marked.methodsOf, List.getElem?_map, List.getElem?_mapIdx, List.getElem?_map]
  cases own : (before.methodsOf id)[index]? with
  | none =>
    have outside := List.getElem?_eq_none_iff.1 own
    simp [outside]
  | some method =>
    obtain ⟨inside, _⟩ := List.getElem?_eq_some_iff.1 own
    have unmarked := isVirtual_eq_false compiled (List.mem_of_getElem? own)
    simp [inside, Method.mark, unmarked, marks_eq compiled own]

/-- A method is marked exactly if it is overridden in its base. -/
theorem isVirtual_iff {id : ClassId} {index : Nat} {method : Method}
    (own : (after.methodsOf id)[index]? = some method) : method.isVirtual = true
      ↔ method.isInstance = true ∧ after.IsOverridden (after.baseOf id) index := by
  have flags := congrArg (·[index]?) (map_isVirtual compiled marked id)
  rw [marked.methodsOf, List.getElem?_mapIdx, Option.map_eq_some_iff] at own
  obtain ⟨unmarked, own, rfl⟩ := own
  obtain ⟨inside, _⟩ := List.getElem?_eq_some_iff.1 own
  simp only [marked.methodsOf, List.getElem?_map, List.getElem?_mapIdx, own, Option.map_some,
    List.getElem?_range inside, Option.some.injEq] at flags
  rw [flags, List.contains_iff_mem, mem_implementedRefs_iff (baseOf_baseOf compiled id),
    marked.isOverridden_iff, marked.baseOf]
  constructor
  · rintro ⟨source, listed, supertype, above, base, method, own', candidate, found, isInstance,
      isInstance', implements⟩
    refine ⟨?_, source, listed, supertype, above, base, method, own', candidate, found, isInstance,
      implements⟩
    -- The candidate may belong to an instantiation of the class-like.
    exact (isInstance_eq compiled base.symm own found).trans isInstance'
  · rintro ⟨isInstance', source, listed, supertype, above, base, method, own', candidate, found,
      isInstance, implements⟩
    refine ⟨source, listed, supertype, above, base, method, own', candidate, found, isInstance, ?_,
      implements⟩
    exact (isInstance_eq compiled base found own).trans isInstance'

theorem baseOf_of_mem_types {id : ClassId} (declared : id ∈ after.types) :
    after.baseOf id = id := by
  obtain ⟨_, isDeclared⟩ := (marked.revises.coherent compiled.coherent).mem_types.1 declared
  exact baseOf_of_isDeclared isDeclared

theorem isFlagged : after.IsFlagged where
  isVirtual_iff {id _ _} declared own := by
    rw [isVirtual_iff compiled marked own, baseOf_of_mem_types compiled marked declared]
  map_isVirtual id := by
    have length := congrArg List.length (map_isInstance_baseOf compiled id)
    rw [List.length_map, List.length_map] at length
    rw [map_isVirtual compiled marked, map_isVirtual compiled marked, marked.baseOf,
      baseOf_baseOf compiled, length]

end Flagged

end Library

/-- In every library that a compilation returns, the virtual methods are those
that declared class-likes override, and those of instantiations are the same as
those of their bases. -/
theorem isFlagged_of_compile {declarations : List Declaration} {options : Options} {budget : Nat}
    {library : Library} (returned : (compile declarations options budget).result = .ok library) :
    library.IsFlagged := by
  obtain ⟨names, before, compiled, marked⟩ := exists_compiled returned
  exact Library.isFlagged compiled marked

theorem isFlagged_crates : ∃ library method,
    (compile Declaration.crates {} 1).result = .ok library ∧ ⟨9⟩ ∈ library.types
      ∧ (library.methodsOf ⟨9⟩)[0]? = some method ∧ method.isVirtual = true
      ∧ method.isInstance = true ∧ library.IsOverridden ⟨9⟩ 0 := by
  obtain ⟨library, returned, hasCrates⟩ := exists_hasCrates
  obtain ⟨method, own, isVirtual⟩ := Option.map_eq_some_iff.1 hasCrates.flagged
  have declared : ⟨9⟩ ∈ library.types := by
    refine List.mem_of_mem_drop (i := 8) ?_
    rw [hasCrates.types]
    simp
  exact ⟨library, method, returned, declared, own, isVirtual,
    ((isFlagged_of_compile returned).isVirtual_iff declared own).1 isVirtual⟩

/-- In every library that a compilation returns, a method of a supertype is
virtual if a method that a declared class-like has implements it. -/
theorem isVirtual_of_implements {declarations : List Declaration} {options : Options}
    {budget : Nat} {library : Library}
    (returned : (compile declarations options budget).result = .ok library)
    {source supertype : ClassId} {method candidate : Method} (declared : source ∈ library.types)
    (above : supertype ∈ (library.lookupOrder source).drop 1)
    (own : method ∈ library.methodsOf source) (own' : candidate ∈ library.methodsOf supertype)
    (isInstance : method.isInstance = true) (isInstance' : candidate.isInstance = true)
    (implements : library.implements method candidate = true) : candidate.isVirtual = true := by
  obtain ⟨names, before, compiled, marked⟩ := exists_compiled returned
  obtain ⟨index, found⟩ := List.getElem?_of_mem own'
  exact (Library.isVirtual_iff compiled marked found).2 ⟨isInstance', source, declared, supertype,
    above, rfl, method, own, candidate, found, isInstance, implements⟩

theorem isVirtual_crates : ∃ library method candidate,
    (compile Declaration.crates {} 1).result = .ok library ∧ ⟨10⟩ ∈ library.types
      ∧ ⟨11⟩ ∈ (library.lookupOrder ⟨10⟩).drop 1 ∧ method ∈ library.methodsOf ⟨10⟩
      ∧ candidate ∈ library.methodsOf ⟨11⟩ ∧ method.isInstance = true
      ∧ candidate.isInstance = true ∧ library.implements method candidate = true
      ∧ candidate.isVirtual = true := by
  obtain ⟨library, returned, hasCrates⟩ := exists_hasCrates
  obtain ⟨method, own, candidate, own', isInstance, isInstance', implements, _⟩ := hasCrates.boxed
  have declared : ⟨10⟩ ∈ library.types := by
    refine List.mem_of_mem_drop (i := 8) ?_
    rw [hasCrates.types]
    simp
  exact ⟨library, method, candidate, returned, declared, hasCrates.sees.2, own, own', isInstance,
    isInstance', implements, isVirtual_of_implements returned declared hasCrates.sees.2 own own'
      isInstance isInstance' implements⟩

/-- A method that only an instantiation implements is missed: the marks are
those of declared class-likes, and the generic class implements the method for
one argument only. -/
theorem exists_missed : ∃ library method candidate,
    (compile Declaration.crates {} 1).result = .ok library
      ∧ ⟨8⟩ ∈ (library.lookupOrder ⟨11⟩).drop 1 ∧ method ∈ library.methodsOf ⟨11⟩
      ∧ candidate ∈ library.methodsOf ⟨8⟩ ∧ method.isInstance = true
      ∧ candidate.isInstance = true ∧ library.implements method candidate = true
      ∧ candidate.isVirtual = false := by
  obtain ⟨library, returned, hasCrates⟩ := exists_hasCrates
  obtain ⟨method, own, candidate, own', missed⟩ := hasCrates.missed
  exact ⟨library, method, candidate, returned, hasCrates.sees.1, own, own', missed⟩

end ClassModel
