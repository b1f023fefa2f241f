import ClassModel.Proofs.Erasure

/-!
# ClassModel.Proofs.Visible

What a class-like sees. In any library, the lookup order lists the superclasses,
then the rest of what is above the class-like, and each of them once
(`Library.ListsVisible`). The root class is listed even where nothing leads to
it, but what is above it is not (`exists_not_lookupOrder_subset`). Since nothing is
above the root class of a compiled library (`Library.hasTop`), what is seen there
sees nothing else (`lookupOrder_listsVisible`).
-/

namespace ClassModel

namespace Library

/-- Nothing is above the root class. -/
def HasTop (library : Library) : Prop :=
  ∀ object, library.objectId? = some object → library.directSupertypes object = []

/-- The lookup order by walks with another bound. -/
def lookupOrderWithin (library : Library) (bound : Nat) (id : ClassId) : List ClassId :=
  let chain := Walk.along library.superclass? bound [] (some id)
  let order := Walk.breadthFirst library.directSupertypes bound chain
    (chain.flatMap library.besidesSuperclass)
  match library.objectId? with
  | some object => if order.contains object then order else order ++ [object]
  | none => order

/-- The lookup order lists what a class-like sees. -/
structure ListsVisible (library : Library) (id : ClassId) : Prop where
  /-- The walks end by themselves: no higher bound makes them list more. -/
  ends : ∀ bound ≥ library.walkBound, library.lookupOrderWithin bound id = library.lookupOrder id
  nodup : (library.lookupOrder id).Nodup
  head? : (library.lookupOrder id).head? = some id
  superclasses_prefix : library.superclassChain id <+: library.lookupOrder id
  /-- The superclasses are listed up to the last one, or the first repetition. -/
  superclasses : ∃ stop?,
    Walk.Segment library.superclass? stop? (some id) (library.superclassChain id)
      ∧ (library.superclassChain id).Nodup ∧ ∀ node ∈ stop?, node ∈ library.superclassChain id
  mem_iff : ∀ node, node ∈ library.lookupOrder id
    ↔ Relation.ReflTransGen (fun id supertype => supertype ∈ library.directSupertypes id) id node
      ∨ library.objectId? = some node
  /-- The root class comes last unless a supertype leads to it. It is also the
  first one in its own order, and the only one if nothing is above it. -/
  getLast? : ∀ object, library.objectId? = some object →
    (∀ below ∈ library.lookupOrder id, object ∉ library.directSupertypes below) →
    (id = object → library.directSupertypes object = []) →
    (library.lookupOrder id).getLast? = some object
  /-- What is reached sees nothing else. -/
  subset_of_reaches : ∀ seen,
    Relation.ReflTransGen (fun id supertype => supertype ∈ library.directSupertypes id) id seen →
    library.lookupOrder seen ⊆ library.lookupOrder id
  /-- The root class, which may be seen without being reached, sees nothing else
  either if nothing is above it. -/
  subset : library.HasTop → ∀ seen ∈ library.lookupOrder id,
    library.lookupOrder seen ⊆ library.lookupOrder id

variable {library : Library} {id object seen : ClassId}

/-! ## Any library -/

/-- Higher bounds on the walks lead to the same order. -/
theorem lookupOrderWithin_eq {bound : Nat} (higher : library.walkBound ≤ bound) :
    library.lookupOrderWithin bound id = library.lookupOrder id := by
  obtain ⟨stop?, segment, nodup, stops⟩ := library.exists_segment_superclassChain id
  have chain : Walk.along library.superclass? bound [] (some id) = library.superclassChain id :=
    Walk.along_eq segment nodup ((length_le_walkBound segment nodup).trans higher) stops
  have visited := (library.frontier_superclassChain id).breadthFirst_eq
    (fun node _ => library.directSupertypes_subset_candidates id node)
    (library.length_candidates_le id _) higher
  rw [lookupOrderWithin, chain, visited]
  unfold lookupOrder
  cases library.objectId? <;> rfl

/-- The root class is listed at the end if it is not reached. -/
theorem getLast?_lookupOrder (isObject : library.objectId? = some object)
    (apart : ¬ library.IsAbove id object) :
    (library.lookupOrder id).getLast? = some object := by
  rw [lookupOrder, isObject]
  dsimp only
  split
  · next listed =>
    exact absurd (mem_breadthFirst_superclassChain.1 (List.contains_iff_mem.1 listed)) apart
  · exact List.getLast?_concat

/-- Without anything above it, the root class sees itself alone. -/
theorem lookupOrder_object (isObject : library.objectId? = some object)
    (top : library.directSupertypes object = []) : library.lookupOrder object = [object] := by
  obtain ⟨rest, same, nodup⟩ := library.exists_lookupOrder_eq object
  have nothing : rest = [] := by
    refine List.eq_nil_iff_forall_not_mem.2 fun node mem => ?_
    have listed : node ∈ library.lookupOrder object := same ▸ List.mem_cons_of_mem _ mem
    have isSelf : node = object := (mem_lookupOrder.1 listed).elim (eq_of_isAbove top)
      fun isObject' => Option.some.inj (isObject'.symm.trans isObject)
    exact (List.nodup_cons.1 nodup).1 (isSelf ▸ mem)
  rw [same, nothing]

/-- What is reached sees nothing else. -/
theorem lookupOrder_subset (isAbove : library.IsAbove id seen) :
    library.lookupOrder seen ⊆ library.lookupOrder id := fun _ mem =>
  mem_lookupOrder.2 ((mem_lookupOrder.1 mem).imp_left isAbove.trans)

theorem HasTop.lookupOrder_subset (top : library.HasTop) (mem : seen ∈ library.lookupOrder id) :
    library.lookupOrder seen ⊆ library.lookupOrder id := by
  rcases mem_lookupOrder.1 mem with isAbove | isObject
  · exact Library.lookupOrder_subset isAbove
  · rw [lookupOrder_object isObject (top seen isObject)]
    exact List.cons_subset.2 ⟨mem, List.nil_subset _⟩

theorem listsVisible (library : Library) (id : ClassId) : library.ListsVisible id := by
  obtain ⟨rest, append, nodup⟩ := library.exists_lookupOrder_eq_append id
  obtain ⟨others, first, _⟩ := library.exists_lookupOrder_eq id
  constructor
  case ends => exact fun bound => lookupOrderWithin_eq
  case nodup => exact append ▸ nodup
  case head? => rw [first, List.head?_cons]
  case superclasses_prefix => exact ⟨rest, append.symm⟩
  case superclasses => exact library.exists_segment_superclassChain id
  case mem_iff => exact fun node => mem_lookupOrder
  case subset_of_reaches => exact fun seen => lookupOrder_subset
  case subset => exact fun top seen => top.lookupOrder_subset
  case getLast? =>
    intro object isObject apart top
    by_cases same : id = object
    · subst same
      rw [lookupOrder_object isObject (top rfl)]
      rfl
    · refine getLast?_lookupOrder isObject fun isAbove => ?_
      rcases isAbove.cases_tail with rfl | ⟨below, isAbove, follows⟩
      · exact same rfl
      · exact apart below (mem_lookupOrder.2 (.inl isAbove)) follows

/-! ## Compiled libraries -/

/-- Nothing is above the root class of a compiled library. -/
theorem hasTop {options : Options} {declarations : List Declaration} {names : List String}
    {diagnostics : List Diagnostic}
    (compiled : Compiled options declarations names library diagnostics)
    (sound : Registration.Sound (registrationsOf declarations)) : library.HasTop := by
  intro object isObject
  obtain ⟨object', found, isNamed⟩ := compiled.coherent.exists_objectId?
  cases isObject.symm.trans found
  have related := directSupertypes_rel_of_isNamed compiled isNamed
  rw [supertypes_object (nodup_declaredNames declarations) sound] at related
  exact List.forall₂_nil_right_iff.1 related

theorem Marked.hasTop {marks : ClassId → Nat → Bool} {before after : Library}
    (marked : Marked marks before after) (top : before.HasTop) : after.HasTop := by
  rw [HasTop, marked.objectId?, marked.directSupertypes]
  exact top

end Library

/-- In any library, the lookup order of a class-like begins with the superclasses
and lists exactly what the class-like reaches, and the root class, each of them
once. What is reached sees nothing else; in a library that a compilation returns
this goes for all that is listed. -/
theorem lookupOrder_listsVisible (library : Library) (id : ClassId) :
    library.ListsVisible id ∧ ∀ declarations options budget,
      (compile declarations options budget).result = .ok library →
        library.HasTop ∧ ∀ seen ∈ library.lookupOrder id,
          library.lookupOrder seen ⊆ library.lookupOrder id := by
  refine ⟨library.listsVisible id, fun declarations options budget returned => ?_⟩
  obtain ⟨names, before, compiled, marked⟩ := exists_compiled returned
  have top := marked.hasTop (Library.hasTop compiled (sound_prelude declarations))
  exact ⟨top, fun seen => top.lookupOrder_subset⟩

theorem lookupOrder_listsVisible_crates : ∃ library,
    (compile Declaration.crates {} 1).result = .ok library ∧ library.ListsVisible ⟨11⟩
      ∧ library.HasTop ∧ ∀ seen ∈ library.lookupOrder ⟨11⟩,
        library.lookupOrder seen ⊆ library.lookupOrder ⟨11⟩ := by
  obtain ⟨library, returned, _⟩ := exists_hasCrates
  obtain ⟨lists, closed⟩ := lookupOrder_listsVisible library ⟨11⟩
  exact ⟨library, returned, lists, closed _ _ _ returned⟩

/-- A method without formal parameters and without a body. -/
def Method.stub (identifier : String) : Method :=
  { identifier, returnType? := some .void, formals := [], visibility := .public
    isAbstract := false, isStatic := false, isFinal := false, signature := identifier ++ "()"
    body? := none }

/-- The root class below an interface, both with a method, and another interface, from
which nothing leads to the root class. -/
def Library.labelled : Except ClassId Library := do
  let (labelled, library) ← Library.empty.register
    { identifier := "Labelled", visibility := .public, kind := .interface []
      methods := [Method.stub "label"] }
  let (_, library) ← library.register
    { identifier := Standard.objectIdentifier, visibility := .public
      kind := .class none [labelled] false, methods := [Method.stub "text"] }
  let (_, library) ← library.register
    { identifier := "Marker", visibility := .public, kind := .interface [] }
  return library

/-- What is above the root class is not seen where nothing leads to the root class.
In its own order the root class comes first, and then not last, though nothing leads
to it. -/
theorem exists_not_lookupOrder_subset : ∃ library, Library.labelled = .ok library
    ∧ library.objectId? = some ⟨1⟩
    ∧ library.lookupOrder ⟨2⟩ = [⟨2⟩, ⟨1⟩] ∧ library.lookupOrder ⟨1⟩ = [⟨1⟩, ⟨0⟩]
    ∧ (⟨1⟩ ∈ library.lookupOrder ⟨2⟩ ∧ ¬ library.lookupOrder ⟨1⟩ ⊆ library.lookupOrder ⟨2⟩)
    ∧ (∀ below ∈ library.lookupOrder ⟨1⟩, ⟨1⟩ ∉ library.directSupertypes below)
    ∧ (library.lookupOrder ⟨1⟩).getLast? ≠ some ⟨1⟩ :=
  ⟨_, rfl, by decide +kernel⟩

end ClassModel
