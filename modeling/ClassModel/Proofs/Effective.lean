import ClassModel.Proofs.Overload
import ClassModel.Proofs.Visible

/-!
# ClassModel.Proofs.Effective

The methods that are visible on a class-like. Of the methods of one signature
the nearest one is listed (`Library.mem_effectiveMethods_iff`), and calling the
signature runs it (`Library.dispatches`). In the lookup order superclasses come
before interfaces, so a superclass that declares the signature hides it wherever
else it is declared. Nothing that is visible on a class-like is lost below it
(`effectiveMethods_listsMethods`), but what is visible on the root class may be lost
where nothing leads to it (`exists_not_isVisible`).
-/

namespace ClassModel

namespace Library

/-- The method is visible: the first class-like of the lookup order that declares
methods of its signature is the declarer, whose first one it is. -/
structure IsNearest (library : Library) (id declarer : ClassId) (method : Method) : Prop where
  order : ∃ nearer farther, library.lookupOrder id = nearer ++ declarer :: farther
    ∧ ∀ other ∈ nearer, ∀ hidden ∈ library.methodsOf other, hidden.signature ≠ method.signature
  methods : ∃ earlier later, library.methodsOf declarer = earlier ++ method :: later
    ∧ ∀ hidden ∈ earlier, hidden.signature ≠ method.signature

/-- A method of the signature is visible on the class-like. -/
def IsVisible (library : Library) (id : ClassId) (signature : String) : Prop :=
  ∃ entry ∈ library.effectiveMethods id, entry.2.signature = signature

/-- Calling the signature of the method on the class-like runs the method. A
native body sees the slots from the first one of the declarer on. -/
structure Dispatches (library : Library) (id declarer : ClassId) (method : Method) : Prop where
  native {run : NativeFunction} {classLike : ClassLike} :
    method.body? = some (.native run) → library.classLike? declarer = some classLike →
      ∀ frame, library.invoke id method.signature frame = Invocation.returned <$> runNative run
        { frame with firstAttributeIndex := classLike.layout.firstAttributeIndex }
  expression {source : String} : method.body? = some (.expression source) →
    ∀ frame, library.invoke id method.signature frame = pure (.expression source)
  none : method.body? = .none →
    ∀ frame, library.invoke id method.signature frame = throw (.noBody method.signature)

/-- How the visible methods of a class-like are listed and called. -/
structure ListsMethods (library : Library) (id : ClassId) : Prop where
  /-- No signature is listed twice. -/
  nodup : ((library.effectiveMethods id).map (·.2.signature)).Nodup
  isVisible_iff (signature : String) : library.IsVisible id signature
    ↔ ∃ declarer ∈ library.lookupOrder id, ∃ method ∈ library.methodsOf declarer,
      method.signature = signature
  mem_iff (declarer : ClassId) (method : Method) :
    (declarer, method) ∈ library.effectiveMethods id ↔ library.IsNearest id declarer method
  /-- Superclasses come before all else. -/
  superclass {declarer superclass : ClassId} {method hidden : Method} :
    (declarer, method) ∈ library.effectiveMethods id → superclass ∈ library.superclassChain id →
      hidden ∈ library.methodsOf superclass → hidden.signature = method.signature →
        declarer ∈ library.superclassChain id
  known {declarer : ClassId} {method : Method} :
    (declarer, method) ∈ library.effectiveMethods id → (library.classLike? declarer).isSome
  dispatches {declarer : ClassId} {method : Method} : (library.classLike? id).isSome →
    (declarer, method) ∈ library.effectiveMethods id → library.Dispatches id declarer method
  /-- On what is not there nothing is called, though the methods of the root class
  are listed for it. -/
  unknown : library.classLike? id = none → ∀ signature frame,
    library.invoke id signature frame = throw .unknownClassLike
  notFound {signature : String} : (library.classLike? id).isSome →
    ¬ library.IsVisible id signature →
      ∀ frame, library.invoke id signature frame = throw (.methodNotFound signature)
  notFound_iff (signature : String) : (library.classLike? id).isSome → ∀ frame heap,
    (∃ missing after, (library.invoke id signature frame).run.run heap
        = (.error (.methodNotFound missing), after))
      ↔ ¬ library.IsVisible id signature

/-! ## The first of each key -/

section FirstByKey

variable {α β : Type} [BEq β] [LawfulBEq β] (key : α → β) (entries : List α)

theorem nodup_firstByKey : ((firstByKey key entries).map key).Nodup := by
  have folded (kept : List α) (nodup : (kept.map key).Nodup) : ((entries.foldl (fun kept entry =>
      if kept.any (key · == key entry) then kept else kept ++ [entry]) kept).map key).Nodup := by
    induction entries generalizing kept with
    | nil => exact nodup
    | cons entry entries ih =>
      rw [List.foldl_cons]
      split
      · exact ih kept nodup
      · next new =>
        refine ih _ ?_
        rw [List.map_append, List.map_singleton, ← List.concat_eq_append, List.nodup_concat]
        refine ⟨fun mem => new ?_, nodup⟩
        obtain ⟨earlier, mem, same⟩ := List.mem_map.1 mem
        exact List.any_eq_true.2 ⟨earlier, mem, beq_iff_eq.2 same⟩
  exact folded [] List.nodup_nil

/-- An entry is kept if it is the first one of its key. -/
theorem mem_firstByKey_iff {entry : α} : entry ∈ firstByKey key entries
    ↔ entries.find? (key · == key entry) = some entry := by
  rw [← find?_firstByKey]
  constructor
  · intro mem
    have isSome : ((firstByKey key entries).find? (key · == key entry)).isSome := by
      rw [List.find?_isSome]
      exact ⟨entry, mem, beq_self_eq_true _⟩
    obtain ⟨first, found⟩ := Option.isSome_iff_exists.1 isSome
    have same : key first = key entry := by simpa using List.find?_some found
    rw [found, List.inj_on_of_nodup_map (nodup_firstByKey key entries)
      (List.mem_of_find?_eq_some found) mem same]
  · exact List.mem_of_find?_eq_some

end FirstByKey

/-! ## The nearest method -/

variable {library : Library} {id declarer : ClassId} {method : Method} {signature : String}

theorem declaredMethods_eq (library : Library) (id : ClassId) : library.declaredMethods id
    = (library.lookupOrder id).flatMap fun declarer =>
      (library.methodsOf declarer).map (declarer, ·) := by
  refine List.flatMap_congr fun declarer _ => ?_
  rw [methodsOf]
  cases library.classLike? declarer <;> rfl

theorem find?_declaredMethods_eq_some_iff :
    (library.declaredMethods id).find? (·.2.signature == method.signature)
        = some (declarer, method) ↔ library.IsNearest id declarer method := by
  have own (other : ClassId) : ((library.methodsOf other).map (other, ·)).find?
        (·.2.signature == method.signature)
      = ((library.methodsOf other).find? (·.signature == method.signature)).map (other, ·) :=
    List.find?_map
  rw [declaredMethods_eq, List.find?_flatMap, List.findSome?_eq_some_iff]
  simp only [own, Option.map_eq_some_iff, Option.map_eq_none_iff, Prod.mk.injEq,
    List.find?_eq_none, List.find?_eq_some_iff_append]
  constructor
  · rintro ⟨nearer, first, farther, order, ⟨_, ⟨_, earlier, later, methods, new⟩, rfl, rfl⟩, away⟩
    exact ⟨⟨nearer, farther, order, by simpa using away⟩,
      ⟨earlier, later, methods, by simpa using new⟩⟩
  · rintro ⟨⟨nearer, farther, order, away⟩, ⟨earlier, later, methods, new⟩⟩
    exact ⟨nearer, declarer, farther, order,
      ⟨method, ⟨by simp, earlier, later, methods, by simpa using new⟩, rfl, rfl⟩,
        by simpa using away⟩

theorem mem_effectiveMethods_iff :
    (declarer, method) ∈ library.effectiveMethods id ↔ library.IsNearest id declarer method := by
  rw [effectiveMethods, mem_firstByKey_iff]
  exact find?_declaredMethods_eq_some_iff

theorem IsNearest.mem_methodsOf (nearest : library.IsNearest id declarer method) :
    method ∈ library.methodsOf declarer := by
  obtain ⟨_, ⟨earlier, later, methods, _⟩⟩ := nearest
  simp [methods]

/-- A signature is looked for among all methods that the lookup order comes by. -/
theorem isSome_effectiveMethod?_iff : (library.effectiveMethod? id signature).isSome
    ↔ ∃ declarer ∈ library.lookupOrder id, ∃ method ∈ library.methodsOf declarer,
      method.signature = signature := by
  rw [effectiveMethod?, effectiveMethods, find?_firstByKey, List.find?_isSome, declaredMethods_eq]
  simp [and_assoc]

theorem isVisible_iff_isSome :
    library.IsVisible id signature ↔ (library.effectiveMethod? id signature).isSome := by
  rw [effectiveMethod?, List.find?_isSome]
  simp [IsVisible]

/-- A class-like that is listed first takes the place of all that come later. -/
theorem IsNearest.mem_superclassChain (nearest : library.IsNearest id declarer method)
    {superclass : ClassId} {hidden : Method} (mem : superclass ∈ library.superclassChain id)
    (own : hidden ∈ library.methodsOf superclass) (same : hidden.signature = method.signature) :
    declarer ∈ library.superclassChain id := by
  obtain ⟨⟨nearer, farther, order, away⟩, _⟩ := nearest
  obtain ⟨rest, append, _⟩ := library.exists_lookupOrder_eq_append id
  have isPrefix : nearer ++ declarer :: farther = library.superclassChain id ++ rest :=
    order.symm.trans append
  rcases List.append_eq_append_iff.1 isPrefix with ⟨further, chain, later⟩ | ⟨between, chain, _⟩
  · cases further with
    | nil =>
      -- the chain ends in front of the declarer
      rw [List.append_nil] at chain
      exact absurd same (away superclass (chain ▸ mem) hidden own)
    | cons first further =>
      rw [List.cons_append, List.cons.injEq] at later
      rw [chain, ← later.1]
      simp
  · exact absurd same (away superclass (chain ▸ List.mem_append_left _ mem) hidden own)

/-! ## Calls -/

theorem effectiveMethod?_of_mem (mem : (declarer, method) ∈ library.effectiveMethods id) :
    library.effectiveMethod? id method.signature = some (declarer, method) := by
  rw [effectiveMethod?, effectiveMethods, find?_firstByKey]
  exact (mem_firstByKey_iff _ _).1 mem

/-- Calling a visible method runs it. -/
theorem dispatches (known : (library.classLike? id).isSome)
    (mem : (declarer, method) ∈ library.effectiveMethods id) :
    library.Dispatches id declarer method := by
  obtain ⟨classLike, known⟩ := Option.isSome_iff_exists.1 known
  have visible := effectiveMethod?_of_mem mem
  refine ⟨fun native owner frame => ?_, fun expression frame => ?_, fun none frame => ?_⟩
  · rw [invoke_eq frame known visible native, frameFor, owner]
  · rw [invoke, known, visible]
    simp [expression]
  · rw [invoke, known, visible]
    simp [none]

theorem invoke_of_not_isVisible (known : (library.classLike? id).isSome)
    (missing : ¬ library.IsVisible id signature) (frame : Frame) :
    library.invoke id signature frame = throw (.methodNotFound signature) := by
  obtain ⟨classLike, known⟩ := Option.isSome_iff_exists.1 known
  rw [isVisible_iff_isSome, Option.not_isSome_iff_eq_none] at missing
  rw [invoke, known, missing]
  rfl

theorem invoke_of_unknown (unknown : library.classLike? id = none) (frame : Frame) :
    library.invoke id signature frame = throw .unknownClassLike := by
  rw [invoke, unknown]
  rfl

/-- A native body that ends abruptly is told by its cause. -/
theorem run_runNative (run : NativeFunction) (frame : Frame) (heap : Heap) :
    (Invocation.returned <$> runNative run frame).run.run heap
      = match (run frame).run.run heap with
        | (.ok value, after) => (.ok (.returned value), after)
        | (.error cause, after) => (.error (.thrown cause), after) := by
  rw [runNative]
  rcases ended : (run frame).run.run heap with ⟨_ | _, _⟩
  all_goals
    simp only [ExceptT.run_map, ExceptT.run_mk, StateT.run_map, StateT.run_bind, ended]
    rfl

/-- A method that is found is not told to be missing, however it ends. -/
theorem Dispatches.run_ne (dispatches : library.Dispatches id declarer method)
    (known : (library.classLike? declarer).isSome) (frame : Frame) (heap : Heap)
    (missing : String) (after : Heap) :
    (library.invoke id method.signature frame).run.run heap
      ≠ (.error (.methodNotFound missing), after) := by
  obtain ⟨classLike, known⟩ := Option.isSome_iff_exists.1 known
  intro ended
  cases body : method.body? with
  | none =>
    rw [dispatches.none body] at ended
    cases congrArg Prod.fst ended
  | some body' =>
    cases body' with
    | native run =>
      rw [dispatches.native body known, run_runNative] at ended
      split at ended <;> cases congrArg Prod.fst ended
    | expression source =>
      rw [dispatches.expression body] at ended
      cases congrArg Prod.fst ended

theorem listsMethods (library : Library) (id : ClassId) : library.ListsMethods id := by
  have known {declarer : ClassId} {method : Method}
      (mem : (declarer, method) ∈ library.effectiveMethods id) :
      (library.classLike? declarer).isSome := by
    obtain ⟨index, own⟩ := List.mem_iff_getElem?.1 (mem_effectiveMethods_iff.1 mem).mem_methodsOf
    exact isSome_classLike?_of_own own
  constructor
  case nodup => exact nodup_firstByKey _ _
  case isVisible_iff => exact fun signature =>
    isVisible_iff_isSome.trans isSome_effectiveMethod?_iff
  case mem_iff => exact fun declarer method => mem_effectiveMethods_iff
  case superclass =>
    exact fun mem above own same =>
      (mem_effectiveMethods_iff.1 mem).mem_superclassChain above own same
  case known => exact known
  case dispatches => exact dispatches
  case unknown => exact fun unknown _ => invoke_of_unknown unknown
  case notFound => exact invoke_of_not_isVisible
  case notFound_iff =>
    intro signature isKnown frame heap
    constructor
    · rintro ⟨missing, after, ended⟩ ⟨⟨declarer, method⟩, mem, rfl⟩
      exact (dispatches isKnown mem).run_ne (known mem) frame heap missing after ended
    · intro missing
      rw [invoke_of_not_isVisible isKnown missing]
      exact ⟨signature, heap, rfl⟩

/-- What is visible on a class-like of the lookup order is visible below it, if
the lookup order goes through all that it sees. -/
theorem IsVisible.of_subset {seen : ClassId} (visible : library.IsVisible seen signature)
    (subset : library.lookupOrder seen ⊆ library.lookupOrder id) :
    library.IsVisible id signature := by
  rw [isVisible_iff_isSome, isSome_effectiveMethod?_iff] at visible ⊢
  obtain ⟨declarer, mem, own⟩ := visible
  exact ⟨declarer, subset mem, own⟩

end Library

/-- In any library, the methods that are visible on a class-like are the nearest
ones of their signatures, and calling a signature on a class-like that is there
runs the nearest method of it or tells that there is none. What is visible on a
supertype is visible below it; in a library that a compilation returns this goes
for all class-likes of the lookup order. -/
theorem effectiveMethods_listsMethods (library : Library) (id : ClassId) :
    library.ListsMethods id
      ∧ (∀ seen ∈ library.lookupOrder id, library.IsAbove id seen ∨ library.HasTop →
        ∀ signature, library.IsVisible seen signature → library.IsVisible id signature)
      ∧ ∀ declarations options budget, (compile declarations options budget).result = .ok library →
        ∀ seen ∈ library.lookupOrder id, ∀ signature,
          library.IsVisible seen signature → library.IsVisible id signature := by
  refine ⟨library.listsMethods id, fun seen mem reached signature visible => ?_,
    fun declarations options budget returned seen mem signature visible => ?_⟩
  · rcases reached with isAbove | top
    · exact visible.of_subset (Library.lookupOrder_subset isAbove)
    · exact visible.of_subset (top.lookupOrder_subset mem)
  · obtain ⟨names, before, compiled, marked⟩ := exists_compiled returned
    have top := marked.hasTop (Library.hasTop compiled (sound_prelude declarations))
    exact visible.of_subset (top.lookupOrder_subset mem)

theorem effectiveMethods_listsMethods_crates : ∃ library candidate,
    (compile Declaration.crates {} 1).result = .ok library ∧ library.ListsMethods ⟨11⟩
      ∧ ⟨8⟩ ∈ library.lookupOrder ⟨11⟩ ∧ candidate ∈ library.methodsOf ⟨8⟩
      ∧ library.IsVisible ⟨8⟩ candidate.signature ∧ library.IsVisible ⟨11⟩ candidate.signature := by
  obtain ⟨library, returned, hasCrates⟩ := exists_hasCrates
  obtain ⟨_, _, candidate, own, _⟩ := hasCrates.missed
  obtain ⟨lists, _, kept⟩ := effectiveMethods_listsMethods library ⟨11⟩
  have seen : (⟨8⟩ : ClassId) ∈ library.lookupOrder ⟨11⟩ := List.mem_of_mem_drop hasCrates.sees.1
  obtain ⟨rest, itself, _⟩ := library.exists_lookupOrder_eq ⟨8⟩
  have visible : library.IsVisible ⟨8⟩ candidate.signature :=
    ((library.listsMethods ⟨8⟩).isVisible_iff _).2 ⟨⟨8⟩, by simp [itself], candidate, own, rfl⟩
  exact ⟨library, candidate, returned, lists, seen, own, visible,
    kept _ _ _ returned ⟨8⟩ seen _ visible⟩

/-- A method from above the root class is lost where nothing leads to the root
class. A method of the root class is visible on what is not there, and is not called
on it. -/
theorem exists_not_isVisible : ∃ library, Library.labelled = .ok library
    ∧ (⟨1⟩ ∈ library.lookupOrder ⟨2⟩
      ∧ library.IsVisible ⟨1⟩ "label()" ∧ ¬ library.IsVisible ⟨2⟩ "label()")
    ∧ library.IsVisible ⟨3⟩ "text()"
    ∧ ∀ frame, library.invoke ⟨3⟩ "text()" frame = throw .unknownClassLike := by
  refine ⟨_, rfl, ?_, ?_, Library.invoke_of_unknown rfl⟩
  · rw [Library.isVisible_iff_isSome, Library.isVisible_iff_isSome]
    decide +kernel
  · rw [Library.isVisible_iff_isSome]
    decide +kernel

end ClassModel
