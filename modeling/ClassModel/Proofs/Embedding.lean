import ClassModel.Proofs.Hierarchy
import ClassModel.Proofs.Reach
import ClassModel.Proofs.Renumbering

/-!
# ClassModel.Proofs.Embedding

A library as a part of a larger one. If the class-likes of a library are, under
other identifiers, class-likes of another one (`Library.Embeds`), then whatever
is a subtype, converts or is implemented stays so there, and a method that is
marked is marked there (`Embeds.marks`).
-/

namespace ClassModel

/-! ## The lookup order -/

namespace Walk

variable {α : Type}

/-- What follows a node on a segment is on the segment, or the segment stops
there. -/
theorem Segment.successor {next? : α → Option α} {start? stop? : Option α} {node successor : α}
    {path : List α} (segment : Segment next? stop? start? path) (mem : node ∈ path)
    (found : next? node = some successor) : successor ∈ path ∨ stop? = some successor := by
  induction segment with
  | nil => simp at mem
  | @cons first path later ih =>
    rcases List.mem_cons.1 mem with rfl | mem
    · rw [found] at later
      cases later with
      | nil => exact .inr rfl
      | cons _ => exact .inl (by simp)
    · exact (ih mem).imp_left (List.mem_cons_of_mem _)

/-- A walk lists the given nodes first, and each node once. -/
theorem exists_breadthFirst_eq [BEq α] [LawfulBEq α] {next : α → List α} {bound : Nat}
    {listed queue : List α} (nodup : listed.Nodup) :
    ∃ rest, breadthFirst next bound listed queue = listed ++ rest ∧ (listed ++ rest).Nodup := by
  induction bound generalizing listed queue with
  | zero => exact ⟨[], (List.append_nil _).symm, by rwa [List.append_nil]⟩
  | succ bound ih =>
    rw [breadthFirst]
    split
    · exact ⟨[], (List.append_nil _).symm, by rwa [List.append_nil]⟩
    · next node _ dropped =>
      have nodup : (listed ++ [node]).Nodup := by
        simpa using nodup.concat (not_mem_of_dropWhile dropped)
      obtain ⟨rest, same, nodup⟩ := ih nodup
      rw [List.append_assoc] at same nodup
      exact ⟨node :: rest, same, nodup⟩

end Walk

namespace Library

variable {library : Library} {id node : ClassId}

theorem mem_directSupertypes_of_superclass? {superclass : ClassId}
    (found : library.superclass? id = some superclass) :
    superclass ∈ library.directSupertypes id := by
  rw [superclass?, Option.bind_eq_some_iff] at found
  obtain ⟨kind, known, found⟩ := found
  simp [directSupertypes, known, Kind.supertypes, found]

theorem isAbove_of_segment {start? stop? : Option ClassId} {path : List ClassId}
    (segment : Walk.Segment library.superclass? stop? start? path)
    (start : ∀ first ∈ start?, library.IsAbove id first) :
    ∀ node ∈ path, library.IsAbove id node :=
  segment.forall_mem start fun _ isAbove _ found =>
    isAbove.tail (mem_directSupertypes_of_superclass? found)

/-- The superclasses of a class-like, which begin with itself. -/
structure IsChain (library : Library) (id : ClassId) (chain : List ClassId) : Prop where
  head : ∃ rest, chain = id :: rest
  nodup : chain.Nodup
  superclass {node superclass : ClassId} : node ∈ chain →
    library.superclass? node = some superclass → superclass ∈ chain
  isAbove {node : ClassId} : node ∈ chain → library.IsAbove id node

/-- The walk along the superclasses comes to the end, or back to one of those that
it passed. -/
theorem exists_segment_superclassChain (library : Library) (id : ClassId) :
    ∃ stop?, Walk.Segment library.superclass? stop? (some id) (library.superclassChain id)
      ∧ (library.superclassChain id).Nodup ∧ ∀ node ∈ stop?, node ∈ library.superclassChain id := by
  obtain ⟨path, stop?, segment, nodup, stops⟩ : ∃ path stop?,
      Walk.Segment library.superclass? stop? (some id) path ∧ path.Nodup
        ∧ ∀ node ∈ stop?, node ∈ path :=
    Walk.exists_segment fun path stop? => length_le_walkBound
  rw [superclassChain, Walk.along_eq segment nodup (length_le_walkBound segment nodup) stops]
  exact ⟨stop?, segment, nodup, stops⟩

theorem isChain_superclassChain (library : Library) (id : ClassId) :
    library.IsChain id (library.superclassChain id) := by
  obtain ⟨stop?, segment, nodup, stops⟩ := library.exists_segment_superclassChain id
  generalize library.superclassChain id = path at segment nodup stops ⊢
  refine ⟨?_, nodup, fun {node superclass} mem found => ?_, fun {node} mem => ?_⟩
  · cases segment with
    | nil => exact absurd (stops id rfl) (by simp)
    | cons _ => exact ⟨_, rfl⟩
  · exact (segment.successor mem found).elim (fun mem => mem) fun same => stops _ same
  · exact isAbove_of_segment segment (fun first start => Option.some.inj start ▸ .refl) node mem

/-- The walk goes on from the superclasses. -/
theorem frontier_superclassChain (library : Library) (id : ClassId) :
    Walk.Frontier library.directSupertypes (library.candidates id) (library.superclassChain id)
      ((library.superclassChain id).flatMap library.besidesSuperclass) := by
  have chain := library.isChain_superclassChain id
  refine ⟨chain.nodup, fun _ mem => library.mem_candidates (chain.isAbove mem), fun _ mem => ?_,
    fun {below above} mem follows => ?_⟩
  · obtain ⟨below, _, mem⟩ := List.mem_flatMap.1 mem
    exact library.directSupertypes_subset_candidates id below (List.mem_of_mem_filter mem)
  · by_cases superclass : library.superclass? below = some above
    · exact .inl (chain.superclass mem superclass)
    · exact .inr
        (List.mem_flatMap.2 ⟨below, mem, List.mem_filter.2 ⟨follows, by simpa using superclass⟩⟩)

/-- What is visited after the superclasses. -/
theorem mem_breadthFirst_superclassChain :
    node ∈ Walk.breadthFirst library.directSupertypes library.walkBound
        (library.superclassChain id)
        ((library.superclassChain id).flatMap library.besidesSuperclass)
      ↔ library.IsAbove id node := by
  have chain := library.isChain_superclassChain id
  have frontier := library.frontier_superclassChain id
  generalize library.superclassChain id = path at chain frontier
  have closed := frontier.closed (fun node _ => library.directSupertypes_subset_candidates id node)
    (library.length_candidates_le id path)
  constructor
  · intro mem
    rcases Walk.exists_reaches mem with mem | ⟨start, mem, reaches⟩
    · exact chain.isAbove mem
    · obtain ⟨below, inside, mem⟩ := List.mem_flatMap.1 mem
      exact ((chain.isAbove inside).tail (List.mem_of_mem_filter mem)).trans reaches
  · intro isAbove
    induction isAbove with
    | refl =>
      obtain ⟨rest, rfl⟩ := chain.head
      exact Walk.subset_breadthFirst List.mem_cons_self
    | tail _ follows ih => exact closed.2 _ ih follows

/-- A class-like sees what is above it, and the root class. -/
theorem mem_lookupOrder : node ∈ library.lookupOrder id
    ↔ library.IsAbove id node ∨ library.objectId? = some node := by
  have visited (node : ClassId) := @mem_breadthFirst_superclassChain library id node
  rw [lookupOrder]
  generalize Walk.breadthFirst library.directSupertypes library.walkBound
    (library.superclassChain id)
    ((library.superclassChain id).flatMap library.besidesSuperclass) = order at visited ⊢
  cases library.objectId? with
  | none => simp [visited]
  | some object =>
    dsimp only
    split
    · next listed =>
      rw [visited]
      refine ⟨.inl, fun seen => seen.elim (fun isAbove => isAbove) ?_⟩
      rintro same
      obtain rfl := Option.some.inj same
      exact (visited _).1 (List.contains_iff_mem.1 listed)
    · rw [List.mem_append, visited, List.mem_singleton, Option.some.injEq, eq_comm]

/-- A class-like sees its superclasses first, and sees nothing twice. -/
theorem exists_lookupOrder_eq_append (library : Library) (id : ClassId) :
    ∃ rest, library.lookupOrder id = library.superclassChain id ++ rest
      ∧ (library.superclassChain id ++ rest).Nodup := by
  obtain ⟨visited, same, nodup⟩ : ∃ rest, Walk.breadthFirst library.directSupertypes
        library.walkBound (library.superclassChain id)
        ((library.superclassChain id).flatMap library.besidesSuperclass)
      = library.superclassChain id ++ rest ∧ (library.superclassChain id ++ rest).Nodup :=
    Walk.exists_breadthFirst_eq (library.isChain_superclassChain id).nodup
  rw [lookupOrder, same]
  cases library.objectId? with
  | none => exact ⟨visited, rfl, nodup⟩
  | some object =>
    dsimp only
    split
    · exact ⟨visited, rfl, nodup⟩
    · next new =>
      refine ⟨visited ++ [object], List.append_assoc .., ?_⟩
      rw [← List.append_assoc]
      simpa using nodup.concat (mt List.contains_iff_mem.2 new)

/-- A class-like sees itself first. -/
theorem exists_lookupOrder_eq (library : Library) (id : ClassId) :
    ∃ rest, library.lookupOrder id = id :: rest ∧ (id :: rest).Nodup := by
  obtain ⟨rest, same, nodup⟩ := library.exists_lookupOrder_eq_append id
  obtain ⟨others, head⟩ := (library.isChain_superclassChain id).head
  rw [head] at same nodup
  exact ⟨others ++ rest, same, nodup⟩

theorem mem_drop_lookupOrder : node ∈ (library.lookupOrder id).drop 1
    ↔ (library.IsAbove id node ∨ library.objectId? = some node) ∧ node ≠ id := by
  rw [← mem_lookupOrder]
  obtain ⟨rest, same, nodup⟩ := library.exists_lookupOrder_eq id
  rw [same, List.drop_one, List.tail_cons, List.mem_cons]
  constructor
  · exact fun mem => ⟨.inr mem, fun same => (List.nodup_cons.1 nodup).1 (same ▸ mem)⟩
  · rintro ⟨rfl | mem, away⟩
    · exact absurd rfl away
    · exact mem

/-- A reference to a method of a supertype that is implemented, or to the same
method of the base of the supertype. -/
theorem mem_implementedIn {method : Method} {supertype : ClassId} {ref : MethodRef} :
    ref ∈ library.implementedIn method supertype
      ↔ ∃ candidate index, (library.methodsOf supertype)[index]? = some candidate
        ∧ candidate.isInstance = true ∧ library.implements method candidate = true
        ∧ (ref = (supertype, index) ∨ ref = (library.baseOf supertype, index)) := by
  rw [implementedIn, List.mem_flatMap]
  constructor
  · rintro ⟨⟨candidate, index⟩, own, mem⟩
    dsimp only at mem
    split at mem
    · next holds =>
      rw [Bool.and_eq_true] at holds
      exact ⟨candidate, index, List.mem_zipIdx_iff_getElem?.1 own, holds.1, holds.2,
        by simpa using mem⟩
    · cases mem
  · rintro ⟨candidate, index, own, isInstance, implements, same⟩
    refine ⟨(candidate, index), List.mem_zipIdx_iff_getElem?.2 own, ?_⟩
    dsimp only
    rw [if_pos (Bool.and_eq_true .. ▸ ⟨isInstance, implements⟩)]
    simpa using same

end Library

/-! ## Embeddings -/

/-- The class-likes and the generic parameters are those of the other library
under different identifiers, which may have more. Caches are left out. -/
structure Library.Embeds (renumbering : Renumbering) (before after : Library) : Prop where
  classLike? {id : ClassId} {classLike : ClassLike} : before.classLike? id = some classLike →
    ∃ entries, after.classLike? (renumbering.classLikes id)
      = some { renumbering.classLike classLike with localCache := entries }
  parameter? {id : ParameterId} {found : GenericParameter} : before.parameter? id = some found →
    after.parameter? (renumbering.parameters id) = some (renumbering.parameter found)
  types {id : ClassId} : id ∈ before.types → renumbering.classLikes id ∈ after.types
  byIdentifier? {name : String} {id : ClassId} : before.byIdentifier? name = some id →
    after.byIdentifier? name = some (renumbering.classLikes id)
  object : before.objectId?.isSome

namespace Library.Embeds

variable {renumbering : Renumbering} {before after : Library}
  (embeds : before.Embeds renumbering after)

include embeds

theorem specialization? {id : ClassId} {classLike : ClassLike}
    (known : before.classLike? id = some classLike) :
    after.specialization? (renumbering.classLikes id)
      = (before.specialization? id).map renumbering.specialization := by
  obtain ⟨entries, known'⟩ := embeds.classLike? known
  rw [Library.specialization?, Library.specialization?, known, known']
  rfl

theorem baseOf {id : ClassId} {classLike : ClassLike}
    (known : before.classLike? id = some classLike) :
    after.baseOf (renumbering.classLikes id) = renumbering.classLikes (before.baseOf id) := by
  rw [Library.baseOf, Library.baseOf, embeds.specialization? known]
  cases before.specialization? id <;> rfl

theorem hierarchyKind? {id : ClassId} {kind : Kind} (found : before.hierarchyKind? id = some kind) :
    after.hierarchyKind? (renumbering.classLikes id) = some (renumbering.kind kind) := by
  obtain ⟨classLike, known, told⟩ := Option.bind_eq_some_iff.1 found
  obtain ⟨entries, known'⟩ := embeds.classLike? known
  refine Option.bind_eq_some_iff.2 ⟨_, known', ?_⟩
  dsimp only [Renumbering.classLike]
  cases specialized : classLike.specialization? with
  | none =>
    rw [specialized] at told
    cases told
    rfl
  | some specialization =>
    rw [specialized] at told
    dsimp only [Option.map_some, Renumbering.specialization] at told ⊢
    split at told
    · next materialized =>
      cases told
      rw [if_pos materialized]
      rfl
    · next pending =>
      obtain ⟨base, knownBase, told⟩ := Option.bind_eq_some_iff.1 told
      obtain ⟨entries', knownBase'⟩ := embeds.classLike? knownBase
      cases told
      rw [if_neg pending, knownBase']
      rfl

theorem directSupertypes {id supertype : ClassId} (mem : supertype ∈ before.directSupertypes id) :
    renumbering.classLikes supertype ∈ after.directSupertypes (renumbering.classLikes id) := by
  rw [Library.directSupertypes] at mem
  split at mem
  · next kind found =>
    rw [Library.directSupertypes, embeds.hierarchyKind? found]
    show _ ∈ (renumbering.kind kind).supertypes
    rw [renumbering.supertypes_kind]
    exact List.mem_map_of_mem mem
  · cases mem

theorem isAbove {id above : ClassId} (isAbove : before.IsAbove id above) :
    after.IsAbove (renumbering.classLikes id) (renumbering.classLikes above) :=
  isAbove.lift _ fun _ _ => embeds.directSupertypes

theorem methodsOf {id : ClassId} {index : Nat} {method : Method}
    (own : (before.methodsOf id)[index]? = some method) :
    (after.methodsOf (renumbering.classLikes id))[index]? = some (renumbering.method method) := by
  rw [Library.methodsOf] at own
  split at own
  · next classLike known =>
    obtain ⟨entries, known'⟩ := embeds.classLike? known
    rw [Library.methodsOf, known']
    show (classLike.methods.map renumbering.method)[index]? = _
    rw [List.getElem?_map, own]
    rfl
  · cases own

theorem isObject (id : ClassId) :
    after.isObject (renumbering.classLikes id) = before.isObject id := by
  obtain ⟨object, found⟩ := Option.isSome_iff_exists.1 embeds.object
  rw [Library.isObject, Library.isObject, found, Library.objectId?, embeds.byIdentifier? found,
    Option.some_beq_some, Option.some_beq_some, renumbering.beq_classLikes]

theorem isSubtype {source target : ClassId} (isSubtype : before.isSubtype source target = true) :
    after.isSubtype (renumbering.classLikes source) (renumbering.classLikes target) = true := by
  rw [Library.isSubtype_iff] at isSubtype ⊢
  rw [embeds.isObject]
  refine isSubtype.imp (And.imp_right fun known => ?_) (And.imp_right ?_)
  · obtain ⟨classLike, known⟩ := Option.isSome_iff_exists.1 known
    obtain ⟨entries, known'⟩ := embeds.classLike? known
    rw [known']
    rfl
  · rintro ⟨above, isAbove, target⟩
    refine ⟨_, embeds.isAbove isAbove, ?_⟩
    cases known : before.classLike? above with
    | some classLike =>
      rw [embeds.baseOf known]
      exact target.imp (congrArg _) (congrArg _)
    | none =>
      have same : before.baseOf above = above := by
        rw [Library.baseOf, Library.specialization?, known]
        rfl
      rw [same, or_self] at target
      exact .inl (congrArg _ target)

/-! ## Conversions -/

section Conversions

variable {boundCasts boundCasts' : Ty → Ty → Bool}
  (step : ∀ source target, boundCasts source target = true →
    boundCasts' (renumbering.type source) (renumbering.type target) = true)

include step

theorem any_upperBounds {source : ParameterId} {target : Ty}
    (casts : (match before.parameter? source with
      | some parameter => parameter.upperBounds.any (boundCasts · target)
      | none => false) = true) :
    (match after.parameter? (renumbering.parameters source) with
      | some parameter => parameter.upperBounds.any (boundCasts' · (renumbering.type target))
      | none => false) = true := by
  cases known : before.parameter? source with
  | none => simp [known] at casts
  | some found =>
    rw [known] at casts
    obtain ⟨bound, mem, casts⟩ := List.any_eq_true.1 casts
    rw [embeds.parameter? known]
    exact List.any_eq_true.2 ⟨_, List.mem_map_of_mem mem, step bound target casts⟩

theorem plainCasts {source target : Ty}
    (casts : before.plainCasts boundCasts source target = true) :
    after.plainCasts boundCasts' (renumbering.type source) (renumbering.type target) = true := by
  unfold Library.plainCasts at casts ⊢
  cases source with
  | primitive source =>
    cases target with
    | primitive | parameter | arrayOf => cases source <;> exact casts
    | classLike target =>
      cases source with
      | null => exact casts
      | _ =>
        dsimp only [Renumbering.type] at casts ⊢
        split at casts
        · next boxed found =>
          obtain ⟨name, named, found⟩ := Option.bind_eq_some_iff.1 found
          rw [named, Option.bind_some, embeds.byIdentifier? found]
          exact embeds.isSubtype casts
        · cases casts
  | classLike source =>
    cases target with
    | primitive target =>
      dsimp only [Renumbering.type] at casts ⊢
      cases known : before.classLike? (before.baseOf source) with
      | none => simp [known] at casts
      | some base =>
        have there : ∃ classLike, before.classLike? source = some classLike := by
          rw [← Option.isSome_iff_exists]
          by_contra unknown
          rw [Option.not_isSome_iff_eq_none] at unknown
          rw [Library.baseOf, Library.specialization?, unknown] at known
          cases unknown.symm.trans known
        obtain ⟨classLike, known'⟩ := there
        obtain ⟨entries, knownBase⟩ := embeds.classLike? known
        rw [embeds.baseOf known', knownBase]
        rw [known] at casts
        exact casts
    | classLike target => exact embeds.isSubtype casts
    | parameter | arrayOf => exact casts
  | arrayOf source m =>
    cases target with
    | classLike target => exact (embeds.isObject target).trans casts
    | primitive | parameter | arrayOf => exact casts
  | parameter source =>
    rw [Bool.or_eq_true] at casts
    refine Bool.or_eq_true .. ▸ casts.imp (fun isObject => ?_) (embeds.any_upperBounds step)
    cases target with
    | classLike target => exact (embeds.isObject target).trans isObject
    | primitive | parameter | arrayOf => exact isObject

theorem casts {source target : Ty} (casts : before.casts boundCasts source target = true) :
    after.casts boundCasts' (renumbering.type source) (renumbering.type target) = true := by
  have plain {source target : Ty} (plain : source.isArray = false ∨ target.isArray = false)
      (casts : before.casts boundCasts source target = true) :
      after.casts boundCasts' (renumbering.type source) (renumbering.type target) = true := by
    rw [casts_eq_plainCasts _ _ plain, Bool.or_eq_true] at casts
    rw [← renumbering.isArray_type, ← renumbering.isArray_type target] at plain
    rw [casts_eq_plainCasts _ _ plain, renumbering.beq_type, Bool.or_eq_true]
    exact casts.imp_right (embeds.plainCasts step)
  induction source generalizing target with
  | primitive | classLike | parameter => exact plain (.inl rfl) casts
  | arrayOf source m ih =>
    cases target with
    | primitive | classLike | parameter => exact plain (.inr rfl) casts
    | arrayOf target n =>
      rw [casts_arrayOf, ← renumbering.beq_type, Bool.or_eq_true, Bool.and_eq_true] at casts
      simp only [Renumbering.type, casts_arrayOf, renumbering.isValuePrimitive_type,
        renumbering.beq_type, Bool.or_eq_true, Bool.and_eq_true] at casts ⊢
      refine casts.imp_right (And.imp_right fun casts => ?_)
      split
      · next primitive => rwa [if_pos primitive] at casts
      · next primitive =>
        rw [if_neg primitive] at casts
        exact ih casts

end Conversions

/-- A conversion is one through more bounds as well. -/
theorem castsWithin {bounds bounds' : Nat} (le : bounds ≤ bounds') {source target : Ty}
    (casts : before.castsWithin bounds source target = true) :
    after.castsWithin bounds' (renumbering.type source) (renumbering.type target) = true := by
  induction bounds generalizing bounds' source target with
  | zero =>
    have casts : before.casts (fun _ _ => false) source target = true := casts
    cases bounds' <;> exact embeds.casts (by simp) casts
  | succ bounds ih =>
    cases bounds' with
    | zero => omega
    | succ bounds' => exact embeds.casts (fun _ _ => ih (by omega)) casts

theorem size_parameters : before.parameters.size ≤ after.parameters.size := by
  have inside : before.parameters.ids.map renumbering.parameters ⊆ after.parameters.ids := by
    intro _ mem
    obtain ⟨id, old, rfl⟩ := List.mem_map.1 mem
    rw [Arena.mem_ids, ← Arena.isSome_get?, Option.isSome_iff_exists] at old ⊢
    obtain ⟨found, known⟩ := old
    exact ⟨_, embeds.parameter? known⟩
  have nodup := before.parameters.nodup_ids.map renumbering.parameters.injective
  simpa [Arena.ids] using (List.subperm_of_subset nodup inside).length_le

theorem canCast {source target : Ty} (casts : before.canCast source target = true) :
    after.canCast (renumbering.type source) (renumbering.type target) = true :=
  embeds.castsWithin embeds.size_parameters casts

/-! ## Implementations -/

theorem fits {source target : Ty} (fits : before.fits source target = true) :
    after.fits (renumbering.type source) (renumbering.type target) = true := by
  rw [Library.fits] at fits ⊢
  rw [renumbering.isValuePrimitive_type, renumbering.beq_type]
  split
  · next primitive => rwa [if_pos primitive] at fits
  · next primitive =>
    rw [if_neg primitive] at fits
    exact embeds.canCast fits

theorem resultFits {method overridden : Method}
    (fits : before.resultFits method overridden = true) :
    after.resultFits (renumbering.method method) (renumbering.method overridden) = true := by
  rw [Library.resultFits] at fits ⊢
  rw [renumbering.returnsNothing_method, renumbering.returnsNothing_method]
  split
  · next nothing => rwa [if_pos nothing] at fits
  · next nothing =>
    rw [if_neg nothing] at fits
    dsimp only [Renumbering.method]
    cases returned : method.returnType? with
    | none => simp [returned] at fits
    | some type =>
      cases expected : overridden.returnType? with
      | none => simp [expected] at fits
      | some type' =>
        rw [returned, expected] at fits
        exact embeds.fits fits

theorem formalFits {formal overridden : Formal}
    (fits : before.formalFits formal overridden = true) :
    after.formalFits (renumbering.formal formal) (renumbering.formal overridden) = true := by
  rw [Library.formalFits] at fits ⊢
  rw [renumbering.type_formal, renumbering.type_formal, renumbering.isValuePrimitive_type,
    renumbering.beq_type]
  split
  · next primitive => rwa [if_pos primitive] at fits
  · next primitive =>
    rw [if_neg primitive] at fits
    exact embeds.canCast fits

theorem implements {method overridden : Method}
    (implements : before.implements method overridden = true) :
    after.implements (renumbering.method method) (renumbering.method overridden) = true := by
  simp only [Library.implements, Bool.and_eq_true, List.all_eq_true] at implements ⊢
  obtain ⟨⟨⟨identifier, result⟩, length⟩, formals⟩ := implements
  refine ⟨⟨⟨identifier, embeds.resultFits result⟩, ?_⟩, ?_⟩
  · simpa only [Renumbering.method, List.length_map] using length
  · dsimp only [Renumbering.method]
    rw [List.zip_map]
    intro both mem
    obtain ⟨both, inside, rfl⟩ := List.mem_map.1 mem
    exact embeds.formalFits (formals both inside)

/-! ## Marks -/

theorem implementedIn {method : Method} {supertype : ClassId} {ref : MethodRef}
    (mem : ref ∈ before.implementedIn method supertype) :
    renumbering.ref ref
      ∈ after.implementedIn (renumbering.method method) (renumbering.classLikes supertype) := by
  rw [mem_implementedIn] at mem ⊢
  obtain ⟨candidate, index, own, isInstance, implements, same⟩ := mem
  refine ⟨_, index, embeds.methodsOf own, (renumbering.isInstance_method _).trans isInstance,
    embeds.implements implements, ?_⟩
  cases known : before.classLike? supertype with
  | none => simp [Library.methodsOf, known] at own
  | some classLike =>
    rw [embeds.baseOf known]
    exact same.imp (congrArg _) (congrArg _)

theorem implementedBy {id : ClassId} {ref : MethodRef} (mem : ref ∈ before.implementedBy id) :
    renumbering.ref ref ∈ after.implementedBy (renumbering.classLikes id) := by
  simp only [Library.implementedBy, List.mem_flatMap, List.mem_filter] at mem ⊢
  obtain ⟨method, ⟨own, isInstance⟩, supertype, seen, mem⟩ := mem
  obtain ⟨index, own⟩ := List.mem_iff_getElem?.1 own
  refine ⟨_, ⟨List.mem_of_getElem? (embeds.methodsOf own),
    (renumbering.isInstance_method _).trans isInstance⟩, _, ?_, embeds.implementedIn mem⟩
  rw [mem_drop_lookupOrder] at seen ⊢
  exact ⟨seen.1.imp embeds.isAbove embeds.byIdentifier?,
    fun same => seen.2 (renumbering.classLikes_inj same)⟩

theorem implementedRefs {ref : MethodRef} (mem : ref ∈ before.implementedRefs) :
    renumbering.ref ref ∈ after.implementedRefs := by
  obtain ⟨id, mem, implemented⟩ := List.mem_flatMap.1 mem
  exact List.mem_flatMap.2 ⟨_, embeds.types mem, embeds.implementedBy implemented⟩

/-- A method that the last stage marks is marked in the other library. -/
theorem marks {id : ClassId} {index : Nat} (marked : before.marks id index = true) :
    after.marks (renumbering.classLikes id) index = true := by
  have listed {id : ClassId} (mem : before.implementedRefs.contains (id, index) = true) :
      after.implementedRefs.contains (renumbering.classLikes id, index) = true :=
    List.contains_iff_mem.2 (embeds.implementedRefs (List.contains_iff_mem.1 mem))
  rw [Library.marks, Bool.or_eq_true] at marked ⊢
  refine marked.imp listed fun marked => ?_
  cases found : before.specialization? id with
  | none => simp [found] at marked
  | some specialization =>
    obtain ⟨classLike, known, _⟩ := Option.bind_eq_some_iff.1 found
    rw [found] at marked
    rw [embeds.specialization? known, found]
    dsimp only [Option.map_some, Renumbering.specialization] at marked ⊢
    cases own : (before.methodsOf specialization.base)[index]? with
    | none => simp [own] at marked
    | some method =>
      rw [own, Option.map_some, Option.getD_some, Bool.or_eq_true] at marked
      rw [embeds.methodsOf own, Option.map_some, Option.getD_some, Bool.or_eq_true]
      exact marked.imp_right listed

end Library.Embeds

end ClassModel
