import ClassModel.Proofs.Ancestry
import Mathlib.Data.List.Pairwise

/-!
# ClassModel.Proofs.Storage

The slots of the attributes that a class sees. A class sees its superclasses,
whose attributes have slots of their own in its objects, and interfaces
(`mem_lookupOrder_cases`). Objects have no slots for an interface: its
attributes are numbered from zero on, whatever the classes are that see them.
So two attributes may have the same index, but only if one of them belongs to an
interface (`keepsApart_of_compile`).
-/

namespace ClassModel

open Walk

namespace Library

variable {library : Library} {id owner owner' : ClassId}

/-! ## What a class sees -/

/-- Interfaces have no superclass. -/
theorem superclass?_of_interface (hierarchy : library.IsHierarchy)
    (isInterface : library.keyword? owner = some .interface) :
    library.superclass? owner = none := by
  obtain ⟨classLike, known, keyword⟩ := Option.map_eq_some_iff.1 isInterface
  rw [superclass?, hierarchy.hierarchyKind? known, Option.bind_some]
  cases kind : classLike.kind with
  | interface => rfl
  | «class» | enum => simp [kind, Kind.keyword] at keyword

/-- What a class sees is one of its superclasses, or an interface. -/
theorem mem_lookupOrder_cases (hierarchy : library.IsHierarchy)
    (leads : library.LeadsToObject id) (mem : owner ∈ library.lookupOrder id) :
    owner ∈ library.superclassChain id ∨ library.keyword? owner = some .interface := by
  have chain := library.isChain_superclassChain id
  rcases mem_lookupOrder.1 mem with isAbove | isObject
  · induction isAbove with
    | refl =>
      obtain ⟨rest, same⟩ := chain.head
      simp [same]
    | @tail below above _ follows ih =>
      cases told : library.hierarchyKind? below with
      | none => simp [directSupertypes, told] at follows
      | some kind =>
        simp only [directSupertypes, told, Kind.supertypes, List.mem_append,
          Option.mem_toList] at follows
        rcases follows with superclass | interface
        · -- an interface has no superclass, so the way has not left the chain
          have found : library.superclass? below = some above := by
            rw [superclass?, told]
            exact superclass
          rcases ih (mem_lookupOrder.2 (.inl ‹_›)) with inChain | isInterface
          · exact .inl (chain.superclass inChain found)
          · simp [superclass?_of_interface hierarchy isInterface] at found
        · exact .inr (hierarchy.interfaces told interface)
  · obtain ⟨object, found, last⟩ := leads.getLast?
    cases isObject.symm.trans found
    exact .inl (List.mem_of_getLast? last)

/-! ## Indices -/

/-- The index of the instance attribute that stands at the given place among the
own ones of a class-like. -/
def indexOf? (library : Library) (owner : ClassId) (k : Nat) : Option Nat :=
  ((library.classLike? owner).bind (·.instanceAttributes[k]?)).map (·.index)

/-- The own slots of a class-like are given out in the order of declaration. -/
theorem exists_of_indexOf? (laidOut : library.IsLaidOut) {k index : Nat}
    (found : library.indexOf? owner k = some index) : ∃ classLike,
      library.classLike? owner = some classLike ∧ library.OwnsSlot owner index
        ∧ index = classLike.layout.firstAttributeIndex + k := by
  obtain ⟨own, there, rfl⟩ := Option.map_eq_some_iff.1 found
  obtain ⟨classLike, known, at_k⟩ := Option.bind_eq_some_iff.1 there
  have index := (laidOut.isLaidOut known).index_eq at_k
  obtain ⟨inside, _⟩ := List.getElem?_eq_some_iff.1 at_k
  refine ⟨classLike, known, ⟨classLike, known, ?_, ?_⟩, index⟩
  · omega
  · rw [ClassLike.attributeCount]
    omega

/-- A slot belongs to one class-like only. -/
theorem IsParted.owner_eq {ids : List ClassId} {slots slot : Nat}
    (parted : library.IsParted ids slots) (mem : owner ∈ ids) (mem' : owner' ∈ ids)
    (owns : library.OwnsSlot owner slot) (owns' : library.OwnsSlot owner' slot) :
    owner = owner' := by
  have symm : Std.Symm fun id id' =>
      ∀ slot, ¬ (library.OwnsSlot id slot ∧ library.OwnsSlot id' slot) :=
    ⟨fun _ _ apart slot both => apart slot both.symm⟩
  by_contra different
  exact parted.disjoint.forall mem mem' different slot ⟨owns, owns'⟩

/-- The instance attributes that a class sees have indices of their own, except
for those of interfaces. -/
structure KeepsApart (library : Library) (id : ClassId) (object : Object) : Prop where
  distinct {owner owner' : ClassId} {k k' index : Nat} :
    owner ∈ library.lookupOrder id → owner' ∈ library.lookupOrder id →
      library.indexOf? owner k = some index → library.indexOf? owner' k' = some index →
        (owner = owner' ∧ k = k') ∨ (owner ≠ owner'
          ∧ (library.keyword? owner = some .interface ∨ library.keyword? owner' = some .interface))
  inside {owner : ClassId} {k index : Nat} : owner ∈ library.lookupOrder id →
    library.keyword? owner ≠ some .interface → library.indexOf? owner k = some index →
      index < object.attributes.length
  /-- The attributes of an interface are numbered from zero on. -/
  numbered {owner : ClassId} {k index : Nat} : library.keyword? owner = some .interface →
    library.indexOf? owner k = some index → index = k

theorem keepsApart (hierarchy : library.IsHierarchy) (laidOut : library.IsLaidOut)
    (leads : library.LeadsToObject id) {object : Object}
    (parted : library.IsParted (library.superclassChain id) object.attributes.length) :
    library.KeepsApart id object where
  distinct {owner owner' k k' index} mem mem' found found' := by
    obtain ⟨classLike, known, owns, first⟩ := exists_of_indexOf? laidOut found
    obtain ⟨classLike', known', owns', first'⟩ := exists_of_indexOf? laidOut found'
    by_cases same : owner = owner'
    · subst same
      cases known.symm.trans known'
      exact .inl ⟨rfl, by omega⟩
    · refine .inr ⟨same, ?_⟩
      rcases mem_lookupOrder_cases hierarchy leads mem with inChain | isInterface
      · rcases mem_lookupOrder_cases hierarchy leads mem' with inChain' | isInterface'
        · exact absurd (parted.owner_eq inChain inChain' owns owns') same
        · exact .inr isInterface'
      · exact .inl isInterface
  inside {owner k index} mem notInterface found := by
    obtain ⟨_, _, owns, _⟩ := exists_of_indexOf? laidOut found
    rcases mem_lookupOrder_cases hierarchy leads mem with inChain | isInterface
    · exact parted.covers.1 ⟨owner, inChain, owns⟩
    · exact absurd isInterface notInterface
  numbered {owner k index} isInterface found := by
    obtain ⟨classLike, known, _, first⟩ := exists_of_indexOf? laidOut found
    have top := (laidOut.isLaidOut known).first
    rw [superclass?_of_interface hierarchy isInterface] at top
    simpa [top] using first

/-- What has a fresh object is a class. -/
theorem keyword?_of_instantiate {heap after : Heap} {objectId : ObjectId}
    (created : (library.instantiate id).run.run heap = (.ok objectId, after)) :
    library.keyword? id = some .class := by
  unfold instantiate at created
  cases fresh : library.freshObject id with
  | error error =>
    rw [fresh] at created
    cases created
  | ok object =>
    unfold freshObject at fresh
    cases known : library.classLike? id with
    | none => simp [known] at fresh
    | some classLike =>
      rw [known] at fresh
      rw [keyword?, known, Option.map_some]
      cases kind : classLike.kind with
      | «class» => rfl
      | interface | enum => simp [kind] at fresh

end Library

/-- In every library that a compilation returns, the instance attributes that a
class sees have different indices and slots in its objects, unless they belong
to interfaces, whose attributes are numbered on their own. -/
theorem keepsApart_of_compile {declarations : List Declaration} {options : Options} {budget : Nat}
    {library : Library} (returned : (compile declarations options budget).result = .ok library)
    {id : ClassId} {heap after : Heap} {objectId : ObjectId}
    (created : (library.instantiate id).run.run heap = (.ok objectId, after)) :
    ∃ object, after.get? objectId = some object ∧ library.KeepsApart id object := by
  obtain ⟨names, before, compiled, marked⟩ := exists_compiled returned
  have hierarchy := (Library.isHierarchy compiled (sound_prelude declarations)).marked marked
  have laidOut := (Library.isLaidOut compiled).marked marked
  obtain ⟨classLike, object, known, fresh, values⟩ := Library.exists_of_instantiate created
  obtain ⟨parted, count⟩ := laidOut.isParted (laidOut.superclassChain_eq known) (by simp [known])
  rw [← count, Option.bind_some, known, Option.map_some, Option.getD_some, ← values] at parted
  have leads := hierarchy.leadsToObject laidOut known (Library.keyword?_of_instantiate created)
  exact ⟨object, fresh, Library.keepsApart hierarchy laidOut leads parted⟩

theorem keepsApart_shelves : ∃ library objectId after object,
    (compile Declaration.shelves {} 2).result = .ok library
      ∧ (library.instantiate ⟨11⟩).run.run .empty = (.ok objectId, after)
      ∧ after.get? objectId = some object ∧ library.KeepsApart ⟨11⟩ object := by
  obtain ⟨library, returned, hasShelves⟩ := exists_hasShelves
  obtain ⟨objectId, after, created⟩ :=
    Library.exists_created (hasShelves.fresh ⟨11⟩ (by simp)) .empty
  obtain ⟨object, known, keepsApart⟩ := keepsApart_of_compile returned created
  exact ⟨library, objectId, after, object, returned, created, known, keepsApart⟩

/-- An object of `Box<int>` has one slot, for its content. The class also sees
two attributes of an interface: one has the index of the content, and the other
one the index of no slot. -/
theorem exists_same_index : ∃ library objectId after object,
    (compile Declaration.shelves {} 2).result = .ok library
      ∧ (library.instantiate ⟨12⟩).run.run .empty = (.ok objectId, after)
      ∧ after.get? objectId = some object
      ∧ ⟨12⟩ ∈ library.lookupOrder ⟨12⟩ ∧ ⟨8⟩ ∈ library.lookupOrder ⟨12⟩
      ∧ library.indexOf? ⟨12⟩ 0 = some 0 ∧ library.indexOf? ⟨8⟩ 0 = some 0
      ∧ library.indexOf? ⟨8⟩ 1 = some object.attributes.length := by
  obtain ⟨library, returned, hasShelves⟩ := exists_hasShelves
  obtain ⟨objectId, after, created⟩ :=
    Library.exists_created (hasShelves.fresh ⟨12⟩ (by simp)) .empty
  obtain ⟨classLike, object, known, fresh, values⟩ := Library.exists_of_instantiate created
  obtain ⟨classLike', known', content, length, _⟩ := hasShelves.ofInt
  cases known.symm.trans known'
  obtain ⟨sized, known', indices⟩ := hasShelves.sized
  have own : classLike.instanceAttributes.map (·.index) = [0] := by
    simpa using congrArg (List.map Prod.fst) content
  refine ⟨library, objectId, after, object, returned, created, fresh, ?_, ?_, ?_, ?_, ?_⟩
  · simp [hasShelves.sees]
  · simp [hasShelves.sees]
  · rw [Library.indexOf?, known, Option.bind_some, ← List.getElem?_map, own]
    rfl
  · rw [Library.indexOf?, known', Option.bind_some, ← List.getElem?_map, indices]
    rfl
  · rw [Library.indexOf?, known', Option.bind_some, ← List.getElem?_map, indices, values, length]
    rfl

end ClassModel
