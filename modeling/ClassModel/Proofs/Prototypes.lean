import ClassModel.Proofs.Outline

/-!
# ClassModel.Proofs.Prototypes

Libraries that keep other declarations. A class-like keeps the declaration that
it was compiled from, for its members and static values to be compiled from
there later on. Nothing else is told by it: the library with other declarations
has the same outline (`Library.sameOutline_withPrototypes`), and changing the
declarations commutes with all that is done to a library.
-/

namespace ClassModel

/-! ## Arenas -/

namespace Arena

variable {label : String} {α β : Type}

/-- Changes every item. -/
def map (change : α → β) (arena : Arena label α) : Arena label β :=
  { items := arena.items.map change }

@[simp] theorem size_map (arena : Arena label α) (change : α → β) :
    (arena.map change).size = arena.size := by
  simp [map, size]

@[simp] theorem get?_map (arena : Arena label α) (change : α → β) (id : Id label) :
    (arena.map change).get? id = (arena.get? id).map change := by
  simp [map, get?]

theorem map_insert (arena : Arena label α) (change : α → β) (item : α) :
    (arena.insert item).map change = (arena.map change).insert (change item) := by
  simp [map, insert]

theorem map_modify {change : α → β} {f : α → α} {g : β → β}
    (commute : ∀ item, change (f item) = g (change item)) (arena : Arena label α) (id : Id label) :
    (arena.modify id f).map change = (arena.map change).modify id g := by
  simp only [map, modify]
  congr 1
  refine Array.ext (by simp) fun index _ _ => ?_
  simp only [Array.getElem_map, Array.getElem_modify]
  split
  · exact commute _
  · rfl

end Arena

/-! ## Libraries -/

variable {change : Option Declaration → Option Declaration}

/-- The class-like with another declaration. -/
def ClassLike.withPrototype (change : Option Declaration → Option Declaration)
    (classLike : ClassLike) : ClassLike :=
  { classLike with prototype? := change classLike.prototype? }

@[simp] theorem ClassLike.identifier_withPrototype (classLike : ClassLike) :
    (classLike.withPrototype change).identifier = classLike.identifier := rfl

@[simp] theorem ClassLike.prototype?_withPrototype (classLike : ClassLike) :
    (classLike.withPrototype change).prototype? = change classLike.prototype? := rfl

@[simp] theorem ClassLike.specialization?_withPrototype (classLike : ClassLike) :
    (classLike.withPrototype change).specialization? = classLike.specialization? := rfl

@[simp] theorem ClassLike.kind_withPrototype (classLike : ClassLike) :
    (classLike.withPrototype change).kind = classLike.kind := rfl

namespace Library

/-- The library with other declarations of its class-likes. -/
def withPrototypes (change : Option Declaration → Option Declaration) (library : Library) :
    Library :=
  { library with classLikes := library.classLikes.map (ClassLike.withPrototype change) }

theorem classLike?_withPrototypes (library : Library) (id : ClassId) :
    (library.withPrototypes change).classLike? id
      = (library.classLike? id).map (ClassLike.withPrototype change) :=
  Arena.get?_map ..

theorem sameOutline_withPrototypes (library : Library) :
    library.SameOutline (library.withPrototypes change) where
  known {id classLike} found := by
    rw [classLike?_withPrototypes, found]
    exact ⟨_, rfl, rfl, rfl, rfl, rfl, rfl⟩
  size := Arena.size_map ..
  parameters := rfl
  types := rfl
  typeCache := rfl

theorem withPrototypes_id (library : Library) : library.withPrototypes id = library := by
  rw [withPrototypes, Arena.map, show ClassLike.withPrototype id = id from rfl, Array.map_id]

theorem withPrototypes_withPrototypes (library : Library)
    (change' : Option Declaration → Option Declaration) :
    (library.withPrototypes change).withPrototypes change'
      = library.withPrototypes (change' ∘ change) := by
  simp only [withPrototypes, Arena.map, Array.map_map]
  rfl

/-! ### Changes -/

theorem empty_withPrototypes : empty.withPrototypes change = empty := by
  simp [withPrototypes, empty, Arena.map, Arena.empty]

theorem insert_withPrototypes (library : Library) (classLike : ClassLike) :
    (library.withPrototypes change).insert (classLike.withPrototype change)
      = ((library.insert classLike).1, (library.insert classLike).2.withPrototypes change) := by
  simp only [insert, withPrototypes, Arena.map_insert, Arena.nextId, Arena.size_map]

theorem register_withPrototypes (library : Library) (classLike : ClassLike) :
    (library.withPrototypes change).register (classLike.withPrototype change)
      = (library.register classLike).map (Prod.map id (withPrototypes change)) := by
  rw [register, register, library.sameOutline_withPrototypes.byIdentifier?,
    ClassLike.identifier_withPrototype, insert_withPrototypes]
  cases library.byIdentifier? classLike.identifier <;> rfl

theorem modify_withPrototypes (library : Library) (id : ClassId) {f : ClassLike → ClassLike}
    (commute :
      ∀ classLike, (f classLike).withPrototype change = f (classLike.withPrototype change)) :
    (library.withPrototypes change).modify id f = (library.modify id f).withPrototypes change := by
  simp only [modify, withPrototypes, Arena.map_modify commute]

/-! ### Marks -/

theorem methodsOf_withPrototypes (library : Library) :
    (library.withPrototypes change).methodsOf = library.methodsOf := by
  funext id
  rw [methodsOf, methodsOf, classLike?_withPrototypes]
  cases library.classLike? id <;> rfl

theorem implementedBy_withPrototypes (library : Library) :
    (library.withPrototypes change).implementedBy = library.implementedBy := by
  have same : library.SameOutline (library.withPrototypes change) :=
    library.sameOutline_withPrototypes
  have implementedIn : (library.withPrototypes change).implementedIn = library.implementedIn := by
    funext method supertype
    unfold Library.implementedIn
    rw [methodsOf_withPrototypes, same.implements, same.baseOf]
  funext id
  rw [implementedBy, implementedBy, methodsOf_withPrototypes, same.lookupOrder, implementedIn]

theorem markVirtual_withPrototypes (library : Library) (ref : MethodRef) :
    (library.withPrototypes change).markVirtual ref
      = (library.markVirtual ref).withPrototypes change := by
  refine library.modify_withPrototypes ref.1 fun _ => ?_
  rfl

theorem shareMarksOf_withPrototypes (library : Library) (id : ClassId) :
    (library.withPrototypes change).shareMarksOf id
      = (library.shareMarksOf id).withPrototypes change := by
  rw [shareMarksOf, shareMarksOf, library.sameOutline_withPrototypes.specialization?,
    methodsOf_withPrototypes]
  cases library.specialization? id with
  | none => rfl
  | some specialization =>
    refine library.modify_withPrototypes id fun _ => ?_
    rfl

theorem flagVirtual_withPrototypes (library : Library) :
    (library.withPrototypes change).flagVirtual = library.flagVirtual.withPrototypes change := by
  have marked (refs : List MethodRef) : refs.foldl markVirtual (library.withPrototypes change)
      = (refs.foldl markVirtual library).withPrototypes change :=
    List.foldl_hom (withPrototypes change) markVirtual_withPrototypes
  have shared (library : Library) (ids : List ClassId) :
      ids.foldl shareMarksOf (library.withPrototypes change)
        = (ids.foldl shareMarksOf library).withPrototypes change :=
    List.foldl_hom (withPrototypes change) shareMarksOf_withPrototypes
  simp only [flagVirtual, implementedBy_withPrototypes, marked, shared]
  rw [library.sameOutline_withPrototypes.types, sameOutline_withPrototypes _ |>.ids]

end Library

end ClassModel
