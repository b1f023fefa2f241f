import ClassModel.Proofs.Outline
import ClassModel.Proofs.Worklist

/-!
# ClassModel.Proofs.Marks

Marking the virtual methods. The last stage sets marks on methods and changes
nothing else (`Library.Marked`), so whatever was established before it still
holds. Which methods it marks is told by the library before it
(`marked_flagVirtual`): those that are implemented, and in an instantiation
those whose counterparts in the base are marked.
-/

namespace ClassModel

/-! ## Marks -/

/-- A method that may get a mark. -/
def Method.mark (isMarked : Bool) (method : Method) : Method :=
  { method with isVirtual := method.isVirtual || isMarked }

/-- A class-like whose methods get marks by their positions. -/
def ClassLike.mark (marks : Nat → Bool) (classLike : ClassLike) : ClassLike :=
  { classLike with methods := classLike.methods.mapIdx fun index => Method.mark (marks index) }

@[simp] theorem Method.mark_mark (method : Method) (isMarked isMarked' : Bool) :
    (method.mark isMarked).mark isMarked' = method.mark (isMarked || isMarked') := by
  simp [mark, Bool.or_assoc]

@[simp] theorem Method.mark_false (method : Method) : method.mark false = method := by
  simp [mark]

@[simp] theorem ClassLike.mark_mark (classLike : ClassLike) (marks marks' : Nat → Bool) :
    (classLike.mark marks).mark marks'
      = classLike.mark fun index => marks index || marks' index := by
  simp [mark, Function.comp_def]

@[simp] theorem ClassLike.mark_false (classLike : ClassLike) :
    classLike.mark (fun _ => false) = classLike := by
  have same (methods : List Method) : methods.mapIdx (fun _ => Method.mark false) = methods := by
    refine List.ext_getElem? fun index => ?_
    rw [List.getElem?_mapIdx]
    cases methods[index]? <;> simp
  rw [mark, same]

/-- Marks leave what does not look at them. -/
theorem ClassLike.map_methods_mark {α : Type} {read : Method → α}
    (reads : ∀ (method : Method) (isMarked : Bool), read (method.mark isMarked) = read method)
    (classLike : ClassLike) (marks : Nat → Bool) :
    (classLike.mark marks).methods.map read = classLike.methods.map read := by
  refine List.ext_getElem? fun index => ?_
  rw [List.getElem?_map, List.getElem?_map, mark, List.getElem?_mapIdx, Option.map_map]
  exact congrArg (Option.map · _) (funext fun method => reads method _)

theorem ClassLike.sameOutline_mark (classLike : ClassLike) (marks : Nat → Bool) :
    classLike.SameOutline (classLike.mark marks) := ⟨rfl, rfl, rfl, rfl, rfl⟩

namespace Library

/-- The library with marks on some methods. Marks leave its outline as it
is. -/
structure Marked (marks : ClassId → Nat → Bool) (before after : Library) : Prop
    extends before.SameOutline after where
  classLike? (id : ClassId) : after.classLike? id = (before.classLike? id).map (·.mark (marks id))

namespace Marked

variable {marks marks' : ClassId → Nat → Bool} {first before after third : Library}

theorem refl (library : Library) : Marked (fun _ _ => false) library library where
  toSameOutline := .refl library
  classLike? id := by simp

theorem trans (h : Marked marks first before) (h' : Marked marks' before third) :
    Marked (fun id index => marks id index || marks' id index) first third where
  toSameOutline := h.toSameOutline.trans h'.toSameOutline
  classLike? id := by
    rw [h'.classLike?, h.classLike?, Option.map_map]
    congr 1
    funext classLike
    exact ClassLike.mark_mark ..

theorem congr (h : Marked marks before after)
    (same : ∀ id index, marks id index = marks' id index) : Marked marks' before after := by
  have same : marks = marks' := funext fun id => funext (same id)
  exact same ▸ h

/-- Which methods implement others does not depend on marks. -/
theorem implements_mark (h : Marked marks before after) (method overridden : Method)
    (isMarked isMarked' : Bool) :
    after.implements (method.mark isMarked) (overridden.mark isMarked')
      = before.implements method overridden := by
  rw [h.implements, Library.implements, Library.implements, resultFits, resultFits]
  rfl

/-- Marks revise the class-likes without further consequences. -/
theorem revises (h : Marked marks before after) : before.Revises (fun _ => True) after where
  types := h.types
  classLike {id classLike} known := by
    refine ⟨classLike.mark (marks id), by rw [h.classLike?, known, Option.map_some], ?_,
      fun away => absurd trivial away⟩
    exact ⟨rfl, rfl, rfl, rfl, rfl, rfl, rfl⟩
  created {id classLike} known new := by
    rw [h.classLike?, new] at known
    cases known
  parameter known := ⟨_, by rw [parameter?, h.parameters]; exact known, rfl, rfl, fun _ => rfl⟩
  parameter_old known := ⟨_, by rw [parameter?, ← h.parameters]; exact known⟩
  size := h.size
  cacheOf place? := by
    cases place? with
    | none => exact h.typeCache
    | some id =>
      rw [cacheOf, cacheOf, h.classLike?]
      cases before.classLike? id <;> rfl

theorem methodsOf (h : Marked marks before after) (id : ClassId) :
    after.methodsOf id = (before.methodsOf id).mapIdx fun index =>
      Method.mark (marks id index) := by
  rw [Library.methodsOf, Library.methodsOf, h.classLike?]
  cases before.classLike? id <;> rfl

theorem map_methodsOf {α : Type} {read : Method → α} (h : Marked marks before after)
    (reads : ∀ (method : Method) (isMarked : Bool), read (method.mark isMarked) = read method)
    (id : ClassId) : (after.methodsOf id).map read = (before.methodsOf id).map read := by
  rw [Library.methodsOf, Library.methodsOf, h.classLike?]
  cases before.classLike? id with
  | none => rfl
  | some classLike => exact classLike.map_methods_mark reads _

/-- A method was there before it got its mark. -/
theorem exists_unmarked (h : Marked marks before after) {id : ClassId} {i : Nat} {method : Method}
    (own : (after.methodsOf id)[i]? = some method) : ∃ unmarked,
      (before.methodsOf id)[i]? = some unmarked ∧ unmarked.mark (marks id i) = method := by
  rw [h.methodsOf, List.getElem?_mapIdx, Option.map_eq_some_iff] at own
  exact own

end Marked

/-! ## The marks of the last stage -/

/-- The methods that are implemented by some method. -/
def implementedRefs (library : Library) : List MethodRef :=
  library.types.flatMap library.implementedBy

/-- Whether a method of the base of an instantiation is marked. -/
def baseMark (library : Library) (id : ClassId) (index : Nat) : Bool :=
  match library.specialization? id with
  | some specialization =>
    ((library.methodsOf specialization.base)[index]?.map (·.isVirtual)).getD false
  | none => false

theorem marked_modify (library : Library) (id : ClassId) (marks : Nat → Bool) :
    Marked (fun other index => id == other && marks index) library
      (library.modify id (·.mark marks)) where
  known {other classLike} found := by
    rw [Library.classLike?] at found
    rw [Library.classLike?, modify, Arena.get?_modify, found]
    split
    · exact ⟨_, rfl, classLike.sameOutline_mark marks⟩
    · exact ⟨_, rfl, .refl _⟩
  classLike? other := by
    rw [Library.classLike?, modify, Arena.get?_modify]
    by_cases same : id = other
    · subst same
      simp [Library.classLike?]
    · have unmarked : (id == other) = false := beq_false_of_ne same
      simp [same, unmarked, Library.classLike?]
  size := Arena.size_modify ..
  parameters := rfl
  types := rfl
  typeCache := rfl

theorem marked_markVirtual (library : Library) (ref : MethodRef) :
    Marked (fun id index => ref == (id, index)) library (library.markVirtual ref) := by
  have change : library.markVirtual ref = library.modify ref.1 (·.mark (ref.2 == ·)) := by
    rw [markVirtual]
    congr 1
    funext classLike
    rw [ClassLike.mark]
    congr 1
    refine List.ext_getElem? fun index => ?_
    rw [List.getElem?_modify, List.getElem?_mapIdx]
    by_cases same : ref.2 = index
    · cases classLike.methods[index]? <;> simp [same, Method.mark]
    · have unmarked : (ref.2 == index) = false := beq_false_of_ne same
      cases classLike.methods[index]? <;> simp [same, unmarked]
  rw [change]
  exact marked_modify ..

theorem marked_markAll (library : Library) (refs : List MethodRef) :
    Marked (fun id index => refs.contains (id, index)) library
      (refs.foldl markVirtual library) := by
  induction refs generalizing library with
  | nil => exact (Marked.refl library).congr (by simp)
  | cons ref refs ih =>
    refine ((library.marked_markVirtual ref).trans (ih _)).congr fun id index => ?_
    rw [List.contains_cons]
    congr 1
    exact Bool.beq_comm

theorem marked_shareMarksOf (library : Library) (id : ClassId) :
    Marked (fun other index => id == other && library.baseMark id index) library
      (library.shareMarksOf id) := by
  unfold shareMarksOf baseMark
  cases library.specialization? id with
  | none => exact (Marked.refl library).congr (by simp)
  | some specialization =>
    have change (base : List Method) (classLike : ClassLike) :
        { classLike with methods := shareMarks base classLike.methods }
          = classLike.mark fun index => (base[index]?.map (·.isVirtual)).getD false := by
      rw [ClassLike.mark]
      congr 1
      refine List.ext_getElem? fun index => ?_
      rw [shareMarks, List.getElem?_map, List.getElem?_zipIdx, List.getElem?_mapIdx]
      cases classLike.methods[index]? <;> simp [Method.mark]
    simp only [change]
    exact marked_modify ..

/-- Sharing the marks of an instantiation marks no base, so the order in which
instantiations share the marks of their bases does not matter. -/
theorem marked_shareAll (library : Library) (ids : List ClassId)
    (plain : ∀ id specialization, library.specialization? id = some specialization →
      library.specialization? specialization.base = none) :
    Marked (fun id index => ids.contains id && library.baseMark id index) library
      (ids.foldl shareMarksOf library) := by
  induction ids generalizing library with
  | nil => exact (Marked.refl library).congr (by simp)
  | cons id ids ih =>
    have step := library.marked_shareMarksOf id
    have rest := ih (library.shareMarksOf id) (by simpa only [step.specialization?] using plain)
    have baseMark_eq : (library.shareMarksOf id).baseMark = library.baseMark := by
      funext other index
      rw [baseMark, baseMark, step.specialization?]
      cases specialized : library.specialization? other with
      | none => rfl
      | some specialization =>
        dsimp only
        have unmarked (index : Nat) :
            (id == specialization.base && library.baseMark id index) = false := by
          rw [Bool.and_eq_false_imp, beq_iff_eq]
          rintro rfl
          rw [baseMark, plain other specialization specialized]
        rw [step.methodsOf, List.getElem?_mapIdx, Option.map_map, unmarked]
        cases (library.methodsOf specialization.base)[index]? <;> simp
    rw [baseMark_eq] at rest
    refine (step.trans rest).congr fun other index => ?_
    rw [List.contains_cons, Bool.and_or_distrib_right]
    congr 1
    by_cases same : id = other
    · subst same
      rfl
    · rw [beq_false_of_ne same, beq_false_of_ne (Ne.symm same), Bool.false_and, Bool.false_and]

/-- Whether the last stage marks a method. -/
def marks (library : Library) (id : ClassId) (index : Nat) : Bool :=
  library.implementedRefs.contains (id, index) ||
    match library.specialization? id with
    | some specialization =>
      ((library.methodsOf specialization.base)[index]?.map (·.isVirtual ||
        library.implementedRefs.contains (specialization.base, index))).getD false
    | none => false

/-- What is implemented in an instantiation is implemented in its base. -/
theorem mem_implementedRefs_base {library : Library}
    (plain : ∀ id specialization, library.specialization? id = some specialization →
      library.specialization? specialization.base = none) {id : ClassId} {index : Nat}
    {specialization : Specialization} (found : library.specialization? id = some specialization)
    (mem : (id, index) ∈ library.implementedRefs) :
    (specialization.base, index) ∈ library.implementedRefs := by
  simp only [implementedRefs, implementedBy, List.mem_flatMap] at mem ⊢
  obtain ⟨source, listed, method, own, supertype, above, mem⟩ := mem
  refine ⟨source, listed, method, own, supertype, above, ?_⟩
  simp only [implementedIn, List.mem_flatMap] at mem ⊢
  obtain ⟨candidate, atIndex, mem⟩ := mem
  refine ⟨candidate, atIndex, ?_⟩
  split at mem
  · next implemented =>
    rw [if_pos implemented]
    simp only [List.mem_cons, Prod.mk.injEq, List.not_mem_nil, or_false] at mem ⊢
    rcases mem with ⟨rfl, rfl⟩ | ⟨rfl, rfl⟩
    · exact .inr ⟨by rw [baseOf, found], rfl⟩
    · -- a base is no instantiation
      unfold baseOf at found
      split at found
      · next inner => rw [plain _ _ inner] at found; cases found
      · next bare => rw [bare] at found; cases found
  · simp at mem

/-- A method of an instantiation is marked as the one of its base is. -/
theorem marks_eq_base {library : Library}
    (plain : ∀ id specialization, library.specialization? id = some specialization →
      library.specialization? specialization.base = none) {id : ClassId} {index : Nat}
    {specialization : Specialization} (found : library.specialization? id = some specialization)
    {method : Method} (own : (library.methodsOf specialization.base)[index]? = some method) :
    (method.isVirtual || library.marks id index)
      = (method.isVirtual || library.marks specialization.base index) := by
  have base : (id, index) ∈ library.implementedRefs
      → (specialization.base, index) ∈ library.implementedRefs :=
    mem_implementedRefs_base plain found
  rw [← List.contains_iff_mem, ← List.contains_iff_mem] at base
  rw [marks, marks, found, plain _ _ found]
  dsimp only
  rw [own, Option.map_some, Option.getD_some]
  revert base
  cases library.implementedRefs.contains (id, index) <;>
    cases library.implementedRefs.contains (specialization.base, index) <;>
      cases method.isVirtual <;> simp

/-- The last stage marks methods and does nothing else. -/
theorem marked_flagVirtual {library : Library}
    (plain : ∀ id specialization, library.specialization? id = some specialization →
      library.specialization? specialization.base = none) :
    Marked library.marks library library.flagVirtual := by
  have first := library.marked_markAll library.implementedRefs
  generalize same : library.implementedRefs.foldl markVirtual library = marked at first
  have second := marked.marked_shareAll marked.classLikes.ids
    (by simpa only [first.specialization?] using plain)
  have flagged : library.flagVirtual = marked.classLikes.ids.foldl shareMarksOf marked := by
    rw [← same]
    rfl
  rw [flagged]
  refine (first.trans second).congr fun id index => ?_
  rw [marks]
  congr 1
  rw [baseMark, first.specialization?]
  cases specialized : library.specialization? id with
  | none => simp
  | some specialization =>
    have listed : marked.classLikes.ids.contains id = true := by
      obtain ⟨classLike, known, _⟩ := specialization?_eq_some specialized
      rw [List.contains_iff_mem, first.ids, Arena.mem_ids, ← Arena.isSome_get?]
      exact Option.isSome_iff_exists.2 ⟨classLike, known⟩
    dsimp only
    rw [listed, Bool.true_and, first.methodsOf, List.getElem?_mapIdx, Option.map_map]
    rfl

end Library

end ClassModel
