import ClassModel.Proofs.Ancestry

/-!
# ClassModel.Proofs.Cycles

Cutting the cycles of superclasses. The classes are gone through in the order of
their registration, and a class is cut off if it is still on a cycle. Earlier
cuts break the cycles of the classes that were cut off and no others
(`Library.IsCut.redirects`), so these are the first ones on their cycles
(`Library.IsCut.isAboveItself_iff`): each cycle is cut once, and afterwards every
class leads up to the root class (`cutsCycles_breakCycles`).
-/

namespace ClassModel

open Walk

/-- The class with the root class as its superclass. -/
def ClassLike.extending (object : ClassId) (classLike : ClassLike) : ClassLike :=
  { classLike with kind := classLike.kind.withSuperclass (some object) }

namespace Library

variable {library before after : Library} {id other object : ClassId}
  {cuts earlier later path : List ClassId}

/-! ## Before the cuts -/

/-- The declared class-likes, when their headers are read: above a class there
are declared classes, the root class has nothing above it, and every other class
has a superclass. -/
structure HasHeaders (library : Library) (object : ClassId) : Prop where
  nodup : library.types.Nodup
  isObject : library.objectId? = some object
  isClass : library.keyword? object = some .class
  declared {id : ClassId} : id ∈ library.types → ∃ classLike, library.IsDeclared id classLike
  above {id above : ClassId} : id ∈ library.types → library.declaredSuperclass? id = some above →
    above ∈ library.types ∧ library.keyword? above = some .class
  top : library.declaredSuperclass? object = none
  rooted {id : ClassId} : id ∈ library.types → library.keyword? id = some .class →
    library.declaredSuperclass? id = none → id = object

theorem HasHeaders.mem_types (headers : library.HasHeaders object) : object ∈ library.types :=
  List.mem_of_find?_eq_some headers.isObject

/-- No class is registered twice. -/
theorem HasHeaders.not_mem_earlier (headers : library.HasHeaders object)
    (types : library.types = earlier ++ id :: later) : id ∉ earlier := by
  have nodup := headers.nodup
  rw [types] at nodup
  exact fun mem => (List.nodup_append.1 nodup).2.2 id mem id (by simp) rfl

/-- Only classes are on cycles. -/
theorem HasHeaders.isClass_of_cycle (headers : library.HasHeaders object) (mem : id ∈ library.types)
    (cycle : Cycle library.declaredSuperclass? id path) : library.keyword? id = some .class := by
  obtain ⟨classLike, declared⟩ := headers.declared mem
  have above := cycle.isSome
  rw [declaredSuperclass?, Option.isSome_map, superclass?_of_isDeclared declared] at above
  exact (keyword?_eq_class_iff declared.1).2 (Kind.isClass_of_isSome_superclass? above)

/-- The class is on a cycle of superclasses, and no other class on it was
registered earlier. -/
def IsFirstOnCycle (library : Library) (id : ClassId) : Prop :=
  ∃ path, Cycle library.declaredSuperclass? id path
    ∧ library.types.find? (id :: path).contains = some id

/-- The root class is on no cycle. -/
theorem HasHeaders.not_isFirstOnCycle (headers : library.HasHeaders object) :
    ¬ library.IsFirstOnCycle object := by
  rintro ⟨path, cycle, _⟩
  have above := cycle.isSome
  rw [headers.top] at above
  cases above

/-- From each class on a cycle, the same one is found to be the first. -/
theorem isFirstOnCycle_iff (cycle : Cycle library.declaredSuperclass? id path)
    (mem : other ∈ id :: path) :
    library.IsFirstOnCycle other ↔ library.types.find? (id :: path).contains = some other := by
  obtain ⟨path', cycle', perm⟩ := cycle.rotate mem
  have same : (other :: path').contains = (id :: path).contains := by
    funext node
    rw [Bool.eq_iff_iff, List.contains_iff_mem, List.contains_iff_mem, perm.mem_iff]
  rw [← same]
  constructor
  · rintro ⟨path'', cycle'', first⟩
    rwa [cycle'.unique cycle'']
  · exact fun first => ⟨path', cycle', first⟩

/-- On each cycle there is one class that was registered first. -/
theorem exists_isFirstOnCycle (cycle : Cycle library.declaredSuperclass? id path)
    (mem : id ∈ library.types) : ∃ first ∈ library.types, first ∈ id :: path
      ∧ ∀ other ∈ id :: path, library.IsFirstOnCycle other ↔ other = first := by
  obtain ⟨first, found⟩ : ∃ first, library.types.find? (id :: path).contains = some first := by
    rw [← Option.isSome_iff_exists, List.find?_isSome]
    exact ⟨id, mem, by simp⟩
  refine ⟨first, List.mem_of_find?_eq_some found, by simpa using List.find?_some found,
    fun other mem => ?_⟩
  rw [isFirstOnCycle_iff cycle mem, found, Option.some.injEq, eq_comm]

/-! ## Cuts -/

/-- The library in which some classes extend the root class instead. Nothing else
is different. -/
structure IsCut (cuts : List ClassId) (object : ClassId) (before after : Library) : Prop where
  classLike? (id : ClassId) : after.classLike? id
    = (before.classLike? id).map fun classLike =>
      if id ∈ cuts then classLike.extending object else classLike
  size : after.classLikes.size = before.classLikes.size
  parameters : after.parameters = before.parameters
  types : after.types = before.types
  typeCache : after.typeCache = before.typeCache

namespace IsCut

theorem refl (object : ClassId) (library : Library) : IsCut [] object library library where
  classLike? id := by simp
  size := rfl
  parameters := rfl
  types := rfl
  typeCache := rfl

/-- A further cut. -/
theorem snoc (isCut : IsCut cuts object before after) (new : id ∉ cuts) :
    IsCut (cuts ++ [id]) object before (after.modify id (·.extending object)) where
  classLike? other := by
    rw [classLike?_modify, isCut.classLike?]
    by_cases same : id = other
    · subst same
      simp [new]
    · simp [same, Ne.symm same]
  size := (Arena.size_modify ..).trans isCut.size
  parameters := isCut.parameters
  types := isCut.types
  typeCache := isCut.typeCache

variable (isCut : IsCut cuts object before after)

include isCut

/-- What does not depend on the superclass is the same for each class-like. -/
theorem bind_classLike? {β : Type} {f : ClassLike → Option β}
    (keeps : ∀ classLike, f (classLike.extending object) = f classLike) (id : ClassId) :
    (after.classLike? id).bind f = (before.classLike? id).bind f := by
  rw [isCut.classLike?]
  cases before.classLike? id with
  | none => rfl
  | some classLike =>
    rw [Option.map_some, Option.bind_some, Option.bind_some]
    split
    · exact keeps classLike
    · rfl

theorem baseOf : after.baseOf = before.baseOf := by
  funext id
  rw [Library.baseOf, Library.baseOf, specialization?, specialization?,
    isCut.bind_classLike? (f := (·.specialization?)) fun _ => rfl]

theorem objectId? : after.objectId? = before.objectId? := by
  rw [Library.objectId?, Library.objectId?, byIdentifier?, byIdentifier?, isCut.types]
  congr 1
  funext id
  rw [Option.map_eq_bind, Option.map_eq_bind, isCut.bind_classLike? fun _ => rfl]

theorem keyword? : after.keyword? = before.keyword? := by
  funext id
  rw [Library.keyword?, Library.keyword?, Option.map_eq_bind, Option.map_eq_bind,
    isCut.bind_classLike? fun _ => by simp [ClassLike.extending]]

theorem isDeclared {classLike : ClassLike} (declared : before.IsDeclared id classLike) :
    after.IsDeclared id (if id ∈ cuts then classLike.extending object else classLike) := by
  refine ⟨by rw [isCut.classLike?, declared.1, Option.map_some], ?_⟩
  by_cases cut : id ∈ cuts
  · rw [if_pos cut]
    exact declared.2
  · rw [if_neg cut]
    exact declared.2

/-- A class that was cut off extends the root class. -/
theorem superclass?_of_mem (headers : before.HasHeaders object) (mem : id ∈ before.types)
    (isClass : before.keyword? id = some .class) (cut : id ∈ cuts) :
    after.superclass? id = some object := by
  obtain ⟨classLike, declared⟩ := headers.declared mem
  rw [superclass?_of_isDeclared (isCut.isDeclared declared), if_pos cut]
  exact Kind.superclass?_withSuperclass ((keyword?_eq_class_iff declared.1).1 isClass) _

/-- What is above the declared classes changes for those that were cut off. -/
theorem redirects (headers : before.HasHeaders object)
    (cyclic : ∀ id ∈ cuts, id ∈ before.types ∧ before.IsFirstOnCycle id) :
    Redirects (· ∈ before.types) (· ∈ cuts) object before.declaredSuperclass?
      after.declaredSuperclass? where
  changed {id} cut := by
    obtain ⟨mem, path, cycle, _⟩ := cyclic id cut
    obtain ⟨root, declared⟩ := headers.declared headers.mem_types
    rw [declaredSuperclass?,
      isCut.superclass?_of_mem headers mem (headers.isClass_of_cycle mem cycle) cut,
      Option.map_some, isCut.baseOf, baseOf_of_isDeclared declared]
  kept {id} mem kept := by
    obtain ⟨classLike, declared⟩ := headers.declared mem
    rw [declaredSuperclass?, declaredSuperclass?, isCut.baseOf, superclass?_of_isDeclared declared,
      superclass?_of_isDeclared (isCut.isDeclared declared), if_neg kept]
  closed mem found := (headers.above mem found).1
  inside_top := headers.mem_types
  ends := headers.top
  top_kept cut := headers.not_isFirstOnCycle (cyclic object cut).2

/-- When the cycles of the earlier classes are cut, a class is still on a cycle if
it is the first one on it. -/
theorem isAboveItself_iff (headers : before.HasHeaders object)
    (types : before.types = earlier ++ id :: later)
    (mem_cuts : ∀ other, other ∈ cuts ↔ other ∈ earlier ∧ before.IsFirstOnCycle other) :
    after.isAboveItself id = true ↔ before.IsFirstOnCycle id := by
  have mem : id ∈ before.types := by simp [types]
  have redirects := isCut.redirects headers fun other cut =>
    ⟨by simp [types, ((mem_cuts other).1 cut).1], ((mem_cuts other).1 cut).2⟩
  rw [isAboveItself_iff_cycle]
  simp only [redirects.cycle_iff mem]
  constructor
  · rintro ⟨path, cycle, uncut⟩
    refine ⟨path, cycle, ?_⟩
    -- An earlier class on the cycle would lead to the first one, which is cut off.
    have none : earlier.find? (id :: path).contains = none := by
      cases found : earlier.find? (id :: path).contains with
      | none => rfl
      | some first =>
        have onCycle : first ∈ id :: path := by simpa using List.find?_some found
        refine absurd ((mem_cuts first).2 ⟨List.mem_of_find?_eq_some found, ?_⟩)
          (uncut first onCycle)
        rw [isFirstOnCycle_iff cycle onCycle, types, List.find?_append, found, Option.some_or]
    rw [types, List.find?_append, none, Option.none_or, List.find?_cons_of_pos (by simp)]
  · rintro ⟨path, cycle, first⟩
    refine ⟨path, cycle, fun other onCycle cut => ?_⟩
    obtain ⟨isEarlier, isFirst⟩ := (mem_cuts other).1 cut
    rw [isFirstOnCycle_iff cycle onCycle, first, Option.some.injEq] at isFirst
    exact headers.not_mem_earlier types (isFirst ▸ isEarlier)

/-- Above a class there are only classes. -/
theorem isClass_of_segment (headers : before.HasHeaders object)
    (cyclic : ∀ id ∈ cuts, id ∈ before.types ∧ before.IsFirstOnCycle id) (mem : id ∈ before.types)
    (isClass : before.keyword? id = some .class) {stop? : Option ClassId}
    (segment : Segment after.declaredSuperclass? stop? (some id) path) :
    ∀ node ∈ path, node ∈ before.types ∧ before.keyword? node = some .class := by
  have redirects := isCut.redirects headers cyclic
  refine segment.forall_mem (by simp [mem, isClass]) fun node ⟨mem, _⟩ above found => ?_
  by_cases cut : node ∈ cuts
  · cases (redirects.changed cut).symm.trans found
    exact ⟨headers.mem_types, headers.isClass⟩
  · exact headers.above mem ((redirects.kept mem cut).symm.trans found)

/-- When each cycle is cut, there is none left: the first class on it would be cut
off. -/
theorem not_cycle (headers : before.HasHeaders object)
    (mem_cuts : ∀ other, other ∈ cuts ↔ other ∈ before.types ∧ before.IsFirstOnCycle other)
    (mem : id ∈ before.types) : ¬ Cycle after.declaredSuperclass? id path := by
  intro cycle
  have redirects := isCut.redirects headers fun other => (mem_cuts other).1
  obtain ⟨cycle, uncut⟩ := (redirects.cycle_iff mem).1 cycle
  obtain ⟨first, registered, onCycle, isFirst⟩ := exists_isFirstOnCycle cycle mem
  exact uncut first onCycle ((mem_cuts first).2 ⟨registered, (isFirst first onCycle).2 rfl⟩)

/-- When each cycle is cut, every class leads up to the root class. -/
theorem exists_path (headers : before.HasHeaders object)
    (mem_cuts : ∀ other, other ∈ cuts ↔ other ∈ before.types ∧ before.IsFirstOnCycle other)
    (mem : id ∈ before.types) (isClass : before.keyword? id = some .class) :
    ∃ path, Path after.declaredSuperclass? (some id) path ∧ path.getLast? = some object := by
  have cyclic (other : ClassId) := (mem_cuts other).1
  have redirects := isCut.redirects headers cyclic
  obtain ⟨path, segment⟩ := Walk.exists_path
    (fun path stop? => after.length_declared_le_walkBound) fun node earlier later first cycle => by
      have reached := isCut.isClass_of_segment headers cyclic mem isClass (first.append cycle.1)
      exact isCut.not_cycle headers mem_cuts (reached node (by simp)).1 cycle
  obtain ⟨last, isLast, found, ends⟩ := segment.exists_getLast?
  obtain ⟨registered, isClass⟩ :=
    isCut.isClass_of_segment headers cyclic mem isClass segment last isLast
  have kept : last ∉ cuts := fun cut => by
    rw [redirects.changed cut] at ends
    cases ends
  rw [redirects.kept registered kept] at ends
  exact ⟨path, segment, found.trans (congrArg some (headers.rooted registered isClass ends))⟩

end IsCut

end Library

/-! ## Going through the classes -/

/-- What going through some classes does: those that are the first ones on their
cycles are cut off and reported. -/
structure CutsOff (visited cuts : List ClassId) (object : ClassId) (before after : BuildState) :
    Prop where
  sublist : cuts.Sublist visited
  mem_cuts : ∀ id, id ∈ cuts ↔ id ∈ visited ∧ before.library.IsFirstOnCycle id
  isCut : Library.IsCut cuts object before.library after.library
  log : after.log.toList = before.log.toList ++ cuts.map .cyclicInheritance
  pending : after.pending = before.pending

namespace CutsOff

variable {before state : BuildState} {earlier later cuts : List ClassId} {object id : ClassId}

theorem refl (object : ClassId) (before : BuildState) : CutsOff [] [] object before before where
  sublist := .slnil
  mem_cuts id := by simp
  isCut := .refl object before.library
  log := (List.append_nil _).symm
  pending := rfl

/-- One more class. -/
theorem breakCycle (headers : before.library.HasHeaders object)
    (cutsOff : CutsOff earlier cuts object before state)
    (types : before.library.types = earlier ++ id :: later) :
    (Build.breakCycle id).Yields state fun _ after =>
      ∃ cuts, CutsOff (earlier ++ [id]) cuts object before after := by
  have isAboveItself_iff := cutsOff.isCut.isAboveItself_iff headers types cutsOff.mem_cuts
  have new : id ∉ cuts := fun cut =>
    headers.not_mem_earlier types (cutsOff.sublist.subset cut)
  unfold Build.breakCycle
  rw [Build.yields_bind, Build.yields_library]
  by_cases first : before.library.IsFirstOnCycle id
  · obtain ⟨classLike, declared⟩ := headers.declared (types ▸ by simp : id ∈ before.library.types)
    have away : object ≠ id := fun same => headers.not_isFirstOnCycle (same ▸ first)
    have change : (fun classLike : ClassLike => { classLike with
          kind := classLike.kind.withSuperclass (state.library.objectId?.filter (· != id)) })
        = (·.extending object) := by
      rw [cutsOff.isCut.objectId?, headers.isObject, Option.filter_some,
        if_pos (by simpa using away)]
      rfl
    rw [if_pos (isAboveItself_iff.2 first), Build.yields_bind, Build.yields_report, change]
    refine (@Build.yields_modifyClassLike { state with log := state.log.report _ } _ _ _
      (cutsOff.isCut.isDeclared declared).1 _).2 ⟨cuts ++ [id], ?_⟩
    constructor
    case sublist => exact cutsOff.sublist.append_right [id]
    case mem_cuts =>
      intro other
      rw [List.mem_append, List.mem_append, cutsOff.mem_cuts, List.mem_singleton, or_and_right]
      exact or_congr_right ⟨fun same => ⟨same, same ▸ first⟩, And.left⟩
    case isCut => exact cutsOff.isCut.snoc new
    case log => rw [Log.toList_report, cutsOff.log, List.append_assoc, List.map_append]; rfl
    case pending => exact cutsOff.pending
  · rw [if_neg (mt isAboveItself_iff.1 first), Build.yields_pure]
    refine ⟨cuts, { cutsOff with
      sublist := cutsOff.sublist.trans (List.sublist_append_left _ _)
      mem_cuts := fun other => ?_ }⟩
    rw [cutsOff.mem_cuts, List.mem_append, List.mem_singleton, or_and_right]
    exact (or_iff_left fun ⟨same, isFirst⟩ => first (same ▸ isFirst)).symm

/-- All further classes. -/
theorem breakCycles (headers : before.library.HasHeaders object)
    (cutsOff : CutsOff earlier cuts object before state)
    (types : before.library.types = earlier ++ later) :
    (later.forM Build.breakCycle).Yields state fun _ after =>
      ∃ cuts, CutsOff before.library.types cuts object before after := by
  induction later generalizing earlier cuts state with
  | nil =>
    rw [List.append_nil] at types
    exact ⟨cuts, types ▸ cutsOff⟩
  | cons id later ih =>
    show (Build.breakCycle id >>= fun _ => later.forM Build.breakCycle).Yields _ _
    rw [Build.yields_bind]
    refine (cutsOff.breakCycle headers types).mono fun _ after ⟨cuts, cutsOff⟩ => ?_
    exact ih cutsOff (by rw [types, List.append_assoc]; rfl)

end CutsOff

/-- Of each cycle one class is cut off, the one that was registered first. No other
class-like changes, and every class leads up to the root class. -/
structure CutsCycles (cuts : List ClassId) (object : ClassId) (before after : BuildState) : Prop
    extends CutsOff before.library.types cuts object before after where
  nodup : cuts.Nodup
  isObject : before.library.objectId? = some object
  /-- So there is one report for each cycle. -/
  existsUnique : ∀ id ∈ before.library.types, ∀ path,
    Cycle before.library.declaredSuperclass? id path → ∃! cut, cut ∈ cuts ∧ cut ∈ id :: path
  superclass? : ∀ id ∈ cuts, after.library.superclass? id = some object
  leads : ∀ id ∈ after.library.types, after.library.keyword? id = some .class →
    ∃ path, Path after.library.declaredSuperclass? (some id) path ∧ path.getLast? = some object

theorem CutsOff.cutsCycles {before after : BuildState} {cuts : List ClassId} {object : ClassId}
    (headers : before.library.HasHeaders object)
    (cutsOff : CutsOff before.library.types cuts object before after) :
    CutsCycles cuts object before after where
  toCutsOff := cutsOff
  nodup := cutsOff.sublist.nodup headers.nodup
  isObject := headers.isObject
  existsUnique id mem path cycle := by
    obtain ⟨first, registered, onCycle, isFirst⟩ := Library.exists_isFirstOnCycle cycle mem
    refine ⟨first,
      ⟨(cutsOff.mem_cuts first).2 ⟨registered, (isFirst first onCycle).2 rfl⟩, onCycle⟩,
      fun other ⟨cut, onCycle⟩ => (isFirst other onCycle).1 ((cutsOff.mem_cuts other).1 cut).2⟩
  superclass? id cut := by
    obtain ⟨mem, path, cycle, _⟩ := (cutsOff.mem_cuts id).1 cut
    exact cutsOff.isCut.superclass?_of_mem headers mem (headers.isClass_of_cycle mem cycle) cut
  leads id mem isClass := by
    rw [cutsOff.isCut.types] at mem
    rw [cutsOff.isCut.keyword?] at isClass
    exact cutsOff.isCut.exists_path headers cutsOff.mem_cuts mem isClass

/-! ## The stage before the cuts -/

section Headers

variable {library : Library} {scope : Scope} {options : Options} {content : String → NamedClass}
  {id above : ClassId} {name : String}

/-- Above a class there is a declared class, if its superclass is accepted. -/
theorem Library.isClass_declaredSuperclass? (coherent : library.Coherent scope options)
    (realizes : library.Realizes scope options content) (placed : (content name).IsPlaced scope)
    (isNamed : library.IsNamed id name) (found : library.declaredSuperclass? id = some above) :
    above ∈ library.types ∧ library.keyword? above = some .class := by
  have related := declaredSuperclass?_rel coherent realizes isNamed
  rw [found] at related
  cases named : superName content name with
  | none =>
    rw [named] at related
    cases related
  | some superName =>
    rw [named] at related
    cases related with
    | some isNamed =>
      obtain ⟨tree, above, className⟩ := Option.bind_eq_some_iff.1 named
      have keyword := placed.superclass? tree above
      rw [Scope.keyword?, className, Option.bind_some,
        ← keyword?_of_isNamed coherent isNamed] at keyword
      obtain ⟨classLike, declared, _⟩ := isNamed
      exact ⟨coherent.mem_types.2 ⟨classLike, declared⟩, keyword⟩

theorem Library.declaredSuperclass?_eq_none_iff (coherent : library.Coherent scope options)
    (realizes : library.Realizes scope options content) (isNamed : library.IsNamed id name) :
    library.declaredSuperclass? id = none ↔ superName content name = none := by
  rw [← Option.isNone_iff_eq_none, ← Option.isNone_iff_eq_none,
    Related.isNone_eq (declaredSuperclass?_rel coherent realizes isNamed)]

/-- Whether a class-like is a class is told by its contents. -/
theorem Library.isClass_of_keyword? (realizes : library.Realizes scope options content)
    (isNamed : library.IsNamed id name) (isClass : library.keyword? id = some .class) :
    (content name).bare.kind.isClass = true := by
  obtain ⟨classLike, known, spells⟩ := realizes id name isNamed
  rw [← spells.kind, Kind.isClass_withoutSupertypes]
  exact (keyword?_eq_class_iff known).1 isClass

/-- The declared class-likes have their headers if their contents do. -/
theorem Library.exists_hasHeaders (coherent : library.Coherent scope options)
    (realizes : library.Realizes scope options content)
    (placed : ∀ name, (content name).IsPlaced scope)
    (rooted : ∀ name, (content name).IsRooted name)
    (root : superName content Standard.objectIdentifier = none) :
    ∃ object, library.HasHeaders object := by
  obtain ⟨object, isObject, isNamed⟩ := coherent.exists_objectId?
  refine ⟨object, ?_⟩
  constructor
  case nodup => exact coherent.types_nodup
  case isObject => exact isObject
  case isClass => rw [keyword?_of_isNamed coherent isNamed, coherent.object]; rfl
  case declared => exact coherent.mem_types.1
  case top => exact (declaredSuperclass?_eq_none_iff coherent realizes isNamed).2 root
  case above =>
    intro id superclass mem found
    obtain ⟨classLike, declared⟩ := coherent.mem_types.1 mem
    exact isClass_declaredSuperclass? coherent realizes (placed _) ⟨classLike, declared, rfl⟩ found
  case rooted =>
    intro id mem isClass top
    obtain ⟨classLike, declared⟩ := coherent.mem_types.1 mem
    have isNamed' : library.IsNamed id classLike.identifier := ⟨classLike, declared, rfl⟩
    have top := (NamedClass.superName_eq_none_iff (placed _)).1
      ((declaredSuperclass?_eq_none_iff coherent realizes isNamed').1 top)
    rw [rooted _ (isClass_of_keyword? realizes isNamed' isClass) top] at isNamed'
    exact coherent.isNamed_inj isNamed' isNamed

end Headers

namespace Build

/-- The first stage, and the headers. -/
def readHeaders (options : Options) (declarations : List Declaration) : Build (List Intake) := do
  let intakes ← registerAll options declarations
  intakes.forM (resolveHeader options)
  return intakes

/-- What follows when the cycles are cut. -/
def finish (options : Options) (budget : Nat) (intakes : List Intake) : Build Unit := do
  intakes.forM fun intake => compileMembers options intake.id
  layOutAll
  materializeAll options budget
  setLibrary (← library).flagVirtual

theorem compileAll_eq_readHeaders (options : Options) (budget : Nat)
    (declarations : List Declaration) :
    compileAll options budget declarations = readHeaders options declarations >>= fun intakes =>
      breakCycles >>= fun _ => finish options budget intakes := by
  simp only [compileAll, readHeaders, finish, bind_assoc, pure_bind]

/-- The declared class-likes have their headers when the cycles are cut. -/
theorem yields_readHeaders (options : Options) {declarations : List Declaration}
    (sound : Registration.Sound (registrationsOf declarations)) :
    (readHeaders options declarations).Yields {} fun _ before =>
      ∃ object, before.library.HasHeaders object := by
  unfold readHeaders
  rw [yields_bind]
  refine (Registering.registerAll_start options declarations).mono
    fun intakes registered ⟨registering, takes⟩ => ?_
  have isRegistered : registered.library.Registered
      ((registrationsOf declarations).map Registration.entry) := registering.registered
  have coherent : registered.library.Coherent (scopeOf declarations) options :=
    isRegistered.coherent sound
  rw [yields_bind]
  refine Yields.mono (Refines.resolveHeaders coherent (isRegistered.realizes sound) takes)
    fun _ before ⟨coherent, _, realizes⟩ => ?_
  exact Library.exists_hasHeaders coherent realizes (isPlaced_resolveHeaders coherent.object)
    isRooted_resolveHeaders
    (Registration.superName_resolveHeaders (nodup_declaredNames declarations) sound.first)

end Build

/-- Whatever is declared, every cycle of superclasses is cut once, at the class that
was registered first. This comes to its end with one report for each cycle, in the
order of registration, and afterwards every declared class leads up to the root
class. -/
theorem cutsCycles_breakCycles (options : Options) (declarations : List Declaration) :
    ∃ intakes before cuts object after,
      (Build.readHeaders options (Standard.prelude ++ declarations)).run.run {}
          = (.ok intakes, before)
        ∧ Build.breakCycles.run.run before = (.ok (), after)
        ∧ CutsCycles cuts object before after
        ∧ ∀ budget,
          (Build.compileAll options budget (Standard.prelude ++ declarations)).run.run {}
            = (Build.finish options budget intakes).run.run after := by
  have sound := sound_prelude declarations
  generalize Standard.prelude ++ declarations = all at sound ⊢
  obtain ⟨intakes, before, read, object, headers⟩ :=
    (Build.yields_readHeaders options sound).exists_run
  have yields : Build.breakCycles.Yields before fun _ after =>
      ∃ cuts, CutsOff before.library.types cuts object before after := by
    unfold Build.breakCycles
    rw [Build.yields_bind, Build.yields_library]
    exact (CutsOff.refl object before).breakCycles headers rfl
  obtain ⟨_, after, run, cuts, cutsOff⟩ := yields.exists_run
  refine ⟨intakes, before, cuts, object, after, read, run, cutsOff.cutsCycles headers,
    fun budget => ?_⟩
  rw [Build.compileAll_eq_readHeaders, Build.run_bind, read]
  dsimp only
  rw [Build.run_bind, run]

end ClassModel
