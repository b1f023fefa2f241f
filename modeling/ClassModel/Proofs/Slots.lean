import ClassModel.Library.Run
import ClassModel.Proofs.Substituted

/-!
# ClassModel.Proofs.Slots

The slots of objects. The layout of a class goes on after the one of its
superclass (`Layout.Continues`), and an instantiation has the layout of its
base, so this holds of every class-like in the end (`isLaidOut_of_compile`).
Therefore the slots of a fresh object are parted among the class-likes on the
chain of superclasses, and a method sees the attributes of its declarer in the
slots where the layout has put them (`agrees_of_compile`).
-/

namespace ClassModel

open Walk

/-! ## Layouts -/

/-- The layout goes on after a layout with the given number of slots and the
given initial values. The slots and the positions are those of the own instance
attributes and of the own static attributes, in the order of their
declaration. -/
structure Layout.Continues (layout : Layout) (count : Nat) (inherited : List Value)
    (slots positions : List Nat) : Prop where
  first : layout.firstAttributeIndex = count
  slots_eq : slots = List.range' count slots.length
  positions_eq : positions = List.range positions.length
  initialValues : ∃ own, layout.initialValues = inherited ++ own ∧ own.length = slots.length
  staticValues : layout.staticValues.length = positions.length

theorem Layout.Continues.length {layout : Layout} {count : Nat} {inherited : List Value}
    {slots positions : List Nat} (continues : layout.Continues count inherited slots positions) :
    layout.initialValues.length = inherited.length + slots.length := by
  obtain ⟨own, same, length⟩ := continues.initialValues
  rw [same, List.length_append, length]

/-! ## By names -/

namespace NamedClass

/-- The slots of the own instance attributes. -/
def slots (named : NamedClass) : List Nat := named.instanceAttributes.map (·.bare.index)

/-- The positions of the own static attributes. -/
def positions (named : NamedClass) : List Nat :=
  (named.attributes.filter (·.bare.isStatic)).map (·.bare.index)

/-- The layout goes on after that of the class-like above. -/
def IsLaidOut (named : NamedClass) (above? : Option NamedClass) : Prop :=
  named.bare.layout.Continues ((above?.map (·.attributeCount)).getD 0)
    ((above?.map (·.bare.layout.initialValues)).getD []) named.slots named.positions

/-- Attributes stay what they are when they get their slots and positions. -/
theorem forall₂_placeAttributes (slot position : Nat) (attributes : List NamedAttribute) :
    List.Forall₂ (fun placed found : NamedAttribute =>
        ∃ index, placed = { found with bare := { found.bare with index } })
      (placeAttributes slot position attributes) attributes := by
  induction attributes generalizing slot position with
  | nil => exact .nil
  | cons found attributes ih =>
    rw [placeAttributes]
    split
    · exact .cons ⟨position, rfl⟩ (ih slot (position + 1))
    · exact .cons ⟨slot, rfl⟩ (ih (slot + 1) position)

/-- Attributes keep the default values of their types when they get their slots
and positions. -/
theorem map_default_placeAttributes (select : Bool → Bool) (slot position : Nat)
    (attributes : List NamedAttribute) :
    ((placeAttributes slot position attributes).filter (select ·.bare.isStatic)).map
        (·.type.defaultValue)
      = (attributes.filter (select ·.bare.isStatic)).map (·.type.defaultValue) := by
  refine Related.map_eq (Related.filter (forall₂_placeAttributes slot position attributes) ?_) ?_
  · rintro _ found ⟨index, rfl⟩
    rfl
  · rintro found _ _ ⟨index, rfl⟩
    rfl

/-- Instance attributes get consecutive slots, and static attributes consecutive
positions. -/
theorem map_index_placeAttributes (slot position : Nat) (attributes : List NamedAttribute) :
    ((placeAttributes slot position attributes).filter (!·.bare.isStatic)).map (·.bare.index)
        = List.range' slot (attributes.filter (!·.bare.isStatic)).length
      ∧ ((placeAttributes slot position attributes).filter (·.bare.isStatic)).map (·.bare.index)
        = List.range' position (attributes.filter (·.bare.isStatic)).length := by
  induction attributes generalizing slot position with
  | nil => exact ⟨rfl, rfl⟩
  | cons found attributes ih =>
    rw [placeAttributes]
    cases isStatic : found.bare.isStatic with
    | true => simpa [isStatic, List.range'_succ] using ih slot (position + 1)
    | false => simpa [isStatic, List.range'_succ] using ih (slot + 1) position

theorem continues_layOutFrom (named : NamedClass) (first : Nat) (inherited : List Value) :
    let laidOut := (named.layOutFrom first inherited).value
    laidOut.bare.layout.Continues first inherited laidOut.slots laidOut.positions := by
  obtain ⟨values, length, same⟩ := named.value_layOutFrom first inherited
  obtain ⟨slots, positions⟩ := map_index_placeAttributes first 0 named.attributes
  have slots' : ((named.laidOut first inherited).withStaticValues values).slots
      = List.range' first named.instanceAttributes.length := slots
  have positions' : ((named.laidOut first inherited).withStaticValues values).positions
      = List.range (named.attributes.filter (·.bare.isStatic)).length :=
    positions.trans List.range_eq_range'.symm
  dsimp only
  rw [same, slots', positions']
  exact {
    first := rfl
    slots_eq := by rw [List.length_range']
    positions_eq := by rw [List.length_range]
    initialValues := ⟨_, rfl, by rw [List.length_map, List.length_range']⟩
    staticValues := by rw [List.length_range]; exact length }

theorem isLaidOut_layOut (named : NamedClass) (above? : Option NamedClass) :
    (named.layOut above?).value.IsLaidOut above? := by
  cases above? with
  | none => exact named.continues_layOutFrom 0 []
  | some above =>
    exact named.continues_layOutFrom above.attributeCount above.bare.layout.initialValues

end NamedClass

/-- Class-likes are laid out below the class-likes above them. -/
theorem isLaidOut_contentOf {options : Options} {declarations : List Declaration}
    {names : List String}
    (ordered : Ordered (superName (membersOf options declarations).value) names) {name : String}
    (mem : name ∈ names) : (contentOf options declarations names name).IsLaidOut
      ((superName (contentOf options declarations names) name).map
        (contentOf options declarations names)) := by
  rw [contentOf, value_layOutAll ordered name mem, superName_layOutAll]
  exact NamedClass.isLaidOut_layOut ..

/-! ## The way up -/

namespace Library

/-- The class-like or its base has the name. -/
def IsOf (library : Library) (id : ClassId) (name : String) : Prop :=
  library.IsNamed (library.baseOf id) name

variable {library : Library} {scope : Scope} {options : Options} {content : String → NamedClass}

theorem IsNamed.isOf {id : ClassId} {name : String} (isNamed : library.IsNamed id name) :
    library.IsOf id name := by
  obtain ⟨classLike, declared, rfl⟩ := isNamed
  rw [IsOf, baseOf_of_isDeclared declared]
  exact ⟨classLike, declared, rfl⟩

theorem Instantiates.isOf {id : ClassId} {classLike base : ClassLike}
    {specialization : Specialization} {arguments : List TypeTree}
    (instantiates : library.Instantiates scope options classLike specialization base arguments)
    (known : library.classLike? id = some classLike)
    (specialized : classLike.specialization? = some specialization) :
    library.IsOf id base.identifier := by
  rw [IsOf, baseOf, specialization?, known, Option.bind_some, specialized]
  exact ⟨base, instantiates.declared, rfl⟩

/-- A class-like that is there has a name, or its base has. -/
theorem exists_isOf (coherent : library.Coherent scope options) {id : ClassId}
    {classLike : ClassLike} (known : library.classLike? id = some classLike) :
    ∃ name, library.IsOf id name := by
  cases specialized : classLike.specialization? with
  | none =>
    have isNamed : library.IsNamed id classLike.identifier := ⟨classLike, ⟨known, specialized⟩, rfl⟩
    exact ⟨classLike.identifier, isNamed.isOf⟩
  | some specialization =>
    obtain ⟨base, _, instantiates⟩ := coherent.instantiates known specialized
    exact ⟨base.identifier, instantiates.isOf known specialized⟩

/-- What is substituted for a class-like is of the same base. -/
theorem isOf_of_substitute (coherent : library.Coherent scope options) {id id' : ClassId}
    {tree : TypeTree} {arguments : List (String × TypeTree)}
    (denotes : library.Denotes (.classLike id) tree)
    (denotes' : library.Denotes (.classLike id') (tree.substitute scope options arguments).value) :
    ∃ name, tree.className? = some name ∧ library.IsOf id' name := by
  obtain ⟨name, className, _⟩ := Refines.exists_className? coherent denotes
  obtain ⟨name', className', isNamed⟩ := Refines.exists_className? coherent denotes'
  rw [Refines.className?_substitute className] at className'
  cases className'
  exact ⟨name, className, isNamed⟩

/-- An instantiation that is filled in has the superclass that its base has,
after the substitution. -/
theorem superclass?_rel_of_specialization (coherent : library.Coherent scope options)
    (realizes : library.Realizes scope options content) {id : ClassId}
    {specialization : Specialization}
    (complete : ∀ tree, library.IsInstance id tree → library.IsComplete scope options content id)
    (found : library.specialization? id = some specialization) {name : String}
    (isNamed : library.IsNamed specialization.base name) :
    Option.Rel library.IsOf (library.superclass? id) (superName content name) := by
  obtain ⟨classLike, known, specialized⟩ := specialization?_eq_some found
  obtain ⟨base, trees, instantiates⟩ := coherent.instantiates known specialized
  obtain rfl := isNamed.name_inj ⟨base, instantiates.declared, rfl⟩
  have isInstance := instantiates.isInstance known specialized
  have filledIn := (complete _ isInstance).filledIn isInstance
  obtain ⟨specialization', found', isMaterialized⟩ := filledIn.isMaterialized
  cases found.symm.trans found'
  obtain ⟨context, shape, _, _, classLike', known', spells⟩ := filledIn.spells
  cases known.symm.trans known'
  have own : library.superclass? id = classLike.kind.superclass? := by
    simp [superclass?, hierarchyKind?, known, specialized, isMaterialized]
  have related := spells.superclass?
  simp only [Scope.instanceOf, NamedClass.substitute, NamedClass.substituteSupertypes,
    Traced.value_bind, Traced.value_pure, Traced.value_optionMapM] at related
  obtain ⟨generic, _, spellsBase⟩ := realizes _ _ isNamed
  have relatedBase := spellsBase.superclass?
  rw [own, superName]
  generalize classLike.kind.superclass? = superclass?, generic.kind.superclass? = ofBase?,
    (content base.identifier).superclass? = tree? at related relatedBase ⊢
  cases relatedBase with
  | none =>
    cases related
    exact .none
  | some means =>
    cases related with
    | some means' =>
      obtain ⟨name, className, isOf⟩ := isOf_of_substitute coherent means.denotes means'.denotes
      rw [Option.bind_some, className]
      exact .some isOf

/-- The superclass of a class-like has the name that is told by the contents of
its base. -/
theorem superclass?_rel (coherent : library.Coherent scope options)
    (realizes : library.Realizes scope options content)
    (complete : ∀ id tree, library.IsInstance id tree →
      library.IsComplete scope options content id) {id : ClassId} {name : String}
    (isOf : library.IsOf id name) :
    Option.Rel library.IsOf (library.superclass? id) (superName content name) := by
  cases found : library.specialization? id with
  | none =>
    rw [IsOf, baseOf, found] at isOf
    have related := declaredSuperclass?_rel coherent realizes isOf
    rw [declaredSuperclass?] at related
    generalize library.superclass? id = superclass?, superName content name = above? at related ⊢
    cases superclass? with
    | none =>
      cases related
      exact .none
    | some superclass =>
      cases related with
      | some isNamed => exact .some isNamed
  | some specialization =>
    rw [IsOf, baseOf, found] at isOf
    exact superclass?_rel_of_specialization coherent realizes (complete id) found isOf

end Library

/-! ## Laid out class-likes -/

namespace ClassLike

/-- The slots of the own instance attributes. -/
def slots (classLike : ClassLike) : List Nat := classLike.instanceAttributes.map (·.index)

/-- The positions of the own static attributes among the static values. -/
def positions (classLike : ClassLike) : List Nat :=
  (classLike.attributes.filter (·.isStatic)).map (·.index)

/-- The layout goes on after that of the class-like above. -/
def IsLaidOut (classLike : ClassLike) (above? : Option ClassLike) : Prop :=
  classLike.layout.Continues ((above?.map (·.attributeCount)).getD 0)
    ((above?.map (·.layout.initialValues)).getD []) classLike.slots classLike.positions

theorem IsLaidOut.index_eq {classLike : ClassLike} {above? : Option ClassLike}
    (isLaidOut : classLike.IsLaidOut above?) {k : Nat} {found : Attribute}
    (own : classLike.instanceAttributes[k]? = some found) :
    found.index = classLike.layout.firstAttributeIndex + k := by
  obtain ⟨inside, rfl⟩ := List.getElem?_eq_some_iff.1 own
  have same := congrArg (·[k]?) isLaidOut.slots_eq
  rw [← isLaidOut.first] at same
  simpa [slots, inside] using same

end ClassLike

namespace Library

/-- Every class-like is laid out, and has a way up. -/
structure IsLaidOut (library : Library) : Prop where
  isLaidOut {id : ClassId} {classLike : ClassLike} : library.classLike? id = some classLike →
    classLike.IsLaidOut ((library.superclass? id).bind library.classLike?)
  exists_path {id : ClassId} {classLike : ClassLike} : library.classLike? id = some classLike →
    ∃ path, Path library.superclass? (some id) path
  known {id superclass : ClassId} : library.superclass? id = some superclass →
    (library.classLike? superclass).isSome

section Compiled

variable {library : Library} {options : Options} {declarations : List Declaration}
  {names : List String} {diagnostics : List Diagnostic}

/-- What is laid out in a class-like is told by the contents of its base. -/
theorem exists_layout (compiled : Compiled options declarations names library diagnostics)
    {id : ClassId} {name : String} (isOf : library.IsOf id name) :
    ∃ classLike, library.classLike? id = some classLike
      ∧ classLike.layout = (contentOf options declarations names name).bare.layout
      ∧ classLike.slots = (contentOf options declarations names name).slots
      ∧ classLike.positions = (contentOf options declarations names name).positions := by
  obtain ⟨base, known, spells⟩ := compiled.realizes _ _ isOf
  have slots : base.slots = (contentOf options declarations names name).slots :=
    Related.map_eq spells.instanceAttributes fun _ _ _ spells => spells.index
  have positions : base.positions = (contentOf options declarations names name).positions :=
    Related.map_eq (Related.filter spells.attributes fun _ _ spells => spells.isStatic)
      fun _ _ _ spells => spells.index
  cases found : library.specialization? id with
  | none =>
    rw [baseOf, found] at known
    exact ⟨base, known, spells.layout, slots, positions⟩
  | some specialization =>
    rw [baseOf, found] at known
    obtain ⟨classLike, known', specialized⟩ := specialization?_eq_some found
    obtain ⟨base', declared, _, _, substituted⟩ :=
      compiled.coherent.isSubstitutedClass_of_isComplete compiled.realizes
        (fun _ _ => compiled.complete) known' specialized
    cases known.symm.trans declared.1
    have bare := congrArg ClassLike.layout substituted.rest
    have same (select : Bool → Bool) :
        (base.attributes.filter (select ·.isStatic)).map (·.index)
          = (classLike.attributes.filter (select ·.isStatic)).map (·.index) := by
      refine Related.map_eq (Related.filter substituted.attributes fun found found' same => ?_)
        fun found' _ found same => ?_
      · rw [same.rest]
      · rw [same.rest]
    exact ⟨classLike, known', bare.trans spells.layout, (same not).symm.trans slots,
      (same fun isStatic => isStatic).symm.trans positions⟩

theorem isLaidOut (compiled : Compiled options declarations names library diagnostics) :
    library.IsLaidOut := by
  have above {id : ClassId} {name : String} (isOf : library.IsOf id name) :=
    superclass?_rel compiled.coherent compiled.realizes (fun _ _ => compiled.complete) isOf
  exact {
    isLaidOut := by
      intro id classLike known
      obtain ⟨name, isOf⟩ := exists_isOf compiled.coherent known
      obtain ⟨classLike', known', layout, slots, positions⟩ := exists_layout compiled isOf
      cases known.symm.trans known'
      have named := isLaidOut_contentOf compiled.ordered (compiled.mem_names isOf)
      rw [NamedClass.IsLaidOut, ← layout, ← slots, ← positions] at named
      rw [ClassLike.IsLaidOut]
      -- the class-like above has the slots and the values that its contents tell
      have related := above isOf
      generalize library.superclass? id = superclass?,
        superName (contentOf options declarations names) name = above? at related named ⊢
      cases related with
      | none => exact named
      | some isOf =>
        obtain ⟨superclass, known, layout, slots, _⟩ := exists_layout compiled isOf
        have length := congrArg List.length slots
        rw [ClassLike.slots, NamedClass.slots, List.length_map, List.length_map] at length
        simpa [known, layout, ClassLike.attributeCount, NamedClass.attributeCount, length]
          using named
    exists_path := by
      intro id classLike known
      obtain ⟨name, isOf⟩ := exists_isOf compiled.coherent known
      obtain ⟨path, segment⟩ := compiled.ordered.exists_path (compiled.mem_names isOf)
      rw [← superName_layOutAll names] at segment
      obtain ⟨stop?, ids, segment', _, stop⟩ := segment.related
        (r := fun name id => library.IsOf id name) (.some isOf)
        fun _ _ isOf => Related.optional_flip (above isOf)
      cases stop
      exact ⟨ids, segment'⟩
    known := by
      intro id superclass found
      have known : (library.classLike? id).isSome := by
        rw [classLike?, Arena.isSome_get?, ← Arena.mem_ids]
        exact (List.mem_filter.1 (mem_ids_of_isSome_superclass? (by rw [found]; rfl))).1
      obtain ⟨classLike, known⟩ := Option.isSome_iff_exists.1 known
      obtain ⟨name, isOf⟩ := exists_isOf compiled.coherent known
      have related := above isOf
      rw [found] at related
      generalize superName _ name = above? at related
      cases related with
      | some isOf =>
        obtain ⟨classLike, known, _⟩ := exists_layout compiled isOf
        rw [known]
        rfl }

end Compiled

theorem IsLaidOut.marked {marks : ClassId → Nat → Bool} {before after : Library}
    (laidOut : before.IsLaidOut) (marked : Marked marks before after) : after.IsLaidOut where
  isLaidOut {id classLike} known := by
    rw [marked.classLike?, Option.map_eq_some_iff] at known
    obtain ⟨unmarked, known, rfl⟩ := known
    have isLaidOut := laidOut.isLaidOut known
    rw [marked.superclass?]
    cases above : before.superclass? id with
    | none =>
      rw [above] at isLaidOut
      exact isLaidOut
    | some superclass =>
      rw [above, Option.bind_some] at isLaidOut
      rw [Option.bind_some, marked.classLike?]
      cases found : before.classLike? superclass with
      | none =>
        rw [found] at isLaidOut
        exact isLaidOut
      | some found =>
        rw [found] at isLaidOut
        exact isLaidOut
  exists_path {id classLike} known := by
    rw [marked.classLike?, Option.map_eq_some_iff] at known
    obtain ⟨unmarked, known, _⟩ := known
    rw [marked.superclass?]
    exact laidOut.exists_path known
  known {id superclass} found := by
    rw [marked.superclass?] at found
    rw [marked.classLike?, Option.isSome_map]
    exact laidOut.known found

/-! ## Slots -/

/-- The slot belongs to an own attribute of the class-like. -/
def OwnsSlot (library : Library) (id : ClassId) (slot : Nat) : Prop :=
  ∃ classLike, library.classLike? id = some classLike
    ∧ classLike.layout.firstAttributeIndex ≤ slot ∧ slot < classLike.attributeCount

/-- The slots are parted among the class-likes: each belongs to one of them. -/
structure IsParted (library : Library) (ids : List ClassId) (slots : Nat) : Prop where
  disjoint : ids.Pairwise fun id id' =>
    ∀ slot, ¬ (library.OwnsSlot id slot ∧ library.OwnsSlot id' slot)
  covers {slot : Nat} : (∃ id ∈ ids, library.OwnsSlot id slot) ↔ slot < slots

/-- On the way up the slots are parted among the class-likes that are passed,
and there is a value for each. -/
theorem IsLaidOut.isParted {library : Library} (laidOut : library.IsLaidOut)
    {start? : Option ClassId} {path : List ClassId} (segment : Path library.superclass? start? path)
    (known : ∀ id ∈ start?, (library.classLike? id).isSome) :
    library.IsParted path (((start?.bind library.classLike?).map (·.attributeCount)).getD 0)
      ∧ (((start?.bind library.classLike?).map (·.layout.initialValues)).getD []).length
        = ((start?.bind library.classLike?).map (·.attributeCount)).getD 0 := by
  induction segment with
  | nil => exact ⟨⟨.nil, by simp⟩, rfl⟩
  | @cons id path later ih =>
    obtain ⟨classLike, found⟩ := Option.isSome_iff_exists.1 (known id rfl)
    obtain ⟨parted, values⟩ := ih fun superclass above => laidOut.known above
    have isLaidOut := laidOut.isLaidOut found
    have first := isLaidOut.first
    have length := isLaidOut.length
    rw [← first] at values parted
    rw [values, ClassLike.slots, List.length_map] at length
    simp only [Option.bind_some, found, Option.map_some, Option.getD_some]
    have owns (slot : Nat) : library.OwnsSlot id slot
        ↔ classLike.layout.firstAttributeIndex ≤ slot ∧ slot < classLike.attributeCount := by
      simp [OwnsSlot, found]
    refine ⟨⟨List.pairwise_cons.2 ⟨fun id' mem slot ⟨own, own'⟩ => ?_, parted.disjoint⟩, ?_⟩,
      length⟩
    · -- what is above has earlier slots only
      have before := parted.covers.1 ⟨id', mem, own'⟩
      have after := ((owns slot).1 own).1
      omega
    · intro slot
      simp only [List.mem_cons, exists_eq_or_imp, parted.covers, owns]
      rw [ClassLike.attributeCount]
      omega

/-- The chain of superclasses is the whole way up. -/
theorem IsLaidOut.superclassChain_eq {library : Library} (laidOut : library.IsLaidOut)
    {id : ClassId} {classLike : ClassLike} (known : library.classLike? id = some classLike) :
    Path library.superclass? (some id) (library.superclassChain id) := by
  obtain ⟨path, segment⟩ := laidOut.exists_path known
  rw [Library.superclassChain, along_eq segment segment.path_nodup
    (length_le_walkBound segment segment.path_nodup) (by simp)]
  exact segment

/-- There is an initial value for each slot. -/
theorem IsLaidOut.length_initialValues {library : Library} (laidOut : library.IsLaidOut)
    {id : ClassId} {classLike : ClassLike} (known : library.classLike? id = some classLike) :
    classLike.layout.initialValues.length = classLike.attributeCount := by
  obtain ⟨path, segment⟩ := laidOut.exists_path known
  simpa [known] using (laidOut.isParted segment (by simp [known])).2

theorem exists_of_freshObject {library : Library} {id : ClassId} {object : Object}
    (fresh : library.freshObject id = .ok object) : ∃ classLike,
      library.classLike? id = some classLike
        ∧ object.attributes = classLike.layout.initialValues := by
  unfold freshObject at fresh
  split at fresh
  · cases fresh
  · next classLike known =>
    split at fresh <;> cases fresh
    exact ⟨classLike, known, rfl⟩

/-- An object is created with the initial values of its class. -/
theorem exists_of_instantiate {library : Library} {id : ClassId} {heap after : Heap}
    {objectId : ObjectId}
    (created : (library.instantiate id).run.run heap = (.ok objectId, after)) :
    ∃ classLike object, library.classLike? id = some classLike
      ∧ after.get? objectId = some object ∧ object.attributes = classLike.layout.initialValues := by
  unfold instantiate at created
  cases fresh : library.freshObject id with
  | error error =>
    rw [fresh] at created
    cases created
  | ok object =>
    rw [fresh] at created
    cases created
    obtain ⟨classLike, known, values⟩ := exists_of_freshObject fresh
    exact ⟨classLike, object, known, (Arena.get?_insert ..).trans (if_pos rfl), values⟩

/-- What has a fresh object can be created in every heap. -/
theorem exists_created {library : Library} {id : ClassId}
    (fresh : (library.freshObject id).isOk = true) (heap : Heap) : ∃ objectId after,
      (library.instantiate id).run.run heap = (.ok objectId, after) := by
  unfold instantiate
  cases found : library.freshObject id with
  | error error => simp [found, Except.isOk, Except.toBool] at fresh
  | ok object => exact ⟨_, _, rfl⟩

end Library

/-- In every library that a compilation returns, the layout of a class-like goes
on after that of its superclass, and there is an initial value for each slot. -/
theorem isLaidOut_of_compile {declarations : List Declaration} {options : Options} {budget : Nat}
    {library : Library} (returned : (compile declarations options budget).result = .ok library)
    {id : ClassId} {classLike : ClassLike} (known : library.classLike? id = some classLike) :
    (∀ superclass ∈ library.superclass? id, (library.classLike? superclass).isSome)
      ∧ classLike.IsLaidOut ((library.superclass? id).bind library.classLike?)
      ∧ classLike.layout.initialValues.length = classLike.attributeCount := by
  obtain ⟨names, before, compiled, marked⟩ := exists_compiled returned
  have laidOut := (Library.isLaidOut compiled).marked marked
  exact ⟨fun superclass above => laidOut.known above, laidOut.isLaidOut known,
    laidOut.length_initialValues known⟩

theorem isLaidOut_sample : ∃ library classLike,
    (compile Declaration.sample {} 6).result = .ok library
      ∧ library.classLike? ⟨15⟩ = some classLike
      ∧ (∀ superclass ∈ library.superclass? ⟨15⟩, (library.classLike? superclass).isSome)
      ∧ classLike.IsLaidOut ((library.superclass? ⟨15⟩).bind library.classLike?)
      ∧ classLike.layout.initialValues.length = classLike.attributeCount := by
  obtain ⟨library, returned, _, isSample⟩ := exists_isSample
  obtain ⟨specialization, found⟩ := Option.isSome_iff_exists.1 isSample.specialized
  obtain ⟨classLike, known, _⟩ := Library.specialization?_eq_some found
  exact ⟨library, classLike, returned, known, isLaidOut_of_compile returned known⟩

/-! ## Frames -/

theorem Native.run_get_bind {α : Type} (next : Heap → Native α) (heap : Heap) :
    (get >>= next).run.run heap = (next heap).run.run heap := rfl

namespace Frame

variable {frame : Frame} {heap : Heap} {objectId : ObjectId} {object : Object} {offset : Nat}
  {value : Value}

theorem run_getAttribute (receiver : frame.receiver = .object objectId)
    (known : heap.get? objectId = some object)
    (found : object.attributes[frame.firstAttributeIndex + offset]? = some value) :
    (frame.getAttribute offset).run.run heap = (.ok value, heap) := by
  have receiverId : frame.receiverId = pure objectId := by
    rw [Frame.receiverId, receiver]
    rfl
  rw [getAttribute, receiverId, pure_bind, Native.run_get_bind, known, Option.bind_some, found]
  rfl

theorem run_setAttribute (receiver : frame.receiver = .object objectId)
    (known : heap.get? objectId = some object)
    (found : object.attributes[frame.firstAttributeIndex + offset]? = some value) (value' : Value) :
    (frame.setAttribute offset value').run.run heap = (.ok (), heap.modify objectId fun object =>
      { object with
        attributes := object.attributes.set (frame.firstAttributeIndex + offset) value' }) := by
  have receiverId : frame.receiverId = pure objectId := by
    rw [Frame.receiverId, receiver]
    rfl
  rw [setAttribute, receiverId, pure_bind, Native.run_get_bind, known, Option.bind_some, found]
  rfl

/-- In the heap, the frame reads and writes the slot of the object under the
offset, and touches nothing else. -/
structure Addresses (frame : Frame) (offset : Nat) (heap : Heap) (objectId : ObjectId)
    (slot : Nat) : Prop where
  get : ∃ object value, heap.get? objectId = some object ∧ object.attributes[slot]? = some value
    ∧ (frame.getAttribute offset).run.run heap = (.ok value, heap)
  set (value : Value) : ∃ after object changed,
    (frame.setAttribute offset value).run.run heap = (.ok (), after)
      ∧ heap.get? objectId = some object ∧ after.get? objectId = some changed
      ∧ changed.classIdentifier = object.classIdentifier
      ∧ changed.attributes[slot]? = some value
      ∧ (∀ other, other ≠ slot → changed.attributes[other]? = object.attributes[other]?)
      ∧ ∀ other, other ≠ objectId → after.get? other = heap.get? other

theorem addresses (receiver : frame.receiver = .object objectId)
    (known : heap.get? objectId = some object)
    (inside : frame.firstAttributeIndex + offset < object.attributes.length) :
    frame.Addresses offset heap objectId (frame.firstAttributeIndex + offset) := by
  have found := List.getElem?_eq_getElem inside
  refine ⟨⟨object, _, known, found, run_getAttribute receiver known found⟩, fun value => ?_⟩
  refine ⟨_, object, { object with
    attributes := object.attributes.set (frame.firstAttributeIndex + offset) value },
    run_setAttribute receiver known found value, known, ?_, rfl, ?_, fun other away => ?_,
    fun other away => ?_⟩
  · rw [Arena.get?_modify, if_pos rfl, known, Option.map_some]
  · rw [List.getElem?_set_self inside]
  · rw [List.getElem?_set_ne (Ne.symm away)]
  · rw [Arena.get?_modify, if_neg (Ne.symm away)]

end Frame

/-- Running the native body of the method that a signature finds is calling it
with the frame that its declarer needs. -/
theorem Library.invoke_eq {library : Library} {id declarer : ClassId} {classLike : ClassLike}
    {signature : String} {method : Method} {run : NativeFunction} (frame : Frame)
    (known : library.classLike? id = some classLike)
    (found : library.effectiveMethod? id signature = some (declarer, method))
    (native : method.body? = some (.native run)) :
    library.invoke id signature frame
      = Invocation.returned <$> runNative run (library.frameFor declarer frame) := by
  rw [invoke, known, found]
  simp [native]

/-- What the methods of a declarer see of the slots of an object that was
created in the class of the identifier. -/
structure Library.Agrees (library : Library) (id : ClassId) (objectId : ObjectId)
    (object : Object) : Prop where
  parted : library.IsParted (library.superclassChain id) object.attributes.length
  addresses {declarer : ClassId} {classLike : ClassLike} {signature : String} {method : Method} :
    declarer ∈ library.superclassChain id → library.classLike? declarer = some classLike →
      library.effectiveMethod? id signature = some (declarer, method) →
        ∀ (k : Nat) (found : Attribute), classLike.instanceAttributes[k]? = some found →
          ∀ frame : Frame, frame.receiver = .object objectId →
            (∀ run, method.body? = some (.native run) → library.invoke id signature frame
              = Invocation.returned <$> runNative run (library.frameFor declarer frame))
            ∧ ∀ (heap : Heap) (current : Object), heap.get? objectId = some current →
              current.attributes.length = object.attributes.length →
                (library.frameFor declarer frame).Addresses k heap objectId found.index

/-- In every library that a compilation returns, the slots of a new object are
parted among the class-likes on the chain of superclasses, and the methods of
each find its attributes in their slots. -/
theorem agrees_of_compile {declarations : List Declaration} {options : Options} {budget : Nat}
    {library : Library} (returned : (compile declarations options budget).result = .ok library)
    {id : ClassId} {heap after : Heap} {objectId : ObjectId}
    (created : (library.instantiate id).run.run heap = (.ok objectId, after)) :
    ∃ object, after.get? objectId = some object ∧ library.Agrees id objectId object := by
  obtain ⟨names, before, compiled, marked⟩ := exists_compiled returned
  have laidOut := (Library.isLaidOut compiled).marked marked
  obtain ⟨classLike, object, known, fresh, values⟩ := Library.exists_of_instantiate created
  obtain ⟨parted, count⟩ := laidOut.isParted (laidOut.superclassChain_eq known)
    (by simp [known])
  rw [← count, Option.bind_some, known, Option.map_some, Option.getD_some, ← values] at parted
  refine ⟨object, fresh, parted, ?_⟩
  intro declarer owner signature method mem known' found k own at_k frame receiver
  refine ⟨fun run => Library.invoke_eq frame known found, fun heap current there length => ?_⟩
  obtain ⟨inside, _⟩ := List.getElem?_eq_some_iff.1 at_k
  have index := (laidOut.isLaidOut known').index_eq at_k
  have first : (library.frameFor declarer frame).firstAttributeIndex
      = owner.layout.firstAttributeIndex := by
    rw [Library.frameFor, known']
  have slot := parted.covers.1 ⟨declarer, mem, owner, known', Nat.le_add_right _ k, by
    rw [ClassLike.attributeCount]
    omega⟩
  rw [index, ← first]
  exact Frame.addresses receiver there (by omega)

theorem agrees_sample : ∃ library objectId after object,
    (compile Declaration.sample {} 6).result = .ok library
      ∧ (library.instantiate ⟨11⟩).run.run .empty = (.ok objectId, after)
      ∧ after.get? objectId = some object ∧ library.Agrees ⟨11⟩ objectId object := by
  obtain ⟨library, returned, _, isSample⟩ := exists_isSample
  obtain ⟨objectId, after, created⟩ : ∃ objectId after,
      (library.instantiate ⟨11⟩).run.run .empty = (.ok objectId, after) := by
    have fresh := isSample.fresh
    unfold Library.instantiate
    cases found : library.freshObject ⟨11⟩ with
    | error error => simp [found, Except.isOk, Except.toBool] at fresh
    | ok object => exact ⟨_, _, rfl⟩
  obtain ⟨object, known, agrees⟩ := agrees_of_compile returned created
  exact ⟨library, objectId, after, object, returned, created, known, agrees⟩

end ClassModel
