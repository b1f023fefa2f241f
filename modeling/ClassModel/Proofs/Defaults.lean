import ClassModel.Proofs.Slots

/-!
# ClassModel.Proofs.Defaults

What a fresh object holds. The initial values of a class go with the types of
its attributes as they are declared, after those of its superclass
(`NamedClass.initialValues_layOut`), and an instantiation takes them over from
its base. Therefore a slot holds the default value for the type of its
attribute, unless that is a primitive type in place of a generic parameter
(`holdsDefaults_of_compile`).
-/

namespace ClassModel

open Walk

/-! ## By names -/

namespace NamedClass

/-- The default values of the own instance attributes. -/
def defaults (named : NamedClass) : List Value :=
  named.instanceAttributes.map (·.type.defaultValue)

theorem initialValues_layOutFrom (named : NamedClass) (first : Nat) (inherited : List Value) :
    let laidOut := (named.layOutFrom first inherited).value
    laidOut.bare.layout.initialValues = inherited ++ laidOut.defaults := by
  obtain ⟨values, _, same⟩ := named.value_layOutFrom first inherited
  have defaults : ((named.laidOut first inherited).withStaticValues values).defaults
      = named.defaults :=
    map_default_placeAttributes not first 0 named.attributes
  dsimp only
  rw [same, defaults]
  rfl

/-- A class-like takes over the initial values of the one above it, and adds
the default values of its own attributes. -/
theorem initialValues_layOut (named : NamedClass) (above? : Option NamedClass) :
    (named.layOut above?).value.bare.layout.initialValues
      = ((above?.map (·.bare.layout.initialValues)).getD [])
        ++ (named.layOut above?).value.defaults := by
  cases above? with
  | none => exact named.initialValues_layOutFrom 0 []
  | some above =>
    exact named.initialValues_layOutFrom above.attributeCount above.bare.layout.initialValues

end NamedClass

theorem initialValues_contentOf {options : Options} {declarations : List Declaration}
    {names : List String}
    (ordered : Ordered (superName (membersOf options declarations).value) names) {name : String}
    (mem : name ∈ names) :
    let content := contentOf options declarations names
    (content name).bare.layout.initialValues
      = ((superName content name).map fun above =>
          (content above).bare.layout.initialValues).getD []
        ++ (content name).defaults := by
  dsimp only
  rw [contentOf, value_layOutAll ordered name mem, superName_layOutAll,
    NamedClass.initialValues_layOut, Option.map_map]
  rfl

/-! ## Substituted types -/

/-- A type that is not a primitive type has no default value but `null`. -/
theorem Ty.defaultValue_of_not_isValuePrimitive {type : Ty}
    (reference : type.isValuePrimitive = false) : type.defaultValue = .null := by
  unfold isValuePrimitive at reference
  unfold defaultValue
  cases found : type.primitive? with
  | none => rfl
  | some primitive =>
    rw [found] at reference
    cases primitive <;> first | rfl | cases reference

theorem Ty.defaultValue_array (type : Ty) {dimension : Nat} (positive : 0 < dimension) :
    (type.array dimension).defaultValue = .null := by
  cases type with
  | arrayOf => rw [array_arrayOf _ _ positive]; rfl
  | primitive | classLike | parameter => rw [array_of_isArray_eq_false rfl positive]; rfl

namespace Library

/-- The class-likes stay class-likes when an argument is substituted. -/
theorem substitutedFrom?_classLike {library : Library} {options : Options}
    {substitution : Substitution} {inArgument : Ty → Option Ty} {id : ClassId} {type : Ty}
    (substituted : library.substitutedFrom? options substitution inArgument (.classLike id)
      = some type) : ∃ id', type = .classLike id' := by
  rw [substitutedFrom?] at substituted
  cases found : library.specialization? id with
  | none =>
    rw [found] at substituted
    cases substituted
    exact ⟨id, rfl⟩
  | some specialization =>
    rw [found] at substituted
    simp only [Option.bind_eq_bind, Option.bind_eq_some_iff] at substituted
    obtain ⟨arguments, _, substituted⟩ := substituted
    split at substituted
    · cases substituted
      exact ⟨id, rfl⟩
    · split at substituted
      · cases substituted
        exact ⟨specialization.base, rfl⟩
      · obtain ⟨id', _, rfl⟩ := Option.map_eq_some_iff.1 substituted
        exact ⟨id', rfl⟩

/-- Substitution keeps the default value of a type that is not a generic
parameter itself. -/
theorem defaultValue_of_substituted? {library : Library} {options : Options}
    {substitution : Substitution} {type type' : Ty} (normal : type.IsNormal)
    (substituted : library.substituted? options substitution type = some type') :
    (∃ parameter, type = .parameter parameter) ∨ type'.defaultValue = type.defaultValue := by
  obtain ⟨inArgument, inType⟩ : ∃ inArgument,
      library.substitutedFrom? options substitution inArgument type = some type' := by
    rw [substituted?] at substituted
    cases depth : library.depthOf type with
    | zero => exact ⟨_, depth ▸ substituted⟩
    | succ depth' => exact ⟨_, depth ▸ substituted⟩
  cases type with
  | primitive primitive =>
    cases inType
    exact .inr rfl
  | classLike id =>
    obtain ⟨id', rfl⟩ := substitutedFrom?_classLike inType
    exact .inr rfl
  | parameter parameter => exact .inl ⟨parameter, rfl⟩
  | arrayOf item dimension =>
    obtain ⟨item', _, rfl⟩ := Option.map_eq_some_iff.1 inType
    exact .inr (item'.defaultValue_array normal.2)

/-! ## Initial values -/

/-- The types of the own instance attributes where they are declared. -/
def declaredTypes (library : Library) (id : ClassId) : List Ty :=
  ((library.classLike? (library.baseOf id)).map (·.instanceAttributes.map (·.type))).getD []

/-- The initial values go with the declared types, and the types that are not
generic parameters keep their default values. -/
structure HasDefaults (library : Library) : Prop where
  initialValues {id : ClassId} {classLike : ClassLike} : library.classLike? id = some classLike →
    classLike.layout.initialValues
      = (((library.superclass? id).bind library.classLike?).map (·.layout.initialValues)).getD []
        ++ (library.declaredTypes id).map Ty.defaultValue
  types {id : ClassId} {classLike : ClassLike} : library.classLike? id = some classLike →
    List.Forall₂ (fun declared found => (∃ parameter, declared = .parameter parameter)
        ∨ found.type.defaultValue = declared.defaultValue)
      (library.declaredTypes id) classLike.instanceAttributes

section Compiled

variable {library : Library} {options : Options} {declarations : List Declaration}
  {names : List String} {diagnostics : List Diagnostic}

theorem map_defaultValue_declaredTypes
    (compiled : Compiled options declarations names library diagnostics) {id : ClassId}
    {name : String} (isOf : library.IsOf id name) :
    (library.declaredTypes id).map Ty.defaultValue
      = (contentOf options declarations names name).defaults := by
  obtain ⟨base, known, spells⟩ := compiled.realizes _ _ isOf
  rw [declaredTypes, known, Option.map_some, Option.getD_some, List.map_map]
  exact Related.map_eq spells.instanceAttributes fun _ _ _ spells =>
    spells.type.denotes.defaultValue_eq

theorem hasDefaults (compiled : Compiled options declarations names library diagnostics) :
    library.HasDefaults where
  initialValues {id classLike} known := by
    obtain ⟨name, isOf⟩ := exists_isOf compiled.coherent known
    obtain ⟨classLike', known', layout, _⟩ := exists_layout compiled isOf
    cases known.symm.trans known'
    rw [layout, map_defaultValue_declaredTypes compiled isOf,
      initialValues_contentOf compiled.ordered (compiled.mem_names isOf)]
    -- the class-like above has the values that its contents tell
    have related := superclass?_rel compiled.coherent compiled.realizes
      (fun _ _ => compiled.complete) isOf
    generalize library.superclass? id = superclass?,
      superName (contentOf options declarations names) name = above? at related ⊢
    cases related with
    | none => rfl
    | some isOf' =>
      obtain ⟨above, known, layout, _⟩ := exists_layout compiled isOf'
      rw [Option.bind_some, known, Option.map_some, Option.map_some, layout]
  types {id classLike} known := by
    cases specialized : classLike.specialization? with
    | none =>
      rw [declaredTypes, baseOf_of_isDeclared ⟨known, specialized⟩, known, Option.map_some,
        Option.getD_some, List.forall₂_map_left_iff, List.forall₂_same]
      exact fun found _ => .inr rfl
    | some specialization =>
      obtain ⟨base, declared, _, _, substituted⟩ :=
        compiled.coherent.isSubstitutedClass_of_isComplete compiled.realizes
          (fun _ _ => compiled.complete) known specialized
      have baseOf : library.baseOf id = specialization.base := by
        rw [Library.baseOf, specialization?, known, Option.bind_some, specialized]
      rw [declaredTypes, baseOf, declared.1, Option.map_some, Option.getD_some,
        List.forall₂_map_left_iff]
      have attributes := Related.filter (p := (!·.isStatic)) (q := (!·.isStatic))
        substituted.attributes fun found found' same => by rw [same.rest]
      obtain ⟨_, known', spells⟩ := compiled.realizes _ _ ⟨base, declared, rfl⟩
      cases declared.1.symm.trans known'
      have normal : ∀ own ∈ base.instanceAttributes, own.type.IsNormal := by
        intro own mem
        obtain ⟨_, _, spells⟩ := Related.exists_of_mem spells.instanceAttributes.flip mem
        exact spells.type.denotes.isNormal
      exact ((List.forall₂_and_left _ _).2 ⟨normal, attributes⟩).imp fun _ _ both =>
        defaultValue_of_substituted? both.1 both.2.type

end Compiled

theorem Marked.declaredTypes {marks : ClassId → Nat → Bool} {before after : Library}
    (marked : Marked marks before after) (id : ClassId) :
    after.declaredTypes id = before.declaredTypes id := by
  rw [Library.declaredTypes, Library.declaredTypes, marked.baseOf, marked.classLike?,
    Option.map_map]
  rfl

/-- Marks do not change the initial values of the superclass. -/
theorem Marked.map_initialValues {marks : ClassId → Nat → Bool} {before after : Library}
    (marked : Marked marks before after) (id : ClassId) :
    ((after.superclass? id).bind after.classLike?).map (·.layout.initialValues)
      = ((before.superclass? id).bind before.classLike?).map (·.layout.initialValues) := by
  rw [marked.superclass?]
  cases before.superclass? id with
  | none => rfl
  | some superclass =>
    rw [Option.bind_some, Option.bind_some, marked.classLike?, Option.map_map]
    rfl

theorem HasDefaults.marked {marks : ClassId → Nat → Bool} {before after : Library}
    (hasDefaults : before.HasDefaults) (marked : Marked marks before after) :
    after.HasDefaults where
  initialValues {id classLike} known := by
    rw [marked.classLike?, Option.map_eq_some_iff] at known
    obtain ⟨unmarked, known, rfl⟩ := known
    have initialValues := hasDefaults.initialValues known
    rw [marked.map_initialValues, marked.declaredTypes]
    exact initialValues
  types {id classLike} known := by
    rw [marked.classLike?, Option.map_eq_some_iff] at known
    obtain ⟨unmarked, known, rfl⟩ := known
    rw [marked.declaredTypes]
    have types := hasDefaults.types known
    exact types

/-- On the way up, each class-like has the default values for the declared types
of its attributes in its own slots. -/
theorem HasDefaults.getElem?_initialValues {library : Library} (hasDefaults : library.HasDefaults)
    (laidOut : library.IsLaidOut) {start? : Option ClassId} {path : List ClassId}
    (segment : Path library.superclass? start? path)
    (known : ∀ id ∈ start?, (library.classLike? id).isSome) {owner : ClassId} {own : ClassLike}
    (mem : owner ∈ path) (knownOwner : library.classLike? owner = some own) {k : Nat} {type : Ty}
    (declared : (library.declaredTypes owner)[k]? = some type) :
    (((start?.bind library.classLike?).map (·.layout.initialValues)).getD
      [])[own.layout.firstAttributeIndex + k]? = some type.defaultValue := by
  induction segment with
  | nil => cases mem
  | @cons id path later ih =>
    obtain ⟨classLike, found⟩ := Option.isSome_iff_exists.1 (known id rfl)
    have knownAbove : ∀ superclass ∈ library.superclass? id,
        (library.classLike? superclass).isSome := fun superclass above => laidOut.known above
    rw [Option.bind_some, found, Option.map_some, Option.getD_some,
      hasDefaults.initialValues found]
    rcases List.mem_cons.1 mem with rfl | mem
    · -- the own values come after the inherited ones
      cases found.symm.trans knownOwner
      have length := (laidOut.isParted later knownAbove).2
      rw [← (laidOut.isLaidOut found).first] at length
      rw [← length, List.getElem?_append_right (Nat.le_add_right ..), Nat.add_sub_cancel_left,
        List.getElem?_map, declared, Option.map_some]
    · have inherited := ih knownAbove mem
      obtain ⟨inside, _⟩ := List.getElem?_eq_some_iff.1 inherited
      rw [List.getElem?_append_left inside]
      exact inherited

/-! ## Fresh objects -/

/-- The type of the own instance attribute is a generic parameter where it is
declared, and a primitive type takes its place. -/
structure IsFilledByPrimitive (library : Library) (owner : ClassId) (k : Nat) (found : Attribute) :
    Prop where
  declared : ∃ parameter, (library.declaredTypes owner)[k]? = some (.parameter parameter)
  filled : found.type.isValuePrimitive = true

/-- What the slots of a fresh object of the class hold, attribute by attribute
of the class and its superclasses. -/
structure HoldsDefaults (library : Library) (id : ClassId) (object : Object) : Prop where
  default {owner : ClassId} {classLike : ClassLike} {k : Nat} {found : Attribute} :
    owner ∈ library.superclassChain id → library.classLike? owner = some classLike →
      classLike.instanceAttributes[k]? = some found →
        ¬ library.IsFilledByPrimitive owner k found →
          object.attributes[found.index]? = some found.type.defaultValue
  /-- A primitive type in place of a generic parameter comes too late. -/
  null {owner : ClassId} {classLike : ClassLike} {k : Nat} {found : Attribute} :
    owner ∈ library.superclassChain id → library.classLike? owner = some classLike →
      classLike.instanceAttributes[k]? = some found →
        library.IsFilledByPrimitive owner k found → object.attributes[found.index]? = some .null

/-- A fresh object has the default values for the declared types in its slots. -/
theorem HasDefaults.getElem?_attributes {library : Library} (hasDefaults : library.HasDefaults)
    (laidOut : library.IsLaidOut) {id : ClassId} {classLike : ClassLike} {object : Object}
    (known : library.classLike? id = some classLike)
    (values : object.attributes = classLike.layout.initialValues) {owner : ClassId}
    {own : ClassLike} (mem : owner ∈ library.superclassChain id)
    (knownOwner : library.classLike? owner = some own) {k : Nat} {found : Attribute}
    (at_k : own.instanceAttributes[k]? = some found) :
    ∃ type, (library.declaredTypes owner)[k]? = some type
      ∧ object.attributes[found.index]? = some type.defaultValue
      ∧ ((∃ parameter, type = .parameter parameter)
        ∨ found.type.defaultValue = type.defaultValue) := by
  obtain ⟨type, declared, kept⟩ := Related.exists_getElem? (hasDefaults.types knownOwner) at_k
  have value := hasDefaults.getElem?_initialValues laidOut (laidOut.superclassChain_eq known)
    (by simp [known]) mem knownOwner declared
  rw [Option.bind_some, known, Option.map_some, Option.getD_some, ← values] at value
  rw [(laidOut.isLaidOut knownOwner).index_eq at_k]
  exact ⟨type, declared, value, kept⟩

end Library

/-- In every library that a compilation returns, a fresh object holds the
default values for the types of its attributes, except where a primitive type
takes the place of a generic parameter: there it holds `null`. -/
theorem holdsDefaults_of_compile {declarations : List Declaration} {options : Options}
    {budget : Nat} {library : Library}
    (returned : (compile declarations options budget).result = .ok library) {id : ClassId}
    {heap after : Heap} {objectId : ObjectId}
    (created : (library.instantiate id).run.run heap = (.ok objectId, after)) :
    ∃ object, after.get? objectId = some object ∧ library.HoldsDefaults id object := by
  obtain ⟨names, before, compiled, marked⟩ := exists_compiled returned
  have laidOut := (Library.isLaidOut compiled).marked marked
  have hasDefaults := (Library.hasDefaults compiled).marked marked
  obtain ⟨classLike, object, known, fresh, values⟩ := Library.exists_of_instantiate created
  refine ⟨object, fresh, ?_, ?_⟩
  · intro owner own k found mem knownOwner at_k plain
    obtain ⟨type, declared, value, kept⟩ :=
      hasDefaults.getElem?_attributes laidOut known values mem knownOwner at_k
    rw [value]
    rcases kept with ⟨parameter, rfl⟩ | kept
    · -- a generic parameter and what it stands for, if no primitive type, are `null` alike
      have reference : found.type.isValuePrimitive = false := by
        by_contra filled
        exact plain ⟨⟨parameter, declared⟩, by simpa using filled⟩
      rw [Ty.defaultValue_of_not_isValuePrimitive reference]
      rfl
    · rw [kept]
  · intro owner own k found mem knownOwner at_k filled
    obtain ⟨type, declared, value, _⟩ :=
      hasDefaults.getElem?_attributes laidOut known values mem knownOwner at_k
    obtain ⟨parameter, declared'⟩ := filled.declared
    cases declared.symm.trans declared'
    rw [value]
    rfl

theorem holdsDefaults_shelves : ∃ library objectId after object,
    (compile Declaration.shelves {} 2).result = .ok library
      ∧ (library.instantiate ⟨11⟩).run.run .empty = (.ok objectId, after)
      ∧ after.get? objectId = some object ∧ library.HoldsDefaults ⟨11⟩ object := by
  obtain ⟨library, returned, hasShelves⟩ := exists_hasShelves
  obtain ⟨objectId, after, created⟩ :=
    Library.exists_created (hasShelves.fresh ⟨11⟩ (by simp)) .empty
  obtain ⟨object, known, holdsDefaults⟩ := holdsDefaults_of_compile returned created
  exact ⟨library, objectId, after, object, returned, created, known, holdsDefaults⟩

/-- The attribute of `Box<int>` in place of a generic parameter is of the type
`int`, and holds `null` in a fresh object. -/
theorem exists_null_of_int : ∃ library objectId after object classLike found,
    (compile Declaration.shelves {} 2).result = .ok library
      ∧ (library.instantiate ⟨12⟩).run.run .empty = (.ok objectId, after)
      ∧ after.get? objectId = some object
      ∧ ⟨12⟩ ∈ library.superclassChain ⟨12⟩ ∧ library.classLike? ⟨12⟩ = some classLike
      ∧ found ∈ classLike.instanceAttributes ∧ found.type.defaultValue = .int 0
      ∧ object.attributes[found.index]? = some .null := by
  obtain ⟨library, returned, hasShelves⟩ := exists_hasShelves
  obtain ⟨objectId, after, created⟩ :=
    Library.exists_created (hasShelves.fresh ⟨12⟩ (by simp)) .empty
  obtain ⟨classLike, object, known, fresh, values⟩ := Library.exists_of_instantiate created
  obtain ⟨classLike', known', attributes, _, blank⟩ := hasShelves.ofInt
  cases known.symm.trans known'
  obtain ⟨found, mem, same⟩ : ∃ found ∈ classLike.instanceAttributes,
      (found.index, found.type) = (0, .primitive .int) := by
    rw [← List.mem_map, attributes]
    simp
  obtain ⟨index, type⟩ := Prod.mk.inj same
  refine ⟨library, objectId, after, object, classLike, found, returned, created, fresh, ?_, known,
    mem, ?_, ?_⟩
  · simp [hasShelves.chain]
  · rw [type]
    rfl
  · rw [index, values]
    obtain ⟨value, first, isNull⟩ := (Option.any_eq_true ..).1 blank
    rw [first]
    cases value <;> first | rfl | cases isNull

end ClassModel
