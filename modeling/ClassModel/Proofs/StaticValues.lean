import ClassModel.Proofs.Defaults
import ClassModel.Proofs.Further
import ClassModel.Proofs.Invariant
import ClassModel.Proofs.Mute

/-!
# ClassModel.Proofs.StaticValues

Where supplied values land. A declaration supplies values for static attributes
by name. A static attribute holds the last value that is supplied for its name,
or else the default value of its type; a value for any other name is reported
and has no effect. An instantiation answers as its base does
(`landsValues_of_compile`).
-/

namespace ClassModel

open Walk

/-- Where only one of the values answers with anything, that is all there is. -/
theorem flatMap_of_nodup {α β : Type} {values : List α} (nodup : values.Nodup) {value : α}
    (mem : value ∈ values) {f : α → List β}
    (others : ∀ other ∈ values, other ≠ value → f other = []) : values.flatMap f = f value := by
  obtain ⟨before, after, rfl⟩ := List.append_of_mem mem
  obtain ⟨_, later, apart⟩ := List.nodup_append.1 nodup
  have first : before.flatMap f = [] := List.flatMap_eq_nil_iff.2 fun other mem =>
    others other (by simp [mem]) (apart other mem value (by simp))
  have last : after.flatMap f = [] := List.flatMap_eq_nil_iff.2 fun other mem =>
    others other (by simp [mem]) fun same => (List.nodup_cons.1 later).1 (same ▸ mem)
  rw [List.flatMap_append, List.flatMap_cons, first, last, List.append_nil, List.nil_append]

/-- Where the keys are told apart, what is searched by its key and passes a test
is found among what passes the test. -/
theorem filter_find?_eq_some_iff {α : Type} {key : α → String} {test : α → Bool} {values : List α}
    (nodup : (values.map key).Nodup) {searched : String} {found : α} :
    (values.find? (key · == searched)).filter test = some found
      ↔ (found ∈ values ∧ test found = true) ∧ key found = searched := by
  rw [Option.filter_eq_some_iff]
  constructor
  · rintro ⟨first, passes⟩
    exact ⟨⟨List.mem_of_find?_eq_some first, passes⟩, by simpa using List.find?_some first⟩
  · rintro ⟨⟨mem, passes⟩, rfl⟩
    refine ⟨?_, passes⟩
    cases first : values.find? (key · == key found) with
    | none => simpa using List.find?_eq_none.1 first found mem
    | some other =>
      have same : key other = key found := by simpa using List.find?_some first
      rw [List.inj_on_of_nodup_map nodup (List.mem_of_find?_eq_some first) mem same]

/-! ## By names -/

namespace NamedClass

variable {named : NamedClass}

def staticAttributes (named : NamedClass) : List NamedAttribute :=
  named.attributes.filter (·.bare.isStatic)

/-- Where attributes are told apart by their names, a static attribute is found
by its name. -/
theorem HasNames.staticAttribute?_eq_some_iff (names : named.HasNames) {identifier : String}
    {found : NamedAttribute} : named.staticAttribute? identifier = some found
      ↔ found ∈ named.staticAttributes ∧ found.bare.identifier = identifier := by
  rw [staticAttribute?, staticAttributes, filter_find?_eq_some_iff names, List.mem_filter]

/-- The static attributes are numbered in their order. -/
def IsNumbered (named : NamedClass) : Prop := named.positions = List.range named.positions.length

/-- A value is assigned to the static attribute of the name, and to no other. -/
theorem assign_map (names : named.HasNames) (numbered : named.IsNumbered)
    (value : NamedAttribute → Value) (supply : String × Value) :
    named.assign (named.staticAttributes.map value) supply
      = named.staticAttributes.map fun found =>
        if found.bare.identifier = supply.1 then supply.2 else value found := by
  have distinct : (named.staticAttributes.map (·.bare.identifier)).Nodup :=
    names.sublist (List.filter_sublist.map _)
  unfold assign
  cases looked : named.staticAttribute? supply.1 with
  | none =>
    refine List.map_congr_left fun found mem => (if_neg fun same => ?_).symm
    rw [names.staticAttribute?_eq_some_iff.2 ⟨mem, same⟩] at looked
    cases looked
  | some found =>
    obtain ⟨mem, same⟩ := names.staticAttribute?_eq_some_iff.1 looked
    obtain ⟨k, inside, here⟩ := List.mem_iff_getElem.1 mem
    -- the attribute stands where its number says
    have index : found.bare.index = k := by
      have at_k : (named.staticAttributes.map (·.bare.index))[k]? = some k := by
        rw [show named.staticAttributes.map (·.bare.index) = _ from numbered]
        exact List.getElem?_range (by simpa [positions, staticAttributes] using inside)
      simpa [inside, here] using at_k
    refine List.ext_getElem (by simp) fun j inside' _ => ?_
    simp only [index, List.getElem_set, List.getElem_map]
    by_cases at_k : k = j
    · subst at_k
      rw [if_pos rfl, here, if_pos same]
    · rw [if_neg at_k, if_neg fun same' => at_k ?_]
      have inside' : j < named.staticAttributes.length := by simpa using inside'
      refine (List.getElem?_inj (by simpa using inside) distinct).1 ?_
      rw [List.getElem?_map, List.getElem?_map, List.getElem?_eq_getElem inside,
        List.getElem?_eq_getElem inside', here, Option.map_some, Option.map_some, same, same']

/-- The last value that is supplied for a name counts. -/
theorem foldl_assign_map (names : named.HasNames) (numbered : named.IsNumbered)
    (value : NamedAttribute → Value) (supplies : List (String × Value)) :
    supplies.foldl named.assign (named.staticAttributes.map value)
      = named.staticAttributes.map fun found =>
        (supplies.reverse.lookup found.bare.identifier).getD (value found) := by
  induction supplies using List.reverseRecOn with
  | nil => rfl
  | append_singleton supplies supply ih =>
    rw [List.foldl_append, List.foldl_cons, List.foldl_nil, ih, assign_map names numbered]
    refine List.map_congr_left fun found _ => ?_
    rw [List.reverse_append, List.reverse_singleton, List.singleton_append, List.lookup_cons]
    by_cases same : found.bare.identifier = supply.1
    · rw [if_pos same, same, beq_self_eq_true]
      rfl
    · rw [if_neg same, beq_false_of_ne same]

/-- What a static attribute holds where the values are supplied. -/
def heldBy (supplied : List (String × Value)) (found : NamedAttribute) : Value :=
  (supplied.reverse.lookup found.bare.identifier).getD found.type.defaultValue

theorem staticValues_layOutFrom (first : Nat) (inherited : List Value) (names : named.HasNames) :
    let laidOut := (named.layOutFrom first inherited).value
    laidOut.bare.layout.staticValues = laidOut.staticAttributes.map (heldBy laidOut.supplied) := by
  have positions := (named.continues_layOutFrom first inherited).positions_eq
  have defaults := map_default_placeAttributes (fun isStatic => isStatic) first 0 named.attributes
  rw [value_layOutFrom_eq] at positions ⊢
  have placed : (named.laidOut first inherited).HasNames := by
    rw [HasNames]
    exact (map_identifier_placeAttributes first 0 named.attributes).symm ▸ names
  have assigned := foldl_assign_map placed positions (·.type.defaultValue) named.supplied
  rw [show (named.laidOut first inherited).staticAttributes.map (·.type.defaultValue)
    = (named.laidOut first inherited).bare.layout.staticValues from defaults] at assigned
  exact assigned

theorem staticValues_layOut (above? : Option NamedClass) (names : named.HasNames) :
    let laidOut := (named.layOut above?).value
    laidOut.bare.layout.staticValues = laidOut.staticAttributes.map (heldBy laidOut.supplied) := by
  obtain ⟨first, inherited, same⟩ := named.exists_layOut_eq above?
  dsimp only
  rw [same]
  exact staticValues_layOutFrom first inherited names

/-! ## Complaints -/

/-- The names of supplied values for which there is no static attribute. -/
def missed (named : NamedClass) : List String :=
  (named.supplied.map (·.1)).filter fun identifier => (named.staticAttribute? identifier).isNone

theorem unknownValues_supplyStaticValues (values : List Value) (supplies : List (String × Value))
    (name : String) : unknownValues name (supplies.foldlM (fun (named : NamedClass) supply =>
        named.supplyStaticValue supply.1 supply.2) (named.withStaticValues values)).events
      = if named.identifier = name then
          (supplies.map (·.1)).filter fun identifier => (named.staticAttribute? identifier).isNone
        else [] := by
  induction supplies generalizing values with
  | nil => simp [unknownValues, reports]
  | cons supply supplies ih =>
    have same : (named.withStaticValues values).staticAttribute? supply.1
        = named.staticAttribute? supply.1 := rfl
    rw [List.foldlM_cons, Traced.events_bind, unknownValues_append, List.map_cons]
    unfold supplyStaticValue
    rw [same]
    cases looked : named.staticAttribute? supply.1 with
    | some found =>
      rw [List.filter_cons_of_neg (by simp [looked])]
      exact ih (values.set found.bare.index supply.2)
    | none =>
      have complaint : unknownValues name (Traced.reportOf
          (.unknownStaticValue .placeholder supply.1)
          [(named.withStaticValues values).tree] >>= fun _ =>
            pure (named.withStaticValues values)).events
          = if named.identifier = name then [supply.1] else [] := by
        unfold unknownValues
        split <;> simp_all [Traced.reportOf, reports, NamedDiagnostic.unknownValue?, tree,
          withStaticValues, identifier]
      rw [List.filter_cons_of_pos (by simp [looked])]
      refine (congrArg₂ (· ++ ·) complaint (ih values)).trans ?_
      split <;> rfl

theorem unknownValues_layOut (named : NamedClass) (above? : Option NamedClass) (name : String) :
    unknownValues name (named.layOut above?).events
      = if named.identifier = name then (named.layOut above?).value.missed else [] := by
  obtain ⟨first, inherited, same⟩ := named.exists_layOut_eq above?
  have missed : (named.layOutFrom first inherited).value.missed
      = (named.laidOut first inherited).missed := by
    rw [value_layOutFrom_eq]
    rfl
  rw [same, missed, layOutFrom_eq_foldlM]
  exact (named.laidOut first inherited).unknownValues_supplyStaticValues _ named.supplied name

end NamedClass

/-! ## Contents -/

/-- The contents are those of the name, and come from its declaration. -/
structure NamedClass.ComesFrom (registrations : List Registration) (name : String)
    (named : NamedClass) : Prop where
  identifier : named.identifier = name
  prototype? : named.bare.prototype?
    = (registrations.find? (·.identifier == name)).map (·.declaration)

theorem NamedClass.keeps_comesFrom (scope : Scope) (registrations : List Registration) :
    scope.Keeps (ComesFrom registrations) where
  parameters comes _ _ _ := ⟨comes.identifier, comes.prototype?⟩
  superclass? comes _ _ _ := ⟨comes.identifier, comes.prototype?⟩
  interfaces comes _ _ := ⟨comes.identifier, comes.prototype?⟩
  attributes comes _ _ := ⟨comes.identifier, comes.prototype?⟩
  methods comes _ _ := ⟨comes.identifier, comes.prototype?⟩
  constants comes _ := ⟨comes.identifier, comes.prototype?⟩
  layout comes _ := ⟨comes.identifier, comes.prototype?⟩

section Contents

variable {options : Options} {declarations : List Declaration}
  (object : scopeOf declarations Standard.objectIdentifier = some ⟨.class, []⟩)
  {names : List String} {name : String}

include object

variable (options) in
theorem comesFrom_contentOf (names : List String) (name : String) :
    (contentOf options declarations names name).ComesFrom (registrationsOf declarations) name := by
  have keeps := NamedClass.keeps_comesFrom (scopeOf declarations) (registrationsOf declarations)
  refine keeps.contentOf object (keeps.resolveHeaders object (fun name => ?_) _) names name
  refine ⟨Registration.identifier_contentOf _ name, ?_⟩
  unfold Registration.contentOf
  split
  · next registration found =>
    rw [found]
    rfl
  · next none =>
    rw [none]
    rfl

theorem staticValues_contentOf
    (ordered : Ordered (superName (membersOf options declarations).value) names)
    (mem : name ∈ names) : let content := contentOf options declarations names name
    content.bare.layout.staticValues
      = content.staticAttributes.map (NamedClass.heldBy content.supplied) := by
  have hasNames : ((membersOf options declarations).value name).HasNames :=
    hasNames_contentOf object [] name
  dsimp only
  rw [contentOf, value_layOutAll ordered name mem]
  exact NamedClass.staticValues_layOut _ hasNames

/-- What is reported about the values of a class-like are the names that they
miss. -/
theorem unknownValues_layOutAll
    (ordered : Ordered (superName (membersOf options declarations).value) names)
    (mem : name ∈ names) :
    unknownValues name (layOutAll names (membersOf options declarations).value).events
      = (contentOf options declarations names name).missed := by
  have identifier (other : String) :
      ((membersOf options declarations).value other).identifier = other :=
    (comesFrom_contentOf options object [] other).identifier
  rw [contentOf, value_layOutAll ordered name mem, events_layOutAll ordered, unknownValues_flatMap,
    flatMap_of_nodup ordered.nodup mem fun other _ away => ?_]
  · rw [NamedClass.unknownValues_layOut, identifier, if_pos rfl]
  · rw [NamedClass.unknownValues_layOut, identifier, if_neg away]

end Contents

/-! ## Told diagnostics -/

/-- Lists whose members answer alike have the same answers. -/
theorem Related.filterMap_eq {α β γ : Type} {r : α → β → Prop} {xs : List α} {ys : List β}
    {f : α → Option γ} {g : β → Option γ} (h : List.Forall₂ r xs ys)
    (step : ∀ x y, r x y → f x = g y) : xs.filterMap f = ys.filterMap g := by
  induction h with
  | nil => rfl
  | cons first _ ih => rw [List.filterMap_cons, List.filterMap_cons, step _ _ first, ih]

namespace Library

variable {library : Library} {scope : Scope} {options : Options}

/-- A complaint about a class-like is told by a complaint about its name. -/
theorem Tells.unknownValue?_eq (coherent : library.Coherent scope options) {id : ClassId}
    {name : String} (isNamed : library.IsNamed id name) {diagnostic : Diagnostic}
    {named : NamedDiagnostic} (tells : library.Tells diagnostic named) :
    diagnostic.unknownValue? id = named.unknownValue? name := by
  obtain ⟨bare, mentioned⟩ := named
  obtain ⟨rfl, mentions⟩ := tells
  cases diagnostic with
  | unknownStaticValue id' identifier =>
    obtain _ | ⟨denotes, _ | _⟩ := mentions
    rename_i tree
    have own : library.Denotes (.classLike id) (.declared name 0) := by
      obtain ⟨classLike, declared, same⟩ := isNamed
      exact ⟨id, classLike, rfl, declared, same⟩
    by_cases same : id' = id
    · subst same
      obtain rfl := denotes.unique coherent.toDeclares own
      simp [Diagnostic.unknownValue?, NamedDiagnostic.unknownValue?, Diagnostic.bare]
    · -- another class-like has another name, if it has one
      have other : tree ≠ .declared name 0 := by
        rintro rfl
        obtain ⟨_, classLike, ⟨⟩, declared, named⟩ := denotes
        exact same (coherent.isNamed_inj ⟨classLike, declared, named⟩ isNamed)
      rw [Diagnostic.unknownValue?, if_neg same]
      symm
      unfold NamedDiagnostic.unknownValue?
      split
      · next _ mentioned =>
        obtain ⟨rfl, _⟩ := List.cons.inj mentioned
        exact if_neg fun same => other (by rw [same])
      · rfl
  | _ => rfl

end Library

/-! ## Compiled class-likes -/

namespace ClassLike

variable {classLike : ClassLike}

theorem staticAttribute?_eq_some_iff (names : (classLike.attributes.map (·.identifier)).Nodup)
    {identifier : String} {found : Attribute} : classLike.staticAttribute? identifier = some found
      ↔ (found ∈ classLike.attributes ∧ found.isStatic = true) ∧ found.identifier = identifier :=
  filter_find?_eq_some_iff names

/-- There is a static attribute of the name. -/
def hasStatic (classLike : ClassLike) (identifier : String) : Bool :=
  classLike.attributes.any fun found => found.isStatic && found.identifier == identifier

theorem isNone_staticAttribute? (names : (classLike.attributes.map (·.identifier)).Nodup)
    (identifier : String) :
    (classLike.staticAttribute? identifier).isNone = !classLike.hasStatic identifier := by
  cases looked : classLike.staticAttribute? identifier with
  | none =>
    have away : classLike.hasStatic identifier = false := by
      refine List.any_eq_false.2 fun found mem => ?_
      rw [Bool.and_eq_true, beq_iff_eq]
      rintro ⟨isStatic, same⟩
      rw [(staticAttribute?_eq_some_iff names).2 ⟨⟨mem, isStatic⟩, same⟩] at looked
      cases looked
    rw [away]
    rfl
  | some found =>
    obtain ⟨⟨mem, isStatic⟩, same⟩ := (staticAttribute?_eq_some_iff names).1 looked
    have there : classLike.hasStatic identifier = true :=
      List.any_eq_true.2 ⟨found, mem, by simp [isStatic, same]⟩
    rw [there]
    rfl

/-- Where the static attributes are numbered in their order, each has its own
value. -/
theorem getElem?_staticValues
    (numbered : classLike.positions = List.range classLike.positions.length)
    {value : Attribute → Value}
    (values : classLike.layout.staticValues = (classLike.attributes.filter (·.isStatic)).map value)
    {found : Attribute} (mem : found ∈ classLike.attributes) (isStatic : found.isStatic = true) :
    classLike.layout.staticValues[found.index]? = some (value found) := by
  obtain ⟨k, inside, here⟩ := List.mem_iff_getElem.1 (List.mem_filter.2 ⟨mem, isStatic⟩)
  have index : found.index = k := by
    have at_k : classLike.positions[k]? = some k := by
      rw [numbered]
      exact List.getElem?_range (by simpa [positions] using inside)
    simpa [positions, inside, here] using at_k
  rw [index, values, List.getElem?_map, List.getElem?_eq_getElem inside, here, Option.map_some]

end ClassLike

namespace Library

/-- What becomes of the values that are supplied for a class-like. -/
structure LandsValues (library : Library) (diagnostics : List Diagnostic) (id : ClassId)
    (classLike : ClassLike) (supplied : List (String × Value)) : Prop where
  /-- There are values for the static attributes, and for nothing else. -/
  isSome_iff {identifier : String} : (library.staticValue? id identifier).isSome = true
    ↔ ∃ found ∈ classLike.attributes, found.isStatic = true ∧ found.identifier = identifier
  /-- The value is the last one that is supplied for the name, or the default one. -/
  value {found : Attribute} : found ∈ classLike.attributes → found.isStatic = true →
    library.staticValue? id found.identifier
      = some ((supplied.reverse.lookup found.identifier).getD found.type.defaultValue)
  /-- The other names for which values are supplied are reported in their order. -/
  unknown : diagnostics.filterMap (·.unknownValue? id)
    = (supplied.map (·.1)).filter fun identifier => !classLike.hasStatic identifier
  /-- There are no further values. -/
  staticValues : classLike.layout.staticValues
    = (classLike.attributes.filter (·.isStatic)).map fun found =>
      (supplied.reverse.lookup found.identifier).getD found.type.defaultValue
  /-- The slots hold default values after the inherited ones. -/
  initialValues : classLike.layout.initialValues
    = (((library.superclass? id).bind library.classLike?).map (·.layout.initialValues)).getD []
      ++ classLike.instanceAttributes.map (·.type.defaultValue)
  /-- Instantiations answer as their base does. -/
  specialized {instantiation : ClassId} : library.baseOf instantiation = id →
    ∀ identifier, library.staticValue? instantiation identifier = library.staticValue? id identifier

section StaticValue

variable {library : Library} {id : ClassId} {classLike : ClassLike}

theorem staticValue?_eq (known : library.classLike? id = some classLike) (identifier : String) :
    library.staticValue? id identifier = (classLike.staticAttribute? identifier).bind
      fun found => classLike.layout.staticValues[found.index]? := by
  rw [staticValue?, known]
  rfl

variable (known : library.classLike? id = some classLike)
  (names : (classLike.attributes.map (·.identifier)).Nodup)
  (numbered : classLike.positions = List.range classLike.positions.length)
  {value : Attribute → Value}
  (values : classLike.layout.staticValues = (classLike.attributes.filter (·.isStatic)).map value)

include known names numbered values

/-- A static attribute is found by its name, with its own value. -/
theorem staticValue?_of_mem {found : Attribute} (mem : found ∈ classLike.attributes)
    (isStatic : found.isStatic = true) :
    library.staticValue? id found.identifier = some (value found) := by
  rw [staticValue?_eq known,
    (ClassLike.staticAttribute?_eq_some_iff names).2 ⟨⟨mem, isStatic⟩, rfl⟩, Option.bind_some]
  exact ClassLike.getElem?_staticValues numbered values mem isStatic

theorem isSome_staticValue?_iff {identifier : String} :
    (library.staticValue? id identifier).isSome = true
      ↔ ∃ found ∈ classLike.attributes, found.isStatic = true ∧ found.identifier = identifier := by
  constructor
  · intro isSome
    rw [staticValue?_eq known] at isSome
    cases looked : classLike.staticAttribute? identifier with
    | none =>
      rw [looked] at isSome
      cases isSome
    | some found =>
      obtain ⟨⟨mem, isStatic⟩, same⟩ := (ClassLike.staticAttribute?_eq_some_iff names).1 looked
      exact ⟨found, mem, isStatic, same⟩
  · rintro ⟨found, mem, isStatic, rfl⟩
    rw [staticValue?_of_mem known names numbered values mem isStatic]
    rfl

end StaticValue

section Compiled

variable {library : Library} {options : Options} {declarations : List Declaration}
  {names : List String} {diagnostics : List Diagnostic}
    (compiled : Compiled options declarations names library diagnostics) {id : ClassId}
  {classLike : ClassLike}

include compiled

/-- A declared class-like comes from one of the declarations. -/
theorem exists_prototype (declared : library.IsDeclared id classLike) :
    ∃ declaration ∈ declarations, classLike.prototype? = some declaration
      ∧ (contentOf options declarations names classLike.identifier).supplied
        = declaration.staticValues := by
  have isNamed : library.IsNamed id classLike.identifier := ⟨classLike, declared, rfl⟩
  obtain ⟨registration, listed, same⟩ :=
    List.mem_map.1 (compiled.covers.1 (compiled.mem_names isNamed))
  obtain ⟨declaration, mem, _, rfl⟩ := Registration.exists_of_mem_readAll listed
  have comes := (comesFrom_contentOf options compiled.coherent.object names
    classLike.identifier).prototype?
  rw [← same, Registration.find?_of_nodup (nodup_declaredNames declarations) listed,
    Option.map_some, same] at comes
  obtain ⟨_, known, spells⟩ := compiled.realizes _ _ isNamed
  cases declared.1.symm.trans known
  refine ⟨registration.declaration, mem, ?_, by rw [NamedClass.supplied, comes]; rfl⟩
  rw [← comes, ← spells.bare]
  rfl

/-- An instantiation has the static values of its base. -/
theorem staticValue?_baseOf (id : ClassId) (identifier : String) :
    library.staticValue? id identifier = library.staticValue? (library.baseOf id) identifier := by
  cases found : library.specialization? id with
  | none => rw [baseOf, found]
  | some specialization =>
    obtain ⟨classLike, known, specialized⟩ := specialization?_eq_some found
    obtain ⟨base, declared, _, _, substituted⟩ :=
      compiled.coherent.isSubstitutedClass_of_isComplete compiled.realizes
        (fun _ _ => compiled.complete) known specialized
    have layout : classLike.layout = base.layout := by
      have bare := congrArg ClassLike.layout substituted.rest
      exact bare
    have related := Related.optional_filter (p := (·.isStatic)) (q := (·.isStatic))
      (Related.find? (p := (·.identifier == identifier)) (q := (·.identifier == identifier))
        substituted.attributes fun _ _ same => by rw [same.rest])
      fun _ _ same => by rw [same.rest]
    rw [baseOf, found, staticValue?, staticValue?, known, declared.1]
    dsimp only [Option.bind_eq_bind, Option.bind_some]
    rw [ClassLike.staticAttribute?, ClassLike.staticAttribute?, ClassLike.attribute?,
      ClassLike.attribute?, layout]
    generalize Option.filter _ (base.attributes.find? _) = base?,
      Option.filter _ (classLike.attributes.find? _) = found? at related ⊢
    cases related with
    | none => rfl
    | some same =>
      rw [Option.bind_some, Option.bind_some, same.rest]

section OfDeclaration

variable (declared : library.IsDeclared id classLike)
  (spells : library.SpellsClass (scopeOf declarations) options classLike.identifier id classLike
    (contentOf options declarations names classLike.identifier))
  {declaration : Declaration}
  (supplied : (contentOf options declarations names classLike.identifier).supplied
    = declaration.staticValues)

include declared spells supplied

theorem staticValues_eq : classLike.layout.staticValues
    = (classLike.attributes.filter (·.isStatic)).map fun found =>
      (declaration.staticValues.reverse.lookup found.identifier).getD found.type.defaultValue := by
  have listed := compiled.mem_names ⟨classLike, declared, rfl⟩
  rw [spells.layout, staticValues_contentOf compiled.coherent.object compiled.ordered listed,
    supplied]
  symm
  refine Related.map_eq (Related.filter spells.attributes fun _ _ spells => spells.isStatic)
    fun _ _ _ spells => ?_
  rw [NamedClass.heldBy, spells.identifier, spells.type.denotes.defaultValue_eq]

theorem unknownValues_eq (unique : (classLike.attributes.map (·.identifier)).Nodup) :
    diagnostics.filterMap (·.unknownValue? id) = (declaration.staticValues.map (·.1)).filter
      fun identifier => !classLike.hasStatic identifier := by
  have isNamed : library.IsNamed id classLike.identifier := ⟨classLike, declared, rfl⟩
  have listed := compiled.mem_names isNamed
  obtain ⟨trees, _, _, tells⟩ := compiled.log
  rw [Related.filterMap_eq tells fun _ _ tells => tells.unknownValue?_eq compiled.coherent isNamed]
  show unknownValues _ (eventsOf options declarations _ trees) = _
  rw [unknownValues_eventsOf, unknownValues_layOutAll compiled.coherent.object compiled.ordered
    listed, NamedClass.missed, supplied]
  refine List.filter_congr fun identifier _ => ?_
  rw [← ClassLike.isNone_staticAttribute? unique]
  exact (Related.isNone_eq (spells.staticAttribute? identifier)).symm

end OfDeclaration

/-- The values that the declaration supplies land on the static attributes of the
class-like. -/
theorem landsValues (declared : library.IsDeclared id classLike) :
    ∃ declaration ∈ declarations, classLike.prototype? = some declaration
      ∧ library.LandsValues diagnostics id classLike declaration.staticValues := by
  obtain ⟨declaration, mem, prototype?, supplied⟩ := exists_prototype compiled declared
  obtain ⟨_, known, spells⟩ := compiled.realizes _ _ ⟨classLike, declared, rfl⟩
  cases declared.1.symm.trans known
  have unique : (classLike.attributes.map (·.identifier)).Nodup := by
    rw [Related.map_eq spells.attributes fun _ _ _ spells => spells.identifier]
    exact hasNames_contentOf compiled.coherent.object names classLike.identifier
  have numbered := ((isLaidOut compiled).isLaidOut known).positions_eq
  have values := staticValues_eq compiled declared spells supplied
  refine ⟨declaration, mem, prototype?, ?_⟩
  exact {
    isSome_iff := isSome_staticValue?_iff known unique numbered values
    value := staticValue?_of_mem known unique numbered values
    unknown := unknownValues_eq compiled declared spells supplied unique
    staticValues := values
    initialValues := by
      rw [(hasDefaults compiled).initialValues known, declaredTypes, baseOf_of_isDeclared declared,
        known, Option.map_some, Option.getD_some, List.map_map]
      rfl
    specialized := fun {instantiation} same identifier => by
      rw [staticValue?_baseOf compiled, same] }

end Compiled

theorem Marked.staticValue? {marks : ClassId → Nat → Bool} {before after : Library}
    (marked : Marked marks before after) (id : ClassId) (identifier : String) :
    after.staticValue? id identifier = before.staticValue? id identifier := by
  rw [Library.staticValue?, Library.staticValue?, marked.classLike?]
  cases before.classLike? id <;> rfl

theorem LandsValues.marked {marks : ClassId → Nat → Bool} {before after : Library}
    {diagnostics : List Diagnostic} {id : ClassId} {classLike : ClassLike}
    {supplied : List (String × Value)}
    (lands : before.LandsValues diagnostics id classLike supplied)
    (marked : Marked marks before after) :
    after.LandsValues diagnostics id (classLike.mark (marks id)) supplied where
  isSome_iff {identifier} := by
    rw [marked.staticValue?]
    exact lands.isSome_iff
  value mem isStatic := by
    rw [marked.staticValue?]
    exact lands.value mem isStatic
  unknown := lands.unknown
  staticValues := lands.staticValues
  initialValues := by
    rw [marked.map_initialValues]
    exact lands.initialValues
  specialized {instantiation} same identifier := by
    rw [marked.baseOf] at same
    rw [marked.staticValue?, marked.staticValue?]
    exact lands.specialized same identifier

end Library

/-- In every library that a compilation returns, the values that a declaration
supplies land in the static attributes of their names: the last one counts, and
where there is none the default value of the type. A value for any other name is
reported, once each and in their order, and has no effect. Instantiations answer
as their base does. -/
theorem landsValues_of_compile {declarations : List Declaration} {options : Options} {budget : Nat}
    {library : Library} (returned : (compile declarations options budget).result = .ok library)
    {id : ClassId} {classLike : ClassLike} (declared : library.IsDeclared id classLike) :
    ∃ declaration ∈ Standard.prelude ++ declarations, classLike.prototype? = some declaration
      ∧ library.LandsValues (compile declarations options budget).diagnostics id classLike
        declaration.staticValues := by
  obtain ⟨names, before, compiled, marked⟩ := exists_compiled returned
  obtain ⟨known, plain⟩ := declared
  rw [marked.classLike?, Option.map_eq_some_iff] at known
  obtain ⟨unmarked, known, rfl⟩ := known
  obtain ⟨declaration, mem, prototype?, lands⟩ := Library.landsValues compiled ⟨known, plain⟩
  exact ⟨declaration, mem, prototype?, lands.marked marked⟩

/-- A generic class for which two values are supplied under one name, one for an
attribute that is not static and one for no attribute. -/
def Declaration.tallies : List Declaration :=
  [{ signature := "class Tally<T>"
     attributes := ["T last", "static int count", "static long total"]
     staticValues := [("count", .int 1), ("last", .int 2), ("count", .int 3), ("none", .null)] },
   { signature := "class Log extends Tally<String>" }]

theorem landsValues_tallies : ∃ library classLike,
    (compile Declaration.tallies {} 1).result = .ok library
      ∧ library.IsDeclared ⟨8⟩ classLike
      ∧ (compile Declaration.tallies {} 1).diagnostics.filterMap (·.unknownValue? ⟨8⟩)
        = ["last", "none"]
      ∧ ∃ declaration ∈ Standard.prelude ++ Declaration.tallies,
        classLike.prototype? = some declaration
          ∧ library.LandsValues (compile Declaration.tallies {} 1).diagnostics ⟨8⟩ classLike
            declaration.staticValues := by
  have ⟨check, unknown⟩ : (compile Declaration.tallies {} 1).result.toOption.any (fun library =>
        (library.classLike? ⟨8⟩).any (·.specialization?.isNone)) = true
      ∧ (compile Declaration.tallies {} 1).diagnostics.filterMap (·.unknownValue? ⟨8⟩)
        = ["last", "none"] := by
    decide +kernel
  cases returned : (compile Declaration.tallies {} 1).result with
  | error error =>
    rw [returned] at check
    cases check
  | ok library =>
    rw [returned] at check
    cases known : library.classLike? ⟨8⟩ with
    | none =>
      simp [Except.toOption, known] at check
    | some classLike =>
      have declared : library.IsDeclared ⟨8⟩ classLike :=
        ⟨known, by simpa [Except.toOption, known] using check⟩
      exact ⟨library, classLike, rfl, declared, unknown,
        landsValues_of_compile returned declared⟩

end ClassModel
