import ClassModel.Proofs.Hierarchy
import Mathlib.Data.List.Induction

/-!
# ClassModel.Proofs.Layout

The layout of the attributes by names. A class is laid out after the classes
above it, so in the end each layout goes on where the final layout of the class
above ends (`value_layOutAll`), whatever the order was.
-/

namespace ClassModel

/-! ## By names -/

namespace NamedClass

variable (named : NamedClass)

def instanceAttributes : List NamedAttribute := named.attributes.filter (!·.bare.isStatic)

/-- The number of slots of an object of the class-like. -/
def attributeCount : Nat :=
  named.bare.layout.firstAttributeIndex + named.instanceAttributes.length

/-- The own static attribute of the name. -/
def staticAttribute? (identifier : String) : Option NamedAttribute :=
  (named.attributes.find? (·.bare.identifier == identifier)).filter (·.bare.isStatic)

/-- Gives consecutive slots to the instance attributes and consecutive
positions to the static ones. -/
def placeAttributes : Nat → Nat → List NamedAttribute → List NamedAttribute
  | _, _, [] => []
  | slot, position, found :: rest =>
    if found.bare.isStatic then
      { found with bare := { found.bare with index := position } }
        :: placeAttributes slot (position + 1) rest
    else
      { found with bare := { found.bare with index := slot } }
        :: placeAttributes (slot + 1) position rest

/-- Lays out a class-like whose first slot and inherited values are given. -/
def laidOut (first : Nat) (inherited : List Value) : NamedClass :=
  let defaults (attributes : List NamedAttribute) := attributes.map (·.type.defaultValue)
  { named with
    attributes := placeAttributes first 0 named.attributes
    bare := { named.bare with
      layout :=
        { firstAttributeIndex := first
          initialValues := inherited ++ defaults named.instanceAttributes
          staticValues := defaults (named.attributes.filter (·.bare.isStatic)) } } }

/-- Assigns a supplied value. -/
def supplyStaticValue (identifier : String) (value : Value) : Traced NamedClass :=
  match named.staticAttribute? identifier with
  | some found => return { named with bare := named.bare.withStaticValue found.bare.index value }
  | none => do
    Traced.reportOf (.unknownStaticValue .placeholder identifier) [named.tree]
    return named

/-- Lays out a class-like, and assigns the values that its declaration
supplies. -/
def layOutFrom (first : Nat) (inherited : List Value) : Traced NamedClass :=
  let laidOut := named.laidOut first inherited
  match named.bare.prototype? with
  | none => return laidOut
  | some declaration => declaration.staticValues.foldlM (fun named (identifier, value) =>
      named.supplyStaticValue identifier value) laidOut

/-- Lays out a class-like that is below the given one. -/
def layOut : Option NamedClass → Traced NamedClass
  | some superclass =>
    named.layOutFrom superclass.attributeCount superclass.bare.layout.initialValues
  | none => named.layOutFrom 0 []

/-- The class-like with other static values. -/
def withStaticValues (values : List Value) : NamedClass :=
  { named with
    bare := { named.bare with layout := { named.bare.layout with staticValues := values } } }

/-- The values that the declaration supplies. -/
def supplied : List (String × Value) := (named.bare.prototype?.map (·.staticValues)).getD []

/-- The static values after a supplied one is assigned, which is dropped if there
is no static attribute of its name. -/
def assign (values : List Value) (supply : String × Value) : List Value :=
  match named.staticAttribute? supply.1 with
  | some found => values.set found.bare.index supply.2
  | none => values

theorem length_assign (values : List Value) (supply : String × Value) :
    (named.assign values supply).length = values.length := by
  unfold assign
  split
  · exact List.length_set
  · rfl

theorem length_foldl_assign (values : List Value) (supplies : List (String × Value)) :
    (supplies.foldl named.assign values).length = values.length := by
  induction supplies generalizing values with
  | nil => rfl
  | cons supply supplies ih => rw [List.foldl_cons, ih, length_assign]

/-- Supplied values are assigned one after another. -/
theorem value_supplyStaticValues (values : List Value) (supplies : List (String × Value)) :
    (supplies.foldlM (fun (named : NamedClass) (identifier, value) =>
        named.supplyStaticValue identifier value) (named.withStaticValues values)).value
      = named.withStaticValues (supplies.foldl named.assign values) := by
  induction supplies generalizing values with
  | nil => rfl
  | cons supply supplies ih =>
    have step : ((named.withStaticValues values).supplyStaticValue supply.1 supply.2).value
        = named.withStaticValues (named.assign values supply) := by
      have same : (named.withStaticValues values).staticAttribute? supply.1
          = named.staticAttribute? supply.1 := rfl
      unfold supplyStaticValue assign
      rw [same]
      split <;> rfl
    rw [List.foldlM_cons, Traced.value_bind, List.foldl_cons, ← ih]
    exact congrArg (fun (named : NamedClass) => (supplies.foldlM (fun (named : NamedClass) supply =>
      named.supplyStaticValue supply.1 supply.2) named).value) step

theorem layOutFrom_eq_foldlM (first : Nat) (inherited : List Value) :
    named.layOutFrom first inherited
      = named.supplied.foldlM (fun (named : NamedClass) (identifier, value) =>
        named.supplyStaticValue identifier value) (named.laidOut first inherited) := by
  rw [layOutFrom, supplied]
  cases named.bare.prototype? with
  | none => rfl
  | some declaration => rfl

/-- A layout begins at the first slot and has the supplied values in place of
the default ones. -/
theorem value_layOutFrom_eq (first : Nat) (inherited : List Value) :
    (named.layOutFrom first inherited).value
      = (named.laidOut first inherited).withStaticValues (named.supplied.foldl
        (named.laidOut first inherited).assign
        (named.laidOut first inherited).bare.layout.staticValues) := by
  rw [layOutFrom_eq_foldlM]
  exact (named.laidOut first inherited).value_supplyStaticValues _ named.supplied

/-- A layout is the one that begins at the first slot, with some value for each
static attribute. -/
theorem value_layOutFrom (first : Nat) (inherited : List Value) : ∃ values : List Value,
    values.length = (named.attributes.filter (·.bare.isStatic)).length
      ∧ (named.layOutFrom first inherited).value
        = (named.laidOut first inherited).withStaticValues values :=
  ⟨_, (length_foldl_assign ..).trans (List.length_map ..),
    named.value_layOutFrom_eq first inherited⟩

/-- What is above tells the first slot and the inherited values. -/
theorem exists_layOut_eq (above? : Option NamedClass) :
    ∃ first inherited, named.layOut above? = named.layOutFrom first inherited := by
  cases above? with
  | none => exact ⟨0, [], rfl⟩
  | some superclass => exact ⟨superclass.attributeCount, superclass.bare.layout.initialValues, rfl⟩

theorem exists_value_layOut (above? : Option NamedClass) : ∃ first inherited values,
    (named.layOut above?).value = (named.laidOut first inherited).withStaticValues values := by
  obtain ⟨first, inherited, laidOut⟩ := named.exists_layOut_eq above?
  obtain ⟨values, _, same⟩ := named.value_layOutFrom first inherited
  exact ⟨first, inherited, values, laidOut ▸ same⟩

/-- A layout leaves the hierarchy as it is. -/
theorem hierarchy_layOut (above? : Option NamedClass) :
    (named.layOut above?).value.superclass? = named.superclass?
      ∧ (named.layOut above?).value.interfaces = named.interfaces := by
  obtain ⟨first, inherited, values, same⟩ := named.exists_value_layOut above?
  rw [same]
  exact ⟨rfl, rfl⟩

end NamedClass

/-! ## One class-like -/

namespace Library

variable {library : Library} {scope : Scope} {options : Options} {context : String} {id : ClassId}
  {classLike : ClassLike} {named : NamedClass}

theorem SpellsAttribute.isStatic {found : Attribute} {named : NamedAttribute}
    (spells : library.SpellsAttribute scope options context found named) :
    found.isStatic = named.bare.isStatic := by
  rw [← spells.bare]
  rfl

theorem SpellsAttribute.index {found : Attribute} {named : NamedAttribute}
    (spells : library.SpellsAttribute scope options context found named) :
    found.index = named.bare.index := by
  rw [← spells.bare]
  rfl

theorem Denotes.defaultValue_eq {type : Ty} {tree : TypeTree}
    (denotes : library.Denotes type tree) : type.defaultValue = tree.defaultValue := by
  cases tree with
  | primitive primitive n =>
    obtain rfl := denotes
    cases n <;> rfl
  | declared name n =>
    obtain ⟨id, classLike, rfl, _⟩ := denotes
    cases n <;> rfl
  | applied name trees n =>
    obtain ⟨id, classLike, specialization, rfl, _⟩ := denotes
    cases n <;> rfl
  | parameter owner name n =>
    obtain ⟨parameter, id, classLike, rfl, _⟩ := denotes
    cases n <;> rfl

namespace SpellsClass

theorem layout (spells : library.SpellsClass scope options context id classLike named) :
    classLike.layout = named.bare.layout := by
  rw [← spells.bare]
  rfl

theorem instanceAttributes
    (spells : library.SpellsClass scope options context id classLike named) :
    List.Forall₂ (library.SpellsAttribute scope options context) classLike.instanceAttributes
      named.instanceAttributes :=
  Related.filter spells.attributes fun _ _ spells => by rw [spells.isStatic]

theorem attributeCount (spells : library.SpellsClass scope options context id classLike named) :
    classLike.attributeCount = named.attributeCount := by
  rw [ClassLike.attributeCount, NamedClass.attributeCount, spells.layout,
    spells.instanceAttributes.length_eq]

theorem staticAttribute? (spells : library.SpellsClass scope options context id classLike named)
    (identifier : String) :
    Option.Rel (library.SpellsAttribute scope options context)
      (classLike.staticAttribute? identifier) (named.staticAttribute? identifier) := by
  exact Related.optional_filter
    (Related.find? spells.attributes fun _ _ spells => by rw [spells.identifier])
    fun _ _ spells => spells.isStatic

theorem placeAttributes (slot position : Nat) {attributes : List Attribute}
    {named : List NamedAttribute}
    (all : List.Forall₂ (library.SpellsAttribute scope options context) attributes named) :
    List.Forall₂ (library.SpellsAttribute scope options context)
      (ClassLike.placeAttributes slot position attributes)
      (NamedClass.placeAttributes slot position named) := by
  induction all generalizing slot position with
  | nil => exact .nil
  | @cons found named founds all first later ih =>
    have placed (index : Nat) : library.SpellsAttribute scope options context
        { found with index } { named with bare := { named.bare with index } } :=
      ⟨by rw [← first.bare]; rfl, first.type⟩
    rw [ClassLike.placeAttributes, NamedClass.placeAttributes]
    by_cases isStatic : found.isStatic = true
    · rw [if_pos isStatic, if_pos (first.isStatic ▸ isStatic)]
      exact .cons (placed position) (ih slot (position + 1))
    · rw [if_neg isStatic, if_neg (first.isStatic ▸ isStatic)]
      exact .cons (placed slot) (ih (slot + 1) position)

theorem laidOut (spells : library.SpellsClass scope options context id classLike named)
    (first : Nat) (inherited : List Value) : library.SpellsClass scope options context id
      (classLike.laidOut first inherited) (named.laidOut first inherited) := by
  have defaults {attributes : List Attribute} {all : List NamedAttribute}
      (related : List.Forall₂ (library.SpellsAttribute scope options context) attributes all) :
      attributes.map (·.type.defaultValue) = all.map (·.type.defaultValue) :=
    Related.map_eq related fun _ _ _ spells => spells.type.denotes.defaultValue_eq
  have isStatic := Related.filter (p := (·.isStatic)) (q := (·.bare.isStatic)) spells.attributes
    fun _ _ spells => spells.isStatic
  exact { spells with
    bare := by
      rw [ClassLike.laidOut, NamedClass.laidOut, ← spells.bare]
      dsimp only
      rw [← defaults spells.instanceAttributes, ← defaults isStatic]
      rfl
    attributes := placeAttributes first 0 spells.attributes }

end SpellsClass

end Library

namespace Refines

variable {state : BuildState} {scope : Scope} {options : Options} {context : String} {id : ClassId}
  {named : NamedClass} {content : String → NamedClass}

/-- Assigning a supplied value follows the assignment by names. -/
theorem supplyStaticValue {identifier : String} {value : Value}
    (coherent : state.library.Coherent scope options)
    (declaredAs : state.library.DeclaredAs scope options context id named) :
    Refines scope options (· = id) state (Build.supplyStaticValue id identifier value)
      (named.supplyStaticValue identifier value) fun after _ named =>
        after.DeclaredAs scope options context id named := by
  obtain ⟨classLike, declared, _, spells⟩ := declaredAs.exists_classLike
  unfold Build.supplyStaticValue NamedClass.supplyStaticValue
  apply Refines.classLike declared.1
  have found := spells.staticAttribute? identifier
  generalize classLike.staticAttribute? identifier = found?,
    named.staticAttribute? identifier = named? at found ⊢
  cases found with
  | none =>
    exact answer (reportOf coherent rfl (.cons (denotes_tree declaredAs) .nil))
      fun _ after grows => grows.declaredAs not_false declaredAs
  | some related =>
    refine modifyClassLike coherent declaredAs.isNamed declared.1 ?_ rfl ?_
    · exact ⟨rfl, rfl, rfl, rfl, rfl, rfl, rfl⟩
    · exact { spells with
        bare := by
          rw [← spells.bare, related.index]
          rfl }

theorem layOutFrom {classLike : ClassLike} (first : Nat) (inherited : List Value)
    (coherent : state.library.Coherent scope options)
    (declaredAs : state.library.DeclaredAs scope options context id named)
    (known : state.library.classLike? id = some classLike) :
    Refines scope options (· = id) state (do
        Build.modifyClassLike id (·.laidOut first inherited)
        match (← Build.classLike id).prototype? with
        | none => return
        | some declaration => declaration.staticValues.forM fun (identifier, value) =>
            Build.supplyStaticValue id identifier value)
      (named.layOutFrom first inherited) fun after _ named =>
        after.DeclaredAs scope options context id named := by
  obtain ⟨classLike', declared, _, spells⟩ := declaredAs.exists_classLike
  cases known.symm.trans declared.1
  have laidOut : Refines scope options (· = id) state
      (Build.modifyClassLike id (·.laidOut first inherited))
      (pure (named.laidOut first inherited)) fun after _ named =>
        after.DeclaredAs scope options context id named :=
    modifyClassLike coherent declaredAs.isNamed declared.1 ⟨rfl, rfl, rfl, rfl, rfl, rfl, rfl⟩ rfl
      (spells.laidOut first inherited)
  unfold NamedClass.layOutFrom
  change Refines scope options (· = id) state _
    (pure (named.laidOut first inherited) >>= fun laidOut =>
    match named.bare.prototype? with
    | none => return laidOut
    | some declaration => declaration.staticValues.foldlM _ laidOut) _
  refine laidOut.bind fun _ after coherent grows declaredAs' => ?_
  obtain ⟨later, declared', _, spells'⟩ := declaredAs'.exists_classLike
  have prototype? : later.prototype? = named.bare.prototype? := congrArg (·.prototype?) spells'.bare
  apply Refines.classLike declared'.1
  rw [prototype?]
  cases named.bare.prototype? with
  | none => exact .pure coherent declaredAs'
  | some declaration =>
    exact forM_foldlM (fun supplied _ _ _ coherent declaredAs =>
      supplyStaticValue coherent declaredAs) coherent declaredAs'

/-- Laying out a class-like follows the layout by names. -/
theorem layOut {name : String} (coherent : state.library.Coherent scope options)
    (realizes : state.library.Realizes scope options content)
    (isNamed : state.library.IsNamed id name) :
    Refines scope options (· = id) state (Build.layOut id)
      ((content name).layOut ((superName content name).map content)) fun after _ named =>
        after.DeclaredAs scope options name id named := by
  have declaredAs := realizes.declaredAs isNamed
  obtain ⟨classLike, declared, _⟩ := declaredAs.exists_classLike
  unfold Build.layOut
  apply Refines.library
  have above := Library.declaredSuperclass?_rel coherent realizes isNamed
  generalize state.library.declaredSuperclass? id = superclass?,
    superName content name = above? at above ⊢
  cases above with
  | none => exact layOutFrom 0 [] coherent declaredAs declared.1
  | some isNamed' =>
    obtain ⟨superclass, known, spells⟩ := realizes _ _ isNamed'
    rw [Option.bind_some, known, Option.map_some, NamedClass.layOut, ← spells.attributeCount,
      ← spells.layout]
    exact layOutFrom _ _ coherent declaredAs declared.1

end Refines

/-! ## All class-likes -/

/-- Lays out the class-likes of the names. -/
def layOutAll (names : List String) (content : String → NamedClass) :
    Traced (String → NamedClass) :=
  reviseAll id (fun name content => (content name).layOut ((superName content name).map content))
    names content

section All

variable {content : String → NamedClass} {names : List String}

theorem layOutAll_concat (name : String) : layOutAll (names ++ [name]) content
    = layOutAll names content >>= fun content =>
      (content name).layOut ((superName content name).map content) >>= fun named =>
        pure (Function.update content name named) := by
  simp only [layOutAll, reviseAll, List.foldlM_append, List.foldlM_cons, List.foldlM_nil,
    bind_pure]
  rfl

/-- The layout of all class-likes leaves the hierarchy as it is. -/
theorem hierarchy_layOutAll (names : List String) (content : String → NamedClass) (name : String) :
    ((layOutAll names content).value name).superclass? = (content name).superclass?
      ∧ ((layOutAll names content).value name).interfaces = (content name).interfaces := by
  induction names using List.reverseRecOn with
  | nil => exact ⟨rfl, rfl⟩
  | append_singleton names other ih =>
    rw [layOutAll_concat, Traced.value_bind, Traced.value_bind, Traced.value_pure, ← ih.1, ← ih.2]
    by_cases same : name = other
    · rw [same, Function.update_self]
      exact NamedClass.hierarchy_layOut ..
    · rw [Function.update_of_ne same]
      exact ⟨rfl, rfl⟩

theorem superName_layOutAll (names : List String) (content : String → NamedClass) :
    superName (layOutAll names content).value = superName content := by
  funext name
  rw [superName, (hierarchy_layOutAll names content name).1, superName]

theorem value_layOutAll_of_not_mem {name : String} (away : name ∉ names) :
    (layOutAll names content).value name = content name :=
  value_reviseAll_of_not_mem (by simpa using away)

/-- The layout of another class-like changes none that are laid out. -/
theorem map_layOutAll_concat {name : String} (new : name ∉ names) {above? : Option String}
    (inside : ∀ above ∈ above?, above ∈ names) :
    above?.map (layOutAll (names ++ [name]) content).value
      = above?.map (layOutAll names content).value := by
  refine Option.map_congr fun above found => ?_
  have away : above ≠ name := by
    rintro rfl
    exact new (inside _ found)
  rw [layOutAll_concat, Traced.value_bind, Traced.value_bind, Traced.value_pure,
    Function.update_of_ne away]

/-- In the end each class-like is laid out below the final layout of the class
above it. -/
theorem value_layOutAll (ordered : Walk.Ordered (superName content) names) :
    ∀ name ∈ names, (layOutAll names content).value name = ((content name).layOut
      ((superName content name).map (layOutAll names content).value)).value := by
  induction ordered with
  | nil => simp
  | @snoc names name ordered new above ih =>
    intro other mem
    rcases List.mem_append.1 mem with mem | mem
    · have away : other ≠ name := fun same => new (same ▸ mem)
      rw [map_layOutAll_concat new fun above found => ordered.mem_of_next? mem found,
        ← ih other mem, layOutAll_concat, Traced.value_bind, Traced.value_bind, Traced.value_pure,
        Function.update_of_ne away]
    · obtain rfl := List.mem_singleton.1 mem
      rw [map_layOutAll_concat new above, layOutAll_concat, Traced.value_bind, Traced.value_bind,
        Traced.value_pure, Function.update_self, value_layOutAll_of_not_mem new,
        superName_layOutAll]

theorem events_layOutAll (ordered : Walk.Ordered (superName content) names) :
    (layOutAll names content).events = names.flatMap fun name => ((content name).layOut
      ((superName content name).map (layOutAll names content).value)).events := by
  induction ordered with
  | nil => rfl
  | @snoc names name ordered new above ih =>
    rw [List.flatMap_append, List.flatMap_singleton, map_layOutAll_concat new above,
      layOutAll_concat, Traced.events_bind, Traced.events_bind, Traced.events_pure,
      List.append_nil, value_layOutAll_of_not_mem new, superName_layOutAll, ih]
    congr 1
    refine List.flatMap_congr fun other mem => ?_
    rw [← layOutAll_concat, map_layOutAll_concat new fun above found =>
      ordered.mem_of_next? mem found]

end All

/-! ## The order -/

namespace Library

variable {library : Library} {scope : Scope} {options : Options} {content : String → NamedClass}

/-- The name of a class-like. -/
def nameOf (library : Library) (id : ClassId) : String :=
  ((library.classLike? id).map (·.identifier)).getD ""

theorem IsNamed.nameOf_eq {id : ClassId} {name : String} (isNamed : library.IsNamed id name) :
    library.nameOf id = name := by
  obtain ⟨classLike, declared, rfl⟩ := isNamed
  simp [nameOf, declared.1]

theorem IsNamed.mem_types (declares : library.Declares scope) {id : ClassId} {name : String}
    (isNamed : library.IsNamed id name) : id ∈ library.types := by
  obtain ⟨classLike, declared, _⟩ := isNamed
  exact declares.mem_types.2 ⟨classLike, declared⟩

theorem isNamed_nameOf (declares : library.Declares scope) {id : ClassId}
    (mem : id ∈ library.types) : library.IsNamed id (library.nameOf id) := by
  obtain ⟨classLike, declared⟩ := declares.mem_types.1 mem
  exact ⟨classLike, declared, by simp [nameOf, declared.1]⟩

/-- The declared class-likes are put in an order where each stands after the
class above it. -/
theorem ordered_layoutOrder (coherent : library.Coherent scope options)
    (realizes : library.Realizes scope options content)
    (straight : ∀ id name, library.IsNamed id name → ¬ IsCyclic content name) :
    Walk.Ordered library.declaredSuperclass? library.layoutOrder
      ∧ ∀ id, id ∈ library.layoutOrder ↔ id ∈ library.types := by
  have folded (ids order : List ClassId) (declared : ∀ id ∈ ids, id ∈ library.types)
      (inside : ∀ id ∈ order, id ∈ library.types)
      (ordered : Walk.Ordered library.declaredSuperclass? order) :
      ∃ result, ids.foldl (fun order id =>
          order ++ (library.declaredChain id).reverse.filter (!order.contains ·)) order = result
        ∧ Walk.Ordered library.declaredSuperclass? result
        ∧ (∀ id ∈ result, id ∈ library.types) ∧ ∀ id ∈ order ++ ids, id ∈ result := by
    induction ids generalizing order with
    | nil => exact ⟨order, rfl, ordered, inside, by simp⟩
    | cons id ids ih =>
      have isNamed := isNamed_nameOf coherent.toDeclares (declared id (by simp))
      obtain ⟨path, names, up, _, named⟩ := exists_declaredPath coherent realizes straight isNamed
      obtain ⟨ordered', all⟩ := ordered.append_path up
      rw [List.foldl_cons, declaredChain_eq up up.path_nodup (by simp)]
      obtain ⟨result, same, last, inside', covers⟩ := ih
        (order ++ path.reverse.filter (!order.contains ·))
        (fun id mem => declared id (by simp [mem])) (fun other mem => by
          rcases List.mem_append.1 mem with mem | mem
          · exact inside other mem
          · have mem := List.mem_reverse.1 (List.mem_filter.1 mem).1
            obtain ⟨_, _, isNamed⟩ := Related.exists_of_mem (List.Forall₂.flip named) mem
            exact IsNamed.mem_types coherent.toDeclares isNamed) ordered'
      refine ⟨result, same, last, inside', fun other mem => covers other ?_⟩
      have first : id ∈ order ++ path.reverse.filter (!order.contains ·) := all id (by
        cases up
        simp)
      simp only [List.mem_append, List.mem_cons] at mem first ⊢
      rcases mem with mem | rfl | mem
      · exact .inl (.inl mem)
      · exact .inl first
      · exact .inr mem
  obtain ⟨result, same, ordered, inside, covers⟩ := folded library.types [] (fun _ => id) (by simp)
    .nil
  rw [layoutOrder, same]
  exact ⟨ordered, fun id => ⟨inside id, covers id⟩⟩

end Library

/-- Laying out all class-likes follows the layout by names. -/
theorem Refines.layOutAll {state : BuildState} {scope : Scope} {options : Options}
    {content : String → NamedClass} (coherent : state.library.Coherent scope options)
    (realizes : state.library.Realizes scope options content)
    (straight : ∀ id name, state.library.IsNamed id name → ¬ IsCyclic content name) :
    ∃ names, Walk.Ordered (superName content) names
      ∧ (∀ name, name ∈ names ↔ ∃ id, state.library.IsNamed id name)
      ∧ Refines scope options Library.anybody state Build.layOutAll (layOutAll names content)
        fun after _ content => after.Realizes scope options content := by
  obtain ⟨ordered, covers⟩ := Library.ordered_layoutOrder coherent realizes straight
  have isNamed (id : ClassId) (mem : id ∈ state.library.layoutOrder) :=
    Library.isNamed_nameOf coherent.toDeclares ((covers id).1 mem)
  refine ⟨state.library.layoutOrder.map state.library.nameOf, ?_, fun name => ?_, ?_⟩
  · refine ordered.map (fun id mem => ?_) fun id mem id' mem' same => ?_
    · have related := Library.declaredSuperclass?_rel coherent realizes (isNamed id mem)
      generalize state.library.declaredSuperclass? id = superclass?,
        superName content (state.library.nameOf id) = above? at related ⊢
      cases related with
      | none => rfl
      | some isNamed => rw [Option.map_some, isNamed.nameOf_eq]
    · exact coherent.isNamed_inj (isNamed id mem) (same ▸ isNamed id' mem')
  · rw [List.mem_map]
    constructor
    · rintro ⟨id, mem, rfl⟩
      exact ⟨id, isNamed id mem⟩
    · rintro ⟨id, isNamed⟩
      exact ⟨id, (covers id).2 (isNamed.mem_types coherent.toDeclares), isNamed.nameOf_eq⟩
  · unfold Build.layOutAll
    apply Refines.library
    refine reviseAll (r := fun id name => state.library.IsNamed id name)
      (fun name _ id isNamed after content coherent grows realizes => ?_) coherent realizes ?_
    · exact ⟨id, layOut coherent realizes (grows.isNamed_iff.2 isNamed)⟩
    · exact List.forall₂_map_right_iff.2 (List.forall₂_same.2 isNamed)

end ClassModel
