import ClassModel.Compile.Hierarchy

/-!
# ClassModel.Compile.Layout

Where attributes are kept. The own instance attributes of a class begin where
those of its superclass end, so a superclass is laid out before its
subclasses. Static attributes are numbered on their own and occupy no slot.
-/

namespace ClassModel

/-! ## One class-like -/

namespace ClassLike

/-- Gives consecutive slots to the instance attributes and consecutive
positions to the static ones. -/
def placeAttributes : Nat → Nat → List Attribute → List Attribute
  | _, _, [] => []
  | slot, position, found :: rest =>
    if found.isStatic then
      { found with index := position } :: placeAttributes slot (position + 1) rest
    else
      { found with index := slot } :: placeAttributes (slot + 1) position rest

/-- Lays out a class-like whose first slot and inherited values are given. -/
def laidOut (classLike : ClassLike) (first : Nat) (inherited : List Value) : ClassLike :=
  let defaults (attributes : List Attribute) := attributes.map (·.type.defaultValue)
  { classLike with
    attributes := placeAttributes first 0 classLike.attributes
    layout :=
      { firstAttributeIndex := first
        initialValues := inherited ++ defaults classLike.instanceAttributes
        staticValues := defaults (classLike.attributes.filter (·.isStatic)) } }

/-- Assigns a static value. -/
def withStaticValue (classLike : ClassLike) (index : Nat) (value : Value) : ClassLike :=
  { classLike with
    layout :=
      { classLike.layout with staticValues := classLike.layout.staticValues.set index value } }

end ClassLike

namespace Build

/-- Assigns a supplied value. Where there is no such static attribute, that is
reported. -/
def supplyStaticValue (id : ClassId) (identifier : String) (value : Value) : Build Unit := do
  match (← classLike id).staticAttribute? identifier with
  | some found => modifyClassLike id (·.withStaticValue found.index value)
  | none => report (.unknownStaticValue id identifier)

/-- Lays out a class-like whose superclass is laid out, and assigns the values
that its declaration supplies. -/
def layOut (id : ClassId) : Build Unit := do
  let library ← library
  let superclass? := (library.declaredSuperclass? id).bind library.classLike?
  let (first, inherited) := match superclass? with
    | some superclass => (superclass.attributeCount, superclass.layout.initialValues)
    | none => (0, [])
  modifyClassLike id (·.laidOut first inherited)
  match (← classLike id).prototype? with
  | none => return
  | some declaration =>
    declaration.staticValues.forM fun (identifier, value) => supplyStaticValue id identifier value

end Build

/-! ## All class-likes -/

/-- The declared class-likes in the order of their registration, except that
the classes above one come before it, the topmost first. -/
def Library.layoutOrder (library : Library) : List ClassId :=
  library.types.foldl (fun order id =>
    order ++ (library.declaredChain id).reverse.filter (!order.contains ·)) []

namespace Build

/-- Lays out the declared class-likes. -/
def layOutAll : Build Unit := do
  (← library).layoutOrder.forM layOut

end Build

end ClassModel
