import ClassModel.Value

/-!
# ClassModel.Frame

What a native method sees of its call, and how it ends. A native function
reads its arguments and the attributes of its receiver through the call
`Frame`; attributes are addressed from the first slot of the class that
declares the method, so that the function works unchanged on instances of
subclasses.
-/

namespace ClassModel

/-- The abrupt end of a native method. -/
inductive Throw where
  /-- An exception of the language. -/
  | exception (classIdentifier message : String)
  /-- Too few arguments were passed. -/
  | argumentCount (expected found : Nat)
  /-- An argument has a value of the wrong kind; the value is given by its
  text. -/
  | argumentType (index : Nat) (found : String)
  /-- There is no object to call the method on. -/
  | nullReceiver
  /-- The receiver has no such attribute slot. -/
  | attributeOutOfBounds (index : Nat)
  deriving DecidableEq, Repr

/-- The text of an abrupt end. -/
def Throw.message : Throw → String
  | exception classIdentifier message => classIdentifier ++ ": " ++ message
  | argumentCount expected found =>
    s!"expected at least {expected} argument(s), found {found}"
  | argumentType index found =>
    s!"argument {index} has an unexpected value \x60{found}\x60"
  | nullReceiver => "the receiver is null"
  | attributeOutOfBounds index => s!"attribute index {index} is out of bounds"

/-- Native code: it reads and changes the heap, and may end abruptly. Changes
made before an abrupt end remain. -/
abbrev Native := ExceptT Throw (StateM Heap)

/-- The call that a native function answers. -/
structure Frame where
  /-- The object the method is called on; null for a static method. -/
  receiver : Value
  /-- The arguments in the order of the parameters. -/
  arguments : List Value
  /-- The first attribute slot of the class that declares the method. -/
  firstAttributeIndex : Nat := 0

/-- A native method body. -/
abbrev NativeFunction := Frame → Native Value

namespace Native

/-- Creates an object. -/
def create (object : Object) : Native Value := do
  let heap ← get
  set (heap.insert object)
  return .object heap.nextId

/-- The text of a value. -/
def render (value : Value) : Native String :=
  return value.render (← get)

end Native

namespace Frame

/-- The argument at the position. -/
def argument (frame : Frame) (index : Nat) : Native Value :=
  match frame.arguments[index]? with
  | some value => pure value
  | none => throw (.argumentCount (index + 1) frame.arguments.length)

/-- The object the method is called on. -/
def receiverId (frame : Frame) : Native ObjectId :=
  match frame.receiver.object? with
  | some id => pure id
  | none => throw .nullReceiver

/-- The receiver's attribute at the offset from the first slot of the
declaring class. -/
def getAttribute (frame : Frame) (offset : Nat) : Native Value := do
  let index := frame.firstAttributeIndex + offset
  let id ← frame.receiverId
  match ((← get).get? id).bind (·.attributes[index]?) with
  | some value => return value
  | none => throw (.attributeOutOfBounds index)

/-- Assigns the receiver's attribute at the offset from the first slot of the
declaring class. -/
def setAttribute (frame : Frame) (offset : Nat) (value : Value) : Native Unit := do
  let index := frame.firstAttributeIndex + offset
  let id ← frame.receiverId
  match ((← get).get? id).bind (·.attributes[index]?) with
  | some _ =>
    modify (·.modify id fun object =>
      { object with attributes := object.attributes.set index value })
  | none => throw (.attributeOutOfBounds index)

end Frame

end ClassModel
