import ClassModel.Arena
import ClassModel.Number.Style
import ClassModel.Primitive

/-!
# ClassModel.Value

The values of the language and the heap that holds its objects. An object is
known by its identity; its class and its attribute slots are found in the
heap, so a method that changes an object returns a new heap.
-/

namespace ClassModel

/-- The identity of an object. -/
abbrev ObjectId := Id "Object"

/-- A value of the language. Primitives and texts are equal by value, a NaN
to nothing, and objects by identity. -/
inductive Value where
  | null
  | int (value : Int32)
  | long (value : Int64)
  | float (value : Float32)
  | double (value : Float)
  | boolean (value : Bool)
  | char (value : Char)
  | string (value : String)
  | object (id : ObjectId)
  deriving BEq, Inhabited

/-- An object: its class and its attribute slots, those of the superclass
first. -/
structure Object where
  classIdentifier : String
  attributes : List Value
  deriving Inhabited

/-- The objects created so far. -/
abbrev Heap := Arena "Object" Object

namespace Value

/-- The primitive type of a value, if it has one. -/
def primitive? : Value → Option Primitive
  | int _ => some .int
  | long _ => some .long
  | float _ => some .float
  | double _ => some .double
  | boolean _ => some .boolean
  | char _ => some .char
  | null | string _ | object _ => none

/-- The identity held by a reference to an object. -/
def object? : Value → Option ObjectId
  | object id => some id
  | _ => none

/-- The text of a value. A `long` and a `float` carry a mark of their type. An
object shows its class; the word after the sign stands for its place in
memory, which no text depends on. -/
def render (heap : Heap) : Value → String
  | null => "null"
  | int value => toString value.toInt
  | long value => toString value.toInt ++ "L"
  | float value => Number.Style.value.render .single value.toBits.toNat ++ "f"
  | double value => Number.Style.value.render .double value.toBits.toNat
  | boolean value => if value then "true" else "false"
  | char value => Text.quoteChar value
  | string value => Text.quoteString value
  | object id => ((heap.get? id).map (·.classIdentifier)).getD "" ++ "@ADDRESS"

end Value

/-- What an attribute of the type holds before it is assigned. -/
def Primitive.defaultValue : Primitive → Value
  | int => .int 0
  | long => .long 0
  | float => .float 0
  | double => .double 0
  | boolean => .boolean false
  | char => .char '\x00'
  | void | null => .null

end ClassModel
