import ClassModel.Declaration

/-!
# ClassModel.Standard.Prelude

The classes that every library begins with: `Object`, `String` and the
wrappers of the primitive types.

A wrapper has a private attribute with the wrapped value, a static factory
`valueOf` that checks the type of its argument, and an accessor; the whole
number wrappers add their least and greatest value.
-/

namespace ClassModel.Standard

/-- The name of the root class. -/
def objectIdentifier : String := "Object"

/-! ## The root class -/

namespace ObjectClass

/-- Answers the class of the receiver. -/
def classIdentifier : NativeFunction := fun frame => do
  match frame.receiver with
  | .object id =>
    match (← get).get? id with
    | some object => return .string object.classIdentifier
    | none => throw .nullReceiver
  | .string _ => return .string "String"
  | .null => throw .nullReceiver
  | other => throw (.argumentType 0 (← Native.render other))

end ObjectClass

/-- The root class. -/
def objectClass : Declaration :=
  { signature := "public class Object"
    methods := [("public String toString()", .native ObjectClass.classIdentifier)] }

/-! ## Strings -/

namespace StringClass

/-- The text that a method of `String` is called on. -/
def text (frame : Frame) : Native String := do
  match frame.receiver with
  | .string value => return value
  | .null => throw .nullReceiver
  | other => throw (.argumentType 0 (← Native.render other))

/-- The number of characters, as far as an `int` can tell. -/
def length : NativeFunction := fun frame => do
  let value ← text frame
  return .int (Int32.ofNat (min value.length 0x7FFFFFFF))

/-- The character at a position within the text. -/
def charAt : NativeFunction := fun frame => do
  let value ← text frame
  match ← frame.argument 0 with
  | .int index =>
    let found := if index < 0 then none else value.toList[index.toInt.toNat]?
    match found with
    | some c => return .char c
    | none =>
      throw (.exception "IndexOutOfBoundsException"
        s!"index {index.toInt} out of bounds for length {value.length}")
  | other => throw (.argumentType 0 (← Native.render other))

/-- Whether the text has no character. -/
def isEmpty : NativeFunction := fun frame => do
  return .boolean (← text frame).isEmpty

/-- Whether the argument is the same text. -/
def equals : NativeFunction := fun frame => do
  let value ← text frame
  return .boolean ((← frame.argument 0) == .string value)

/-- The text itself. -/
def identity : NativeFunction := fun frame => do
  return .string (← text frame)

end StringClass

/-- The class of texts. Texts are values of their own and have no slots. -/
def stringClass : Declaration :=
  { signature := "public final class String"
    methods := [
      ("public int length()", .native StringClass.length),
      ("public char charAt(int index)", .native StringClass.charAt),
      ("public boolean isEmpty()", .native StringClass.isEmpty),
      ("public boolean equals(Object other)", .native StringClass.equals),
      ("public String toString()", .native StringClass.identity)] }

/-! ## Wrappers -/

/-- A class that wraps values of a primitive type. -/
structure Wrapper where
  identifier : String
  primitive : Primitive
  /-- The name of the method that unwraps. -/
  accessor : String
  /-- The static constants. -/
  constants : List (String × Value) := []

namespace Wrapper

/-- Answers the wrapped value. -/
def unbox : NativeFunction := fun frame => frame.getAttribute 0

/-- Wraps an argument of the primitive type in a new object. -/
def valueOf (wrapper : Wrapper) : NativeFunction := fun frame => do
  let value ← frame.argument 0
  if value.primitive? = some wrapper.primitive then
    Native.create ⟨wrapper.identifier, [value]⟩
  else
    throw (.argumentType 0 (← Native.render value))

/-- The wrapper class. -/
def declaration (wrapper : Wrapper) : Declaration :=
  let primitive := wrapper.primitive.text
  { signature := "public final class " ++ wrapper.identifier
    methods := [
      ("public " ++ primitive ++ " " ++ wrapper.accessor ++ "()", .native unbox),
      ("public static " ++ wrapper.identifier ++ " valueOf(" ++ primitive ++ " value)",
        .native wrapper.valueOf)]
    attributes := ("private " ++ primitive ++ " value")
      :: wrapper.constants.map fun (name, _) => "public static final " ++ primitive ++ " " ++ name
    staticValues := wrapper.constants }

def integer : Wrapper :=
  ⟨"Integer", .int, "intValue",
    [("MAX_VALUE", .int Int32.maxValue), ("MIN_VALUE", .int Int32.minValue)]⟩

def long : Wrapper :=
  ⟨"Long", .long, "longValue",
    [("MAX_VALUE", .long Int64.maxValue), ("MIN_VALUE", .long Int64.minValue)]⟩

def float : Wrapper := ⟨"Float", .float, "floatValue", []⟩

def double : Wrapper := ⟨"Double", .double, "doubleValue", []⟩

def boolean : Wrapper := ⟨"Boolean", .boolean, "booleanValue", []⟩

def character : Wrapper := ⟨"Character", .char, "charValue", []⟩

/-- All wrappers. -/
def all : List Wrapper := [integer, long, float, double, boolean, character]

end Wrapper

/-- The classes that every library begins with. -/
def prelude : List Declaration :=
  objectClass :: stringClass :: Wrapper.all.map (·.declaration)

end ClassModel.Standard
