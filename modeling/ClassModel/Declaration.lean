import ClassModel.Frame

/-!
# ClassModel.Declaration

A class-like as its author writes it: one-line signatures for the header and
for each member, and the bodies of the methods.
-/

namespace ClassModel

/-- The body of a method. -/
inductive Body where
  /-- A body that runs natively. -/
  | native (run : NativeFunction)
  /-- An expression that the caller evaluates; it is kept as it was written. -/
  | expression (source : String)

/-- A class, interface or enum as written by its author. -/
structure Declaration where
  /-- The header, such as `public class Integer extends Number`. -/
  signature : String
  /-- The method signatures with their bodies. -/
  methods : List (String × Body) := []
  /-- The attribute signatures. -/
  attributes : List String := []
  /-- The initial values of static attributes, by name. -/
  staticValues : List (String × Value) := []
  /-- The constants of an enum, in the order of their ordinals. -/
  enumConstants : List String := []

end ClassModel
