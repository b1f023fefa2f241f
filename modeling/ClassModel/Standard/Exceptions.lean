import ClassModel.Declaration

/-!
# ClassModel.Standard.Exceptions

The hierarchy of the classes that can be thrown. Only its root has members:
the message, given to the constructor and answered by `getMessage`.
-/

namespace ClassModel.Standard

namespace ThrowableClass

/-- Stores the message, and answers the object under construction. -/
def construct : NativeFunction := fun frame => do
  frame.setAttribute 0 (← frame.argument 0)
  return frame.receiver

/-- Answers the message. -/
def message : NativeFunction := fun frame => frame.getAttribute 0

end ThrowableClass

/-- The root of everything that can be thrown. -/
def throwableClass : Declaration :=
  { signature := "class Throwable"
    methods := [
      ("public Throwable(String message)", .native ThrowableClass.construct),
      ("public String getMessage()", .native ThrowableClass.message)]
    attributes := ["private String message"] }

/-- A class that can be thrown and has no members of its own. -/
def exceptionClass (identifier superclass : String) : Declaration :=
  { signature := "class " ++ identifier ++ " extends " ++ superclass }

/-- The standard hierarchy of exceptions. -/
def exceptions : List Declaration := [
  throwableClass,
  exceptionClass "Exception" "Throwable",
  exceptionClass "ArithmeticException" "Exception",
  exceptionClass "ClassCastException" "Exception",
  exceptionClass "IndexOutOfBoundsException" "Exception"]

end ClassModel.Standard
