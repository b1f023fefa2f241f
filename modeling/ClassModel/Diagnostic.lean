import ClassModel.Library
import ClassModel.Report
import ClassModel.Signature.Expectation

/-!
# ClassModel.Diagnostic

The problems that compiling a library can come upon, and what is told about
each. A diagnostic refers to class-likes by identifier; their names are looked
up when the diagnostic is reported, in the finished library.

Two kinds of misuse are warnings, and errors in strict mode. Their diagnostics
tell which it is.
-/

namespace ClassModel

/-- What a supertype clause accepts. -/
inductive SupertypeKind where
  /-- A class after `extends`. -/
  | «class»
  /-- An interface after `implements`, or after `extends` of an interface. -/
  | interface
  /-- An enum extends nothing. -/
  | nothing
  deriving DecidableEq, Repr

/-- The description of what a clause accepts. -/
def SupertypeKind.text : SupertypeKind → String
  | «class» => "a class"
  | interface => "an interface"
  | nothing => "no superclass"

/-- A problem in a declaration. -/
inductive Diagnostic where
  /-- A signature has a faulty token. -/
  | lexical (signature : String) (error : LexicalError)
  | unexpectedToken (signature : String) (unmet : Unmet)
  /-- No type where one is needed; it is taken as `void`. -/
  | expectedType (signature found : String)
  /-- A name that refers to nothing; it is taken as the root class. -/
  | unknownType (signature identifier : String)
  /-- A header without one of the three keywords; it declares nothing. -/
  | unrecognizedKeyword (signature found : String) (strict : Bool)
  /-- Missing arguments are taken as the root class, excess ones dropped. -/
  | mismatchedArguments (signature : String) (classLike : ClassId) (expected found : Nat)
      (strict : Bool)
  /-- An interface that implements; the clause is ignored. -/
  | implementsOnInterface (signature : String)
  /-- A supertype of the wrong kind; it is ignored. -/
  | invalidSupertype (signature : String) (supertype : ClassId) (expected : SupertypeKind)
  /-- A supertype or bound that is no class-like; it is ignored. -/
  | expectedClassLike (signature found : String)
  /-- A further superclass; it is ignored. -/
  | multipleSuperclasses (signature : String) (existing ignored : ClassId)
  /-- A name that is taken; the later declaration is skipped. -/
  | redefinedClassLike (existing : ClassId) (signature : String)
  /-- A member that is there already; the later one is skipped. -/
  | redefinedMember (classLike : ClassId) (member : String)
  /-- A variadic parameter that is not the last one; it is taken as plain. -/
  | misplacedEllipsis (signature parameter : String)
  /-- An instantiation beyond the limit; the generic class-like stands for it. -/
  | depthExceeded (signature : String) (maximum : Nat)
  /-- A value for something that is no static attribute; it is dropped. -/
  | unknownStaticValue (classLike : ClassId) (identifier : String)
  /-- A class above itself; its superclass becomes the root class. -/
  | cyclicInheritance (classLike : ClassId)
  deriving DecidableEq

namespace Diagnostic

/-- How a class-like is written, as far as the library knows it. -/
def nameIn (library : Library) (id : ClassId) : String :=
  match library.classLike? id with
  | some classLike => classLike.signature
  | none => "<unknown>"

/-- How grave a problem is. -/
def severity : Diagnostic → Severity
  | unrecognizedKeyword _ _ strict | mismatchedArguments _ _ _ _ strict =>
    if strict then .error else .warning
  | expectedType .. | depthExceeded .. | unknownStaticValue .. => .warning
  | _ => .error

/-- The signature that was being read. -/
def signature? : Diagnostic → Option String
  | lexical signature _
  | unexpectedToken signature _
  | expectedType signature _
  | unknownType signature _
  | unrecognizedKeyword signature ..
  | mismatchedArguments signature ..
  | implementsOnInterface signature
  | invalidSupertype signature ..
  | expectedClassLike signature _
  | multipleSuperclasses signature ..
  | redefinedClassLike _ signature
  | misplacedEllipsis signature _
  | depthExceeded signature _ => some signature
  | redefinedMember .. | unknownStaticValue .. | cyclicInheritance _ => none

/-- A text between the marks that set off pieces of code. -/
def marked (text : String) : String := "\x60" ++ text ++ "\x60"

/-- What is told about a problem. -/
def message (library : Library) : Diagnostic → String
  | lexical _ error => error.message
  | unexpectedToken _ unmet =>
    "expected " ++ unmet.expected.text ++ ", found " ++ marked unmet.found
  | expectedType _ found => "expected a type, found " ++ marked found
  | unknownType _ identifier => "unknown type " ++ marked identifier
  | unrecognizedKeyword _ found _ =>
    "expected \x60class\x60, \x60interface\x60 or \x60enum\x60, found " ++ marked found
  | mismatchedArguments _ classLike expected found _ =>
    marked (nameIn library classLike)
      ++ s!" expects {expected} generic argument(s) but {found} were supplied"
  | implementsOnInterface _ => "an interface can't implement other interfaces"
  | invalidSupertype _ supertype expected =>
    marked (nameIn library supertype) ++ " can't be used here, expected " ++ expected.text
  | expectedClassLike _ found => "expected a class, interface or enum, found " ++ marked found
  | multipleSuperclasses _ _ ignored =>
    "a class can only extend one class, " ++ marked (nameIn library ignored) ++ " is ignored"
  | redefinedClassLike existing _ => marked (nameIn library existing) ++ " is already defined"
  | redefinedMember classLike member =>
    marked (nameIn library classLike) ++ " declares " ++ marked member ++ " more than once"
  | misplacedEllipsis _ parameter =>
    "only the last parameter can be variadic, " ++ marked parameter ++ " isn't"
  | depthExceeded signature maximum =>
    marked signature ++ s!" nests instantiations deeper than {maximum}"
  | unknownStaticValue classLike identifier =>
    marked (nameIn library classLike) ++ " has no static attribute " ++ marked identifier
  | cyclicInheritance classLike => marked (nameIn library classLike) ++ " inherits from itself"

/-- What was done about a problem, or what can be. -/
def help? (library : Library) : Diagnostic → Option String
  | lexical _ error => error.help?
  | expectedType .. => some "the type is assumed to be \x60void\x60"
  | unknownType .. => some "the type is assumed to be \x60Object\x60"
  | unrecognizedKeyword .. | redefinedClassLike .. => some "the declaration is skipped"
  | implementsOnInterface _ => some "use \x60extends\x60 instead"
  | multipleSuperclasses _ existing _ =>
    some ("the superclass stays " ++ marked (nameIn library existing))
  | depthExceeded .. => some "the raw generic class-like is used instead"
  | _ => none

/-- The report of a problem. -/
def report (library : Library) (diagnostic : Diagnostic) : Report :=
  { message := diagnostic.message library
    severity := diagnostic.severity
    signature? := diagnostic.signature?
    help? := diagnostic.help? library }

end Diagnostic

end ClassModel
