import ClassModel.Compile.Build
import ClassModel.Signature.Header

/-!
# ClassModel.Compile.Register

The first stage: every declaration with a readable header is registered under
its name, and its generic parameters are created without their bounds. From
then on declarations can refer to each other whatever their order.
-/

namespace ClassModel

/-- A registered declaration whose header is read only up to the name. -/
structure Intake where
  id : ClassId
  /-- The whole header. -/
  signature : String
  /-- The tokens after the name. -/
  rest : List Token

/-- The class-like that the start of a header declares. -/
def HeaderStart.classLike (start : HeaderStart) (declaration : Declaration) : ClassLike :=
  { identifier := start.identifier
    visibility := start.modifiers.visibility
    isFinal := start.modifiers.isFinal
    kind := start.kind
    prototype? := some declaration }

namespace Build

/-- Creates a generic parameter without bounds. -/
def createParameter (owner : ClassId) (identifier : String) : Build Unit := do
  let (id, library) := (← library).insertParameter { identifier, owner }
  setLibrary (library.modify owner fun classLike =>
    { classLike with genericParameters := classLike.genericParameters ++ [id] })

/-- Registers a declaration. One whose header declares nothing, or a name that
is taken, is reported and skipped. -/
def register (options : Options) (declaration : Declaration) : Build (Option Intake) := do
  let signature := declaration.signature
  match HeaderStart.read (← tokens signature) with
  | .error (.noKeyword found) =>
    report (.unrecognizedKeyword signature found options.strict)
    return none
  | .error (.noIdentifier unmet) =>
    report (.unexpectedToken signature unmet)
    return none
  | .ok start =>
    match (← library).register (start.classLike declaration) with
    | .error existing =>
      report (.redefinedClassLike existing signature)
      return none
    | .ok (id, library) =>
      setLibrary library
      unless start.kind.isEnum do
        (ParameterNames.read start.rest).forM (createParameter id)
      return some ⟨id, signature, start.rest⟩

/-- Registers the declarations in their order. -/
def registerAll (options : Options) : List Declaration → Build (List Intake)
  | [] => return []
  | declaration :: declarations => do
    let intake? ← register options declaration
    let intakes ← registerAll options declarations
    return intake?.toList ++ intakes

end Build

end ClassModel
