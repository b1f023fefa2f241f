import ClassModel.Compile.Instantiate
import ClassModel.Signature.TypeExpr

/-!
# ClassModel.Compile.Resolve

From written types to types. A name is looked for among the primitive types,
then among the generic parameters of the class-like whose signature is read,
then among the declared class-likes.
-/

namespace ClassModel

namespace Library

/-- The generic parameter of the name that the class-like declares. -/
def parameterNamed? (library : Library) (context : ClassId) (name : String) :
    Option ParameterId := do
  let classLike ← library.classLike? context
  classLike.genericParameters.find? fun id =>
    (library.parameter? id).map (·.identifier) == some name

/-- Whether type arguments may follow a name: it is the name of a class or an
interface, and of nothing that is looked for before. -/
def takesArguments (library : Library) (context : ClassId) (name : String) : Bool :=
  (Primitive.ofText? name).isNone && (library.parameterNamed? context name).isNone
    && match (library.byIdentifier? name).bind library.classLike? with
      | some classLike => !classLike.kind.isEnum
      | none => false

end Library

namespace Build

/-- The type that a name without arguments refers to. An unknown name is
reported and refers to the root class. -/
def resolveName (context : ClassId) (signature name : String) : Build Ty := do
  let library ← library
  match Primitive.ofText? name, library.parameterNamed? context name,
    library.byIdentifier? name with
  | some primitive, _, _ => return .primitive primitive
  | none, some parameter, _ => return .parameter parameter
  | none, none, some id => return .classLike id
  | none, none, none =>
    report (.unknownType signature name)
    return library.objectType

mutual

/-- The type that is written, in the context of a class-like. A missing type is
reported and taken as `void`. -/
def resolve (options : Options) (context : ClassId) (signature : String) : TypeExpr → Build Ty
  | .missing found dimension => do
    report (.expectedType signature found)
    return Ty.void.array dimension
  | .name name dimension => do
    let element ← resolveName context signature name
    return element.array dimension
  | .application name arguments unclosed? dimension => do
    let arguments ← resolveAll options context signature arguments
    reportUnmet signature unclosed?
    match (← library).byIdentifier? name with
    | some base =>
      let element ← instantiate options base arguments (some context) signature
      return element.array dimension
    | none =>
      let element ← resolveName context signature name
      return element.array dimension

/-- The types that are written, from left to right. -/
def resolveAll (options : Options) (context : ClassId) (signature : String) :
    List TypeExpr → Build (List Ty)
  | [] => return []
  | type :: types => do
    let type ← resolve options context signature type
    let types ← resolveAll options context signature types
    return type :: types

end

end Build

end ClassModel
