import ClassModel.Compile.Register
import ClassModel.Compile.Resolve
import ClassModel.Signature.Member

/-!
# ClassModel.Compile.Member

The third stage: attributes and methods. Of several attributes of one name and
of several methods of one signature the first one is kept.
-/

namespace ClassModel

/-- The signature by which a method is found: its name and the types of its
parameters. -/
def Library.methodSignature (library : Library) (identifier : String) (formals : List Formal) :
    String :=
  let shown := formals.map fun formal =>
    library.signatureOf formal.type ++ if formal.isVariadic then "..." else ""
  identifier ++ "(" ++ ",".intercalate shown ++ ")"

namespace Build

/-! ## Attributes -/

/-- Compiles an attribute; there is none without a name. -/
def compileAttribute? (options : Options) (owner : ClassId) (signature : String) :
    Build (Option Attribute) := do
  let tokens ← tokens signature
  let expr := AttributeExpr.read ((← library).takesArguments owner) tokens
  let type ← resolve options owner signature expr.type
  match ← nameOf? signature expr.identifier with
  | none => return none
  | some identifier =>
    reportUnmet signature expr.trailing?
    return some
      { identifier := identifier
        type := type
        visibility := expr.modifiers.visibility
        isStatic := expr.modifiers.isStatic
        isFinal := expr.modifiers.isFinal
        isTransient := expr.modifiers.isTransient }

/-- Compiles an attribute and adds it to its owner. -/
def addAttribute (options : Options) (owner : ClassId) (signature : String) : Build Unit := do
  match ← compileAttribute? options owner signature with
  | none => return
  | some found =>
    if ((← classLike owner).attribute? found.identifier).isSome then
      report (.redefinedMember owner found.identifier)
    else
      modifyClassLike owner fun classLike =>
        { classLike with attributes := classLike.attributes ++ [found] }

/-! ## Methods -/

/-- Compiles formal parameters; the first one has the given stack position. A
missing name is taken as empty. -/
def compileFormals (options : Options) (owner : ClassId) (signature : String) :
    Nat → List FormalExpr → Build (List Formal)
  | _, [] => return []
  | position, expr :: exprs => do
    let type ← resolve options owner signature expr.type
    let identifier ← nameOf? signature expr.identifier
    let formal : Formal :=
      { identifier := identifier.getD ""
        type := type
        isVariadic := expr.isVariadic
        stackPosition := position }
    return formal :: (← compileFormals options owner signature (position + 1) exprs)

/-- Lets only the last formal parameter be variadic. The mark of any other one
is reported and dropped. -/
def placeEllipsis (signature : String) : List Formal → Build (List Formal)
  | [] => return []
  | [last] => return [last]
  | formal :: formals => do
    if formal.isVariadic then report (.misplacedEllipsis signature formal.identifier)
    return { formal with isVariadic := false } :: (← placeEllipsis signature formals)

/-- Compiles a method. A missing name is taken as empty. -/
def compileMethod (options : Options) (owner : ClassId) (signature : String) (body : Body) :
    Build Method := do
  let tokens ← tokens signature
  let expr := MethodExpr.read ((← library).takesArguments owner) tokens
  let returnType? ← match expr.returnType? with
    | some type => some <$> resolve options owner signature type
    | none => pure none
  let identifier := (← nameOf? signature expr.identifier).getD ""
  reportUnmet signature expr.formalList.unopened?
  let formals ← compileFormals options owner signature 1 expr.formalList.formals
  reportUnmet signature expr.formalList.unclosed?
  reportUnmet signature expr.trailing?
  let formals ← placeEllipsis signature formals
  return {
    identifier := identifier
    returnType? := returnType?
    formals := formals
    visibility := expr.modifiers.visibility
    isAbstract := expr.modifiers.isAbstract
    isStatic := expr.modifiers.isStatic
    isFinal := expr.modifiers.isFinal
    signature := (← library).methodSignature identifier formals
    body? := some body }

/-- Compiles a method and adds it to its owner. -/
def addMethod (options : Options) (owner : ClassId) (signature : String) (body : Body) :
    Build Unit := do
  let method ← compileMethod options owner signature body
  if ((← classLike owner).method? method.signature).isSome then
    report (.redefinedMember owner method.signature)
  else
    modifyClassLike owner fun classLike =>
      { classLike with methods := classLike.methods ++ [method] }

/-! ## All members -/

/-- Compiles the members of a class-like. -/
def compileMembers (options : Options) (id : ClassId) : Build Unit := do
  match (← classLike id).prototype? with
  | none => return
  | some declaration =>
    declaration.attributes.forM (addAttribute options id)
    declaration.methods.forM fun (signature, body) => addMethod options id signature body
    modifyClassLike id fun classLike =>
      { classLike with kind := classLike.kind.withConstants declaration.enumConstants }

end Build

end ClassModel
