import ClassModel.Compile.Layout
import ClassModel.Compile.Materialize
import ClassModel.Proofs.Traced

/-!
# ClassModel.Proofs.Reference

What compiling a declaration comes to, by names. Each step of the compilation
of one class-like has its counterpart here. It reads the scope instead of a
library, answers trees instead of types, and changes a `NamedClass` instead of
a library.
-/

namespace ClassModel

namespace TypeTree

/-- The root class. -/
def object : TypeTree := .declared Standard.objectIdentifier 0

/-- The type `void`. -/
def void : TypeTree := .primitive .void 0

/-- The name of the class-like that the type refers to, instantiated or not. -/
def className? : TypeTree → Option String
  | declared name 0 | applied name _ 0 => some name
  | _ => none

/-- Whether the type can bound a generic parameter. -/
def isBound : TypeTree → Bool
  | declared _ 0 | applied _ _ 0 | parameter _ _ 0 => true
  | _ => false

/-- What an attribute of the type holds before it is assigned. -/
def defaultValue : TypeTree → Value
  | primitive type 0 => type.defaultValue
  | _ => .null

end TypeTree

/-! ## Types -/

namespace Scope

variable (scope : Scope) (options : Options)

/-- The names of the generic parameters. -/
def parametersOf (name : String) : List String := ((scope name).map (·.parameters)).getD []

/-- Whether the class-like declares the generic parameter. -/
def declaresParameter (context name : String) : Bool :=
  (scope.parametersOf context).contains name

/-- Whether type arguments may follow the name. -/
def takesArguments (context name : String) : Bool :=
  (Primitive.ofText? name).isNone && !scope.declaresParameter context name
    && match scope name with
      | some shape => shape.keyword != .enum
      | none => false

/-- The type that a name without arguments refers to. -/
def resolveName (context signature name : String) : Traced TypeTree :=
  match Primitive.ofText? name with
  | some primitive => return .primitive primitive 0
  | none =>
    if scope.declaresParameter context name then return .parameter context name 0
    else if (scope name).isSome then return .declared name 0
    else do
      Traced.report (.unknownType signature name)
      return .object

/-- Brings arguments to the expected number. -/
def fitArguments (base : String) (expected : Nat) (arguments : List TypeTree)
    (signature : String) : Traced (List TypeTree) :=
  if arguments.length = expected then return arguments
  else do
    Traced.reportOf
      (.mismatchedArguments signature .placeholder expected arguments.length options.strict)
      [.declared base 0]
    return (arguments ++ List.replicate expected TypeTree.object).take expected

/-- The type of a generic class-like applied to arguments. -/
def instantiate (base : String) (arguments : List TypeTree) (signature : String) :
    Traced TypeTree := do
  let arguments ← fitArguments options base (scope.parametersOf base).length arguments signature
  let tree := TypeTree.applied base arguments 0
  if arguments.isEmpty then return .declared base 0
  else if options.maxSpecializationDepth < tree.depth then do
    Traced.report (.depthExceeded tree.signature options.maxSpecializationDepth)
    return .declared base 0
  else do
    Traced.request tree
    return tree

mutual

/-- The type that is written. -/
def resolve (context signature : String) : TypeExpr → Traced TypeTree
  | .missing found dimension => do
    Traced.report (.expectedType signature found)
    return TypeTree.void.array dimension
  | .name name dimension => do
    let element ← scope.resolveName context signature name
    return element.array dimension
  | .application name arguments unclosed? dimension => do
    let arguments ← resolveAll context signature arguments
    Traced.reportUnmet signature unclosed?
    let element ← scope.instantiate options name arguments signature
    return element.array dimension

/-- The types that are written, from left to right. -/
def resolveAll (context signature : String) : List TypeExpr → Traced (List TypeTree)
  | [] => return []
  | type :: types => do
    let tree ← resolve context signature type
    let trees ← resolveAll context signature types
    return tree :: trees

end

theorem resolveAll_eq_mapM (context signature : String) (exprs : List TypeExpr) :
    scope.resolveAll options context signature exprs
      = exprs.mapM (scope.resolve options context signature) := by
  induction exprs with
  | nil => rfl
  | cons expr exprs ih => rw [resolveAll, ih, List.mapM_cons]

end Scope

/-! ## Headers -/

namespace NamedParameter

/-- The parameter with a further upper bound. -/
def withUpperBound (parameter : NamedParameter) (bound : TypeTree) : NamedParameter :=
  { parameter with upperBounds := parameter.upperBounds ++ [bound] }

/-- The parameter with the given lower bound. -/
def withLowerBound (parameter : NamedParameter) (bound : TypeTree) : NamedParameter :=
  { parameter with lowerBound? := some bound }

end NamedParameter

/-- Whether a class-like that the keyword declares is accepted. -/
def SupertypeKind.admits : SupertypeKind → Keyword → Bool
  | .class, keyword => keyword == .class
  | .interface, keyword => keyword == .interface
  | .nothing, _ => false

namespace NamedClass

variable (scope : Scope) (options : Options) (signature : String)

/-- The declared name. -/
def identifier (named : NamedClass) : String := named.bare.identifier

/-- A bound has to be a class-like or a generic parameter. -/
def checkedBound? (tree : TypeTree) : Traced (Option TypeTree) :=
  if tree.isBound then return some tree
  else do
    Traced.report (.expectedClassLike signature tree.signature)
    return none

/-- Resolves a bound and gives it to the generic parameter at the position. -/
def resolveBound (position : Nat) (change : NamedParameter → TypeTree → NamedParameter)
    (type : TypeExpr) (named : NamedClass) : Traced NamedClass := do
  let tree ← scope.resolve options named.identifier signature type
  match ← checkedBound? signature tree with
  | some bound =>
    return { named with parameters := named.parameters.modify position (change · bound) }
  | none => return named

/-- Resolves the types of a bound. -/
def resolveBoundExpr (position : Nat) : BoundExpr → NamedClass → Traced NamedClass
  | .upper types, named =>
    types.foldlM (fun named type =>
      named.resolveBound scope options signature position .withUpperBound type) named
  | .lower type, named => named.resolveBound scope options signature position .withLowerBound type

/-- Resolves the bounds of the generic parameters from the position on. -/
def resolveParameters : Nat → List ParameterExpr → NamedClass → Traced NamedClass
  | _, [], named => return named
  | position, expr :: exprs, named => do
    let named ← expr.bounds.foldlM (fun named bound =>
      named.resolveBoundExpr scope options signature position bound) named
    resolveParameters (position + 1) exprs named

/-- Adds a supertype. -/
def addSupertype (clause : ClauseKind) (tree : TypeTree) (named : NamedClass) :
    Traced NamedClass :=
  match tree.className?.bind scope with
  | none => do
    Traced.report (.expectedClassLike signature tree.signature)
    return named
  | some shape =>
    let accepted := Build.acceptedBy named.bare.kind clause
    if !accepted.admits shape.keyword then do
      Traced.reportOf (.invalidSupertype signature .placeholder accepted) [tree]
      return named
    else
      match accepted, named.superclass? with
      | .class, some existing => do
        Traced.reportOf (.multipleSuperclasses signature .placeholder .placeholder) [existing, tree]
        return named
      | .class, none => return { named with superclass? := some tree }
      | _, _ => return { named with interfaces := named.interfaces ++ [tree] }

/-- Resolves a supertype of a clause, and adds it unless the clause is
rejected. -/
def resolveSupertype (clause : ClauseKind) (isRejected : Bool) (type : TypeExpr)
    (named : NamedClass) : Traced NamedClass := do
  let tree ← scope.resolve options named.identifier signature type
  if isRejected then return named else named.addSupertype scope signature clause tree

/-- Resolves the supertypes of a clause. -/
def resolveClause (clause : ClauseExpr) (named : NamedClass) : Traced NamedClass := do
  let isRejected := named.bare.kind.isInterface && clause.kind == .implements
  if isRejected then Traced.report (.implementsOnInterface signature)
  clause.types.foldlM (fun named type =>
    named.resolveSupertype scope options signature clause.kind isRejected type) named

/-- Lets a class without a superclass extend the root class. -/
def withDefaultSuperclass (named : NamedClass) : NamedClass :=
  if named.bare.kind.isClass && named.superclass?.isNone
      && named.identifier != Standard.objectIdentifier then
    { named with superclass? := some .object }
  else named

/-- Resolves the rest of a header. -/
def resolveHeader (rest : List Token) (named : NamedClass) : Traced NamedClass := do
  let header := HeaderRest.read (scope.takesArguments named.identifier)
    (!named.bare.kind.isEnum) rest
  let named ← named.resolveParameters scope options signature 0 header.parameterList.parameters
  Traced.reportUnmet signature header.parameterList.unclosed?
  let named ← header.clauses.foldlM (fun named clause =>
    named.resolveClause scope options signature clause) named
  Traced.reportUnmet signature header.trailing?
  return named.withDefaultSuperclass

end NamedClass

/-! ## Members -/

/-- The signature by which a method is found. -/
def NamedMethod.signature (identifier : String) (formals : List NamedFormal) : String :=
  let shown := formals.map fun formal =>
    formal.type.signature ++ if formal.bare.isVariadic then "..." else ""
  identifier ++ "(" ++ ",".intercalate shown ++ ")"

namespace Scope

variable (scope : Scope) (options : Options) (owner : String)

/-- Compiles an attribute. -/
def compileAttribute? (signature : String) : Traced (Option NamedAttribute) := do
  let tokens ← Traced.tokens signature
  let expr := AttributeExpr.read (scope.takesArguments owner) tokens
  let tree ← scope.resolve options owner signature expr.type
  match ← Traced.nameOf? signature expr.identifier with
  | none => return none
  | some identifier => do
    Traced.reportUnmet signature expr.trailing?
    return some
      { bare :=
          { identifier := identifier
            type := .void
            visibility := expr.modifiers.visibility
            isStatic := expr.modifiers.isStatic
            isFinal := expr.modifiers.isFinal
            isTransient := expr.modifiers.isTransient }
        type := tree }

/-- Compiles formal parameters. -/
def compileFormals (signature : String) :
    Nat → List FormalExpr → Traced (List NamedFormal)
  | _, [] => return []
  | position, expr :: exprs => do
    let tree ← scope.resolve options owner signature expr.type
    let identifier ← Traced.nameOf? signature expr.identifier
    let formals ← compileFormals signature (position + 1) exprs
    return { bare :=
               { identifier := identifier.getD ""
                 type := .void
                 isVariadic := expr.isVariadic
                 stackPosition := position }
             type := tree } :: formals

/-- Lets only the last formal parameter be variadic. -/
def placeEllipsis (signature : String) : List NamedFormal → Traced (List NamedFormal)
  | [] => return []
  | [last] => return [last]
  | formal :: formals => do
    if formal.bare.isVariadic then
      Traced.report (.misplacedEllipsis signature formal.bare.identifier)
    let formals ← placeEllipsis signature formals
    return { formal with bare := { formal.bare with isVariadic := false } } :: formals

/-- Compiles the type of a result. -/
def compileReturnType? (signature : String) : Option TypeExpr → Traced (Option TypeTree)
  | some type => do
    let tree ← scope.resolve options owner signature type
    return some tree
  | none => return none

/-- Compiles a method. -/
def compileMethod (signature : String) (body : Body) : Traced NamedMethod := do
  let tokens ← Traced.tokens signature
  let expr := MethodExpr.read (scope.takesArguments owner) tokens
  let returnType? ← scope.compileReturnType? options owner signature expr.returnType?
  let identifier? ← Traced.nameOf? signature expr.identifier
  Traced.reportUnmet signature expr.formalList.unopened?
  let formals ← scope.compileFormals options owner signature 1 expr.formalList.formals
  Traced.reportUnmet signature expr.formalList.unclosed?
  Traced.reportUnmet signature expr.trailing?
  let formals ← placeEllipsis signature formals
  let identifier := identifier?.getD ""
  return {
    bare :=
      { identifier := identifier
        returnType? := none
        formals := []
        visibility := expr.modifiers.visibility
        isAbstract := expr.modifiers.isAbstract
        isStatic := expr.modifiers.isStatic
        isFinal := expr.modifiers.isFinal
        signature := NamedMethod.signature identifier formals
        body? := some body }
    returnType? := returnType?
    formals := formals }

end Scope

namespace NamedClass

variable (scope : Scope) (options : Options)

/-- The class-like as a type. -/
def tree (named : NamedClass) : TypeTree := .declared named.identifier 0

/-- Compiles an attribute and adds it. -/
def addAttribute (signature : String) (named : NamedClass) : Traced NamedClass := do
  match ← scope.compileAttribute? options named.identifier signature with
  | none => return named
  | some found =>
    if named.attributes.any (·.bare.identifier == found.bare.identifier) then do
      Traced.reportOf (.redefinedMember .placeholder found.bare.identifier) [named.tree]
      return named
    else return { named with attributes := named.attributes ++ [found] }

/-- Compiles a method and adds it. -/
def addMethod (signature : String) (body : Body) (named : NamedClass) : Traced NamedClass := do
  let method ← scope.compileMethod options named.identifier signature body
  if named.methods.any (·.bare.signature == method.bare.signature) then do
    Traced.reportOf (.redefinedMember .placeholder method.bare.signature) [named.tree]
    return named
  else return { named with methods := named.methods ++ [method] }

/-- The class-like with other constants. -/
def withConstants (named : NamedClass) (constants : List String) : NamedClass :=
  { named with bare := { named.bare with kind := named.bare.kind.withConstants constants } }

/-- Compiles the members of the declaration. -/
def compileMembers (declaration : Declaration) (named : NamedClass) : Traced NamedClass := do
  let named ← declaration.attributes.foldlM (fun named signature =>
    named.addAttribute scope options signature) named
  let named ← declaration.methods.foldlM (fun named (signature, body) =>
    named.addMethod scope options signature body) named
  return named.withConstants declaration.enumConstants

end NamedClass

/-! ## Substitution -/

section Substitute

variable (scope : Scope) (options : Options) (arguments : List (String × TypeTree))

mutual

/-- Puts arguments in place of the generic parameters of their names. -/
def TypeTree.substitute : TypeTree → Traced TypeTree
  | .primitive type n => return .primitive type n
  | .declared name n => return .declared name n
  | .parameter owner name n =>
    return ((arguments.lookup name).getD (.parameter owner name 0)).array n
  | .applied name trees n => do
    let substituted ← TypeTree.substituteAll trees
    let element ← scope.instantiate options name substituted
      (TypeTree.applied name trees 0).signature
    return element.array n

/-- Puts arguments in place of generic parameters, from left to right. -/
def TypeTree.substituteAll : List TypeTree → Traced (List TypeTree)
  | [] => return []
  | tree :: trees => do
    let tree ← TypeTree.substitute tree
    let trees ← TypeTree.substituteAll trees
    return tree :: trees

end

/-- Substitutes in the types of a method. -/
def NamedMethod.substitute (method : NamedMethod) : Traced NamedMethod := do
  let returnType? ← method.returnType?.mapM (TypeTree.substitute scope options arguments)
  let formals ← method.formals.mapM fun formal => do
    let tree ← formal.type.substitute scope options arguments
    return { formal with type := tree }
  return {
    bare := { method.bare with signature := NamedMethod.signature method.bare.identifier formals }
    returnType? := returnType?
    formals := formals }

/-- Substitutes in the type of an attribute. -/
def NamedAttribute.substitute (found : NamedAttribute) : Traced NamedAttribute := do
  let tree ← found.type.substitute scope options arguments
  return { found with type := tree }

namespace NamedClass

/-- The supertypes with arguments in place of generic parameters. -/
def substituteSupertypes (named : NamedClass) : Traced (Option TypeTree × List TypeTree) := do
  let superclass? ← named.superclass?.mapM (TypeTree.substitute scope options arguments)
  let interfaces ← named.interfaces.mapM (TypeTree.substitute scope options arguments)
  return (superclass?, interfaces)

/-- The class-like with arguments in place of its generic parameters. -/
def substitute (named : NamedClass) : Traced NamedClass := do
  let (superclass?, interfaces) ← named.substituteSupertypes scope options arguments
  let methods ← named.methods.mapM (NamedMethod.substitute scope options arguments)
  let attributes ← named.attributes.mapM (NamedAttribute.substitute scope options arguments)
  return { bare := named.bare, superclass?, interfaces, methods, attributes }

end NamedClass

end Substitute

theorem TypeTree.substitute_applied (scope : Scope) (options : Options)
    (arguments : List (String × TypeTree)) (name : String) (trees : List TypeTree) (n : Nat) :
    (TypeTree.applied name trees n).substitute scope options arguments
      = (TypeTree.substituteAll scope options arguments trees >>= fun substituted =>
          scope.instantiate options name substituted (TypeTree.applied name trees 0).signature)
        >>= fun element => pure (element.array n) := by
  rw [substitute, bind_assoc]

theorem TypeTree.substituteAll_eq_mapM (scope : Scope) (options : Options)
    (arguments : List (String × TypeTree)) (trees : List TypeTree) :
    TypeTree.substituteAll scope options arguments trees
      = trees.mapM (TypeTree.substitute scope options arguments) := by
  induction trees with
  | nil => rfl
  | cons tree trees ih => rw [TypeTree.substituteAll, ih, List.mapM_cons]

end ClassModel
