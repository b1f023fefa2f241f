import ClassModel.Compile.Register
import ClassModel.Compile.Resolve
import ClassModel.Library.Hierarchy

/-!
# ClassModel.Compile.Hierarchy

The second stage: the bounds of generic parameters and the supertypes. A class
without a superclass extends the root class. Afterwards no class is above
itself: of each cycle of superclasses the member that was registered first is
cut off and extends the root class.
-/

namespace ClassModel

namespace Build

/-! ## Bounds -/

/-- A bound has to be a class-like or a generic parameter; another type is
reported and dropped. -/
def checkedBound? (signature : String) (bound : Ty) : Build (Option Ty) := do
  match bound with
  | .classLike _ | .parameter _ => return some bound
  | _ =>
    report (.expectedClassLike signature ((← library).signatureOf bound))
    return none

/-- Resolves a bound and gives it to the generic parameter, if there is one. -/
def resolveBound (options : Options) (intake : Intake) (parameter? : Option ParameterId)
    (change : GenericParameter → Ty → GenericParameter) (type : TypeExpr) : Build Unit := do
  let type ← resolve options intake.id intake.signature type
  let bound? ← checkedBound? intake.signature type
  match bound?, parameter? with
  | some bound, some parameter =>
    setLibrary ((← library).modifyParameter parameter (change · bound))
  | _, _ => return

/-- Resolves the types of a bound. Upper bounds add up; of several lower bounds
the last one counts. -/
def resolveBoundExpr (options : Options) (intake : Intake) (parameter? : Option ParameterId) :
    BoundExpr → Build Unit
  | .upper types => types.forM (resolveBound options intake parameter? .withUpperBound)
  | .lower type => resolveBound options intake parameter? .withLowerBound type

/-- Resolves the bounds of a generic parameter. -/
def resolveBounds (options : Options) (intake : Intake) (parameter? : Option ParameterId)
    (bounds : List BoundExpr) : Build Unit :=
  bounds.forM (resolveBoundExpr options intake parameter?)

/-- Resolves the bounds of the generic parameters in their order. -/
def resolveParameters (options : Options) (intake : Intake) :
    List ParameterId → List ParameterExpr → Build Unit
  | _, [] => return
  | [], expr :: exprs => do
    resolveBounds options intake none expr.bounds
    resolveParameters options intake [] exprs
  | id :: ids, expr :: exprs => do
    resolveBounds options intake (some id) expr.bounds
    resolveParameters options intake ids exprs

/-! ## Supertypes -/

/-- What a clause of a class-like accepts. -/
def acceptedBy (kind : Kind) (clause : ClauseKind) : SupertypeKind :=
  match kind, clause with
  | .class .., .extends => .class
  | .enum .., .extends => .nothing
  | _, _ => .interface

/-- Whether a class-like of the kind is accepted. -/
def accepts (accepted : SupertypeKind) (kind : Kind) : Bool :=
  match accepted with
  | .class => kind.isClass
  | .interface => kind.isInterface
  | .nothing => false

/-- Adds a supertype to a class-like. One that is no class-like, of the wrong
kind or a further superclass is reported and ignored. -/
def addSupertype (intake : Intake) (clause : ClauseKind) (type : Ty) : Build Unit := do
  let library ← library
  match type.classLike? with
  | none => report (.expectedClassLike intake.signature (library.signatureOf type))
  | some supertype =>
    let kind := (← classLike intake.id).kind
    let base ← classLike (library.baseOf supertype)
    let accepted := acceptedBy kind clause
    if !accepts accepted base.kind then
      report (.invalidSupertype intake.signature supertype accepted)
    else
      match accepted, library.superclass? intake.id with
      | .class, some existing =>
        report (.multipleSuperclasses intake.signature existing supertype)
      | .class, none =>
        modifyClassLike intake.id fun classLike =>
          { classLike with kind := classLike.kind.withSuperclass (some supertype) }
      | _, _ =>
        modifyClassLike intake.id fun classLike =>
          { classLike with
            kind := classLike.kind.withInterfaces (classLike.kind.interfaces ++ [supertype]) }

/-- Resolves a supertype of a clause, and adds it unless the clause is
rejected. -/
def resolveSupertype (options : Options) (intake : Intake) (clause : ClauseKind) (isRejected : Bool)
    (type : TypeExpr) : Build Unit := do
  let type ← resolve options intake.id intake.signature type
  unless isRejected do addSupertype intake clause type

/-- Resolves the supertypes of a clause. An interface that implements is
reported; what it names is resolved and ignored. -/
def resolveClause (options : Options) (intake : Intake) (clause : ClauseExpr) : Build Unit := do
  let isRejected := (← classLike intake.id).kind.isInterface && clause.kind == .implements
  if isRejected then report (.implementsOnInterface intake.signature)
  clause.types.forM (resolveSupertype options intake clause.kind isRejected)

/-- Lets a class without a superclass extend the root class. -/
def defaultSuperclass (id : ClassId) : Build Unit := do
  let library ← library
  let kind := (← classLike id).kind
  if kind.isClass && kind.superclass?.isNone && !library.isObject id then
    modifyClassLike id fun classLike =>
      { classLike with kind := classLike.kind.withSuperclass library.objectId? }

/-- Resolves the rest of a header. -/
def resolveHeader (options : Options) (intake : Intake) : Build Unit := do
  let classLike ← classLike intake.id
  let takesArguments := (← library).takesArguments intake.id
  let header := HeaderRest.read takesArguments (!classLike.kind.isEnum) intake.rest
  resolveParameters options intake classLike.genericParameters header.parameterList.parameters
  reportUnmet intake.signature header.parameterList.unclosed?
  header.clauses.forM (resolveClause options intake)
  reportUnmet intake.signature header.trailing?
  defaultSuperclass intake.id

end Build

/-! ## Cycles -/

namespace Library

/-- The declared class above a class: its superclass, or the base of it. -/
def declaredSuperclass? (library : Library) (id : ClassId) : Option ClassId :=
  (library.superclass? id).map library.baseOf

/-- The class and the declared classes above it, up to the first one that
stands there already. -/
def declaredChain (library : Library) (id : ClassId) : List ClassId :=
  Walk.along library.declaredSuperclass? (library.walkBound + 1) [] (some id)

/-- Whether the superclasses of a class lead back to it. -/
def isAboveItself (library : Library) (id : ClassId) : Bool :=
  ((library.declaredChain id).getLast?.bind library.declaredSuperclass?) == some id

end Library

namespace Build

/-- Cuts the cycle of superclasses through a class, if there is one. -/
def breakCycle (id : ClassId) : Build Unit := do
  let library ← library
  if library.isAboveItself id then
    report (.cyclicInheritance id)
    modifyClassLike id fun classLike =>
      { classLike with
        kind := classLike.kind.withSuperclass (library.objectId?.filter (· != id)) }

/-- Cuts every cycle of superclasses. -/
def breakCycles : Build Unit := do
  (← library).types.forM breakCycle

end Build

end ClassModel
