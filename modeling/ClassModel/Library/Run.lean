import ClassModel.Library.Member

/-!
# ClassModel.Library.Run

Creating objects and invoking methods.
-/

namespace ClassModel

/-- Why a class-like has no new instance. -/
inductive InstantiateError where
  | unknownClassLike
  | abstract (identifier : String)
  | interface (identifier : String)
  | enum (identifier : String)
  deriving DecidableEq, Repr

/-- The text of the error. -/
def InstantiateError.message : InstantiateError → String
  | unknownClassLike => "no class-like with the given ID exists"
  | .abstract identifier => s!"\x60{identifier}\x60 is abstract"
  | .interface identifier => s!"\x60{identifier}\x60 is an interface"
  | .enum identifier => s!"\x60{identifier}\x60 is an enum; its constants are its only instances"

/-- Why an invocation has no result. -/
inductive InvokeError where
  | unknownClassLike
  | methodNotFound (signature : String)
  | noBody (signature : String)
  /-- The native body ended abruptly. -/
  | thrown (cause : Throw)
  deriving DecidableEq, Repr

/-- The text of the error. -/
def InvokeError.message : InvokeError → String
  | unknownClassLike => "no class-like with the given ID exists"
  | methodNotFound signature => s!"no method \x60{signature}\x60 found"
  | noBody signature => s!"method \x60{signature}\x60 has no body"
  | thrown cause => cause.message

/-- The outcome of a successful invocation. -/
inductive Invocation where
  /-- The native body ran and answered the value. -/
  | returned (value : Value)
  /-- The body is an expression, which is left to the caller. -/
  | expression (source : String)

namespace Library

/-- A fresh object of a class, with the initial values in its slots. -/
def freshObject (library : Library) (id : ClassId) : Except InstantiateError Object :=
  match library.classLike? id with
  | none => .error .unknownClassLike
  | some classLike =>
    match classLike.kind with
    | .class _ _ true => .error (.abstract classLike.identifier)
    | .class _ _ false => .ok ⟨classLike.identifier, classLike.layout.initialValues⟩
    | .interface _ => .error (.interface classLike.identifier)
    | .enum .. => .error (.enum classLike.identifier)

/-- Creates an object of a class. -/
def instantiate (library : Library) (id : ClassId) :
    ExceptT InstantiateError (StateM Heap) ObjectId := do
  let object ← library.freshObject id
  let heap ← get
  set (heap.insert object)
  return heap.nextId

/-- The frame as the declarer of a method needs it: its own attributes begin
at its first slot. -/
def frameFor (library : Library) (declarer : ClassId) (frame : Frame) : Frame :=
  let first := match library.classLike? declarer with
    | some classLike => classLike.layout.firstAttributeIndex
    | none => 0
  { frame with firstAttributeIndex := first }

/-- Runs a native body. -/
def runNative (run : NativeFunction) (frame : Frame) : ExceptT InvokeError (StateM Heap) Value :=
  ExceptT.mk do
    match ← (run frame).run with
    | .ok value => return .ok value
    | .error cause => return .error (.thrown cause)

/-- Invokes the method of the signature that is visible on a class-like. -/
def invoke (library : Library) (id : ClassId) (signature : String) (frame : Frame) :
    ExceptT InvokeError (StateM Heap) Invocation := do
  if (library.classLike? id).isNone then throw .unknownClassLike
  match library.effectiveMethod? id signature with
  | none => throw (.methodNotFound signature)
  | some (declarer, method) =>
    match method.body? with
    | some (.native run) => return .returned (← runNative run (library.frameFor declarer frame))
    | some (.expression source) => return .expression source
    | none => throw (.noBody signature)

end Library

end ClassModel
