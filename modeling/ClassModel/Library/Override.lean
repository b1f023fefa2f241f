import ClassModel.Library.Cast

/-!
# ClassModel.Library.Override

When a method implements another one: the names agree, the result is the same
or a subtype, and each parameter takes whatever the other one takes. Primitive
types of the method that is implemented have to be met exactly; those of the
implementing method convert like any others where the first one has none.
-/

namespace ClassModel.Library

/-- Whether a value of the source type may stand where the position asks for
one of the target type: the same type if that is primitive, else whatever
converts to it. -/
def fits (library : Library) (source target : Ty) : Bool :=
  if target.isValuePrimitive then source == target else library.canCast source target

/-- Whether the result of a method may stand for the result of the other. -/
def resultFits (library : Library) (method overridden : Method) : Bool :=
  if method.returnsNothing then overridden.returnsNothing
  else
    match method.returnType?, overridden.returnType? with
    | some returned, some expected => library.fits returned expected
    | _, _ => false

/-- Whether a parameter takes whatever the other one takes. -/
def formalFits (library : Library) (formal overridden : Formal) : Bool :=
  if overridden.type.isValuePrimitive then overridden.type == formal.type
  else library.canCast overridden.type formal.type

/-- Whether the method implements the other one. -/
def implements (library : Library) (method overridden : Method) : Bool :=
  method.identifier == overridden.identifier
    && library.resultFits method overridden
    && method.formals.length == overridden.formals.length
    && (method.formals.zip overridden.formals).all fun (formal, overridden) =>
      library.formalFits formal overridden

end ClassModel.Library
