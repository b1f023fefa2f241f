import ClassModel.Library.Hierarchy

/-!
# ClassModel.Library.Cast

Which types convert to which without an explicit narrowing. Primitive types
widen, box and unbox; class-likes convert to their supertypes, arrays to
arrays of the same dimension, and a generic parameter to whatever one of its
bounds converts to.
-/

namespace ClassModel.Library

/-- Whether a type converts to another one, where they differ and not both are
arrays, given which bound of a generic parameter converts to a type. -/
def plainCasts (library : Library) (boundCasts : Ty → Ty → Bool) (source target : Ty) : Bool :=
  match source, target with
  | .primitive .null, target => !target.isValuePrimitive
  | .primitive source, .primitive target => source.widensTo target
  | .primitive source, .classLike target =>
    match source.boxedIdentifier?.bind library.byIdentifier? with
    | some boxed => library.isSubtype boxed target
    | none => false
  | .classLike source, .primitive target =>
    let unboxed := (library.classLike? (library.baseOf source)).bind fun base =>
      Primitive.ofBoxedIdentifier? base.identifier
    match unboxed with
    | some unboxed => unboxed.widensTo target
    | none => false
  | .classLike source, .classLike target => library.isSubtype source target
  | .arrayOf .., .classLike target => library.isObject target
  | .parameter source, target =>
    let isObject := match target with
      | .classLike target => library.isObject target
      | _ => false
    isObject || match library.parameter? source with
      | some parameter => parameter.upperBounds.any (boundCasts · target)
      | none => false
  | _, _ => false

/-- Whether a type converts to another one, given which bound of a generic
parameter converts to a type. -/
def casts (library : Library) (boundCasts : Ty → Ty → Bool) (source target : Ty) : Bool :=
  source == target ||
  match source, target with
  | .arrayOf source m, .arrayOf target n =>
    m == n &&
      if source.isValuePrimitive || target.isValuePrimitive then source == target
      else library.casts boundCasts source target
  | source, target => library.plainCasts boundCasts source target

theorem casts_arrayOf (library : Library) (boundCasts : Ty → Ty → Bool) (source target : Ty)
    (m n : Nat) : library.casts boundCasts (.arrayOf source m) (.arrayOf target n)
      = (Ty.arrayOf source m == .arrayOf target n || m == n &&
        if source.isValuePrimitive || target.isValuePrimitive then source == target
        else library.casts boundCasts source target) := by
  rw [casts]

/-- Where not both types are arrays, there are no items to compare. -/
theorem casts_eq_plainCasts (library : Library) (boundCasts : Ty → Ty → Bool) {source target : Ty}
    (plain : source.isArray = false ∨ target.isArray = false) :
    library.casts boundCasts source target
      = (source == target || library.plainCasts boundCasts source target) := by
  rw [casts]
  rintro _ _ _ _ rfl rfl
  rcases plain with plain | plain <;> cases plain

/-- Whether a type converts to another one through at most the given number of
bounds. -/
def castsWithin (library : Library) : Nat → Ty → Ty → Bool
  | 0, source, target => library.casts (fun _ _ => false) source target
  | bounds + 1, source, target => library.casts (library.castsWithin bounds) source target

/-- Whether a value of the source type may be used as one of the target type.
A chain of bounds passes each generic parameter at most once, unless the bounds
lead back to the parameter. A recursion through such bounds would go round in
them without end; here the chain is cut off after as many bounds as there are
generic parameters, and where nothing has converted up to there, the answer is
`false`. -/
def canCast (library : Library) (source target : Ty) : Bool :=
  library.castsWithin library.parameters.size source target

end ClassModel.Library
