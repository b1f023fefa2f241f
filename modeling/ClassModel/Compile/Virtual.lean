import ClassModel.Library.Override

/-!
# ClassModel.Compile.Virtual

Marking the methods that a subtype implements. A method is virtual if a
declared class-like that sees it declares a method that implements it; an
instantiation shares the marks of its base.
-/

namespace ClassModel.Library

/-- A method, by its declarer and its position there. -/
abbrev MethodRef := ClassId × Nat

/-- The own methods of a class-like. -/
def methodsOf (library : Library) (id : ClassId) : List Method :=
  match library.classLike? id with
  | some classLike => classLike.methods
  | none => []

/-- The methods of a supertype that the method implements, together with the
same methods of the base of the supertype. -/
def implementedIn (library : Library) (method : Method) (supertype : ClassId) : List MethodRef :=
  (library.methodsOf supertype).zipIdx.flatMap fun (candidate, index) =>
    if candidate.isInstance && library.implements method candidate then
      [(supertype, index), (library.baseOf supertype, index)]
    else []

/-- All methods that a method declared by the class-like implements. -/
def implementedBy (library : Library) (id : ClassId) : List MethodRef :=
  let supertypes := (library.lookupOrder id).drop 1
  let methods := (library.methodsOf id).filter (·.isInstance)
  methods.flatMap fun method => supertypes.flatMap (library.implementedIn method)

/-- Marks a method as virtual. -/
def markVirtual (library : Library) (ref : MethodRef) : Library :=
  library.modify ref.1 fun classLike =>
    { classLike with methods := classLike.methods.modify ref.2 ({ · with isVirtual := true }) }

/-- Gives the marks of a base to the methods of its instantiation. -/
def shareMarks (base : List Method) (methods : List Method) : List Method :=
  methods.zipIdx.map fun (method, index) =>
    { method with
      isVirtual := method.isVirtual || (base[index]?.map (·.isVirtual)).getD false }

/-- Gives an instantiation the marks of its base. -/
def shareMarksOf (library : Library) (id : ClassId) : Library :=
  match library.specialization? id with
  | some specialization =>
    let base := library.methodsOf specialization.base
    library.modify id fun classLike =>
      { classLike with methods := shareMarks base classLike.methods }
  | none => library

/-- Marks the virtual methods of all class-likes. -/
def flagVirtual (library : Library) : Library :=
  let marked := (library.types.flatMap library.implementedBy).foldl markVirtual library
  marked.classLikes.ids.foldl shareMarksOf marked

end ClassModel.Library
