import ClassModel.Library
import ClassModel.Walk

/-!
# ClassModel.Library.Hierarchy

Supertypes and the subtype relation. The graph of direct supertypes may have
cycles and may name class-likes that do not exist; every walk through it ends
all the same.

An instantiation whose supertypes are not filled in yet answers with those of
its base.
-/

namespace ClassModel.Library

/-- The kind that tells the supertypes of a class-like. -/
def hierarchyKind? (library : Library) (id : ClassId) : Option Kind := do
  let classLike ← library.classLike? id
  match classLike.specialization? with
  | some specialization =>
    if specialization.isMaterialized then return classLike.kind
    else return (← library.classLike? specialization.base).kind
  | none => return classLike.kind

/-- The direct supertypes: the superclass first, then the interfaces. -/
def directSupertypes (library : Library) (id : ClassId) : List ClassId :=
  match library.hierarchyKind? id with
  | some kind => kind.supertypes
  | none => []

/-- The superclass of a class. -/
def superclass? (library : Library) (id : ClassId) : Option ClassId :=
  (library.hierarchyKind? id).bind (·.superclass?)

/-- At least the number of class-likes in reach of any one: each is the one
itself or named as a supertype. -/
def walkBound (library : Library) : Nat :=
  1 + (library.classLikes.ids.flatMap library.directSupertypes).length

/-- Whether the source is the target or below it, as far as a search upwards tells
in the given number of turns. Every class-like is below the root class, and an
instantiation is below its base. -/
def isSubtypeWithin? (library : Library) (bound : Nat) (source target : ClassId) : Option Bool :=
  if library.isObject target then some (library.classLike? source).isSome
  else
    Walk.search? library.directSupertypes
      (fun id => id == target || library.baseOf id == target) bound [] [source]

/-- Whether the source is the target or below it. The search has one turn for each
class-like in reach, and another one in which nothing is left. -/
def isSubtype (library : Library) (source target : ClassId) : Bool :=
  (library.isSubtypeWithin? (library.walkBound + 1) source target).getD false

/-- The class-like, its superclass, the superclass of that, and so on. -/
def superclassChain (library : Library) (id : ClassId) : List ClassId :=
  Walk.along library.superclass? library.walkBound [] (some id)

/-- The direct supertypes other than the superclass. -/
def besidesSuperclass (library : Library) (id : ClassId) : List ClassId :=
  (library.directSupertypes id).filter fun supertype => library.superclass? id != some supertype

/-- The class-likes whose members a class-like sees: its superclass chain,
then every interface in reach, nearest first, and the root class at the
latest at the end. -/
def lookupOrder (library : Library) (id : ClassId) : List ClassId :=
  let chain := library.superclassChain id
  let order := Walk.breadthFirst library.directSupertypes library.walkBound chain
    (chain.flatMap library.besidesSuperclass)
  match library.objectId? with
  | some object => if order.contains object then order else order ++ [object]
  | none => order

end ClassModel.Library
