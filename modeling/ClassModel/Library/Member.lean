import ClassModel.Library.Hierarchy

/-!
# ClassModel.Library.Member

The members that are visible on a class-like, its own and the inherited ones.
-/

namespace ClassModel.Library

/-- Keeps the first of the entries that agree in their key. -/
def firstByKey {α β : Type} [BEq β] (key : α → β) (entries : List α) : List α :=
  entries.foldl (fun kept entry =>
    if kept.any (key · == key entry) then kept else kept ++ [entry]) []

/-- All methods of the class-likes that a class-like sees, each with its
declarer. -/
def declaredMethods (library : Library) (id : ClassId) : List (ClassId × Method) :=
  (library.lookupOrder id).flatMap fun declarer =>
    match library.classLike? declarer with
    | some classLike => classLike.methods.map (declarer, ·)
    | none => []

/-- The methods visible on a class-like, each with its declarer. A method hides
the later ones of the same signature. -/
def effectiveMethods (library : Library) (id : ClassId) : List (ClassId × Method) :=
  firstByKey (·.2.signature) (library.declaredMethods id)

/-- The method of the signature that is visible on a class-like, with its
declarer. -/
def effectiveMethod? (library : Library) (id : ClassId) (signature : String) :
    Option (ClassId × Method) :=
  (library.effectiveMethods id).find? (·.2.signature == signature)

/-- The value of an own static attribute. -/
def staticValue? (library : Library) (id : ClassId) (identifier : String) : Option Value := do
  let classLike ← library.classLike? id
  let found ← classLike.staticAttribute? identifier
  classLike.layout.staticValues[found.index]?

end ClassModel.Library
