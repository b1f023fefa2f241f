import ClassModel.ClassLike
import ClassModel.Standard.Prelude

/-!
# ClassModel.Library

The compiled class-likes with their generic parameters. Declared class-likes
are found by name; instantiations are found through caches, the closed ones
through the cache of the library.
-/

namespace ClassModel

/-- A type model. -/
structure Library where
  /-- All class-likes, instantiations included. -/
  classLikes : Arena "ClassLike" ClassLike := .empty
  parameters : Arena "GenericParameter" GenericParameter := .empty
  /-- The declared class-likes in the order of their registration. -/
  types : List ClassId := []
  /-- The instantiations that mention no generic parameter, by their keys. -/
  typeCache : List (String × ClassId) := []

namespace Library

/-- The library without class-likes. -/
def empty : Library := {}

/-- The class-like of the identifier. -/
def classLike? (library : Library) (id : ClassId) : Option ClassLike := library.classLikes.get? id

/-- The generic parameter of the identifier. -/
def parameter? (library : Library) (id : ParameterId) : Option GenericParameter :=
  library.parameters.get? id

/-- The record of an instantiation. -/
def specialization? (library : Library) (id : ClassId) : Option Specialization :=
  (library.classLike? id).bind (·.specialization?)

/-- The declared class-like of the name. -/
def byIdentifier? (library : Library) (identifier : String) : Option ClassId :=
  library.types.find? fun id => (library.classLike? id).map (·.identifier) == some identifier

/-- The root class. -/
def objectId? (library : Library) : Option ClassId :=
  library.byIdentifier? Standard.objectIdentifier

/-- Whether the class-like is the root class. -/
def isObject (library : Library) (id : ClassId) : Bool := library.objectId? == some id

/-- The type of the root class, which stands for types that are unknown. -/
def objectType (library : Library) : Ty :=
  match library.objectId? with
  | some id => .classLike id
  | none => .void

/-- The generic class-like of an instantiation, and any other class-like
itself. -/
def baseOf (library : Library) (id : ClassId) : ClassId :=
  match library.specialization? id with
  | some specialization => specialization.base
  | none => id

/-- The closed instantiation under the key. -/
def cached? (library : Library) (key : String) : Option ClassId := library.typeCache.lookup key

/-- The class-likes with their identifiers, in the order of their creation. -/
def entries (library : Library) : List (ClassId × ClassLike) := library.classLikes.entries

/-! ## Changes -/

/-- Changes a class-like. -/
def modify (library : Library) (id : ClassId) (change : ClassLike → ClassLike) : Library :=
  { library with classLikes := library.classLikes.modify id change }

/-- Changes a generic parameter. -/
def modifyParameter (library : Library) (id : ParameterId)
    (change : GenericParameter → GenericParameter) : Library :=
  { library with parameters := library.parameters.modify id change }

/-- Adds a class-like that is not found by name, and tells its identifier. -/
def insert (library : Library) (classLike : ClassLike) : ClassId × Library :=
  (library.classLikes.nextId,
    { library with classLikes := library.classLikes.insert classLike })

/-- Adds a generic parameter, and tells its identifier. -/
def insertParameter (library : Library) (parameter : GenericParameter) : ParameterId × Library :=
  (library.parameters.nextId,
    { library with parameters := library.parameters.insert parameter })

/-- Adds a declared class-like; if its name is taken, tells by which one. -/
def register (library : Library) (classLike : ClassLike) : Except ClassId (ClassId × Library) :=
  match library.byIdentifier? classLike.identifier with
  | some existing => .error existing
  | none =>
    let (id, library) := library.insert classLike
    .ok (id, { library with types := library.types ++ [id] })

/-- Adds a closed instantiation to the cache. -/
def cache (library : Library) (key : String) (id : ClassId) : Library :=
  { library with typeCache := library.typeCache ++ [(key, id)] }

/-! ## The texts of types -/

/-- A text with a pair of brackets for each array dimension. -/
def bracketed (text : String) (dimension : Nat) : String :=
  text ++ String.join (List.replicate dimension "[]")

@[simp] theorem bracketed_zero (text : String) : bracketed text 0 = text := by
  rw [bracketed, List.replicate_zero]
  exact String.append_empty

theorem bracketed_bracketed (text : String) (m n : Nat) :
    bracketed (bracketed text m) n = bracketed text (m + n) := by
  rw [bracketed, bracketed, bracketed, String.append_assoc, ← String.join_append,
    List.replicate_append_replicate]

/-- A generic name with its arguments. -/
def applied (identifier : String) (arguments : List String) : String :=
  identifier ++ "<" ++ ", ".intercalate arguments ++ ">"

/-- How a type is written, such as `int[][]` or `Map<String, List<T>>`. -/
def signatureOf (library : Library) : Ty → String
  | .primitive type => type.text
  | .classLike id =>
    match library.classLike? id with
    | some classLike => classLike.signature
    | none => Standard.objectIdentifier
  | .parameter id =>
    match library.parameter? id with
    | some parameter => parameter.identifier
    | none => ""
  | .arrayOf item dimension => bracketed (library.signatureOf item) dimension

@[simp] theorem signatureOf_array (library : Library) (type : Ty) (n : Nat) :
    library.signatureOf (type.array n) = bracketed (library.signatureOf type) n :=
  type.apply_array (fun n text => bracketed text n) (fun _ _ => rfl) bracketed_zero
    bracketed_bracketed n

/-- The nesting of instantiations in a type. Array dimensions do not count. -/
def depthOf (library : Library) : Ty → Nat
  | .classLike id =>
    match library.specialization? id with
    | some specialization => specialization.depth
    | none => 0
  | .primitive _ | .parameter _ => 0
  | .arrayOf item _ => library.depthOf item

@[simp] theorem depthOf_array (library : Library) (type : Ty) (n : Nat) :
    library.depthOf (type.array n) = library.depthOf type :=
  type.apply_array (fun _ depth => depth) (fun _ _ => rfl) (fun _ => rfl)
    (fun _ _ _ => rfl) n

/-- The key of a type, from the keys of the arguments of its instantiation. -/
def keyFrom (library : Library) (argumentKey : Ty → String) : Ty → String
  | .primitive type => type.text
  | .classLike id =>
    match library.classLike? id with
    | some classLike =>
      match classLike.specialization? with
      | some specialization =>
        applied classLike.identifier (specialization.arguments.map argumentKey)
      | none => classLike.identifier
    | none => Standard.objectIdentifier
  | .parameter id =>
    match library.parameter? id with
    | some parameter =>
      let owner := match library.classLike? parameter.owner with
        | some classLike => classLike.identifier
        | none => ""
      owner ++ "." ++ parameter.identifier
    | none => ""
  | .arrayOf item dimension => bracketed (library.keyFrom argumentKey item) dimension

/-- The key of a type whose instantiations nest at most as deeply as given. -/
def keyWithin (library : Library) : Nat → Ty → String
  | 0, type => library.keyFrom (fun _ => "") type
  | depth + 1, type => library.keyFrom (library.keyWithin depth) type

@[simp] theorem keyFrom_array (library : Library) (argumentKey : Ty → String) (type : Ty)
    (n : Nat) :
    library.keyFrom argumentKey (type.array n) = bracketed (library.keyFrom argumentKey type) n :=
  type.apply_array (fun n text => bracketed text n) (fun _ _ => rfl) bracketed_zero
    bracketed_bracketed n

@[simp] theorem keyWithin_array (library : Library) (depth : Nat) (type : Ty) (n : Nat) :
    library.keyWithin depth (type.array n) = bracketed (library.keyWithin depth type) n := by
  cases depth <;> exact library.keyFrom_array ..

/-- The text that tells types apart: generic parameters are qualified by their
owner, as in `List<Box.T>`, so that none is taken for a class-like of its
name. -/
def keyOf (library : Library) (type : Ty) : String :=
  library.keyWithin (library.depthOf type) type

/-! ## Generic parameters in types -/

/-- The first generic parameter of a type, given how to find it in an argument
of its instantiation. -/
def parameterFrom? (library : Library) (inArgument : Ty → Option ParameterId) :
    Ty → Option ParameterId
  | .primitive _ => none
  | .classLike id =>
    (library.specialization? id).bind fun specialization =>
      specialization.arguments.findSome? inArgument
  | .parameter id => some id
  | .arrayOf item _ => library.parameterFrom? inArgument item

/-- The first generic parameter of a type whose instantiations nest at most as
deeply as given. -/
def parameterWithin? (library : Library) : Nat → Ty → Option ParameterId
  | 0, type => library.parameterFrom? (fun _ => none) type
  | depth + 1, type => library.parameterFrom? (library.parameterWithin? depth) type

@[simp] theorem parameterFrom?_array (library : Library) (inArgument : Ty → Option ParameterId)
    (type : Ty) (n : Nat) : library.parameterFrom? inArgument (type.array n)
      = library.parameterFrom? inArgument type :=
  type.apply_array (fun _ found => found) (fun _ _ => rfl) (fun _ => rfl)
    (fun _ _ _ => rfl) n

@[simp] theorem parameterWithin?_array (library : Library) (depth : Nat) (type : Ty) (n : Nat) :
    library.parameterWithin? depth (type.array n) = library.parameterWithin? depth type := by
  cases depth <;> exact library.parameterFrom?_array ..

/-- The first generic parameter that occurs in a type. -/
def firstParameter? (library : Library) (type : Ty) : Option ParameterId :=
  library.parameterWithin? (library.depthOf type) type

/-- Whether a generic parameter occurs in the type. -/
def isOpen (library : Library) (type : Ty) : Bool := (library.firstParameter? type).isSome

end Library

end ClassModel
