import ClassModel.Declaration
import ClassModel.Token
import ClassModel.Ty

/-!
# ClassModel.ClassLike

The nodes of the type model: classes, interfaces and enums with their members,
and the generic parameters that they declare. An instantiation of a generic
class-like is a class-like itself and carries a `Specialization`.
-/

namespace ClassModel

/-- Who may see a class-like or a member. -/
inductive Visibility where
  | «public»
  | «protected»
  | «private»
  deriving DecidableEq, Repr, Inhabited

/-- The word for a visibility. -/
def Visibility.text : Visibility → String
  | «public» => "public"
  | «protected» => "protected"
  | «private» => "private"

/-- A parameter declared by a generic class or interface. -/
structure GenericParameter where
  identifier : String
  /-- The class-like that declares the parameter. -/
  owner : ClassId
  /-- The types that an argument extends, in order of declaration. -/
  upperBounds : List Ty := []
  /-- The type that an argument is a supertype of. -/
  lowerBound? : Option Ty := none
  deriving DecidableEq

namespace GenericParameter

/-- The parameter with a further upper bound. -/
def withUpperBound (parameter : GenericParameter) (bound : Ty) : GenericParameter :=
  { parameter with upperBounds := parameter.upperBounds ++ [bound] }

/-- The parameter with the given lower bound. -/
def withLowerBound (parameter : GenericParameter) (bound : Ty) : GenericParameter :=
  { parameter with lowerBound? := some bound }

end GenericParameter

/-! ## Members -/

/-- A formal parameter of a method. -/
structure Formal where
  identifier : String
  type : Ty
  /-- Whether the parameter takes any number of arguments. -/
  isVariadic : Bool
  /-- The slot in the frame of a call; slot 0 holds the receiver. -/
  stackPosition : Nat
  deriving DecidableEq

/-- A method or a constructor. -/
structure Method where
  identifier : String
  /-- The type of the result; a constructor has none. -/
  returnType? : Option Ty
  formals : List Formal
  visibility : Visibility
  isAbstract : Bool
  isStatic : Bool
  isFinal : Bool
  /-- Whether a method of a subtype implements this one. -/
  isVirtual : Bool := false
  /-- The name with the types of the parameters, by which a method is found. -/
  signature : String
  body? : Option Body

namespace Method

/-- Whether the method is a constructor. -/
def isConstructor (method : Method) : Bool := method.returnType?.isNone

/-- Whether the method belongs to objects: it is neither static nor a
constructor. -/
def isInstance (method : Method) : Bool := !method.isStatic && !method.isConstructor

/-- Whether the last parameter takes any number of arguments. -/
def isVariadic (method : Method) : Bool :=
  match method.formals.getLast? with
  | some formal => formal.isVariadic
  | none => false

/-- Whether a call of the method yields no value. -/
def returnsNothing (method : Method) : Bool :=
  match method.returnType? with
  | some type => type.isVoid
  | none => true

end Method

/-- An attribute. -/
structure Attribute where
  identifier : String
  type : Ty
  visibility : Visibility
  isStatic : Bool
  isFinal : Bool
  isTransient : Bool
  /-- The slot in an object; for a static attribute, the position among the
  static values of its class-like. -/
  index : Nat := 0
  deriving DecidableEq

/-! ## Class-likes -/

/-- What distinguishes classes, interfaces and enums. -/
inductive Kind where
  /-- Only the root class has no superclass. -/
  | «class» (superclass? : Option ClassId) (interfaces : List ClassId) (isAbstract : Bool)
  | interface (extended : List ClassId)
  /-- The constants stand in the order of their ordinals. -/
  | enum (interfaces : List ClassId) (constants : List String)
  deriving DecidableEq

namespace Kind

/-- The word that declares a class-like of the kind. -/
def keyword : Kind → Keyword
  | «class» .. => .class
  | interface .. => .interface
  | enum .. => .enum

def isClass : Kind → Bool
  | «class» .. => true
  | _ => false

def isInterface : Kind → Bool
  | interface .. => true
  | _ => false

def isEnum : Kind → Bool
  | enum .. => true
  | _ => false

/-- Whether there are no direct instances. Enums have their constants. -/
def isAbstract : Kind → Bool
  | «class» _ _ isAbstract => isAbstract
  | interface _ => true
  | enum .. => false

/-- The superclass, of classes only. -/
def superclass? : Kind → Option ClassId
  | «class» superclass? _ _ => superclass?
  | _ => none

/-- The interfaces that are implemented, or extended by an interface. -/
def interfaces : Kind → List ClassId
  | «class» _ interfaces _ => interfaces
  | interface extended => extended
  | enum interfaces _ => interfaces

/-- The direct supertypes: the superclass first, then the interfaces. -/
def supertypes (kind : Kind) : List ClassId := kind.superclass?.toList ++ kind.interfaces

/-- The constants of an enum. -/
def constants : Kind → List String
  | enum _ constants => constants
  | _ => []

/-- The kind with another superclass; only classes have one. -/
def withSuperclass (superclass? : Option ClassId) : Kind → Kind
  | «class» _ interfaces isAbstract => «class» superclass? interfaces isAbstract
  | kind => kind

/-- The kind with other interfaces. -/
def withInterfaces (interfaces : List ClassId) : Kind → Kind
  | «class» superclass? _ isAbstract => «class» superclass? interfaces isAbstract
  | interface _ => interface interfaces
  | enum _ constants => enum interfaces constants

/-- The kind with other constants; only enums have them. -/
def withConstants (constants : List String) : Kind → Kind
  | enum interfaces _ => enum interfaces constants
  | kind => kind

/-- The kind without supertypes. -/
def withoutSupertypes (kind : Kind) : Kind := (kind.withSuperclass none).withInterfaces []

end Kind

/-- Where the values of the attributes are kept. -/
structure Layout where
  /-- The slot of the first own instance attribute: the number of inherited
  slots. -/
  firstAttributeIndex : Nat := 0
  /-- The contents of a fresh object, inherited slots first. -/
  initialValues : List Value := []
  /-- The values of the static attributes. -/
  staticValues : List Value := []
  deriving Inhabited

/-- Marks a class-like as an instantiation of a generic one. -/
structure Specialization where
  /-- The generic class-like. -/
  base : ClassId
  /-- An argument for each generic parameter. -/
  arguments : List Ty
  /-- The instantiation as it is written, such as `Map<String, List<T>>`. -/
  signature : String
  /-- How deeply instantiations are nested; one, if no argument is one. -/
  depth : Nat
  /-- Whether supertypes and members are filled in. -/
  isMaterialized : Bool := false
  deriving DecidableEq

/-- A class, interface or enum. -/
structure ClassLike where
  /-- The declared name; an instantiation keeps the name of its base. -/
  identifier : String
  visibility : Visibility
  isFinal : Bool := false
  kind : Kind
  genericParameters : List ParameterId := []
  methods : List Method := []
  attributes : List Attribute := []
  layout : Layout := {}
  /-- The instantiations that mention a generic parameter of this class-like,
  by their keys. -/
  localCache : List (String × ClassId) := []
  /-- The declaration that the class-like was compiled from. -/
  prototype? : Option Declaration := none
  specialization? : Option Specialization := none

namespace ClassLike

/-- The class-like as it is written: an instantiation with its arguments. -/
def signature (classLike : ClassLike) : String :=
  match classLike.specialization? with
  | some specialization => specialization.signature
  | none => classLike.identifier

/-- The own attributes that belong to objects. -/
def instanceAttributes (classLike : ClassLike) : List Attribute :=
  classLike.attributes.filter (!·.isStatic)

/-- The number of slots of an object of the class-like. -/
def attributeCount (classLike : ClassLike) : Nat :=
  classLike.layout.firstAttributeIndex + classLike.instanceAttributes.length

/-- The own method of the signature. -/
def method? (classLike : ClassLike) (signature : String) : Option Method :=
  classLike.methods.find? (·.signature == signature)

/-- The own attribute of the name. -/
def attribute? (classLike : ClassLike) (identifier : String) : Option Attribute :=
  classLike.attributes.find? (·.identifier == identifier)

/-- The own static attribute of the name. -/
def staticAttribute? (classLike : ClassLike) (identifier : String) : Option Attribute :=
  (classLike.attribute? identifier).filter (·.isStatic)

end ClassLike

end ClassModel
