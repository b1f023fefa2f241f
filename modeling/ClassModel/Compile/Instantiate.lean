import ClassModel.Compile.Build

/-!
# ClassModel.Compile.Instantiate

Instantiations of generic class-likes. An instantiation is known by its key,
and is requested as often as it is mentioned but created once. A closed one is
kept in the cache of the library, and one that mentions generic parameters in
the cache of the class-like in whose context it was requested.

A new instantiation is a shell without supertypes and members. They are filled
in once the members of every declaration are known.
-/

namespace ClassModel

namespace Library

/-- The instantiation under the key: a closed one, or one of the context. -/
def instantiation? (library : Library) (context? : Option ClassId) (key : String) :
    Option ClassId :=
  match library.cached? key with
  | some id => some id
  | none => (context?.bind library.classLike?).bind fun context => context.localCache.lookup key

/-- The nesting of an instantiation with the arguments. -/
def depthOfApplication (library : Library) (arguments : List Ty) : Nat :=
  1 + (arguments.map library.depthOf).foldl max 0

/-- Whether a generic parameter occurs in one of the types. -/
def anyOpen (library : Library) (types : List Ty) : Bool := types.any library.isOpen

end Library

/-- The instantiation of a class-like before its supertypes and members are
filled in. -/
def ClassLike.shell (base : ClassLike) (specialization : Specialization) : ClassLike :=
  { identifier := base.identifier
    visibility := base.visibility
    isFinal := base.isFinal
    kind := base.kind.withoutSupertypes
    prototype? := base.prototype?
    specialization? := some specialization }

namespace Build

/-- Brings arguments to the expected number: missing ones become the root
class, excess ones are dropped. -/
def fitArguments (options : Options) (base : ClassId) (expected : Nat) (arguments : List Ty)
    (signature : String) : Build (List Ty) := do
  if arguments.length = expected then return arguments
  report (.mismatchedArguments signature base expected arguments.length options.strict)
  let object := (← library).objectType
  return (arguments ++ List.replicate expected object).take expected

/-- Adds the shell of an instantiation to the library and to the cache where
its key belongs. -/
def createInstantiation (baseClass : ClassLike) (specialization : Specialization)
    (context? : Option ClassId) (key : String) : Build ClassId := do
  let before ← library
  let (id, after) := before.insert (baseClass.shell specialization)
  setLibrary after
  match context? with
  | some context =>
    if before.anyOpen specialization.arguments then
      modifyClassLike context fun owner =>
        { owner with localCache := owner.localCache ++ [(key, id)] }
    else setLibrary (after.cache key id)
  | none => setLibrary (after.cache key id)
  modify fun state => { state with pending := state.pending ++ [id] }
  return id

/-- The type of a generic class-like applied to arguments. The context is the
class-like whose signature mentions it. -/
def instantiate (options : Options) (base : ClassId) (arguments : List Ty)
    (context? : Option ClassId) (signature : String) : Build Ty := do
  let baseClass ← classLike base
  let arguments ← fitArguments options base baseClass.genericParameters.length arguments signature
  if arguments.isEmpty then return .classLike base
  let library ← library
  let canonical := Library.applied baseClass.identifier (arguments.map library.signatureOf)
  let key := Library.applied baseClass.identifier (arguments.map library.keyOf)
  match library.instantiation? context? key with
  | some id => return .classLike id
  | none =>
    let depth := library.depthOfApplication arguments
    if options.maxSpecializationDepth < depth then
      report (.depthExceeded canonical options.maxSpecializationDepth)
      return .classLike base
    if library.anyOpen arguments && context?.isNone then
      throw (.missingGenericContext canonical)
    let specialization : Specialization :=
      { base := base, arguments := arguments, signature := canonical, depth := depth }
    return .classLike (← createInstantiation baseClass specialization context? key)

end Build

end ClassModel
