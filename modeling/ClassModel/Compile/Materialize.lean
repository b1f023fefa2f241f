import ClassModel.Compile.Member

/-!
# ClassModel.Compile.Materialize

Filling in the instantiations: each takes over the supertypes, the members and
the layout of its base, with the arguments in place of the generic parameters.
Substitution may request further instantiations, which join the end of the
worklist.
-/

namespace ClassModel

/-- What stands for each generic parameter. -/
abbrev Substitution := List (ParameterId × Ty)

namespace Library

/-- The class-like that declares the first generic parameter in the types. -/
def ownerOfFirst? (library : Library) (types : List Ty) : Option ClassId :=
  ((types.findSome? library.firstParameter?).bind library.parameter?).map (·.owner)

end Library

namespace Build

/-! ## Substitution -/

/-- Substitutes in the arguments of an instantiation, given how to substitute
in a type. An instantiation whose arguments stay the same stays itself; any
other one is requested anew, for the owner of the first generic parameter that
is left in it. -/
def substituteArguments (options : Options) (inType : Ty → Build Ty) (id : ClassId)
    (specialization : Specialization) : Build Ty := do
  let arguments ← specialization.arguments.mapM inType
  if arguments = specialization.arguments then return .classLike id
  let context? := (← library).ownerOfFirst? arguments
  instantiate options specialization.base arguments context? specialization.signature

/-- Substitutes in a type, given how to substitute in the arguments of an
instantiation. Arrays of what takes the place of the items are made anew. -/
def substituteFrom (options : Options) (substitution : Substitution)
    (inType? : Option (Ty → Build Ty)) : Ty → Build Ty
  | .primitive primitive => return .primitive primitive
  | .parameter id => return (substitution.lookup id).getD (.parameter id)
  | .classLike id => do
    match inType?, (← classLike id).specialization? with
    | some inType, some specialization => substituteArguments options inType id specialization
    | _, _ => return .classLike id
  | .arrayOf item dimension => do
    let item ← substituteFrom options substitution inType? item
    return item.array dimension

/-- Substitutes in a type whose instantiations nest at most as deeply as
given. -/
def substituteWithin (options : Options) (substitution : Substitution) : Nat → Ty → Build Ty
  | 0, type => substituteFrom options substitution none type
  | depth + 1, type =>
    substituteFrom options substitution (some (substituteWithin options substitution depth)) type

/-- Puts types in place of the generic parameters of a type. -/
def substitute (options : Options) (substitution : Substitution) (type : Ty) : Build Ty := do
  substituteWithin options substitution ((← library).depthOf type) type

/-- Substituting in arrays makes arrays of what substituting in the items answers. -/
theorem substituteFrom_array (options : Options) (substitution : Substitution)
    (inType? : Option (Ty → Build Ty)) (type : Ty) (n : Nat) :
    substituteFrom options substitution inType? (type.array n)
      = (·.array n) <$> substituteFrom options substitution inType? type :=
  type.apply_array (fun n items => (fun item : Ty => item.array n) <$> items)
    (fun _ n => bind_pure_comp (fun item : Ty => item.array n) _) id_map
    (fun items m n => by simp only [Functor.map_map, Ty.array_array]) n

theorem substituteWithin_array (options : Options) (substitution : Substitution) (depth : Nat)
    (type : Ty) (n : Nat) : substituteWithin options substitution depth (type.array n)
      = (·.array n) <$> substituteWithin options substitution depth type := by
  cases depth <;> exact substituteFrom_array ..

theorem substitute_array (options : Options) (substitution : Substitution) (type : Ty) (n : Nat) :
    substitute options substitution (type.array n)
      = (·.array n) <$> substitute options substitution type := by
  simp only [substitute, Library.depthOf_array, substituteWithin_array, map_bind]

/-- Puts types in place of the generic parameters of a supertype. -/
def substituteClassLike (options : Options) (substitution : Substitution) (id : ClassId) :
    Build ClassId := do
  let type ← substitute options substitution (.classLike id)
  return type.classLike?.getD id

/-- Puts types in place of the generic parameters in all supertypes. Enums have
no generic parameters. -/
def substituteKind (options : Options) (substitution : Substitution) : Kind → Build Kind
  | .class superclass? interfaces isAbstract => do
    let superclass? ← superclass?.mapM (substituteClassLike options substitution)
    let interfaces ← interfaces.mapM (substituteClassLike options substitution)
    return .class superclass? interfaces isAbstract
  | .interface extended => do
    return .interface (← extended.mapM (substituteClassLike options substitution))
  | .enum interfaces constants => return .enum interfaces constants

/-- Puts types in place of the generic parameters of a method, whose signature
changes with the types of its parameters. -/
def substituteMethod (options : Options) (substitution : Substitution) (method : Method) :
    Build Method := do
  let returnType? ← method.returnType?.mapM (substitute options substitution)
  let formals ← method.formals.mapM fun formal => do
    return { formal with type := ← substitute options substitution formal.type }
  let signature := (← library).methodSignature method.identifier formals
  return { method with returnType? := returnType?, formals := formals, signature := signature }

/-- Puts types in place of the generic parameters of an attribute. -/
def substituteAttribute (options : Options) (substitution : Substitution) (found : Attribute) :
    Build Attribute := do
  return { found with type := ← substitute options substitution found.type }

/-! ## The worklist -/

/-- Fills in an instantiation. -/
def materialize (options : Options) (id : ClassId) : Build Unit := do
  match (← classLike id).specialization? with
  | none => return
  | some specialization =>
    let base ← classLike specialization.base
    let substitution := base.genericParameters.zip specialization.arguments
    let kind ← substituteKind options substitution base.kind
    let methods ← base.methods.mapM (substituteMethod options substitution)
    let attributes ← base.attributes.mapM (substituteAttribute options substitution)
    modifyClassLike id fun classLike =>
      { classLike with
        kind := kind
        methods := methods
        attributes := attributes
        layout := base.layout
        specialization? := classLike.specialization?.map ({ · with isMaterialized := true }) }

/-- Fills in the pending instantiations, oldest first, and those that this
requests. The budget is the number of instantiations that may be filled in. -/
def materializeAll (options : Options) : Nat → Build Unit
  | 0 => do
    unless (← get).pending.isEmpty do throw .budgetExhausted
  | budget + 1 => do
    match (← get).pending with
    | [] => return
    | id :: pending =>
      modify ({ · with pending })
      materialize options id
      materializeAll options budget

end Build

end ClassModel
