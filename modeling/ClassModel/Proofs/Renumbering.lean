import ClassModel.Proofs.Marks
import ClassModel.Proofs.Reach
import Mathlib.Data.List.Perm.Basic
import Mathlib.Logic.Equiv.Basic

/-!
# ClassModel.Proofs.Renumbering

Other identifiers for the same class-likes. A `Renumbering` permutes the
identifiers of class-likes and of generic parameters; `Library.Renumbered` says
that a library is another one under different identifiers, up to the order in
which class-likes are listed. What is computed from a library follows its
renumbering, up to the methods that the last stage marks (`Renumbered.marks_eq`).
-/

namespace ClassModel

/-- Other identifiers for class-likes and generic parameters. -/
structure Renumbering where
  classLikes : Equiv.Perm ClassId
  parameters : Equiv.Perm ParameterId

namespace Renumbering

variable (renumbering : Renumbering)

def type : Ty → Ty
  | .primitive type => .primitive type
  | .classLike id => .classLike (renumbering.classLikes id)
  | .parameter id => .parameter (renumbering.parameters id)
  | .arrayOf item n => .arrayOf (type item) n

def parameter (parameter : GenericParameter) : GenericParameter :=
  { parameter with
    owner := renumbering.classLikes parameter.owner
    upperBounds := parameter.upperBounds.map renumbering.type
    lowerBound? := parameter.lowerBound?.map renumbering.type }

def formal (formal : Formal) : Formal := { formal with type := renumbering.type formal.type }

def method (method : Method) : Method :=
  { method with
    returnType? := method.returnType?.map renumbering.type
    formals := method.formals.map renumbering.formal }

/-- The attribute with its type under other identifiers. -/
def field (found : Attribute) : Attribute := { found with type := renumbering.type found.type }

def kind : Kind → Kind
  | .class superclass? interfaces isAbstract =>
    .class (superclass?.map renumbering.classLikes)
      (interfaces.map renumbering.classLikes) isAbstract
  | .interface extended => .interface (extended.map renumbering.classLikes)
  | .enum interfaces constants => .enum (interfaces.map renumbering.classLikes) constants

def specialization (specialization : Specialization) : Specialization :=
  { specialization with
    base := renumbering.classLikes specialization.base
    arguments := specialization.arguments.map renumbering.type }

def ref (ref : Library.MethodRef) : Library.MethodRef := (renumbering.classLikes ref.1, ref.2)

/-- The entries of a cache under the same keys. -/
def cache (entries : List (String × ClassId)) : List (String × ClassId) :=
  entries.map fun (key, id) => (key, renumbering.classLikes id)

def classLike (classLike : ClassLike) : ClassLike :=
  { classLike with
    kind := renumbering.kind classLike.kind
    genericParameters := classLike.genericParameters.map renumbering.parameters
    methods := classLike.methods.map renumbering.method
    attributes := classLike.attributes.map renumbering.field
    localCache := renumbering.cache classLike.localCache
    specialization? := classLike.specialization?.map renumbering.specialization }

def diagnostic : Diagnostic → Diagnostic
  | .mismatchedArguments signature classLike expected found strict =>
    .mismatchedArguments signature (renumbering.classLikes classLike) expected found strict
  | .invalidSupertype signature supertype expected =>
    .invalidSupertype signature (renumbering.classLikes supertype) expected
  | .multipleSuperclasses signature existing ignored =>
    .multipleSuperclasses signature (renumbering.classLikes existing)
      (renumbering.classLikes ignored)
  | .redefinedClassLike existing signature =>
    .redefinedClassLike (renumbering.classLikes existing) signature
  | .redefinedMember classLike member => .redefinedMember (renumbering.classLikes classLike) member
  | .unknownStaticValue classLike identifier =>
    .unknownStaticValue (renumbering.classLikes classLike) identifier
  | .cyclicInheritance classLike => .cyclicInheritance (renumbering.classLikes classLike)
  | diagnostic => diagnostic

end Renumbering

/-- The class-like is the other one under different identifiers; its cache
may list the entries in another order. -/
structure ClassLike.Renumbered (renumbering : Renumbering)
    (classLike classLike' : ClassLike) : Prop where
  cache : (renumbering.cache classLike.localCache).Perm classLike'.localCache
  rest : classLike' = { renumbering.classLike classLike with localCache := classLike'.localCache }

/-- The library is the other one under different identifiers. -/
structure Library.Renumbered (renumbering : Renumbering) (before after : Library) : Prop where
  classLike? (id : ClassId) : Option.Rel (ClassLike.Renumbered renumbering) (before.classLike? id)
    (after.classLike? (renumbering.classLikes id))
  parameter? (id : ParameterId) :
    after.parameter? (renumbering.parameters id) = (before.parameter? id).map renumbering.parameter
  types : (before.types.map renumbering.classLikes).Perm after.types
  typeCache : (renumbering.cache before.typeCache).Perm after.typeCache

/-! ## Walks -/

namespace Walk

variable {α β : Type} [BEq α] [LawfulBEq α] [BEq β] [LawfulBEq β] {f : α → β}

theorem contains_map (inj : Function.Injective f) (nodes : List α) (node : α) :
    (nodes.map f).contains (f node) = nodes.contains node := by
  rw [Bool.eq_iff_iff, List.contains_iff_mem, List.contains_iff_mem,
    List.mem_map_of_injective inj]

theorem along_map {next? : α → Option α} {next?' : β → Option β} (inj : Function.Injective f)
    (step : ∀ node, next?' (f node) = (next? node).map f) (bound : Nat) (path : List α)
    (start? : Option α) :
    along next?' bound (path.map f) (start?.map f) = (along next? bound path start?).map f := by
  induction bound generalizing path start? with
  | zero => rfl
  | succ bound ih =>
    cases start? with
    | none => rfl
    | some node =>
      rw [Option.map_some, along, along, contains_map inj]
      split
      · rfl
      · rw [step, ← ih, List.map_append, List.map_singleton]

theorem breadthFirst_map {next : α → List α} {next' : β → List β} (inj : Function.Injective f)
    (step : ∀ node, next' (f node) = (next node).map f) (bound : Nat) (listed queue : List α) :
    breadthFirst next' bound (listed.map f) (queue.map f)
      = (breadthFirst next bound listed queue).map f := by
  induction bound generalizing listed queue with
  | zero => rfl
  | succ bound ih =>
    have dropped : (queue.map f).dropWhile (listed.map f).contains
        = (queue.dropWhile listed.contains).map f := by
      rw [List.dropWhile_map]
      congr 2
      exact funext fun node => contains_map inj listed node
    rw [breadthFirst, breadthFirst, dropped]
    cases queue.dropWhile listed.contains with
    | nil => rfl
    | cons node queue =>
      rw [List.map_cons]
      dsimp only
      rw [← ih, List.map_append, List.map_append, List.map_singleton, step]

end Walk

/-! ## Look-ups -/

namespace Renumbering

variable (renumbering : Renumbering)

theorem classLikes_inj : Function.Injective renumbering.classLikes :=
  renumbering.classLikes.injective

theorem type_inj : Function.Injective renumbering.type := by
  intro source target same
  induction source generalizing target with
  | primitive | classLike | parameter => cases target <;> simp_all [type]
  | arrayOf source m ih =>
    cases target with
    | primitive | classLike | parameter => simp [type] at same
    | arrayOf target n =>
      simp only [type, Ty.arrayOf.injEq] at same
      rw [ih same.1, same.2]

theorem ref_inj : Function.Injective renumbering.ref := by
  rintro ⟨id, index⟩ ⟨id', index'⟩ same
  simp only [ref, Prod.mk.injEq, renumbering.classLikes_inj.eq_iff] at same ⊢
  exact same

theorem beq_classLikes (id id' : ClassId) :
    (renumbering.classLikes id == renumbering.classLikes id') = (id == id') := by
  rw [Bool.eq_iff_iff, beq_iff_eq, beq_iff_eq, renumbering.classLikes_inj.eq_iff]

theorem beq_type (source target : Ty) :
    (renumbering.type source == renumbering.type target) = (source == target) := by
  rw [Bool.eq_iff_iff, beq_iff_eq, beq_iff_eq, renumbering.type_inj.eq_iff]

@[simp] theorem primitive?_type (type : Ty) :
    (renumbering.type type).primitive? = type.primitive? := by
  cases type <;> rfl

@[simp] theorem type_array (type : Ty) (n : Nat) :
    renumbering.type (type.array n) = (renumbering.type type).array n := by
  rcases Nat.eq_zero_or_pos n with rfl | positive
  · rfl
  cases type with
  | arrayOf item m =>
    rw [Ty.array_arrayOf _ _ positive, Renumbering.type, Renumbering.type,
      Ty.array_arrayOf _ _ positive]
  | primitive | classLike | parameter =>
    rw [Ty.array_of_isArray_eq_false rfl positive]
    exact (Ty.array_of_isArray_eq_false rfl positive).symm

@[simp] theorem isArray_type (type : Ty) : (renumbering.type type).isArray = type.isArray := by
  cases type <;> rfl

@[simp] theorem isValuePrimitive_type (type : Ty) :
    (renumbering.type type).isValuePrimitive = type.isValuePrimitive := by
  rw [Ty.isValuePrimitive, Ty.isValuePrimitive, primitive?_type]

@[simp] theorem type_formal (formal : Formal) :
    (renumbering.formal formal).type = renumbering.type formal.type := rfl

@[simp] theorem isInstance_method (method : Method) :
    (renumbering.method method).isInstance = method.isInstance := by
  rw [Method.isInstance, Method.isInstance, Method.isConstructor, Method.isConstructor]
  dsimp only [Renumbering.method]
  rw [Option.isNone_map]

@[simp] theorem returnsNothing_method (method : Method) :
    (renumbering.method method).returnsNothing = method.returnsNothing := by
  rw [Method.returnsNothing, Method.returnsNothing]
  dsimp only [Renumbering.method]
  cases method.returnType? with
  | none => rfl
  | some type => exact congrArg (· == some .void) (renumbering.primitive?_type type)

@[simp] theorem supertypes_kind (kind : Kind) :
    (renumbering.kind kind).supertypes = kind.supertypes.map renumbering.classLikes := by
  cases kind with
  | «class» superclass? interfaces isAbstract => cases superclass? <;> rfl
  | interface | enum => rfl

@[simp] theorem superclass?_kind (kind : Kind) :
    (renumbering.kind kind).superclass? = kind.superclass?.map renumbering.classLikes := by
  cases kind <;> rfl

end Renumbering

namespace Arena

variable {label : String} {α β : Type} {arena : Arena label α} {arena' : Arena label β}
  {turn : Equiv.Perm (Id label)}

/-- Arenas with items under corresponding identifiers are of one size. -/
theorem ids_perm (same : ∀ id, (arena.get? id).isSome = (arena'.get? (turn id)).isSome) :
    (arena.ids.map turn).Perm arena'.ids := by
  rw [List.perm_ext_iff_of_nodup ((List.nodup_map_iff turn.injective).2 arena.nodup_ids)
    arena'.nodup_ids]
  intro id
  obtain ⟨id, rfl⟩ := turn.surjective id
  rw [List.mem_map_of_injective turn.injective, mem_ids, mem_ids, ← isSome_get?, ← isSome_get?,
    same]

theorem size_eq (same : ∀ id, (arena.get? id).isSome = (arena'.get? (turn id)).isSome) :
    arena'.size = arena.size := by
  simpa [ids] using (ids_perm same).length_eq.symm

end Arena

namespace Library.Renumbered

variable {renumbering : Renumbering} {before after : Library}

/-- Class-likes are the same under different identifiers, up to their caches. -/
theorem classLike?_eq (renumbered : before.Renumbered renumbering after) (id : ClassId) :
    ∃ entries, after.classLike? (renumbering.classLikes id)
      = (before.classLike? id).map
        fun classLike => { renumbering.classLike classLike with localCache := entries } := by
  have related := renumbered.classLike? id
  generalize before.classLike? id = known, after.classLike? (renumbering.classLikes id) = found
    at related ⊢
  cases related with
  | none => exact ⟨[], rfl⟩
  | some related => exact ⟨_, congrArg some related.rest⟩

theorem specialization? (renumbered : before.Renumbered renumbering after) (id : ClassId) :
    after.specialization? (renumbering.classLikes id)
      = (before.specialization? id).map renumbering.specialization := by
  rw [Library.specialization?, Library.specialization?]
  obtain ⟨entries, same⟩ := renumbered.classLike?_eq id
  rw [same]
  cases before.classLike? id <;> rfl

theorem baseOf (renumbered : before.Renumbered renumbering after) (id : ClassId) :
    after.baseOf (renumbering.classLikes id) = renumbering.classLikes (before.baseOf id) := by
  rw [Library.baseOf, Library.baseOf, renumbered.specialization?]
  cases before.specialization? id <;> rfl

theorem hierarchyKind? (renumbered : before.Renumbered renumbering after) (id : ClassId) :
    after.hierarchyKind? (renumbering.classLikes id)
      = (before.hierarchyKind? id).map renumbering.kind := by
  rw [Library.hierarchyKind?, Library.hierarchyKind?]
  obtain ⟨entries, same⟩ := renumbered.classLike?_eq id
  rw [same]
  cases before.classLike? id with
  | none => rfl
  | some classLike =>
    simp only [Option.map_some, Option.bind_eq_bind, Option.bind_some]
    dsimp only [Renumbering.classLike]
    cases classLike.specialization? with
    | none => rfl
    | some specialization =>
      dsimp only [Option.map_some, Renumbering.specialization]
      split
      · rfl
      · obtain ⟨entries, same⟩ := renumbered.classLike?_eq specialization.base
        rw [same]
        cases before.classLike? specialization.base <;> rfl

theorem superclass? (renumbered : before.Renumbered renumbering after) (id : ClassId) :
    after.superclass? (renumbering.classLikes id)
      = (before.superclass? id).map renumbering.classLikes := by
  rw [Library.superclass?, Library.superclass?, renumbered.hierarchyKind?]
  cases before.hierarchyKind? id with
  | none => rfl
  | some kind => exact renumbering.superclass?_kind kind

theorem directSupertypes (renumbered : before.Renumbered renumbering after) (id : ClassId) :
    after.directSupertypes (renumbering.classLikes id)
      = (before.directSupertypes id).map renumbering.classLikes := by
  rw [Library.directSupertypes, Library.directSupertypes, renumbered.hierarchyKind?]
  cases before.hierarchyKind? id with
  | none => rfl
  | some kind => exact renumbering.supertypes_kind kind

theorem methodsOf (renumbered : before.Renumbered renumbering after) (id : ClassId) :
    after.methodsOf (renumbering.classLikes id)
      = (before.methodsOf id).map renumbering.method := by
  rw [Library.methodsOf, Library.methodsOf]
  obtain ⟨entries, same⟩ := renumbered.classLike?_eq id
  rw [same]
  cases before.classLike? id <;> rfl

/-! ## Keys -/

theorem keyFrom (renumbered : before.Renumbered renumbering after)
    {argumentKey argumentKey' : Ty → String}
    (same : ∀ type, argumentKey' (renumbering.type type) = argumentKey type) (type : Ty) :
    after.keyFrom argumentKey' (renumbering.type type) = before.keyFrom argumentKey type := by
  have arguments (types : List Ty) :
      (types.map renumbering.type).map argumentKey' = types.map argumentKey := by
    rw [List.map_map]
    exact List.map_congr_left fun type _ => same type
  induction type with
  | primitive => rfl
  | arrayOf item n ih => exact congrArg (bracketed · n) ih
  | classLike id =>
    dsimp only [Renumbering.type, Library.keyFrom]
    obtain ⟨entries, same⟩ := renumbered.classLike?_eq id
    rw [same]
    cases before.classLike? id with
    | none => rfl
    | some classLike =>
      dsimp only [Option.map_some, Renumbering.classLike]
      cases classLike.specialization? with
      | none => rfl
      | some specialization =>
        exact congrArg (Library.applied classLike.identifier) (arguments specialization.arguments)
  | parameter id =>
    dsimp only [Renumbering.type, Library.keyFrom]
    rw [renumbered.parameter?]
    cases before.parameter? id with
    | none => rfl
    | some parameter =>
      dsimp only [Option.map_some, Renumbering.parameter]
      obtain ⟨entries, same⟩ := renumbered.classLike?_eq parameter.owner
      rw [same]
      cases before.classLike? parameter.owner <;> rfl

theorem keyWithin (renumbered : before.Renumbered renumbering after) (bound : Nat) (type : Ty) :
    after.keyWithin bound (renumbering.type type) = before.keyWithin bound type := by
  induction bound generalizing type with
  | zero => exact renumbered.keyFrom (fun _ => rfl) type
  | succ bound ih => exact renumbered.keyFrom ih type

/-- Types keep their keys. -/
theorem keyOf (renumbered : before.Renumbered renumbering after) (type : Ty) :
    after.keyOf (renumbering.type type) = before.keyOf type := by
  have depth : after.depthOf (renumbering.type type) = before.depthOf type := by
    induction type with
    | classLike id =>
      dsimp only [Library.depthOf, Renumbering.type]
      rw [renumbered.specialization?]
      cases before.specialization? id <;> rfl
    | primitive | parameter => rfl
    | arrayOf item n ih => exact ih
  rw [Library.keyOf, Library.keyOf, depth, renumbered.keyWithin]

/-! ## Sizes -/

theorem ids_perm (renumbered : before.Renumbered renumbering after) :
    (before.classLikes.ids.map renumbering.classLikes).Perm after.classLikes.ids := by
  refine Arena.ids_perm fun id => ?_
  change (before.classLike? id).isSome = (after.classLike? _).isSome
  have related := renumbered.classLike? id
  generalize before.classLike? id = found, after.classLike? (renumbering.classLikes id) = found'
    at related ⊢
  cases related <;> rfl

theorem walkBound (renumbered : before.Renumbered renumbering after) :
    after.walkBound = before.walkBound := by
  rw [Library.walkBound, Library.walkBound, ← (renumbered.ids_perm.flatMap_right _).length_eq,
    List.flatMap_map, List.length_flatMap, List.length_flatMap]
  simp only [renumbered.directSupertypes, List.length_map]

theorem size_parameters (renumbered : before.Renumbered renumbering after) :
    after.parameters.size = before.parameters.size := by
  refine @Arena.size_eq _ _ _ _ _ renumbering.parameters fun id => ?_
  change (before.parameter? id).isSome = (after.parameter? _).isSome
  rw [renumbered.parameter?, Option.isSome_map]

/-! ## The hierarchy -/

section Hierarchy

variable (renumbered : before.Renumbered renumbering after)

include renumbered

theorem supertypeClosure (id : ClassId) : after.supertypeClosure (renumbering.classLikes id)
    = (before.supertypeClosure id).map renumbering.classLikes := by
  rw [Library.supertypeClosure, Library.supertypeClosure, renumbered.walkBound]
  exact Walk.breadthFirst_map renumbering.classLikes_inj renumbered.directSupertypes _ [] [id]

theorem superclassChain (id : ClassId) : after.superclassChain (renumbering.classLikes id)
    = (before.superclassChain id).map renumbering.classLikes := by
  rw [Library.superclassChain, Library.superclassChain, renumbered.walkBound]
  exact Walk.along_map renumbering.classLikes_inj renumbered.superclass? _ [] (some id)

theorem besidesSuperclass (id : ClassId) : after.besidesSuperclass (renumbering.classLikes id)
    = (before.besidesSuperclass id).map renumbering.classLikes := by
  rw [Library.besidesSuperclass, Library.besidesSuperclass, renumbered.directSupertypes,
    List.filter_map]
  congr 1
  refine List.filter_congr fun supertype _ => ?_
  rw [Function.comp_apply, renumbered.superclass?]
  cases before.superclass? id with
  | none => rfl
  | some superclass =>
    rw [Option.map_some, bne, bne, Option.some_beq_some, Option.some_beq_some,
      renumbering.beq_classLikes]

end Hierarchy

/-! ## Names -/

section Names

variable (renumbered : before.Renumbered renumbering after)
  (byIdentifier? : ∀ name,
    after.byIdentifier? name = (before.byIdentifier? name).map renumbering.classLikes)

include byIdentifier?

theorem isObject (id : ClassId) :
    after.isObject (renumbering.classLikes id) = before.isObject id := by
  rw [Library.isObject, Library.isObject, Library.objectId?, byIdentifier?, ← Library.objectId?]
  cases before.objectId? with
  | none => rfl
  | some object =>
    rw [Option.map_some, Option.some_beq_some, Option.some_beq_some, renumbering.beq_classLikes]

include renumbered

theorem lookupOrder (id : ClassId) : after.lookupOrder (renumbering.classLikes id)
    = (before.lookupOrder id).map renumbering.classLikes := by
  rw [Library.lookupOrder, Library.lookupOrder]
  have beside : (after.superclassChain (renumbering.classLikes id)).flatMap after.besidesSuperclass
      = ((before.superclassChain id).flatMap before.besidesSuperclass).map
        renumbering.classLikes := by
    rw [renumbered.superclassChain, List.flatMap_map, List.map_flatMap]
    exact List.flatMap_congr fun id _ => renumbered.besidesSuperclass id
  rw [beside, renumbered.superclassChain, renumbered.walkBound,
    Walk.breadthFirst_map renumbering.classLikes_inj renumbered.directSupertypes,
    Library.objectId?, byIdentifier?, ← Library.objectId?]
  cases before.objectId? with
  | none => rfl
  | some object =>
    dsimp only [Option.map_some]
    rw [Walk.contains_map renumbering.classLikes_inj]
    split
    · rfl
    · rw [List.map_append, List.map_singleton]

theorem isSubtype (source target : ClassId) :
    after.isSubtype (renumbering.classLikes source) (renumbering.classLikes target)
      = before.isSubtype source target := by
  rw [Library.isSubtype_eq, Library.isSubtype_eq, isObject byIdentifier?]
  split
  · have related := renumbered.classLike? source
    generalize before.classLike? source = found, after.classLike? (renumbering.classLikes source)
      = found' at related ⊢
    cases related <;> rfl
  · rw [renumbered.supertypeClosure, List.any_map]
    congr 1
    funext id
    rw [Function.comp_apply, renumbered.baseOf, renumbering.beq_classLikes,
      renumbering.beq_classLikes]

/-! ## Conversions -/

omit byIdentifier? in
theorem any_upperBounds {boundCasts boundCasts' : Ty → Ty → Bool}
    (same : ∀ source target, boundCasts' (renumbering.type source) (renumbering.type target)
      = boundCasts source target) (source : ParameterId) (target : Ty) :
    (match after.parameter? (renumbering.parameters source) with
      | some parameter => parameter.upperBounds.any (boundCasts' · (renumbering.type target))
      | none => false)
    = match before.parameter? source with
      | some parameter => parameter.upperBounds.any (boundCasts · target)
      | none => false := by
  rw [renumbered.parameter?]
  cases before.parameter? source with
  | none => rfl
  | some parameter =>
    dsimp only [Option.map_some, Renumbering.parameter]
    rw [List.any_map]
    congr 1
    exact funext fun bound => same bound target

theorem plainCasts {boundCasts boundCasts' : Ty → Ty → Bool}
    (same : ∀ source target, boundCasts' (renumbering.type source) (renumbering.type target)
      = boundCasts source target) (source target : Ty) :
    after.plainCasts boundCasts' (renumbering.type source) (renumbering.type target)
      = before.plainCasts boundCasts source target := by
  have boxed (name? : Option String) : name?.bind after.byIdentifier?
      = (name?.bind before.byIdentifier?).map renumbering.classLikes := by
    cases name? with
    | none => rfl
    | some name => exact byIdentifier? name
  unfold Library.plainCasts
  cases source with
  | primitive source =>
    cases target with
    | primitive | parameter | arrayOf => cases source <;> rfl
    | classLike target =>
      cases source with
      | null => rfl
      | _ =>
        dsimp only [Renumbering.type]
        rw [boxed]
        cases Option.bind _ before.byIdentifier? with
        | none => rfl
        | some boxed => exact renumbered.isSubtype byIdentifier? boxed target
  | classLike source =>
    cases target with
    | primitive target =>
      dsimp only [Renumbering.type]
      obtain ⟨entries, same⟩ := renumbered.classLike?_eq (before.baseOf source)
      rw [renumbered.baseOf, same]
      cases before.classLike? (before.baseOf source) <;> rfl
    | classLike target => exact renumbered.isSubtype byIdentifier? source target
    | parameter | arrayOf => rfl
  | arrayOf source m =>
    cases target with
    | classLike target => exact isObject byIdentifier? target
    | primitive | parameter | arrayOf => rfl
  | parameter source =>
    have bounds := renumbered.any_upperBounds same source
    cases target with
    | classLike target =>
      dsimp only [Renumbering.type]
      rw [isObject byIdentifier?]
      exact congrArg (_ || ·) (bounds (.classLike target))
    | primitive target => exact congrArg (false || ·) (bounds (.primitive target))
    | parameter target => exact congrArg (false || ·) (bounds (.parameter target))
    | arrayOf target n => exact congrArg (false || ·) (bounds (.arrayOf target n))

theorem casts {boundCasts boundCasts' : Ty → Ty → Bool}
    (same : ∀ source target, boundCasts' (renumbering.type source) (renumbering.type target)
      = boundCasts source target) (source target : Ty) :
    after.casts boundCasts' (renumbering.type source) (renumbering.type target)
      = before.casts boundCasts source target := by
  have plain {source target : Ty} (plain : source.isArray = false ∨ target.isArray = false) :
      after.casts boundCasts' (renumbering.type source) (renumbering.type target)
        = before.casts boundCasts source target := by
    rw [casts_eq_plainCasts _ _ plain, casts_eq_plainCasts, renumbering.beq_type,
      renumbered.plainCasts byIdentifier? same]
    rwa [renumbering.isArray_type, renumbering.isArray_type]
  induction source generalizing target with
  | primitive | classLike | parameter => exact plain (.inl rfl)
  | arrayOf source m ih =>
    cases target with
    | primitive | classLike | parameter => exact plain (.inr rfl)
    | arrayOf target n =>
      rw [casts_arrayOf, ← renumbering.beq_type, ← ih]
      simp only [Renumbering.type, casts_arrayOf, renumbering.isValuePrimitive_type,
        renumbering.beq_type]

theorem castsWithin (bounds : Nat) (source target : Ty) :
    after.castsWithin bounds (renumbering.type source) (renumbering.type target)
      = before.castsWithin bounds source target := by
  induction bounds generalizing source target with
  | zero => exact renumbered.casts byIdentifier? (fun _ _ => rfl) source target
  | succ bounds ih => exact renumbered.casts byIdentifier? ih source target

theorem canCast (source target : Ty) :
    after.canCast (renumbering.type source) (renumbering.type target)
      = before.canCast source target := by
  rw [Library.canCast, Library.canCast, renumbered.size_parameters,
    renumbered.castsWithin byIdentifier?]

/-! ## Implementations -/

theorem fits (source target : Ty) :
    after.fits (renumbering.type source) (renumbering.type target) = before.fits source target := by
  rw [Library.fits, Library.fits, renumbering.isValuePrimitive_type, renumbering.beq_type,
    renumbered.canCast byIdentifier?]

theorem resultFits (method overridden : Method) :
    after.resultFits (renumbering.method method) (renumbering.method overridden)
      = before.resultFits method overridden := by
  rw [Library.resultFits, Library.resultFits, renumbering.returnsNothing_method,
    renumbering.returnsNothing_method]
  dsimp only [Renumbering.method]
  cases method.returnType? with
  | none => rfl
  | some returned =>
    cases overridden.returnType? with
    | none => rfl
    | some expected =>
      dsimp only [Option.map_some]
      rw [renumbered.fits byIdentifier?]

theorem formalFits (formal overridden : Formal) :
    after.formalFits (renumbering.formal formal) (renumbering.formal overridden)
      = before.formalFits formal overridden := by
  rw [Library.formalFits, Library.formalFits, renumbering.type_formal, renumbering.type_formal,
    renumbering.isValuePrimitive_type, renumbering.beq_type, renumbered.canCast byIdentifier?]

theorem implements (method overridden : Method) :
    after.implements (renumbering.method method) (renumbering.method overridden)
      = before.implements method overridden := by
  rw [Library.implements, Library.implements, renumbered.resultFits byIdentifier?]
  dsimp only [Renumbering.method]
  rw [List.length_map, List.length_map, List.zip_map, List.all_map]
  congr 2
  funext formal
  exact renumbered.formalFits byIdentifier? formal.1 formal.2

/-! ## Marks -/

theorem implementedIn (method : Method) (supertype : ClassId) :
    after.implementedIn (renumbering.method method) (renumbering.classLikes supertype)
      = (before.implementedIn method supertype).map renumbering.ref := by
  rw [Library.implementedIn, Library.implementedIn, renumbered.methodsOf, List.zipIdx_map,
    List.flatMap_map, List.map_flatMap]
  refine List.flatMap_congr fun entry _ => ?_
  obtain ⟨candidate, index⟩ := entry
  dsimp only [Prod.map_apply, id_eq]
  rw [renumbering.isInstance_method, renumbered.implements byIdentifier?, renumbered.baseOf]
  split <;> rfl

theorem implementedBy (id : ClassId) : after.implementedBy (renumbering.classLikes id)
    = (before.implementedBy id).map renumbering.ref := by
  rw [Library.implementedBy, Library.implementedBy]
  have instances : (after.methodsOf (renumbering.classLikes id)).filter (·.isInstance)
      = ((before.methodsOf id).filter (·.isInstance)).map renumbering.method := by
    rw [renumbered.methodsOf, List.filter_map]
    congr 1
    exact List.filter_congr fun method _ => renumbering.isInstance_method method
  rw [instances, renumbered.lookupOrder byIdentifier?, ← List.map_drop, List.flatMap_map,
    List.map_flatMap]
  refine List.flatMap_congr fun method _ => ?_
  rw [List.flatMap_map, List.map_flatMap]
  exact List.flatMap_congr fun supertype _ =>
    renumbered.implementedIn byIdentifier? method supertype

theorem implementedRefs :
    (before.implementedRefs.map renumbering.ref).Perm after.implementedRefs := by
  rw [Library.implementedRefs, Library.implementedRefs, List.map_flatMap]
  have perm := renumbered.types.flatMap_right after.implementedBy
  rw [List.flatMap_map] at perm
  simpa only [renumbered.implementedBy byIdentifier?] using perm

/-- The last stage marks corresponding methods. -/
theorem marks_eq (id : ClassId) (index : Nat) :
    after.marks (renumbering.classLikes id) index = before.marks id index := by
  have listed (id : ClassId) : after.implementedRefs.contains (renumbering.classLikes id, index)
      = before.implementedRefs.contains (id, index) := by
    rw [Bool.eq_iff_iff, List.contains_iff_mem, List.contains_iff_mem,
      ← (renumbered.implementedRefs byIdentifier?).mem_iff]
    exact List.mem_map_of_injective (a := (id, index)) renumbering.ref_inj
  rw [marks, marks, listed, renumbered.specialization?]
  congr 1
  cases before.specialization? id with
  | none => rfl
  | some specialization =>
    dsimp only [Option.map_some, Renumbering.specialization]
    rw [listed, renumbered.methodsOf, List.getElem?_map, Option.map_map]
    rfl

omit byIdentifier? in
/-- Corresponding marks leave the libraries renumbered. -/
theorem marked {marks marks' : ClassId → Nat → Bool} {marked marked' : Library}
    (h : Marked marks before marked) (h' : Marked marks' after marked')
    (same : ∀ id index, marks' (renumbering.classLikes id) index = marks id index) :
    marked.Renumbered renumbering marked' where
  classLike? id := by
    rw [h.classLike?, h'.classLike?]
    have related := renumbered.classLike? id
    generalize before.classLike? id = found, after.classLike? (renumbering.classLikes id) = found'
      at related ⊢
    cases related with
    | none => exact .none
    | @some classLike classLike' related =>
      have methods (methods : List Method) :
          (methods.map renumbering.method).mapIdx (fun index => Method.mark (marks id index))
            = (methods.mapIdx fun index => Method.mark (marks id index)).map
              renumbering.method := by
        refine List.ext_getElem? fun index => ?_
        rw [List.getElem?_mapIdx, List.getElem?_map, List.getElem?_map, List.getElem?_mapIdx]
        cases methods[index]? <;> rfl
      refine .some ⟨related.cache, ?_⟩
      refine (congrArg (ClassLike.mark (marks' (renumbering.classLikes id))) related.rest).trans ?_
      simp only [ClassLike.mark, Renumbering.classLike, methods, same]
  parameter? id := by
    rw [Library.parameter?, Library.parameter?, h.parameters, h'.parameters]
    exact renumbered.parameter? id
  types := by
    rw [h.types, h'.types]
    exact renumbered.types
  typeCache := by
    rw [h.typeCache, h'.typeCache]
    exact renumbered.typeCache

end Names

end Library.Renumbered

end ClassModel
