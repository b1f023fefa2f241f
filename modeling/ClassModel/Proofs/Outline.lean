import ClassModel.Compile

/-!
# ClassModel.Proofs.Outline

What is looked up in a library. The outline of a class-like is its name, its
kind, its generic parameters, its cache and its record as an instantiation. Two
libraries of one outline (`Library.SameOutline`) may differ in visibilities,
members, layouts and declarations. Names, walks through the hierarchy, the
texts and keys of types and the conversions between types are the same in both
of them.
-/

namespace ClassModel

/-- The class-likes may differ in what is neither looked up by name nor walked
through. -/
structure ClassLike.SameOutline (classLike classLike' : ClassLike) : Prop where
  identifier : classLike'.identifier = classLike.identifier
  kind : classLike'.kind = classLike.kind
  genericParameters : classLike'.genericParameters = classLike.genericParameters
  localCache : classLike'.localCache = classLike.localCache
  specialization? : classLike'.specialization? = classLike.specialization?

namespace ClassLike.SameOutline

variable {first second third : ClassLike}

theorem refl (classLike : ClassLike) : classLike.SameOutline classLike := ⟨rfl, rfl, rfl, rfl, rfl⟩

theorem trans (h : first.SameOutline second) (h' : second.SameOutline third) :
    first.SameOutline third where
  identifier := h'.identifier.trans h.identifier
  kind := h'.kind.trans h.kind
  genericParameters := h'.genericParameters.trans h.genericParameters
  localCache := h'.localCache.trans h.localCache
  specialization? := h'.specialization?.trans h.specialization?

end ClassLike.SameOutline

namespace Library

/-- The libraries differ in what is neither looked up by name nor walked
through. -/
structure SameOutline (before after : Library) : Prop where
  known {id : ClassId} {classLike : ClassLike} : before.classLike? id = some classLike →
    ∃ classLike', after.classLike? id = some classLike' ∧ classLike.SameOutline classLike'
  size : after.classLikes.size = before.classLikes.size
  parameters : after.parameters = before.parameters
  types : after.types = before.types
  typeCache : after.typeCache = before.typeCache

namespace SameOutline

variable {first before after third : Library}

theorem refl (library : Library) : library.SameOutline library where
  known found := ⟨_, found, .refl _⟩
  size := rfl
  parameters := rfl
  types := rfl
  typeCache := rfl

theorem trans (h : first.SameOutline before) (h' : before.SameOutline third) :
    first.SameOutline third where
  known found := by
    obtain ⟨_, found, same⟩ := h.known found
    obtain ⟨_, found, same'⟩ := h'.known found
    exact ⟨_, found, same.trans same'⟩
  size := h'.size.trans h.size
  parameters := h'.parameters.trans h.parameters
  types := h'.types.trans h.types
  typeCache := h'.typeCache.trans h.typeCache

/-- What is unknown in one of the libraries is unknown in the other one. -/
theorem unknown (h : before.SameOutline after) {id : ClassId}
    (unknown : before.classLike? id = none) : after.classLike? id = none := by
  rw [classLike?, ← Option.not_isSome_iff_eq_none, Arena.isSome_get?] at unknown ⊢
  rwa [Arena.contains, h.size]

/-- Whatever is read off an outline is the same in both libraries. -/
theorem bind_classLike? {α : Type} (h : before.SameOutline after) {read : ClassLike → Option α}
    (reads : ∀ {classLike classLike'}, ClassLike.SameOutline classLike classLike' →
      read classLike' = read classLike) (id : ClassId) :
    (after.classLike? id).bind read = (before.classLike? id).bind read := by
  cases found : before.classLike? id with
  | none => rw [h.unknown found]
  | some classLike =>
    obtain ⟨classLike', found', same⟩ := h.known found
    rw [found', Option.bind_some, Option.bind_some, reads same]

theorem map_classLike? {α : Type} (h : before.SameOutline after) {read : ClassLike → α}
    (reads : ∀ {classLike classLike'}, ClassLike.SameOutline classLike classLike' →
      read classLike' = read classLike) (id : ClassId) :
    (after.classLike? id).map read = (before.classLike? id).map read := by
  rw [Option.map_eq_bind, Option.map_eq_bind]
  exact h.bind_classLike? (fun same => congrArg some (reads same)) id

theorem isSome_classLike? (h : before.SameOutline after) (id : ClassId) :
    (after.classLike? id).isSome = (before.classLike? id).isSome := by
  rw [classLike?, classLike?, Arena.isSome_get?, Arena.isSome_get?, Arena.contains,
    Arena.contains, h.size]

/-! ## Names and instantiations -/

theorem ids (h : before.SameOutline after) : after.classLikes.ids = before.classLikes.ids := by
  rw [Arena.ids, Arena.ids, h.size]

theorem parameter? (h : before.SameOutline after) : after.parameter? = before.parameter? := by
  funext id
  rw [Library.parameter?, Library.parameter?, h.parameters]

theorem specialization? (h : before.SameOutline after) (id : ClassId) :
    after.specialization? id = before.specialization? id :=
  h.bind_classLike? (fun same => same.specialization?) id

theorem baseOf (h : before.SameOutline after) : after.baseOf = before.baseOf := by
  funext id
  rw [Library.baseOf, Library.baseOf, h.specialization?]

theorem byIdentifier? (h : before.SameOutline after) :
    after.byIdentifier? = before.byIdentifier? := by
  funext name
  simp only [Library.byIdentifier?, h.types, h.map_classLike? fun same => same.identifier]

theorem objectId? (h : before.SameOutline after) : after.objectId? = before.objectId? := by
  rw [Library.objectId?, Library.objectId?, h.byIdentifier?]

theorem isObject (h : before.SameOutline after) : after.isObject = before.isObject := by
  funext id
  rw [Library.isObject, Library.isObject, h.objectId?]

theorem objectType (h : before.SameOutline after) : after.objectType = before.objectType := by
  rw [Library.objectType, Library.objectType, h.objectId?]

theorem parameterNamed? (h : before.SameOutline after) :
    after.parameterNamed? = before.parameterNamed? := by
  funext context name
  unfold Library.parameterNamed?
  rw [h.parameter?]
  exact h.bind_classLike? (fun same => by rw [same.genericParameters]) context

theorem takesArguments (h : before.SameOutline after) :
    after.takesArguments = before.takesArguments := by
  funext context name
  unfold Library.takesArguments
  rw [h.parameterNamed?, h.byIdentifier?]
  congr 1
  cases before.byIdentifier? name with
  | none => rfl
  | some id =>
    dsimp only [Option.bind_some]
    cases found : before.classLike? id with
    | none => rw [h.unknown found]
    | some classLike =>
      obtain ⟨classLike', found', same⟩ := h.known found
      rw [found']
      dsimp only
      rw [same.kind]

theorem instantiation? (h : before.SameOutline after) :
    after.instantiation? = before.instantiation? := by
  funext context? key
  unfold Library.instantiation?
  rw [cached?, cached?, h.typeCache]
  cases context? with
  | none => rfl
  | some context =>
    dsimp only [Option.bind_some]
    rw [h.bind_classLike? fun same => by rw [same.localCache]]

/-! ## Types -/

theorem signatureOf (h : before.SameOutline after) :
    after.signatureOf = before.signatureOf := by
  funext type
  induction type with
  | primitive primitive => rfl
  | parameter id => rw [Library.signatureOf, Library.signatureOf, h.parameter?]
  | arrayOf item n ih => rw [Library.signatureOf, Library.signatureOf, ih]
  | classLike id =>
    rw [Library.signatureOf, Library.signatureOf]
    cases found : before.classLike? id with
    | none => rw [h.unknown found]
    | some classLike =>
      obtain ⟨classLike', found', same⟩ := h.known found
      rw [found']
      dsimp only
      rw [ClassLike.signature, ClassLike.signature, same.specialization?, same.identifier]

theorem methodSignature (h : before.SameOutline after) :
    after.methodSignature = before.methodSignature := by
  funext identifier formals
  rw [Library.methodSignature, Library.methodSignature, h.signatureOf]

theorem depthOf (h : before.SameOutline after) : after.depthOf = before.depthOf := by
  funext type
  induction type with
  | primitive primitive => rfl
  | parameter id => rfl
  | classLike id => rw [Library.depthOf, Library.depthOf, h.specialization?]
  | arrayOf item n ih => exact ih

theorem depthOfApplication (h : before.SameOutline after) :
    after.depthOfApplication = before.depthOfApplication := by
  funext arguments
  rw [Library.depthOfApplication, Library.depthOfApplication, h.depthOf]

theorem keyOf (h : before.SameOutline after) : after.keyOf = before.keyOf := by
  have keyFrom : after.keyFrom = before.keyFrom := by
    funext argumentKey type
    induction type with
    | primitive primitive => rfl
    | arrayOf item n ih => rw [Library.keyFrom, Library.keyFrom, ih]
    | classLike id =>
      rw [Library.keyFrom, Library.keyFrom]
      cases found : before.classLike? id with
      | none => rw [h.unknown found]
      | some classLike =>
        obtain ⟨classLike', found', same⟩ := h.known found
        rw [found']
        dsimp only
        rw [same.specialization?, same.identifier]
    | parameter id =>
      rw [Library.keyFrom, Library.keyFrom, h.parameter?]
      cases before.parameter? id with
      | none => rfl
      | some parameter =>
        dsimp only
        cases found : before.classLike? parameter.owner with
        | none => rw [h.unknown found]
        | some classLike =>
          obtain ⟨classLike', found', same⟩ := h.known found
          rw [found']
          dsimp only
          rw [same.identifier]
  have within (bound : Nat) : after.keyWithin bound = before.keyWithin bound := by
    induction bound with
    | zero =>
      funext type
      rw [keyWithin, keyWithin, keyFrom]
    | succ bound ih =>
      funext type
      rw [keyWithin, keyWithin, keyFrom, ih]
  funext type
  rw [Library.keyOf, Library.keyOf, within, h.depthOf]

theorem firstParameter? (h : before.SameOutline after) :
    after.firstParameter? = before.firstParameter? := by
  have parameterFrom? : after.parameterFrom? = before.parameterFrom? := by
    funext inArgument type
    induction type with
    | primitive primitive => rfl
    | parameter id => rfl
    | classLike id => rw [Library.parameterFrom?, Library.parameterFrom?, h.specialization?]
    | arrayOf item n ih => exact ih
  have within (bound : Nat) : after.parameterWithin? bound = before.parameterWithin? bound := by
    induction bound with
    | zero =>
      funext type
      rw [parameterWithin?, parameterWithin?, parameterFrom?]
    | succ bound ih =>
      funext type
      rw [parameterWithin?, parameterWithin?, parameterFrom?, ih]
  funext type
  rw [Library.firstParameter?, Library.firstParameter?, within, h.depthOf]

theorem isOpen (h : before.SameOutline after) : after.isOpen = before.isOpen := by
  funext type
  rw [Library.isOpen, Library.isOpen, h.firstParameter?]

theorem anyOpen (h : before.SameOutline after) : after.anyOpen = before.anyOpen := by
  funext types
  rw [Library.anyOpen, Library.anyOpen, h.isOpen]

theorem ownerOfFirst? (h : before.SameOutline after) :
    after.ownerOfFirst? = before.ownerOfFirst? := by
  funext types
  rw [Library.ownerOfFirst?, Library.ownerOfFirst?, h.firstParameter?, h.parameter?]

/-! ## The hierarchy -/

theorem hierarchyKind? (h : before.SameOutline after) (id : ClassId) :
    after.hierarchyKind? id = before.hierarchyKind? id := by
  simp only [Library.hierarchyKind?]
  cases found : before.classLike? id with
  | none =>
    rw [h.unknown found]
    rfl
  | some classLike =>
    obtain ⟨classLike', found', same⟩ := h.known found
    rw [found']
    dsimp only [Option.bind_eq_bind, Option.bind_some]
    rw [same.specialization?, same.kind]
    cases classLike.specialization? with
    | none => rfl
    | some specialization =>
      dsimp only
      split
      · rfl
      · exact h.bind_classLike? (fun same => by rw [same.kind]) specialization.base

theorem superclass? (h : before.SameOutline after) : after.superclass? = before.superclass? := by
  funext id
  rw [Library.superclass?, Library.superclass?, h.hierarchyKind?]

theorem directSupertypes (h : before.SameOutline after) :
    after.directSupertypes = before.directSupertypes := by
  funext id
  rw [Library.directSupertypes, Library.directSupertypes, h.hierarchyKind?]

theorem walkBound (h : before.SameOutline after) : after.walkBound = before.walkBound := by
  rw [Library.walkBound, Library.walkBound, h.ids, h.directSupertypes]

theorem superclassChain (h : before.SameOutline after) (id : ClassId) :
    after.superclassChain id = before.superclassChain id := by
  rw [Library.superclassChain, Library.superclassChain, h.walkBound, h.superclass?]

theorem declaredSuperclass? (h : before.SameOutline after) :
    after.declaredSuperclass? = before.declaredSuperclass? := by
  funext id
  rw [Library.declaredSuperclass?, Library.declaredSuperclass?, h.superclass?, h.baseOf]

theorem declaredChain (h : before.SameOutline after) :
    after.declaredChain = before.declaredChain := by
  funext id
  rw [Library.declaredChain, Library.declaredChain, h.declaredSuperclass?, h.walkBound]

theorem isAboveItself (h : before.SameOutline after) :
    after.isAboveItself = before.isAboveItself := by
  funext id
  rw [Library.isAboveItself, Library.isAboveItself, h.declaredChain, h.declaredSuperclass?]

theorem layoutOrder (h : before.SameOutline after) : after.layoutOrder = before.layoutOrder := by
  rw [Library.layoutOrder, Library.layoutOrder, h.types, h.declaredChain]

theorem lookupOrder (h : before.SameOutline after) (id : ClassId) :
    after.lookupOrder id = before.lookupOrder id := by
  have besides : after.besidesSuperclass = before.besidesSuperclass := by
    funext id
    rw [besidesSuperclass, besidesSuperclass, h.directSupertypes, h.superclass?]
  simp only [Library.lookupOrder, h.superclassChain, h.directSupertypes, h.walkBound, besides,
    h.objectId?]

theorem isSubtype (h : before.SameOutline after) : after.isSubtype = before.isSubtype := by
  funext source target
  rw [Library.isSubtype, Library.isSubtype, isSubtypeWithin?, isSubtypeWithin?, h.isObject,
    h.isSome_classLike?, h.directSupertypes, h.walkBound, h.baseOf]

/-! ## Conversions -/

theorem canCast (h : before.SameOutline after) : after.canCast = before.canCast := by
  have unboxed (id : ClassId) :
      ((after.classLike? id).bind fun base => Primitive.ofBoxedIdentifier? base.identifier)
        = (before.classLike? id).bind fun base => Primitive.ofBoxedIdentifier? base.identifier :=
    h.bind_classLike? (fun same => by rw [same.identifier]) id
  have plainCasts : after.plainCasts = before.plainCasts := by
    funext boundCasts source target
    unfold Library.plainCasts
    simp only [h.isSubtype, h.isObject, h.byIdentifier?, h.baseOf, h.parameter?, unboxed]
  have casts : after.casts = before.casts := by
    funext boundCasts source target
    have plain {source target : Ty} (plain : source.isArray = false ∨ target.isArray = false) :
        after.casts boundCasts source target = before.casts boundCasts source target := by
      rw [casts_eq_plainCasts _ _ plain, casts_eq_plainCasts _ _ plain, plainCasts]
    induction source generalizing target with
    | primitive | classLike | parameter => exact plain (.inl rfl)
    | arrayOf source m ih =>
      cases target with
      | arrayOf target n => rw [casts_arrayOf, casts_arrayOf, ih]
      | primitive | classLike | parameter => exact plain (.inr rfl)
  have within (bounds : Nat) : after.castsWithin bounds = before.castsWithin bounds := by
    induction bounds with
    | zero =>
      funext source target
      rw [castsWithin, castsWithin, casts]
    | succ bounds ih =>
      funext source target
      rw [castsWithin, castsWithin, casts, ih]
  funext source target
  rw [Library.canCast, Library.canCast, h.parameters, within]

theorem fits (h : before.SameOutline after) : after.fits = before.fits := by
  funext source target
  rw [Library.fits, Library.fits, h.canCast]

theorem implements (h : before.SameOutline after) : after.implements = before.implements := by
  have formalFits : after.formalFits = before.formalFits := by
    funext formal overridden
    rw [Library.formalFits, Library.formalFits, h.canCast]
  have resultFits : after.resultFits = before.resultFits := by
    funext method overridden
    unfold Library.resultFits
    rw [h.fits]
  funext method overridden
  rw [Library.implements, Library.implements, resultFits, formalFits]

end SameOutline

end Library

end ClassModel
