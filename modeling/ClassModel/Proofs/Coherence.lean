import ClassModel.Proofs.Growth

/-!
# ClassModel.Proofs.Coherence

The invariant of a library under construction. `Library.Coherent` says that
every instantiation spells a well-formed type, that a type is spelled by one
instantiation only, and that it is kept where its key is looked for: a closed
one in the cache of the library, an open one in the cache of the owner of its
first generic parameter.

In a coherent library the texts of a type, its nesting and its generic
parameters are those of the tree that it denotes.
-/

namespace ClassModel

/-! ## Trees and texts -/

namespace TypeTree

variable {scope : Scope} {options : Options} {context : String}

/-- Without generic parameters the key is the text as it is written. -/
theorem key_eq_signature {tree : TypeTree} (closed : tree.owners = []) :
    tree.key = tree.signature := by
  induction tree with
  | primitive type dimension => rw [key, signature]
  | declared name dimension => rw [key, signature]
  | applied name arguments dimension ih =>
    rw [owners, List.flatMap_eq_nil_iff] at closed
    rw [key, signature, List.map_congr_left fun argument mem => ih argument mem (closed _ mem)]
  | parameter owner name dimension => simp [owners] at closed

end TypeTree

namespace Library

/-! ## The invariant -/

/-- The class-like is an instantiation of the base with the arguments. -/
structure Instantiates (library : Library) (scope : Scope) (options : Options)
    (classLike : ClassLike) (specialization : Specialization) (base : ClassLike)
    (arguments : List TypeTree) : Prop where
  declared : library.IsDeclared specialization.base base
  identifier : classLike.identifier = base.identifier
  visibility : classLike.visibility = base.visibility
  isFinal : classLike.isFinal = base.isFinal
  prototype? : classLike.prototype? = base.prototype?
  keyword : classLike.kind.keyword = base.kind.keyword
  genericParameters : classLike.genericParameters = []
  denotes : library.DenotesAll specialization.arguments arguments
  wellFormed : ∃ context shape, scope context = some shape
    ∧ (TypeTree.applied base.identifier arguments 0).WellFormed scope options context
  signature : specialization.signature = (TypeTree.applied base.identifier arguments 0).signature
  depth : specialization.depth = (TypeTree.applied base.identifier arguments 0).depth

/-- The class-like is declared under the name. -/
def IsNamed (library : Library) (id : ClassId) (name : String) : Prop :=
  ∃ classLike, library.IsDeclared id classLike ∧ classLike.identifier = name

/-- Where the instantiation is kept: a closed one in the library, an open one
in the owner of its first generic parameter. -/
def Hosts (library : Library) (place? : Option ClassId) (tree : TypeTree) : Prop :=
  Option.Rel library.IsNamed place? tree.owners.head?

/-- The cache of the library, or the one of a class-like. -/
def cacheOf (library : Library) (place? : Option ClassId) : List (String × ClassId) :=
  match place? with
  | none => library.typeCache
  | some id => ((library.classLike? id).map (·.localCache)).getD []

/-- The instantiations of the library are canonical, and are found in the
caches. -/
structure Coherent (library : Library) (scope : Scope) (options : Options) : Prop
    extends Library.Declares library scope where
  instantiates {id : ClassId} {classLike : ClassLike} {specialization : Specialization} :
    library.classLike? id = some classLike → classLike.specialization? = some specialization →
      ∃ base arguments,
        library.Instantiates scope options classLike specialization base arguments
  /-- Instantiations are created after their bases and their arguments. -/
  older {id inner : ClassId} {classLike : ClassLike} {specialization : Specialization} {n : Nat} :
    library.classLike? id = some classLike → classLike.specialization? = some specialization →
      (Ty.classLike inner).array n ∈ .classLike specialization.base :: specialization.arguments →
        inner.index < id.index
  canonical {id id' : ClassId} {tree : TypeTree} :
    library.IsInstance id tree → library.IsInstance id' tree → id = id'
  mem_cacheOf {place? : Option ClassId} {key : String} {id : ClassId} :
    (key, id) ∈ library.cacheOf place?
      ↔ ∃ tree, library.IsInstance id tree ∧ library.Hosts place? tree ∧ key = tree.key
  cacheOf_nodup {place? : Option ClassId} : (library.cacheOf place?).Nodup

/-- The generic parameter belongs to the class-like of the name. -/
def OwnedBy (library : Library) (parameter : ParameterId) (owner : String) : Prop :=
  ∃ found classLike, library.parameter? parameter = some found
    ∧ library.IsDeclared found.owner classLike ∧ classLike.identifier = owner

variable {library : Library} {scope : Scope} {options : Options}

theorem IsNamed.name_inj {id : ClassId} {name name' : String} (isNamed : library.IsNamed id name)
    (isNamed' : library.IsNamed id name') : name = name' := by
  obtain ⟨classLike, declared, rfl⟩ := isNamed
  obtain ⟨classLike', declared', rfl⟩ := isNamed'
  cases declared.1.symm.trans declared'.1
  rfl

theorem baseOf_of_isDeclared {id : ClassId} {classLike : ClassLike}
    (declared : library.IsDeclared id classLike) : library.baseOf id = id := by
  rw [baseOf, specialization?, declared.1, Option.bind_some, declared.2]

/-- A class-like is declared under a name, or is an instantiation. -/
theorem Denotes.classLike_cases {id : ClassId} {tree : TypeTree}
    (denotes : library.Denotes (.classLike id) tree) :
    (∃ name, tree = .declared name 0 ∧ library.IsNamed id name)
      ∨ ∃ name arguments, tree = .applied name arguments 0 ∧ library.IsInstance id tree := by
  cases tree with
  | primitive primitive n => simp [Denotes] at denotes
  | declared name n =>
    obtain ⟨_, classLike, same, declared⟩ := denotes
    obtain ⟨⟨⟩, rfl⟩ := (Ty.eq_array_iff rfl rfl).1 same
    exact .inl ⟨name, rfl, classLike, declared⟩
  | applied name arguments n =>
    obtain rfl : n = 0 := by
      obtain ⟨_, _, _, same, _⟩ := denotes
      exact ((Ty.eq_array_iff rfl rfl).1 same).2.symm
    exact .inr ⟨name, arguments, rfl, denotes, name, arguments, rfl⟩
  | parameter owner name n =>
    obtain ⟨_, _, _, same, _⟩ := denotes
    cases ((Ty.eq_array_iff rfl rfl).1 same).1

theorem IsNamed.denotes {id : ClassId} {name : String} (isNamed : library.IsNamed id name) :
    library.Denotes (.classLike id) (.declared name 0) := by
  obtain ⟨classLike, declared⟩ := isNamed
  exact ⟨id, classLike, rfl, declared⟩

theorem Denotes.isNamed {id : ClassId} {name : String}
    (denotes : library.Denotes (.classLike id) (.declared name 0)) : library.IsNamed id name := by
  rcases denotes.classLike_cases with ⟨_, same, isNamed⟩ | ⟨_, _, same, _⟩
  · cases same
    exact isNamed
  · cases same

theorem Instantiates.isInstance {id : ClassId} {classLike base : ClassLike}
    {specialization : Specialization} {arguments : List TypeTree}
    (instantiates : library.Instantiates scope options classLike specialization base arguments)
    (known : library.classLike? id = some classLike)
    (specialized : classLike.specialization? = some specialization) :
    library.IsInstance id (.applied base.identifier arguments 0) :=
  ⟨⟨id, classLike, specialization, rfl, known, instantiates.identifier, specialized,
    instantiates.denotes⟩, _, _, rfl⟩

namespace Coherent

/-! ## The texts of types -/

/-- An instantiation that denotes a tree has its texts and its arguments. -/
theorem of_denotes_applied (coherent : library.Coherent scope options) {type : Ty} {name : String}
    {arguments : List TypeTree} {n : Nat}
    (denotes : library.Denotes type (.applied name arguments n)) :
    ∃ id classLike specialization base, type = (Ty.classLike id).array n
      ∧ library.classLike? id = some classLike ∧ base.identifier = name
      ∧ classLike.specialization? = some specialization
      ∧ library.Instantiates scope options classLike specialization base arguments := by
  obtain ⟨id, classLike, specialization, rfl, known, rfl, specialized, all⟩ := denotes
  obtain ⟨base, arguments', instantiates⟩ := coherent.instantiates known specialized
  have same : arguments = arguments' := by
    have all' := instantiates.denotes
    rw [denotesAll_iff] at all all'
    exact Related.unique all all' fun _ _ _ _ first first' =>
      first.unique coherent.toDeclares first'
  subst same
  exact ⟨id, classLike, specialization, base, rfl, known, instantiates.identifier.symm,
    specialized, instantiates⟩

/-- A type is spelled by one tree only, and a tree by one type only. -/
theorem denotes_inj (coherent : library.Coherent scope options) {type type' : Ty} {tree : TypeTree}
    (denotes : library.Denotes type tree) (denotes' : library.Denotes type' tree) :
    type = type' := by
  cases tree with
  | primitive primitive n => exact denotes.trans denotes'.symm
  | declared name n =>
    obtain ⟨id, classLike, rfl, declared, rfl⟩ := denotes
    obtain ⟨id', classLike', rfl, declared', same⟩ := denotes'
    rw [coherent.identifier_inj declared declared' same.symm]
  | applied name arguments n =>
    obtain ⟨id, classLike, specialization, rfl, found⟩ := denotes
    obtain ⟨id', classLike', specialization', rfl, found'⟩ := denotes'
    have isInstance : library.IsInstance id (.applied name arguments 0) :=
      ⟨⟨id, classLike, specialization, rfl, found⟩, _, _, rfl⟩
    have isInstance' : library.IsInstance id' (.applied name arguments 0) :=
      ⟨⟨id', classLike', specialization', rfl, found'⟩, _, _, rfl⟩
    rw [coherent.canonical isInstance isInstance']
  | parameter owner name n =>
    obtain ⟨parameter, id, classLike, rfl, declared, rfl, named⟩ := denotes
    obtain ⟨parameter', id', classLike', rfl, declared', same, named'⟩ := denotes'
    cases coherent.identifier_inj declared declared' same.symm
    cases named.symm.trans named'
    rfl

theorem signatureOf_eq (coherent : library.Coherent scope options) {type : Ty} {tree : TypeTree}
    (denotes : library.Denotes type tree) : library.signatureOf type = tree.signature := by
  cases tree with
  | primitive primitive n =>
    rw [Denotes] at denotes
    subst denotes
    rw [TypeTree.signature, signatureOf_array, signatureOf]
  | declared name n =>
    obtain ⟨id, classLike, rfl, declared, rfl⟩ := denotes
    rw [TypeTree.signature]
    simp only [signatureOf_array, signatureOf, declared.1, ClassLike.signature, declared.2]
  | applied name arguments n =>
    obtain ⟨id, classLike, specialization, base, rfl, known, rfl, specialized, instantiates⟩ :=
      coherent.of_denotes_applied denotes
    have signature := instantiates.signature
    rw [TypeTree.signature] at signature ⊢
    simp only [signatureOf_array, signatureOf, known, ClassLike.signature, specialized, signature,
      bracketed_zero]
  | parameter owner name n =>
    obtain ⟨parameter, id, classLike, rfl, declared, rfl, named⟩ := denotes
    obtain ⟨mem, found, known, rfl⟩ := parameterNamed?_eq_some declared.1 named
    rw [TypeTree.signature]
    simp only [signatureOf_array, signatureOf, known]

theorem depthOf_eq (coherent : library.Coherent scope options) {type : Ty} {tree : TypeTree}
    (denotes : library.Denotes type tree) : library.depthOf type = tree.depth := by
  cases tree with
  | primitive primitive n =>
    rw [Denotes] at denotes
    subst denotes
    rw [TypeTree.depth, depthOf_array, depthOf]
  | declared name n =>
    obtain ⟨id, classLike, rfl, declared, rfl⟩ := denotes
    rw [TypeTree.depth]
    simp [depthOf, Library.specialization?, declared.1, declared.2]
  | applied name arguments n =>
    obtain ⟨id, classLike, specialization, base, rfl, known, rfl, specialized, instantiates⟩ :=
      coherent.of_denotes_applied denotes
    have depth := instantiates.depth
    rw [TypeTree.depth] at depth ⊢
    simp [depthOf, Library.specialization?, known, specialized, depth]
  | parameter owner name n =>
    obtain ⟨parameter, id, classLike, rfl, found⟩ := denotes
    rw [TypeTree.depth, depthOf_array, depthOf]

/-- The key is found within any bound on the nesting. -/
theorem keyWithin_eq (coherent : library.Coherent scope options) {type : Ty} {tree : TypeTree}
    {bound : Nat} (denotes : library.Denotes type tree) (within : tree.depth ≤ bound) :
    library.keyWithin bound type = tree.key := by
  induction tree generalizing type bound with
  | primitive primitive n =>
    rw [Denotes] at denotes
    subst denotes
    rw [TypeTree.key, keyWithin_array]
    cases bound <;> rfl
  | declared name n =>
    obtain ⟨id, classLike, rfl, declared, rfl⟩ := denotes
    rw [TypeTree.key]
    cases bound <;> simp only [keyWithin, keyFrom_array, keyFrom, declared.1, declared.2]
  | applied name arguments n ih =>
    obtain ⟨id, classLike, specialization, rfl, known, rfl, specialized, all⟩ := denotes
    cases bound with
    | zero =>
      rw [TypeTree.depth] at within
      omega
    | succ bound =>
      have keys : specialization.arguments.map (library.keyWithin bound)
          = arguments.map TypeTree.key := by
        rw [denotesAll_iff] at all
        exact Related.map_eq all fun argument mem type denotes =>
          ih argument mem denotes (TypeTree.depth_argument_le mem within)
      rw [TypeTree.key]
      simp only [keyWithin, keyFrom_array, keyFrom, known, specialized, keys]
  | parameter owner name n =>
    obtain ⟨parameter, id, classLike, rfl, declared, rfl, named⟩ := denotes
    obtain ⟨mem, found, known, rfl⟩ := parameterNamed?_eq_some declared.1 named
    obtain ⟨found', known', owned⟩ := coherent.owned declared mem
    cases known.symm.trans known'
    rw [TypeTree.key]
    cases bound <;> simp only [keyWithin, keyFrom_array, keyFrom, known, owned, declared.1]

theorem keyOf_eq (coherent : library.Coherent scope options) {type : Ty} {tree : TypeTree}
    (denotes : library.Denotes type tree) : library.keyOf type = tree.key :=
  coherent.keyWithin_eq denotes (Nat.le_of_eq (coherent.depthOf_eq denotes).symm)

/-! ## Generic parameters in types -/

/-- The first generic parameter is found within any bound on the nesting. -/
theorem parameterWithin?_rel (coherent : library.Coherent scope options) {type : Ty}
    {tree : TypeTree} {bound : Nat} (denotes : library.Denotes type tree)
    (within : tree.depth ≤ bound) :
    Option.Rel library.OwnedBy (library.parameterWithin? bound type) tree.owners.head? := by
  induction tree generalizing type bound with
  | primitive primitive n =>
    rw [Denotes] at denotes
    subst denotes
    rw [TypeTree.owners, parameterWithin?_array]
    cases bound <;> exact .none
  | declared name n =>
    obtain ⟨id, classLike, rfl, declared, rfl⟩ := denotes
    rw [TypeTree.owners]
    cases bound <;>
      simp [parameterWithin?, parameterFrom?, Library.specialization?, declared.1, declared.2]
  | applied name arguments n ih =>
    obtain ⟨id, classLike, specialization, rfl, known, rfl, specialized, all⟩ := denotes
    cases bound with
    | zero =>
      rw [TypeTree.depth] at within
      omega
    | succ bound =>
      rw [denotesAll_iff] at all
      rw [TypeTree.owners]
      simp only [parameterWithin?, parameterFrom?_array, parameterFrom?, Library.specialization?,
        known, specialized, Option.bind_some]
      exact Related.findSome? all fun argument mem type denotes =>
        ih argument mem denotes (TypeTree.depth_argument_le mem within)
  | parameter owner name n =>
    obtain ⟨parameter, id, classLike, rfl, declared, rfl, named⟩ := denotes
    obtain ⟨mem, found, known, rfl⟩ := parameterNamed?_eq_some declared.1 named
    obtain ⟨found', known', rfl⟩ := coherent.owned declared mem
    cases known.symm.trans known'
    rw [TypeTree.owners, parameterWithin?_array]
    cases bound <;> exact .some ⟨found, classLike, known, declared, rfl⟩

theorem firstParameter?_rel (coherent : library.Coherent scope options) {type : Ty}
    {tree : TypeTree} (denotes : library.Denotes type tree) :
    Option.Rel library.OwnedBy (library.firstParameter? type) tree.owners.head? :=
  coherent.parameterWithin?_rel denotes (Nat.le_of_eq (coherent.depthOf_eq denotes).symm)

/-- A type is open exactly if its tree mentions a generic parameter. -/
theorem isOpen_eq (coherent : library.Coherent scope options) {type : Ty} {tree : TypeTree}
    (denotes : library.Denotes type tree) : library.isOpen type = !tree.owners.isEmpty := by
  have related := coherent.firstParameter?_rel denotes
  unfold isOpen
  cases first : library.firstParameter? type with
  | none =>
    cases listed : tree.owners with
    | nil => rfl
    | cons owner owners => simp [first, listed] at related
  | some parameter =>
    cases listed : tree.owners with
    | nil => simp [first, listed] at related
    | cons owner owners => rfl

end Coherent

end Library

end ClassModel
