import ClassModel.Proofs.Instantiation

/-!
# ClassModel.Proofs.Named

Class-likes by names. A `NamedClass` is a class-like whose types are trees: it
holds no identifiers, so it can be compared across libraries. A class-like of a
library `Spells` a named one if they agree in everything but the
representation of types, and the types mean the trees.

What bears a type is split into the type and the rest, its `bare` form.
-/

namespace ClassModel

/-! ## Kinds -/

namespace Kind

variable (kind : Kind) (superclass? : Option ClassId) (interfaces : List ClassId)
  (constants : List String)

@[simp] theorem keyword_withSuperclass :
    (kind.withSuperclass superclass?).keyword = kind.keyword := by
  cases kind <;> rfl

@[simp] theorem keyword_withInterfaces :
    (kind.withInterfaces interfaces).keyword = kind.keyword := by
  cases kind <;> rfl

@[simp] theorem keyword_withConstants : (kind.withConstants constants).keyword = kind.keyword := by
  cases kind <;> rfl

@[simp] theorem keyword_withoutSupertypes : kind.withoutSupertypes.keyword = kind.keyword := by
  cases kind <;> rfl

@[simp] theorem superclass?_withInterfaces :
    (kind.withInterfaces interfaces).superclass? = kind.superclass? := by
  cases kind <;> rfl

@[simp] theorem superclass?_withConstants :
    (kind.withConstants constants).superclass? = kind.superclass? := by
  cases kind <;> rfl

@[simp] theorem interfaces_withSuperclass :
    (kind.withSuperclass superclass?).interfaces = kind.interfaces := by
  cases kind <;> rfl

@[simp] theorem interfaces_withInterfaces :
    (kind.withInterfaces interfaces).interfaces = interfaces := by
  cases kind <;> rfl

@[simp] theorem interfaces_withConstants :
    (kind.withConstants constants).interfaces = kind.interfaces := by
  cases kind <;> rfl

@[simp] theorem withoutSupertypes_withSuperclass :
    (kind.withSuperclass superclass?).withoutSupertypes = kind.withoutSupertypes := by
  cases kind <;> rfl

@[simp] theorem withoutSupertypes_withInterfaces :
    (kind.withInterfaces interfaces).withoutSupertypes = kind.withoutSupertypes := by
  cases kind <;> rfl

@[simp] theorem withoutSupertypes_withConstants : (kind.withConstants constants).withoutSupertypes
    = kind.withoutSupertypes.withConstants constants := by
  cases kind <;> rfl

@[simp] theorem isClass_withoutSupertypes : kind.withoutSupertypes.isClass = kind.isClass := by
  cases kind <;> rfl

@[simp] theorem isInterface_withoutSupertypes :
    kind.withoutSupertypes.isInterface = kind.isInterface := by
  cases kind <;> rfl

@[simp] theorem isEnum_withoutSupertypes : kind.withoutSupertypes.isEnum = kind.isEnum := by
  cases kind <;> rfl

end Kind

theorem Kind.keyword_eq_class_iff {kind : Kind} :
    kind.keyword = .class ↔ kind.isClass = true := by
  cases kind <;> simp [keyword, isClass]

/-- Only classes have a superclass. -/
theorem Kind.isClass_of_isSome_superclass? {kind : Kind} (above : kind.superclass?.isSome) :
    kind.isClass = true := by
  cases kind with
  | «class» => rfl
  | interface | enum => cases above

theorem Kind.superclass?_withSuperclass {kind : Kind} (isClass : kind.isClass = true)
    (superclass? : Option ClassId) :
    (kind.withSuperclass superclass?).superclass? = superclass? := by
  cases kind with
  | «class» => rfl
  | interface | enum => cases isClass

/-! ## Bare forms -/

/-- A formal parameter without its type. -/
def Formal.bare (formal : Formal) : Formal := { formal with type := .void }

/-- An attribute without its type. -/
def Attribute.bare (found : Attribute) : Attribute := { found with type := .void }

/-- A method without its types. -/
def Method.bare (method : Method) : Method := { method with returnType? := none, formals := [] }

/-- A class-like without types, caches and members. -/
def ClassLike.bare (classLike : ClassLike) : ClassLike :=
  { classLike with
    kind := classLike.kind.withoutSupertypes
    genericParameters := []
    methods := []
    attributes := []
    localCache := []
    specialization? := none }

theorem ClassLike.bare_content (classLike : ClassLike) :
    classLike.content.bare = classLike.bare := rfl

/-! ## Named forms -/

/-- A generic parameter with its bounds. -/
structure NamedParameter where
  identifier : String
  upperBounds : List TypeTree := []
  lowerBound? : Option TypeTree := none

/-- A formal parameter with its type. -/
structure NamedFormal where
  bare : Formal
  type : TypeTree

/-- A method with its types. -/
structure NamedMethod where
  bare : Method
  returnType? : Option TypeTree
  formals : List NamedFormal

/-- An attribute with its type. -/
structure NamedAttribute where
  bare : Attribute
  type : TypeTree

/-- A class-like with all its types. -/
structure NamedClass where
  bare : ClassLike
  superclass? : Option TypeTree := none
  interfaces : List TypeTree := []
  parameters : List NamedParameter := []
  methods : List NamedMethod := []
  attributes : List NamedAttribute := []

/-- The superclass and the interfaces. -/
def NamedClass.supertypes (named : NamedClass) : List TypeTree :=
  named.superclass?.toList ++ named.interfaces

namespace Library

/-! ## Meaning -/

/-- The type denotes the tree, which is well formed in the signatures of the
class-like of the given name. -/
structure Means (library : Library) (scope : Scope) (options : Options) (context : String)
    (type : Ty) (tree : TypeTree) : Prop where
  denotes : library.Denotes type tree
  wellFormed : tree.WellFormed scope options context

section Spells

variable (library : Library) (scope : Scope) (options : Options) (context : String)

structure SpellsFormal (formal : Formal) (named : NamedFormal) : Prop where
  bare : formal.bare = named.bare
  type : library.Means scope options context formal.type named.type

structure SpellsMethod (method : Method) (named : NamedMethod) : Prop where
  bare : method.bare = named.bare
  returnType? :
    Option.Rel (library.Means scope options context) method.returnType? named.returnType?
  formals : List.Forall₂ (library.SpellsFormal scope options context) method.formals named.formals

structure SpellsAttribute (found : Attribute) (named : NamedAttribute) : Prop where
  bare : found.bare = named.bare
  type : library.Means scope options context found.type named.type

structure SpellsParameter (found : GenericParameter) (named : NamedParameter) : Prop where
  identifier : found.identifier = named.identifier
  upperBounds :
    List.Forall₂ (library.Means scope options context) found.upperBounds named.upperBounds
  lowerBound? :
    Option.Rel (library.Means scope options context) found.lowerBound? named.lowerBound?

/-- The class-like is the named one. -/
structure SpellsClass (id : ClassId) (classLike : ClassLike) (named : NamedClass) : Prop where
  bare : classLike.bare = named.bare
  superclass? : Option.Rel (fun id => library.Means scope options context (.classLike id))
    classLike.kind.superclass? named.superclass?
  interfaces : List.Forall₂ (fun id => library.Means scope options context (.classLike id))
    classLike.kind.interfaces named.interfaces
  parameters : List.Forall₂ (fun parameter named => ∃ found,
      library.parameter? parameter = some found ∧ found.owner = id
        ∧ library.SpellsParameter scope options context found named)
    classLike.genericParameters named.parameters
  methods :
    List.Forall₂ (library.SpellsMethod scope options context) classLike.methods named.methods
  attributes :
    List.Forall₂ (library.SpellsAttribute scope options context) classLike.attributes
      named.attributes

/-- The class-like of the identifier is the named one. -/
def Spells (id : ClassId) (named : NamedClass) : Prop :=
  ∃ classLike, library.classLike? id = some classLike
    ∧ library.SpellsClass scope options context id classLike named

end Spells

section Bare

variable {library : Library} {scope : Scope} {options : Options} {context : String}

theorem SpellsFormal.isVariadic {formal : Formal} {named : NamedFormal}
    (spells : library.SpellsFormal scope options context formal named) :
    formal.isVariadic = named.bare.isVariadic := by
  rw [← spells.bare]
  rfl

theorem SpellsFormal.identifier {formal : Formal} {named : NamedFormal}
    (spells : library.SpellsFormal scope options context formal named) :
    formal.identifier = named.bare.identifier := by
  rw [← spells.bare]
  rfl

theorem SpellsAttribute.identifier {found : Attribute} {named : NamedAttribute}
    (spells : library.SpellsAttribute scope options context found named) :
    found.identifier = named.bare.identifier := by
  rw [← spells.bare]
  rfl

theorem SpellsMethod.identifier {method : Method} {named : NamedMethod}
    (spells : library.SpellsMethod scope options context method named) :
    method.identifier = named.bare.identifier := by
  rw [← spells.bare]
  rfl

theorem SpellsMethod.signature {method : Method} {named : NamedMethod}
    (spells : library.SpellsMethod scope options context method named) :
    method.signature = named.bare.signature := by
  rw [← spells.bare]
  rfl

theorem SpellsClass.supertypes {id : ClassId} {classLike : ClassLike} {named : NamedClass}
    (spells : library.SpellsClass scope options context id classLike named) :
    List.Forall₂ (fun id => library.Means scope options context (.classLike id))
      classLike.kind.supertypes named.supertypes :=
  List.rel_append (Related.toList spells.superclass?) spells.interfaces

theorem SpellsClass.kind {id : ClassId} {classLike : ClassLike} {named : NamedClass}
    (spells : library.SpellsClass scope options context id classLike named) :
    classLike.kind.withoutSupertypes = named.bare.kind := by
  rw [← spells.bare]
  rfl

end Bare

/-! ## Growth -/

namespace Grows

variable {scope : Scope} {options : Options} {context : String} {focus : ClassId → Prop}
  {before after : Library}

theorem means (h : before.Grows focus after) {type : Ty} {tree : TypeTree}
    (means : before.Means scope options context type tree) :
    after.Means scope options context type tree :=
  ⟨h.denotes means.denotes, means.wellFormed⟩

theorem spellsMethod (h : before.Grows focus after) {method : Method} {named : NamedMethod}
    (spells : before.SpellsMethod scope options context method named) :
    after.SpellsMethod scope options context method named where
  bare := spells.bare
  returnType? := Related.optional spells.returnType? fun _ _ => h.means
  formals := spells.formals.imp fun _ _ formal => ⟨formal.bare, h.means formal.type⟩

theorem spellsAttribute (h : before.Grows focus after) {found : Attribute}
    {named : NamedAttribute} (spells : before.SpellsAttribute scope options context found named) :
    after.SpellsAttribute scope options context found named :=
  ⟨spells.bare, h.means spells.type⟩

theorem spellsParameter (h : before.Grows focus after) {found : GenericParameter}
    {named : NamedParameter} (spells : before.SpellsParameter scope options context found named) :
    after.SpellsParameter scope options context found named where
  identifier := spells.identifier
  upperBounds := spells.upperBounds.imp fun _ _ => h.means
  lowerBound? := Related.optional spells.lowerBound? fun _ _ => h.means

/-- Class-likes out of focus keep spelling what they spell. -/
theorem spells (h : before.Grows focus after) {id : ClassId} {named : NamedClass}
    (away : ¬ focus id) (spells : before.Spells scope options context id named) :
    after.Spells scope options context id named := by
  obtain ⟨classLike, known, spells⟩ := spells
  obtain ⟨later, known', _, same⟩ := h.classLike known
  have content := same away
  have kind : later.kind = classLike.kind := congrArg (·.kind) content
  refine ⟨later, known', ?_⟩
  exact {
    bare := by rw [← ClassLike.bare_content, content, ClassLike.bare_content, spells.bare]
    superclass? := by
      rw [kind]
      exact Related.optional spells.superclass? fun _ _ => h.means
    interfaces := by
      rw [kind]
      exact spells.interfaces.imp fun _ _ => h.means
    parameters := by
      rw [show later.genericParameters = classLike.genericParameters from
        congrArg (·.genericParameters) content]
      refine spells.parameters.imp ?_
      rintro parameter named ⟨found, found_eq, owner, bounds⟩
      obtain ⟨later, later_eq, _, _, unchanged⟩ := h.parameter found_eq
      obtain rfl := unchanged (owner ▸ away)
      exact ⟨later, later_eq, owner, h.spellsParameter bounds⟩
    methods := by
      rw [show later.methods = classLike.methods from congrArg (·.methods) content]
      exact spells.methods.imp fun _ _ => h.spellsMethod
    attributes := by
      rw [show later.attributes = classLike.attributes from congrArg (·.attributes) content]
      exact spells.attributes.imp fun _ _ => h.spellsAttribute }

end Grows

end Library

end ClassModel
