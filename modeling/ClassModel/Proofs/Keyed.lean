import ClassModel.Proofs.RoundTrip

/-!
# ClassModel.Proofs.Keyed

Types are told apart by their keys (`tellsTypes_of_compile`). In a key each
generic parameter is qualified by its owner, so the key of a type spells its
tree, and a tree is that of one type only. Without generic parameters the key is
the text of the type. With them the text is not enough: it does not tell a
generic parameter from a class-like of its name.
-/

namespace ClassModel

namespace Library

/-- The keys of the types that occur in the library tell these types apart, and
are their texts where no generic parameter is mentioned. -/
structure TellsTypes (library : Library) : Prop where
  keyOf_eq_iff {type type' : Ty} : library.Occurs type → library.Occurs type' →
    (library.keyOf type = library.keyOf type' ↔ type = type')
  keyOf_eq_signatureOf {type : Ty} : library.Occurs type →
    (∀ parameter, ¬ library.Mentions parameter type) →
      library.keyOf type = library.signatureOf type

namespace Coherent

variable {library : Library} {scope : Scope} {options : Options} {context context' : String}
  {type type' : Ty} {tree tree' : TypeTree}

/-- Types of the same key spell the same tree, so they are the same. -/
theorem keyOf_inj (coherent : library.Coherent scope options)
    (means : library.Means scope options context type tree)
    (means' : library.Means scope options context' type' tree')
    (same : library.keyOf type = library.keyOf type') : type = type' := by
  rw [coherent.keyOf_eq means.denotes, coherent.keyOf_eq means'.denotes] at same
  obtain rfl := TypeTree.key_injective (means.wellFormed.plain coherent.toDeclares)
    (means'.wellFormed.plain coherent.toDeclares) same
  exact coherent.denotes_inj means.denotes means'.denotes

/-- The tree of a type that mentions no generic parameter has none. -/
theorem owners_eq_nil (denotes : library.Denotes type tree)
    (closed : ∀ parameter, ¬ library.Mentions parameter type) : tree.owners = [] := by
  refine List.eq_nil_iff_forall_not_mem.2 fun owner mem => ?_
  obtain ⟨parameter, mentions⟩ := exists_mentions denotes mem
  exact closed parameter mentions

theorem keyOf_eq_signatureOf (coherent : library.Coherent scope options)
    (denotes : library.Denotes type tree)
    (closed : ∀ parameter, ¬ library.Mentions parameter type) :
    library.keyOf type = library.signatureOf type := by
  rw [coherent.keyOf_eq denotes, coherent.signatureOf_eq denotes]
  exact TypeTree.key_eq_signature (owners_eq_nil denotes closed)

end Coherent

end Library

/-- The types that occur in a library mean something after its methods are marked, too. -/
theorem Compiled.exists_means_of_marked {options : Options} {declarations : List Declaration}
    {names : List String} {diagnostics : List Diagnostic} {marks : ClassId → Nat → Bool}
    {before after : Library} (compiled : Compiled options declarations names before diagnostics)
    (marked : Library.Marked marks before after) {type : Ty} (occurs : after.Occurs type) :
    ∃ context tree, after.Means (scopeOf declarations) options context type tree := by
  obtain ⟨context, tree, means⟩ := compiled.exists_means (marked.occurs occurs)
  exact ⟨context, tree, marked.revises.means means⟩

/-- In every library that a compilation returns, the types that occur in it are
told apart by their keys. -/
theorem tellsTypes_of_compile {declarations : List Declaration} {options : Options} {budget : Nat}
    {library : Library} (returned : (compile declarations options budget).result = .ok library) :
    library.TellsTypes := by
  obtain ⟨names, before, compiled, marked⟩ := exists_compiled returned
  have coherent := marked.revises.coherent compiled.coherent
  constructor
  · intro type type' occurs occurs'
    obtain ⟨_, _, means⟩ := compiled.exists_means_of_marked marked occurs
    obtain ⟨_, _, means'⟩ := compiled.exists_means_of_marked marked occurs'
    exact ⟨coherent.keyOf_inj means means', fun same => by rw [same]⟩
  · intro type occurs closed
    obtain ⟨_, _, means⟩ := compiled.exists_means_of_marked marked occurs
    exact coherent.keyOf_eq_signatureOf means.denotes closed

/-! ## A sample -/

/-- A generic class whose parameter has the name of a class, and a class without
such a parameter, both of which refer to that name. -/
def Declaration.shadows : List Declaration :=
  [{ signature := "class List<E>" },
   { signature := "class Box<String>", attributes := ["List<String> content"] },
   { signature := "class Crate", attributes := ["List<String> labels"] }]

/-- What the sample is compiled to: `List<String>` of the parameter of `Box` is
created before `List<String>` of the class `String`. -/
structure Library.HasShadows (library : Library) : Prop where
  box : ∃ box ∈ library.classLike? ⟨9⟩, box.attributes.map (·.type) = [.classLike ⟨11⟩]
  crate : ∃ crate ∈ library.classLike? ⟨10⟩, crate.attributes.map (·.type) = [.classLike ⟨12⟩]
  signatures : library.signatureOf (.classLike ⟨11⟩) = library.signatureOf (.classLike ⟨12⟩)

instance (library : Library) : Decidable library.HasShadows :=
  decidable_of_iff
    ((∃ box ∈ library.classLike? ⟨9⟩, box.attributes.map (·.type) = [.classLike ⟨11⟩])
      ∧ (∃ crate ∈ library.classLike? ⟨10⟩, crate.attributes.map (·.type) = [.classLike ⟨12⟩])
      ∧ library.signatureOf (.classLike ⟨11⟩) = library.signatureOf (.classLike ⟨12⟩))
    ⟨fun ⟨box, crate, signatures⟩ => ⟨box, crate, signatures⟩,
      fun ⟨box, crate, signatures⟩ => ⟨box, crate, signatures⟩⟩

theorem Library.occurs_of_attributes {library : Library} {id : ClassId} {classLike : ClassLike}
    {type : Ty} (known : library.classLike? id = some classLike)
    (attributes : classLike.attributes.map (·.type) = [type]) : library.Occurs type := by
  refine .signature known (List.mem_append_right _ ?_)
  rw [attributes]
  exact List.mem_singleton_self type

/-- The two types of the same text have different keys. -/
theorem tellsTypes_shadows : ∃ library type type',
    (compile Declaration.shadows {} 2).result = .ok library
      ∧ library.Occurs type ∧ library.Occurs type'
      ∧ library.signatureOf type = library.signatureOf type'
      ∧ library.keyOf type ≠ library.keyOf type' := by
  obtain ⟨library, returned, _, hasShadows⟩ := exists_of_check (compile Declaration.shadows {} 2)
    (fun library => decide library.HasShadows) (by decide +kernel)
  obtain ⟨⟨_, knownBox, inBox⟩, ⟨_, knownCrate, inCrate⟩, signatures⟩ :=
    of_decide_eq_true hasShadows
  have occurs := Library.occurs_of_attributes knownBox inBox
  have occurs' := Library.occurs_of_attributes knownCrate inCrate
  have tells := tellsTypes_of_compile returned
  exact ⟨library, _, _, returned, occurs, occurs', signatures,
    (tells.keyOf_eq_iff occurs occurs').not.2 (by decide)⟩

end ClassModel
