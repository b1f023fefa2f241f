import ClassModel.Proofs.Ancestry

/-!
# ClassModel.Proofs.Erasure

Subtyping without arguments. The class-likes right above an instantiation have
the same bases as those right above its base, whatever the arguments are, and
also where an instantiation that nests too deeply gave way to its base
(`Library.map_baseOf_directSupertypes`). So class-likes of the same base reach
class-likes of the same bases, and are below the same declared class-likes
(`isSubtype_baseOf_of_compile`).
-/

namespace ClassModel

/-- Nodes of the same image reach nodes of the same images, if that holds of the
nodes right after them. -/
theorem Walk.exists_reaches_of_eq {α β : Type} {next : α → List α} {f : α → β}
    (step : ∀ a b, f a = f b → (next a).map f = (next b).map f) {a b c : α} (same : f a = f b)
    (reaches : Reaches next a c) : ∃ d, Reaches next b d ∧ f d = f c := by
  induction reaches with
  | refl => exact ⟨b, .refl, same.symm⟩
  | @tail c last _ follows ih =>
    obtain ⟨d, reaches, same⟩ := ih
    have mem : f last ∈ (next d).map f := step d c same ▸ List.mem_map_of_mem follows
    obtain ⟨last', follows', same'⟩ := List.mem_map.1 mem
    exact ⟨last', reaches.tail follows', same'⟩

namespace Library

variable {library : Library} {options : Options} {declarations : List Declaration}
  {names : List String} {diagnostics : List Diagnostic}

/-- The class-like is of the base that the tree names. -/
def IsOfTree (library : Library) (id : ClassId) (tree : TypeTree) : Prop :=
  ∃ name, tree.className? = some name ∧ library.IsOf id name

theorem Coherent.isOfTree {scope : Scope} (coherent : library.Coherent scope options) {id : ClassId}
    {tree : TypeTree} (denotes : library.Denotes (.classLike id) tree) :
    library.IsOfTree id tree :=
  Refines.exists_className? coherent denotes

section Compiled

variable (compiled : Compiled options declarations names library diagnostics)

include compiled

/-- The class-likes right above a class-like are of the bases that its contents
name. -/
theorem isOfTree_directSupertypes {id : ClassId} {classLike : ClassLike} {context : String}
    {named : NamedClass} (known : library.classLike? id = some classLike)
    (spells : library.SpellsClass (scopeOf declarations) options context id classLike named) :
    List.Forall₂ library.IsOfTree (library.directSupertypes id) named.supertypes := by
  rw [directSupertypes, hierarchyKind?_eq compiled known]
  exact spells.supertypes.imp fun _ _ means => compiled.coherent.isOfTree means.denotes

/-- The class-likes right above a declared one are of the bases that the contents
of its name tell. -/
theorem directSupertypes_rel_of_isNamed {id : ClassId} {name : String}
    (isNamed : library.IsNamed id name) :
    List.Forall₂ library.IsOfTree (library.directSupertypes id)
      (contentOf options declarations names name).supertypes := by
  obtain ⟨classLike, known, spells⟩ := compiled.realizes id name isNamed
  exact isOfTree_directSupertypes compiled known spells

/-- Those right above an instantiation are of the same bases. -/
theorem directSupertypes_rel {id : ClassId} {classLike : ClassLike}
    (known : library.classLike? id = some classLike) {name : String}
    (isOf : library.IsOf id name) :
    List.Forall₂ library.IsOfTree (library.directSupertypes id)
      (contentOf options declarations names name).supertypes := by
  obtain ⟨name', context, named, isOf', spells, told⟩ := exists_spells compiled known
  obtain rfl := isOf'.name_inj isOf
  have own := isOfTree_directSupertypes compiled known spells
  rcases told with rfl | ⟨arguments, rfl⟩
  · exact own
  · -- What names a class-like goes on naming it when arguments are put in.
    rw [NamedClass.supertypes_substitute, List.forall₂_map_right_iff] at own
    refine Related.imp own fun tree mem id ⟨base, className, isOfBase⟩ => ?_
    obtain ⟨_, _, base', className', _⟩ :=
      Related.exists_of_mem (directSupertypes_rel_of_isNamed compiled isOf) mem
    rw [Refines.className?_substitute className'] at className
    cases className
    exact ⟨_, className', isOfBase⟩

/-- Right above a class-like and its base there are class-likes of the same
bases. -/
theorem map_baseOf_directSupertypes (id : ClassId) :
    (library.directSupertypes id).map library.baseOf
      = (library.directSupertypes (library.baseOf id)).map library.baseOf := by
  cases known : library.classLike? id with
  | none => rw [baseOf, specialization?, known, Option.bind_none]
  | some classLike =>
    obtain ⟨name, isOf⟩ := exists_isOf compiled.coherent known
    have same : List.Forall₂ (fun above above' => library.baseOf above = library.baseOf above')
        (library.directSupertypes id) (library.directSupertypes (library.baseOf id)) := by
      refine Related.join (directSupertypes_rel compiled known isOf)
        (directSupertypes_rel_of_isNamed compiled isOf) fun tree _ above above' named named' => ?_
      obtain ⟨base, className, isOf⟩ := named
      obtain ⟨base', className', isOf'⟩ := named'
      cases className.symm.trans className'
      exact compiled.coherent.isNamed_inj isOf isOf'
    exact Related.map_eq same fun _ _ _ same => same

/-- A class-like is there if and only if its base is. -/
theorem isSome_classLike?_baseOf (id : ClassId) :
    (library.classLike? (library.baseOf id)).isSome = (library.classLike? id).isSome := by
  cases known : library.classLike? id with
  | none => rw [baseOf, specialization?, known, Option.bind_none, known]
  | some classLike =>
    obtain ⟨_, base, declared, _⟩ := exists_isOf compiled.coherent known
    rw [declared.1, Option.isSome_some, Option.isSome_some]

/-- Class-likes of the same base are below the same declared class-likes. -/
theorem isSubtype_of_baseOf_eq {id other target : ClassId}
    (same : library.baseOf id = library.baseOf other)
    (declared : library.baseOf target = target) (below : library.isSubtype id target = true) :
    library.isSubtype other target = true := by
  rw [isSubtype_iff] at below ⊢
  refine below.imp (And.imp_right fun known => ?_) (And.imp_right ?_)
  · rwa [← isSome_classLike?_baseOf compiled, ← same, isSome_classLike?_baseOf compiled]
  rintro ⟨above, isAbove, isTarget⟩
  obtain ⟨above', isAbove', same'⟩ := Walk.exists_reaches_of_eq (f := library.baseOf)
    (fun id id' same => by
      rw [map_baseOf_directSupertypes compiled, same, ← map_baseOf_directSupertypes compiled])
    same isAbove
  refine ⟨above', isAbove', .inr ?_⟩
  rcases isTarget with rfl | base
  · exact same'.trans declared
  · exact same'.trans base

end Compiled

end Library

/-- In every library that a compilation returns, a class-like is below the same
declared class-likes as its base, and so are all instantiations of one base. -/
theorem isSubtype_baseOf_of_compile {declarations : List Declaration} {options : Options}
    {budget : Nat} {library : Library}
    (returned : (compile declarations options budget).result = .ok library) {target : ClassId}
    (declared : target ∈ library.types) (id : ClassId) :
    library.isSubtype id target = library.isSubtype (library.baseOf id) target
      ∧ ∀ other, library.baseOf other = library.baseOf id →
        library.isSubtype other target = library.isSubtype id target := by
  obtain ⟨names, before, compiled, marked⟩ := exists_compiled returned
  rw [marked.types] at declared
  obtain ⟨classLike, declared⟩ := compiled.coherent.mem_types.1 declared
  have own := Library.baseOf_of_isDeclared declared
  rw [marked.isSubtype, marked.baseOf]
  have alike {id other : ClassId} (same : before.baseOf id = before.baseOf other) :
      before.isSubtype id target = before.isSubtype other target :=
    Bool.eq_iff_iff.2 ⟨Library.isSubtype_of_baseOf_eq compiled same own,
      Library.isSubtype_of_baseOf_eq compiled same.symm own⟩
  refine ⟨alike ?_, fun other same => alike same⟩
  rw [Library.baseOf_baseOf compiled]

theorem isSubtype_baseOf_crates : ∃ library,
    (compile Declaration.crates {} 1).result = .ok library ∧ ⟨8⟩ ∈ library.types
      ∧ library.baseOf ⟨11⟩ = ⟨9⟩
      ∧ library.isSubtype ⟨11⟩ ⟨8⟩ = library.isSubtype (library.baseOf ⟨11⟩) ⟨8⟩
      ∧ ∀ other, library.baseOf other = library.baseOf ⟨11⟩ →
        library.isSubtype other ⟨8⟩ = library.isSubtype ⟨11⟩ ⟨8⟩ := by
  obtain ⟨library, returned, hasCrates⟩ := exists_hasCrates
  have declared : ⟨8⟩ ∈ library.types :=
    List.mem_of_mem_drop (i := 8) (by rw [hasCrates.types]; exact List.mem_cons_self)
  obtain ⟨ofBase, alike⟩ := isSubtype_baseOf_of_compile returned declared ⟨11⟩
  exact ⟨library, returned, declared, hasCrates.bases.2, ofBase, alike⟩

end ClassModel
