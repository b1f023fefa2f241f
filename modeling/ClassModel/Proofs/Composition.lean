import ClassModel.Proofs.Substituted

/-!
# ClassModel.Proofs.Composition

Substitution without a limit on the nesting. Where nothing nests too deeply, it
is what filling in an instantiation does (`TypeTree.value_substitute`), and
substituting in an instantiation is substituting in its arguments
(`TypeTree.subst_subst`). So the supertypes of a substituted type are the
substituted supertypes (`Scope.above_subst`).
-/

namespace ClassModel

section Lookup

variable {α β : Type} {names : List String} {values : List α} {name : String}

theorem lookup_zip_map (change : α → β) (names : List String) (values : List α) (name : String) :
    (names.zip (values.map change)).lookup name = ((names.zip values).lookup name).map change := by
  induction names generalizing values with
  | nil => rfl
  | cons first names ih =>
    cases values with
    | nil => rfl
    | cons value values =>
      rw [List.map_cons, List.zip_cons_cons, List.zip_cons_cons, List.lookup_cons,
        List.lookup_cons, ih]
      cases name == first <;> rfl

/-- There is a value for each name. -/
theorem exists_lookup_zip (fits : names.length = values.length) (mem : name ∈ names) :
    ∃ value ∈ values, (names.zip values).lookup name = some value := by
  induction names generalizing values with
  | nil => simp at mem
  | cons first names ih =>
    cases values with
    | nil => simp at fits
    | cons value values =>
      rw [List.zip_cons_cons, List.lookup_cons]
      cases same : name == first with
      | true => exact ⟨value, by simp⟩
      | false =>
        have mem : name ∈ names := by
          rw [beq_eq_false_iff_ne] at same
          simpa [same] using mem
        obtain ⟨value, mem, found⟩ := ih (by simpa using fits) mem
        exact ⟨value, List.mem_cons_of_mem _ mem, found⟩

end Lookup

namespace TypeTree

/-- Puts arguments in place of the generic parameters of their names, however
deeply the instantiations nest. -/
def subst (arguments : List (String × TypeTree)) : TypeTree → TypeTree
  | primitive type n => primitive type n
  | declared name n => declared name n
  | applied name trees n => applied name (trees.map (subst arguments)) n
  | parameter owner name n =>
    ((arguments.lookup name).getD (parameter owner name 0)).array n

variable {scope : Scope} {options : Options} {base : String}
  {arguments : List (String × TypeTree)}

theorem subst_array (tree : TypeTree) (n : Nat) :
    (tree.array n).subst arguments = (tree.subst arguments).array n := by
  cases tree with
  | parameter owner name m => rw [array, subst, subst, array_array]
  | _ => simp only [array, subst]

/-- Substituting changes no type without generic parameters. -/
theorem subst_of_closed {tree : TypeTree} (closed : tree.owners = []) :
    tree.subst arguments = tree := by
  induction tree with
  | primitive type n => rw [subst]
  | declared name n => rw [subst]
  | applied name trees n ih =>
    rw [owners, List.flatMap_eq_nil_iff] at closed
    rw [subst, List.map_congr_left fun tree mem => ih tree mem (closed tree mem), List.map_id']
  | parameter owner name n => simp [owners] at closed

/-- Substituting in an instantiation is substituting in its arguments. -/
theorem subst_subst {tree : TypeTree} {trees : List TypeTree}
    (wf : tree.WellFormed scope options base)
    (fits : (scope.parametersOf base).length = trees.length) :
    (tree.subst ((scope.parametersOf base).zip trees)).subst arguments
      = tree.subst ((scope.parametersOf base).zip (trees.map (subst arguments))) := by
  induction tree with
  | primitive type n => simp only [subst]
  | declared name n => simp only [subst]
  | applied name inner n ih =>
    rw [WellFormed] at wf
    simp only [subst, List.map_map]
    congr 1
    exact List.map_congr_left fun tree mem => ih tree mem (wf.2.2.2.2 tree mem)
  | parameter owner name n =>
    rw [WellFormed] at wf
    obtain ⟨rfl, shape, known, mem⟩ := wf
    have mem : name ∈ scope.parametersOf owner := by
      simpa [Scope.parametersOf, known] using mem
    obtain ⟨tree, _, found⟩ := exists_lookup_zip fits mem
    rw [subst, subst, lookup_zip_map, found, Option.map_some, Option.getD_some, Option.getD_some,
      subst_array]

end TypeTree

/-! ## Filling in -/

/-- No instantiation gave way to its base. -/
def Unlimited : List Event → Prop :=
  Silent fun diagnostic => ∃ signature maximum, diagnostic = .depthExceeded signature maximum

namespace TypeTree

variable {scope : Scope} {options : Options} {base : String} {arguments : List (String × TypeTree)}

/-- Where nothing nests too deeply, the limit does not matter. -/
theorem value_substitute {tree : TypeTree} (wf : tree.WellFormed scope options base)
    (unlimited : Unlimited (tree.substitute scope options arguments).events) :
    (tree.substitute scope options arguments).value = tree.subst arguments := by
  induction tree with
  | primitive type n => rw [substitute, subst]; rfl
  | declared name n => rw [substitute, subst]; rfl
  | parameter owner name n => rw [substitute, subst]; rfl
  | applied name trees n ih =>
    rw [WellFormed] at wf
    obtain ⟨⟨shape, known, fits⟩, _, nonempty, _, wf⟩ := wf
    rw [substitute_applied, Traced.value_bind, Traced.value_bind, Traced.value_pure]
    rw [substitute_applied, Traced.events_bind, Traced.events_bind] at unlimited
    obtain ⟨inside, outside⟩ := unlimited.append.1.append
    have substituted : (substituteAll scope options arguments trees).value
        = trees.map (subst arguments) := by
      rw [substituteAll_eq_mapM, Traced.events_mapM] at inside
      rw [substituteAll_eq_mapM, Traced.value_mapM]
      exact List.map_congr_left fun tree mem => ih tree mem (wf tree mem) (inside.of_mem mem)
    rw [substituted] at outside ⊢
    rw [Scope.instantiate_of_fits ⟨shape, known, by rw [fits, List.length_map]⟩ (by simpa)]
      at outside ⊢
    split
    · next deep =>
      rw [if_pos deep] at outside
      exact (outside ⟨_, _⟩ List.mem_cons_self ⟨_, _, rfl⟩).elim
    · rw [Traced.value_bind, Traced.value_pure, subst, array, Nat.zero_add]

end TypeTree

/-! ## Supertypes -/

theorem NamedClass.supertypes_substitute (scope : Scope) (options : Options)
    (arguments : List (String × TypeTree)) (named : NamedClass) :
    (named.substitute scope options arguments).value.supertypes
      = named.supertypes.map fun tree => (tree.substitute scope options arguments).value := by
  simp [supertypes, substitute, substituteSupertypes, Option.toList_map]

namespace Scope

variable (scope : Scope) (content : String → NamedClass)

/-- The types right above a class-like: those that its contents name, with its
arguments in place of the generic parameters. -/
def above : TypeTree → List TypeTree
  | .declared name _ => (content name).supertypes
  | .applied name trees _ =>
    (content name).supertypes.map (TypeTree.subst ((scope.parametersOf name).zip trees))
  | .primitive _ _ | .parameter _ _ _ => []

variable {scope content} {options : Options} {context : String}

/-- The types above a substituted instantiation are the substituted ones. -/
theorem above_subst {name : String} {trees : List TypeTree} {arguments : List (String × TypeTree)}
    (wf : (TypeTree.applied name trees 0).WellFormed scope options context)
    (supertypes : ∀ tree ∈ (content name).supertypes, tree.WellFormed scope options name) :
    scope.above content ((TypeTree.applied name trees 0).subst arguments)
      = (scope.above content (.applied name trees 0)).map (TypeTree.subst arguments) := by
  rw [TypeTree.WellFormed] at wf
  obtain ⟨⟨shape, known, fits⟩, _⟩ := wf
  rw [TypeTree.subst, above, above, List.map_map]
  refine List.map_congr_left fun tree mem => ?_
  rw [Function.comp_apply, TypeTree.subst_subst (supertypes tree mem)]
  rw [parametersOf, known, Option.map_some, Option.getD_some, fits]

end Scope

end ClassModel
