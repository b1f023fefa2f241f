import ClassModel.Compile.Materialize
import ClassModel.Proofs.Resolve

/-!
# ClassModel.Proofs.Substitute

Substituting in a type follows the substitution by names
(`Refines.substitute`): what the type of a generic class-like means in the
context of an instantiation. An instantiation that stays the same needs no
look-up, and any other one is requested in the context of the parameters that
are left in it.
-/

namespace ClassModel

variable {scope : Scope} {options : Options} {base context signature : String}

/-- Instantiating with arguments that fit asks for the instantiation, unless it
nests too deeply. -/
theorem Scope.instantiate_of_fits {name : String} {arguments : List TypeTree}
    (fits : ∃ shape, scope name = some shape ∧ shape.parameters.length = arguments.length)
    (nonempty : arguments ≠ []) : scope.instantiate options name arguments signature
      = if options.maxSpecializationDepth < (TypeTree.applied name arguments 0).depth then
          Traced.report (.depthExceeded (TypeTree.applied name arguments 0).signature
            options.maxSpecializationDepth)
            >>= fun _ => pure (.declared name 0)
        else
          Traced.request (.applied name arguments 0)
            >>= fun _ => pure (.applied name arguments 0) := by
  obtain ⟨shape, known, fits⟩ := fits
  have arity : (scope.parametersOf name).length = arguments.length := by
    rw [parametersOf, known, Option.map_some, Option.getD_some, fits]
  rw [instantiate, fitArguments, arity, if_pos rfl, pure_bind]
  simp only [if_neg (show ¬ arguments.isEmpty = true by simpa using nonempty)]

/-- Instantiating a well-formed type asks for the instantiation. -/
theorem Scope.instantiate_of_wellFormed {name : String} {arguments : List TypeTree}
    (wf : (TypeTree.applied name arguments 0).WellFormed scope options context) :
    scope.instantiate options name arguments signature
      = Traced.request (.applied name arguments 0)
        >>= fun _ => pure (.applied name arguments 0) := by
  have within := wf.depth_le
  rw [TypeTree.WellFormed] at wf
  rw [instantiate_of_fits wf.1 wf.2.2.1, if_neg (Nat.not_lt.2 within)]

/-- Instantiating a class-like answers one. -/
theorem Scope.className?_instantiate (name : String) (arguments : List TypeTree) :
    (scope.instantiate options name arguments signature).value.className? = some name := by
  rw [instantiate, Traced.value_bind]
  split
  · rfl
  · dsimp only
    split <;> rfl

namespace Library

/-- The substitution puts the arguments, which may stand in the context, in
place of the generic parameters of the base. -/
def Substitutes (library : Library) (scope : Scope) (options : Options) (base context : String)
    (substitution : Substitution) (arguments : List (String × TypeTree)) : Prop :=
  ∀ id name parameter, library.IsNamed id base → library.parameterNamed? id name = some parameter →
    ∃ type tree, substitution.lookup parameter = some type ∧ arguments.lookup name = some tree
      ∧ library.Means scope options context type tree

theorem Grows.substitutes {focus : ClassId → Prop} {before after : Library}
    (h : before.Grows focus after) {substitution : Substitution}
    {arguments : List (String × TypeTree)}
    (substitutes : before.Substitutes scope options base context substitution arguments) :
    after.Substitutes scope options base context substitution arguments := by
  intro id name parameter isNamed found
  have isNamed := h.isNamed_iff.1 isNamed
  have found : before.parameterNamed? id name = some parameter := by
    obtain ⟨classLike, declared, _⟩ := isNamed
    rwa [← h.parameterNamed? declared.1]
  obtain ⟨type, tree, looked, looked', means⟩ := substitutes id name parameter isNamed found
  exact ⟨type, tree, looked, looked', h.means means⟩

/-- What is left open in types of the context belongs to the context. -/
theorem Coherent.serves_ownerOfFirst? {library : Library}
    (coherent : library.Coherent scope options) {types : List Ty} {trees : List TypeTree}
    (means : List.Forall₂ (library.Means scope options context) types trees) :
    Refines.Serves library context (library.ownerOfFirst? types) trees := by
  have related : Option.Rel library.OwnedBy (types.findSome? library.firstParameter?)
      (trees.flatMap TypeTree.owners).head? :=
    Related.findSome? means fun tree _ type means => coherent.firstParameter?_rel means.denotes
  cases listed : trees.flatMap TypeTree.owners with
  | nil => exact .inr (List.flatMap_eq_nil_iff.1 listed)
  | cons owner owners =>
    have mem : owner ∈ trees.flatMap TypeTree.owners := by simp [listed]
    obtain ⟨tree, mem, inTree⟩ := List.mem_flatMap.1 mem
    obtain ⟨type, _, means⟩ := Related.exists_of_mem means mem
    obtain rfl := means.wellFormed.eq_of_mem_owners inTree
    rw [listed, List.head?_cons] at related
    cases first : types.findSome? library.firstParameter? with
    | none =>
      rw [first] at related
      cases related
    | some parameter =>
      rw [first] at related
      cases related with
      | some owned =>
        obtain ⟨found, classLike, known, declared, same⟩ := owned
        refine .inl ⟨found.owner, ?_, classLike, declared, same⟩
        simp [ownerOfFirst?, first, known]

end Library

namespace Refines

variable {state : BuildState} {substitution : Substitution}
  {arguments : List (String × TypeTree)}

/-- Substituting in the arguments of an instantiation follows the substitution
by names, if it does so in each of them. -/
theorem substituteArguments {inType : Ty → Build Ty} {id : ClassId} {classLike : ClassLike}
    {specialization : Specialization} {baseClass : ClassLike} {trees : List TypeTree}
    (coherent : state.library.Coherent scope options)
    (inScope : ∃ shape, scope context = some shape)
    (known : state.library.classLike? id = some classLike)
    (specialized : classLike.specialization? = some specialization)
    (instantiates :
      state.library.Instantiates scope options classLike specialization baseClass trees)
    (wf : (TypeTree.applied baseClass.identifier trees 0).WellFormed scope options base)
    (step : ∀ tree ∈ trees, ∀ type, state.library.Denotes type tree → ∀ after : BuildState,
      after.library.Coherent scope options → state.library.Grows Library.nobody after.library →
        Refines scope options Library.nobody after (inType type)
          (tree.substitute scope options arguments) (Library.Means · scope options context)) :
    Refines scope options Library.nobody state
      (Build.substituteArguments options inType id specialization)
      (TypeTree.substituteAll scope options arguments trees >>= fun substituted =>
        scope.instantiate options baseClass.identifier substituted
          (TypeTree.applied baseClass.identifier trees 0).signature)
      (Library.Means · scope options context) := by
  have isInstance := instantiates.isInstance known specialized
  unfold Build.substituteArguments
  rw [TypeTree.substituteAll_eq_mapM]
  refine (mapM step (fun _ _ _ _ grows => grows.means) coherent
    (Library.denotesAll_iff.1 instantiates.denotes)).bind fun types after coherent grows means => ?_
  generalize (trees.mapM (TypeTree.substitute scope options arguments)).value
    = substituted at means ⊢
  split
  · next same =>
    -- the same arguments spell the same trees
    have denotes := grows.denotesAll instantiates.denotes
    rw [← same, Library.denotesAll_iff] at denotes
    have same : substituted = trees := Related.unique (means.imp fun _ _ h => h.denotes) denotes
      fun _ _ _ _ first first' => first.unique coherent.toDeclares first'
    subst same
    have wf' : (TypeTree.applied baseClass.identifier substituted 0).WellFormed scope options
        context := by
      rw [TypeTree.WellFormed] at wf ⊢
      obtain ⟨shape, notPrimitive, nonempty, within, _⟩ := wf
      refine ⟨shape, notPrimitive, nonempty, within, fun tree mem => ?_⟩
      obtain ⟨type, _, means⟩ := Related.exists_of_mem means mem
      exact means.wellFormed
    have isInstance := grows.isInstance isInstance
    rw [Scope.instantiate_of_wellFormed wf']
    exact requested coherent ⟨isInstance.1, wf'⟩ ⟨id, isInstance⟩
  · apply Refines.library
    rw [instantiates.signature]
    rw [TypeTree.WellFormed] at wf
    exact instantiate coherent (grows.isNamed_iff.2 ⟨baseClass, instantiates.declared, rfl⟩)
      wf.2.1 inScope means (coherent.serves_ownerOfFirst? means)

/-- Substituting in a type without arguments follows the substitution by
names. -/
theorem substituteFrom {inType? : Option (Ty → Build Ty)} {type : Ty} {tree : TypeTree}
    (coherent : state.library.Coherent scope options)
    (substitutes : state.library.Substitutes scope options base context substitution arguments)
    (means : state.library.Means scope options base type tree)
    (simple : ∀ name trees n, tree ≠ .applied name trees n) :
    Refines scope options Library.nobody state
      (Build.substituteFrom options substitution inType? type)
      (tree.substitute scope options arguments) (Library.Means · scope options context) := by
  have denotes := means.denotes
  have wf := means.wellFormed
  cases tree with
  | applied name trees n => exact absurd rfl (simple name trees n)
  | primitive primitive n =>
    obtain rfl := denotes
    rw [Build.substituteFrom_array, Build.substituteFrom, TypeTree.substitute, map_pure]
    exact .pure coherent ⟨rfl, by rw [TypeTree.WellFormed]; trivial⟩
  | declared name n =>
    obtain ⟨id, classLike, rfl, declared, rfl⟩ := denotes
    rw [TypeTree.WellFormed] at wf
    rw [Build.substituteFrom_array, Build.substituteFrom, TypeTree.substitute, map_bind]
    apply Refines.classLike declared.1
    have answer : state.library.Means scope options context ((Ty.classLike id).array n)
        (.declared classLike.identifier n) := by
      refine ⟨⟨id, classLike, rfl, declared, rfl⟩, ?_⟩
      rw [TypeTree.WellFormed]
      exact wf
    rw [declared.2]
    cases inType? <;> exact .pure coherent answer
  | parameter owner name n =>
    obtain ⟨parameter, id, classLike, rfl, declared, rfl, found⟩ := denotes
    rw [TypeTree.WellFormed] at wf
    obtain ⟨type, tree, looked, looked', means⟩ :=
      substitutes id name parameter ⟨classLike, declared, wf.1⟩ found
    rw [Build.substituteFrom_array, Build.substituteFrom, TypeTree.substitute, map_pure, looked,
      looked']
    exact .pure coherent (means.array n)

/-- Substituting in a type follows the substitution by names, within any bound
on the nesting. -/
theorem substituteWithin {bound : Nat} {type : Ty} {tree : TypeTree}
    (coherent : state.library.Coherent scope options)
    (inScope : ∃ shape, scope context = some shape)
    (substitutes : state.library.Substitutes scope options base context substitution arguments)
    (means : state.library.Means scope options base type tree) (within : tree.depth ≤ bound) :
    Refines scope options Library.nobody state
      (Build.substituteWithin options substitution bound type)
      (tree.substitute scope options arguments) (Library.Means · scope options context) := by
  induction tree generalizing type bound state with
  | primitive | declared | parameter =>
    cases bound <;> exact substituteFrom coherent substitutes means (by simp)
  | applied name trees n ih =>
    cases bound with
    | zero =>
      rw [TypeTree.depth] at within
      omega
    | succ bound =>
      have wf := means.wellFormed
      rw [TypeTree.WellFormed] at wf
      obtain ⟨id, classLike, specialization, baseClass, rfl, known, rfl, specialized,
        instantiates⟩ := coherent.of_denotes_applied means.denotes
      rw [Build.substituteWithin_array, Build.substituteWithin, Build.substituteFrom,
        TypeTree.substitute_applied, map_bind]
      apply Refines.classLike known
      rw [specialized]
      have wf' : (TypeTree.applied baseClass.identifier trees 0).WellFormed scope options base := by
        rw [TypeTree.WellFormed]
        simpa only [TypeTree.depth] using wf
      refine Refines.map
        (substituteArguments coherent inScope known specialized instantiates wf' ?_)
        fun _ _ means => means.array n
      intro tree mem type denotes after coherent grows
      exact ih tree mem coherent (grows.substitutes substitutes)
        ⟨grows.denotes denotes, wf.2.2.2.2 tree mem⟩ (TypeTree.depth_argument_le mem within)

/-- Substituting in a type follows the substitution by names. -/
theorem substitute {type : Ty} {tree : TypeTree} (coherent : state.library.Coherent scope options)
    (inScope : ∃ shape, scope context = some shape)
    (substitutes : state.library.Substitutes scope options base context substitution arguments)
    (means : state.library.Means scope options base type tree) :
    Refines scope options Library.nobody state (Build.substitute options substitution type)
      (tree.substitute scope options arguments) (Library.Means · scope options context) := by
  unfold Build.substitute
  apply Refines.library
  exact substituteWithin coherent inScope substitutes means
    (Nat.le_of_eq (coherent.depthOf_eq means.denotes).symm)

end Refines

end ClassModel
