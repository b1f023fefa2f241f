import ClassModel.Proofs.Asked
import Mathlib.Data.List.Sections

/-!
# ClassModel.Proofs.Narrow

Types whose arrays do not grow. Substituting under array dimensions adds
dimensions, so a type argument that is an array of a generic parameter may lead
to ever wider arrays. Without such arguments what is asked for is
`TypeTree.Narrow`, resolving and substituting included
(`Scope.narrow_resolve`, `TypeTree.narrow_substitute`), and there are finitely
many narrow types over the declared names (`TypeTree.mem_upTo`).
-/

namespace ClassModel

/-! ## Written types -/

namespace TypeExpr

variable (isParameter : String → Bool)

/-- Whether the type is an array of such a name. -/
def isArrayOf : TypeExpr → Bool
  | name identifier dimension => isParameter identifier && dimension != 0
  | missing _ _ | application _ _ _ _ => false

mutual

/-- Whether no type argument in the type is an array of such a name. -/
def isUnwrapped : TypeExpr → Bool
  | application _ arguments _ _ => areUnwrapped arguments
  | missing _ _ | name _ _ => true

/-- Whether none of the type arguments is an array of such a name, nor one in
them. -/
def areUnwrapped : List TypeExpr → Bool
  | [] => true
  | argument :: arguments =>
    !argument.isArrayOf isParameter && argument.isUnwrapped && areUnwrapped arguments

end

variable {isParameter}

theorem areUnwrapped_iff {arguments : List TypeExpr} :
    areUnwrapped isParameter arguments = true ↔ ∀ argument ∈ arguments,
      argument.isArrayOf isParameter = false ∧ argument.isUnwrapped isParameter = true := by
  induction arguments with
  | nil => simp [areUnwrapped]
  | cons argument arguments ih => simp [areUnwrapped, ih, and_assoc]

/-- Without generic parameters there are no arrays of them. -/
theorem isUnwrapped_of_forall_not (none : ∀ name, isParameter name = false) (expr : TypeExpr) :
    expr.isUnwrapped isParameter = true := by
  induction expr with
  | missing | name => rw [isUnwrapped]
  | application identifier arguments unclosed? dimension ih =>
    rw [isUnwrapped, areUnwrapped_iff]
    refine fun argument mem => ⟨?_, ih argument mem⟩
    cases argument <;> simp [isArrayOf, none]

end TypeExpr

/-! ## Narrow types -/

namespace TypeTree

/-- No part of the type has more array dimensions than given, and generic
parameters have none. -/
def Narrow (bound : Nat) : TypeTree → Prop
  | primitive _ n | declared _ n => n ≤ bound
  | applied _ arguments n => n ≤ bound ∧ ∀ argument ∈ arguments, argument.Narrow bound
  | parameter _ _ n => n = 0

variable {bound bound' : Nat}

theorem Narrow.mono (le : bound ≤ bound') {tree : TypeTree} (narrow : tree.Narrow bound) :
    tree.Narrow bound' := by
  induction tree with
  | primitive type n | declared name n =>
    rw [Narrow] at *
    omega
  | applied name arguments n ih =>
    rw [Narrow] at *
    exact ⟨by omega, fun argument mem => ih argument mem (narrow.2 argument mem)⟩
  | parameter owner name n =>
    rw [Narrow] at *
    exact narrow

/-- Finitely many types have a common bound. -/
theorem exists_narrow {trees : List TypeTree}
    (narrow : ∀ tree ∈ trees, ∃ bound, tree.Narrow bound) :
    ∃ bound, ∀ tree ∈ trees, tree.Narrow bound := by
  induction trees with
  | nil => exact ⟨0, by simp⟩
  | cons tree trees ih =>
    obtain ⟨first, narrowTree⟩ := narrow tree (by simp)
    obtain ⟨rest, narrowTrees⟩ := ih fun tree mem => narrow tree (by simp [mem])
    refine ⟨first + rest, fun tree' mem => ?_⟩
    rcases List.mem_cons.1 mem with rfl | mem
    · exact narrowTree.mono (by omega)
    · exact (narrowTrees tree' mem).mono (by omega)

theorem narrow_object : object.Narrow bound := by
  simp [object, Narrow]

/-! ## All narrow types -/

section Enumeration

variable (scope : Scope) (names : List String) (bound : Nat)

/-- The narrow types without arguments over the names. -/
def simple : List TypeTree :=
  ((List.range (bound + 1)).flatMap fun n =>
      Primitive.all.map (primitive · n) ++ names.map (declared · n))
    ++ names.flatMap fun owner => (scope.parametersOf owner).map (parameter owner · 0)

/-- The narrow types over the names that nest at most as deeply as given. -/
def upTo : Nat → List TypeTree
  | 0 => simple scope names bound
  | depth + 1 => simple scope names bound ++ names.flatMap fun name =>
    (List.replicate (scope.parametersOf name).length (upTo depth)).sections.flatMap fun arguments =>
      (List.range (bound + 1)).map (applied name arguments)

variable {scope names bound}

theorem mem_upTo_of_mem_simple {tree : TypeTree} (mem : tree ∈ simple scope names bound)
    (depth : Nat) : tree ∈ upTo scope names bound depth := by
  cases depth with
  | zero => exact mem
  | succ depth => exact List.mem_append_left _ mem

/-- There are finitely many well-formed types that are narrow and nest at most
as deeply as given. -/
theorem mem_upTo (covers : ∀ name, (scope name).isSome → name ∈ names) {options : Options}
    {depth : Nat} {context : String} {tree : TypeTree} (wf : tree.WellFormed scope options context)
    (narrow : tree.Narrow bound) (deep : tree.depth ≤ depth) :
    tree ∈ upTo scope names bound depth := by
  induction tree generalizing depth with
  | primitive type n =>
    rw [Narrow] at narrow
    refine mem_upTo_of_mem_simple (List.mem_append_left _ (List.mem_flatMap.2 ⟨n, ?_, ?_⟩)) depth
    · exact List.mem_range.2 (Nat.lt_succ_of_le narrow)
    · exact List.mem_append_left _ (List.mem_map_of_mem (Primitive.mem_all type))
  | declared name n =>
    rw [WellFormed] at wf
    rw [Narrow] at narrow
    refine mem_upTo_of_mem_simple (List.mem_append_left _ (List.mem_flatMap.2 ⟨n, ?_, ?_⟩)) depth
    · exact List.mem_range.2 (Nat.lt_succ_of_le narrow)
    · exact List.mem_append_right _ (List.mem_map_of_mem (covers name wf.1))
  | applied name arguments n ih =>
    rw [WellFormed] at wf
    obtain ⟨⟨shape, known, fits⟩, _, _, _, wf⟩ := wf
    rw [Narrow] at narrow
    cases depth with
    | zero => simp [TypeTree.depth] at deep
    | succ depth =>
      have inside : arguments ∈ (List.replicate arguments.length
          (upTo scope names bound depth)).sections := by
        rw [List.mem_sections, List.forall₂_iff_get]
        refine ⟨by simp, fun i _ _ => ?_⟩
        rw [List.get_eq_getElem, List.get_eq_getElem, List.getElem_replicate]
        have mem : arguments[i] ∈ arguments := List.getElem_mem _
        exact ih _ mem (wf _ mem) (narrow.2 _ mem) (depth_argument_le mem deep)
      have arity : (scope.parametersOf name).length = arguments.length := by
        rw [Scope.parametersOf, known, Option.map_some, Option.getD_some, fits]
      rw [upTo, List.mem_append]
      right
      rw [List.mem_flatMap]
      refine ⟨name, covers name (by rw [known, Option.isSome_some]), ?_⟩
      rw [arity, List.mem_flatMap]
      exact ⟨arguments, inside, List.mem_map_of_mem (by simpa using Nat.lt_succ_of_le narrow.1)⟩
  | parameter owner name n =>
    rw [WellFormed] at wf
    obtain ⟨rfl, shape, known, mem⟩ := wf
    apply mem_upTo_of_mem_simple
    rw [Narrow] at narrow
    have known' : owner ∈ names := covers owner (by rw [known, Option.isSome_some])
    simp [simple, Scope.parametersOf, known, mem, narrow, known']

end Enumeration

end TypeTree

/-! ## Resolving -/

namespace Scope

variable {scope : Scope} {options : Options} {context signature : String}

/-- Whether the name refers to a generic parameter of the class-like. -/
def isParameter (scope : Scope) (context name : String) : Bool :=
  (Primitive.ofText? name).isNone && scope.declaresParameter context name

/-- Applying a generic class-like to narrow arguments asks for a narrow type and
answers with one. -/
theorem narrow_instantiate (scope : Scope) (options : Options) (base : String) {bound : Nat}
    {arguments : List TypeTree} (narrow : ∀ argument ∈ arguments, argument.Narrow bound) {n : Nat}
    (le : n ≤ bound) (signature : String) :
    ((scope.instantiate options base arguments signature).value.array n).Narrow bound
      ∧ (scope.instantiate options base arguments signature).Asks (TypeTree.Narrow bound) := by
  unfold Traced.Asks
  obtain ⟨value, asked⟩ | ⟨fitted, inside, value, asked⟩ :=
    scope.instantiate_cases options base arguments signature
  · rw [value, asked]
    simpa [TypeTree.array, TypeTree.Narrow] using le
  · have narrow' : ∀ tree ∈ fitted, tree.Narrow bound := by
      intro tree mem
      rcases inside tree mem with mem | rfl
      · exact narrow tree mem
      · exact TypeTree.narrow_object
    rw [value, asked]
    simp only [TypeTree.array, TypeTree.Narrow, List.mem_singleton, forall_eq, Nat.zero_add]
    exact ⟨⟨le, narrow'⟩, Nat.zero_le _, narrow'⟩

/-- A name refers to a narrow type, of which arrays are narrow if it is no
generic parameter. -/
theorem narrow_resolveName (name : String) {n : Nat}
    (isNone : scope.isParameter context name = true → n = 0) :
    ((scope.resolveName context signature name).value.array n).Narrow n := by
  unfold resolveName
  cases primitive : Primitive.ofText? name with
  | some primitive => simp [TypeTree.array, TypeTree.Narrow]
  | none =>
    dsimp only
    split
    · next declares => simp [isNone (by simp [isParameter, primitive, declares]), TypeTree.Narrow]
    · split <;> simp [TypeTree.object, TypeTree.array, TypeTree.Narrow]

theorem asks_resolveName {p : TypeTree → Prop} (name : String) :
    (scope.resolveName context signature name).Asks p := by
  unfold resolveName
  split
  · exact .pure _
  · split
    · exact .pure _
    · split
      · exact .pure _
      · exact (Traced.Asks.report _).bind (.pure _)

/-- Where no type argument is an array of a generic parameter, narrow types are
asked for. -/
theorem narrow_resolve {expr : TypeExpr}
    (unwrapped : expr.isUnwrapped (scope.isParameter context) = true) :
    (scope.resolve options context signature expr).Asks (fun tree => ∃ bound, tree.Narrow bound)
      ∧ (expr.isArrayOf (scope.isParameter context) = false →
        ∃ bound, (scope.resolve options context signature expr).value.Narrow bound) := by
  induction expr with
  | missing found dimension =>
    rw [resolve]
    exact ⟨(Traced.Asks.report _).bind (.pure _), fun _ => ⟨dimension, by
      simp [TypeTree.void, TypeTree.array, TypeTree.Narrow]⟩⟩
  | name name dimension =>
    rw [resolve]
    refine ⟨(asks_resolveName name).bind (.pure _), fun isOther => ⟨dimension, ?_⟩⟩
    refine narrow_resolveName name fun isParameter => ?_
    simpa [TypeExpr.isArrayOf, isParameter] using isOther
  | application name arguments unclosed? dimension ih =>
    rw [TypeExpr.isUnwrapped, TypeExpr.areUnwrapped_iff] at unwrapped
    have inside : ∀ argument ∈ (arguments.mapM (scope.resolve options context signature)).value,
        ∃ bound, argument.Narrow bound := by
      rw [Traced.value_mapM, List.forall_mem_map]
      exact fun expr mem => (ih expr mem (unwrapped expr mem).2).2 (unwrapped expr mem).1
    obtain ⟨bound, narrow⟩ := TypeTree.exists_narrow inside
    have narrow' : ∀ argument ∈ (arguments.mapM (scope.resolve options context signature)).value,
        argument.Narrow (bound + dimension) := fun tree mem =>
      (narrow tree mem).mono (Nat.le_add_right _ dimension)
    obtain ⟨value, asks⟩ := scope.narrow_instantiate options name narrow'
      (Nat.le_add_left dimension bound) signature
    rw [resolve, resolveAll_eq_mapM]
    refine ⟨.bind (.mapM fun expr mem => (ih expr mem (unwrapped expr mem).2).1)
      ((Traced.Asks.reportUnmet _ _).bind (.bind ?_ (.pure _))), fun _ => ⟨_, value⟩⟩
    exact fun tree mem => ⟨_, asks tree mem⟩

end Scope

/-! ## Substituting -/

namespace TypeTree

variable {scope : Scope} {options : Options} {bound : Nat} {base : String}
  {arguments : List (String × TypeTree)}

/-- Substituting narrow arguments in a narrow type asks for narrow types and
answers with one. -/
theorem narrow_substitute {tree : TypeTree} (wf : tree.WellFormed scope options base)
    (narrow : tree.Narrow bound)
    (inside : ∀ name ∈ scope.parametersOf base, ∃ argument,
      arguments.lookup name = some argument ∧ argument.Narrow bound) :
    (tree.substitute scope options arguments).value.Narrow bound
      ∧ (tree.substitute scope options arguments).Asks (Narrow bound) := by
  refine substitute_keeps (fun tree => tree.WellFormed scope options base ∧ tree.Narrow bound) ?_
    (fun _ _ => And.right) (fun _ _ => And.right) ?_ ?_ ⟨wf, narrow⟩
  · intro name trees n both tree mem
    rw [Narrow] at both
    exact ⟨both.1.inner tree mem, both.2.2 tree mem⟩
  · intro owner name n both
    obtain ⟨argument, looked, narrowArgument⟩ := inside name both.1.mem_parametersOf
    rw [Narrow] at both
    rwa [looked, Option.getD_some, both.2, array_zero]
  · intro name trees n substituted signature both _ all
    rw [Narrow] at both
    exact scope.narrow_instantiate options _ all both.2.1 _

end TypeTree

/-- Filling in a narrow instantiation asks for narrow types if those that the
base is made of are instantiated narrowly. -/
theorem Scope.narrow_of_mem_requests {scope : Scope} {options : Options} {bound : Nat}
    {content : String → NamedClass} {context : String} {tree inner : TypeTree}
    (types : ∀ name, (scope name).isSome → ∀ type ∈ (content name).types,
      type.WellFormed scope options name ∧ ∀ base trees n, type = .applied base trees n →
        (TypeTree.applied base trees 0).Narrow bound)
    (wf : tree.WellFormed scope options context) (narrow : tree.Narrow bound)
    (mem : inner ∈ requests (scope.eventsOf options content tree)) :
    inner.WellFormed scope options context ∧ inner.Narrow bound := by
  obtain ⟨name, trees, n, rfl, type, mem, asked⟩ := exists_of_mem_requests mem
  obtain ⟨wfType, applied⟩ := types name wf.isSome type mem
  refine ⟨(TypeTree.wellFormed_substitute wfType fun _ => exists_argument wf wf.inner).2 inner
    asked, ?_⟩
  cases type with
  | applied base trees' n' =>
    -- the dimensions of the type itself are not asked for
    have same : requests ((TypeTree.applied base trees' n').substitute scope options
          ((scope.parametersOf name).zip trees)).events
        = requests ((TypeTree.applied base trees' 0).substitute scope options
          ((scope.parametersOf name).zip trees)).events := by
      rw [TypeTree.substitute_applied, TypeTree.substitute_applied]
      rfl
    have wfElement : (TypeTree.applied base trees' 0).WellFormed scope options name := by
      rwa [← TypeTree.wellFormed_array (n := n'), TypeTree.array, Nat.zero_add]
    rw [TypeTree.Narrow] at narrow
    rw [same] at asked
    exact (TypeTree.narrow_substitute wfElement (applied base trees' n' rfl)
      fun _ => exists_argument wf narrow.2).2 inner asked
  | primitive | declared | parameter =>
    rw [TypeTree.substitute] at asked
    cases asked

end ClassModel
