import ClassModel.Proofs.Reference

/-!
# ClassModel.Proofs.Limited

Types under a limit of nesting. An instantiation that nests too deeply is taken
without its arguments, and this is reported. So every type comes to a type within
the limit (`TypeTree.limited`), and with the reports of what was too deep on the way
(`TypeTree.tooDeep`). A type within the limit stays as it is.
-/

namespace ClassModel.TypeTree

variable (options : Options)

/-- What the type comes to: an instantiation that is too deep loses its arguments. -/
def limited : TypeTree → TypeTree
  | primitive type n => primitive type n
  | declared name n => declared name n
  | applied name arguments n =>
    if options.maxSpecializationDepth < (applied name (arguments.map limited) n).depth then
      declared name n
    else applied name (arguments.map limited) n
  | parameter owner name n => parameter owner name n

/-- The reports of instantiations that are too deep, from the inside out. -/
def tooDeep : TypeTree → List NamedDiagnostic
  | primitive _ _ | declared _ _ | parameter _ _ _ => []
  | applied name arguments n => arguments.flatMap tooDeep
      ++ if options.maxSpecializationDepth
          < (applied name (arguments.map (limited options)) n).depth then
        [⟨.depthExceeded (applied name (arguments.map (limited options)) 0).signature
          options.maxSpecializationDepth, []⟩]
      else []

variable {options}

/-- A type within the limit stays as it is. -/
theorem limited_eq_self {tree : TypeTree} (within : tree.depth ≤ options.maxSpecializationDepth) :
    tree.limited options = tree := by
  induction tree with
  | primitive | declared | parameter => rw [limited]
  | applied name arguments n ih =>
    have same : arguments.map (limited options) = arguments := by
      refine (List.map_congr_left fun argument mem => ih argument mem ?_).trans (List.map_id _)
      exact Nat.le_trans (Nat.le_of_lt (depth_argument_lt mem)) within
    rw [limited, same, if_neg (Nat.not_lt.2 within)]

theorem tooDeep_eq_nil {tree : TypeTree} (within : tree.depth ≤ options.maxSpecializationDepth) :
    tree.tooDeep options = [] := by
  induction tree with
  | primitive | declared | parameter => rw [tooDeep]
  | applied name arguments n ih =>
    have within' (argument : TypeTree) (mem : argument ∈ arguments) :
        argument.depth ≤ options.maxSpecializationDepth :=
      Nat.le_trans (Nat.le_of_lt (depth_argument_lt mem)) within
    have same : arguments.map (limited options) = arguments :=
      (List.map_congr_left fun argument mem => limited_eq_self (within' argument mem)).trans
        (List.map_id _)
    have none : arguments.flatMap (tooDeep options) = [] :=
      List.flatMap_eq_nil_iff.2 fun argument mem => ih argument mem (within' argument mem)
    rw [tooDeep, same, none, if_neg (Nat.not_lt.2 within)]
    rfl

/-- The class-like that is referred to stays the same. -/
@[simp] theorem className?_limited (tree : TypeTree) :
    (tree.limited options).className? = tree.className? := by
  cases tree with
  | primitive | declared | parameter => rw [limited]
  | applied name arguments n =>
    rw [limited]
    split <;> cases n <;> rfl

@[simp] theorem isBound_limited (tree : TypeTree) :
    (tree.limited options).isBound = tree.isBound := by
  cases tree with
  | primitive | declared | parameter => rw [limited]
  | applied name arguments n =>
    rw [limited]
    split <;> cases n <;> rfl

end ClassModel.TypeTree
