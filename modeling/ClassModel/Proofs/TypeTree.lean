import ClassModel.Library
import ClassModel.Options
import Mathlib.Data.List.Basic

/-!
# ClassModel.Proofs.TypeTree

Types in full: a `TypeTree` spells a type out by names, so that it means the
same in every library that knows the names. The key, the signature, the
nesting and the first generic parameter of a type are read off its tree.

A tree is well formed for a `Scope`, which says what is known about the
declared names, and for the class-like in whose signatures it may stand: names
are declared, generic class-likes have all their arguments and nest no deeper
than the limit, and every generic parameter belongs to that class-like.
-/

namespace ClassModel

/-- A type, spelled out by names, under any number of array dimensions. -/
inductive TypeTree where
  | primitive (type : Primitive) (dimension : Nat)
  /-- A class-like without arguments. -/
  | declared (name : String) (dimension : Nat)
  /-- An instantiation of the generic class-like of the name. -/
  | applied (name : String) (arguments : List TypeTree) (dimension : Nat)
  /-- A generic parameter, by its own name and the one of its owner. -/
  | parameter (owner name : String) (dimension : Nat)
  deriving Inhabited

/-- What a scope knows about a declared class-like. -/
structure Shape where
  /-- The word that declares it. -/
  keyword : Keyword
  /-- The names of its generic parameters. -/
  parameters : List String
  deriving DecidableEq

/-- The declared class-likes by their names. -/
abbrev Scope := String → Option Shape

namespace TypeTree

/-- What holds of every type without arguments, and of an instantiation if it
holds of the arguments, holds of all types. -/
@[elab_as_elim, induction_eliminator]
theorem induction {motive : TypeTree → Prop}
    (primitive : ∀ type dimension, motive (.primitive type dimension))
    (declared : ∀ name dimension, motive (.declared name dimension))
    (applied : ∀ name arguments dimension, (∀ argument ∈ arguments, motive argument) →
      motive (.applied name arguments dimension))
    (parameter : ∀ owner name dimension, motive (.parameter owner name dimension)) :
    ∀ tree, motive tree
  | .primitive type dimension => primitive type dimension
  | .declared name dimension => declared name dimension
  | .applied name arguments dimension =>
    applied name arguments dimension fun argument _ =>
      induction primitive declared applied parameter argument
  | .parameter owner name dimension => parameter owner name dimension

/-- Arrays of the type, in the given number of dimensions. -/
def array : TypeTree → Nat → TypeTree
  | primitive type m, n => primitive type (m + n)
  | declared name m, n => declared name (m + n)
  | applied name arguments m, n => applied name arguments (m + n)
  | parameter owner name m, n => parameter owner name (m + n)

@[simp] theorem array_zero (tree : TypeTree) : tree.array 0 = tree := by
  cases tree <;> rfl

theorem array_array (tree : TypeTree) (m n : Nat) :
    (tree.array m).array n = tree.array (m + n) := by
  cases tree <;> simp [array, Nat.add_assoc]

/-- The text that tells types apart. -/
def key : TypeTree → String
  | primitive type dimension => Library.bracketed type.text dimension
  | declared name dimension => Library.bracketed name dimension
  | applied name arguments dimension =>
    Library.bracketed (Library.applied name (arguments.map key)) dimension
  | parameter owner name dimension => Library.bracketed (owner ++ "." ++ name) dimension

/-- The type as it is written. -/
def signature : TypeTree → String
  | primitive type dimension => Library.bracketed type.text dimension
  | declared name dimension => Library.bracketed name dimension
  | applied name arguments dimension =>
    Library.bracketed (Library.applied name (arguments.map signature)) dimension
  | parameter _ name dimension => Library.bracketed name dimension

/-- The nesting of instantiations. -/
def depth : TypeTree → Nat
  | primitive _ _ | declared _ _ | parameter _ _ _ => 0
  | applied _ arguments _ => 1 + (arguments.map depth).foldl max 0

/-- The owners of the generic parameters in the type, from left to right. -/
def owners : TypeTree → List String
  | primitive _ _ | declared _ _ => []
  | applied _ arguments _ => arguments.flatMap owners
  | parameter owner _ _ => [owner]

/-- The generic parameters in the type by owner and name, from left to right. -/
def parameters : TypeTree → List (String × String)
  | primitive _ _ | declared _ _ => []
  | applied _ arguments _ => arguments.flatMap parameters
  | parameter owner name _ => [(owner, name)]

/-- The type makes sense where the names of the scope are known, in the
signatures of the class-like of the given name. -/
def WellFormed (scope : Scope) (options : Options) (context : String) : TypeTree → Prop
  | primitive _ _ => True
  | declared name _ => (scope name).isSome ∧ Primitive.ofText? name = none
  | applied name arguments dimension =>
    (∃ shape, scope name = some shape ∧ shape.parameters.length = arguments.length)
      ∧ Primitive.ofText? name = none
      ∧ arguments ≠ []
      ∧ (applied name arguments dimension).depth ≤ options.maxSpecializationDepth
      ∧ ∀ argument ∈ arguments, argument.WellFormed scope options context
  | parameter owner name _ =>
    owner = context ∧ ∃ shape, scope owner = some shape ∧ name ∈ shape.parameters

/-! ## Nesting -/

theorem le_foldl_max (bound : Nat) (depths : List Nat) : bound ≤ depths.foldl max bound := by
  induction depths generalizing bound with
  | nil => exact Nat.le_refl _
  | cons depth depths ih => exact Nat.le_trans (Nat.le_max_left ..) (ih _)

theorem mem_le_foldl_max {depth bound : Nat} {depths : List Nat} (mem : depth ∈ depths) :
    depth ≤ depths.foldl max bound := by
  induction depths generalizing bound with
  | nil => simp at mem
  | cons first depths ih =>
    rcases List.mem_cons.1 mem with rfl | mem
    · exact Nat.le_trans (Nat.le_max_right ..) (le_foldl_max _ _)
    · exact ih mem

/-- An argument nests less deeply than the instantiation. -/
theorem depth_argument_lt {name : String} {arguments : List TypeTree} {dimension : Nat}
    {argument : TypeTree} (mem : argument ∈ arguments) :
    argument.depth < (applied name arguments dimension).depth := by
  have : argument.depth ≤ (arguments.map depth).foldl max 0 :=
    mem_le_foldl_max (List.mem_map_of_mem mem)
  rw [depth]
  omega

theorem depth_argument_le {name : String} {arguments : List TypeTree} {dimension bound : Nat}
    {argument : TypeTree} (mem : argument ∈ arguments)
    (within : (applied name arguments dimension).depth ≤ bound + 1) : argument.depth ≤ bound :=
  Nat.le_of_lt_succ (Nat.lt_of_lt_of_le (depth_argument_lt mem) within)

@[simp] theorem parameters_array (tree : TypeTree) (n : Nat) :
    (tree.array n).parameters = tree.parameters := by
  cases tree <;> simp [array, parameters]

/-- The owners are those of the generic parameters. -/
theorem owners_eq_map (tree : TypeTree) : tree.owners = tree.parameters.map (·.1) := by
  induction tree with
  | applied name arguments n ih =>
    rw [owners, parameters, List.map_flatMap]
    exact List.flatMap_congr ih
  | primitive | declared | parameter => simp [owners, parameters]

/-! ## Well-formed types -/

section WellFormed

variable {scope : Scope} {options : Options} {context : String}

@[simp] theorem wellFormed_array {tree : TypeTree} {n : Nat} :
    (tree.array n).WellFormed scope options context ↔ tree.WellFormed scope options context := by
  cases tree <;> simp [array, WellFormed, depth]

theorem WellFormed.depth_le {name : String} {arguments : List TypeTree} {dimension : Nat}
    (wf : (applied name arguments dimension).WellFormed scope options context) :
    (applied name arguments dimension).depth ≤ options.maxSpecializationDepth := by
  rw [WellFormed] at wf
  exact wf.2.2.2.1

/-- All generic parameters of a well-formed type belong to the class-like in
whose signatures it stands. -/
theorem WellFormed.eq_of_mem_owners {tree : TypeTree}
    (wf : tree.WellFormed scope options context) {owner : String} (mem : owner ∈ tree.owners) :
    owner = context := by
  induction tree with
  | primitive type dimension => simp [owners] at mem
  | declared name dimension => simp [owners] at mem
  | applied name arguments dimension ih =>
    rw [owners, List.mem_flatMap] at mem
    rw [WellFormed] at wf
    obtain ⟨argument, argumentMem, mem⟩ := mem
    exact ih argument argumentMem (wf.2.2.2.2 argument argumentMem) mem
  | parameter owner' name dimension =>
    rw [WellFormed] at wf
    rw [owners, List.mem_singleton] at mem
    exact mem.trans wf.1

end WellFormed

end TypeTree

end ClassModel
