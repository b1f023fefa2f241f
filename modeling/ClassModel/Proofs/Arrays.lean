import ClassModel.Proofs.Keyed
import ClassModel.Proofs.Substituted
import Mathlib.Logic.Function.Iterate

/-!
# ClassModel.Proofs.Arrays

Arrays of arrays. The same array could have many forms: one dimension after
another, several at once, or none at all. Types that are read and types that are
substituted in are in normal form, in which an array holds no array and has a
dimension, so in a compiled library types that are written alike are the same
(`flattensArrays_of_compile`).
-/

namespace ClassModel

/-! ## Steps of a compilation -/

namespace Build

variable {α β : Type}

/-- Whatever the step answers, if it does, has the property. -/
structure Ensures (step : Build α) (property : α → Prop) : Prop where
  of_run {state after : BuildState} {answer : α} : step.run.run state = (.ok answer, after) →
    property answer

theorem Ensures.pure {property : α → Prop} {answer : α} (holds : property answer) :
    (Pure.pure answer : Build α).Ensures property where
  of_run run := by
    cases run
    exact holds

theorem Ensures.bind {property : α → Prop} {property' : β → Prop} {step : Build α}
    {next : α → Build β} (first : step.Ensures property)
    (later : ∀ answer, property answer → (next answer).Ensures property') :
    (step >>= next).Ensures property' where
  of_run run := by
    rw [run_bind] at run
    split at run
    · next found _ ran => exact (later found (first.of_run ran)).of_run run
    · cases run

/-- What comes last ensures what is answered. -/
theorem Ensures.last {property : β → Prop} {step : Build α} {next : α → Build β}
    (later : ∀ answer, (next answer).Ensures property) : (step >>= next).Ensures property :=
  Ensures.bind ⟨fun _ => trivial⟩ fun answer (_ : True) => later answer

theorem ensures_instantiate (options : Options) (base : ClassId) (arguments : List Ty)
    (context? : Option ClassId) (signature : String) :
    (instantiate options base arguments context? signature).Ensures Ty.IsNormal := by
  refine .last fun baseClass => .last fun arguments => ?_
  split
  · exact .pure trivial
  refine .last fun library => ?_
  dsimp only
  split
  · exact .pure trivial
  split
  · exact .last fun _ => .pure trivial
  split
  · exact ⟨fun run => by cases run⟩
  · exact .last fun _ => .pure trivial

/-- A name refers to a type in normal form. -/
theorem ensures_resolveName (context : ClassId) (signature name : String) :
    (resolveName context signature name).Ensures Ty.IsNormal := by
  refine .last fun library => ?_
  split
  · exact .pure trivial
  · exact .pure trivial
  · exact .pure trivial
  · refine .last fun _ => .pure ?_
    unfold Library.objectType
    split <;> trivial

/-- Types that are read are in normal form. -/
theorem ensures_resolve (options : Options) (context : ClassId) (signature : String)
    (written : TypeExpr) : (resolve options context signature written).Ensures Ty.IsNormal := by
  cases written with
  | missing found n =>
    rw [resolve]
    exact .last fun _ => .pure (Ty.isNormal_array rfl n)
  | name name n =>
    rw [resolve]
    exact (ensures_resolveName ..).bind fun _ normal => .pure (normal.array n)
  | application name arguments unclosed? n =>
    rw [resolve]
    refine .last fun _ => .last fun _ => .last fun library => ?_
    split
    · exact (ensures_instantiate ..).bind fun _ normal => .pure (normal.array n)
    · exact (ensures_resolveName ..).bind fun _ normal => .pure (normal.array n)

section Substitution

variable {options : Options} {substitution : Substitution}
  (normal : ∀ entry ∈ substitution, entry.2.IsNormal)

include normal

theorem ensures_substituteFrom (inType? : Option (Ty → Build Ty)) (type : Ty) :
    (substituteFrom options substitution inType? type).Ensures Ty.IsNormal := by
  induction type with
  | primitive primitive => exact .pure trivial
  | classLike id =>
    refine .last fun classLike => ?_
    split
    · refine .last fun arguments => ?_
      split
      · exact .pure trivial
      · exact .last fun _ => ensures_instantiate ..
    · exact .pure trivial
  | parameter id =>
    refine .pure ?_
    cases found : substitution.lookup id with
    | none => trivial
    | some type =>
      obtain ⟨before, after, split, _⟩ := List.lookup_eq_some_iff.1 found
      exact normal (id, type) (by rw [split]; simp)
  | arrayOf item n ih =>
    rw [substituteFrom]
    exact ih.bind fun _ normal => .pure (normal.array n)

/-- Substituting types in normal form leads to types in normal form. -/
theorem ensures_substitute (type : Ty) :
    (substitute options substitution type).Ensures Ty.IsNormal := by
  refine .last fun library => ?_
  cases library.depthOf type <;> exact ensures_substituteFrom normal ..

end Substitution

end Build

/-! ## How types are written -/

/-- A type as it is written, with one pair of brackets behind another. -/
inductive Spelling where
  | primitive (type : Primitive)
  | declared (name : String)
  | applied (name : String) (arguments : List Spelling)
  | parameter (owner name : String)
  | brackets (item : Spelling)

namespace Spelling

/-- What holds of every type, if it holds of the arguments or of the item, holds of all
types. -/
@[elab_as_elim, induction_eliminator]
theorem induction {motive : Spelling → Prop} (primitive : ∀ type, motive (.primitive type))
    (declared : ∀ name, motive (.declared name))
    (applied : ∀ name arguments, (∀ argument ∈ arguments, motive argument) →
      motive (.applied name arguments))
    (parameter : ∀ owner name, motive (.parameter owner name))
    (brackets : ∀ item, motive item → motive (.brackets item)) : ∀ spelling, motive spelling
  | .primitive type => primitive type
  | .declared name => declared name
  | .applied name arguments =>
    applied name arguments fun argument _ =>
      induction primitive declared applied parameter brackets argument
  | .parameter owner name => parameter owner name
  | .brackets item =>
    brackets item (induction primitive declared applied parameter brackets item)

/-- The type, where the pairs of brackets are counted. -/
def tree : Spelling → TypeTree
  | primitive type => .primitive type 0
  | declared name => .declared name 0
  | applied name arguments => .applied name (arguments.map tree) 0
  | parameter owner name => .parameter owner name 0
  | brackets item => item.tree.array 1

theorem tree_brackets (n : Nat) (item : Spelling) :
    (Spelling.brackets^[n] item).tree = item.tree.array n := by
  induction n with
  | zero => rw [TypeTree.array_zero, Function.iterate_zero_apply]
  | succ n ih => rw [Function.iterate_succ_apply', tree, ih, TypeTree.array_array]

end Spelling

namespace TypeTree

/-- The type, as it is written. -/
def spelling : TypeTree → Spelling
  | primitive type n => Spelling.brackets^[n] (.primitive type)
  | declared name n => Spelling.brackets^[n] (.declared name)
  | applied name arguments n => Spelling.brackets^[n] (.applied name (arguments.map spelling))
  | parameter owner name n => Spelling.brackets^[n] (.parameter owner name)

theorem spelling_array (tree : TypeTree) : (tree.array 1).spelling = .brackets tree.spelling := by
  cases tree <;> rw [array, spelling, spelling, Function.iterate_succ_apply']

end TypeTree

theorem Spelling.spelling_tree (spelling : Spelling) : spelling.tree.spelling = spelling := by
  induction spelling with
  | primitive type => rw [tree, TypeTree.spelling, Function.iterate_zero_apply]
  | declared name => rw [tree, TypeTree.spelling, Function.iterate_zero_apply]
  | parameter owner name => rw [tree, TypeTree.spelling, Function.iterate_zero_apply]
  | applied name arguments ih =>
    have all : (arguments.map tree).map TypeTree.spelling = arguments := by
      rw [List.map_map]
      exact (List.map_congr_left ih).trans (List.map_id _)
    rw [tree, TypeTree.spelling, all, Function.iterate_zero_apply]
  | brackets item ih => rw [tree, TypeTree.spelling_array, ih]

namespace Library

/-- The type of the library is written in this way. Each dimension of an array
is one more pair of brackets behind the items, whatever these are. -/
inductive IsWrittenAs (library : Library) : Ty → Spelling → Prop where
  | primitive (type : Primitive) : IsWrittenAs library (.primitive type) (.primitive type)
  | declared {id : ClassId} {classLike : ClassLike} : library.IsDeclared id classLike →
    IsWrittenAs library (.classLike id) (.declared classLike.identifier)
  | applied {id : ClassId} {classLike : ClassLike} {specialization : Specialization}
      {spellings : List Spelling} :
    library.classLike? id = some classLike → classLike.specialization? = some specialization →
      specialization.arguments.length = spellings.length →
        (∀ {argument spelling}, (argument, spelling) ∈ specialization.arguments.zip spellings →
          IsWrittenAs library argument spelling) →
        IsWrittenAs library (.classLike id) (.applied classLike.identifier spellings)
  | parameter {parameter : ParameterId} {id : ClassId} {classLike : ClassLike} {name : String} :
    library.IsDeclared id classLike → library.parameterNamed? id name = some parameter →
      IsWrittenAs library (.parameter parameter) (.parameter classLike.identifier name)
  | arrayOf {item : Ty} {spelling : Spelling} (n : Nat) : IsWrittenAs library item spelling →
    IsWrittenAs library (.arrayOf item n) (Spelling.brackets^[n] spelling)

variable {library : Library} {scope : Scope} {options : Options}

theorem IsWrittenAs.array {type : Ty} {spelling : Spelling}
    (written : library.IsWrittenAs type spelling) (plain : type.isArray = false) (n : Nat) :
    library.IsWrittenAs (type.array n) (Spelling.brackets^[n] spelling) := by
  rcases Nat.eq_zero_or_pos n with rfl | positive
  · exact written
  · rw [Ty.array_of_isArray_eq_false plain positive]
    exact .arrayOf n written

/-- What denotes a tree is written as the tree is. -/
theorem Denotes.isWrittenAs {type : Ty} {tree : TypeTree} (denotes : library.Denotes type tree) :
    library.IsWrittenAs type tree.spelling := by
  induction tree generalizing type with
  | primitive primitive n =>
    obtain rfl := denotes
    rw [TypeTree.spelling]
    exact (IsWrittenAs.primitive primitive).array rfl n
  | declared name n =>
    obtain ⟨id, classLike, rfl, declared, rfl⟩ := denotes
    rw [TypeTree.spelling]
    exact (IsWrittenAs.declared declared).array rfl n
  | parameter owner name n =>
    obtain ⟨parameter, id, classLike, rfl, declared, rfl, named⟩ := denotes
    rw [TypeTree.spelling]
    exact (IsWrittenAs.parameter declared named).array rfl n
  | applied name trees n ih =>
    obtain ⟨id, classLike, specialization, rfl, known, rfl, specialized, all⟩ := denotes
    rw [denotesAll_iff] at all
    have each : List.Forall₂ library.IsWrittenAs specialization.arguments
        (trees.map TypeTree.spelling) := by
      rw [List.forall₂_map_right_iff, List.forall₂_iff_zip]
      obtain ⟨length, denotes⟩ := List.forall₂_iff_zip.1 all
      exact ⟨length, fun mem => ih _ (List.of_mem_zip mem).2 (denotes mem)⟩
    obtain ⟨length, written⟩ := List.forall₂_iff_zip.1 each
    rw [TypeTree.spelling]
    exact (IsWrittenAs.applied known specialized length written).array rfl n

/-- A type in normal form denotes what it is written as. In an array of arrays
the dimensions would be in the wrong places. -/
theorem IsWrittenAs.denotes (coherent : library.Coherent scope options) {type : Ty}
    {spelling : Spelling} (written : library.IsWrittenAs type spelling) (normal : type.IsNormal) :
    library.Denotes type spelling.tree := by
  induction written with
  | primitive type => rw [Spelling.tree]; rfl
  | declared declared => rw [Spelling.tree]; exact ⟨_, _, rfl, declared, rfl⟩
  | parameter declared named =>
    rw [Spelling.tree]
    exact ⟨_, _, _, rfl, declared, rfl, named⟩
  | @applied id classLike specialization spellings known specialized length _ ih =>
    have found : library.specialization? id = some specialization := by
      rw [specialization?, known, Option.bind_some, specialized]
    have all : List.Forall₂ library.Denotes specialization.arguments
        (spellings.map Spelling.tree) := by
      rw [List.forall₂_map_right_iff, List.forall₂_iff_zip]
      refine ⟨length, fun mem => ih mem ?_⟩
      exact (coherent.exists_denotes_argument found (List.of_mem_zip mem).1).elim
        fun _ => Denotes.isNormal
    rw [Spelling.tree]
    exact ⟨id, classLike, specialization, rfl, known, rfl, specialized, denotesAll_iff.2 all⟩
  | @arrayOf item spelling n _ ih =>
    have plain : item.IsNormal := by
      cases item with
      | arrayOf => cases normal.1
      | primitive | classLike | parameter => trivial
    rw [Spelling.tree_brackets, ← Ty.array_of_isArray_eq_false normal.1 normal.2]
    exact (ih plain).array n

/-- Types in normal form that are written alike are the same. -/
theorem Coherent.isWrittenAs_inj (coherent : library.Coherent scope options) {type type' : Ty}
    {spelling : Spelling} (normal : type.IsNormal) (normal' : type'.IsNormal)
    (written : library.IsWrittenAs type spelling)
    (written' : library.IsWrittenAs type' spelling) : type = type' :=
  coherent.denotes_inj (written.denotes coherent normal) (written'.denotes coherent normal')

/-- What denotes something is written in one way. -/
theorem Coherent.existsUnique_isWrittenAs (coherent : library.Coherent scope options) {type : Ty}
    {tree : TypeTree} (denotes : library.Denotes type tree) :
    ∃! spelling, library.IsWrittenAs type spelling := by
  refine ⟨tree.spelling, denotes.isWrittenAs, fun spelling written => ?_⟩
  have same := denotes.unique coherent.toDeclares (written.denotes coherent denotes.isNormal)
  rw [same, spelling.spelling_tree]

/-! ## In a library -/

/-- The types of an instantiation are those of its base, one by one, with the substituted
ones in place of the generic parameters. -/
theorem IsSubstitutedClass.types {substituted? : Ty → Option Ty} {base classLike : ClassLike}
    (substituted : library.IsSubstitutedClass substituted? base classLike) :
    List.Forall₂ (fun type type' => substituted? type = some type') base.types classLike.types := by
  refine List.rel_append (List.rel_append ?_ ?_) ?_
  · rw [List.forall₂_map_left_iff, List.forall₂_map_right_iff]
    exact List.rel_append (Related.toList substituted.superclass?) substituted.interfaces
  · refine List.rel_flatMap substituted.methods fun method method' substituted => ?_
    refine List.rel_append (Related.toList substituted.returnType?) ?_
    rw [List.forall₂_map_left_iff, List.forall₂_map_right_iff]
    exact substituted.formals.imp fun _ _ substituted => substituted.type
  · rw [List.forall₂_map_left_iff, List.forall₂_map_right_iff]
    exact substituted.attributes.imp fun _ _ substituted => substituted.type

/-- In the library arrays are in normal form, so each type is written in one way, and types that
are written alike are the same. -/
structure FlattensArrays (library : Library) (options : Options) : Prop where
  isNormal {type : Ty} : library.Occurs type → type.IsNormal
  existsUnique {type : Ty} : library.Occurs type → ∃! spelling, library.IsWrittenAs type spelling
  eq_of_isWrittenAs {type type' : Ty} {spelling : Spelling} : library.Occurs type →
    library.Occurs type' → library.IsWrittenAs type spelling →
      library.IsWrittenAs type' spelling → type = type'
  /-- The brackets behind a generic parameter are added to those of the argument. -/
  substituted?_array (substitution : Substitution) (type : Ty) (n : Nat) :
    library.substituted? options substitution (type.array n)
      = (library.substituted? options substitution type).map (·.array n)
  instantiated {id : ClassId} {specialization : Specialization} :
    library.specialization? id = some specialization → ∃ base classLike,
      library.IsDeclared specialization.base base ∧ library.classLike? id = some classLike
        ∧ List.Forall₂ (fun type type' => library.substituted? options
            (base.genericParameters.zip specialization.arguments) type = some type')
          base.types classLike.types

end Library

/-- Making arrays adds up dimensions, and passes through substitution. Reading types, making
arrays of types and substituting in types lead to types in normal form. -/
structure AddsDimensions : Prop where
  array_array (type : Ty) (m n : Nat) : (type.array m).array n = type.array (m + n)
  isNormal_array {type : Ty} : type.IsNormal → ∀ n, (type.array n).IsNormal
  substitute_array (options : Options) (substitution : Substitution) (type : Ty) (n : Nat) :
    Build.substitute options substitution (type.array n)
      = (·.array n) <$> Build.substitute options substitution type
  resolve (options : Options) (context : ClassId) (signature : String) (written : TypeExpr) :
    (Build.resolve options context signature written).Ensures Ty.IsNormal
  substitute (options : Options) {substitution : Substitution} :
    (∀ entry ∈ substitution, entry.2.IsNormal) → ∀ type,
      (Build.substitute options substitution type).Ensures Ty.IsNormal

theorem addsDimensions : AddsDimensions where
  array_array := Ty.array_array
  isNormal_array := Ty.IsNormal.array
  substitute_array := Build.substitute_array
  resolve := Build.ensures_resolve
  substitute _ := Build.ensures_substitute

/-- In every library that a compilation returns, arrays are in normal form, and types that
are written alike are the same. Dimensions are added up, also where an array takes the place
of a generic parameter. -/
theorem flattensArrays_of_compile {declarations : List Declaration} {options : Options}
    {budget : Nat} {library : Library}
    (returned : (compile declarations options budget).result = .ok library) :
    AddsDimensions ∧ library.FlattensArrays options := by
  obtain ⟨names, before, compiled, marked⟩ := exists_compiled returned
  have coherent := marked.revises.coherent compiled.coherent
  have isNormal {type : Ty} (occurs : library.Occurs type) : type.IsNormal := by
    obtain ⟨_, _, means⟩ := compiled.exists_means_of_marked marked occurs
    exact means.denotes.isNormal
  refine ⟨addsDimensions, ?_⟩
  exact {
    isNormal := isNormal
    existsUnique := fun occurs => by
      obtain ⟨_, _, means⟩ := compiled.exists_means_of_marked marked occurs
      exact coherent.existsUnique_isWrittenAs means.denotes
    eq_of_isWrittenAs := fun occurs occurs' =>
      coherent.isWrittenAs_inj (isNormal occurs) (isNormal occurs')
    substituted?_array := library.substituted?_array options
    instantiated := fun {id specialization} found => by
      rw [marked.specialization?] at found
      obtain ⟨classLike, known, specialized⟩ := Library.specialization?_eq_some found
      obtain ⟨base, declared, _, _, substituted⟩ :=
        compiled.coherent.isSubstitutedClass_of_isComplete compiled.realizes
          (fun _ _ => compiled.complete) known specialized
      refine ⟨base.mark (before.marks specialization.base), classLike.mark (before.marks id),
        ⟨?_, declared.2⟩, ?_, ?_⟩
      · rw [marked.classLike?, declared.1, Option.map_some]
      · rw [marked.classLike?, known, Option.map_some]
      · rw [Library.types_mark, Library.types_mark, marked.substituted?]
        exact substituted.types }

/-! ## A sample -/

/-- A generic class with an array of its parameter, of which an array is made in a
subclass. -/
def Declaration.racks : List Declaration :=
  [{ signature := "class Rack<T>", attributes := ["T[] items"] },
   { signature := "class Shelf extends Rack<int[]>" }]

/-- What the sample is compiled to: there are arrays of arrays in the instantiation. -/
structure Library.HasRacks (library : Library) : Prop where
  arguments : (library.specialization? ⟨10⟩).map (·.arguments) = some [.arrayOf (.primitive .int) 1]
  items : (library.classLike? ⟨10⟩).map (·.types)
    = some [.classLike ⟨0⟩, .arrayOf (.primitive .int) 2]

instance (library : Library) : Decidable library.HasRacks :=
  decidable_of_iff
    ((library.specialization? ⟨10⟩).map (·.arguments) = some [.arrayOf (.primitive .int) 1]
      ∧ (library.classLike? ⟨10⟩).map (·.types)
        = some [.classLike ⟨0⟩, .arrayOf (.primitive .int) 2])
    ⟨fun ⟨arguments, items⟩ => ⟨arguments, items⟩, fun ⟨arguments, items⟩ => ⟨arguments, items⟩⟩

theorem flattensArrays_racks : ∃ library,
    (compile Declaration.racks {} 2).result = .ok library ∧ library.HasRacks
      ∧ AddsDimensions ∧ library.FlattensArrays {} := by
  obtain ⟨library, returned, _, hasRacks⟩ := exists_of_check (compile Declaration.racks {} 2)
    (fun library => decide library.HasRacks) (by decide +kernel)
  exact ⟨library, returned, of_decide_eq_true hasRacks, flattensArrays_of_compile returned⟩

end ClassModel
