import ClassModel.Proofs.Printed
import ClassModel.Proofs.Scoped
import ClassModel.Proofs.Signature

/-!
# ClassModel.Proofs.RoundTrip

Types can be read back (`readType_signatureOf`). The text of a type without
generic parameters is read as the type again, in the signatures of every
class-like whose generic parameters have other names. Nothing is reported and
nothing changes: at each nesting of arguments the instantiation is found in the
cache, whatever it was created for.
-/

namespace ClassModel

/-! ## Names -/

/-- The names of the scope are read as identifiers. -/
structure Scope.HasWords (scope : Scope) : Prop where
  identifier {name : String} {shape : Shape} : scope name = some shape → IsWord name
  parameter {name parameter : String} {shape : Shape} : scope name = some shape →
    parameter ∈ shape.parameters → IsWord parameter

theorem hasWords_scopeOf (declarations : List Declaration) :
    (scopeOf declarations).HasWords where
  identifier known := by
    obtain ⟨source, mem, _⟩ := exists_mem_significant known
    exact isWord_of_mem_significant mem
  parameter known mem := by
    obtain ⟨source, _, all⟩ := exists_mem_significant known
    exact isWord_of_mem_significant (all _ mem)

/-- The names in a well-formed type are read as identifiers. -/
theorem TypeTree.WellFormed.spelled {scope : Scope} {options : Options} {context : String}
    (hasWords : scope.HasWords) {tree : TypeTree} (wf : tree.WellFormed scope options context) :
    tree.Spelled := by
  induction tree with
  | primitive type n => rw [Spelled]; trivial
  | declared name n =>
    rw [WellFormed] at wf
    obtain ⟨shape, known⟩ := Option.isSome_iff_exists.1 wf.1
    rw [Spelled]
    exact hasWords.identifier known
  | parameter owner name n =>
    rw [WellFormed] at wf
    obtain ⟨_, shape, known, mem⟩ := wf
    rw [Spelled]
    exact hasWords.parameter known mem
  | applied name arguments n ih =>
    rw [WellFormed] at wf
    obtain ⟨⟨shape, known, _⟩, _, _, _, all⟩ := wf
    rw [Spelled]
    exact ⟨hasWords.identifier known, fun argument mem => ih argument mem (all argument mem)⟩

/-- The identifiers in a text. -/
def identifiersOf (source : String) : List String :=
  (tokenize source).significant.filterMap Token.identifier?

theorem mem_identifiersOf {source name : String}
    (mem : .identifier name ∈ (tokenize source).significant) : name ∈ identifiersOf source :=
  List.mem_filterMap.2 ⟨_, mem, rfl⟩

namespace Library

variable {library : Library} {scope : Scope} {options : Options}

/-- None of the names in the tokens is one of a generic parameter of the
class-like. -/
def Avoids (library : Library) (context : ClassId) (tokens : List Token) : Prop :=
  ∀ name, .identifier name ∈ tokens → library.parameterNamed? context name = none

theorem avoids_of_identifiersOf {context : ClassId} {classLike : ClassLike} {source : String}
    (known : library.classLike? context = some classLike)
    (free : ∀ parameter ∈ classLike.genericParameters,
      library.parameterName parameter ∉ identifiersOf source) :
    library.Avoids context (tokenize source).significant := by
  intro name mem
  simp only [parameterNamed?, known, Option.bind_eq_bind, Option.bind_some, List.find?_eq_none]
  intro parameter listed same
  refine free parameter listed ?_
  rw [parameterName, beq_iff_eq.1 same]
  exact mem_identifiersOf mem

namespace Coherent

variable {context : ClassId} {place : String} {tree : TypeTree} {type : Ty}

/-- Reading takes arguments where the type has some. -/
theorem applies_written (coherent : library.Coherent scope options)
    (wf : tree.WellFormed scope options place) (avoids : library.Avoids context tree.tokens) :
    tree.written.Applies (library.takesArguments context) := by
  induction tree with
  | primitive | declared | parameter => rw [TypeTree.written, TypeExpr.Applies]; trivial
  | applied name arguments n ih =>
    rw [TypeTree.WellFormed] at wf
    obtain ⟨⟨shape, known, length⟩, notPrimitive, nonempty, _, all⟩ := wf
    obtain ⟨id, classLike, declared, same, shaped⟩ := coherent.scope_iff.1 known
    rw [TypeTree.written, TypeExpr.Applies, List.forall_mem_map]
    refine ⟨?_, fun argument mem => ih argument mem (all argument mem) fun name inside =>
      avoids name (TypeTree.mem_tokens_applied mem inside)⟩
    have notEnum : classLike.kind.isEnum = false := by
      by_contra isEnum
      have keyword : shape.keyword = .enum := by
        rw [← shaped, shapeOf]
        cases kind : classLike.kind <;> simp_all [Kind.isEnum, Kind.keyword]
      rw [coherent.enum_parameters known keyword] at length
      exact nonempty (List.length_eq_zero_iff.1 length.symm)
    have noParameter := avoids name (by rw [TypeTree.tokens]; exact List.mem_cons_self)
    simp only [takesArguments, notPrimitive, noParameter,
      coherent.byIdentifier?_eq_some_iff.2 ⟨classLike, declared, same⟩, Option.bind_some,
      declared.1, notEnum]
    rfl

end Coherent

end Library

/-! ## Resolving -/

namespace Build

variable {state : BuildState} {scope : Scope} {options reading : Options} {context : ClassId}
  {place signature : String}

/-- An instantiation that is there is found. -/
theorem answers_instantiate (coherent : state.library.Coherent scope options) {id base : ClassId}
    {name : String} {trees : List TypeTree} {arguments : List Ty}
    (named : state.library.IsNamed base name)
    (wf : (TypeTree.applied name trees 0).WellFormed scope options place)
    (closed : ∀ tree ∈ trees, tree.owners = [])
    (denotes : List.Forall₂ state.library.Denotes arguments trees)
    (isInstance : state.library.IsInstance id (.applied name trees 0)) :
    (instantiate reading base arguments (some context) signature).Answers state
      (.classLike id) := by
  have known : state.library.instantiation? (some context) _ = some id :=
    (Refines.instantiation?_eq_some_iff coherent denotes (.inr closed) wf id).2 isInstance
  rw [TypeTree.WellFormed] at wf
  obtain ⟨⟨shape, found, length⟩, _, nonempty, _⟩ := wf
  obtain ⟨baseClass, declared, rfl⟩ := named
  have fits : arguments.length = baseClass.genericParameters.length := by
    rw [coherent.scope_identifier declared] at found
    cases found
    rw [denotes.length_eq, ← length, Library.shapeOf, List.length_map]
  have notEmpty : ¬ arguments.isEmpty = true := by
    rw [List.isEmpty_iff, ← List.length_eq_zero_iff, denotes.length_eq, List.length_eq_zero_iff]
    exact nonempty
  rw [Answers, instantiate, yields_bind, yields_classLike declared.1, fitArguments, if_pos fits,
    yields_bind, yields_pure, if_neg notEmpty, yields_bind, yields_library,
    coherent.key_applied denotes]
  dsimp only
  rw [known]
  exact ⟨rfl, rfl⟩

theorem answers_resolveAll {types : List Ty} {trees : List TypeTree}
    (each : ∀ tree ∈ trees, ∀ type, state.library.Denotes type tree →
      (resolve reading context signature tree.written).Answers state type)
    (all : List.Forall₂ state.library.Denotes types trees) :
    (resolveAll reading context signature (trees.map TypeTree.written)).Answers state types := by
  induction all with
  | nil => rw [List.map_nil, resolveAll]; exact .pure [] state
  | @cons type tree types trees first later ih =>
    rw [List.forall_mem_cons] at each
    rw [List.map_cons, resolveAll]
    exact (each.1 type first).bind ((ih each.2).bind (.pure _ state))

/-- What is read from the tokens of a closed type is resolved to the type. -/
theorem answers_resolve (coherent : state.library.Coherent scope options) {tree : TypeTree}
    {type : Ty} (denotes : state.library.Denotes type tree)
    (wf : tree.WellFormed scope options place) (closed : tree.owners = [])
    (avoids : state.library.Avoids context tree.tokens) :
    (resolve reading context signature tree.written).Answers state type := by
  induction tree generalizing type with
  | primitive primitive n =>
    obtain rfl := denotes
    rw [TypeTree.written, resolve, resolveName]
    refine Answers.bind (.library ?_) (.pure _ state)
    rw [Primitive.ofText?_text]
    exact .pure _ state
  | declared name n =>
    obtain ⟨id, classLike, rfl, declared, rfl⟩ := denotes
    rw [TypeTree.WellFormed] at wf
    have noParameter := avoids classLike.identifier
      (by rw [TypeTree.tokens]; exact List.mem_cons_self)
    rw [TypeTree.written, resolve, resolveName]
    refine Answers.bind (.library ?_) (.pure _ state)
    rw [wf.2, noParameter, coherent.byIdentifier?_identifier declared]
    exact .pure _ state
  | parameter owner name n =>
    rw [TypeTree.owners] at closed
    cases closed
  | applied name trees n ih =>
    obtain ⟨id, classLike, specialization, base, rfl, known, rfl, specialized, instantiates⟩ :=
      coherent.of_denotes_applied denotes
    have all := Library.denotesAll_iff.1 instantiates.denotes
    have isInstance := instantiates.isInstance known specialized
    rw [TypeTree.owners, List.flatMap_eq_nil_iff] at closed
    have wf' := wf
    rw [TypeTree.WellFormed] at wf'
    have arguments :
        (resolveAll reading context signature (trees.map TypeTree.written)).Answers state
        specialization.arguments :=
      answers_resolveAll (fun tree mem type denotes => ih tree mem denotes
        (wf'.2.2.2.2 tree mem) (closed tree mem)
        fun name inside => avoids name (TypeTree.mem_tokens_applied mem inside)) all
    rw [TypeTree.written, resolve]
    refine arguments.bind (Answers.bind (.pure () state) (.library ?_))
    rw [coherent.byIdentifier?_identifier instantiates.declared]
    have element : (TypeTree.applied base.identifier trees 0).WellFormed scope options place := by
      rw [← TypeTree.wellFormed_array (n := n), TypeTree.array, Nat.zero_add]
      exact wf
    exact (answers_instantiate coherent ⟨base, instantiates.declared, rfl⟩ element closed all
      isInstance).bind (.pure _ state)

/-- Reads a type and resolves it, in the signatures of the class-like. -/
def readType (options : Options) (context : ClassId) (signature : String) (tokens : List Token) :
    Build (Ty × List Token) := do
  let (written, rest) := TypeExpr.read ((← library).takesArguments context) tokens
  let type ← resolve options context signature written
  return (type, rest)

/-- The tokens of a closed type are read as the type. -/
theorem answers_readType (coherent : state.library.Coherent scope options) {tree : TypeTree}
    {type : Ty} (denotes : state.library.Denotes type tree)
    (wf : tree.WellFormed scope options place) (closed : tree.owners = [])
    (avoids : state.library.Avoids context tree.tokens) :
    (readType reading context signature tree.tokens).Answers state (type, []) := by
  have read : TypeExpr.readWithin (state.library.takesArguments context) (tree.tokens.length + 1)
      (tree.tokens ++ []) = (tree.written, []) :=
    TypeTree.readWithin_tokens (coherent.applies_written wf avoids) (Nat.le_succ _)
      fun _ mem => absurd mem (Option.not_mem_none _)
  rw [List.append_nil] at read
  refine .library ?_
  rw [TypeExpr.read, read]
  exact (answers_resolve coherent denotes wf closed avoids).bind (.pure _ state)

end Build

/-! ## Compiled libraries -/

namespace Library

/-- The type stands in a signature, or is an argument of an instantiation. -/
inductive Occurs (library : Library) (type : Ty) : Prop where
  /-- It is a supertype, or the type of an attribute, of a formal parameter or of
  what a method returns. -/
  | signature {id : ClassId} {classLike : ClassLike} :
    library.classLike? id = some classLike → type ∈ classLike.types → Occurs library type
  | bound {parameter : ParameterId} {found : GenericParameter} :
    library.parameter? parameter = some found → type ∈ found.bounds → Occurs library type
  | argument {id : ClassId} {specialization : Specialization} :
    library.specialization? id = some specialization → type ∈ specialization.arguments →
      Occurs library type

theorem Marked.occurs {marks : ClassId → Nat → Bool} {before after : Library}
    (marked : Marked marks before after) {type : Ty} (occurs : after.Occurs type) :
    before.Occurs type := by
  cases occurs with
  | signature known mem =>
    rw [marked.classLike?, Option.map_eq_some_iff] at known
    obtain ⟨classLike, known, rfl⟩ := known
    exact .signature known (types_mark _ _ ▸ mem)
  | bound known mem =>
    rw [parameter?, marked.parameters] at known
    exact .bound known mem
  | argument found mem => exact .argument ((marked.specialization? _).symm.trans found) mem

end Library

/-- The types that occur in a compiled library mean something. -/
theorem Compiled.exists_means {options : Options} {declarations : List Declaration}
    {names : List String} {library : Library} {diagnostics : List Diagnostic}
    (compiled : Compiled options declarations names library diagnostics) {type : Ty}
    (occurs : library.Occurs type) :
    ∃ context tree, library.Means (scopeOf declarations) options context type tree := by
  cases occurs with
  | signature known mem =>
    obtain ⟨context, named, spells⟩ := compiled.exists_spells known
    obtain ⟨tree, _, means⟩ := Related.exists_of_mem spells.types.flip mem
    exact ⟨context, tree, means⟩
  | bound known mem =>
    obtain ⟨context, named, spells⟩ := compiled.exists_spellsParameter known
    obtain ⟨tree, _, means⟩ := Related.exists_of_mem spells.bounds.flip mem
    exact ⟨context, tree, means⟩
  | argument found mem =>
    obtain ⟨classLike, known, specialized⟩ := Library.specialization?_eq_some found
    obtain ⟨base, trees, instantiates⟩ := compiled.coherent.instantiates known specialized
    obtain ⟨context, _, _, wf⟩ := instantiates.wellFormed
    obtain ⟨tree, listed, denotes⟩ :=
      Related.exists_of_mem (Library.denotesAll_iff.1 instantiates.denotes).flip mem
    rw [TypeTree.WellFormed] at wf
    exact ⟨context, tree, denotes, wf.2.2.2.2 tree listed⟩

/-- The text of a type that occurs in a compiled library and mentions no generic
parameter is read as the type, where no generic parameter has one of the names
in it. Reading reports nothing and changes nothing. -/
theorem readType_signatureOf {declarations : List Declaration} {options : Options} {budget : Nat}
    {library : Library} (returned : (compile declarations options budget).result = .ok library)
    {type : Ty} (occurs : library.Occurs type)
    (closed : ∀ parameter, ¬ library.Mentions parameter type) {context : ClassId}
    {classLike : ClassLike} (declared : library.IsDeclared context classLike)
    (free : ∀ parameter ∈ classLike.genericParameters,
      library.parameterName parameter ∉ identifiersOf (library.signatureOf type))
    (reading : Options) (signature : String) (pending : List ClassId) (log : Log Diagnostic) :
    (tokenize (library.signatureOf type)).errors = []
      ∧ (Build.readType reading context signature
          (tokenize (library.signatureOf type)).significant).run.run ⟨library, pending, log⟩
        = (.ok (type, []), ⟨library, pending, log⟩) := by
  obtain ⟨names, before, compiled, marked⟩ := exists_compiled returned
  have coherent := marked.revises.coherent compiled.coherent
  obtain ⟨place, tree, means⟩ := compiled.exists_means (marked.occurs occurs)
  have means := marked.revises.means means
  have closed : tree.owners = [] := List.eq_nil_iff_forall_not_mem.2 fun owner mem => by
    obtain ⟨parameter, mentions⟩ := Library.Coherent.exists_mentions means.denotes mem
    exact closed parameter mentions
  have avoids := Library.avoids_of_identifiersOf declared.1 free
  have lexes := TypeTree.lexes_text (means.wellFormed.spelled (hasWords_scopeOf _))
    TypeTree.closes_nil
  rw [TypeTree.text, ← coherent.signatureOf_eq means.denotes] at lexes
  obtain ⟨silent, tokens⟩ := lexes.tokenize_eq
  rw [tokens] at avoids ⊢
  exact ⟨silent, (Build.answers_readType coherent means.denotes means.wellFormed closed
    avoids).run_eq⟩

/-- The type `Pair<String, Box<String>>`, which is the superclass of `Label` in
the sample, can be read back in `Box<T>`. -/
structure Library.IsReadable (library : Library) : Prop where
  signature : library.signatureOf (.classLike ⟨15⟩) = "Pair<String, Box<String>>"
  occurs : ∃ label ∈ library.classLike? ⟨11⟩, .classLike ⟨15⟩ ∈ label.types
  known : (library.classLike? ⟨15⟩).isSome
  closed : library.isOpen (.classLike ⟨15⟩) = false
  box : ∃ box ∈ library.classLike? ⟨9⟩, box.specialization?.isNone
    ∧ box.genericParameters.map library.parameterName = ["T"]

instance (library : Library) : Decidable library.IsReadable :=
  decidable_of_iff
    (library.signatureOf (.classLike ⟨15⟩) = "Pair<String, Box<String>>"
      ∧ (∃ label ∈ library.classLike? ⟨11⟩, .classLike ⟨15⟩ ∈ label.types)
      ∧ (library.classLike? ⟨15⟩).isSome
      ∧ library.isOpen (.classLike ⟨15⟩) = false
      ∧ ∃ box ∈ library.classLike? ⟨9⟩, box.specialization?.isNone
        ∧ box.genericParameters.map library.parameterName = ["T"])
    ⟨fun ⟨signature, occurs, known, closed, box⟩ => ⟨signature, occurs, known, closed, box⟩,
      fun ⟨signature, occurs, known, closed, box⟩ => ⟨signature, occurs, known, closed, box⟩⟩

theorem readType_signatureOf_sample : ∃ library,
    (compile Declaration.sample {} 6).result = .ok library
      ∧ library.signatureOf (.classLike ⟨15⟩) = "Pair<String, Box<String>>"
      ∧ (Build.readType {} ⟨9⟩ "Box<T>"
          (tokenize (library.signatureOf (.classLike ⟨15⟩))).significant).run.run
          ⟨library, [], .empty⟩ = (.ok (.classLike ⟨15⟩, []), ⟨library, [], .empty⟩) := by
  obtain ⟨library, returned, _, readable⟩ := exists_of_check (compile Declaration.sample {} 6)
    (fun library => decide library.IsReadable) (by decide +kernel)
  obtain ⟨signature, ⟨label, known, mem⟩, isSome, isOpen, box, known', isNone, names⟩ :=
    of_decide_eq_true readable
  obtain ⟨_, _, compiled, marked⟩ := exists_compiled returned
  have knows : library.Knows (.classLike ⟨15⟩) := isSome
  have isOpen_iff := (marked.revises.coherent compiled.coherent).isOpen_iff knows
  have closed : ∀ parameter, ¬ library.Mentions parameter (.classLike ⟨15⟩) := fun _ mentions => by
    rw [isOpen_iff.2 ⟨_, mentions⟩] at isOpen
    cases isOpen
  refine ⟨library, returned, signature, (readType_signatureOf returned (.signature known mem) closed
    ⟨known', Option.isNone_iff_eq_none.1 isNone⟩ (fun parameter listed => ?_) {} "Box<T>" []
    .empty).2⟩
  have name := List.mem_map_of_mem (f := library.parameterName) listed
  rw [names, List.mem_singleton] at name
  rw [name, signature]
  decide +kernel

end ClassModel
