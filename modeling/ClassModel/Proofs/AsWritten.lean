import ClassModel.Proofs.Limited
import ClassModel.Proofs.Member
import ClassModel.Proofs.MemberText
import ClassModel.Proofs.Members
import ClassModel.Proofs.RoundTrip

/-!
# ClassModel.Proofs.AsWritten

Members are what they say. Where the names in a type can be told apart from
those of generic parameters, the written type is resolved to the type, and
nothing is reported (`Scope.resolve_written`). So a method or an attribute that
is made of such types is compiled to what its signature says
(`compilesAsWritten`).
-/

namespace ClassModel

/-! ## Types -/

/-- In the signatures of the class-like, none of the names in the type is taken
for another one: generic parameters come before class-likes, and primitive types
before both. -/
def TypeTree.Unshadowed (scope : Scope) (context : String) : TypeTree → Prop
  | primitive _ _ => True
  | declared name _ => scope.declaresParameter context name = false
  | applied name arguments _ => scope.declaresParameter context name = false
      ∧ ∀ argument ∈ arguments, argument.Unshadowed scope context
  | parameter _ name _ => Primitive.ofText? name = none

/-- The type can be written in the signatures of the class-like. -/
structure TypeTree.IsWritable (scope : Scope) (options : Options) (context : String)
    (tree : TypeTree) : Prop where
  wellFormed : tree.WellFormed scope options context
  unshadowed : tree.Unshadowed scope context

/-- No enumeration is generic. -/
def Scope.HasPlainEnums (scope : Scope) : Prop :=
  ∀ name shape, scope name = some shape → shape.keyword = .enum → shape.parameters = []

namespace TypeTree.IsWritable

variable {scope : Scope} {options : Options} {context : String}

theorem argument {name : String} {arguments : List TypeTree} {n : Nat}
    (writable : (applied name arguments n).IsWritable scope options context) {argument : TypeTree}
    (mem : argument ∈ arguments) : argument.IsWritable scope options context := by
  obtain ⟨wellFormed, unshadowed⟩ := writable
  rw [WellFormed] at wellFormed
  rw [Unshadowed] at unshadowed
  exact ⟨wellFormed.2.2.2.2 argument mem, unshadowed.2 argument mem⟩

/-- Where the type has arguments, its names take them. -/
theorem applies_written (enums : scope.HasPlainEnums) {tree : TypeTree}
    (writable : tree.IsWritable scope options context) :
    tree.written.Applies (scope.takesArguments context) := by
  induction tree with
  | primitive | declared | parameter => rw [written, TypeExpr.Applies]; trivial
  | applied name arguments n ih =>
    rw [written, TypeExpr.Applies, List.forall_mem_map]
    refine ⟨?_, fun argument mem => ih argument mem (writable.argument mem)⟩
    obtain ⟨wellFormed, unshadowed⟩ := writable
    rw [WellFormed] at wellFormed
    obtain ⟨⟨shape, known, length⟩, notPrimitive, nonempty, _⟩ := wellFormed
    rw [Unshadowed] at unshadowed
    -- An enumeration has no generic parameters, so it takes no arguments.
    have notEnum : shape.keyword ≠ .enum := fun isEnum => by
      rw [enums name shape known isEnum] at length
      exact nonempty (List.length_eq_zero_iff.1 length.symm)
    simp [Scope.takesArguments, notPrimitive, unshadowed.1, known, notEnum]

theorem primitive (type : Primitive) (n : Nat) :
    (TypeTree.primitive type n).IsWritable scope options context :=
  ⟨by rw [WellFormed]; trivial, by rw [Unshadowed]; trivial⟩

theorem declared {name : String} {shape : Shape} (known : scope name = some shape)
    (notPrimitive : Primitive.ofText? name = none)
    (free : scope.declaresParameter context name = false) (n : Nat) :
    (TypeTree.declared name n).IsWritable scope options context :=
  ⟨by rw [WellFormed, known]; exact ⟨rfl, notPrimitive⟩, by rw [Unshadowed]; exact free⟩

theorem parameter {name : String} {shape : Shape} (known : scope context = some shape)
    (mem : name ∈ shape.parameters) (notPrimitive : Primitive.ofText? name = none) (n : Nat) :
    (TypeTree.parameter context name n).IsWritable scope options context :=
  ⟨by rw [WellFormed]; exact ⟨rfl, shape, known, mem⟩, by rw [Unshadowed]; exact notPrimitive⟩

theorem applied {name : String} {shape : Shape} {arguments : List TypeTree} {n : Nat}
    (known : scope name = some shape) (fits : shape.parameters.length = arguments.length)
    (notPrimitive : Primitive.ofText? name = none) (nonempty : arguments ≠ [])
    (free : scope.declaresParameter context name = false)
    (within : (TypeTree.applied name arguments n).depth ≤ options.maxSpecializationDepth)
    (each : ∀ argument ∈ arguments, argument.IsWritable scope options context) :
    (TypeTree.applied name arguments n).IsWritable scope options context := by
  constructor
  · rw [WellFormed]
    exact ⟨⟨shape, known, fits⟩, notPrimitive, nonempty, within,
      fun argument mem => (each argument mem).wellFormed⟩
  · rw [Unshadowed]
    exact ⟨free, fun argument mem => (each argument mem).unshadowed⟩

end TypeTree.IsWritable

namespace Scope

variable {scope : Scope} {options : Options} {context : String} (signature : String)

/-- A name that refers to something is resolved to that, and nothing is
reported. -/
theorem resolve_name_eq {name : String} {element : TypeTree} (n : Nat)
    (found : scope.resolveName context signature name = pure element) :
    (scope.resolve options context signature (.name name n)).value = element.array n
      ∧ reports (scope.resolve options context signature (.name name n)).events = [] := by
  rw [resolve, found, pure_bind]
  exact ⟨rfl, rfl⟩

/-- An application of a generic class-like is resolved to what its arguments are
resolved to, unless they nest too deeply. -/
theorem resolve_application_eq {name : String} {exprs : List TypeExpr} {arguments : List TypeTree}
    (n : Nat) (fits : ∃ shape, scope name = some shape ∧ shape.parameters.length = arguments.length)
    (nonempty : arguments ≠ [])
    (values : (scope.resolveAll options context signature exprs).value = arguments) :
    (scope.resolve options context signature (.application name exprs none n)).value
        = (if options.maxSpecializationDepth < (TypeTree.applied name arguments n).depth then
            .declared name n
          else .applied name arguments n)
      ∧ reports (scope.resolve options context signature (.application name exprs none n)).events
        = reports (scope.resolveAll options context signature exprs).events
          ++ if options.maxSpecializationDepth < (TypeTree.applied name arguments n).depth then
              [⟨.depthExceeded (TypeTree.applied name arguments 0).signature
                options.maxSpecializationDepth, []⟩]
            else [] := by
  have depth : (TypeTree.applied name arguments 0).depth
      = (TypeTree.applied name arguments n).depth := by
    simp only [TypeTree.depth]
  rw [resolve]
  simp only [Traced.value_bind, Traced.events_bind, reports_append, values,
    instantiate_of_fits fits nonempty, depth, Traced.reportUnmet, Traced.value_pure,
    Traced.events_pure]
  split
  · exact ⟨by simp [TypeTree.array], rfl⟩
  · exact ⟨by simp [TypeTree.array], rfl⟩

/-- A writable type is resolved to what is left of it under the limit, and what is too
deep is reported. -/
theorem resolve_written_limited {writing : Options} {tree : TypeTree}
    (writable : tree.IsWritable scope writing context) :
    (scope.resolve options context signature tree.written).value = tree.limited options
      ∧ reports (scope.resolve options context signature tree.written).events
        = tree.tooDeep options := by
  induction tree with
  | primitive type n =>
    have found : scope.resolveName context signature type.text = pure (.primitive type 0) := by
      rw [resolveName, Primitive.ofText?_text]
    simpa [TypeTree.written, TypeTree.array, TypeTree.limited, TypeTree.tooDeep]
      using resolve_name_eq signature n found
  | declared name n =>
    obtain ⟨wellFormed, unshadowed⟩ := writable
    rw [TypeTree.WellFormed] at wellFormed
    rw [TypeTree.Unshadowed] at unshadowed
    have found : scope.resolveName context signature name = pure (.declared name 0) := by
      simp [resolveName, wellFormed, unshadowed]
    simpa [TypeTree.written, TypeTree.array, TypeTree.limited, TypeTree.tooDeep]
      using resolve_name_eq signature n found
  | parameter owner name n =>
    obtain ⟨wellFormed, unshadowed⟩ := writable
    rw [TypeTree.WellFormed] at wellFormed
    rw [TypeTree.Unshadowed] at unshadowed
    obtain ⟨rfl, shape, known, mem⟩ := wellFormed
    have found : scope.resolveName owner signature name = pure (.parameter owner name 0) := by
      simp [resolveName, unshadowed, declaresParameter, parametersOf, known, mem]
    simpa [TypeTree.written, TypeTree.array, TypeTree.limited, TypeTree.tooDeep]
      using resolve_name_eq signature n found
  | applied name arguments n ih =>
    have each := fun argument mem => ih argument mem (writable.argument mem)
    have wellFormed := writable.wellFormed
    rw [TypeTree.WellFormed] at wellFormed
    obtain ⟨⟨shape, known, length⟩, _, nonempty, _, _⟩ := wellFormed
    have values : (scope.resolveAll options context signature
        (arguments.map TypeTree.written)).value = arguments.map (TypeTree.limited options) := by
      rw [resolveAll_eq_mapM, Traced.value_mapM, List.map_map]
      exact List.map_congr_left fun argument mem => (each argument mem).1
    have told : reports (scope.resolveAll options context signature
        (arguments.map TypeTree.written)).events
          = arguments.flatMap (TypeTree.tooDeep options) := by
      rw [resolveAll_eq_mapM, Traced.events_mapM, reports_flatMap, List.flatMap_map]
      exact List.flatMap_congr fun argument mem => (each argument mem).2
    rw [TypeTree.written, TypeTree.limited, TypeTree.tooDeep, ← told]
    exact resolve_application_eq signature n ⟨shape, known, by rw [length, List.length_map]⟩
      (by simpa using nonempty) values

/-- A writable type is resolved to itself, and nothing is reported. -/
theorem resolve_written {tree : TypeTree} (writable : tree.IsWritable scope options context) :
    (scope.resolve options context signature tree.written).value = tree
      ∧ reports (scope.resolve options context signature tree.written).events = [] := by
  obtain ⟨value, told⟩ := resolve_written_limited signature writable
  have within : tree.depth ≤ options.maxSpecializationDepth := by
    cases tree with
    | primitive | declared | parameter => rw [TypeTree.depth]; exact Nat.zero_le _
    | applied => exact writable.wellFormed.depth_le
  rw [TypeTree.limited_eq_self within] at value
  rw [TypeTree.tooDeep_eq_nil within] at told
  exact ⟨value, told⟩

/-- Writable types are resolved to themselves. -/
theorem compileReturnType?_written {type? : Option TypeTree}
    (writable : ∀ type ∈ type?, type.IsWritable scope options context) :
    (scope.compileReturnType? options context signature (type?.map TypeTree.written)).value = type?
      ∧ reports (scope.compileReturnType? options context signature
        (type?.map TypeTree.written)).events = [] := by
  cases type? with
  | none => exact ⟨rfl, rfl⟩
  | some type =>
    obtain ⟨value, silent⟩ := resolve_written signature (writable type rfl)
    rw [Option.map_some, compileReturnType?, Traced.value_bind, Traced.events_bind, reports_append,
      silent, value]
    exact ⟨rfl, rfl⟩

end Scope

/-! ## By names -/

/-- A signature without lexical errors has its meaningful tokens, and nothing is
reported. -/
theorem Traced.tokens_eq {source : String} {found : List Token}
    (lexed : (tokenize source).errors = [] ∧ (tokenize source).significant = found) :
    Traced.tokens source = pure found := by
  rw [Traced.tokens, lexed.1, lexed.2]
  rfl

namespace FormalText

/-- The formal parameter at the stack position. -/
def named (position : Nat) (formal : FormalText) : NamedFormal where
  bare := { identifier := formal.name, type := .void, isVariadic := formal.isVariadic,
            stackPosition := position }
  type := formal.type

/-- The formal parameters from the stack position on. -/
def namedFrom : Nat → List FormalText → List NamedFormal
  | _, [] => []
  | position, formal :: formals => formal.named position :: namedFrom (position + 1) formals

variable {scope : Scope} {options : Options} {context : String} (signature : String)

theorem compileFormals_written {formals : List FormalText}
    (writable : ∀ formal ∈ formals, formal.type.IsWritable scope options context) (position : Nat) :
    (scope.compileFormals options context signature position (formals.map written)).value
        = namedFrom position formals
      ∧ reports (scope.compileFormals options context signature position
        (formals.map written)).events = [] := by
  induction formals generalizing position with
  | nil => exact ⟨rfl, rfl⟩
  | cons formal formals ih =>
    rw [List.forall_mem_cons] at writable
    obtain ⟨value, silent⟩ := Scope.resolve_written signature writable.1
    obtain ⟨values, silentAll⟩ := ih writable.2 (position + 1)
    simp only [List.map_cons, Scope.compileFormals, written, Traced.nameOf?, Traced.value_bind,
      Traced.events_bind, reports_append, Traced.value_pure, Traced.events_pure]
      at values silentAll ⊢
    rw [value, silent, values, silentAll]
    exact ⟨rfl, rfl⟩

/-- Where only the last formal parameter is variadic, the mark is in place. -/
theorem placeEllipsis_namedFrom {formals : List FormalText}
    (placed : ∀ formal ∈ formals.dropLast, formal.isVariadic = false) (position : Nat) :
    Scope.placeEllipsis signature (namedFrom position formals)
      = pure (namedFrom position formals) := by
  induction formals generalizing position with
  | nil => rfl
  | cons formal formals ih =>
    cases formals with
    | nil => rfl
    | cons second formals =>
      rw [List.dropLast_cons_cons, List.forall_mem_cons] at placed
      rw [namedFrom, Scope.placeEllipsis.eq_3 _ _ _ (by simp [namedFrom]),
        ih placed.2 (position + 1)]
      simp [named, placed.1]

theorem stackPosition_namedFrom (position : Nat) (formals : List FormalText) :
    (namedFrom position formals).map (·.bare.stackPosition)
      = List.range' position formals.length := by
  induction formals generalizing position with
  | nil => rfl
  | cons formal formals ih =>
    rw [namedFrom, List.map_cons, ih, List.length_cons, List.range'_succ]
    rfl

/-- The signature tells the types of the formal parameters. -/
theorem signature_namedFrom (name : String) (position : Nat) (formals : List FormalText) :
    NamedMethod.signature name (namedFrom position formals) = name ++ "("
      ++ ",".intercalate (formals.map fun formal =>
        formal.type.signature ++ if formal.isVariadic then "..." else "") ++ ")" := by
  have shown : (namedFrom position formals).map (fun formal =>
        formal.type.signature ++ if formal.bare.isVariadic then "..." else "")
      = formals.map fun formal =>
        formal.type.signature ++ if formal.isVariadic then "..." else "" := by
    induction formals generalizing position with
    | nil => rfl
    | cons formal formals ih =>
      rw [namedFrom, List.map_cons, List.map_cons, ih]
      rfl
  rw [NamedMethod.signature, shown]

end FormalText

namespace MethodText

/-- The method can be written as a member of the class-like. -/
structure IsWritable (scope : Scope) (options : Options) (context : String) (method : MethodText) :
    Prop where
  modifiers : ∀ word ∈ method.modifiers, word.IsModifier
  returnType? : ∀ type ∈ method.returnType?, type.IsWritable scope options context
  name : IsWord method.name
  formals : ∀ formal ∈ method.formals,
    formal.type.IsWritable scope options context ∧ IsWord formal.name
  /-- Only the last formal parameter may be variadic. -/
  placed : ∀ formal ∈ method.formals.dropLast, formal.isVariadic = false

/-- What the method is compiled to, by names. -/
def named (method : MethodText) (body : Body) : NamedMethod where
  bare :=
    { identifier := method.name
      returnType? := none
      formals := []
      visibility := (Modifiers.ofWords method.modifiers).visibility
      isAbstract := (Modifiers.ofWords method.modifiers).isAbstract
      isStatic := (Modifiers.ofWords method.modifiers).isStatic
      isFinal := (Modifiers.ofWords method.modifiers).isFinal
      signature := NamedMethod.signature method.name (FormalText.namedFrom 1 method.formals)
      body? := some body }
  returnType? := method.returnType?
  formals := FormalText.namedFrom 1 method.formals

variable {scope : Scope} {options : Options} {context : String} {method : MethodText}

theorem IsWritable.spelled (hasWords : scope.HasWords)
    (writable : method.IsWritable scope options context) : method.Spelled where
  returnType? type mem := (writable.returnType? type mem).wellFormed.spelled hasWords
  name := writable.name
  formals formal mem :=
    ⟨(writable.formals formal mem).1.wellFormed.spelled hasWords, (writable.formals formal mem).2⟩

/-- A signature that consists of the tokens of a writable method is compiled to the
method, and nothing is reported. -/
theorem compileMethod_tokens (enums : scope.HasPlainEnums)
    (writable : method.IsWritable scope options context) {source : String}
    (lexed : (tokenize source).errors = [] ∧ (tokenize source).significant = method.tokens)
    (body : Body) :
    (scope.compileMethod options context source body).value = method.named body
      ∧ reports (scope.compileMethod options context source body).events = [] := by
  have read : MethodExpr.read (scope.takesArguments context) method.tokens = method.written :=
    read_tokens writable.modifiers
      (fun type mem => (writable.returnType? type mem).applies_written enums)
      (fun formal mem => (writable.formals formal mem).1.applies_written enums)
  obtain ⟨returned, silent⟩ :=
    Scope.compileReturnType?_written source writable.returnType?
  obtain ⟨formals, silent'⟩ := FormalText.compileFormals_written source
    (fun formal mem => (writable.formals formal mem).1) 1
  have placed := FormalText.placeEllipsis_namedFrom source writable.placed 1
  rw [Scope.compileMethod, Traced.tokens_eq lexed, pure_bind]
  simp only [read, written, Traced.nameOf?, Traced.reportUnmet, Traced.value_bind,
    Traced.events_bind, reports_append, Traced.value_pure, Traced.events_pure, returned, silent,
    formals, silent', placed]
  exact ⟨rfl, rfl⟩

end MethodText

namespace AttributeText

/-- The attribute can be written as a member of the class-like. -/
structure IsWritable (scope : Scope) (options : Options) (context : String)
    (found : AttributeText) : Prop where
  modifiers : ∀ word ∈ found.modifiers, word.IsModifier
  type : found.type.IsWritable scope options context
  name : IsWord found.name

/-- What the attribute is compiled to, by names. -/
def named (found : AttributeText) : NamedAttribute where
  bare :=
    { identifier := found.name
      type := .void
      visibility := (Modifiers.ofWords found.modifiers).visibility
      isStatic := (Modifiers.ofWords found.modifiers).isStatic
      isFinal := (Modifiers.ofWords found.modifiers).isFinal
      isTransient := (Modifiers.ofWords found.modifiers).isTransient }
  type := found.type

variable {scope : Scope} {options : Options} {context : String} {found : AttributeText}

theorem IsWritable.spelled (hasWords : scope.HasWords)
    (writable : found.IsWritable scope options context) : found.Spelled :=
  ⟨writable.type.wellFormed.spelled hasWords, writable.name⟩

/-- A signature that consists of the tokens of a writable attribute is compiled to
the attribute, and nothing is reported. -/
theorem compileAttribute?_tokens (enums : scope.HasPlainEnums)
    (writable : found.IsWritable scope options context) {source : String}
    (lexed : (tokenize source).errors = [] ∧ (tokenize source).significant = found.tokens) :
    (scope.compileAttribute? options context source).value = some found.named
      ∧ reports (scope.compileAttribute? options context source).events = [] := by
  have read : AttributeExpr.read (scope.takesArguments context) found.tokens = found.written :=
    read_tokens writable.modifiers (writable.type.applies_written enums)
  obtain ⟨type, silent⟩ := Scope.resolve_written source writable.type
  rw [Scope.compileAttribute?, Traced.tokens_eq lexed, pure_bind]
  simp only [read, written, Traced.nameOf?, Traced.reportUnmet, Traced.value_bind,
    Traced.events_bind, reports_append, Traced.value_pure, Traced.events_pure, type, silent]
  exact ⟨rfl, rfl⟩

end AttributeText

/-! ## In a library -/

namespace Library

/-- The formal parameter is what is written. -/
structure IsFormalAsWritten (library : Library) (compiled : Formal) (formal : FormalText) :
    Prop where
  identifier : compiled.identifier = formal.name
  isVariadic : compiled.isVariadic = formal.isVariadic
  type : library.Denotes compiled.type formal.type

/-- The method is what is written. -/
structure IsMethodAsWritten (library : Library) (method : MethodText) (body : Body)
    (compiled : Method) : Prop where
  identifier : compiled.identifier = method.name
  /-- The last visibility counts. -/
  visibility : compiled.visibility
    = (method.modifiers.filterMap Keyword.visibility?).getLast?.getD .public
  isAbstract : compiled.isAbstract = method.modifiers.contains .abstract
  isStatic : compiled.isStatic = method.modifiers.contains .static
  isFinal : compiled.isFinal = method.modifiers.contains .final
  isVirtual : compiled.isVirtual = false
  returnType? : Option.Rel library.Denotes compiled.returnType? method.returnType?
  formals : List.Forall₂ library.IsFormalAsWritten compiled.formals method.formals
  stackPositions : compiled.formals.map (·.stackPosition) = List.range' 1 method.formals.length
  signature : compiled.signature = method.name ++ "("
    ++ ",".intercalate (method.formals.map fun formal =>
      formal.type.signature ++ if formal.isVariadic then "..." else "") ++ ")"
  body? : compiled.body? = some body

/-- The attribute is what is written. -/
structure IsAttributeAsWritten (library : Library) (found : AttributeText)
    (compiled : Attribute) : Prop where
  identifier : compiled.identifier = found.name
  visibility : compiled.visibility
    = (found.modifiers.filterMap Keyword.visibility?).getLast?.getD .public
  isStatic : compiled.isStatic = found.modifiers.contains .static
  isFinal : compiled.isFinal = found.modifiers.contains .final
  isTransient : compiled.isTransient = found.modifiers.contains .transient
  type : library.Denotes compiled.type found.type

variable {library : Library} {scope : Scope} {options : Options} {context : String}

theorem isFormalAsWritten_of_spells {compiled : List Formal} {formals : List FormalText}
    {position : Nat} (spells : List.Forall₂ (library.SpellsFormal scope options context) compiled
      (FormalText.namedFrom position formals)) :
    List.Forall₂ library.IsFormalAsWritten compiled formals := by
  induction formals generalizing compiled position with
  | nil =>
    cases spells
    exact .nil
  | cons formal formals ih =>
    cases spells with
    | cons first later =>
      exact .cons ⟨first.identifier, first.isVariadic, first.type.denotes⟩ (ih later)

theorem SpellsMethod.isMethodAsWritten {method : MethodText} {body : Body} {compiled : Method}
    (spells : library.SpellsMethod scope options context compiled (method.named body)) :
    library.IsMethodAsWritten method body compiled where
  identifier := spells.identifier
  visibility := congrArg (·.visibility) spells.bare
  isAbstract := congrArg (·.isAbstract) spells.bare
  isStatic := congrArg (·.isStatic) spells.bare
  isFinal := congrArg (·.isFinal) spells.bare
  isVirtual := congrArg (·.isVirtual) spells.bare
  returnType? := Related.optional spells.returnType? fun _ _ means => means.denotes
  formals := isFormalAsWritten_of_spells spells.formals
  stackPositions := by
    rw [← FormalText.stackPosition_namedFrom]
    exact Related.map_eq spells.formals fun _ _ _ spells => congrArg (·.stackPosition) spells.bare
  signature := spells.signature.trans (FormalText.signature_namedFrom _ 1 _)
  body? := congrArg (·.body?) spells.bare

theorem SpellsAttribute.isAttributeAsWritten {found : AttributeText} {compiled : Attribute}
    (spells : library.SpellsAttribute scope options context compiled found.named) :
    library.IsAttributeAsWritten found compiled where
  identifier := spells.identifier
  visibility := congrArg (·.visibility) spells.bare
  isStatic := congrArg (·.isStatic) spells.bare
  isFinal := congrArg (·.isFinal) spells.bare
  isTransient := congrArg (·.isTransient) spells.bare
  type := spells.type.denotes

end Library

/-- While members are compiled, the text of a writable method or attribute of a
declared class-like is compiled to what it says, and nothing is reported. -/
theorem compilesAsWritten {options : Options} {declarations : List Declaration} {state : BuildState}
    (compiles : Build.CompilesMembers options (Standard.prelude ++ declarations) state)
    {owner : ClassId} {context : String} (isNamed : state.library.IsNamed owner context) :
    (∀ method : MethodText,
      method.IsWritable (scopeOf (Standard.prelude ++ declarations)) options context →
        ∀ body, ∃ compiled after,
          (Build.compileMethod options owner method.text body).run.run state = (.ok compiled, after)
            ∧ after.log.toList = state.log.toList
            ∧ after.library.IsMethodAsWritten method body compiled)
      ∧ ∀ found : AttributeText,
        found.IsWritable (scopeOf (Standard.prelude ++ declarations)) options context →
          ∃ compiled after,
            (Build.compileAttribute? options owner found.text).run.run state
                = (.ok (some compiled), after)
              ∧ after.log.toList = state.log.toList
              ∧ after.library.IsAttributeAsWritten found compiled := by
  obtain ⟨coherent, _⟩ := compiles.realizes (sound_prelude declarations)
  have hasWords := hasWords_scopeOf (Standard.prelude ++ declarations)
  have enums : (scopeOf (Standard.prelude ++ declarations)).HasPlainEnums :=
    fun _ _ => coherent.enum_parameters
  constructor
  · intro method writable body
    obtain ⟨value, silent⟩ := MethodText.compileMethod_tokens enums writable
      (MethodText.lexes_text (writable.spelled hasWords)).tokenize_eq body
    obtain ⟨compiled, after, run, log, spells⟩ :=
      (Refines.compileMethod coherent isNamed).exists_run_of_silent silent
    rw [value] at spells
    exact ⟨compiled, after, run, log, spells.isMethodAsWritten⟩
  · intro found writable
    obtain ⟨value, silent⟩ := AttributeText.compileAttribute?_tokens enums writable
      (AttributeText.lexes_text (writable.spelled hasWords)).tokenize_eq
    obtain ⟨compiled?, after, run, log, spells⟩ :=
      (Refines.compileAttribute? coherent isNamed).exists_run_of_silent silent
    rw [value] at spells
    cases spells with
    | some spells => exact ⟨_, after, run, log, spells.isAttributeAsWritten⟩

/-! ## A sample -/

/-- A generic class-like. -/
def Declaration.generic : List Declaration := [{ signature := "class Box<T>" }]

/-- A method of the class-like that has all parts. -/
def MethodText.fill : MethodText where
  modifiers := [.protected, .static]
  returnType? := some (.applied "Box" [.parameter "Box" "T" 1] 1)
  name := "fill"
  formals := [⟨.primitive .int 0, false, "count"⟩, ⟨.parameter "Box" "T" 0, true, "values"⟩]

example : MethodText.fill.text = "protected static Box<T[]>[] fill(int count, T... values)" := by
  cbv

theorem MethodText.isWritable_fill {scope : Scope}
    (known : scope "Box" = some ⟨.class, ["T"]⟩) : MethodText.fill.IsWritable scope {} "Box" := by
  have item (n : Nat) : (TypeTree.parameter "Box" "T" n).IsWritable scope {} "Box" :=
    .parameter known (.head _) rfl n
  refine {
    modifiers := ?_
    returnType? := ?_
    name := isWord_of_toList rfl rfl
    formals := ?_
    placed := ?_ }
  · rintro word (_ | ⟨_, _ | ⟨_, ⟨⟩⟩⟩) <;> rfl
  · rintro _ ⟨⟩
    exact .applied known rfl rfl (List.cons_ne_nil _ _)
      (by simp [Scope.declaresParameter, Scope.parametersOf, known]) (by simp [TypeTree.depth])
      (List.forall_mem_singleton.2 (item 1))
  · rintro formal (_ | ⟨_, _ | ⟨_, ⟨⟩⟩⟩)
    · exact ⟨.primitive .int 0, isWord_of_toList rfl rfl⟩
    · exact ⟨item 0, isWord_of_toList rfl rfl⟩
  · rintro formal (_ | ⟨_, ⟨⟩⟩)
    rfl

theorem scopeOf_generic :
    scopeOf (Standard.prelude ++ Declaration.generic) "Box" = some ⟨.class, ["T"]⟩ := by
  decide +kernel

theorem exists_compilesMembers_generic : ∃ state owner,
    Build.CompilesMembers {} (Standard.prelude ++ Declaration.generic) state
      ∧ state.library.IsNamed owner "Box" := by
  have sound := sound_prelude Declaration.generic
  obtain ⟨state, compiles⟩ := Build.exists_compilesMembers {} sound
  obtain ⟨owner, classLike, declared, named, _⟩ :=
    (compiles.realizes sound).1.scope_iff.1 scopeOf_generic
  exact ⟨state, owner, compiles, classLike, declared, named⟩

theorem compilesAsWritten_fill : ∃ state owner,
    Build.CompilesMembers {} (Standard.prelude ++ Declaration.generic) state
      ∧ state.library.IsNamed owner "Box"
      ∧ ∃ compiled after,
        (Build.compileMethod {} owner MethodText.fill.text (.expression "null")).run.run state
          = (.ok compiled, after)
        ∧ after.log.toList = state.log.toList
        ∧ after.library.IsMethodAsWritten MethodText.fill (.expression "null") compiled := by
  obtain ⟨state, owner, compiles, isNamed⟩ := exists_compilesMembers_generic
  exact ⟨state, owner, compiles, isNamed, (compilesAsWritten compiles isNamed).1 MethodText.fill
    (MethodText.isWritable_fill scopeOf_generic) _⟩

end ClassModel
