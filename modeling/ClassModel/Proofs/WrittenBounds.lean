import ClassModel.Proofs.AsWritten
import ClassModel.Proofs.HeaderText
import ClassModel.Proofs.Turn

/-!
# ClassModel.Proofs.WrittenBounds

Generic parameters are what they say. Where a header goes on with generic parameters
whose bounds are well formed, its two readings agree on them, whatever follows: the
first one creates the parameters, and the second one gives each of them its own
bounds (`readsParameters`).
-/

namespace ClassModel

/-! ## Written bounds -/

namespace BoundText

/-- The types after `extends`. -/
def upperTypes : BoundText → List TypeTree
  | upper types => types
  | lower _ => []

/-- The type after `super`. -/
def lowerType? : BoundText → Option TypeTree
  | upper _ => none
  | lower type => some type

end BoundText

namespace ParameterText

/-- The types of all `extends` clauses, in order. -/
def upperTypes (parameter : ParameterText) : List TypeTree :=
  parameter.bounds.flatMap BoundText.upperTypes

/-- The type of the last `super` clause. -/
def lowerType? (parameter : ParameterText) : Option TypeTree :=
  (parameter.bounds.filterMap BoundText.lowerType?).getLast?

/-- The types of all bounds, in order. -/
def types (parameter : ParameterText) : List TypeTree :=
  parameter.bounds.flatMap BoundText.types

/-- The parameter can be declared by the class-like: its bounds are class-likes and
generic parameters. -/
structure IsWritable (scope : Scope) (context : String) (parameter : ParameterText) : Prop where
  nonempty : ∀ bound ∈ parameter.bounds, bound.types ≠ []
  writable : ∀ bound ∈ parameter.bounds, ∀ type ∈ bound.types,
    ∃ depth, type.IsWritable scope depth context
  isBound : ∀ bound ∈ parameter.bounds, ∀ type ∈ bound.types, type.isBound = true

theorem IsWritable.isReadable {scope : Scope} {context : String} {parameter : ParameterText}
    (enums : scope.HasPlainEnums) (writable : parameter.IsWritable scope context) :
    parameter.IsReadable (scope.takesArguments context) where
  nonempty := writable.nonempty
  applies bound mem type mem' := by
    obtain ⟨_, written⟩ := writable.writable bound mem type mem'
    exact written.applies_written enums

/-- The parameter with its bounds, under a limit of nesting. -/
def named (options : Options) (parameter : ParameterText) : NamedParameter where
  identifier := parameter.name
  upperBounds := parameter.upperTypes.map (TypeTree.limited options)
  lowerBound? := parameter.lowerType?.map (TypeTree.limited options)

end ParameterText

/-! ## By names -/

section ByNames

variable {scope : Scope} {options : Options} {context signature : String}

namespace NamedParameter

theorem resolveBound_written {change : NamedParameter → TypeTree → NamedParameter}
    {type : TypeTree} (writable : ∃ depth, type.IsWritable scope depth context)
    (isBound : type.isBound = true) (parameter : NamedParameter) :
    parameter.resolveBound scope options context signature change type.written
      = change parameter (type.limited options) := by
  obtain ⟨_, writable⟩ := writable
  have value : (scope.resolve options context signature type.written).value = _ :=
    (Scope.resolve_written_limited signature writable).1
  rw [resolveBound, value, TypeTree.isBound_limited, if_pos isBound]

/-- Upper bounds add up. -/
theorem resolveUpperBounds_written {types : List TypeTree}
    (writable : ∀ type ∈ types, ∃ depth, type.IsWritable scope depth context)
    (isBound : ∀ type ∈ types, type.isBound = true) (parameter : NamedParameter) :
    (types.map TypeTree.written).foldl
        (resolveBound scope options context signature .withUpperBound) parameter
      = { parameter with
          upperBounds := parameter.upperBounds ++ types.map (TypeTree.limited options) } := by
  induction types generalizing parameter with
  | nil => simp
  | cons type types ih =>
    rw [List.forall_mem_cons] at writable isBound
    rw [List.map_cons, List.foldl_cons, resolveBound_written writable.1 isBound.1,
      ih writable.2 isBound.2]
    simp [withUpperBound]

/-- Each parameter gets the bounds that are written, and of several lower bounds the
last one counts. -/
theorem resolveBounds_written {bounds : List BoundText}
    (writable : ∀ bound ∈ bounds, ∀ type ∈ bound.types,
      ∃ depth, type.IsWritable scope depth context)
    (isBound : ∀ bound ∈ bounds, ∀ type ∈ bound.types, type.isBound = true)
    (parameter : NamedParameter) :
    parameter.resolveBounds scope options context signature (bounds.map BoundText.written)
      = { parameter with
          upperBounds := parameter.upperBounds
            ++ (bounds.flatMap BoundText.upperTypes).map (TypeTree.limited options)
          lowerBound? := ((bounds.filterMap BoundText.lowerType?).getLast?.map
            (TypeTree.limited options)).or parameter.lowerBound? } := by
  induction bounds generalizing parameter with
  | nil => simp [resolveBounds]
  | cons bound bounds ih =>
    rw [List.forall_mem_cons] at writable isBound
    rw [List.map_cons, resolveBounds, List.foldl_cons, ← resolveBounds, ih writable.2 isBound.2]
    cases bound with
    | upper types =>
      have upper : (types.map TypeTree.written).foldl
          (resolveBound scope options context signature .withUpperBound) parameter = _ :=
        resolveUpperBounds_written writable.1 isBound.1 parameter
      rw [BoundText.written, resolveBoundExpr, upper]
      simp [BoundText.upperTypes, BoundText.lowerType?, BoundText.types]
    | lower type =>
      rw [BoundText.written, resolveBoundExpr, resolveBound_written
        (writable.1 type List.mem_cons_self) (isBound.1 type List.mem_cons_self)]
      simp only [withLowerBound, BoundText.upperTypes, BoundText.lowerType?, List.flatMap_cons,
        List.filterMap_cons, List.nil_append, List.getLast?_cons]
      cases (bounds.filterMap BoundText.lowerType?).getLast? <;> rfl

end NamedParameter

/-- Of a well-formed bound only too deep nesting is reported. -/
theorem Scope.boundReports_written {type : TypeTree}
    (writable : ∃ depth, type.IsWritable scope depth context) (isBound : type.isBound = true) :
    scope.boundReports options context signature type.written = type.tooDeep options := by
  obtain ⟨_, writable⟩ := writable
  obtain ⟨value, told⟩ : _ ∧ reports (scope.resolve options context signature type.written).events
      = _ := Scope.resolve_written_limited signature writable
  rw [boundReports, Traced.events_bind, reports_append, told, value, NamedClass.checkedBound?,
    if_pos (by rwa [TypeTree.isBound_limited])]
  exact List.append_nil _

namespace NamedClass

variable {named : NamedClass} {parameters : List ParameterText}

/-- Each generic parameter becomes what is written at its place. -/
theorem parameters_resolveParameters_written (same : named.identifier = context)
    (placed : named.parameters = parameters.map fun parameter => { identifier := parameter.name })
    (writable : ∀ parameter ∈ parameters, parameter.IsWritable scope context) :
    (named.resolveParameters scope options signature 0
        (parameters.map ParameterText.written)).value.parameters
      = parameters.map (ParameterText.named options) := by
  apply List.ext_getElem?
  intro i
  rw [getElem?_resolveParameters same, placed, List.getElem?_map, List.getElem?_map, Nat.sub_zero,
    List.getElem?_map, Option.map_map]
  cases place : parameters[i]? with
  | none => rfl
  | some parameter =>
    have writable := writable parameter (List.mem_of_getElem? place)
    rw [Option.map_some, Option.map_some, Function.comp_apply, if_pos (Nat.zero_le i),
      Option.map_some, Option.map_some, Option.getD_some]
    have bounded := @NamedParameter.resolveBounds_written _ options _ signature _
      writable.writable writable.isBound { identifier := parameter.name }
    rw [ParameterText.written, bounded, Option.or_none]
    rfl

/-- Of well-formed bounds only too deep nesting is reported. -/
theorem reports_resolveParameters_written (same : named.identifier = context)
    (writable : ∀ parameter ∈ parameters, parameter.IsWritable scope context) :
    reports (named.resolveParameters scope options signature 0
        (parameters.map ParameterText.written)).events
      = parameters.flatMap fun parameter => parameter.types.flatMap (TypeTree.tooDeep options) := by
  rw [reports_resolveParameters same, List.flatMap_map]
  refine List.flatMap_congr fun parameter mem => ?_
  have writable := writable parameter mem
  rw [ParameterText.written, ParameterText.types, List.flatMap_map, List.flatMap_assoc]
  refine List.flatMap_congr fun bound mem => ?_
  have types : bound.written.types = bound.types.map TypeTree.written := by
    cases bound <;> rfl
  rw [types, List.flatMap_map]
  exact List.flatMap_congr fun type mem' => Scope.boundReports_written
    (writable.writable bound mem type mem') (writable.isBound bound mem type mem')

end NamedClass

end ByNames

/-! ## In a library -/

/-- The generic parameter is what is written: it belongs to the class-like, and its
bounds are its own ones. -/
structure Library.IsParameterAsWritten (library : Library) (options : Options) (owner : ClassId)
    (found : GenericParameter) (parameter : ParameterText) : Prop where
  identifier : found.identifier = parameter.name
  owner : found.owner = owner
  upperBounds : List.Forall₂ library.Denotes found.upperBounds
    (parameter.upperTypes.map (TypeTree.limited options))
  lowerBound? : Option.Rel library.Denotes found.lowerBound?
    (parameter.lowerType?.map (TypeTree.limited options))

/-- The two readings of the header agree on its generic parameters. -/
structure Build.ReadsParameters (options : Options) (intake : Intake) (identifier : String)
    (before last : Library) (parameters : List ParameterText) (rest : List Token) : Prop where
  /-- The first reading takes the names. -/
  names : ParameterNames.read intake.rest = parameters.map (·.name)
  /-- The second reading takes the bounds, and leaves what follows the parameters. -/
  bounds : HeaderRest.readParameterList (before.takesArguments intake.id) intake.rest
    = (⟨parameters.map (·.written), none⟩, rest)
  /-- The class-like has a generic parameter for each name. -/
  created : ∃ classLike, before.classLike? intake.id = some classLike
    ∧ classLike.identifier = identifier ∧ classLike.genericParameters.Nodup
    ∧ List.Forall₂ (fun id parameter =>
        before.parameter? id = some { identifier := parameter.name, owner := intake.id })
      classLike.genericParameters parameters
  /-- In the end each of them has the bounds that are written for it. -/
  bounded : ∃ classLike, last.classLike? intake.id = some classLike
    ∧ classLike.identifier = identifier ∧ classLike.genericParameters.Nodup
    ∧ List.Forall₂ (fun id parameter => ∃ found, last.parameter? id = some found
        ∧ last.IsParameterAsWritten options intake.id found parameter)
      classLike.genericParameters parameters

namespace Library.SpellsParameter

variable {library : Library} {scope : Scope} {options : Options} {context : String}
  {found : GenericParameter}

/-- A parameter that is known by its name only has no bounds. -/
theorem eq_of_unbounded {name : String}
    (spells : library.SpellsParameter scope options context found { identifier := name }) :
    found = { identifier := name, owner := found.owner } := by
  obtain ⟨identifier, owner, upperBounds, lowerBound?⟩ := found
  obtain ⟨same, upper, lower⟩ := spells
  cases upper
  cases lower
  cases same
  rfl

theorem isParameterAsWritten {parameter : ParameterText}
    (spells : library.SpellsParameter scope options context found (parameter.named options)) :
    library.IsParameterAsWritten options found.owner found parameter where
  identifier := spells.identifier
  owner := rfl
  upperBounds := spells.upperBounds.imp fun _ _ means => means.denotes
  lowerBound? := Related.optional spells.lowerBound? fun _ _ means => means.denotes

end Library.SpellsParameter

/-- In its turn a header with well-formed generic parameters gives them their bounds. -/
theorem Build.TracesHeader.reads {options : Options} {declarations : List Declaration}
    {intake : Intake} {registration : Registration} {before after last : BuildState}
    (traces : TracesHeader options declarations intake registration before after last)
    (generic : registration.start.kind.isEnum = false) {parameters : List ParameterText}
    {rest : List Token}
    (written : registration.start.rest = ParameterText.listTokens parameters ++ rest)
    (writable : ∀ parameter ∈ parameters,
      parameter.IsWritable (scopeOf declarations) registration.identifier) :
    ReadsParameters options intake registration.identifier before.library last.library parameters
      rest := by
  have enums : (scopeOf declarations).HasPlainEnums := fun _ _ => traces.coherent.enum_parameters
  have readable : ∀ parameter ∈ parameters, parameter.IsReadable
      ((scopeOf declarations).takesArguments registration.identifier) :=
    fun parameter mem => (writable parameter mem).isReadable enums
  have names : ParameterNames.read intake.rest = parameters.map (·.name) := by
    rw [traces.takes.rest, written]
    exact ParameterText.read_listTokens readable rest
  have bounds : HeaderRest.readParameterList
      ((scopeOf declarations).takesArguments registration.identifier) intake.rest
        = (⟨parameters.map (·.written), none⟩, rest) := by
    rw [traces.takes.rest, written]
    exact ParameterText.readParameterList_tokens readable rest
  have placed : registration.named.parameters
      = parameters.map fun parameter => { identifier := parameter.name } := by
    rw [Registration.named, Registration.parameters, if_neg (Bool.eq_false_iff.1 generic),
      ← traces.takes.rest, names, List.map_map]
    rfl
  have isEnum : registration.named.bare.kind.isEnum = false :=
    (Kind.isEnum_withoutSupertypes _).trans generic
  have resolved : (registration.named.resolveHeader (scopeOf declarations) options intake.signature
      intake.rest).value.parameters = parameters.map (ParameterText.named options) := by
    rw [NamedClass.parameters_resolveHeader, HeaderRest.read, isEnum, Bool.not_false, if_pos rfl,
      show registration.named.identifier = registration.identifier from rfl, bounds]
    exact NamedClass.parameters_resolveParameters_written rfl placed writable
  obtain ⟨classLike, declared, same, spells⟩ := traces.declaredAs.exists_classLike
  obtain ⟨classLike', declared', same', spells'⟩ := traces.resolved.exists_classLike
  have created := spells.parameters
  have bounded := spells'.parameters
  rw [placed, List.forall₂_map_right_iff] at created
  rw [resolved, List.forall₂_map_right_iff] at bounded
  have nodup := traces.coherent.genericParameters_nodup declared
  have kept := traces.grows_last.parametersOf traces.declaredAs.isNamed
  simp only [Library.parametersOf, declared.1, declared'.1, Option.map_some, Option.getD_some]
    at kept
  refine {
    names
    bounds := by rw [traces.coherent.takesArguments_eq traces.declaredAs.isNamed, bounds]
    created := ⟨classLike, declared.1, same, nodup, created.imp ?_⟩
    bounded := ⟨classLike', declared'.1, same', kept ▸ nodup, bounded.imp ?_⟩ }
  · rintro id parameter ⟨found, known, owner, spells⟩
    rw [known, spells.eq_of_unbounded, owner]
  · rintro id parameter ⟨found, known, owner, spells⟩
    exact ⟨found, known, owner ▸ spells.isParameterAsWritten⟩

/-- Whatever else is declared, a header that goes on with well-formed generic parameters
has its turn, and declares them with their own bounds. -/
theorem readsParameters (options : Options) {declarations : List Declaration}
    {registration : Registration}
    (mem : registration ∈ registrationsOf (Standard.prelude ++ declarations))
    (generic : registration.start.kind.isEnum = false) {parameters : List ParameterText}
    {rest : List Token}
    (written : registration.start.rest = ParameterText.listTokens parameters ++ rest)
    (writable : ∀ parameter ∈ parameters, parameter.IsWritable
      (scopeOf (Standard.prelude ++ declarations)) registration.identifier) :
    ∃ intake before after last,
      Build.HeaderTurn options (Standard.prelude ++ declarations) intake before after last
        ∧ intake.signature = registration.declaration.signature
        ∧ Build.ReadsParameters options intake registration.identifier before.library last.library
          parameters rest := by
  obtain ⟨intake, before, after, last, turn, traces⟩ :=
    Build.exists_traces_of_mem options (sound_prelude declarations) mem
  exact ⟨intake, before, after, last, turn, traces.takes.signature,
    traces.reads generic written writable⟩

/-- A header whose bounds have nested type arguments. -/
def Declaration.cabinet : Declaration where
  signature := "class Cabinet<K extends Drawer<K[], Drawer<K, V>> & Object, V super K> extends Lock"

/-- The class-like in the bounds is declared later. -/
def Declaration.cabinets : List Declaration := [cabinet, { signature := "class Drawer<E, F>" }]

/-- The generic parameters of the header. -/
def ParameterText.cabinet : List ParameterText :=
  [⟨"K", [.upper [.applied "Drawer" [.parameter "Cabinet" "K" 1, .applied "Drawer"
    [.parameter "Cabinet" "K" 0, .parameter "Cabinet" "V" 0] 0] 0, .object]]⟩,
    ⟨"V", [.lower (.parameter "Cabinet" "K" 0)]⟩]

theorem HeaderStart.read_cabinet :
    HeaderStart.read (tokenize Declaration.cabinet.signature).significant
      = .ok ⟨{}, .class none [] false, "Cabinet", ParameterText.listTokens ParameterText.cabinet
        ++ [.keyword .extends, .identifier "Lock"]⟩ := by
  simp only [ParameterText.listTokens, ParameterText.separatedTokens, ParameterText.cabinet,
    ParameterText.tokens, BoundText.tokens, TypeTree.separatedTokens, TypeTree.object,
    TypeTree.tokens, List.map, List.flatMap]
  rfl

theorem exists_cabinet : ∃ registration ∈
    registrationsOf (Standard.prelude ++ Declaration.cabinets),
      registration.declaration.signature = Declaration.cabinet.signature := by
  have known : (registrationsOf (Standard.prelude ++ Declaration.cabinets)).any
      (·.declaration.signature == Declaration.cabinet.signature) = true := by
    decide +kernel
  simpa using known

theorem scopeOf_cabinets :
    scopeOf (Standard.prelude ++ Declaration.cabinets) "Cabinet" = some ⟨.class, ["K", "V"]⟩
      ∧ scopeOf (Standard.prelude ++ Declaration.cabinets) "Drawer" = some ⟨.class, ["E", "F"]⟩
      ∧ scopeOf (Standard.prelude ++ Declaration.cabinets) Standard.objectIdentifier
        = some ⟨.class, []⟩ := by
  decide +kernel

theorem ParameterText.isWritable_cabinet {scope : Scope}
    (cabinet : scope "Cabinet" = some ⟨.class, ["K", "V"]⟩)
    (drawer : scope "Drawer" = some ⟨.class, ["E", "F"]⟩)
    (object : scope Standard.objectIdentifier = some ⟨.class, []⟩) :
    ∀ parameter ∈ ParameterText.cabinet, parameter.IsWritable scope "Cabinet" := by
  have undeclared {name : String} (free : name ∉ ["K", "V"]) :
      scope.declaresParameter "Cabinet" name = false := by
    simpa [Scope.declaresParameter, Scope.parametersOf, cabinet] using free
  have key (n : Nat) : (TypeTree.parameter "Cabinet" "K" n).IsWritable scope {} "Cabinet" :=
    .parameter cabinet (.head _) rfl n
  have value : (TypeTree.parameter "Cabinet" "V" 0).IsWritable scope {} "Cabinet" :=
    .parameter cabinet (.tail _ (.head _)) rfl 0
  have applied {first second : TypeTree} (isFirst : first.IsWritable scope {} "Cabinet")
      (isSecond : second.IsWritable scope {} "Cabinet")
      (within : (TypeTree.applied "Drawer" [first, second] 0).depth ≤ 8) :
      (TypeTree.applied "Drawer" [first, second] 0).IsWritable scope {} "Cabinet" :=
    .applied drawer rfl rfl (List.cons_ne_nil _ _) (undeclared (by decide)) within
      (by simpa using ⟨isFirst, isSecond⟩)
  have root : TypeTree.object.IsWritable scope {} "Cabinet" :=
    .declared object rfl (undeclared (by decide)) 0
  have inner := applied (key 0) value (by simp [TypeTree.depth])
  have outer := applied (key 1) inner (by simp [TypeTree.depth])
  rintro _ (_ | ⟨_, _ | ⟨_, ⟨⟩⟩⟩)
  · refine ⟨?_, ?_, ?_⟩ <;> rintro _ (_ | ⟨_, ⟨⟩⟩)
    · exact List.cons_ne_nil _ _
    · rintro _ (_ | ⟨_, _ | ⟨_, ⟨⟩⟩⟩)
      · exact ⟨{}, outer⟩
      · exact ⟨{}, root⟩
    · rintro _ (_ | ⟨_, _ | ⟨_, ⟨⟩⟩⟩) <;> rfl
  · refine ⟨?_, ?_, ?_⟩ <;> rintro _ (_ | ⟨_, ⟨⟩⟩)
    · exact List.cons_ne_nil _ _
    · rintro _ (_ | ⟨_, ⟨⟩⟩)
      exact ⟨{}, key 0⟩
    · rintro _ (_ | ⟨_, ⟨⟩⟩)
      rfl

theorem readsParameters_cabinet : ∃ registration intake before after last,
    registration ∈ registrationsOf (Standard.prelude ++ Declaration.cabinets)
      ∧ Build.HeaderTurn {} (Standard.prelude ++ Declaration.cabinets) intake before after last
      ∧ intake.signature = Declaration.cabinet.signature
      ∧ Build.ReadsParameters {} intake "Cabinet" before.library last.library
        ParameterText.cabinet [.keyword .extends, .identifier "Lock"] := by
  obtain ⟨registration, mem, same⟩ := exists_cabinet
  obtain ⟨declaration, _, read, same'⟩ := Registration.exists_of_mem_readAll mem
  rw [← same', same, HeaderStart.read_cabinet] at read
  have start := Except.ok.inj read
  obtain ⟨cabinet, drawer, object⟩ := scopeOf_cabinets
  have name : registration.identifier = "Cabinet" := by
    rw [Registration.identifier, ← start]
  obtain ⟨intake, before, after, last, turn, signature, reads⟩ := readsParameters {} mem
    (by rw [← start]; rfl) (by rw [← start])
    (name.symm ▸ ParameterText.isWritable_cabinet cabinet drawer object)
  exact ⟨registration, intake, before, after, last, mem, turn, signature.trans same, name ▸ reads⟩

end ClassModel
