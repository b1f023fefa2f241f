import ClassModel.Proofs.WrittenBounds

/-!
# ClassModel.Proofs.WrittenSupertypes

Supertypes are what the clauses of a header say. The first class that a class
extends is its superclass, or else the root class is, and interfaces come from the
clauses that are there for them. Every other type is reported once and adds nothing
(`resolvesSupertypes`).
-/

namespace ClassModel

/-! ## Written supertypes -/

/-- What a clause adds to a class-like of the keyword. -/
def Keyword.adds (owner : Keyword) (clause : ClauseKind) : SupertypeKind :=
  match owner, clause with
  | .class, .extends => .class
  | .class, .implements | .interface, .extends | .enum, .implements => .interface
  | _, _ => .nothing

section Clauses

variable (scope : Scope) (options : Options) (owner : Keyword) (signature : String)

/-- The first class among the types that a class extends. -/
def Scope.firstClass? (types : List TypeTree) : Option TypeTree :=
  types.find? (scope.keyword? · == some .class)

/-- What is wrong with a type in a clause, if the class-like extends the earlier types. -/
def Scope.complaint? (earlier : List TypeTree) (clause : ClauseKind) (type : TypeTree) :
    Option NamedDiagnostic :=
  match scope.keyword? type with
  | none => some ⟨.expectedClassLike signature (type.limited options).signature, []⟩
  | some keyword =>
    if !(owner.adds clause).admits keyword then
      some ⟨.invalidSupertype signature .placeholder (owner.adds clause), [type.limited options]⟩
    else if owner.adds clause = .class then
      (scope.firstClass? earlier).map fun first =>
        ⟨.multipleSuperclasses signature .placeholder .placeholder,
          [first.limited options, type.limited options]⟩
    else none

namespace ClauseText

/-- The types that the clauses of the kind list, in order. -/
def typesOf (kind : ClauseKind) (clauses : List ClauseText) : List TypeTree :=
  clauses.flatMap fun clause => if clause.kind = kind then clause.types else []

/-- The superclass that the clauses give to a class-like of the keyword. -/
def superclass? (clauses : List ClauseText) : Option TypeTree :=
  if owner
    = .class then (scope.firstClass? (typesOf .extends clauses)).map (TypeTree.limited options)
  else none

/-- The interfaces that the clauses give to a class-like of the keyword: those that an
interface extends, and that a class or an enumeration implements. -/
def interfaces (clauses : List ClauseText) : List TypeTree :=
  ((typesOf (if owner = .interface then .extends else .implements) clauses).filter
    (scope.keyword? · == some .interface)).map (TypeTree.limited options)

/-- What is reported of the types in a clause. -/
def typeReports (kind : ClauseKind) : List TypeTree → List TypeTree → List NamedDiagnostic
  | _, [] => []
  | earlier, type :: types => type.tooDeep options
      ++ (scope.complaint? options owner signature earlier kind type).toList
      ++ typeReports kind (earlier ++ typesOf .extends [⟨kind, [type]⟩]) types

/-- What is reported of a clause. An interface implements nothing. -/
def clauseReports (earlier : List TypeTree) (clause : ClauseText) : List NamedDiagnostic :=
  if owner = .interface ∧ clause.kind = .implements then
    ⟨.implementsOnInterface signature, []⟩ :: clause.types.flatMap (TypeTree.tooDeep options)
  else typeReports scope options owner signature clause.kind earlier clause.types

/-- What is reported of clauses, if the class-like extends the earlier types. -/
def reports : List TypeTree → List ClauseText → List NamedDiagnostic
  | _, [] => []
  | earlier, clause :: clauses => clauseReports scope options owner signature earlier clause
      ++ reports (earlier ++ typesOf .extends [clause]) clauses

end ClauseText

end Clauses

namespace HeaderText

variable (scope : Scope) (options : Options) (owner : Keyword) (identifier signature : String)
  (header : HeaderText)

/-- The superclass of the class-like that the header declares. -/
def superclass? : Option TypeTree :=
  if owner = .class then
    ((scope.firstClass? (ClauseText.typesOf .extends header.clauses)).map
      (TypeTree.limited options)).or
        (if identifier = Standard.objectIdentifier then none else some .object)
  else none

/-- The rest of the header is well formed. -/
structure IsWritable (context : String) : Prop where
  parameters : ∀ parameter ∈ header.parameters, parameter.IsWritable scope context
  nonempty : ∀ clause ∈ header.clauses, clause.types ≠ []
  types : ∀ clause ∈ header.clauses, ∀ type ∈ clause.types,
    ∃ depth, type.IsWritable scope depth context

/-- What is reported while the header is resolved. -/
def reports : List NamedDiagnostic :=
  (header.parameters.flatMap fun parameter => parameter.types.flatMap (TypeTree.tooDeep options))
    ++ ClauseText.reports scope options owner signature [] header.clauses

end HeaderText

/-! ## By names -/

/-- What the steps come to: the answer, and what is reported. -/
structure Traced.ComesTo {α : Type} (traced : Traced α) (value : α)
    (diagnostics : List NamedDiagnostic) : Prop where
  value : traced.value = value
  reports : reports traced.events = diagnostics

theorem Traced.ComesTo.bind {α β : Type} {traced : Traced α} {next : α → Traced β} {value : α}
    {value' : β} {diagnostics diagnostics' : List NamedDiagnostic}
    (first : traced.ComesTo value diagnostics) (second : (next value).ComesTo value' diagnostics') :
    (traced >>= next).ComesTo value' (diagnostics ++ diagnostics') :=
  ⟨by rw [value_bind, first.value, second.value],
    by rw [events_bind, reports_append, first.reports, first.value, second.reports]⟩

section ByNames

variable {scope : Scope} {options : Options} {signature : String} {named : NamedClass}

/-- A type is complained about unless the clause adds it: the first class that a class
extends, or an interface. -/
theorem Scope.complaint?_eq_none_iff {owner : Keyword} {earlier : List TypeTree}
    {clause : ClauseKind} {type : TypeTree} :
    scope.complaint? options owner signature earlier clause type = none
      ↔ (owner.adds clause = .class ∧ scope.keyword? type = some .class
          ∧ scope.firstClass? earlier = none)
        ∨ owner.adds clause = .interface ∧ scope.keyword? type = some .interface := by
  unfold complaint?
  cases scope.keyword? type with
  | none => simp
  | some keyword =>
    cases owner.adds clause <;> by_cases isClass : keyword = .class <;>
      by_cases isInterface : keyword = .interface <;>
        simp [SupertypeKind.admits, isClass, isInterface]

theorem Kind.keyword_eq_interface_iff {kind : Kind} :
    kind.keyword = .interface ↔ kind.isInterface = true := by
  cases kind <;> simp [keyword, isInterface]

theorem Keyword.eq_of_adds_class {owner : Keyword} {clause : ClauseKind}
    (adds : owner.adds clause = .class) : owner = .class ∧ clause = .extends := by
  cases owner <;> cases clause <;> first | exact ⟨rfl, rfl⟩ | cases adds

/-- A clause that is not rejected accepts what it adds. -/
theorem acceptedBy_eq {kind : Kind} {clause : ClauseKind}
    (notRejected : ¬ (kind.keyword = .interface ∧ clause = .implements)) :
    Build.acceptedBy kind clause = kind.keyword.adds clause := by
  cases kind <;> cases clause <;> first | rfl | exact absurd ⟨rfl, rfl⟩ notRejected

namespace ClauseText

theorem typesOf_append (kind : ClauseKind) (first second : List ClauseText) :
    typesOf kind (first ++ second) = typesOf kind first ++ typesOf kind second :=
  List.flatMap_append

theorem typesOf_singleton (kind clause : ClauseKind) (types : List TypeTree) :
    typesOf kind [⟨clause, types⟩] = if clause = kind then types else [] :=
  List.flatMap_singleton _ _

variable (scope : Scope) (options : Options) (kind : Kind) (clauses : List ClauseText)
  (clause : ClauseKind) (type : TypeTree)

/-- A further type becomes the superclass if it is the first class. -/
theorem superclass?_concat :
    superclass? scope options kind.keyword (clauses ++ [⟨clause, [type]⟩])
      = if kind.keyword.adds clause = .class then
        (superclass? scope options kind.keyword clauses).or
          (if scope.keyword? type = some .class then some (type.limited options) else none)
      else superclass? scope options kind.keyword clauses := by
  by_cases isClass : scope.keyword? type = some .class <;> cases kind <;> cases clause <;>
    simp [superclass?, Scope.firstClass?, typesOf_append, typesOf_singleton, Kind.keyword,
      Keyword.adds, isClass, List.find?_append]

/-- A further type becomes the last interface if it is one. -/
theorem interfaces_concat :
    interfaces scope options kind.keyword (clauses ++ [⟨clause, [type]⟩])
      = interfaces scope options kind.keyword clauses
        ++ if kind.keyword.adds clause = .interface ∧ scope.keyword? type = some .interface then
          [type.limited options] else [] := by
  by_cases isInterface : scope.keyword? type = some .interface <;> cases kind <;> cases clause <;>
    simp [interfaces, typesOf_append, typesOf_singleton, Kind.keyword, Keyword.adds, isInterface]

end ClauseText

namespace NamedClass

/-- The class-like with the supertypes that the clauses give to it. -/
def withClauses (scope : Scope) (options : Options) (clauses : List ClauseText)
    (named : NamedClass) : NamedClass :=
  { named with
    superclass? := ClauseText.superclass? scope options named.bare.kind.keyword clauses
    interfaces := ClauseText.interfaces scope options named.bare.kind.keyword clauses }

variable {done : List ClauseText} {clause : ClauseKind}

/-- Where a clause is there for interfaces, a type is added or complained about. -/
theorem comesTo_addInterface (accepted : Build.acceptedBy named.bare.kind clause = .interface)
    (adds : named.bare.kind.keyword.adds clause = .interface) (type : TypeTree) :
    ((named.withClauses scope options done).addSupertype scope signature clause
        (type.limited options)).ComesTo
          (named.withClauses scope options (done ++ [⟨clause, [type]⟩]))
      (scope.complaint? options named.bare.kind.keyword signature
        (ClauseText.typesOf .extends done) clause type).toList := by
  have added : named.withClauses scope options (done ++ [⟨clause, [type]⟩])
      = { named.withClauses scope options done with
          interfaces := ClauseText.interfaces scope options named.bare.kind.keyword done
            ++ if scope.keyword? type = some .interface then [type.limited options] else [] } := by
    simp [withClauses, ClauseText.superclass?_concat, ClauseText.interfaces_concat, adds]
  unfold addSupertype Scope.complaint?
  rw [TypeTree.className?_limited, added, adds, Scope.keyword?,
    show Build.acceptedBy (named.withClauses scope options done).bare.kind clause = _ from accepted]
  cases type.className?.bind scope with
  | none =>
    rw [if_neg (by rintro ⟨⟩), List.append_nil]
    exact ⟨rfl, rfl⟩
  | some shape =>
    by_cases isInterface : shape.keyword = .interface
    · simp only [Option.map_some, isInterface, if_true]
      exact ⟨rfl, rfl⟩
    · have refused : SupertypeKind.admits .interface shape.keyword = false :=
        beq_eq_false_iff_ne.2 isInterface
      simp only [Option.map_some, Option.some.injEq, isInterface, if_false, List.append_nil,
        refused]
      exact ⟨rfl, rfl⟩

/-- The first class that a class extends becomes its superclass, and any other type is
complained about. -/
theorem comesTo_addSuperclass (isClass : named.bare.kind.keyword = .class) (type : TypeTree) :
    ((named.withClauses scope options done).addSupertype scope signature .extends
        (type.limited options)).ComesTo
          (named.withClauses scope options (done ++ [⟨.extends, [type]⟩]))
      (scope.complaint? options named.bare.kind.keyword signature
        (ClauseText.typesOf .extends done) .extends type).toList := by
  have adds : named.bare.kind.keyword.adds .extends = .class := by
    rw [isClass]
    rfl
  have accepted : Build.acceptedBy (named.withClauses scope options done).bare.kind .extends
      = .class := by
    refine (acceptedBy_eq ?_).trans adds
    rintro ⟨_, ⟨⟩⟩
  have existing : (named.withClauses scope options done).superclass?
      = (scope.firstClass? (ClauseText.typesOf .extends done)).map (TypeTree.limited options) :=
    if_pos isClass
  have added : named.withClauses scope options (done ++ [⟨.extends, [type]⟩])
      = { named.withClauses scope options done with
          superclass? := (named.withClauses scope options done).superclass?.or
            (if scope.keyword? type
              = some .class then some (type.limited options) else none) } := by
    simp [withClauses, ClauseText.superclass?_concat, ClauseText.interfaces_concat, adds]
  unfold addSupertype Scope.complaint?
  rw [TypeTree.className?_limited, accepted, adds, added, existing, Scope.keyword?]
  cases type.className?.bind scope with
  | none =>
    rw [if_neg (by rintro ⟨⟩), Option.or_none, ← existing]
    exact ⟨rfl, rfl⟩
  | some shape =>
    by_cases isClass : shape.keyword = .class
    · simp only [Option.map_some, isClass, if_true]
      cases found : scope.firstClass? (ClauseText.typesOf .extends done) with
      | none => exact ⟨rfl, rfl⟩
      | some first =>
        -- The class-like has got the first class already.
        rw [found, Option.map_some] at existing
        have same : ({ named.withClauses scope options done with
            superclass? := some (first.limited options) } : NamedClass)
              = named.withClauses scope options done := by
          rw [← existing]
        exact ⟨same.symm, rfl⟩
    · have refused : SupertypeKind.admits .class shape.keyword = false :=
        beq_eq_false_iff_ne.2 isClass
      simp only [Option.map_some, Option.some.injEq, isClass, if_false, Option.or_none, refused,
        ← existing]
      exact ⟨rfl, rfl⟩

/-- One supertype is added or complained about. -/
theorem comesTo_addSupertype
    (notRejected : ¬ (named.bare.kind.keyword = .interface ∧ clause = .implements))
    (type : TypeTree) :
    ((named.withClauses scope options done).addSupertype scope signature clause
        (type.limited options)).ComesTo
          (named.withClauses scope options (done ++ [⟨clause, [type]⟩]))
      (scope.complaint? options named.bare.kind.keyword signature
        (ClauseText.typesOf .extends done) clause type).toList := by
  have accepted := acceptedBy_eq notRejected
  cases adds : named.bare.kind.keyword.adds clause with
  | «class» =>
    obtain ⟨isClass, rfl⟩ := Keyword.eq_of_adds_class adds
    exact comesTo_addSuperclass isClass type
  | interface => exact comesTo_addInterface (accepted.trans adds) adds type
  | nothing =>
    have kept : named.withClauses scope options (done ++ [⟨clause, [type]⟩])
        = named.withClauses scope options done := by
      simp [withClauses, ClauseText.superclass?_concat, ClauseText.interfaces_concat, adds]
    unfold addSupertype Scope.complaint?
    rw [TypeTree.className?_limited, kept, adds, Scope.keyword?,
      show Build.acceptedBy (named.withClauses scope options done).bare.kind clause = _ from
        accepted.trans adds]
    cases type.className?.bind scope <;> exact ⟨rfl, rfl⟩

/-- Only the types of the clauses count. -/
theorem withClauses_congr {clauses clauses' : List ClauseText}
    (same : ∀ kind, ClauseText.typesOf kind clauses = ClauseText.typesOf kind clauses') :
    named.withClauses scope options clauses = named.withClauses scope options clauses' := by
  simp only [withClauses, ClauseText.superclass?, ClauseText.interfaces, same]

/-- The types of a clause are added or complained about one after the other. -/
theorem comesTo_resolveSupertypes
    (notRejected : ¬ (named.bare.kind.keyword = .interface ∧ clause = .implements))
    {types : List TypeTree}
    (writable : ∀ type ∈ types, ∃ depth, type.IsWritable scope depth named.identifier) :
    ((types.map TypeTree.written).foldlM (fun (named : NamedClass) type =>
        named.resolveSupertype scope options signature clause false type)
          (named.withClauses scope options done)).ComesTo
      (named.withClauses scope options (done ++ [⟨clause, types⟩]))
      (ClauseText.typeReports scope options named.bare.kind.keyword signature clause
        (ClauseText.typesOf .extends done) types) := by
  induction types generalizing done with
  | nil =>
    have same : named.withClauses scope options (done ++ [⟨clause, []⟩])
        = named.withClauses scope options done :=
      withClauses_congr fun kind => by
        rw [ClauseText.typesOf_append, ClauseText.typesOf_singleton, ite_self, List.append_nil]
    rw [same]
    exact ⟨rfl, rfl⟩
  | cons type types ih =>
    rw [List.forall_mem_cons] at writable
    obtain ⟨⟨_, isWritable⟩, writable⟩ := writable
    obtain ⟨value, told⟩ := Scope.resolve_written_limited signature isWritable
    have first : ((named.withClauses scope options done).resolveSupertype scope options signature
        clause false type.written).ComesTo
          (named.withClauses scope options (done ++ [⟨clause, [type]⟩])) _ :=
      Traced.ComesTo.bind ⟨value, told⟩ (comesTo_addSupertype notRejected type)
    have same : named.withClauses scope options (done ++ [⟨clause, type :: types⟩])
        = named.withClauses scope options (done ++ [⟨clause, [type]⟩] ++ [⟨clause, types⟩]) :=
      withClauses_congr fun kind => by
        simp only [ClauseText.typesOf_append, ClauseText.typesOf_singleton, List.append_assoc]
        split <;> rfl
    rw [List.map_cons, List.foldlM_cons, same, ClauseText.typeReports,
      ← ClauseText.typesOf_append]
    exact first.bind (ih writable)

/-- The types of a rejected clause are resolved and ignored. -/
theorem comesTo_ignoreSupertypes {types : List TypeTree}
    (writable : ∀ type ∈ types, ∃ depth, type.IsWritable scope depth named.identifier) :
    ((types.map TypeTree.written).foldlM (fun (named : NamedClass) type =>
        named.resolveSupertype scope options signature clause true type) named).ComesTo named
      (types.flatMap (TypeTree.tooDeep options)) := by
  induction types with
  | nil => exact ⟨rfl, rfl⟩
  | cons type types ih =>
    rw [List.forall_mem_cons] at writable
    obtain ⟨⟨_, isWritable⟩, writable⟩ := writable
    obtain ⟨_, told⟩ := Scope.resolve_written_limited signature isWritable
    have first : (named.resolveSupertype scope options signature clause true type.written).ComesTo
        named (type.tooDeep options) := by
      rw [resolveSupertype]
      refine ⟨rfl, ?_⟩
      rw [Traced.events_bind, reports_append]
      exact (congrArg (· ++ []) told).trans (List.append_nil _)
    rw [List.map_cons, List.foldlM_cons, List.flatMap_cons]
    exact first.bind (ih writable)

/-- A clause is resolved. -/
theorem comesTo_resolveClause {clause : ClauseText}
    (writable : ∀ type ∈ clause.types, ∃ depth, type.IsWritable scope depth named.identifier) :
    ((named.withClauses scope options done).resolveClause scope options signature
        clause.written).ComesTo (named.withClauses scope options (done ++ [clause]))
      (clause.clauseReports scope options named.bare.kind.keyword signature
        (ClauseText.typesOf .extends done)) := by
  have isRejected : ((named.withClauses scope options done).bare.kind.isInterface
      && clause.written.kind == .implements) = true
        ↔ named.bare.kind.keyword = .interface ∧ clause.kind = .implements := by
    rw [Bool.and_eq_true, beq_iff_eq]
    exact and_congr_left' Kind.keyword_eq_interface_iff.symm
  unfold resolveClause ClauseText.clauseReports
  dsimp only
  by_cases rejected : named.bare.kind.keyword = .interface ∧ clause.kind = .implements
  · have ignored : named.withClauses scope options (done ++ [clause])
        = named.withClauses scope options done := by
      obtain ⟨kind, types⟩ := clause
      obtain ⟨owner, rfl⟩ := rejected
      simp [withClauses, ClauseText.superclass?, ClauseText.interfaces, owner,
        ClauseText.typesOf_append, ClauseText.typesOf_singleton]
    rw [if_pos (isRejected.2 rejected), if_pos rejected, isRejected.2 rejected, ignored]
    exact Traced.ComesTo.bind ⟨rfl, rfl⟩ (comesTo_ignoreSupertypes writable)
  · rw [if_neg (mt isRejected.1 rejected), if_neg rejected,
      Bool.eq_false_iff.2 (mt isRejected.1 rejected)]
    exact comesTo_resolveSupertypes rejected writable

/-- Clauses are resolved one after the other. -/
theorem comesTo_resolveClauses {clauses : List ClauseText}
    (writable : ∀ clause ∈ clauses, ∀ type ∈ clause.types,
      ∃ depth, type.IsWritable scope depth named.identifier) :
    ((clauses.map ClauseText.written).foldlM (fun (named : NamedClass) clause =>
        named.resolveClause scope options signature clause)
          (named.withClauses scope options done)).ComesTo
      (named.withClauses scope options (done ++ clauses))
      (ClauseText.reports scope options named.bare.kind.keyword signature
        (ClauseText.typesOf .extends done) clauses) := by
  induction clauses generalizing done with
  | nil =>
    rw [List.append_nil]
    exact ⟨rfl, rfl⟩
  | cons clause clauses ih =>
    rw [List.forall_mem_cons] at writable
    have first : ((named.withClauses scope options done).resolveClause scope options signature
        clause.written).ComesTo _ _ := comesTo_resolveClause writable.1
    rw [List.map_cons, List.foldlM_cons, ClauseText.reports, ← ClauseText.typesOf_append,
      List.append_cons done clause]
    exact first.bind (ih writable.2)

/-- A class without a superclass extends the root class. -/
theorem withDefaultSuperclass_withClauses (header : HeaderText) :
    (named.withClauses scope options header.clauses).withDefaultSuperclass
      = { named.withClauses scope options header.clauses with
          superclass? := header.superclass? scope options named.bare.kind.keyword
            named.identifier } := by
  unfold withDefaultSuperclass HeaderText.superclass?
  by_cases isClass : named.bare.kind.keyword = .class
  · rw [withClauses, ClauseText.superclass?, if_pos isClass, if_pos isClass,
      Kind.keyword_eq_class_iff.1 isClass]
    cases scope.firstClass? (ClauseText.typesOf .extends header.clauses) with
    | some first => rfl
    | none =>
      by_cases root : named.bare.identifier = Standard.objectIdentifier
      · simp [identifier, root]
      · simp [identifier, root]
  · have other : named.bare.kind.isClass = false :=
      Bool.eq_false_iff.2 (mt Kind.keyword_eq_class_iff.2 isClass)
    rw [withClauses, ClauseText.superclass?, if_neg isClass, if_neg isClass, other]
    rfl

/-- The rest of a well-formed header is resolved. -/
theorem comesTo_resolveHeader {header : HeaderText} (enums : scope.HasPlainEnums)
    (writable : header.IsWritable scope named.identifier)
    (generic : named.bare.kind.isEnum = true → header.parameters? = none)
    (bare : named.superclass? = none ∧ named.interfaces = []) : ∃ parameters,
      (named.resolveHeader scope options signature header.tokens).ComesTo
        { named with
          parameters
          superclass? := header.superclass? scope options named.bare.kind.keyword named.identifier
          interfaces := ClauseText.interfaces scope options named.bare.kind.keyword header.clauses }
        (header.reports scope options named.bare.kind.keyword signature) := by
  have read : HeaderRest.read (scope.takesArguments named.identifier) (!named.bare.kind.isEnum)
      header.tokens = header.written := by
    refine HeaderText.read_tokens ?_ (fun parameter mem =>
      (writable.parameters parameter mem).isReadable enums) fun clause mem =>
        ⟨writable.nonempty clause mem, fun type mem' => ?_⟩
    · cases isEnum : named.bare.kind.isEnum with
      | false => exact .inl rfl
      | true => exact .inr (generic isEnum)
    · obtain ⟨_, written⟩ := writable.types clause mem type mem'
      exact written.applies_written enums
  obtain ⟨parameters, bounded⟩ := @exists_value_resolveParameters scope options signature named 0
    (header.parameters.map ParameterText.written)
  have start : NamedClass.withClauses scope options [] { named with parameters }
      = { named with parameters } := by
    simp [withClauses, ClauseText.superclass?, ClauseText.interfaces, ClauseText.typesOf,
      Scope.firstClass?, bare]
  have clauses := @comesTo_resolveClauses scope options signature { named with parameters } []
    header.clauses writable.types
  rw [start] at clauses
  have reported := @reports_resolveParameters_written scope options _ signature named
    header.parameters rfl writable.parameters
  refine ⟨parameters, ?_⟩
  have both : (named.resolveRest scope options signature header.written).ComesTo _ _ :=
    Traced.ComesTo.bind ⟨bounded, reported⟩ <| Traced.ComesTo.bind ⟨rfl, rfl⟩ <| clauses.bind <|
      Traced.ComesTo.bind ⟨rfl, rfl⟩ ⟨rfl, rfl⟩
  rw [resolveHeader_eq, read]
  refine ⟨both.value.trans (withDefaultSuperclass_withClauses header), both.reports.trans ?_⟩
  exact congrArg (_ ++ ·) (List.append_nil _)

end NamedClass

end ByNames

/-! ## In a library -/

/-- When the header has been resolved, the class-like has the supertypes that are
written, and what is reported of the header is what is wrong with it. -/
structure Build.ResolvesSupertypes (scope : Scope) (options : Options) (intake : Intake)
    (start : HeaderStart) (header : HeaderText) (before after last : BuildState) : Prop where
  supertypes : ∃ classLike, last.library.classLike? intake.id = some classLike
    ∧ classLike.identifier = start.identifier ∧ classLike.kind.keyword = start.kind.keyword
    ∧ Option.Rel (fun id => last.library.Denotes (.classLike id)) classLike.kind.superclass?
      (header.superclass? scope options start.kind.keyword start.identifier)
    ∧ List.Forall₂ (fun id => last.library.Denotes (.classLike id)) classLike.kind.interfaces
      (ClauseText.interfaces scope options start.kind.keyword header.clauses)
  reports : ∃ diagnostics, after.log.toList = before.log.toList ++ diagnostics
    ∧ List.Forall₂ after.library.Tells diagnostics
      (header.reports scope options start.kind.keyword intake.signature)

/-- Whatever else is declared, a header whose rest is well formed has its turn, and gives
its class-like the supertypes that are written. -/
theorem resolvesSupertypes (options : Options) {declarations : List Declaration}
    {registration : Registration}
    (mem : registration ∈ registrationsOf (Standard.prelude ++ declarations))
    {header : HeaderText} (written : registration.start.rest = header.tokens)
    (generic : registration.start.kind.isEnum = true → header.parameters? = none)
    (writable : header.IsWritable (scopeOf (Standard.prelude ++ declarations))
      registration.identifier) :
    ∃ intake before after last,
      Build.HeaderTurn options (Standard.prelude ++ declarations) intake before after last
        ∧ intake.signature = registration.declaration.signature
        ∧ Build.ResolvesSupertypes (scopeOf (Standard.prelude ++ declarations)) options intake
          registration.start header before after last := by
  obtain ⟨intake, before, after, last, turn, traces⟩ :=
    Build.exists_traces_of_mem options (sound_prelude declarations) mem
  refine ⟨intake, before, after, last, turn, traces.takes.signature, ?_⟩
  have isEnum : registration.named.bare.kind.isEnum = registration.start.kind.isEnum :=
    Kind.isEnum_withoutSupertypes _
  have keyword : registration.named.bare.kind.keyword = registration.start.kind.keyword :=
    Kind.keyword_withoutSupertypes _
  obtain ⟨parameters, resolves⟩ := NamedClass.comesTo_resolveHeader
    (fun _ _ => traces.coherent.enum_parameters) writable (isEnum ▸ generic) ⟨rfl, rfl⟩
  have steps := traces.steps
  have resolved := traces.resolved
  rw [traces.takes.rest, written] at steps resolved
  rw [resolves.value] at resolved
  obtain ⟨diagnostics, log, tells⟩ := steps.log
  obtain ⟨classLike, declared, same, spells⟩ := resolved.exists_classLike
  refine ⟨⟨classLike, declared.1, same, ?_, ?_, ?_⟩, diagnostics, log, ?_⟩
  · have kind := congrArg Kind.keyword spells.kind
    rw [Kind.keyword_withoutSupertypes] at kind
    exact kind.trans keyword
  · have superclass? := Related.optional spells.superclass? fun _ _ means => means.denotes
    rwa [keyword] at superclass?
  · have interfaces := spells.interfaces.imp fun _ _ means => means.denotes
    rwa [keyword] at interfaces
  · rwa [resolves.reports, keyword] at tells

/-- A header whose clauses have types of all kinds. -/
def Declaration.ring : Declaration where
  signature :=
    "class Ring<T> extends Shape, Base implements T[] extends Base implements Shape, Base"

/-- The class-likes in the clauses are declared later. -/
def Declaration.rings : List Declaration :=
  [ring, { signature := "interface Shape" }, { signature := "class Base" }]

/-- What follows the name in the header. -/
def HeaderText.ring : HeaderText where
  parameters? := some [⟨"T", []⟩]
  clauses :=
    [⟨.extends, [.declared "Shape" 0, .declared "Base" 0]⟩,
      ⟨.implements, [.parameter "Ring" "T" 1]⟩, ⟨.extends, [.declared "Base" 0]⟩,
      ⟨.implements, [.declared "Shape" 0, .declared "Base" 0]⟩]

/-- The other class-likes of the header. -/
def Scope.rings : Scope
  | "Shape" => some ⟨.interface, []⟩
  | "Base" => some ⟨.class, []⟩
  | _ => none

example : HeaderText.ring.superclass? .rings {} .class "Ring" = some (.declared "Base" 0) := by cbv

example :
    ClauseText.interfaces .rings {} .class HeaderText.ring.clauses = [.declared "Shape" 0] := by
  cbv

example : HeaderText.ring.reports .rings {} .class "Ring" =
    [⟨.invalidSupertype "Ring" .placeholder .class, [.declared "Shape" 0]⟩,
      ⟨.expectedClassLike "Ring" "T[]", []⟩,
      ⟨.multipleSuperclasses "Ring" .placeholder .placeholder,
        [.declared "Base" 0, .declared "Base" 0]⟩,
      ⟨.invalidSupertype "Ring" .placeholder .interface, [.declared "Base" 0]⟩] := by
  cbv

theorem HeaderStart.read_ring :
    HeaderStart.read (tokenize Declaration.ring.signature).significant
      = .ok ⟨{}, .class none [] false, "Ring", HeaderText.ring.tokens⟩ := by
  simp only [HeaderText.tokens, HeaderText.ring, ClauseText.tokens, TypeTree.separatedTokens,
    TypeTree.tokens, List.map, List.flatMap]
  rfl

theorem exists_ring : ∃ registration ∈ registrationsOf (Standard.prelude ++ Declaration.rings),
    registration.declaration.signature = Declaration.ring.signature := by
  have known : (registrationsOf (Standard.prelude ++ Declaration.rings)).any
      (·.declaration.signature == Declaration.ring.signature) = true := by
    decide +kernel
  simpa using known

theorem scopeOf_rings :
    scopeOf (Standard.prelude ++ Declaration.rings) "Ring" = some ⟨.class, ["T"]⟩
      ∧ scopeOf (Standard.prelude ++ Declaration.rings) "Shape" = some ⟨.interface, []⟩
      ∧ scopeOf (Standard.prelude ++ Declaration.rings) "Base" = some ⟨.class, []⟩ := by
  decide +kernel

theorem HeaderText.isWritable_ring {scope : Scope}
    (ring : scope "Ring" = some ⟨.class, ["T"]⟩) (shape : scope "Shape" = some ⟨.interface, []⟩)
    (base : scope "Base" = some ⟨.class, []⟩) : HeaderText.ring.IsWritable scope "Ring" := by
  have undeclared {name : String} (free : name ≠ "T") :
      scope.declaresParameter "Ring" name = false := by
    simpa [Scope.declaresParameter, Scope.parametersOf, ring] using free
  have isShape : (TypeTree.declared "Shape" 0).IsWritable scope {} "Ring" :=
    .declared shape rfl (undeclared (by decide)) 0
  have isBase : (TypeTree.declared "Base" 0).IsWritable scope {} "Ring" :=
    .declared base rfl (undeclared (by decide)) 0
  have array : (TypeTree.parameter "Ring" "T" 1).IsWritable scope {} "Ring" :=
    .parameter ring (.head _) rfl 1
  constructor
  · rintro _ (_ | ⟨_, ⟨⟩⟩)
    exact ⟨List.forall_mem_nil _, List.forall_mem_nil _, List.forall_mem_nil _⟩
  · rintro _ (_ | ⟨_, _ | ⟨_, _ | ⟨_, _ | ⟨_, ⟨⟩⟩⟩⟩⟩) <;> exact List.cons_ne_nil _ _
  · simp only [HeaderText.ring, List.forall_mem_cons, List.not_mem_nil, false_implies,
      implies_true, and_true]
    exact ⟨⟨⟨{}, isShape⟩, {}, isBase⟩, ⟨{}, array⟩, ⟨{}, isBase⟩, ⟨{}, isShape⟩, {}, isBase⟩

theorem resolvesSupertypes_ring : ∃ registration intake before after last,
    registration ∈ registrationsOf (Standard.prelude ++ Declaration.rings)
      ∧ Build.HeaderTurn {} (Standard.prelude ++ Declaration.rings) intake before after last
      ∧ intake.signature = Declaration.ring.signature
      ∧ Build.ResolvesSupertypes (scopeOf (Standard.prelude ++ Declaration.rings)) {} intake
        registration.start HeaderText.ring before after last := by
  obtain ⟨registration, mem, same⟩ := exists_ring
  obtain ⟨declaration, _, read, same'⟩ := Registration.exists_of_mem_readAll mem
  rw [← same', same, HeaderStart.read_ring] at read
  have start := Except.ok.inj read
  obtain ⟨ring, shape, base⟩ := scopeOf_rings
  have name : registration.identifier = "Ring" := by
    rw [Registration.identifier, ← start]
  obtain ⟨intake, before, after, last, turn, signature, resolves⟩ := resolvesSupertypes {} mem
    (by rw [← start]) (by rw [← start]; rintro ⟨⟩)
    (name.symm ▸ HeaderText.isWritable_ring ring shape base)
  exact ⟨registration, intake, before, after, last, mem, turn, signature.trans same, resolves⟩

end ClassModel
