import ClassModel.Proofs.Written

/-!
# ClassModel.Proofs.Reread

Reading a signature where more names take arguments. A reader asks only about
the names that occur in what it answers, so it answers the same as long as they
take arguments as before (`TypeExpr.read_eq`, `HeaderRest.read_eq`,
`AttributeExpr.read_eq`, `MethodExpr.read_eq`).
-/

namespace ClassModel

variable {takes takes' : String → Bool}

namespace TypeExpr

/-- All names in the written type have the property. -/
def All (p : String → Prop) : TypeExpr → Prop
  | missing _ _ => True
  | name identifier _ => p identifier
  | application identifier arguments _ _ => p identifier ∧ ∀ argument ∈ arguments, argument.All p

theorem All.imp {p q : String → Prop} {expr : TypeExpr} (all : expr.All p)
    (step : ∀ name, p name → q name) : expr.All q := by
  induction expr with
  | missing => rw [All]; trivial
  | name identifier => rw [All] at *; exact step _ all
  | application identifier arguments unclosed? dimension ih =>
    rw [All] at *
    exact ⟨step _ all.1, fun argument mem => ih argument mem (all.2 argument mem)⟩

/-- What is read does not change, if the names in it still take arguments or do
not. -/
theorem reading_eq :
    (∀ bound tokens, ((readWithin takes bound tokens).1.All fun name => takes name = takes' name) →
        readWithin takes' bound tokens = readWithin takes bound tokens)
      ∧ ∀ bound tokens, (∀ expr ∈ (readArgumentsWithin takes bound tokens).1,
          expr.All fun name => takes name = takes' name) →
        readArgumentsWithin takes' bound tokens = readArgumentsWithin takes bound tokens := by
  apply reading_induction
  case zero | nil =>
    intros
    simp [readWithin]
  case name =>
    intro bound identifier rest arguments all
    rw [readWithin] at all
    rw [readWithin, readWithin]
    split at all
    · next rest' taken mark =>
      rw [All] at all
      rw [← all.1, taken, mark]
      dsimp only
      rw [arguments rest' all.2]
    · next other =>
      rw [All] at all
      rw [← all]
      split
      · next taken mark => exact absurd mark (other _ taken)
      · rfl
  case missing =>
    intro bound found rest noName _
    rw [readWithin_of_noName noName, readWithin_of_noName noName]
  case none =>
    intro bound tokens stops _
    rw [stops, stops]
  case argument =>
    intro bound identifier rest first later all
    simp only [readArgumentsWithin] at all ⊢
    generalize readWithin takes bound (.identifier identifier :: rest) = read at all first ⊢
    obtain ⟨type, rest'⟩ := read
    dsimp only at all first ⊢
    split at all
    · next rest'' mark =>
      simp only [List.mem_cons, forall_eq_or_imp] at all
      rw [first all.1]
      dsimp only
      rw [mark]
      dsimp only
      rw [later rest'' all.2]
    · next unmet rest'' mark =>
      simp only [List.mem_singleton, forall_eq] at all
      rw [first all]
      dsimp only
      rw [mark]

theorem read_eq (tokens : List Token)
    (all : (read takes tokens).1.All fun name => takes name = takes' name) :
    read takes' tokens = read takes tokens :=
  reading_eq.1 _ tokens all

theorem readSeparatedWithin_eq (mark : Char) (bound : Nat) (tokens : List Token)
    (all : ∀ expr ∈ (readSeparatedWithin takes mark bound tokens).1,
      expr.All fun name => takes name = takes' name) :
    readSeparatedWithin takes' mark bound tokens = readSeparatedWithin takes mark bound tokens := by
  induction bound generalizing tokens with
  | zero =>
    simp only [readSeparatedWithin, List.mem_singleton, forall_eq] at all ⊢
    rw [read_eq tokens all]
  | succ bound ih =>
    have first := @read_eq takes takes' tokens
    simp only [readSeparatedWithin] at all ⊢
    generalize read takes tokens = found at all first ⊢
    obtain ⟨type, rest⟩ := found
    dsimp only at all first ⊢
    split at all
    · next rest' follows =>
      simp only [List.mem_cons, forall_eq_or_imp] at all
      rw [first all.1]
      dsimp only
      rw [follows]
      dsimp only
      rw [ih rest' all.2]
    · next unmet rest' follows =>
      simp only [List.mem_singleton, forall_eq] at all
      rw [first all]
      dsimp only
      rw [follows]

theorem readSeparated_eq (mark : Char) (tokens : List Token)
    (all : ∀ expr ∈ (readSeparated takes mark tokens).1,
      expr.All fun name => takes name = takes' name) :
    readSeparated takes' mark tokens = readSeparated takes mark tokens :=
  readSeparatedWithin_eq mark _ tokens all

end TypeExpr

/-! ## Headers -/

/-- The types of a bound. -/
def BoundExpr.types : BoundExpr → List TypeExpr
  | upper types => types
  | lower type => [type]

namespace HeaderRest

theorem readBoundsWithin_eq (bound : Nat) (tokens : List Token)
    (all : ∀ expr ∈ (readBoundsWithin takes bound tokens).1, ∀ type ∈ expr.types,
      type.All fun name => takes name = takes' name) :
    readBoundsWithin takes' bound tokens = readBoundsWithin takes bound tokens := by
  fun_induction readBoundsWithin takes bound tokens with
  | case1 => rfl
  | case2 bound rest types rest' read bounds rest'' more ih =>
    simp only [List.mem_cons, forall_eq_or_imp] at all
    rw [more] at ih
    rw [readBoundsWithin, TypeExpr.readSeparated_eq '&' rest (by rw [read]; exact all.1), read]
    dsimp only
    rw [ih all.2]
  | case3 bound rest type rest' read bounds rest'' more ih =>
    simp only [List.mem_cons, forall_eq_or_imp] at all
    rw [more] at ih
    rw [readBoundsWithin, TypeExpr.read_eq rest (by rw [read]; simpa [BoundExpr.types] using all.1),
      read]
    dsimp only
    rw [ih all.2]
  | case4 bound tokens notExtends notSuper => rw [readBoundsWithin] <;> assumption

theorem readParametersWithin_eq (bound : Nat) (tokens : List Token)
    (all : ∀ parameter ∈ (readParametersWithin takes bound tokens).1,
      ∀ expr ∈ parameter.bounds, ∀ type ∈ expr.types,
        type.All fun name => takes name = takes' name) :
    readParametersWithin takes' bound tokens = readParametersWithin takes bound tokens := by
  fun_induction readParametersWithin takes bound tokens with
  | case1 => rfl
  | case2 bound identifier rest bounds rest' read rest'' follows parameters rest''' more ih =>
    simp only [List.mem_cons, forall_eq_or_imp] at all
    rw [more] at ih
    rw [readParametersWithin, readBoundsWithin_eq _ rest (by rw [read]; exact all.1), read]
    dsimp only
    rw [follows]
    dsimp only
    rw [ih all.2]
  | case3 bound identifier rest bounds rest' read unmet rest'' follows =>
    simp only [List.mem_singleton, forall_eq] at all
    rw [readParametersWithin, readBoundsWithin_eq _ rest (by rw [read]; exact all), read]
    dsimp only
    rw [follows]
  | case4 bound tokens notName => rw [readParametersWithin]; assumption

theorem readClausesWithin_eq (bound : Nat) (tokens : List Token)
    (all : ∀ clause ∈ (readClausesWithin takes bound tokens).1, ∀ type ∈ clause.types,
      type.All fun name => takes name = takes' name) :
    readClausesWithin takes' bound tokens = readClausesWithin takes bound tokens := by
  fun_induction readClausesWithin takes bound tokens with
  | case1 => rfl
  | case2 bound rest types rest' read clauses rest'' more ih
  | case3 bound rest types rest' read clauses rest'' more ih =>
    simp only [List.mem_cons, forall_eq_or_imp] at all
    rw [more] at ih
    rw [readClausesWithin, TypeExpr.readSeparated_eq ',' rest (by rw [read]; exact all.1), read]
    dsimp only
    rw [ih all.2]
  | case4 bound tokens notExtends notImplements => rw [readClausesWithin] <;> assumption

/-- The types of a header. -/
def types (header : HeaderRest) : List TypeExpr :=
  header.parameterList.parameters.flatMap (·.bounds.flatMap BoundExpr.types)
    ++ header.clauses.flatMap (·.types)

/-- All names in the types of a header have the property. -/
structure All (p : String → Prop) (header : HeaderRest) : Prop where
  parameters : ∀ parameter ∈ header.parameterList.parameters, ∀ expr ∈ parameter.bounds,
    ∀ type ∈ expr.types, type.All p
  clauses : ∀ clause ∈ header.clauses, ∀ type ∈ clause.types, type.All p

theorem All.imp {p q : String → Prop} {header : HeaderRest} (all : header.All p)
    (step : ∀ name, p name → q name) : header.All q :=
  ⟨fun parameter mem expr mem' type mem'' => (all.1 parameter mem expr mem' type mem'').imp step,
    fun clause mem type mem' => (all.2 clause mem type mem').imp step⟩

theorem read_eq {isGeneric : Bool} {tokens : List Token}
    (all : (read takes isGeneric tokens).All fun name => takes name = takes' name) :
    read takes' isGeneric tokens = read takes isGeneric tokens := by
  obtain ⟨parameters, clauses⟩ := all
  have list (parameters : ∀ parameter ∈ (readParameterList takes tokens).1.parameters,
      ∀ expr ∈ parameter.bounds, ∀ type ∈ expr.types,
        type.All fun name => takes name = takes' name) :
      readParameterList takes' tokens = readParameterList takes tokens := by
    unfold readParameterList at parameters ⊢
    split
    · rfl
    · next rest opened =>
      rw [opened] at parameters
      rw [readParametersWithin_eq _ rest parameters]
  unfold read at parameters clauses ⊢
  cases isGeneric with
  | false =>
    simp only [Bool.false_eq_true, if_false] at clauses ⊢
    rw [readClausesWithin_eq _ tokens clauses]
  | true =>
    simp only [if_true] at parameters clauses ⊢
    rw [list parameters, readClausesWithin_eq _ _ clauses]

end HeaderRest

/-! ## Members -/

theorem AttributeExpr.read_eq {tokens : List Token}
    (all : (read takes tokens).type.All fun name => takes name = takes' name) :
    read takes' tokens = read takes tokens := by
  unfold read at all ⊢
  generalize Modifiers.read tokens = modified at all ⊢
  obtain ⟨modifiers, rest⟩ := modified
  have first := @TypeExpr.read_eq takes takes' rest
  dsimp only at all ⊢
  generalize TypeExpr.read takes rest = found at all first ⊢
  obtain ⟨type, rest'⟩ := found
  dsimp only at all first ⊢
  rw [first (by split at all <;> exact all)]

namespace MethodExpr

theorem readFormalsWithin_eq (bound : Nat) (tokens : List Token)
    (all : ∀ formal ∈ (readFormalsWithin takes bound tokens).1,
      formal.type.All fun name => takes name = takes' name) :
    readFormalsWithin takes' bound tokens = readFormalsWithin takes bound tokens := by
  have first (tokens : List Token)
      (all : (readFormal takes tokens).1.type.All fun name => takes name = takes' name) :
      readFormal takes' tokens = readFormal takes tokens := by
    unfold readFormal at all ⊢
    rw [TypeExpr.read_eq tokens all]
  fun_induction readFormalsWithin takes bound tokens with
  | case1 => rfl
  | case2 bound identifier rest formal rest' read rest'' follows formals rest''' more ih =>
    simp only [List.mem_cons, forall_eq_or_imp] at all
    rw [more] at ih
    rw [readFormalsWithin, first _ (by rw [read]; exact all.1), read]
    dsimp only
    rw [follows]
    dsimp only
    rw [ih all.2]
  | case3 bound identifier rest formal rest' read unmet rest'' follows =>
    simp only [List.mem_singleton, forall_eq] at all
    rw [readFormalsWithin, first _ (by rw [read]; exact all), read]
    dsimp only
    rw [follows]
  | case4 bound tokens notName => rw [readFormalsWithin]; assumption

/-- The types of a method. -/
def types (method : MethodExpr) : List TypeExpr :=
  method.returnType?.toList ++ method.formalList.formals.map (·.type)

/-- All names in the types of a method have the property. -/
structure All (p : String → Prop) (method : MethodExpr) : Prop where
  returnType? : ∀ type ∈ method.returnType?, type.All p
  formals : ∀ formal ∈ method.formalList.formals, formal.type.All p

theorem All.imp {p q : String → Prop} {method : MethodExpr} (all : method.All p)
    (step : ∀ name, p name → q name) : method.All q :=
  ⟨fun type mem => (all.1 type mem).imp step, fun formal mem => (all.2 formal mem).imp step⟩

theorem read_eq {tokens : List Token}
    (all : (read takes tokens).All fun name => takes name = takes' name) :
    read takes' tokens = read takes tokens := by
  obtain ⟨returned, formals⟩ := all
  have result (tokens : List Token) (returned : ∀ type ∈ (readReturnType? takes tokens).1,
      type.All fun name => takes name = takes' name) :
      readReturnType? takes' tokens = readReturnType? takes tokens := by
    unfold readReturnType? at returned ⊢
    split
    · rfl
    · next notConstructor =>
      rw [if_neg notConstructor] at returned
      rw [TypeExpr.read_eq tokens (returned _ rfl)]
  have list (tokens : List Token) (formals : ∀ formal ∈ (readFormalList takes tokens).1.formals,
      formal.type.All fun name => takes name = takes' name) :
      readFormalList takes' tokens = readFormalList takes tokens := by
    unfold readFormalList at formals ⊢
    split
    · rfl
    · next rest opened =>
      rw [opened] at formals
      rw [readFormalsWithin_eq _ rest formals]
  unfold read at returned formals ⊢
  generalize Modifiers.read tokens = modified at returned formals ⊢
  obtain ⟨modifiers, rest⟩ := modified
  dsimp only at returned formals ⊢
  rw [result rest returned, list _ formals]

end MethodExpr

end ClassModel
