import ClassModel.Signature.Header
import ClassModel.Signature.Member

/-!
# ClassModel.Proofs.Written

What reading a signature is sure to give: a written type has arguments only
where its name takes them. The condition is stated for written types
(`TypeExpr.Applies`) and holds of every type in what a reader answers.
-/

namespace ClassModel

namespace TypeExpr

/-- What holds of every written type without arguments, and of one with
arguments if it holds of them, holds of all written types. -/
@[elab_as_elim, induction_eliminator]
theorem induction {motive : TypeExpr → Prop}
    (missing : ∀ found dimension, motive (.missing found dimension))
    (name : ∀ identifier dimension, motive (.name identifier dimension))
    (application : ∀ identifier arguments unclosed? dimension,
      (∀ argument ∈ arguments, motive argument) →
      motive (.application identifier arguments unclosed? dimension)) :
    ∀ expr, motive expr
  | .missing found dimension => missing found dimension
  | .name identifier dimension => name identifier dimension
  | .application identifier arguments unclosed? dimension =>
    application identifier arguments unclosed? dimension fun argument _ =>
      induction missing name application argument

/-- Only names that take arguments have some. -/
def Applies (takesArguments : String → Bool) : TypeExpr → Prop
  | missing _ _ | name _ _ => True
  | application identifier arguments _ _ =>
    takesArguments identifier = true ∧ ∀ argument ∈ arguments, argument.Applies takesArguments

/-- A token that is no name stands in place of a type. -/
theorem readWithin_of_noName {found : Token} (noName : ∀ name, found ≠ .identifier name)
    (takesArguments : String → Bool) (bound : Nat) (rest : List Token) :
    readWithin takesArguments (bound + 1) (found :: rest)
      = (.missing found.text (readDimension rest).1, (readDimension rest).2) := by
  cases found with
  | identifier name => exact absurd rfl (noName name)
  | _ => rfl

/-- Types and type arguments are read together. Only behind a name the reading
goes on. -/
theorem reading_induction {types arguments : Nat → List Token → Prop}
    (zero : ∀ tokens, types 0 tokens) (nil : ∀ bound, types (bound + 1) [])
    (name : ∀ bound name rest, (∀ tokens, arguments bound tokens) →
      types (bound + 1) (.identifier name :: rest))
    (missing : ∀ bound found rest, (∀ name, found ≠ .identifier name) →
      types (bound + 1) (found :: rest))
    (none : ∀ bound tokens,
      (∀ takesArguments, readArgumentsWithin takesArguments bound tokens = ([], tokens)) →
        arguments bound tokens)
    (argument : ∀ bound name rest, types bound (.identifier name :: rest) →
      (∀ tokens, arguments bound tokens) → arguments (bound + 1) (.identifier name :: rest)) :
    (∀ bound tokens, types bound tokens) ∧ ∀ bound tokens, arguments bound tokens := by
  rw [← forall_and]
  intro bound
  induction bound with
  | zero => exact ⟨zero, fun tokens => none 0 tokens fun _ => by rw [readArgumentsWithin]⟩
  | succ bound ih =>
    constructor
    · intro tokens
      cases tokens with
      | nil => exact nil bound
      | cons found rest =>
        cases found with
        | identifier found => exact name bound found rest ih.2
        | _ => exact missing bound _ rest nofun
    · intro tokens
      cases tokens with
      | nil => exact none _ _ fun _ => rfl
      | cons found rest =>
        cases found with
        | identifier found => exact argument bound found rest (ih.1 _) ih.2
        | _ => exact none _ _ fun _ => rfl

variable (takesArguments : String → Bool)

/-- What is read applies only names that take arguments. -/
theorem applies_reading :
    (∀ bound tokens, (readWithin takesArguments bound tokens).1.Applies takesArguments)
      ∧ ∀ bound tokens, ∀ expr ∈ (readArgumentsWithin takesArguments bound tokens).1,
        expr.Applies takesArguments := by
  apply reading_induction
  case zero | nil =>
    intros
    simp [readWithin, Applies]
  case name =>
    intro bound identifier rest arguments
    rw [readWithin]
    split
    · next rest takes _ =>
      rw [Applies]
      exact ⟨takes, arguments rest⟩
    · simp [Applies]
  case missing =>
    intro bound found rest noName
    rw [readWithin_of_noName noName, Applies]
    trivial
  case none =>
    intro bound tokens stops
    simp [stops]
  case argument =>
    intro bound identifier rest first later
    rcases read : readWithin takesArguments bound (.identifier identifier :: rest)
      with ⟨type, rest'⟩
    rw [read] at first
    simp only [readArgumentsWithin, read]
    split
    · next rest'' _ =>
      simp only [List.mem_cons, forall_eq_or_imp]
      exact ⟨first, later rest''⟩
    · simpa using first

theorem applies_read (tokens : List Token) :
    (read takesArguments tokens).1.Applies takesArguments :=
  (applies_reading takesArguments).1 _ tokens

theorem applies_readSeparatedWithin (mark : Char) (bound : Nat) (tokens : List Token) :
    ∀ expr ∈ (readSeparatedWithin takesArguments mark bound tokens).1,
      expr.Applies takesArguments := by
  induction bound generalizing tokens with
  | zero => simpa [readSeparatedWithin] using applies_read takesArguments tokens
  | succ bound ih =>
    have first := applies_read takesArguments tokens
    rcases read : TypeExpr.read takesArguments tokens with ⟨type, rest⟩
    rw [read] at first
    simp only [readSeparatedWithin, read]
    split
    · next rest' _ =>
      simp only [List.mem_cons, forall_eq_or_imp]
      exact ⟨first, ih rest'⟩
    · simpa using first

theorem applies_readSeparated (mark : Char) (tokens : List Token) :
    ∀ expr ∈ (readSeparated takesArguments mark tokens).1, expr.Applies takesArguments :=
  applies_readSeparatedWithin takesArguments mark _ tokens

end TypeExpr

/-! ## Headers -/

/-- The types of a bound have arguments only where their names take them. -/
def BoundExpr.Applies (takesArguments : String → Bool) : BoundExpr → Prop
  | upper types => ∀ type ∈ types, type.Applies takesArguments
  | lower type => type.Applies takesArguments

namespace HeaderRest

variable (takesArguments : String → Bool)

theorem applies_readBoundsWithin (bound : Nat) (tokens : List Token) :
    ∀ expr ∈ (readBoundsWithin takesArguments bound tokens).1, expr.Applies takesArguments := by
  fun_induction readBoundsWithin takesArguments bound tokens with
  | case1 => simp
  | case2 bound rest types rest' read bounds rest'' more ih =>
    have first := TypeExpr.applies_readSeparated takesArguments '&' rest
    rw [read] at first
    rw [more] at ih
    simp only [List.mem_cons, forall_eq_or_imp]
    exact ⟨first, ih⟩
  | case3 bound rest type rest' read bounds rest'' more ih =>
    have first := TypeExpr.applies_read takesArguments rest
    rw [read] at first
    rw [more] at ih
    simp only [List.mem_cons, forall_eq_or_imp]
    exact ⟨first, ih⟩
  | case4 => simp

theorem applies_readParametersWithin (bound : Nat) (tokens : List Token) :
    ∀ parameter ∈ (readParametersWithin takesArguments bound tokens).1,
      ∀ expr ∈ parameter.bounds, expr.Applies takesArguments := by
  fun_induction readParametersWithin takesArguments bound tokens with
  | case1 => simp
  | case2 bound identifier rest bounds rest' read rest'' _ parameters rest''' more ih =>
    have first := applies_readBoundsWithin takesArguments rest.length rest
    rw [read] at first
    rw [more] at ih
    simp only [List.mem_cons, forall_eq_or_imp]
    exact ⟨first, ih⟩
  | case3 bound identifier rest bounds rest' read _ =>
    have first := applies_readBoundsWithin takesArguments rest.length rest
    rw [read] at first
    simpa using first
  | case4 => simp

theorem applies_readClausesWithin (bound : Nat) (tokens : List Token) :
    ∀ clause ∈ (readClausesWithin takesArguments bound tokens).1,
      ∀ type ∈ clause.types, type.Applies takesArguments := by
  fun_induction readClausesWithin takesArguments bound tokens with
  | case1 => simp
  | case2 bound rest types rest' read clauses rest'' more ih
  | case3 bound rest types rest' read clauses rest'' more ih =>
    have first := TypeExpr.applies_readSeparated takesArguments ',' rest
    rw [read] at first
    rw [more] at ih
    simp only [List.mem_cons, forall_eq_or_imp]
    exact ⟨first, ih⟩
  | case4 => simp

/-- The types in a header have arguments only where their names take them. -/
theorem applies_read (isGeneric : Bool) (tokens : List Token) :
    (∀ parameter ∈ (read takesArguments isGeneric tokens).parameterList.parameters,
      ∀ expr ∈ parameter.bounds, expr.Applies takesArguments)
      ∧ ∀ clause ∈ (read takesArguments isGeneric tokens).clauses,
        ∀ type ∈ clause.types, type.Applies takesArguments := by
  refine ⟨?_, applies_readClausesWithin takesArguments _ _⟩
  simp only [read]
  split
  · rw [readParameterList]
    split
    · simp
    · exact applies_readParametersWithin takesArguments _ _
  · simp

end HeaderRest

/-! ## Members -/

theorem AttributeExpr.applies_read (takesArguments : String → Bool) (tokens : List Token) :
    (read takesArguments tokens).type.Applies takesArguments := by
  simp only [read]
  split <;> exact TypeExpr.applies_read takesArguments _

namespace MethodExpr

variable (takesArguments : String → Bool)

theorem applies_readFormalsWithin (bound : Nat) (tokens : List Token) :
    ∀ formal ∈ (readFormalsWithin takesArguments bound tokens).1,
      formal.type.Applies takesArguments := by
  fun_induction readFormalsWithin takesArguments bound tokens with
  | case1 => simp
  | case2 bound identifier rest formal rest' read rest'' _ formals rest''' more ih =>
    have first := TypeExpr.applies_read takesArguments
      (.identifier identifier :: rest)
    simp only [readFormal, Prod.mk.injEq] at read
    rw [more] at ih
    simp only [List.mem_cons, forall_eq_or_imp]
    exact ⟨by simpa [← read.1] using first, ih⟩
  | case3 bound identifier rest formal rest' read _ =>
    have first := TypeExpr.applies_read takesArguments
      (.identifier identifier :: rest)
    simp only [readFormal, Prod.mk.injEq] at read
    simpa [← read.1] using first
  | case4 => simp

/-- The types in a method have arguments only where their names take them. -/
theorem applies_read (tokens : List Token) :
    (∀ type ∈ (read takesArguments tokens).returnType?, type.Applies takesArguments)
      ∧ ∀ formal ∈ (read takesArguments tokens).formalList.formals,
        formal.type.Applies takesArguments := by
  simp only [read]
  constructor
  · rw [readReturnType?]
    split
    · simp
    · simpa using TypeExpr.applies_read takesArguments _
  · rw [readFormalList]
    split
    · simp
    · exact applies_readFormalsWithin takesArguments _ _

end MethodExpr

end ClassModel
