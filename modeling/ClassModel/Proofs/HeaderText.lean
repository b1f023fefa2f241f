import ClassModel.Proofs.Landing
import ClassModel.Proofs.Printed

/-!
# ClassModel.Proofs.HeaderText

The rest of a header as it is written. A `HeaderText` says what stands behind the
name: generic parameters with their bounds, and clauses with supertypes. The second
reading takes its tokens for what they say (`HeaderText.read_tokens`), and of the
generic parameters the first reading takes exactly the names
(`ParameterText.read_listTokens`).
-/

namespace ClassModel

open TypeTree (ClosesTokens)

variable {takes : String → Bool}

/-! ## Lists of tokens -/

section Lists

variable {α : Type} {tokens : α → List Token}

theorem intercalate_mark_cons_cons (mark : Char) (first second : α) (xs : List α) :
    [Token.punctuation mark].intercalate ((first :: second :: xs).map tokens)
      = tokens first ++ .punctuation mark
        :: [.punctuation mark].intercalate ((second :: xs).map tokens) := by
  rw [List.map_cons, List.map_cons, List.intercalate_cons_cons, List.append_assoc,
    List.singleton_append]

/-- What is written with tokens is no more than its tokens. -/
theorem length_le_flatMap (nonempty : ∀ x, tokens x ≠ []) (xs : List α) :
    xs.length ≤ (xs.flatMap tokens).length := by
  induction xs with
  | nil => exact Nat.le_refl _
  | cons first xs ih =>
    have here := List.length_pos_iff.2 (nonempty first)
    rw [List.flatMap_cons, List.length_append, List.length_cons]
    omega

/-- What is written with marks between it is no more than its tokens. -/
theorem length_le_intercalate (mark : Char) (nonempty : ∀ x, tokens x ≠ []) (xs : List α) :
    xs.length ≤ ([Token.punctuation mark].intercalate (xs.map tokens)).length := by
  induction xs with
  | nil => exact Nat.zero_le _
  | cons first xs ih =>
    have here := List.length_pos_iff.2 (nonempty first)
    cases xs with
    | nil =>
      rw [List.map_singleton, List.intercalate_singleton]
      exact here
    | cons second xs =>
      rw [intercalate_mark_cons_cons]
      simp only [List.length_append, List.length_cons] at ih ⊢
      omega

end Lists

/-! ## Types between marks -/

/-- The tokens of types with a mark between each two of them. -/
def TypeTree.separatedTokens (mark : Char) (types : List TypeTree) : List Token :=
  [.punctuation mark].intercalate (types.map tokens)

namespace TypeTree

variable (mark : Char) (first second : TypeTree) (types : List TypeTree)

theorem separatedTokens_singleton : separatedTokens mark [first] = first.tokens :=
  List.intercalate_singleton

theorem separatedTokens_cons_cons : separatedTokens mark (first :: second :: types)
    = first.tokens ++ .punctuation mark :: separatedTokens mark (second :: types) :=
  intercalate_mark_cons_cons mark first second types

theorem tokens_ne_nil (tree : TypeTree) : tree.tokens ≠ [] := by
  obtain ⟨name, further, head⟩ := tree.exists_tokens_eq
  rw [head]
  exact List.cons_ne_nil _ _

end TypeTree

/-- What is written as a type closes its brackets. -/
theorem TypeTree.isBalanced_written (tree : TypeTree) : tree.written.IsBalanced := by
  induction tree with
  | primitive | declared | parameter => rw [written, TypeExpr.IsBalanced]; trivial
  | applied name arguments n ih =>
    rw [written, TypeExpr.IsBalanced, List.forall_mem_map]
    exact ⟨rfl, ih⟩

theorem closesTokens_mark {mark : Char} (other : mark ≠ '<' ∧ mark ≠ '[') (rest : List Token) :
    ClosesTokens (.punctuation mark :: rest) := by
  rintro _ ⟨⟩
  simp [Token.isMark, other.1, other.2]

theorem closesTokens_keyword (word : Keyword) (rest : List Token) :
    ClosesTokens (.keyword word :: rest) := by
  rintro _ ⟨⟩
  exact ⟨rfl, rfl⟩

namespace TypeExpr

theorem read_tokens {tree : TypeTree} (applies : tree.written.Applies takes) {rest : List Token}
    (closes : ClosesTokens rest) :
    read takes (tree.tokens ++ rest) = (tree.written, rest) :=
  TypeTree.readWithin_tokens applies (by rw [List.length_append]; omega) closes

/-- Types between marks are read as long as a mark follows. -/
theorem readSeparatedWithin_tokens {mark : Char} (other : mark ≠ '<' ∧ mark ≠ '[')
    {types : List TypeTree} (nonempty : types ≠ [])
    (applies : ∀ type ∈ types, type.written.Applies takes) {bound : Nat}
    (enough : types.length ≤ bound + 1) {rest : List Token} (closes : ClosesTokens rest)
    (ends : ∀ token ∈ rest.head?, token.isMark mark = false) :
    readSeparatedWithin takes mark bound (TypeTree.separatedTokens mark types ++ rest)
      = (types.map TypeTree.written, rest) := by
  induction types generalizing bound with
  | nil => exact absurd rfl nonempty
  | cons first types ih =>
    rw [List.forall_mem_cons] at applies
    cases types with
    | nil =>
      rw [TypeTree.separatedTokens_singleton]
      cases bound with
      | zero => rw [readSeparatedWithin, read_tokens applies.1 closes]; rfl
      | succ bound =>
        obtain ⟨unmet, noMark⟩ := TypeTree.exists_readMark_eq ends
        rw [readSeparatedWithin, read_tokens applies.1 closes]
        simp only [noMark, List.map_singleton]
    | cons second types =>
      obtain _ | bound := bound
      · simp at enough
      have later : readSeparatedWithin takes mark bound _ = _ :=
        ih (List.cons_ne_nil _ _) applies.2 (Nat.le_of_succ_le_succ enough)
      rw [TypeTree.separatedTokens_cons_cons, List.append_assoc, List.cons_append,
        readSeparatedWithin, read_tokens applies.1 (closesTokens_mark other _)]
      simp only [Signature.readMark, Token.isMark, beq_self_eq_true, if_true, later, List.map_cons]

theorem readSeparated_tokens {mark : Char} (other : mark ≠ '<' ∧ mark ≠ '[')
    {types : List TypeTree} (nonempty : types ≠ [])
    (applies : ∀ type ∈ types, type.written.Applies takes) {rest : List Token}
    (closes : ClosesTokens rest) (ends : ∀ token ∈ rest.head?, token.isMark mark = false) :
    readSeparated takes mark (TypeTree.separatedTokens mark types ++ rest)
      = (types.map TypeTree.written, rest) := by
  refine readSeparatedWithin_tokens other nonempty applies ?_ closes ends
  have long : _ ≤ (TypeTree.separatedTokens mark types).length :=
    length_le_intercalate mark TypeTree.tokens_ne_nil types
  rw [List.length_append]
  omega

end TypeExpr

/-! ## Bounds -/

/-- A bound as it is written. -/
inductive BoundText where
  /-- The types after `extends`. -/
  | upper (types : List TypeTree)
  /-- The type after `super`. -/
  | lower (type : TypeTree)

namespace BoundText

/-- The types of the bound. -/
def types : BoundText → List TypeTree
  | upper types => types
  | lower type => [type]

def tokens : BoundText → List Token
  | upper types => .keyword .extends :: TypeTree.separatedTokens '&' types
  | lower type => .keyword .super :: type.tokens

/-- What is read from the tokens. -/
def written : BoundText → BoundExpr
  | upper types => .upper (types.map TypeTree.written)
  | lower type => .lower type.written

/-- A bound starts with a reserved word. -/
theorem exists_tokens_eq (bound : BoundText) : ∃ word further,
    bound.tokens = .keyword word :: further := by
  cases bound <;> exact ⟨_, _, rfl⟩

/-- Bounds, in front of what ends them. -/
theorem closesTokens_flatMap (bounds : List BoundText) {mark : Char}
    (ends : mark = ',' ∨ mark = '>') (rest : List Token) :
    ClosesTokens (bounds.flatMap tokens ++ .punctuation mark :: rest)
      ∧ ∀ token ∈ (bounds.flatMap tokens ++ .punctuation mark :: rest).head?,
        token.isMark '&' = false := by
  cases bounds with
  | nil =>
    constructor
    · exact closesTokens_mark (by rcases ends with rfl | rfl <;> decide) rest
    · rintro _ ⟨⟩
      rcases ends with rfl | rfl <;> rfl
  | cons bound bounds =>
    obtain ⟨word, further, head⟩ := bound.exists_tokens_eq
    rw [List.flatMap_cons, head]
    constructor
    · exact closesTokens_keyword word _
    · rintro _ ⟨⟩
      rfl

/-- The second reading takes the tokens of bounds for what they say. -/
theorem readBoundsWithin_tokens {bounds : List BoundText}
    (nonempty : ∀ bound ∈ bounds, bound.types ≠ [])
    (applies : ∀ bound ∈ bounds, ∀ type ∈ bound.types, type.written.Applies takes) {count : Nat}
    (enough : bounds.length ≤ count) {mark : Char} (ends : mark = ',' ∨ mark = '>')
    (rest : List Token) :
    HeaderRest.readBoundsWithin takes count (bounds.flatMap tokens ++ .punctuation mark :: rest)
      = (bounds.map written, .punctuation mark :: rest) := by
  induction bounds generalizing count with
  | nil => cases count <;> rfl
  | cons bound bounds ih =>
    rw [List.forall_mem_cons] at nonempty applies
    obtain _ | count := count
    · simp at enough
    have later := ih nonempty.2 applies.2 (Nat.le_of_succ_le_succ enough)
    obtain ⟨closes, noMark⟩ := closesTokens_flatMap bounds ends rest
    rw [List.flatMap_cons, List.append_assoc]
    cases bound with
    | upper types =>
      have read := TypeExpr.readSeparated_tokens (by decide) (show types ≠ [] from nonempty.1)
        applies.1 closes noMark
      rw [tokens, List.cons_append, HeaderRest.readBoundsWithin, read]
      simp only [later]
      rfl
    | lower type =>
      rw [tokens, List.cons_append, HeaderRest.readBoundsWithin,
        TypeExpr.read_tokens (applies.1 type List.mem_cons_self) closes]
      simp only [later]
      rfl

theorem tokens_ne_nil (bound : BoundText) : bound.tokens ≠ [] := by
  cases bound <;> exact List.cons_ne_nil _ _

end BoundText

/-! ## Past the bounds -/

namespace ParameterNames

/-- The first reading passes over the tokens of a type. -/
theorem pastBounds_tokens {tree : TypeTree} (applies : tree.written.Applies takes)
    {rest : List Token} (closes : ClosesTokens rest) :
    pastBounds 1 (tree.tokens ++ rest) = pastBounds 1 rest := by
  have read : TypeExpr.readWithin takes tree.tokens.length (tree.tokens ++ rest) = _ :=
    TypeTree.readWithin_tokens applies (Nat.le_refl _) closes
  obtain ⟨name, further, head⟩ := tree.exists_tokens_eq
  have past := @pastBounds_readWithin takes tree.tokens.length 0 name (further ++ rest)
  rw [← List.cons_append, ← head, read] at past
  exact (past tree.isBalanced_written).symm

theorem pastBounds_separatedTokens {types : List TypeTree}
    (applies : ∀ type ∈ types, type.written.Applies takes) {rest : List Token}
    (closes : ClosesTokens rest) :
    pastBounds 1 (TypeTree.separatedTokens '&' types ++ rest) = pastBounds 1 rest := by
  induction types with
  | nil => rfl
  | cons first types ih =>
    rw [List.forall_mem_cons] at applies
    cases types with
    | nil =>
      rw [TypeTree.separatedTokens_singleton]
      exact pastBounds_tokens applies.1 closes
    | cons second types =>
      rw [TypeTree.separatedTokens_cons_cons, List.append_assoc, List.cons_append,
        pastBounds_tokens applies.1 (closesTokens_mark (by decide) _),
        pastBounds_skipped ⟨rfl, rfl, rfl⟩]
      exact ih applies.2

/-- The first reading passes over the tokens of bounds. -/
theorem pastBounds_boundTokens {bounds : List BoundText}
    (applies : ∀ bound ∈ bounds, ∀ type ∈ bound.types, type.written.Applies takes) {mark : Char}
    (ends : mark = ',' ∨ mark = '>') (rest : List Token) :
    pastBounds 1 (bounds.flatMap BoundText.tokens ++ .punctuation mark :: rest)
      = pastBounds 1 (.punctuation mark :: rest) := by
  induction bounds with
  | nil => rfl
  | cons bound bounds ih =>
    rw [List.forall_mem_cons] at applies
    obtain ⟨closes, _⟩ := BoundText.closesTokens_flatMap bounds ends rest
    rw [List.flatMap_cons, List.append_assoc, ← ih applies.2]
    cases bound with
    | upper types =>
      rw [BoundText.tokens, List.cons_append, pastBounds_skipped ⟨rfl, rfl, rfl⟩]
      exact pastBounds_separatedTokens applies.1 closes
    | lower type =>
      rw [BoundText.tokens, List.cons_append, pastBounds_skipped ⟨rfl, rfl, rfl⟩]
      exact pastBounds_tokens (applies.1 type List.mem_cons_self) closes

end ParameterNames

/-! ## Generic parameters -/

/-- A generic parameter as it is written. -/
structure ParameterText where
  name : String
  bounds : List BoundText

namespace ParameterText

def tokens (parameter : ParameterText) : List Token :=
  .identifier parameter.name :: parameter.bounds.flatMap BoundText.tokens

/-- What is read from the tokens. -/
def written (parameter : ParameterText) : ParameterExpr :=
  ⟨parameter.name, parameter.bounds.map BoundText.written⟩

/-- The tokens of generic parameters with a comma between each two of them. -/
def separatedTokens (parameters : List ParameterText) : List Token :=
  [.punctuation ','].intercalate (parameters.map tokens)

/-- The tokens of generic parameters in angle brackets. -/
def listTokens (parameters : List ParameterText) : List Token :=
  .punctuation '<' :: (separatedTokens parameters ++ [.punctuation '>'])

/-- Each bound has types, and where they have arguments, their names take them. -/
structure IsReadable (takes : String → Bool) (parameter : ParameterText) : Prop where
  nonempty : ∀ bound ∈ parameter.bounds, bound.types ≠ []
  applies : ∀ bound ∈ parameter.bounds, ∀ type ∈ bound.types, type.written.Applies takes

variable {parameters : List ParameterText}

theorem separatedTokens_singleton (parameter : ParameterText) :
    separatedTokens [parameter] = parameter.tokens :=
  List.intercalate_singleton

theorem separatedTokens_cons_cons (first second : ParameterText)
    (parameters : List ParameterText) : separatedTokens (first :: second :: parameters)
      = first.tokens ++ .punctuation ',' :: separatedTokens (second :: parameters) :=
  intercalate_mark_cons_cons ',' first second parameters

/-- Behind the name of a generic parameter, its bounds are read. -/
theorem readBoundsWithin_tokens {parameter : ParameterText} (readable : parameter.IsReadable takes)
    {mark : Char} (ends : mark = ',' ∨ mark = '>') (rest : List Token) :
    HeaderRest.readBoundsWithin takes
        (parameter.bounds.flatMap BoundText.tokens ++ .punctuation mark :: rest).length
        (parameter.bounds.flatMap BoundText.tokens ++ .punctuation mark :: rest)
      = (parameter.written.bounds, .punctuation mark :: rest) := by
  refine BoundText.readBoundsWithin_tokens readable.nonempty readable.applies ?_ ends rest
  have long := length_le_flatMap BoundText.tokens_ne_nil parameter.bounds
  rw [List.length_append]
  omega

theorem readParametersWithin_tokens
    (readable : ∀ parameter ∈ parameters, parameter.IsReadable takes) {bound : Nat}
    (enough : parameters.length ≤ bound) (rest : List Token) :
    HeaderRest.readParametersWithin takes bound
        (separatedTokens parameters ++ .punctuation '>' :: rest)
      = (parameters.map written, .punctuation '>' :: rest) := by
  induction parameters generalizing bound with
  | nil => cases bound <;> rfl
  | cons first parameters ih =>
    rw [List.forall_mem_cons] at readable
    obtain _ | bound := bound
    · simp at enough
    cases parameters with
    | nil =>
      rw [separatedTokens_singleton, tokens, List.cons_append, HeaderRest.readParametersWithin,
        readBoundsWithin_tokens readable.1 (.inr rfl)]
      rfl
    | cons second parameters =>
      have later : HeaderRest.readParametersWithin takes bound _ = _ :=
        ih readable.2 (Nat.le_of_succ_le_succ enough)
      rw [separatedTokens_cons_cons, List.append_assoc, tokens, List.cons_append, List.cons_append,
        HeaderRest.readParametersWithin, readBoundsWithin_tokens readable.1 (.inl rfl)]
      simp only [Signature.readMark, Token.isMark, beq_self_eq_true, if_true, later, List.map_cons]
      rfl

/-- The second reading takes generic parameters for what they say, and leaves what
follows them. -/
theorem readParameterList_tokens
    (readable : ∀ parameter ∈ parameters, parameter.IsReadable takes) (rest : List Token) :
    HeaderRest.readParameterList takes (listTokens parameters ++ rest)
      = (⟨parameters.map written, none⟩, rest) := by
  have enough : parameters.length
      ≤ (separatedTokens parameters ++ .punctuation '>' :: rest).length := by
    rw [List.length_append]
    exact Nat.le_add_right_of_le
      (length_le_intercalate ',' (fun _ => List.cons_ne_nil _ _) parameters)
  have read := readParametersWithin_tokens readable enough rest
  rw [listTokens, List.cons_append, List.append_assoc, List.singleton_append,
    HeaderRest.readParameterList]
  simp only [Signature.readMark, Token.isMark, beq_self_eq_true, if_true, read]

theorem atName_tokens (readable : ∀ parameter ∈ parameters, parameter.IsReadable takes)
    (rest : List Token) :
    ParameterNames.atName (separatedTokens parameters ++ .punctuation '>' :: rest)
      = parameters.map name := by
  induction parameters with
  | nil => rfl
  | cons first parameters ih =>
    rw [List.forall_mem_cons] at readable
    cases parameters with
    | nil =>
      rw [separatedTokens_singleton, tokens, List.cons_append, ParameterNames.atName,
        ParameterNames.pastBounds_boundTokens readable.1.applies (.inr rfl)]
      rfl
    | cons second parameters =>
      rw [separatedTokens_cons_cons, List.append_assoc, tokens, List.cons_append, List.cons_append,
        ParameterNames.atName, ParameterNames.pastBounds_boundTokens readable.1.applies (.inl rfl),
        List.map_cons, ← ih readable.2]
      rfl

/-- Of generic parameters, the first reading takes the names. -/
theorem read_listTokens (readable : ∀ parameter ∈ parameters, parameter.IsReadable takes)
    (rest : List Token) :
    ParameterNames.read (listTokens parameters ++ rest) = parameters.map name := by
  rw [listTokens, List.cons_append, List.append_assoc, List.singleton_append]
  exact atName_tokens readable rest

end ParameterText

/-! ## Clauses -/

/-- The reserved word of a clause. -/
def ClauseKind.keyword : ClauseKind → Keyword
  | .extends => .extends
  | .implements => .implements

/-- A clause as it is written. -/
structure ClauseText where
  kind : ClauseKind
  types : List TypeTree

namespace ClauseText

def tokens (clause : ClauseText) : List Token :=
  .keyword clause.kind.keyword :: TypeTree.separatedTokens ',' clause.types

/-- What is read from the tokens. -/
def written (clause : ClauseText) : ClauseExpr := ⟨clause.kind, clause.types.map TypeTree.written⟩

/-- The clause has types, and where they have arguments, their names take them. -/
structure IsReadable (takes : String → Bool) (clause : ClauseText) : Prop where
  nonempty : clause.types ≠ []
  applies : ∀ type ∈ clause.types, type.written.Applies takes

variable {clauses : List ClauseText}

/-- A clause ends where the next one starts. -/
theorem closesTokens_flatMap (clauses : List ClauseText) :
    ClosesTokens (clauses.flatMap tokens)
      ∧ ∀ token ∈ (clauses.flatMap tokens).head?, token.isMark ',' = false := by
  cases clauses with
  | nil => exact ⟨fun _ => nofun, fun _ => nofun⟩
  | cons clause clauses =>
    refine ⟨closesTokens_keyword _ _, ?_⟩
    rintro _ ⟨⟩
    rfl

theorem tokens_ne_nil (clause : ClauseText) : clause.tokens ≠ [] := List.cons_ne_nil _ _

/-- The second reading takes clauses for what they say. -/
theorem readClausesWithin_tokens (readable : ∀ clause ∈ clauses, clause.IsReadable takes)
    {bound : Nat} (enough : clauses.length ≤ bound) :
    HeaderRest.readClausesWithin takes bound (clauses.flatMap tokens)
      = (clauses.map written, []) := by
  induction clauses generalizing bound with
  | nil => cases bound <;> rfl
  | cons clause clauses ih =>
    rw [List.forall_mem_cons] at readable
    obtain _ | bound := bound
    · simp at enough
    have later := ih readable.2 (Nat.le_of_succ_le_succ enough)
    obtain ⟨closes, noMark⟩ := closesTokens_flatMap clauses
    obtain ⟨kind, types⟩ := clause
    have read := TypeExpr.readSeparated_tokens (by decide) readable.1.nonempty readable.1.applies
      closes noMark
    cases kind <;>
    · rw [List.flatMap_cons, tokens, List.cons_append, ClauseKind.keyword,
        HeaderRest.readClausesWithin, read]
      simp only [later]
      rfl

end ClauseText

/-! ## The whole rest -/

/-- The rest of a header as it is written. -/
structure HeaderText where
  /-- The generic parameters, if there are angle brackets. -/
  parameters? : Option (List ParameterText)
  clauses : List ClauseText

namespace HeaderText

/-- The generic parameters. -/
def parameters (header : HeaderText) : List ParameterText := header.parameters?.getD []

def tokens (header : HeaderText) : List Token :=
  (header.parameters?.map ParameterText.listTokens).getD []
    ++ header.clauses.flatMap ClauseText.tokens

/-- What is read from the tokens. -/
def written (header : HeaderText) : HeaderRest where
  parameterList := ⟨header.parameters.map ParameterText.written, none⟩
  clauses := header.clauses.map ClauseText.written
  trailing? := none

/-- The second reading takes the rest of a header for what it says, up to its end. -/
theorem read_tokens {header : HeaderText} {isGeneric : Bool}
    (generic : isGeneric = true ∨ header.parameters? = none)
    (inParameters : ∀ parameter ∈ header.parameters, parameter.IsReadable takes)
    (inClauses : ∀ clause ∈ header.clauses, clause.IsReadable takes) :
    HeaderRest.read takes isGeneric header.tokens = header.written := by
  obtain ⟨parameters?, clauses⟩ := header
  have clausesRead : HeaderRest.readClausesWithin takes _ (clauses.flatMap ClauseText.tokens) = _ :=
    ClauseText.readClausesWithin_tokens inClauses 
      (length_le_flatMap ClauseText.tokens_ne_nil clauses)
  cases parameters? with
  | some parameters =>
    obtain rfl : isGeneric = true := generic.resolve_right nofun
    have listed : HeaderRest.readParameterList takes
        (ParameterText.listTokens parameters ++ clauses.flatMap ClauseText.tokens) = _ :=
      ParameterText.readParameterList_tokens inParameters _
    rw [tokens, HeaderRest.read]
    simp only [Option.map_some, Option.getD_some, if_true, listed, clausesRead]
    rfl
  | none =>
    have unlisted : (if isGeneric then
        HeaderRest.readParameterList takes (clauses.flatMap ClauseText.tokens)
        else ({}, clauses.flatMap ClauseText.tokens))
          = ({}, clauses.flatMap ClauseText.tokens) := by
      have noMark (token : Token) (mem : token ∈ (clauses.flatMap ClauseText.tokens).head?) :=
        ((ClauseText.closesTokens_flatMap clauses).1 token mem).1
      obtain ⟨unmet, noList⟩ := TypeTree.exists_readMark_eq noMark
      rw [HeaderRest.readParameterList, noList]
      exact ite_self _
    rw [tokens, HeaderRest.read]
    simp only [Option.map_none, Option.getD_none, List.nil_append, unlisted, clausesRead]
    rfl

end HeaderText

end ClassModel
