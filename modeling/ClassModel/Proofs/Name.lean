import ClassModel.Proofs.Key
import ClassModel.Compile.Register
import ClassModel.Token.Coverage

/-!
# ClassModel.Proofs.Name

The names that a signature declares. Every identifier among the tokens of a
text is one word of it, and readers of headers answer identifiers of the tokens
that they were given; so a declared class-like and its generic parameters have
names without marks in them.
-/

namespace ClassModel

/-! ## Identifiers -/

theorem continuesIdentifier_of_startsIdentifier {c : Char} (starts : startsIdentifier c = true) :
    continuesIdentifier c = true := by
  simp [continuesIdentifier, starts]

/-- A word that is an identifier is the name. -/
theorem eq_of_ofWord {word name : String} (h : Token.ofWord word = .identifier name) :
    name = word := by
  unfold Token.ofWord at h
  repeat' split at h
  all_goals cases h
  rfl

/-- A number is an integer or a floating number. -/
theorem Numeral.token_read_cases (first : Char) (cs : List Char) :
    (∃ value, (read first cs).1.token = .integer value)
      ∨ ∃ value, (read first cs).1.token = .floating value := by
  simp only [read]
  repeat' split
  all_goals simp

/-- A word starts with the character. -/
structure StartsWord (c : Char) : Prop where
  line : c ≠ '\n'
  carriage : c ≠ '\r'
  blank : ¬ Text.isBlank c = true
  starts : startsIdentifier c = true

/-- A name that is read as one identifier. -/
structure IsWord (name : String) : Prop where
  identifier : Token.ofWord name = .identifier name
  chars : ∃ c cs, name.toList = c :: cs ∧ StartsWord c ∧ ∀ d ∈ cs, continuesIdentifier d = true

theorem Lexeme.isWord_of_next {c : Char} {cs : List Char} {name : String}
    (h : (next c cs).1.token = .identifier name) : IsWord name := by
  revert h
  fun_cases next c cs with
  | case5 cs line carriage blank starts word =>
    intro h
    obtain rfl := eq_of_ofWord h
    exact ⟨h, c, _, String.toList_ofList, ⟨line, carriage, blank, starts⟩,
      List.all_eq_true.1 List.all_takeWhile⟩
  | case6 =>
    obtain ⟨_, number⟩ | ⟨_, number⟩ := Numeral.token_read_cases c cs <;>
      exact fun h => Token.noConfusion (number.symm.trans h)
  | _ => simp

/-- An identifier among the tokens of a text is a word. -/
theorem isWord_of_mem_significant {source name : String}
    (mem : .identifier name ∈ (tokenize source).significant) : IsWord name := by
  simp only [tokenize, TokenStream.significant, TokenStream.ofLexemes, List.mem_filter,
    List.mem_append, List.mem_map, List.mem_singleton] at mem
  obtain ⟨⟨lexeme, mem, h⟩ | h, _⟩ := mem
  · exact Lexeme.forall_mem_all (P := fun lexeme => lexeme.token = .identifier name → IsWord name)
      (fun _ _ => Lexeme.isWord_of_next) source.toList lexeme mem h
  · cases h

/-- An identifier among the tokens of a text is a name, which is not empty. -/
theorem isName_of_mem_significant {source name : String}
    (mem : .identifier name ∈ (tokenize source).significant) : IsName name ∧ name ≠ "" := by
  obtain ⟨_, c, cs, chars, starts, continues⟩ := isWord_of_mem_significant mem
  constructor
  · intro d inside
    rw [chars] at inside
    rcases List.mem_cons.1 inside with rfl | inside
    · exact continuesIdentifier_of_startsIdentifier starts.starts
    · exact continues d inside
  · rintro rfl
    cases chars

/-! ## Names in headers -/

/-- The identifiers among the tokens are names. -/
def NamesIn (tokens : List Token) : Prop := ∀ name, .identifier name ∈ tokens → IsName name

theorem namesIn_significant (source : String) : NamesIn (tokenize source).significant :=
  fun _ mem => (isName_of_mem_significant mem).1

theorem NamesIn.of_subset {tokens rest : List Token} (names : NamesIn tokens)
    (subset : rest ⊆ tokens) : NamesIn rest := fun name mem => names name (subset mem)

theorem Modifiers.readMore_subset (modifiers : Modifiers) (tokens : List Token) :
    (readMore modifiers tokens).2 ⊆ tokens := by
  fun_induction readMore modifiers tokens with
  | case1 modifiers word rest modifiers' added ih => exact List.subset_cons_of_subset _ ih
  | case2 => exact List.Subset.refl _
  | case3 => exact List.Subset.refl _

theorem Signature.readIdentifier_subset (tokens : List Token) :
    (readIdentifier tokens).2 ⊆ tokens := by
  fun_cases readIdentifier tokens with
  | case1 => simp
  | case2 => exact List.Subset.refl _

theorem Signature.mem_of_readIdentifier {tokens : List Token} {name : String}
    (read : (readIdentifier tokens).1 = .ok name) : .identifier name ∈ tokens := by
  revert read
  fun_cases readIdentifier tokens <;> simp_all

/-- What a header declares and what it leaves is taken from its tokens. -/
theorem HeaderStart.mem_of_read {tokens : List Token} {start : HeaderStart}
    (read : HeaderStart.read tokens = .ok start) :
    .identifier start.identifier ∈ tokens ∧ start.rest ⊆ tokens := by
  have subset := List.Subset.trans (List.drop_subset 1 _) (Modifiers.readMore_subset {} tokens)
  have rest := Signature.readIdentifier_subset ((Modifiers.readMore {} tokens).2.drop 1)
  have identifier (name : String) :
      (Signature.readIdentifier ((Modifiers.readMore {} tokens).2.drop 1)).1 = .ok name →
        .identifier name ∈ (Modifiers.readMore {} tokens).2.drop 1 :=
    Signature.mem_of_readIdentifier
  simp only [HeaderStart.read, Modifiers.read] at read
  split at read
  · cases read
  split at read
  · next name tokens' found =>
    rw [found] at rest identifier
    cases read
    exact ⟨subset (identifier _ rfl), List.Subset.trans rest subset⟩
  · cases read

/-- A header declares a name, and leaves tokens of its own. -/
theorem HeaderStart.names_of_read {tokens : List Token} {start : HeaderStart}
    (names : NamesIn tokens) (read : HeaderStart.read tokens = .ok start) :
    IsName start.identifier ∧ NamesIn start.rest := by
  obtain ⟨mem, subset⟩ := mem_of_read read
  exact ⟨names _ mem, names.of_subset subset⟩

namespace ParameterNames

mutual

theorem mem_of_mem_atName {tokens : List Token} {name : String} (mem : name ∈ atName tokens) :
    .identifier name ∈ tokens := by
  match tokens with
  | .identifier identifier :: rest =>
    rw [atName] at mem
    rcases List.mem_cons.1 mem with rfl | mem
    · simp
    · exact List.mem_cons_of_mem _ (mem_of_mem_pastBounds mem)
  | [] => simp [atName] at mem
  | .keyword _ :: _ | .punctuation _ :: _ | .ellipsis :: _ | .integer _ :: _ | .floating _ :: _
  | .boolean _ :: _ | .string _ :: _ | .character _ :: _ | .whitespace :: _ | .newLine :: _
  | .unknown _ :: _ | .endOfInput :: _ => simp [atName] at mem

theorem mem_of_mem_pastBounds {depth : Nat} {tokens : List Token} {name : String}
    (mem : name ∈ pastBounds depth tokens) : .identifier name ∈ tokens := by
  match tokens with
  | [] => simp [pastBounds] at mem
  | token :: rest =>
    rw [pastBounds] at mem
    split at mem
    · exact List.mem_cons_of_mem _ (mem_of_mem_pastBounds mem)
    split at mem
    · split at mem
      · simp at mem
      · exact List.mem_cons_of_mem _ (mem_of_mem_pastBounds mem)
    split at mem
    · exact List.mem_cons_of_mem _ (mem_of_mem_atName mem)
    · exact List.mem_cons_of_mem _ (mem_of_mem_pastBounds mem)

end

theorem mem_of_mem_read {tokens : List Token} {name : String} (mem : name ∈ read tokens) :
    .identifier name ∈ tokens := by
  unfold read at mem
  split at mem
  · next rest found =>
    have subset : rest ⊆ tokens := by
      revert found
      fun_cases Signature.readMark '<' tokens <;> simp_all
    exact subset (mem_of_mem_atName mem)
  · simp at mem

/-- The parameters of a header have names. -/
theorem isName_of_mem_read {tokens : List Token} {name : String} (names : NamesIn tokens)
    (mem : name ∈ read tokens) : IsName name :=
  names name (mem_of_mem_read mem)

end ParameterNames

end ClassModel
