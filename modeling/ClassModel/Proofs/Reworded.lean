import ClassModel.Proofs.MemberText
import Mathlib.Algebra.BigOperators.Group.List.Basic
import Mathlib.Algebra.Ring.Nat

/-!
# ClassModel.Proofs.Reworded

Other reserved words in a text. `Lexeme.reword` puts words in the place of the
first reserved words of a text and keeps all else. If nothing but blanks and line
breaks stands between the first ones, the text that comes out is split where the
old one was (`Lexeme.all_reword`), so it has the tokens of the old one but for
these words, and the same errors, moved by what the words are longer
(`tokenize_reworded`).
-/

namespace ClassModel

/-! ## Reserved words -/

/-- Whether the token is a reserved word. -/
def Token.isKeyword : Token → Bool
  | keyword _ => true
  | _ => false

/-- An insignificant token is no word. -/
theorem Token.isKeyword_of_isInsignificant {token : Token}
    (insignificant : token.isInsignificant = true) : token.isKeyword = false := by
  cases token <;> simp_all [isKeyword, isInsignificant]

theorem Keyword.text_of_ofText? {spelling : String} {word : Keyword}
    (found : ofText? spelling = some word) : word.text = spelling := by
  have same := List.find?_some (p := fun word : Keyword => word.text == spelling) found
  exact eq_of_beq same

theorem Keyword.text_of_ofWord {spelling : String} {word : Keyword}
    (read : Token.ofWord spelling = .keyword word) : word.text = spelling := by
  unfold Token.ofWord at read
  repeat' split at read
  all_goals cases read
  next found => exact text_of_ofText? found

theorem Token.isInsignificant_ofWord (spelling : String) :
    (ofWord spelling).isInsignificant = false := by
  obtain ⟨_, same⟩ | ⟨_, same⟩ | same := ofWord_cases spelling <;> rw [same] <;> rfl

theorem Numeral.isInsignificant_read (first : Char) (cs : List Char) :
    (read first cs).1.token.isInsignificant = false := by
  obtain ⟨_, same⟩ | ⟨_, same⟩ := token_read_cases first cs <;> rw [same] <;> rfl

theorem ends_dropWhile {α : Type} (p : α → Bool) (l : List α) :
    ∀ a ∈ (l.dropWhile p).head?, p a = false := by
  intro a mem
  have ends := List.head?_dropWhile_not p l
  rwa [mem] at ends

namespace Lexeme

/-- The lexeme of a reserved word. -/
def ofKeyword (word : Keyword) : Lexeme := ⟨word.text.toList, .keyword word, []⟩

/-- A reserved word is read where a word starts, up to where it ends. -/
theorem next_eq_ofKeyword {c : Char} {cs : List Char} {word : Keyword}
    (read : (next c cs).1.token = .keyword word) :
    StartsWord c ∧ (next c cs).1 = ofKeyword word ∧ EndsWord (next c cs).2 := by
  revert read
  fun_cases next c cs with
  | case5 cs line carriage blank starts run =>
    intro read
    refine ⟨⟨line, carriage, blank, starts⟩, ?_, ends_dropWhile continuesIdentifier cs⟩
    rw [ofKeyword, Keyword.text_of_ofWord read, String.toList_ofList, ← read]
  | case6 cs =>
    obtain ⟨_, number⟩ | ⟨_, number⟩ := Numeral.token_read_cases c cs <;>
      exact fun read => Token.noConfusion (number.symm.trans read)
  | _ => simp

/-- Blanks and line breaks are read alike in front of a word and in front of what
stood there. -/
theorem next_insignificant {c : Char} {cs : List Char}
    (gap : (next c cs).1.token.isInsignificant = true) : (next c cs).1.errors = []
      ∧ ∀ rest : List Char, (∀ d ∈ rest.head?, d ∈ (next c cs).2.head? ∨ StartsWord d) →
        ∃ run, (next c cs).1.text = c :: run ∧ next c (run ++ rest) = ((next c cs).1, rest) := by
  revert gap
  fun_cases next c cs with
  | case1 cs line =>
    subst line
    exact fun _ => ⟨rfl, fun rest _ => ⟨[], rfl, rfl⟩⟩
  | case2 line carriage rest =>
    subst carriage
    exact fun _ => ⟨rfl, fun rest _ => ⟨['\n'], rfl, rfl⟩⟩
  | case3 cs line carriage lone =>
    subst carriage
    refine fun _ => ⟨rfl, fun rest stands => ⟨[], rfl, ?_⟩⟩
    cases rest with
    | nil => rfl
    | cons d rest =>
      have other : d ≠ '\n' := by
        rintro rfl
        obtain same | starts := stands '\n' rfl
        · obtain ⟨more, rfl⟩ := List.head?_eq_some_iff.1 same
          exact lone more rfl
        · exact starts.line rfl
      simp [next, other]
  | case4 cs line carriage blank =>
    refine fun _ => ⟨rfl, fun rest stands => ⟨_, rfl, ?_⟩⟩
    have all : ∀ d ∈ cs.takeWhile Text.isBlank, Text.isBlank d = true :=
      fun d mem => List.mem_takeWhile_imp mem
    have ends : ∀ d ∈ rest.head?, Text.isBlank d = false := by
      intro d mem
      obtain same | starts := stands d mem
      · exact ends_dropWhile Text.isBlank cs d same
      · exact Bool.eq_false_iff.2 starts.blank
    simp only [next, if_neg line, if_neg carriage, if_pos blank, takeWhile_append_of_ends all ends,
      dropWhile_append_of_ends all ends]
  | case5 cs line carriage blank starts run =>
    exact fun gap => absurd gap (by rw [Token.isInsignificant_ofWord]; decide)
  | case6 cs =>
    exact fun gap => absurd gap (by rw [Numeral.isInsignificant_read]; decide)
  | _ => exact fun gap => by cases gap

/-! ## Other words -/

/-- The lexemes with the words in place of the first reserved words. -/
def reword : List Keyword → List Lexeme → List Lexeme
  | [], lexemes => lexemes
  | _ :: _, [] => []
  | word :: words, lexeme :: lexemes =>
    if lexeme.token.isKeyword then ofKeyword word :: reword words lexemes
    else lexeme :: reword (word :: words) lexemes

@[simp] theorem reword_nil (lexemes : List Lexeme) : reword [] lexemes = lexemes := by
  rw [reword]

/-- Nothing but blanks and line breaks stands between the reserved words at the
front, and these are the given ones. -/
inductive LeadsWith : List Keyword → List Lexeme → Prop where
  | done (lexemes : List Lexeme) : LeadsWith [] lexemes
  | word {words : List Keyword} {lexemes : List Lexeme} (word : Keyword)
      (leads : LeadsWith words lexemes) : LeadsWith (word :: words) (ofKeyword word :: lexemes)
  | gap {words : List Keyword} {lexemes : List Lexeme} {lexeme : Lexeme}
      (insignificant : lexeme.token.isInsignificant = true) (silent : lexeme.errors = [])
      (leads : LeadsWith words lexemes) : LeadsWith words (lexeme :: lexemes)

theorem leadsWith_all {cs : List Char} {words : List Keyword} {rest : List Token}
    (tokens : meaningful (all cs) = words.map .keyword ++ rest) : LeadsWith words (all cs) := by
  have each : ∀ lexeme ∈ all cs, (∀ word, lexeme.token = .keyword word → lexeme = ofKeyword word)
      ∧ (lexeme.token.isInsignificant = true → lexeme.errors = []) :=
    forall_mem_all (fun c cs => ⟨fun word read => (next_eq_ofKeyword read).2.1,
      fun gap => (next_insignificant gap).1⟩) cs
  generalize all cs = lexemes at tokens each
  induction lexemes generalizing words with
  | nil =>
    cases words with
    | nil => exact .done _
    | cons word words => cases tokens
  | cons lexeme lexemes ih =>
    rw [List.forall_mem_cons] at each
    cases words with
    | nil => exact .done _
    | cons word words =>
      cases insignificant : lexeme.token.isInsignificant with
      | true =>
        rw [meaningful, List.map_cons, List.filter_cons_of_neg (by simp [insignificant])] at tokens
        exact .gap insignificant (each.1.2 insignificant) (ih tokens each.2)
      | false =>
        rw [meaningful, List.map_cons, List.filter_cons_of_pos (by simp [insignificant])] at tokens
        obtain ⟨head, tail⟩ := List.cons.inj tokens
        rw [each.1.1 word head]
        exact .word word (ih tail each.2)

/-- The text that comes out starts as the old one does, or with a word where that
starts with a word. -/
theorem head?_reword (words : List Keyword) (cs : List Char) :
    ∀ d ∈ ((reword words (all cs)).flatMap (·.text)).head?,
      d ∈ cs.head? ∨ StartsWord d ∧ ∃ e ∈ cs.head?, StartsWord e := by
  intro d mem
  match words, cs with
  | [], cs =>
    rw [reword_nil, flatMap_text_all] at mem
    exact .inl mem
  | _ :: _, [] => cases mem
  | word :: words, c :: cs =>
    rw [all_cons, reword] at mem
    split at mem
    · next keyword =>
      obtain ⟨first, more, chars, starts, _⟩ := word.exists_chars
      rw [List.flatMap_cons, ofKeyword, chars] at mem
      cases mem
      refine .inr ⟨starts, c, rfl, ?_⟩
      cases token : (next c cs).1.token with
      | keyword found => exact (next_eq_ofKeyword token).1
      | _ => simp [token, Token.isKeyword] at keyword
    · obtain ⟨run, text, _⟩ := next_text c cs
      rw [List.flatMap_cons, text] at mem
      exact .inl mem

theorem reword_gap (words : List Keyword) {lexeme : Lexeme}
    (insignificant : lexeme.token.isInsignificant = true) (lexemes : List Lexeme) :
    reword words (lexeme :: lexemes) = lexeme :: reword words lexemes := by
  cases words with
  | nil => simp
  | cons word words => simp [reword, Token.isKeyword_of_isInsignificant insignificant]

theorem all_keyword (word : Keyword) {rest : List Char} (ends : EndsWord rest) :
    all ((ofKeyword word).text ++ rest) = ofKeyword word :: all rest := by
  obtain ⟨c, cs, chars, next⟩ := word.exists_next ends
  rw [ofKeyword, chars, List.cons_append, all_cons, next]

/-- The text with other words is split into the lexemes with other words. -/
theorem all_reword {words words' : List Keyword} {cs : List Char}
    (leads : LeadsWith words (all cs)) (length : words'.length = words.length) :
    all ((reword words' (all cs)).flatMap (·.text)) = reword words' (all cs) := by
  generalize found : all cs = lexemes at leads
  induction leads generalizing words' cs with
  | done lexemes =>
    obtain rfl := List.length_eq_zero_iff.1 length
    rw [reword_nil, ← found, flatMap_text_all]
  | @word words lexemes word leads ih =>
    obtain _ | ⟨word', words'⟩ := words'
    · cases length
    obtain _ | ⟨c, cs⟩ := cs
    · cases found
    rw [all_cons] at found
    obtain ⟨head, tail⟩ := List.cons.inj found
    obtain ⟨_, _, ends⟩ := next_eq_ofKeyword (congrArg Lexeme.token head)
    have ends' : EndsWord ((reword words' lexemes).flatMap (·.text)) := by
      intro d mem
      obtain same | ⟨_, e, first, starts⟩ := head?_reword words' (next c cs).2 d (tail ▸ mem)
      · exact ends d same
      · have continues := continuesIdentifier_of_startsIdentifier starts.starts
        exact absurd ((ends e first).symm.trans continues) Bool.false_ne_true
    change all ((ofKeyword word').text ++ (reword words' lexemes).flatMap (·.text)) = _
    rw [all_keyword word' ends', ih (Nat.succ.inj length) tail]
    rfl
  | @gap words lexemes lexeme insignificant silent leads ih =>
    obtain _ | ⟨c, cs⟩ := cs
    · cases found
    rw [all_cons] at found
    obtain ⟨rfl, tail⟩ := List.cons.inj found
    have stands : ∀ d ∈ ((reword words' lexemes).flatMap (·.text)).head?,
        d ∈ (next c cs).2.head? ∨ StartsWord d := fun d mem =>
      (head?_reword words' (next c cs).2 d (tail ▸ mem)).imp_right And.left
    obtain ⟨run, text, again⟩ := (next_insignificant insignificant).2 _ stands
    rw [reword_gap words' insignificant, List.flatMap_cons, text, List.cons_append, all_cons, again,
      ih length tail]

/-- The other words are followed by the meaningful tokens that the old ones were
followed by. -/
theorem exists_meaningful_reword {words words' : List Keyword} {lexemes : List Lexeme}
    (leads : LeadsWith words lexemes) (length : words'.length = words.length) :
    ∃ rest, meaningful lexemes = words.map .keyword ++ rest
      ∧ meaningful (reword words' lexemes) = words'.map .keyword ++ rest := by
  induction leads generalizing words' with
  | done lexemes =>
    obtain rfl := List.length_eq_zero_iff.1 length
    exact ⟨_, rfl, by rw [reword_nil]; rfl⟩
  | @word words lexemes word leads ih =>
    obtain _ | ⟨word', words'⟩ := words'
    · cases length
    obtain ⟨rest, old, new⟩ := ih (Nat.succ.inj length)
    exact ⟨rest, congrArg (_ :: ·) old, congrArg (_ :: ·) new⟩
  | @gap words lexemes lexeme insignificant silent leads ih =>
    have skipped (lexemes : List Lexeme) : meaningful (lexeme :: lexemes) = meaningful lexemes := by
      rw [meaningful, List.map_cons, List.filter_cons_of_neg (by simp [insignificant])]
      rfl
    rw [reword_gap words' insignificant, skipped, skipped]
    exact ih length

/-- The length of words in bytes. -/
def wordLength (words : List Keyword) : Nat :=
  (words.map fun word => (ofKeyword word).byteLength).sum

/-- The errors stand behind the other words as they stood behind the old ones. -/
theorem errorsFrom_reword {words words' : List Keyword} {lexemes : List Lexeme}
    (leads : LeadsWith words lexemes) (length : words'.length = words.length)
    {position position' : Nat}
    (same : position' + wordLength words' = position + wordLength words) :
    TokenStream.errorsFrom position' (reword words' lexemes)
      = TokenStream.errorsFrom position lexemes := by
  induction leads generalizing words' position position' with
  | done lexemes =>
    obtain rfl := List.length_eq_zero_iff.1 length
    obtain rfl : position' = position := Nat.add_right_cancel same
    rw [reword_nil]
  | @word words lexemes word leads ih =>
    obtain _ | ⟨word', words'⟩ := words'
    · cases length
    simp only [wordLength, List.map_cons, List.sum_cons, ← Nat.add_assoc] at same
    exact ih (Nat.succ.inj length) same
  | @gap words lexemes lexeme insignificant silent leads ih =>
    have same : position' + lexeme.byteLength + wordLength words'
        = position + lexeme.byteLength + wordLength words := by omega
    rw [reword_gap words' insignificant, TokenStream.errorsFrom, TokenStream.errorsFrom, silent,
      ih length same]
    rfl

end Lexeme

/-! ## Texts -/

/-- The text with the words in place of its first reserved words. -/
def reworded (words : List Keyword) (text : String) : String :=
  String.ofList ((Lexeme.reword words (Lexeme.all text.toList)).flatMap (·.text))

/-- Words of the same length in place of those at the front change these tokens and
no errors. -/
theorem tokenize_reworded {words words' : List Keyword} {rest : List Token} {text : String}
    (tokens : (tokenize text).significant = words.map .keyword ++ rest)
    (perm : words'.Perm words) :
    (tokenize (reworded words' text)).significant = words'.map .keyword ++ rest
      ∧ (tokenize (reworded words' text)).errors = (tokenize text).errors := by
  have length := perm.length_eq
  rw [significant_tokenize] at tokens
  have leads := Lexeme.leadsWith_all tokens
  have split : Lexeme.all (reworded words' text).toList
      = Lexeme.reword words' (Lexeme.all text.toList) := by
    rw [reworded, String.toList_ofList, Lexeme.all_reword leads length]
  obtain ⟨rest', old, new⟩ := Lexeme.exists_meaningful_reword leads length
  obtain rfl := List.append_cancel_left (tokens.symm.trans old)
  refine ⟨by rw [significant_tokenize, split, new], ?_⟩
  rw [tokenize, split]
  exact Lexeme.errorsFrom_reword leads length (congrArg (0 + ·) (perm.map _).sum_eq)

end ClassModel
