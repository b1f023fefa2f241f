import ClassModel.Token.Coverage
import Mathlib.Data.List.Forall2
import Mathlib.Data.List.TakeWhile

/-!
# ClassModel.Proofs.Partition

Tokenizing cuts a source into lexemes that do not depend on each other
(`exists_isPartition`): each lexeme on its own is read as the same token, with
the same errors.

A reader looks ahead to find the end of a lexeme, but what it sees beyond the
end decides in the same way as the end of the text does: reading the text of a
lexeme again takes all of it (`Lexeme.next_text`).
-/

namespace ClassModel

/-! ## Literals on their own -/

namespace Literal

/-- A backslash stands alone or in front of another character. -/
theorem ne_backslash {c : Char} {rest : List Char} (lone : c = '\\' → rest = [] → False)
    (escaped : ∀ d more, c = '\\' → rest = d :: more → False) : c ≠ '\\' := by
  cases rest with
  | nil => exact fun same => lone same rfl
  | cons d more => exact fun same => escaped d more same rfl

theorem readString_cons {offset : Nat} {c : Char} {rest : List Char} (backslash : c ≠ '\\')
    (quote : c ≠ '"') (line : ¬ (c = '\n' || c = '\r') = true) : readString offset (c :: rest)
      = (readString (offset + c.utf8Size) rest).prepend [c] [c] [] := by
  rw [readString]
  · rw [if_neg quote, if_neg line]
  · exact fun same _ => backslash same
  · exact fun _ _ same _ => backslash same

/-- A string literal is read again from its text. -/
theorem readString_text (offset : Nat) (cs : List Char) :
    readString offset (readString offset cs).text = { readString offset cs with rest := [] } := by
  fun_induction readString offset cs with
  | case1 => rfl
  | case2 => rfl
  | case3 offset c rest value errors escape ih =>
    simp only [text_prepend, List.cons_append, List.nil_append]
    rw [readString]
    simp only [escape, ih, prepend]
    rfl
  | case4 => rfl
  | case5 => rfl
  | case6 offset c rest lone escaped quote line ih =>
    simp only [text_prepend, List.cons_append, List.nil_append]
    rw [readString_cons (ne_backslash lone escaped) quote line, ih]
    rfl

/-- The item of a character literal, with what may stand after it there. -/
theorem readItem_text {cs rest : List Char} (follows : (readItem cs).rest = rest)
    {after : List Char} (stands : after = [] ∨ (rest.head? = after.head?)) :
    readItem ((readItem cs).text ++ after) = { readItem cs with rest := after } := by
  subst follows
  revert stands
  fun_cases readItem cs with
  | case1 =>
    rintro (rfl | same)
    · rfl
    · obtain rfl := List.head?_eq_none_iff.1 same.symm
      rfl
  | case2 =>
    rintro (rfl | same)
    · rfl
    · obtain rfl := List.head?_eq_none_iff.1 same.symm
      rfl
  | case3 c rest value errors escape =>
    intro _
    simp only [List.cons_append, List.nil_append, readItem, escape]
  | case4 rest =>
    rintro (rfl | same)
    · rfl
    · cases after with
      | nil => rfl
      | cons d after =>
        cases same
        rfl
  | case5 c rest lone escaped quote =>
    intro _
    have backslash := ne_backslash lone escaped
    rw [List.singleton_append, readItem]
    · rw [if_neg quote]
    · exact fun same _ => backslash same
    · exact fun _ _ same _ => backslash same

/-- A character literal is read again from its text. -/
theorem readCharacter_text (cs : List Char) :
    readCharacter (readCharacter cs).text = { readCharacter cs with rest := [] } := by
  cases follows : (readItem cs).rest with
  | nil =>
    have item := readItem_text follows (.inl rfl)
    rw [List.append_nil] at item
    simp only [readCharacter, follows, item]
  | cons c rest =>
    by_cases quote : c = '\''
    · subst quote
      have item := readItem_text follows (.inr (rfl : _ = ['\''].head?))
      simp only [readCharacter, follows, item]
    · have item := readItem_text follows (.inl rfl)
      rw [List.append_nil] at item
      have opened : readCharacter cs = { readItem cs with
          errors := (readItem cs).errors ++ [⟨0, .unterminatedLiteral '\''⟩] } := by
        rw [readCharacter, follows]
        split
        · next same => exact absurd (List.cons.inj same).1 quote
        · rw [← follows]
      rw [opened]
      simp only [readCharacter, item]

end Literal

theorem dropWhile_takeWhile {α : Type} (p : α → Bool) (l : List α) :
    (l.takeWhile p).dropWhile p = [] :=
  List.dropWhile_eq_nil_iff.2 fun _ mem => List.mem_takeWhile_imp mem

/-! ## Numbers on their own -/

namespace Numeral

/-- The number with the given whole part, fraction and what stands after it. -/
def finish (whole fraction rest : List Char) : Lexeme × List Char :=
  let digits := whole.filter (· != '_')
  let integer : Token := .integer (min maxInteger (natOfDigits digits))
  let floating : Token := .floating (toFloat digits fraction)
  let plain := if fraction.isEmpty then integer else floating
  match rest with
  | c :: rest =>
    if ['f', 'F', 'd', 'D'].contains c then (⟨whole ++ fraction ++ [c], floating, []⟩, rest)
    else if ['l', 'L'].contains c && fraction.isEmpty then
      (⟨whole ++ fraction ++ [c], integer, []⟩, rest)
    else (⟨whole ++ fraction, plain, []⟩, c :: rest)
  | [] => (⟨whole ++ fraction, plain, []⟩, [])

/-- The text goes on with what belongs neither to a whole part nor to a
fraction. -/
def EndsDigits (text : List Char) : Prop :=
  ∀ c ∈ text.head?, continuesWhole c = false ∧ c.isDigit = false ∧ c ≠ '.'

theorem fraction_of_ends {text : List Char} (ends : EndsDigits text) : fraction text = [] := by
  unfold fraction
  split
  · exact absurd rfl (ends '.' rfl).2.2
  · rfl

theorem read_eq_finish {first : Char} {whole fraction rest : List Char}
    (all : ∀ c ∈ whole, continuesWhole c = true)
    (ends : ∀ c ∈ (fraction ++ rest).head?, continuesWhole c = false)
    (isFraction : Numeral.fraction (fraction ++ rest) = fraction) :
    read first (whole ++ (fraction ++ rest)) = finish (first :: whole) fraction rest := by
  simp only [read, takeWhile_append_of_ends all ends, dropWhile_append_of_ends all ends,
    isFraction, List.drop_left]
  rfl

/-- No suffix continues the digits. -/
theorem endsDigits_suffix {c : Char} (mem : c ∈ ['f', 'F', 'd', 'D'] ++ ['l', 'L']) :
    EndsDigits [c] := by
  have letters : (['f', 'F', 'd', 'D'] ++ ['l', 'L']).all
      (fun c => !continuesWhole c && !c.isDigit && c != '.') = true := by decide
  have letter := List.all_eq_true.1 letters c mem
  rintro _ ⟨⟩
  simpa [and_assoc] using letter

/-- A number ends with its suffix, if it has one. -/
theorem finish_text (whole fraction rest : List Char) : ∃ suffix, EndsDigits suffix
    ∧ (finish whole fraction rest).1.text = whole ++ (fraction ++ suffix)
    ∧ finish whole fraction suffix = ((finish whole fraction rest).1, []) := by
  have none : EndsDigits [] := fun _ mem => absurd mem (Option.not_mem_none _)
  cases rest with
  | nil => exact ⟨[], none, by simp only [finish, List.append_nil], rfl⟩
  | cons c rest =>
    by_cases floating : ['f', 'F', 'd', 'D'].contains c = true
    · have mem := List.contains_iff_mem.1 floating
      refine ⟨[c], endsDigits_suffix (List.mem_append_left _ mem), ?_, ?_⟩
      · simp only [finish, if_pos floating, List.append_assoc]
      · simp only [finish, if_pos floating]
    · by_cases long : (['l', 'L'].contains c && fraction.isEmpty) = true
      · have mem := List.contains_iff_mem.1 (Bool.and_eq_true_iff.1 long).1
        refine ⟨[c], endsDigits_suffix (List.mem_append_right _ mem), ?_, ?_⟩
        · simp only [finish, if_neg floating, if_pos long, List.append_assoc]
        · simp only [finish, if_neg floating, if_pos long]
      · refine ⟨[], none, ?_, ?_⟩
        · simp only [finish, if_neg floating, if_neg long, List.append_nil]
        · simp only [finish, if_neg floating, if_neg long]

/-- A fraction is a fraction in front of anything that does not continue it. -/
theorem fraction_text (cs : List Char) {suffix : List Char} (ends : EndsDigits suffix) :
    fraction (fraction cs ++ suffix) = fraction cs
      ∧ ∀ c ∈ (fraction cs ++ suffix).head?, continuesWhole c = false := by
  fun_cases fraction cs with
  | case1 c rest isDigit =>
    refine ⟨?_, by rintro _ ⟨⟩; decide⟩
    simp only [List.cons_append, fraction, if_pos isDigit]
    rw [takeWhile_append_of_ends (fun d mem => List.mem_takeWhile_imp mem)
      fun d mem => (ends d mem).2.1]
  | case2 c rest isDigit =>
    exact ⟨fraction_of_ends ends, fun d mem => (ends d mem).1⟩
  | case3 =>
    exact ⟨fraction_of_ends ends, fun d mem => (ends d mem).1⟩

/-- A number is read again from its text. -/
theorem read_text (first : Char) (cs : List Char) : ∃ tail,
    (read first cs).1.text = first :: tail ∧ read first tail = ((read first cs).1, []) := by
  have all : ∀ c ∈ cs.takeWhile continuesWhole, continuesWhole c = true :=
    fun c mem => List.mem_takeWhile_imp mem
  obtain ⟨suffix, ends, text, again⟩ := finish_text (first :: cs.takeWhile continuesWhole)
    (fraction (cs.dropWhile continuesWhole))
    ((cs.dropWhile continuesWhole).drop (fraction (cs.dropWhile continuesWhole)).length)
  obtain ⟨isFraction, endsWhole⟩ := fraction_text (cs.dropWhile continuesWhole) ends
  exact ⟨_, text, (read_eq_finish all endsWhole isFraction).trans again⟩

end Numeral

/-! ## Lexemes on their own -/

namespace Lexeme

/-- A lexeme is read again from its text. -/
theorem next_text (c : Char) (cs : List Char) : ∃ tail,
    (next c cs).1.text = c :: tail ∧ next c tail = ((next c cs).1, []) := by
  fun_cases next c cs with
  | case1 cs line =>
    subst line
    exact ⟨[], rfl, rfl⟩
  | case2 line carriage rest =>
    subst carriage
    exact ⟨['\n'], rfl, rfl⟩
  | case3 cs line carriage =>
    subst carriage
    exact ⟨[], rfl, rfl⟩
  | case4 cs line carriage blank =>
    refine ⟨_, rfl, ?_⟩
    simp only [next, if_neg line, if_neg carriage, if_pos blank, List.takeWhile_idem,
      dropWhile_takeWhile]
  | case5 cs line carriage blank starts word =>
    refine ⟨_, rfl, ?_⟩
    simp only [next, if_neg line, if_neg carriage, if_neg blank, if_pos starts,
      List.takeWhile_idem, dropWhile_takeWhile, word]
  | case6 cs line carriage blank starts digit =>
    obtain ⟨tail, text, again⟩ := Numeral.read_text c cs
    refine ⟨tail, text, ?_⟩
    simp only [next, if_neg line, if_neg carriage, if_neg blank, if_neg starts, if_pos digit, again]
  | case7 line carriage blank starts digit point =>
    subst point
    exact ⟨['.', '.'], rfl, rfl⟩
  | case8 cs line carriage blank starts digit point =>
    subst point
    exact ⟨[], rfl, rfl⟩
  | case9 cs line carriage blank starts digit point quote literal =>
    refine ⟨literal.text, rfl, ?_⟩
    subst quote
    simp only [next, if_neg line, if_neg carriage, if_neg blank, if_neg starts, if_neg digit,
      if_neg point, if_true, literal, Literal.readString_text]
  | case10 cs line carriage blank starts digit point quote single literal =>
    refine ⟨literal.text, rfl, ?_⟩
    subst single
    simp only [next, if_neg line, if_neg carriage, if_neg blank, if_neg starts, if_neg digit,
      if_neg point, if_neg quote, if_true, literal, Literal.readCharacter_text]
  | case11 cs line carriage blank starts digit point quote single mark =>
    refine ⟨[], rfl, ?_⟩
    simp only [next, if_neg line, if_neg carriage, if_neg blank, if_neg starts, if_neg digit,
      if_neg point, if_neg quote, if_neg single, if_pos mark]
  | case12 cs line carriage blank starts digit point quote single mark =>
    refine ⟨[], rfl, ?_⟩
    simp only [next, if_neg line, if_neg carriage, if_neg blank, if_neg starts, if_neg digit,
      if_neg point, if_neg quote, if_neg single, if_neg mark]

/-- The lexeme is the only one of its text. -/
def IsAlone (lexeme : Lexeme) : Prop := all lexeme.text = [lexeme]

theorem isAlone_next (c : Char) (cs : List Char) : (next c cs).1.IsAlone := by
  obtain ⟨tail, text, again⟩ := next_text c cs
  rw [IsAlone, all, text, List.length_cons, split, again]
  cases tail <;> rfl

end Lexeme

/-! ## Unexpected characters -/

/-- Where an unexpected character was found, and which. -/
def LexicalError.unexpected? (error : LexicalError) : Option (Nat × Char) :=
  match error.fault with
  | .unexpectedCharacter c => some (error.offset, c)
  | _ => none

theorem LexicalError.shift_zero (error : LexicalError) : error.shift 0 = error := by
  rw [shift, Nat.zero_add]

theorem LexicalError.unexpected_shift (error : LexicalError) (distance : Nat) :
    (error.shift distance).unexpected?
      = error.unexpected?.map fun found => (distance + found.1, found.2) := by
  cases error with
  | mk offset fault => cases fault <;> rfl

/-- The character of a token that is none. -/
def Token.unknown? : Token → Option Char
  | unknown c => some c
  | _ => none

/-- No error is about an unexpected character. -/
def NoneUnexpected (errors : List LexicalError) : Prop :=
  errors.filterMap LexicalError.unexpected? = []

theorem NoneUnexpected.append {first second : List LexicalError} (left : NoneUnexpected first)
    (right : NoneUnexpected second) : NoneUnexpected (first ++ second) := by
  rw [NoneUnexpected, List.filterMap_append, left, right, List.append_nil]

namespace Literal

theorem noneUnexpected_ofEscape (offset : Nat) (c : Char) :
    NoneUnexpected (ofEscape offset c).2 := by
  rw [ofEscape]
  split <;> rfl

theorem noneUnexpected_readString (offset : Nat) (cs : List Char) :
    NoneUnexpected (readString offset cs).errors := by
  fun_induction readString offset cs with
  | case3 offset c rest value errors escape ih =>
    refine .append ?_ ih
    simpa only [escape] using noneUnexpected_ofEscape offset c
  | case6 offset c rest lone escaped quote line ih => exact ih
  | _ => rfl

theorem noneUnexpected_readItem (cs : List Char) : NoneUnexpected (readItem cs).errors := by
  fun_cases readItem cs with
  | case3 c rest value errors escape =>
    simpa only [escape] using noneUnexpected_ofEscape 1 c
  | _ => rfl

theorem noneUnexpected_readCharacter (cs : List Char) :
    NoneUnexpected (readCharacter cs).errors := by
  have item := noneUnexpected_readItem cs
  rw [readCharacter]
  split
  · exact item
  · exact item.append rfl

end Literal

/-- A number has no errors and is a token. -/
theorem Numeral.read_known (first : Char) (cs : List Char) : (read first cs).1.errors = []
    ∧ (read first cs).1.token ≠ .endOfInput ∧ (read first cs).1.token.unknown? = none := by
  simp only [read]
  repeat' split
  all_goals exact ⟨rfl, Token.noConfusion, rfl⟩

theorem Token.ofWord_cases (word : String) : (∃ value, ofWord word = .boolean value)
    ∨ (∃ reserved, ofWord word = .keyword reserved) ∨ ofWord word = .identifier word := by
  rw [ofWord]
  split
  · exact .inl ⟨_, rfl⟩
  · split
    · exact .inl ⟨_, rfl⟩
    · split
      · exact .inr (.inl ⟨_, rfl⟩)
      · exact .inr (.inr rfl)

namespace Lexeme

/-- The text of a lexeme that is no token is its character, and the error is
there. -/
structure Reports (lexeme : Lexeme) : Prop where
  notEnd : lexeme.token ≠ .endOfInput
  unexpected : lexeme.errors.filterMap LexicalError.unexpected?
    = lexeme.token.unknown?.toList.map fun c => (0, c)
  text_eq : ∀ c ∈ lexeme.token.unknown?, lexeme.text = [c]

theorem reports_of_noneUnexpected {lexeme : Lexeme} (notEnd : lexeme.token ≠ .endOfInput)
    (known : lexeme.token.unknown? = none) (none : NoneUnexpected lexeme.errors) :
    lexeme.Reports where
  notEnd := notEnd
  unexpected := by rw [known]; exact none
  text_eq c mem := by rw [known] at mem; exact absurd mem (Option.not_mem_none c)

theorem reports_next (c : Char) (cs : List Char) : (next c cs).1.Reports := by
  fun_cases next c cs with
  | case5 cs line carriage blank starts word =>
    obtain ⟨value, token⟩ | ⟨reserved, token⟩ | token := Token.ofWord_cases (String.ofList word)
    all_goals exact reports_of_noneUnexpected (by simp [token]) (by simp only [token]; rfl) rfl
  | case6 cs =>
    obtain ⟨errors, notEnd, known⟩ := Numeral.read_known c cs
    exact reports_of_noneUnexpected notEnd known (by rw [errors]; rfl)
  | case9 => exact reports_of_noneUnexpected (by simp) rfl (Literal.noneUnexpected_readString 1 _)
  | case10 => exact reports_of_noneUnexpected (by simp) rfl (Literal.noneUnexpected_readCharacter _)
  | case12 => exact ⟨by simp, rfl, by rintro _ ⟨⟩; rfl⟩
  | _ => exact reports_of_noneUnexpected (by simp) rfl rfl

end Lexeme

/-! ## The partition -/

/-- The errors of texts that stand one after another from the given position. -/
def errorsOf (position : Nat) : List String → List LexicalError
  | [] => []
  | text :: texts =>
    (tokenize text).errors.map (·.shift position) ++ errorsOf (position + text.utf8ByteSize) texts

/-- The characters that are no tokens, with the positions where their texts
stand. -/
def unknownOf (position : Nat) : List (String × Token) → List (Nat × Char)
  | [] => []
  | (text, token) :: rest =>
    token.unknown?.toList.map (fun c => (position, c))
      ++ unknownOf (position + text.utf8ByteSize) rest

/-- The texts are the lexemes of the source, and the tokens are theirs. -/
structure IsPartition (source : String) (texts : List String) (tokens : List Token) : Prop where
  join_eq : String.join texts = source
  nonempty : ∀ text ∈ texts, text ≠ ""
  tokens_eq : (tokenize source).tokens = tokens ++ [.endOfInput]
  notEnd : .endOfInput ∉ tokens
  /-- Each text on its own is one token. -/
  alone : List.Forall₂ (fun text token => (tokenize text).tokens = [token, .endOfInput])
    texts tokens
  errors_eq : (tokenize source).errors = errorsOf 0 texts
  /-- The unexpected characters are the tokens that are none, each where its
  text stands. -/
  unexpected_eq : (tokenize source).errors.filterMap LexicalError.unexpected?
    = unknownOf 0 (texts.zip tokens)
  /-- An unexpected character stands at the offset of the error. -/
  found : ∀ offset c, ⟨offset, .unexpectedCharacter c⟩ ∈ (tokenize source).errors →
    ∃ before after, source = before ++ String.singleton c ++ after ∧ before.utf8ByteSize = offset

theorem utf8Length_eq (cs : List Char) : utf8Length cs = (String.ofList cs).utf8ByteSize := by
  induction cs with
  | nil => rfl
  | cons c cs ih =>
    rw [utf8Length, ih, String.ofList_cons, String.utf8ByteSize_append,
      String.utf8ByteSize_singleton]

namespace Lexeme

/-- The text of a lexeme, as a string. -/
def source (lexeme : Lexeme) : String := String.ofList lexeme.text

theorem byteLength_eq (lexeme : Lexeme) : lexeme.byteLength = lexeme.source.utf8ByteSize :=
  utf8Length_eq lexeme.text

theorem IsAlone.tokenize_eq {lexeme : Lexeme} (alone : lexeme.IsAlone) :
    tokenize lexeme.source = .ofLexemes [lexeme] := by
  rw [tokenize, source, String.toList_ofList, alone]

theorem IsAlone.source_ne {lexeme : Lexeme} (alone : lexeme.IsAlone) : lexeme.source ≠ "" := by
  intro empty
  have text : lexeme.text = [] := by simpa only [source, String.ofList_eq_empty_iff] using empty
  rw [IsAlone, text] at alone
  exact List.cons_ne_nil _ _ alone.symm

theorem IsAlone.errors_eq {lexeme : Lexeme} (alone : lexeme.IsAlone) :
    (tokenize lexeme.source).errors = lexeme.errors := by
  simp [alone.tokenize_eq, TokenStream.ofLexemes, TokenStream.errorsFrom,
      LexicalError.shift_zero]

/-- The errors of lexemes are those that their texts have. -/
theorem errorsFrom_eq (position : Nat) {lexemes : List Lexeme}
    (alone : ∀ lexeme ∈ lexemes, lexeme.IsAlone) :
    TokenStream.errorsFrom position lexemes = errorsOf position (lexemes.map source) := by
  induction lexemes generalizing position with
  | nil => rfl
  | cons lexeme lexemes ih =>
    obtain ⟨head, tail⟩ := List.forall_mem_cons.1 alone
    rw [List.map_cons, TokenStream.errorsFrom, errorsOf, ih _ tail, head.errors_eq,
      byteLength_eq]

/-- The unexpected characters of lexemes. -/
theorem unexpected_errorsFrom (position : Nat) {lexemes : List Lexeme}
    (reports : ∀ lexeme ∈ lexemes, lexeme.Reports) :
    (TokenStream.errorsFrom position lexemes).filterMap LexicalError.unexpected?
      = unknownOf position (lexemes.map fun lexeme => (lexeme.source, lexeme.token)) := by
  induction lexemes generalizing position with
  | nil => rfl
  | cons lexeme lexemes ih =>
    obtain ⟨head, tail⟩ := List.forall_mem_cons.1 reports
    have shifted : (lexeme.errors.map (·.shift position)).filterMap LexicalError.unexpected?
        = (lexeme.errors.filterMap LexicalError.unexpected?).map
          fun found => (position + found.1, found.2) := by
      rw [List.filterMap_map, List.map_filterMap]
      exact congrArg (List.filterMap · _) (funext fun error => error.unexpected_shift position)
    rw [TokenStream.errorsFrom, List.filterMap_append, shifted, head.unexpected, List.map_map,
      ih _ tail, byteLength_eq]
    rfl

/-- A character that is no token stands where its text stands. -/
theorem exists_split_of_mem_unknownOf {position offset : Nat} {c : Char} {lexemes : List Lexeme}
    (reports : ∀ lexeme ∈ lexemes, lexeme.Reports)
    (mem : (offset, c) ∈ unknownOf position
      (lexemes.map fun lexeme => (lexeme.source, lexeme.token))) :
    ∃ before after, String.join (lexemes.map source) = before ++ String.singleton c ++ after
      ∧ position + before.utf8ByteSize = offset := by
  induction lexemes generalizing position with
  | nil => exact absurd mem List.not_mem_nil
  | cons lexeme lexemes ih =>
    obtain ⟨head, tail⟩ := List.forall_mem_cons.1 reports
    rw [List.map_cons, String.join_cons]
    obtain here | later := List.mem_append.1 mem
    · obtain ⟨_, known, ⟨⟩⟩ := List.mem_map.1 here
      have text := head.text_eq c (Option.mem_toList.1 known)
      exact ⟨"", String.join (lexemes.map source), by rw [source, text]; simp, rfl⟩
    · obtain ⟨before, after, join, size⟩ := ih tail later
      refine ⟨lexeme.source ++ before, after, ?_, ?_⟩
      · rw [join]
        simp only [String.append_assoc]
      · rw [String.utf8ByteSize_append, ← size, Nat.add_assoc]

end Lexeme

/-- Tokenizing cuts a source into lexemes that do not depend on each other. -/
theorem exists_isPartition (source : String) : ∃ texts tokens, IsPartition source texts tokens := by
  let lexemes := Lexeme.all source.toList
  have alone : ∀ lexeme ∈ lexemes, lexeme.IsAlone :=
    Lexeme.forall_mem_all Lexeme.isAlone_next source.toList
  have reports : ∀ lexeme ∈ lexemes, lexeme.Reports :=
    Lexeme.forall_mem_all Lexeme.reports_next source.toList
  have join : String.join (lexemes.map Lexeme.source) = source := by
    rw [← String.toList_inj, String.toList_join, List.flatMap_map]
    simpa only [Lexeme.source, String.toList_ofList] using Lexeme.flatMap_text_all source.toList
  have unexpected : (tokenize source).errors.filterMap LexicalError.unexpected?
      = unknownOf 0 (lexemes.map fun lexeme => (lexeme.source, lexeme.token)) :=
    Lexeme.unexpected_errorsFrom 0 reports
  refine ⟨lexemes.map Lexeme.source, lexemes.map (·.token), ?_⟩
  exact {
    join_eq := join
    nonempty := List.forall_mem_map.2 fun lexeme mem => (alone lexeme mem).source_ne
    tokens_eq := rfl
    notEnd := fun mem => by
      obtain ⟨lexeme, listed, token⟩ := List.mem_map.1 mem
      exact (reports lexeme listed).notEnd token
    alone := by
      rw [List.forall₂_map_left_iff, List.forall₂_map_right_iff, List.forall₂_same]
      intro lexeme mem
      rw [(alone lexeme mem).tokenize_eq]
      rfl
    errors_eq := Lexeme.errorsFrom_eq 0 alone
    unexpected_eq := by rw [unexpected, List.zip_map']
    found := fun offset c mem => by
      have listed : (offset, c) ∈ (tokenize source).errors.filterMap LexicalError.unexpected? :=
        List.mem_filterMap.2 ⟨_, mem, rfl⟩
      rw [unexpected] at listed
      simpa only [join, Nat.zero_add] using Lexeme.exists_split_of_mem_unknownOf reports listed }

end ClassModel
