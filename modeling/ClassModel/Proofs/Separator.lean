import ClassModel.Proofs.Printed

/-!
# ClassModel.Proofs.Separator

Tokenizing on both sides of a separator. A line feed and the punctuation marks
are tokens of their own wherever they stand, except inside a literal. So a text
is tokenized up to a separator as if it ended there, and behind it as if it
began there (`tokenize_append`).

A reader of a lexeme looks ahead for the end of a run, for a fraction, for a
suffix or for the rest of an ellipsis. At a separator each of them decides as it
does at the end of the text (`Lexeme.next_append_separator`). Only literals take
separators, and a closed one has not looked beyond its end.
-/

namespace ClassModel

/-- The character is a token of its own. -/
def IsSeparator (c : Char) : Prop := c = '\n' ∨ isPunctuation c = true

/-- The token of a separator. -/
def separatorToken (c : Char) : Token := if c = '\n' then .newLine else .punctuation c

/-- The quote of the literal that is not closed. -/
def LexicalFault.unclosed? : LexicalFault → Option Char
  | unterminatedLiteral quote => some quote
  | unexpectedCharacter _ | invalidEscape _ => none

/-- No error is about a literal that is not closed. -/
def NoneUnclosed (errors : List LexicalError) : Prop :=
  ∀ error ∈ errors, error.fault.unclosed? = none

theorem noneUnclosed_append {first second : List LexicalError} :
    NoneUnclosed (first ++ second) ↔ NoneUnclosed first ∧ NoneUnclosed second :=
  List.forall_mem_append

/-! ## What a separator does not continue -/

/-- The character continues nothing that stands in front of it. -/
structure Breaks (c : Char) : Prop where
  blank : Text.isBlank c = false
  word : continuesIdentifier c = false
  whole : continuesWhole c = false
  digit : c.isDigit = false
  point : c ≠ '.'
  floating : ['f', 'F', 'd', 'D'].contains c = false
  long : ['l', 'L'].contains c = false

instance (c : Char) : Decidable (Breaks c) :=
  decidable_of_iff (Text.isBlank c = false ∧ continuesIdentifier c = false
      ∧ continuesWhole c = false ∧ c.isDigit = false ∧ c ≠ '.'
      ∧ ['f', 'F', 'd', 'D'].contains c = false ∧ ['l', 'L'].contains c = false)
    ⟨fun ⟨blank, word, whole, digit, point, floating, long⟩ =>
        ⟨blank, word, whole, digit, point, floating, long⟩,
      fun ⟨blank, word, whole, digit, point, floating, long⟩ =>
        ⟨blank, word, whole, digit, point, floating, long⟩⟩

theorem IsSeparator.mem {c : Char} (separator : IsSeparator c) :
    c ∈ ['\n', '<', '>', ',', '(', ')', '[', ']', '&', ';', '{', '}', '='] := by
  rcases separator with rfl | mark
  · exact List.mem_cons_self
  · exact List.mem_cons_of_mem _ (List.contains_iff_mem.1 mark)

/-- What holds of each separator can be checked one after the other. -/
theorem IsSeparator.of_all {c : Char} (separator : IsSeparator c) {p : Char → Bool}
    (all : ['\n', '<', '>', ',', '(', ')', '[', ']', '&', ';', '{', '}', '='].all p = true) :
    p c = true :=
  List.all_eq_true.1 all c separator.mem

theorem IsSeparator.breaks {c : Char} (separator : IsSeparator c) : Breaks c :=
  of_decide_eq_true (separator.of_all (p := (decide <| Breaks ·)) (by decide +kernel))

section Runs

variable {α : Type} {p : α → Bool} {c : α}

/-- A run of characters is the same in front of one that does not continue it. -/
theorem takeWhile_append_cons (stops : p c = false) (run more : List α) :
    (run ++ c :: more).takeWhile p = run.takeWhile p := by
  induction run with
  | nil => simp [stops]
  | cons d run ih => simp only [List.cons_append, List.takeWhile_cons, ih]

theorem dropWhile_append_cons (stops : p c = false) (run more : List α) :
    (run ++ c :: more).dropWhile p = run.dropWhile p ++ c :: more := by
  induction run with
  | nil => simp [stops]
  | cons d run ih =>
    simp only [List.cons_append, List.dropWhile_cons, ih]
    split <;> rfl

end Runs

/-! ## Literals -/

namespace Literal

/-- A closed string literal is read alike whatever stands behind it. -/
theorem readString_append_more {offset : Nat} {cs : List Char}
    (closed : NoneUnclosed (readString offset cs).errors) (more : List Char) :
    readString offset (cs ++ more)
      = { readString offset cs with rest := (readString offset cs).rest ++ more } := by
  fun_induction readString offset cs with
  | case1 => exact absurd (closed _ List.mem_cons_self) (by simp [LexicalFault.unclosed?])
  | case2 => exact absurd (closed _ List.mem_cons_self) (by simp [LexicalFault.unclosed?])
  | case3 offset c rest value errors escape ih =>
    have closed := (noneUnclosed_append.1 closed).2
    simp only [List.cons_append, readString, escape, ih closed, prepend]
  | case4 offset rest => simp [readString]
  | case5 => exact absurd (closed _ List.mem_cons_self) (by simp [LexicalFault.unclosed?])
  | case6 offset c rest lone escaped quote line ih =>
    rw [List.cons_append, readString_cons (ne_backslash lone escaped) quote line, ih closed]
    rfl

/-- The item of a character literal is read alike if something stands behind
it. -/
theorem readItem_append_more {cs : List Char} (follows : (readItem cs).rest ≠ [])
    (more : List Char) :
    readItem (cs ++ more) = { readItem cs with rest := (readItem cs).rest ++ more } := by
  revert follows
  fun_cases readItem cs with
  | case1 => exact fun follows => absurd rfl follows
  | case2 => exact fun follows => absurd rfl follows
  | case3 c rest value errors escape =>
    intro _
    simp only [List.cons_append, readItem, escape]
  | case4 rest => exact fun _ => rfl
  | case5 c rest lone escaped quote =>
    intro _
    have backslash := ne_backslash lone escaped
    rw [List.cons_append, readItem]
    · rw [if_neg quote]
    · exact fun same _ => backslash same
    · exact fun _ _ same _ => backslash same

/-- A closed character literal is read alike whatever stands behind it. -/
theorem readCharacter_append_more {cs : List Char}
    (closed : NoneUnclosed (readCharacter cs).errors) (more : List Char) :
    readCharacter (cs ++ more)
      = { readCharacter cs with rest := (readCharacter cs).rest ++ more } := by
  unfold readCharacter at closed ⊢
  dsimp only at closed ⊢
  split at closed
  · next rest follows =>
    rw [readItem_append_more (by rw [follows]; exact List.cons_ne_nil _ _), follows]
    rfl
  · have last := (noneUnclosed_append.1 closed).2
    exact absurd (last _ List.mem_cons_self) (by simp [LexicalFault.unclosed?])

end Literal

/-! ## Numbers -/

namespace Numeral

variable {c : Char}

theorem fraction_append_cons (breaks : Breaks c) (cs more : List Char) :
    fraction (cs ++ c :: more) = fraction cs := by
  match cs with
  | [] =>
    rw [List.nil_append, fraction]
    · rfl
    · exact fun _ _ same => breaks.point (List.cons.inj same).1
  | [d] =>
    by_cases point : d = '.'
    · subst point
      simp [fraction, breaks.digit]
    · simp [fraction, point]
  | d :: e :: rest =>
    by_cases point : d = '.'
    · subst point
      simp only [List.cons_append, fraction, takeWhile_append_cons breaks.digit]
    · simp [fraction, point]

theorem length_fraction_le (cs : List Char) : (fraction cs).length ≤ cs.length := by
  have lengths := congrArg List.length (fraction_append cs)
  rw [List.length_append] at lengths
  omega

/-- A number ends in front of a separator as it does at the end of a text. -/
theorem read_append_cons (breaks : Breaks c) (first : Char) (cs more : List Char) :
    read first (cs ++ c :: more) = ((read first cs).1, (read first cs).2 ++ c :: more) := by
  have drop : (cs.dropWhile continuesWhole ++ c :: more).drop
        (fraction (cs.dropWhile continuesWhole)).length
      = (cs.dropWhile continuesWhole).drop (fraction (cs.dropWhile continuesWhole)).length
        ++ c :: more :=
    List.drop_append_of_le_length (length_fraction_le _)
  simp only [read, takeWhile_append_cons breaks.whole, dropWhile_append_cons breaks.whole,
    fraction_append_cons breaks, drop]
  cases (cs.dropWhile continuesWhole).drop (fraction (cs.dropWhile continuesWhole)).length with
  | nil => simp only [List.nil_append, breaks.floating, breaks.long, Bool.false_and,
      Bool.false_eq_true, if_false]
  | cons d rest =>
    simp only [List.cons_append]
    repeat' split
    all_goals rfl

end Numeral

/-! ## Lexemes -/

namespace Lexeme

variable {c : Char}

/-- A lexeme ends in front of a separator as it does at the end of a text. -/
theorem next_append_separator (breaks : Breaks c) {first : Char} {cs : List Char}
    (closed : NoneUnclosed (next first cs).1.errors)
    (line : c = '\n' → (first :: cs).getLast? ≠ some '\r') (more : List Char) :
    next first (cs ++ c :: more) = ((next first cs).1, (next first cs).2 ++ c :: more) := by
  revert closed line
  fun_cases next first cs with
  | case1 cs line =>
    subst line
    exact fun _ _ => rfl
  | case2 line carriage rest =>
    subst carriage
    exact fun _ _ => rfl
  | case3 cs notLine carriage lone =>
    subst carriage
    intro _ line
    cases cs with
    | nil =>
      have other : c ≠ '\n' := fun same => line same rfl
      simp [next, other]
    | cons d cs =>
      have other : d ≠ '\n' := fun same => lone cs (same ▸ rfl)
      simp [next, other]
  | case4 cs line carriage blank =>
    intro _ _
    simp only [next, if_neg line, if_neg carriage, if_pos blank,
      takeWhile_append_cons breaks.blank, dropWhile_append_cons breaks.blank]
  | case5 cs line carriage blank starts word =>
    intro _ _
    simp only [next, if_neg line, if_neg carriage, if_neg blank, if_pos starts,
      takeWhile_append_cons breaks.word, dropWhile_append_cons breaks.word, word]
  | case6 cs line carriage blank starts digit =>
    intro _ _
    simp only [next, if_neg line, if_neg carriage, if_neg blank, if_neg starts, if_pos digit,
      Numeral.read_append_cons breaks]
  | case7 line carriage blank starts digit point =>
    subst point
    exact fun _ _ => rfl
  | case8 cs line carriage blank starts digit point other =>
    subst point
    intro _ _
    rcases cs with _ | ⟨d, _ | ⟨e, rest⟩⟩
    · simp_all [next, breaks.point]
    · simp_all [next, breaks.point]
    · simp_all [next]
  | case9 cs line carriage blank starts digit point quote literal =>
    subst quote
    intro closed _
    simp only [next, if_neg line, if_neg carriage, if_neg blank, if_neg starts, if_neg digit,
      if_neg point, if_true, literal, Literal.readString_append_more closed]
  | case10 cs line carriage blank starts digit point quote single literal =>
    subst single
    intro closed _
    simp only [next, if_neg line, if_neg carriage, if_neg blank, if_neg starts, if_neg digit,
      if_neg point, if_neg quote, if_true, literal, Literal.readCharacter_append_more closed]
  | case11 cs line carriage blank starts digit point quote single mark =>
    intro _ _
    simp only [next, if_neg line, if_neg carriage, if_neg blank, if_neg starts, if_neg digit,
      if_neg point, if_neg quote, if_neg single, if_pos mark]
  | case12 cs line carriage blank starts digit point quote single mark =>
    intro _ _
    simp only [next, if_neg line, if_neg carriage, if_neg blank, if_neg starts, if_neg digit,
      if_neg point, if_neg quote, if_neg single, if_neg mark]

/-- The lexeme of a separator. -/
def separator (c : Char) : Lexeme := ⟨[c], separatorToken c, []⟩

theorem next_separator (isSeparator : IsSeparator c) (cs : List Char) :
    next c cs = (separator c, cs) := by
  have mem := isSeparator.mem
  simp only [List.mem_cons, List.not_mem_nil, or_false] at mem
  rcases mem with rfl | rfl | rfl | rfl | rfl | rfl | rfl | rfl | rfl | rfl | rfl | rfl | rfl <;>
    rfl

/-- The lexemes on both sides of a separator do not depend on each other. -/
theorem all_append_separator (isSeparator : IsSeparator c) (cs more : List Char)
    (closed : ∀ lexeme ∈ all cs, NoneUnclosed lexeme.errors)
    (line : c = '\n' → cs.getLast? ≠ some '\r') :
    all (cs ++ c :: more) = all cs ++ separator c :: all more := by
  match cs with
  | [] => rw [List.nil_append, all_cons, next_separator isSeparator]; rfl
  | first :: cs =>
    have shorter := length_rest_le first cs
    rw [all_cons, List.forall_mem_cons] at closed
    have line' : c = '\n' → (next first cs).2.getLast? ≠ some '\r' := by
      intro same last
      refine line same ?_
      rw [← next_append first cs, List.getLast?_append, last]
      rfl
    rw [List.cons_append, all_cons, next_append_separator isSeparator.breaks closed.1 line,
      all_append_separator isSeparator (next first cs).2 more closed.2 line', all_cons,
      List.cons_append]
termination_by cs.length

end Lexeme

/-! ## Token streams -/

namespace TokenStream

/-- Behind lexemes, positions are moved by all their bytes. -/
theorem errorsFrom_append (position : Nat) (lexemes more : List Lexeme) :
    errorsFrom position (lexemes ++ more) = errorsFrom position lexemes
      ++ errorsFrom (position + (String.ofList (lexemes.flatMap (·.text))).utf8ByteSize) more := by
  induction lexemes generalizing position with
  | nil => rfl
  | cons lexeme lexemes ih =>
    rw [List.cons_append, errorsFrom, errorsFrom, ih, List.append_assoc, List.flatMap_cons,
      String.ofList_append, String.utf8ByteSize_append, Lexeme.byteLength_eq, Lexeme.source,
      Nat.add_assoc]

/-- Errors are told where they stand. -/
theorem errorsFrom_eq_map (position : Nat) (lexemes : List Lexeme) :
    errorsFrom position lexemes = (errorsFrom 0 lexemes).map (·.shift position) := by
  -- The induction moves both positions by the length of a lexeme.
  have moved (start : Nat) : errorsFrom (position + start) lexemes
      = (errorsFrom start lexemes).map (·.shift position) := by
    induction lexemes generalizing start with
    | nil => rfl
    | cons lexeme lexemes ih =>
      rw [errorsFrom, errorsFrom, List.map_append, ← ih, List.map_map, Nat.add_assoc]
      congr 2
      funext error
      simp [LexicalError.shift, Nat.add_assoc]
  exact moved 0

/-- What is closed in a text is closed in each lexeme. -/
theorem noneUnclosed_of_mem {position : Nat} {lexemes : List Lexeme}
    (closed : NoneUnclosed (errorsFrom position lexemes)) :
    ∀ lexeme ∈ lexemes, NoneUnclosed lexeme.errors := by
  induction lexemes generalizing position with
  | nil => exact List.forall_mem_nil _
  | cons lexeme lexemes ih =>
    obtain ⟨head, tail⟩ := noneUnclosed_append.1 closed
    exact List.forall_mem_cons.2
      ⟨fun error mem => head (error.shift position) (List.mem_map_of_mem mem), ih tail⟩

end TokenStream

/-- A separator takes one byte. -/
theorem IsSeparator.byteLength {c : Char} (separator : IsSeparator c) :
    (Lexeme.separator c).byteLength = 1 :=
  eq_of_beq (separator.of_all (p := fun c => (Lexeme.separator c).byteLength == 1) (by decide))

/-- A source is tokenized up to a separator as if it ended there, and behind it as
if it began there, if the literals in front of it are closed and it is no line feed
behind a carriage return. -/
theorem tokenize_append {a b : String} {c : Char} (separator : IsSeparator c)
    (closed : NoneUnclosed (tokenize a).errors)
    (line : c = '\n' → a.toList.getLast? ≠ some '\r') :
    (∃ tokens, (tokenize a).tokens = tokens ++ [.endOfInput]
      ∧ (tokenize (a ++ String.singleton c ++ b)).tokens
        = tokens ++ separatorToken c :: (tokenize b).tokens)
      ∧ (tokenize (a ++ String.singleton c ++ b)).errors
        = (tokenize a).errors ++ (tokenize b).errors.map (·.shift (a.utf8ByteSize + 1)) := by
  have split : Lexeme.all (a ++ String.singleton c ++ b).toList
      = Lexeme.all a.toList ++ Lexeme.separator c :: Lexeme.all b.toList := by
    rw [String.toList_append, String.toList_append, String.toList_singleton, List.append_assoc]
    exact Lexeme.all_append_separator separator _ _ (TokenStream.noneUnclosed_of_mem closed) line
  have none : (Lexeme.separator c).errors.map (·.shift a.utf8ByteSize) = [] := rfl
  constructor
  · refine ⟨(Lexeme.all a.toList).map (·.token), rfl, ?_⟩
    rw [tokenize, split, TokenStream.ofLexemes, List.map_append, List.append_assoc]
    rfl
  · rw [tokenize, split]
    simp only [TokenStream.ofLexemes]
    rw [TokenStream.errorsFrom_append, Lexeme.flatMap_text_all, String.ofList_toList, Nat.zero_add,
      TokenStream.errorsFrom, none, List.nil_append, separator.byteLength,
      TokenStream.errorsFrom_eq_map (a.utf8ByteSize + 1)]
    rfl

theorem tokenize_append_line :
    NoneUnclosed (tokenize "'\\q' 1.").errors
      ∧ (tokenize ("'\\q' 1." ++ String.singleton '\n' ++ "#")).errors
        = (tokenize "'\\q' 1.").errors
          ++ (tokenize "#").errors.map (·.shift ("'\\q' 1.".utf8ByteSize + 1)) :=
  have closed : NoneUnclosed (tokenize "'\\q' 1.").errors := by
    unfold NoneUnclosed
    decide +kernel
  ⟨closed, (tokenize_append (.inl rfl) closed (fun _ => by decide +kernel)).2⟩

end ClassModel
