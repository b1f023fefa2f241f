import ClassModel.Token.Lexer

/-!
# ClassModel.Token.Coverage

Splitting a text into lexemes loses nothing. Each reader answers the text that
it took together with the rest, and the two are what it was given
(`next_append`); a lexeme takes at least the character that it starts with, so
the lexemes of a text, put together, are the text (`flatMap_text_all`).
-/

namespace ClassModel

/-! ## Runs of characters -/

section Runs

variable {α : Type} {p : α → Bool} {run rest : List α}

/-- A run ends where the text goes on with something else. -/
theorem takeWhile_append_of_ends (all : ∀ c ∈ run, p c = true)
    (ends : ∀ c ∈ rest.head?, p c = false) : (run ++ rest).takeWhile p = run := by
  rw [List.takeWhile_append_of_pos all]
  cases rest with
  | nil => simp
  | cons c rest => simp [ends c rfl]

theorem dropWhile_append_of_ends (all : ∀ c ∈ run, p c = true)
    (ends : ∀ c ∈ rest.head?, p c = false) : (run ++ rest).dropWhile p = rest := by
  rw [List.dropWhile_append_of_pos all]
  cases rest with
  | nil => simp
  | cons c rest => simp [ends c rfl]

end Runs

/-! ## Literals -/

namespace Literal

@[simp] theorem text_prepend (literal : Literal) (value text : List Char)
    (errors : List LexicalError) :
    (literal.prepend value text errors).text = text ++ literal.text := rfl

@[simp] theorem rest_prepend (literal : Literal) (value text : List Char)
    (errors : List LexicalError) :
    (literal.prepend value text errors).rest = literal.rest := rfl

/-- The part of a string literal that is read, and what is left. -/
theorem readString_append (offset : Nat) (cs : List Char) :
    (readString offset cs).text ++ (readString offset cs).rest = cs := by
  fun_induction readString offset cs with
  | case1 => rfl
  | case2 => rfl
  | case3 offset c rest value errors _ ih => simpa using ih
  | case4 => rfl
  | case5 => rfl
  | case6 offset c rest _ _ _ _ ih => simpa using ih

/-- The item of a character literal, and what is left. -/
theorem readItem_append (cs : List Char) : (readItem cs).text ++ (readItem cs).rest = cs := by
  fun_cases readItem cs <;> simp_all

/-- The part of a character literal that is read, and what is left. -/
theorem readCharacter_append (cs : List Char) :
    (readCharacter cs).text ++ (readCharacter cs).rest = cs := by
  have h := readItem_append cs
  simp only [readCharacter]
  split <;> simp_all

end Literal

/-! ## Numbers -/

namespace Numeral

/-- The fraction stands at the front. -/
theorem fraction_append (cs : List Char) :
    fraction cs ++ cs.drop (fraction cs).length = cs := by
  fun_cases fraction cs with
  | case1 c rest isDigit =>
    simpa [isDigit] using List.prefix_iff_eq_append.1 (List.takeWhile_prefix Char.isDigit)
  | case2 => rfl
  | case3 => rfl

/-- The text of a number, and what is left. -/
theorem read_append (first : Char) (cs : List Char) :
    (read first cs).1.text ++ (read first cs).2 = first :: cs := by
  have parts : first :: (cs.takeWhile continuesWhole ++ (fraction (cs.dropWhile continuesWhole)
      ++ (cs.dropWhile continuesWhole).drop (fraction (cs.dropWhile continuesWhole)).length))
      = first :: cs := by
    rw [fraction_append, List.takeWhile_append_dropWhile]
  simp only [read]
  split
  · next c rest h =>
    rw [h] at parts
    repeat' split
    all_goals simpa using parts
  · next h =>
    rw [h] at parts
    simpa using parts

theorem text_read_ne_nil (first : Char) (cs : List Char) : (read first cs).1.text ≠ [] := by
  simp only [read]
  repeat' split
  all_goals simp

end Numeral

/-! ## Lexemes -/

namespace Lexeme

/-- The text of the next lexeme, and what is left. -/
theorem next_append (c : Char) (cs : List Char) :
    (next c cs).1.text ++ (next c cs).2 = c :: cs := by
  fun_cases next c cs with
  | case5 => exact congrArg _ List.takeWhile_append_dropWhile
  | case9 => exact congrArg _ (Literal.readString_append 1 cs)
  | case10 => exact congrArg _ (Literal.readCharacter_append cs)
  | case6 => exact Numeral.read_append c cs
  | _ => simp_all [List.takeWhile_append_dropWhile]

theorem text_next_ne_nil (c : Char) (cs : List Char) : (next c cs).1.text ≠ [] := by
  fun_cases next c cs <;> simp_all [Numeral.text_read_ne_nil]

/-- A lexeme takes at least the character that it starts with. -/
theorem length_rest_le (c : Char) (cs : List Char) : (next c cs).2.length ≤ cs.length := by
  have lengths := congrArg List.length (next_append c cs)
  have := List.length_pos_iff.2 (text_next_ne_nil c cs)
  simp only [List.length_append, List.length_cons] at lengths
  omega

/-- What holds of each lexeme that is read holds of each lexeme of a text. -/
theorem forall_mem_split {P : Lexeme → Prop} (step : ∀ c cs, P (next c cs).1) (count : Nat)
    (cs : List Char) : ∀ lexeme ∈ split count cs, P lexeme := by
  fun_induction split count cs with
  | case1 => exact List.forall_mem_nil _
  | case2 => exact List.forall_mem_nil _
  | case3 count c cs lexeme rest next ih =>
    exact List.forall_mem_cons.2 ⟨by simpa only [next] using step c cs, ih⟩

theorem forall_mem_all {P : Lexeme → Prop} (step : ∀ c cs, P (next c cs).1) (cs : List Char) :
    ∀ lexeme ∈ all cs, P lexeme :=
  forall_mem_split step cs.length cs

/-- Lexemes that may be as many as the characters of a text are the text, put
together. -/
theorem flatMap_text_split (count : Nat) (cs : List Char) (enough : cs.length ≤ count) :
    (split count cs).flatMap (·.text) = cs := by
  fun_induction split count cs with
  | case1 cs => simpa using enough
  | case2 => rfl
  | case3 count c cs lexeme rest step ih =>
    have shorter : rest.length ≤ cs.length := by simpa only [step] using length_rest_le c cs
    have whole : lexeme.text ++ rest = c :: cs := by simpa only [step] using next_append c cs
    rw [List.flatMap_cons, ih (by simp only [List.length_cons] at enough; omega), whole]

/-- The lexemes of a text are the text, put together. -/
theorem flatMap_text_all (cs : List Char) : (all cs).flatMap (·.text) = cs :=
  flatMap_text_split cs.length cs (Nat.le_refl _)

end Lexeme

end ClassModel
