import ClassModel.Proofs.Printed

/-!
# ClassModel.Proofs.Literal

Quoted literals. A literal is written item by item, each a character that
stands for itself or a character after a backslash, and the reader undoes what
was written: it decodes every item, and complains only about the escapes that
it does not know (`decodes_literals`). Since the characters that cannot stand
for themselves all have an escape, every text can be written.
-/

namespace ClassModel

/-! ## Items -/

/-- The escapes, each with the character that it stands for. -/
def escapes : List (Char × Char) :=
  [('t', '\t'), ('n', '\n'), ('r', '\r'), ('0', '\x00'), ('\'', '\''), ('"', '"'), ('\\', '\\')]

theorem escapeValue?_eq_lookup (c : Char) : escapeValue? c = escapes.lookup c := by
  fun_cases escapeValue? c with
  | case8 =>
    symm
    rw [List.lookup_eq_none_iff]
    simp_all [escapes]
  | _ => decide

/-- Whether the character may stand for itself in a string literal. -/
def standsInString (c : Char) : Bool := c != '"' && c != '\\' && c != '\n' && c != '\r'

/-- Whether the character may stand for itself in a character literal. -/
def standsInCharacter (c : Char) : Bool := c != '\'' && c != '\\'

/-- An item of a quoted literal whose own characters satisfy the predicate. -/
inductive LiteralItem (stands : Char → Bool) where
  /-- A character that stands for itself. -/
  | plain (c : Char) (isPlain : stands c = true)
  /-- A character after a backslash. -/
  | escaped (c : Char)

namespace LiteralItem

variable {stands : Char → Bool}

/-- The characters of the item. -/
def text : LiteralItem stands → List Char
  | plain c _ => [c]
  | escaped c => ['\\', c]

/-- The character that is meant. An unlisted escape stands for its character. -/
def value : LiteralItem stands → Char
  | plain c _ => c
  | escaped c => (escapes.lookup c).getD c

/-- The character of an escape that is not listed. -/
def unlisted? : LiteralItem stands → Option Char
  | plain _ _ => none
  | escaped c => if (escapes.lookup c).isNone then some c else none

/-- The items between two quotes. -/
def quoted (quote : Char) (items : List (LiteralItem stands)) : String :=
  String.ofList (quote :: (items.flatMap text ++ [quote]))

/-- The text that is meant. -/
def decoded (items : List (LiteralItem stands)) : String := String.ofList (items.map value)

/-- The error of an unlisted escape whose backslash stands at the byte offset. -/
def errors (offset : Nat) (item : LiteralItem stands) : List LexicalError :=
  item.unlisted?.toList.map fun c => ⟨offset, .invalidEscape c⟩

/-- The errors of items that stand one after another from the byte offset on. -/
def invalidEscapes (offset : Nat) : List (LiteralItem stands) → List LexicalError
  | [] => []
  | item :: rest => item.errors offset ++ invalidEscapes (offset + utf8Length item.text) rest

variable (stands) in
theorem ofEscape_eq (offset : Nat) (c : Char) : Literal.ofEscape offset c
    = ((escaped c : LiteralItem stands).value, (escaped c : LiteralItem stands).errors offset) := by
  rw [Literal.ofEscape, escapeValue?_eq_lookup]
  cases listed : escapes.lookup c with
  | none => simp [value, errors, unlisted?, listed]
  | some meant => simp [value, errors, unlisted?, listed]

/-! ## Reading items -/

theorem readString_item (offset : Nat) (item : LiteralItem standsInString) (rest : List Char) :
    Literal.readString offset (item.text ++ rest)
      = (Literal.readString (offset + utf8Length item.text) rest).prepend [item.value] item.text
        (item.errors offset) := by
  cases item with
  | plain c isPlain =>
    simp only [standsInString, Bool.and_eq_true, bne_iff_ne] at isPlain
    obtain ⟨⟨⟨quote, backslash⟩, line⟩, carriage⟩ := isPlain
    exact Literal.readString_cons backslash quote (by simp [line, carriage])
  | escaped c =>
    have size : offset + 1 + c.utf8Size = offset + utf8Length ['\\', c] := by
      simp only [utf8Length, Nat.add_zero, Nat.add_assoc]
      rfl
    have read := ofEscape_eq standsInString offset c
    simp only [text, List.cons_append, List.nil_append, Literal.readString, read, size]

/-- A reader of strings takes the items up to the quote, and leaves the rest. -/
theorem readString_items (offset : Nat) (items : List (LiteralItem standsInString))
    (rest : List Char) : Literal.readString offset (items.flatMap text ++ '"' :: rest)
      = ⟨items.map value, items.flatMap text ++ ['"'], invalidEscapes offset items, rest⟩ := by
  induction items generalizing offset with
  | nil => rfl
  | cons item items ih =>
    rw [List.flatMap_cons, List.append_assoc, readString_item, ih, List.append_assoc]
    rfl

/-- A reader of characters takes one item and the quote, and leaves the rest. -/
theorem readCharacter_item (item : LiteralItem standsInCharacter) (rest : List Char) :
    Literal.readCharacter (item.text ++ '\'' :: rest)
      = ⟨[item.value], item.text ++ ['\''], invalidEscapes 1 [item], rest⟩ := by
  cases item with
  | plain c isPlain =>
    simp only [standsInCharacter, Bool.and_eq_true, bne_iff_ne] at isPlain
    obtain ⟨quote, backslash⟩ := isPlain
    have read : Literal.readItem (c :: '\'' :: rest) = ⟨[c], [c], [], '\'' :: rest⟩ := by
      rw [Literal.readItem]
      · rw [if_neg quote]
      · exact fun same _ => backslash same
      · exact fun _ _ same _ => backslash same
    simp only [text, List.singleton_append, Literal.readCharacter, read]
    rfl
  | escaped c =>
    have read := ofEscape_eq standsInCharacter 1 c
    simp only [text, List.cons_append, List.nil_append, Literal.readCharacter, Literal.readItem,
      read, invalidEscapes, List.append_nil]

/-! ## Sources of one lexeme -/

theorem next_string (items : List (LiteralItem standsInString)) :
    Lexeme.next '"' (items.flatMap text ++ ['"'])
      = (⟨'"' :: (items.flatMap text ++ ['"']), .string (decoded items), invalidEscapes 1 items⟩,
        []) := by
  have read : Lexeme.next '"' (items.flatMap text ++ ['"'])
      = (let literal := Literal.readString 1 (items.flatMap text ++ ['"'])
        (⟨'"' :: literal.text, .string (String.ofList literal.value), literal.errors⟩,
          literal.rest)) := rfl
  rw [read, readString_items]
  rfl

theorem next_character (item : LiteralItem standsInCharacter) :
    Lexeme.next '\'' (item.text ++ ['\''])
      = (⟨'\'' :: (item.text ++ ['\'']), .character item.value, invalidEscapes 1 [item]⟩, []) := by
  have read : Lexeme.next '\'' (item.text ++ ['\''])
      = (let literal := Literal.readCharacter (item.text ++ ['\''])
        (⟨'\'' :: literal.text, .character (literal.value.headD '\x00'), literal.errors⟩,
          literal.rest)) := rfl
  rw [read, readCharacter_item]
  rfl

theorem tokenize_quoted_string (items : List (LiteralItem standsInString)) :
    tokenize (quoted '"' items)
      = ⟨[.string (decoded items), .endOfInput], invalidEscapes 1 items⟩ :=
  tokenize_of_next (next_string items)

theorem tokenize_quoted_character (item : LiteralItem standsInCharacter) :
    tokenize (quoted '\'' [item])
      = ⟨[.character item.value, .endOfInput], invalidEscapes 1 [item]⟩ := by
  rw [quoted, List.flatMap_singleton]
  exact tokenize_of_next (next_character item)

/-! ## Writing a text -/

/-- An item that means the character and is no cause of complaint. -/
def Encodes (item : LiteralItem stands) (c : Char) : Prop :=
  item.value = c ∧ item.unlisted? = none

theorem encodes_escaped {e c : Char} (listed : escapes.lookup e = some c) :
    (escaped e : LiteralItem stands).Encodes c := by
  simp [Encodes, value, unlisted?, listed]

/-- Every character can be written, if those that do not stand for themselves
are meant by some escape. -/
theorem exists_encodes (covered : ∀ c, stands c = false → ∃ e, escapes.lookup e = some c)
    (c : Char) : ∃ item : LiteralItem stands, item.Encodes c := by
  cases isPlain : stands c with
  | true => exact ⟨.plain c isPlain, rfl, rfl⟩
  | false =>
    obtain ⟨e, listed⟩ := covered c isPlain
    exact ⟨.escaped e, encodes_escaped listed⟩

theorem exists_encodes_string (c : Char) : ∃ item : LiteralItem standsInString, item.Encodes c := by
  refine exists_encodes (fun c isPlain => ?_) c
  simp only [standsInString, Bool.and_eq_false_iff, bne_eq_false_iff_eq] at isPlain
  obtain ((rfl | rfl) | rfl) | rfl := isPlain
  · exact ⟨'"', by decide⟩
  · exact ⟨'\\', by decide⟩
  · exact ⟨'n', by decide⟩
  · exact ⟨'r', by decide⟩

theorem exists_encodes_character (c : Char) :
    ∃ item : LiteralItem standsInCharacter, item.Encodes c := by
  refine exists_encodes (fun c isPlain => ?_) c
  simp only [standsInCharacter, Bool.and_eq_false_iff, bne_eq_false_iff_eq] at isPlain
  obtain rfl | rfl := isPlain
  · exact ⟨'\'', by decide⟩
  · exact ⟨'\\', by decide⟩

theorem invalidEscapes_eq_nil (offset : Nat) {items : List (LiteralItem stands)}
    (listed : ∀ item ∈ items, item.unlisted? = none) : invalidEscapes offset items = [] := by
  induction items generalizing offset with
  | nil => rfl
  | cons item items ih =>
    obtain ⟨head, tail⟩ := List.forall_mem_cons.1 listed
    rw [invalidEscapes, errors, head, ih _ tail]
    rfl

theorem exists_encoding (meant : List Char) : ∃ items : List (LiteralItem standsInString),
    items.map value = meant ∧ ∀ item ∈ items, item.unlisted? = none := by
  induction meant with
  | nil => exact ⟨[], rfl, fun _ mem => absurd mem List.not_mem_nil⟩
  | cons c meant ih =>
    obtain ⟨item, means, listed⟩ := exists_encodes_string c
    obtain ⟨items, value_eq, all⟩ := ih
    exact ⟨item :: items, by rw [List.map_cons, means, value_eq],
      List.forall_mem_cons.2 ⟨listed, all⟩⟩

/-- Reading a quoted literal undoes writing it: a string literal is one token,
whose value is the text that its items mean, and its errors are those of the
escapes that are not listed; every text is written by some items without an
error. So it is for character literals of one item. -/
theorem decodes_literals :
    (∀ items : List (LiteralItem standsInString), tokenize (quoted '"' items)
      = ⟨[.string (decoded items), .endOfInput], invalidEscapes 1 items⟩)
    ∧ (∀ meant : String, ∃ items : List (LiteralItem standsInString),
      tokenize (quoted '"' items) = ⟨[.string meant, .endOfInput], []⟩)
    ∧ (∀ item : LiteralItem standsInCharacter, tokenize (quoted '\'' [item])
      = ⟨[.character item.value, .endOfInput], invalidEscapes 1 [item]⟩)
    ∧ ∀ meant : Char, ∃ item : LiteralItem standsInCharacter,
      tokenize (quoted '\'' [item]) = ⟨[.character meant, .endOfInput], []⟩ := by
  refine ⟨tokenize_quoted_string, fun meant => ?_, tokenize_quoted_character, fun meant => ?_⟩
  · obtain ⟨items, means, listed⟩ := exists_encoding meant.toList
    refine ⟨items, ?_⟩
    rw [tokenize_quoted_string, decoded, means, String.ofList_toList,
      invalidEscapes_eq_nil 1 listed]
  · obtain ⟨item, means, listed⟩ := exists_encodes_character meant
    refine ⟨item, ?_⟩
    rw [tokenize_quoted_character, means,
      invalidEscapes_eq_nil 1 (List.forall_mem_singleton.2 listed)]

end LiteralItem

end ClassModel
