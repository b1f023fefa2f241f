import ClassModel.Proofs.Name
import ClassModel.Proofs.Partition
import ClassModel.Proofs.Written

/-!
# ClassModel.Proofs.Printed

The text of a type can be read. In front of what may follow it, the text is
split into the tokens of the type (`TypeTree.lexes_text`), and a reader
of types takes just these tokens (`TypeTree.readWithin_tokens`).
-/

namespace ClassModel

/-! ## Joined lists -/

theorem mem_intercalate {α : Type} (separator : List α) {lists : List (List α)} {list : List α}
    (mem : list ∈ lists) {a : α} (inside : a ∈ list) : a ∈ separator.intercalate lists := by
  induction lists with
  | nil => cases mem
  | cons first lists ih =>
    cases lists with
    | nil =>
      obtain rfl := List.mem_singleton.1 mem
      rwa [List.intercalate_singleton]
    | cons second lists =>
      rw [List.intercalate_cons_cons, List.mem_append]
      obtain rfl | later := List.mem_cons.1 mem
      · exact .inl (List.mem_append_left _ inside)
      · exact .inr (ih later)

theorem exists_intercalate_eq {α : Type} (separator first : List α) (rest : List (List α)) :
    ∃ further, separator.intercalate (first :: rest) = first ++ further := by
  cases rest with
  | nil => exact ⟨[], by simp⟩
  | cons second rest =>
    exact ⟨separator ++ separator.intercalate (second :: rest), by
      rw [List.intercalate_cons_cons, List.append_assoc]⟩

/-! ## Lexemes in front of others -/

theorem Lexeme.split_cons (count : Nat) (c : Char) (cs : List Char) :
    split (count + 1) (c :: cs) = (next c cs).1 :: split count (next c cs).2 := rfl

/-- A bound that is large enough does not matter. -/
theorem Lexeme.split_eq {m n : Nat} {cs : List Char} (within : cs.length ≤ m)
    (within' : cs.length ≤ n) : split m cs = split n cs := by
  induction m generalizing n cs with
  | zero =>
    obtain rfl := List.length_eq_zero_iff.1 (Nat.le_zero.1 within)
    cases n <;> rfl
  | succ m ih =>
    cases cs with
    | nil => cases n <;> rfl
    | cons c cs =>
      cases n with
      | zero => cases within'
      | succ n =>
        have shorter := length_rest_le c cs
        rw [List.length_cons] at within within'
        rw [split_cons, split_cons, ih (n := n) (by omega) (by omega)]

theorem Lexeme.all_cons (c : Char) (cs : List Char) :
    all (c :: cs) = (next c cs).1 :: all (next c cs).2 := by
  rw [all, List.length_cons, split_cons, split_eq (length_rest_le c cs) (Nat.le_refl _)]
  rfl

/-- A source that is taken whole as one lexeme has one token. -/
theorem tokenize_of_next {c : Char} {cs : List Char} {lexeme : Lexeme}
    (read : Lexeme.next c cs = (lexeme, [])) :
    tokenize (String.ofList (c :: cs)) = ⟨[lexeme.token, .endOfInput], lexeme.errors⟩ := by
  rw [tokenize, String.toList_ofList, Lexeme.all_cons, read]
  simp [Lexeme.all, Lexeme.split, TokenStream.ofLexemes, TokenStream.errorsFrom,
    LexicalError.shift_zero]

/-- The meaningful tokens of lexemes. -/
def Lexeme.meaningful (lexemes : List Lexeme) : List Token :=
  (lexemes.map (·.token)).filter (!·.isInsignificant)

theorem significant_tokenize (source : String) :
    (tokenize source).significant = Lexeme.meaningful (Lexeme.all source.toList) := by
  rw [tokenize, TokenStream.significant, TokenStream.ofLexemes, List.filter_append]
  exact List.append_nil _

/-- In front of the rest, the text is split into the meaningful tokens, and has
no errors. -/
def Lexes (text : List Char) (tokens : List Token) (rest : List Char) : Prop :=
  ∃ lexemes, Lexeme.all (text ++ rest) = lexemes ++ Lexeme.all rest
    ∧ (∀ lexeme ∈ lexemes, lexeme.errors = [])
    ∧ (lexemes.map (·.token)).filter (!·.isInsignificant) = tokens

namespace Lexes

variable {text text' rest : List Char} {tokens tokens' : List Token}

theorem nil (rest : List Char) : Lexes [] [] rest := ⟨[], rfl, by simp, rfl⟩

theorem append (first : Lexes text tokens (text' ++ rest)) (second : Lexes text' tokens' rest) :
    Lexes (text ++ text') (tokens ++ tokens') rest := by
  obtain ⟨lexemes, split, silent, rfl⟩ := first
  obtain ⟨lexemes', split', silent', rfl⟩ := second
  refine ⟨lexemes ++ lexemes', ?_, List.forall_mem_append.2 ⟨silent, silent'⟩, ?_⟩
  · rw [List.append_assoc, split, split', List.append_assoc]
  · rw [List.map_append, List.filter_append]

/-- A lexeme in front of the rest. -/
theorem of_next {c : Char} {cs : List Char} (token : Token)
    (next : Lexeme.next c (cs ++ rest) = (⟨c :: cs, token, []⟩, rest)) :
    Lexes (c :: cs) (if token.isInsignificant then [] else [token]) rest := by
  refine ⟨[⟨c :: cs, token, []⟩], ?_, by simp, ?_⟩
  · rw [List.cons_append, Lexeme.all_cons, next]
    rfl
  · rw [List.map_singleton, List.filter_singleton]
    cases token.isInsignificant <;> rfl

/-- A text that is split into tokens is the whole source. -/
theorem tokenize_eq {source : String} (lexes : Lexes source.toList tokens []) :
    (tokenize source).errors = [] ∧ (tokenize source).significant = tokens := by
  obtain ⟨lexemes, split, silent, rfl⟩ := lexes
  rw [List.append_nil] at split
  have silentFrom (position : Nat) : TokenStream.errorsFrom position lexemes = [] := by
    clear split
    induction lexemes generalizing position with
    | nil => rfl
    | cons lexeme lexemes ih =>
      obtain ⟨head, tail⟩ := List.forall_mem_cons.1 silent
      rw [TokenStream.errorsFrom, head, ih tail]
      rfl
  have whole : Lexeme.all source.toList = lexemes := split.trans (List.append_nil _)
  refine ⟨?_, by rw [significant_tokenize, whole, Lexeme.meaningful]⟩
  rw [tokenize, whole]
  exact silentFrom 0

end Lexes

/-! ## Words -/

theorem isWord_of_toList {name : String} {c : Char} {cs : List Char} (_ : name.toList = c :: cs)
    (identifier : (Lexeme.next c cs).1.token = .identifier name) : IsWord name :=
  Lexeme.isWord_of_next identifier

theorem isWord_text (type : Primitive) : IsWord type.text := by
  cases type <;> exact isWord_of_toList rfl rfl

/-- What follows does not continue a word. -/
def EndsWord (rest : List Char) : Prop := ∀ c ∈ rest.head?, continuesIdentifier c = false

/-- A run of characters that is one word is one token in front of what does not
continue it. -/
theorem next_word {c : Char} {cs rest : List Char} (starts : StartsWord c)
    (continues : ∀ d ∈ cs, continuesIdentifier d = true) (ends : EndsWord rest) :
    Lexeme.next c (cs ++ rest) = (⟨c :: cs, .ofWord (String.ofList (c :: cs)), []⟩, rest) := by
  simp only [Lexeme.next, if_neg starts.line, if_neg starts.carriage, if_neg starts.blank,
    if_pos starts.starts, takeWhile_append_of_ends continues ends,
    dropWhile_append_of_ends continues ends]

theorem lexes_word {name : String} (isWord : IsWord name) {rest : List Char}
    (ends : EndsWord rest) : Lexes name.toList [.identifier name] rest := by
  obtain ⟨identifier, c, cs, chars, starts, continues⟩ := isWord
  rw [chars]
  refine Lexes.of_next (.identifier name) ?_
  rw [next_word starts continues ends, ← chars, String.ofList_toList, identifier]

/-! ## Marks -/

theorem lexes_mark {c : Char} (mem : c ∈ ['<', '>', ',', '[', ']', '(', ')']) (rest : List Char) :
    Lexes [c] [.punctuation c] rest := by
  have next : Lexeme.next c rest = (⟨[c], .punctuation c, []⟩, rest) := by
    simp only [List.mem_cons, List.not_mem_nil, or_false] at mem
    rcases mem with rfl | rfl | rfl | rfl | rfl | rfl | rfl <;> rfl
  exact Lexes.of_next (.punctuation c) next

/-- A blank is no meaningful token, in front of what is none. -/
theorem lexes_blank {rest : List Char} (ends : ∀ c ∈ rest.head?, Text.isBlank c = false) :
    Lexes [' '] [] rest := by
  have next : Lexeme.next ' ' ([] ++ rest) = (⟨[' '], .whitespace, []⟩, rest) := by
    have blank : Text.isBlank ' ' = true := by decide
    have run : ([] ++ rest).takeWhile Text.isBlank = [] :=
      takeWhile_append_of_ends (List.forall_mem_nil _) ends
    have left : ([] ++ rest).dropWhile Text.isBlank = rest :=
      dropWhile_append_of_ends (List.forall_mem_nil _) ends
    simp only [Lexeme.next, if_pos blank, run, left]
    rfl
  exact Lexes.of_next .whitespace next

/-- The text starts with a word. -/
def OpensWord (text : List Char) : Prop := ∃ c cs, text = c :: cs ∧ StartsWord c

theorem OpensWord.append {text : List Char} (opens : OpensWord text) (rest : List Char) :
    OpensWord (text ++ rest) := by
  obtain ⟨c, cs, rfl, starts⟩ := opens
  exact ⟨c, cs ++ rest, List.cons_append, starts⟩

theorem OpensWord.not_isBlank {text : List Char} (opens : OpensWord text) :
    ∀ c ∈ text.head?, Text.isBlank c = false := by
  obtain ⟨c, cs, rfl, starts⟩ := opens
  rintro _ ⟨⟩
  exact Bool.eq_false_iff.2 starts.blank

theorem IsWord.opensWord {name : String} (isWord : IsWord name) : OpensWord name.toList := by
  obtain ⟨c, cs, chars, starts, _⟩ := isWord.chars
  exact ⟨c, cs, chars, starts⟩

/-- Items between commas are split one after another. -/
theorem lexes_intercalate {ι : Type} {text : ι → List Char} {tokens : ι → List Token}
    {items : List ι} {rest : List Char} (opens : ∀ item ∈ items, OpensWord (text item))
    (each : ∀ item ∈ items, ∀ rest, EndsWord rest → Lexes (text item) (tokens item) rest)
    (ends : EndsWord rest) : Lexes ([',', ' '].intercalate (items.map text))
      ([.punctuation ','].intercalate (items.map tokens)) rest := by
  induction items with
  | nil => simpa using Lexes.nil rest
  | cons first items ih =>
    rw [List.forall_mem_cons] at opens each
    cases items with
    | nil => simpa using each.1 rest ends
    | cons second items =>
      simp only [List.map_cons, List.intercalate_cons_cons] at ih ⊢
      obtain ⟨further, joined⟩ := exists_intercalate_eq [',', ' '] (text second) (items.map text)
      have comma : Lexes [',', ' '] [.punctuation ',']
          ([',', ' '].intercalate (text second :: items.map text) ++ rest) := by
        refine (lexes_mark (by decide) _).append (lexes_blank ?_)
        rw [joined, List.append_assoc]
        exact ((opens.2 second (by simp)).append _).not_isBlank
      exact ((each.1 _ (by rintro _ ⟨⟩; decide)).append comma).append (ih opens.2 each.2)

namespace TypeTree

/-- The tokens of array dimensions. -/
def bracketTokens : Nat → List Token
  | 0 => []
  | n + 1 => .punctuation '[' :: .punctuation ']' :: bracketTokens n

theorem lexes_brackets (n : Nat) (rest : List Char) :
    Lexes (brackets n) (bracketTokens n) rest := by
  induction n with
  | zero => exact .nil rest
  | succ n ih =>
    exact (lexes_mark (by decide) _).append ((lexes_mark (by decide) _).append ih)

/-! ## The tokens of a type -/

/-- The meaningful tokens of a type as it is written. -/
def tokens : TypeTree → List Token
  | primitive type n => .identifier type.text :: bracketTokens n
  | declared name n | parameter _ name n => .identifier name :: bracketTokens n
  | applied name arguments n => .identifier name :: .punctuation '<'
      :: ([.punctuation ','].intercalate (arguments.map tokens) ++ .punctuation '>'
        :: bracketTokens n)

/-- What is read from the tokens of a type. -/
def written : TypeTree → TypeExpr
  | primitive type n => .name type.text n
  | declared name n | parameter _ name n => .name name n
  | applied name arguments n => .application name (arguments.map written) none n

/-- All names in the type are read as identifiers. -/
def Spelled : TypeTree → Prop
  | primitive _ _ => True
  | declared name _ | parameter _ name _ => IsWord name
  | applied name arguments _ => IsWord name ∧ ∀ argument ∈ arguments, argument.Spelled

/-- The type as it is written, character by character. -/
def text (tree : TypeTree) : List Char := tree.signature.toList

theorem text_applied (name : String) (arguments : List TypeTree) (n : Nat) :
    (applied name arguments n).text = name.toList
      ++ '<' :: ([',', ' '].intercalate (arguments.map text) ++ '>' :: brackets n) := by
  have : (arguments.map signature).map String.toList = arguments.map text := List.map_map ..
  rw [text, signature, toList_bracketed, Library.applied]
  simp [this]

theorem endsWord_brackets {n : Nat} {rest : List Char} (ends : EndsWord rest) :
    EndsWord (brackets n ++ rest) := by
  cases n with
  | zero => exact ends
  | succ n =>
    rintro _ ⟨⟩
    decide

/-- A name under array dimensions. -/
theorem lexes_bracketed {name : String} (isWord : IsWord name) (n : Nat) {rest : List Char}
    (ends : EndsWord rest) :
    Lexes (Library.bracketed name n).toList (.identifier name :: bracketTokens n) rest := by
  rw [toList_bracketed]
  exact (lexes_word isWord (endsWord_brackets ends)).append (lexes_brackets n rest)

/-- The tokens of an argument are among those of the instantiation. -/
theorem mem_tokens_applied {name : String} {arguments : List TypeTree} {n : Nat}
    {argument : TypeTree} (mem : argument ∈ arguments) {token : Token}
    (inside : token ∈ argument.tokens) : token ∈ (applied name arguments n).tokens := by
  have listed := mem_intercalate [.punctuation ','] (List.mem_map_of_mem mem) inside
  rw [tokens]
  exact List.mem_cons_of_mem _ (List.mem_cons_of_mem _ (List.mem_append_left _ listed))

/-- The text of a type starts with a word. -/
theorem Spelled.opensWord {tree : TypeTree} (spelled : tree.Spelled) : OpensWord tree.text := by
  cases tree with
  | primitive type n =>
    rw [text, signature, toList_bracketed]
    exact (isWord_text type).opensWord.append _
  | declared name n | parameter owner name n =>
    rw [Spelled] at spelled
    rw [text, signature, toList_bracketed]
    exact spelled.opensWord.append _
  | applied name arguments n =>
    rw [text_applied]
    rw [Spelled] at spelled
    exact spelled.1.opensWord.append _

/-- In front of what does not continue a word, a type is split into its
tokens. -/
theorem lexes_of_endsWord {tree : TypeTree} (spelled : tree.Spelled) {rest : List Char}
    (ends : EndsWord rest) : Lexes tree.text tree.tokens rest := by
  induction tree generalizing rest with
  | primitive type n =>
    rw [text, signature, tokens]
    exact lexes_bracketed (isWord_text type) n ends
  | declared name n | parameter owner name n =>
    rw [Spelled] at spelled
    rw [text, signature, tokens]
    exact lexes_bracketed spelled n ends
  | applied name arguments n ih =>
    rw [Spelled] at spelled
    rw [text_applied, tokens]
    have listed : Lexes ([',', ' '].intercalate (arguments.map text))
        ([.punctuation ','].intercalate (arguments.map tokens))
        ('>' :: (brackets n ++ rest)) :=
      lexes_intercalate (fun argument mem => (spelled.2 argument mem).opensWord)
        (fun argument mem _ ends => ih argument mem (spelled.2 argument mem) ends)
        (by rintro _ ⟨⟩; decide)
    have closing : Lexes ('>' :: brackets n) (.punctuation '>' :: bracketTokens n) rest :=
      (lexes_mark (by decide) _).append (lexes_brackets n rest)
    have opening := lexes_mark (c := '<') (by decide)
      (([',', ' '].intercalate (arguments.map text) ++ '>' :: brackets n) ++ rest)
    refine (lexes_word spelled.1 ?_).append (opening.append (listed.append closing))
    rintro _ ⟨⟩
    decide

/-- In front of what may follow a type in another one, it is split into its
tokens. -/
theorem lexes_text {tree : TypeTree} (spelled : tree.Spelled) {rest : List Char}
    (closes : Closes rest) : Lexes tree.text tree.tokens rest :=
  lexes_of_endsWord spelled fun c mem =>
    (Bool.or_eq_false_iff.1 (isHeadChar_of_mem_head?_brackets (n := 0) closes c mem)).1

/-! ## Reading the tokens of a type -/

/-- What follows does not continue a type in a list of tokens. -/
def ClosesTokens (rest : List Token) : Prop :=
  ∀ token ∈ rest.head?, token.isMark '<' = false ∧ token.isMark '[' = false

theorem readDimension_brackets (n : Nat) {rest : List Token} (closes : ClosesTokens rest) :
    TypeExpr.readDimension (bracketTokens n ++ rest) = (n, rest) := by
  induction n with
  | zero =>
    match rest with
    | [] | [_] => rfl
    | first :: second :: rest =>
      rw [bracketTokens, List.nil_append, TypeExpr.readDimension, (closes first rfl).2]
      rfl
  | succ n ih =>
    rw [bracketTokens, List.cons_append, List.cons_append, TypeExpr.readDimension, ih]
    rfl

theorem exists_readMark_eq {mark : Char} {tokens : List Token}
    (other : ∀ token ∈ tokens.head?, token.isMark mark = false) :
    ∃ unmet, Signature.readMark mark tokens = (some unmet, tokens) := by
  cases tokens with
  | nil => exact ⟨_, rfl⟩
  | cons token rest =>
    rw [Signature.readMark, if_neg (by rw [other token rfl]; decide)]
    exact ⟨_, rfl⟩

theorem isMark_of_mem_brackets {n : Nat} {rest : List Token} (closes : ClosesTokens rest) :
    ∀ token ∈ (bracketTokens n ++ rest).head?, token.isMark '<' = false := by
  cases n with
  | zero => exact fun token mem => (closes token mem).1
  | succ n =>
    rintro _ ⟨⟩
    rfl

variable {takes : String → Bool} {bound : Nat} {rest : List Token}

/-- A name under array dimensions takes no arguments. -/
theorem readWithin_name (name : String) (n : Nat) (closes : ClosesTokens rest) :
    TypeExpr.readWithin takes (bound + 1) (.identifier name :: bracketTokens n ++ rest)
      = (.name name n, rest) := by
  obtain ⟨unmet, noMark⟩ := exists_readMark_eq (isMark_of_mem_brackets (n := n) closes)
  rw [List.cons_append, TypeExpr.readWithin, noMark]
  simp only [readDimension_brackets n closes]
  cases takes name <;> rfl

theorem exists_tokens_eq (tree : TypeTree) :
    ∃ name further, tree.tokens = .identifier name :: further := by
  cases tree <;> exact ⟨_, _, by rw [tokens]⟩

/-- A type has a token. -/
theorem exists_eq_succ {tree : TypeTree} (enough : tree.tokens.length ≤ bound) :
    ∃ less, bound = less + 1 := by
  obtain ⟨name, further, head⟩ := tree.exists_tokens_eq
  cases bound with
  | zero => simp [head] at enough
  | succ less => exact ⟨less, rfl⟩

/-- The tokens of arguments are read as the arguments. -/
theorem readArgumentsWithin_tokens {arguments : List TypeTree}
    (each : ∀ argument ∈ arguments, ∀ bound rest, argument.tokens.length ≤ bound →
      ClosesTokens rest → TypeExpr.readWithin takes bound (argument.tokens ++ rest)
        = (argument.written, rest))
    (enough : ([Token.punctuation ','].intercalate (arguments.map tokens)).length < bound) :
    TypeExpr.readArgumentsWithin takes bound
        ([.punctuation ','].intercalate (arguments.map tokens) ++ .punctuation '>' :: rest)
      = (arguments.map written, .punctuation '>' :: rest) := by
  induction arguments generalizing bound with
  | nil =>
    obtain _ | bound := bound
    · cases enough
    · rfl
  | cons first arguments ih =>
    rw [List.forall_mem_cons] at each
    obtain _ | bound := bound
    · cases enough
    obtain ⟨name, further, head⟩ := first.exists_tokens_eq
    have read := each.1 bound
    rw [head] at read
    cases arguments with
    | nil =>
      simp only [List.map_cons, List.map_nil, List.intercalate_singleton, head] at enough ⊢
      rw [List.cons_append, TypeExpr.readArgumentsWithin, ← List.cons_append,
        read _ (Nat.le_of_lt_succ enough) (by rintro _ ⟨⟩; exact ⟨rfl, rfl⟩)]
      rfl
    | cons second arguments =>
      simp only [List.map_cons, List.intercalate_cons_cons, head, List.length_append,
        List.append_assoc, List.length_cons, List.length_nil] at enough ih ⊢
      rw [List.cons_append, TypeExpr.readArgumentsWithin, ← List.cons_append,
        read _ (by rw [List.length_cons]; omega) (by rintro _ ⟨⟩; exact ⟨rfl, rfl⟩)]
      have later : TypeExpr.readArgumentsWithin takes bound _ = _ := ih each.2 (by omega)
      simp only [List.singleton_append, Signature.readMark, Token.isMark, beq_self_eq_true, if_true,
        later]

/-- A reader of types takes the tokens of a type. -/
theorem readWithin_tokens {tree : TypeTree} (applies : tree.written.Applies takes)
    (enough : tree.tokens.length ≤ bound) (closes : ClosesTokens rest) :
    TypeExpr.readWithin takes bound (tree.tokens ++ rest) = (tree.written, rest) := by
  obtain ⟨bound, rfl⟩ := exists_eq_succ enough
  induction tree generalizing bound rest with
  | primitive type n =>
    rw [tokens, written]
    exact readWithin_name type.text n closes
  | declared name n | parameter owner name n =>
    rw [tokens, written]
    exact readWithin_name name n closes
  | applied name arguments n ih =>
    rw [written, TypeExpr.Applies, List.forall_mem_map] at applies
    obtain ⟨takesName, applies⟩ := applies
    rw [tokens] at enough ⊢
    simp only [List.length_cons, List.length_append] at enough
    have listed : TypeExpr.readArgumentsWithin takes bound
        ([.punctuation ','].intercalate (arguments.map tokens)
          ++ .punctuation '>' :: (bracketTokens n ++ rest))
        = (arguments.map written, .punctuation '>' :: (bracketTokens n ++ rest)) := by
      refine readArgumentsWithin_tokens (fun argument mem bound rest enough closes => ?_) (by omega)
      obtain ⟨bound, rfl⟩ := exists_eq_succ enough
      exact ih argument mem (applies argument mem) closes bound enough
    rw [List.cons_append, List.cons_append, List.append_assoc, List.cons_append]
    simp only [TypeExpr.readWithin, takesName, Signature.readMark, Token.isMark, beq_self_eq_true,
      if_true, listed, readDimension_brackets n closes, written]

end TypeTree

end ClassModel
