import ClassModel.Proofs.Printed

/-!
# ClassModel.Proofs.MemberText

Attributes and methods as they are written. A `MethodText` says what a method
signature has to say, in the order in which it is written. The text that it
makes is split into its tokens (`MethodText.lexes_text`), and the reader of
methods takes these for what they say (`MethodText.read_tokens`). The same holds
of an `AttributeText`.
-/

namespace ClassModel

/-! ## Modifiers -/

/-- The word may stand in front of a member. -/
def Keyword.IsModifier (word : Keyword) : Prop := (Modifiers.add? {} word).isSome = true

/-- The visibility that the word stands for. -/
def Keyword.visibility? : Keyword → Option Visibility
  | .public => some .public
  | .protected => some .protected
  | .private => some .private
  | _ => none

/-- What the words in front of a member say: the last visibility counts. -/
def Modifiers.ofWords (words : List Keyword) : Modifiers where
  visibility := (words.filterMap Keyword.visibility?).getLast?.getD .public
  isAbstract := words.contains .abstract
  isStatic := words.contains .static
  isFinal := words.contains .final
  isTransient := words.contains .transient

/-- Whether a word is a modifier does not depend on those read so far. -/
theorem Keyword.IsModifier.of_add? {word : Keyword} {modifiers modifiers' : Modifiers}
    (added : modifiers.add? word = some modifiers') : word.IsModifier := by
  cases word <;> simp_all [IsModifier, Modifiers.add?]

/-- What follows does not start with a modifier. -/
def EndsModifiers (rest : List Token) : Prop :=
  ∀ word : Keyword, word.IsModifier → rest.head? ≠ some (.keyword word)

theorem EndsModifiers.of_identifier {name : String} {rest : List Token} :
    EndsModifiers (.identifier name :: rest) := fun _ _ same => by cases same

theorem Modifiers.readMore_words {words : List Keyword} (all : ∀ word ∈ words, word.IsModifier)
    (modifiers : Modifiers) {rest : List Token} (ends : EndsModifiers rest) :
    readMore modifiers (words.map .keyword ++ rest)
      = ({ visibility := (words.filterMap Keyword.visibility?).getLast?.getD modifiers.visibility
           isAbstract := modifiers.isAbstract || words.contains .abstract
           isStatic := modifiers.isStatic || words.contains .static
           isFinal := modifiers.isFinal || words.contains .final
           isTransient := modifiers.isTransient || words.contains .transient }, rest) := by
  induction words generalizing modifiers with
  | nil =>
    -- What follows is no modifier, so the reader stops.
    have stops : readMore modifiers rest = (modifiers, rest) := by
      fun_cases readMore modifiers rest with
      | case1 word rest modifiers' added => exact absurd rfl (ends word (.of_add? added))
      | case2 => rfl
      | case3 => rfl
    simp [stops]
  | cons word words ih =>
    rw [List.forall_mem_cons] at all
    have more (modifiers : Modifiers) := ih all.2 modifiers
    cases word <;>
      simp_all [readMore, Keyword.IsModifier, add?, Keyword.visibility?, List.getLast?_cons]

theorem Modifiers.read_words {words : List Keyword} (all : ∀ word ∈ words, word.IsModifier)
    {rest : List Token} (ends : EndsModifiers rest) :
    read (words.map .keyword ++ rest) = (ofWords words, rest) := by
  rw [read, readMore_words all {} ends]
  simp [ofWords]

/-- A reserved word is spelled like a name. -/
theorem Keyword.exists_chars (word : Keyword) : ∃ c cs, word.text.toList = c :: cs ∧ StartsWord c
    ∧ ∀ d ∈ cs, continuesIdentifier d = true := by
  have ofChars {text : String} {c : Char} {cs : List Char} (chars : text.toList = c :: cs)
      (starts : (c ≠ '\n' ∧ c ≠ '\r' ∧ ¬ Text.isBlank c = true) ∧ startsIdentifier c = true
        ∧ cs.all continuesIdentifier = true) :
      ∃ c cs, text.toList = c :: cs ∧ StartsWord c ∧ ∀ d ∈ cs, continuesIdentifier d = true :=
    ⟨c, cs, chars, ⟨starts.1.1, starts.1.2.1, starts.1.2.2, starts.2.1⟩,
      List.all_eq_true.1 starts.2.2⟩
  cases word <;> exact ofChars rfl (by decide +kernel)

theorem Keyword.ofWord_text (word : Keyword) : Token.ofWord word.text = .keyword word := by
  cases word <;> rfl

theorem Keyword.opensWord (word : Keyword) : OpensWord word.text.toList := by
  obtain ⟨c, cs, chars, starts, _⟩ := word.exists_chars
  exact ⟨c, cs, chars, starts⟩

/-- A reserved word is one lexeme up to where a word ends. -/
theorem Keyword.exists_next (word : Keyword) {rest : List Char} (ends : EndsWord rest) :
    ∃ c cs, word.text.toList = c :: cs
      ∧ Lexeme.next c (cs ++ rest) = (⟨c :: cs, .keyword word, []⟩, rest) := by
  obtain ⟨c, cs, chars, starts, continues⟩ := word.exists_chars
  refine ⟨c, cs, chars, ?_⟩
  rw [next_word starts continues ends, ← chars, String.ofList_toList, word.ofWord_text]

theorem lexes_keyword (word : Keyword) {rest : List Char} (ends : EndsWord rest) :
    Lexes word.text.toList [.keyword word] rest := by
  obtain ⟨c, cs, chars, next⟩ := word.exists_next ends
  rw [chars]
  exact Lexes.of_next (.keyword word) next

/-- Words, each with a blank behind it. -/
def wordsText : List Keyword → String
  | [] => ""
  | word :: words => word.text ++ " " ++ wordsText words

theorem endsWord_blank (rest : List Char) : EndsWord (' ' :: rest) := by
  rintro _ ⟨⟩
  decide

/-- A piece of text with a blank behind it, in front of a word. -/
theorem Lexes.blank {text rest : List Char} {tokens : List Token}
    (lexes : Lexes text tokens ([' '] ++ rest)) (opens : OpensWord rest) :
    Lexes (text ++ [' ']) tokens rest := by
  simpa using lexes.append (lexes_blank opens.not_isBlank)

theorem lexes_words (words : List Keyword) {rest : List Char} (opens : OpensWord rest) :
    OpensWord ((wordsText words).toList ++ rest)
      ∧ Lexes (wordsText words).toList (words.map .keyword) rest := by
  induction words with
  | nil => exact ⟨opens, .nil rest⟩
  | cons word words ih =>
    simp only [wordsText, String.toList_append, List.append_assoc]
    refine ⟨word.opensWord.append _, ?_⟩
    rw [← List.append_assoc]
    exact ((lexes_keyword word (endsWord_blank _)).blank ih.1).append ih.2

/-! ## Formal parameters -/

/-- A formal parameter as it is written. -/
structure FormalText where
  type : TypeTree
  isVariadic : Bool
  name : String

namespace FormalText

variable (formal : FormalText)

def text : String :=
  formal.type.signature ++ (if formal.isVariadic then "..." else "") ++ " " ++ formal.name

def tokens : List Token :=
  formal.type.tokens
    ++ ((if formal.isVariadic then [.ellipsis] else []) ++ [.identifier formal.name])

/-- What is read from the tokens. -/
def written : FormalExpr := ⟨formal.type.written, formal.isVariadic, .ok formal.name⟩

/-- The names in it are read as identifiers. -/
structure Spelled : Prop where
  type : formal.type.Spelled
  name : IsWord formal.name

variable {formal}

theorem Spelled.opensWord (spelled : formal.Spelled) : OpensWord formal.text.toList := by
  simp only [text, String.toList_append, List.append_assoc]
  exact spelled.type.opensWord.append _

theorem lexes_text (spelled : formal.Spelled) {rest : List Char} (ends : EndsWord rest) :
    Lexes formal.text.toList formal.tokens rest := by
  have name : Lexes formal.name.toList [.identifier formal.name] rest :=
    lexes_word spelled.name ends
  have ellipsis (rest : List Char) : Lexes ['.', '.', '.'] [.ellipsis] rest :=
    Lexes.of_next .ellipsis rfl
  have opens := spelled.name.opensWord.append rest
  simp only [text, tokens, String.toList_append, List.append_assoc]
  cases formal.isVariadic with
  | false =>
    have type := TypeTree.lexes_of_endsWord spelled.type
      (endsWord_blank (formal.name.toList ++ rest))
    have whole := (type.blank opens).append name
    rw [List.append_assoc] at whole
    exact whole
  | true =>
    have type : Lexes formal.type.text formal.type.tokens
        ('.' :: '.' :: '.' :: ' ' :: (formal.name.toList ++ rest)) :=
      TypeTree.lexes_of_endsWord spelled.type (by rintro _ ⟨⟩; decide)
    exact type.append (((ellipsis _).blank opens).append name)

/-- The reader of formal parameters takes the tokens of one. -/
theorem readFormal_tokens {takes : String → Bool} (applies : formal.type.written.Applies takes)
    (rest : List Token) :
    MethodExpr.readFormal takes (formal.tokens ++ rest) = (formal.written, rest) := by
  have type {rest : List Token} (closes : TypeTree.ClosesTokens rest) :
      TypeExpr.read takes (formal.type.tokens ++ rest) = (formal.type.written, rest) :=
    TypeTree.readWithin_tokens applies (by rw [List.length_append]; omega) closes
  simp only [tokens, written, List.append_assoc, MethodExpr.readFormal]
  cases formal.isVariadic with
  | false =>
    rw [type (by rintro _ ⟨⟩; exact ⟨rfl, rfl⟩)]
    rfl
  | true =>
    rw [type (by rintro _ ⟨⟩; exact ⟨rfl, rfl⟩)]
    rfl

theorem exists_tokens_eq (formal : FormalText) :
    ∃ name further, formal.tokens = .identifier name :: further := by
  obtain ⟨name, further, head⟩ := formal.type.exists_tokens_eq
  exact ⟨name, _, by rw [tokens, head, List.cons_append]⟩

/-- The tokens of formal parameters are read as the formal parameters. -/
theorem readFormalsWithin_tokens {takes : String → Bool} {formals : List FormalText}
    (applies : ∀ formal ∈ formals, formal.type.written.Applies takes) {bound : Nat}
    (enough : ([Token.punctuation ','].intercalate (formals.map tokens)).length < bound)
    (rest : List Token) :
    MethodExpr.readFormalsWithin takes bound
        ([.punctuation ','].intercalate (formals.map tokens) ++ .punctuation ')' :: rest)
      = (formals.map written, .punctuation ')' :: rest) := by
  induction formals generalizing bound with
  | nil =>
    obtain _ | bound := bound
    · cases enough
    · rfl
  | cons first formals ih =>
    rw [List.forall_mem_cons] at applies
    obtain _ | bound := bound
    · cases enough
    obtain ⟨name, further, head⟩ := first.exists_tokens_eq
    have read := readFormal_tokens applies.1
    rw [head] at read
    cases formals with
    | nil =>
      simp only [List.map_cons, List.map_nil, List.intercalate_singleton, head]
      rw [List.cons_append, MethodExpr.readFormalsWithin, ← List.cons_append, read]
      rfl
    | cons second formals =>
      simp only [List.map_cons, List.intercalate_cons_cons, head, List.length_append,
        List.append_assoc, List.length_cons, List.length_nil] at enough ih ⊢
      rw [List.cons_append, MethodExpr.readFormalsWithin, ← List.cons_append, read]
      have later : MethodExpr.readFormalsWithin takes bound _ = _ := ih applies.2 (by omega)
      simp only [List.singleton_append, Signature.readMark, Token.isMark, beq_self_eq_true, if_true,
        later]

/-- The list of formal parameters in its brackets. -/
def listText (formals : List FormalText) : String :=
  "(" ++ ", ".intercalate (formals.map text) ++ ")"

def listTokens (formals : List FormalText) : List Token :=
  .punctuation '(' :: ([.punctuation ','].intercalate (formals.map tokens) ++ [.punctuation ')'])

theorem lexes_listText {formals : List FormalText} (spelled : ∀ formal ∈ formals, formal.Spelled) :
    Lexes (listText formals).toList (listTokens formals) [] := by
  have inner : Lexes ([',', ' '].intercalate (formals.map (·.text.toList)))
      ([.punctuation ','].intercalate (formals.map tokens)) [')'] :=
    lexes_intercalate (fun formal mem => (spelled formal mem).opensWord)
      (fun formal mem _ ends => lexes_text (spelled formal mem) ends) (by rintro _ ⟨⟩; decide)
  have closing : Lexes [')'] [.punctuation ')'] [] := lexes_mark (by decide) _
  have whole := (lexes_mark (c := '(') (by decide) _).append (inner.append closing)
  simpa [listText, listTokens, List.map_map, Function.comp_def] using whole

theorem readFormalList_tokens {takes : String → Bool} {formals : List FormalText}
    (applies : ∀ formal ∈ formals, formal.type.written.Applies takes) :
    MethodExpr.readFormalList takes (listTokens formals)
      = ({ formals := formals.map written }, []) := by
  rw [MethodExpr.readFormalList, listTokens]
  simp only [Signature.readMark, Token.isMark, beq_self_eq_true, if_true]
  rw [readFormalsWithin_tokens applies (by simp)]
  rfl

end FormalText

/-! ## What stands in front of a name -/

/-- Modifiers and, if there is one, a type, each with a blank behind it. -/
def frontText (words : List Keyword) (type? : Option TypeTree) : String :=
  wordsText words ++ (type?.map (·.signature ++ " ")).getD ""

def frontTokens (words : List Keyword) (type? : Option TypeTree) : List Token :=
  words.map .keyword ++ (type?.map TypeTree.tokens).getD []

theorem lexes_frontText (words : List Keyword) {type? : Option TypeTree}
    (spelled : ∀ type ∈ type?, type.Spelled) {rest : List Char} (opens : OpensWord rest) :
    Lexes (frontText words type?).toList (frontTokens words type?) rest := by
  rw [frontText, frontTokens, String.toList_append]
  cases type? with
  | none => exact (lexes_words words opens).2.append (.nil rest)
  | some type =>
    have spelled := spelled type rfl
    have typed : Lexes (type.text ++ [' ']) type.tokens rest :=
      (TypeTree.lexes_of_endsWord spelled (endsWord_blank rest)).blank opens
    have front := spelled.opensWord.append ([' '] ++ rest)
    rw [← List.append_assoc] at front
    have whole := (lexes_words words front).2.append typed
    simpa [TypeTree.text] using whole

/-! ## Methods -/

/-- A method as it is written. Without a type in front of its name it is a
constructor. -/
structure MethodText where
  modifiers : List Keyword
  returnType? : Option TypeTree
  name : String
  formals : List FormalText

namespace MethodText

variable (method : MethodText)

def text : String :=
  frontText method.modifiers method.returnType? ++ method.name
    ++ FormalText.listText method.formals

def tokens : List Token :=
  frontTokens method.modifiers method.returnType?
    ++ .identifier method.name :: FormalText.listTokens method.formals

/-- What is read from the tokens. -/
def written : MethodExpr where
  modifiers := .ofWords method.modifiers
  returnType? := method.returnType?.map TypeTree.written
  identifier := .ok method.name
  formalList := { formals := method.formals.map FormalText.written }
  trailing? := none

/-- The names in it are read as identifiers. -/
structure Spelled : Prop where
  returnType? : ∀ type ∈ method.returnType?, type.Spelled
  name : IsWord method.name
  formals : ∀ formal ∈ method.formals, formal.Spelled

variable {method}

/-- The text of a method is split into its tokens. -/
theorem lexes_text (spelled : method.Spelled) :
    Lexes method.text.toList method.tokens [] := by
  have named : Lexes method.name.toList [.identifier method.name]
      ((FormalText.listText method.formals).toList ++ []) := by
    refine lexes_word spelled.name ?_
    simp only [FormalText.listText, String.toList_append, List.append_assoc]
    rintro _ ⟨⟩
    decide
  have front := lexes_frontText method.modifiers spelled.returnType?
    (spelled.name.opensWord.append ((FormalText.listText method.formals).toList ++ []))
  rw [← List.append_assoc] at front
  have whole := front.append (named.append (FormalText.lexes_listText spelled.formals))
  simpa [text, tokens] using whole

/-- A method with a type in front of its name is no constructor. -/
theorem startsConstructor_tokens (type : TypeTree) (name : String) (rest : List Token) :
    MethodExpr.startsConstructor (type.tokens ++ .identifier name :: rest) = false := by
  have brackets (first : String) (n : Nat) :
      MethodExpr.startsConstructor (.identifier first :: (TypeTree.bracketTokens n
        ++ .identifier name :: rest)) = false := by
    cases n <;> rfl
  cases type with
  | primitive | declared | parameter =>
    rw [TypeTree.tokens]
    exact brackets _ _
  | applied =>
    rw [TypeTree.tokens]
    rfl

/-- The reader of methods takes the tokens for what they say. -/
theorem read_tokens {takes : String → Bool} (modifiers : ∀ word ∈ method.modifiers, word.IsModifier)
    (returnType? : ∀ type ∈ method.returnType?, type.written.Applies takes)
    (formals : ∀ formal ∈ method.formals, formal.type.written.Applies takes) :
    MethodExpr.read takes method.tokens = method.written := by
  have list := FormalText.readFormalList_tokens formals
  have name (rest : List Token) :
      Signature.readIdentifier (.identifier method.name :: rest) = (.ok method.name, rest) := rfl
  rw [MethodExpr.read, tokens, frontTokens, written, List.append_assoc]
  cases returned : method.returnType? with
  | none =>
    rw [Modifiers.read_words modifiers (by exact .of_identifier)]
    simp only [MethodExpr.readReturnType?, MethodExpr.startsConstructor, FormalText.listTokens,
      Option.map_none, Option.getD_none, List.nil_append, Token.isMark, beq_self_eq_true, if_true]
    rw [name, ← FormalText.listTokens, list]
    rfl
  | some type =>
    obtain ⟨first, further, head⟩ := type.exists_tokens_eq
    rw [Modifiers.read_words modifiers (by
      rw [Option.map_some, Option.getD_some, head]
      exact .of_identifier)]
    have typed : TypeExpr.read takes (type.tokens
        ++ .identifier method.name :: FormalText.listTokens method.formals)
        = (type.written, .identifier method.name :: FormalText.listTokens method.formals) :=
      TypeTree.readWithin_tokens (returnType? type returned) (by rw [List.length_append]; omega)
        (by rintro _ ⟨⟩; exact ⟨rfl, rfl⟩)
    simp only [MethodExpr.readReturnType?, Option.map_some, Option.getD_some,
      startsConstructor_tokens, Bool.false_eq_true, if_false, typed, name, list]
    rfl

end MethodText

/-! ## Attributes -/

/-- An attribute as it is written. -/
structure AttributeText where
  modifiers : List Keyword
  type : TypeTree
  name : String

namespace AttributeText

variable (found : AttributeText)

def text : String := frontText found.modifiers (some found.type) ++ found.name

def tokens : List Token := frontTokens found.modifiers (some found.type) ++ [.identifier found.name]

/-- What is read from the tokens. -/
def written : AttributeExpr :=
  ⟨.ofWords found.modifiers, found.type.written, .ok found.name, none⟩

/-- The names in it are read as identifiers. -/
structure Spelled : Prop where
  type : found.type.Spelled
  name : IsWord found.name

variable {found}

/-- The text of an attribute is split into its tokens. -/
theorem lexes_text (spelled : found.Spelled) : Lexes found.text.toList found.tokens [] := by
  have named : Lexes found.name.toList [.identifier found.name] [] :=
    lexes_word spelled.name (by rintro _ ⟨⟩)
  have front : Lexes (frontText found.modifiers (some found.type)).toList
      (frontTokens found.modifiers (some found.type)) (found.name.toList ++ []) :=
    lexes_frontText found.modifiers (by rintro _ ⟨⟩; exact spelled.type)
      (spelled.name.opensWord.append [])
  rw [text, String.toList_append]
  exact front.append named

/-- The reader of attributes takes the tokens for what they say. -/
theorem read_tokens {takes : String → Bool} (modifiers : ∀ word ∈ found.modifiers, word.IsModifier)
    (applies : found.type.written.Applies takes) :
    AttributeExpr.read takes found.tokens = found.written := by
  obtain ⟨first, further, head⟩ := found.type.exists_tokens_eq
  have typed : TypeExpr.read takes (found.type.tokens ++ [.identifier found.name])
      = (found.type.written, [.identifier found.name]) :=
    TypeTree.readWithin_tokens applies (by rw [List.length_append]; omega)
      (by rintro _ ⟨⟩; exact ⟨rfl, rfl⟩)
  rw [AttributeExpr.read, tokens, frontTokens, written, List.append_assoc,
    Modifiers.read_words modifiers (by
      rw [Option.map_some, Option.getD_some, head]
      exact .of_identifier)]
  simp only [Option.map_some, Option.getD_some, typed]
  rfl

end AttributeText

end ClassModel
