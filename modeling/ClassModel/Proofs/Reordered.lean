import ClassModel.Proofs.Respelled
import ClassModel.Proofs.Reworded

/-!
# ClassModel.Proofs.Reordered

The order of modifiers. The words in front of a member are read as a whole: each
flag is set if its word is among them, and the last visibility counts. So a member
whose modifiers stand in another order, with the same visibility at last, is the same
member: it is compiled to the same answer, with the same library and the same
diagnostics, apart from the signatures that these quote (`readsModifiers`).
-/

namespace ClassModel

/-! ## Modifiers in another order -/

/-- The reserved words that may stand in front of a member. -/
def Keyword.modifiers : List Keyword :=
  [.public, .protected, .private, .abstract, .static, .final, .transient]

theorem Keyword.isModifier_iff_mem (word : Keyword) : word.IsModifier ↔ word ∈ modifiers := by
  cases word <;> simp [IsModifier, Modifiers.add?, modifiers]

/-- The visibility that is named last. -/
def Keyword.lastVisibility? (words : List Keyword) : Option Visibility :=
  (words.filterMap visibility?).getLast?

/-- The words stand in another order, and the same visibility is named last. -/
structure Keyword.Reorders (words words' : List Keyword) : Prop where
  perm : words'.Perm words
  lastVisibility? : Keyword.lastVisibility? words' = Keyword.lastVisibility? words

theorem Keyword.Reorders.ofWords_eq {words words' : List Keyword}
    (reorders : Reorders words words') : Modifiers.ofWords words' = Modifiers.ofWords words := by
  have flag (word : Keyword) : words'.contains word = words.contains word :=
    reorders.perm.contains_eq
  have visibility : (words'.filterMap visibility?).getLast?
      = (words.filterMap visibility?).getLast? := reorders.lastVisibility?
  rw [Modifiers.ofWords, Modifiers.ofWords, visibility, flag, flag, flag, flag]

/-- The second text reads like the first one with its modifiers in another order. -/
structure IsReordered (words words' : List Keyword) (rest : List Token) (text text' : String) :
    Prop where
  tokens : (tokenize text).significant = words.map .keyword ++ rest
  tokens' : (tokenize text').significant = words'.map .keyword ++ rest
  errors : (tokenize text').errors = (tokenize text).errors

/-! ## Steps that differ in quotations -/

/-- Run on the state, the steps come to the same answer, and they leave the same
library with the same instantiations to be filled in. They report the same
diagnostics, apart from the signatures that these quote. -/
structure Build.DiffersInQuotes {α : Type} (step step' : Build α) (state : BuildState) : Prop where
  answer : (step'.run.run state).1 = (step.run.run state).1
  library : (step'.run.run state).2.library = (step.run.run state).2.library
  pending : (step'.run.run state).2.pending = (step.run.run state).2.pending
  diagnostics : ∃ added added',
    (step.run.run state).2.log.toList = state.log.toList ++ added
      ∧ (step'.run.run state).2.log.toList = state.log.toList ++ added'
      ∧ added'.map Diagnostic.unquoted = added.map Diagnostic.unquoted

theorem isRespelling_id : IsRespelling id := fun _ => ⟨rfl, rfl⟩

/-- No text of a declaration is another one, and what is quoted is not told apart. -/
def Variation.requoting : Variation := .respelling isRespelling_id

theorem Build.Follows.differsInQuotes {α : Type} {step step' : Build α}
    (follows : Follows .requoting id step step') (state : BuildState) :
    DiffersInQuotes step step' state := by
  have same : Variation.requoting.library = id :=
    (Variation.library_same : (Variation.same id fun _ => False).library = id)
  obtain ⟨added, log, along⟩ := follows state
  obtain ⟨answer, ⟨library, pending⟩, added', log', quoted⟩ :=
    along (fun _ _ => not_false) state ⟨by rw [same]; rfl, rfl⟩
  rw [Except.map_id] at answer
  rw [same] at library
  rw [Variation.retell_of_strict_eq rfl] at quoted
  exact ⟨answer, library, pending, added, added', log, log', quoted⟩

/-! ## Members -/

section Members

variable {words words' : List Keyword} {rest : List Token} {text text' : String}
  (modifiers : ∀ word ∈ words, word.IsModifier) (ends : EndsModifiers rest)
  (reorders : Keyword.Reorders words words')

include modifiers ends reorders

theorem Modifiers.read_reordered :
    read (words'.map .keyword ++ rest) = read (words.map .keyword ++ rest) := by
  have modifiers' : ∀ word ∈ words', word.IsModifier := fun word mem =>
    modifiers word (reorders.perm.mem_iff.1 mem)
  rw [read_words modifiers' ends, read_words modifiers ends, reorders.ofWords_eq]

theorem AttributeExpr.read_reordered (reordered : IsReordered words words' rest text text')
    (takes : String → Bool) : AttributeExpr.read takes (tokenize text').significant
      = AttributeExpr.read takes (tokenize text).significant := by
  rw [reordered.tokens, reordered.tokens', AttributeExpr.read, AttributeExpr.read,
    Modifiers.read_reordered modifiers ends reorders]

theorem MethodExpr.read_reordered (reordered : IsReordered words words' rest text text')
    (takes : String → Bool) : MethodExpr.read takes (tokenize text').significant
      = MethodExpr.read takes (tokenize text).significant := by
  rw [reordered.tokens, reordered.tokens', MethodExpr.read, MethodExpr.read,
    Modifiers.read_reordered modifiers ends reorders]

end Members

/-- The modifiers in front of a member are read up to what follows them: each flag is
set if and only if its word is among them, and the visibility is the one that is
named last, or public. So their order does not matter as long as the same visibility
is named last. A signature can be written with its modifiers in any such order, and
with the same lexical errors. Wherever it is compiled, it is the same attribute or the
same method, and it leaves the same library, the same instantiations to be filled in
and the same diagnostics, apart from the signatures that these quote. -/
theorem readsModifiers {words : List Keyword} (modifiers : ∀ word ∈ words, word ∈ Keyword.modifiers)
    {rest : List Token} (ends : ∀ word ∈ Keyword.modifiers, rest.head? ≠ some (.keyword word)) :
    Modifiers.read (words.map .keyword ++ rest)
      = ({ visibility := (Keyword.lastVisibility? words).getD .public
           isAbstract := words.contains .abstract
           isStatic := words.contains .static
           isFinal := words.contains .final
           isTransient := words.contains .transient }, rest)
    ∧ ∀ words', Keyword.Reorders words words' →
      (∀ text, (tokenize text).significant = words.map .keyword ++ rest →
        IsReordered words words' rest text (reworded words' text))
      ∧ ∀ text text', IsReordered words words' rest text text' → ∀ options owner state,
        Build.DiffersInQuotes (Build.compileAttribute? options owner text)
            (Build.compileAttribute? options owner text') state
          ∧ ∀ body, Build.DiffersInQuotes (Build.compileMethod options owner text body)
            (Build.compileMethod options owner text' body) state := by
  have modifiers : ∀ word ∈ words, word.IsModifier := fun word mem =>
    word.isModifier_iff_mem.2 (modifiers word mem)
  have ends : EndsModifiers rest := fun word isModifier =>
    ends word (word.isModifier_iff_mem.1 isModifier)
  refine ⟨Modifiers.read_words modifiers ends, fun words' reorders => ⟨fun text tokens => ?_,
    fun text text' reordered options owner state => ?_⟩⟩
  · obtain ⟨tokens', errors⟩ := tokenize_reworded tokens reorders.perm
    exact ⟨tokens, tokens', errors⟩
  have relaxes : Build.Relaxes .requoting options options := ⟨rfl, .inl rfl⟩
  have quotes : Variation.requoting.quote text' = Variation.requoting.quote text := rfl
  refine ⟨?_, fun body => ?_⟩
  · have reads := AttributeExpr.read_reordered modifiers ends reorders reordered
    have follows := Build.follows_compileAttribute? relaxes owner quotes reordered.errors reads
    exact follows.differsInQuotes state
  · have reads := MethodExpr.read_reordered modifiers ends reorders reordered
    have follows := Build.follows_compileMethod relaxes owner quotes reordered.errors reads body
    exact follows.differsInQuotes state

theorem readsModifiers_shelf :
    (∀ word ∈ [.private, .static, .public, .final], word ∈ Keyword.modifiers)
    ∧ (∀ word ∈ Keyword.modifiers,
      [Token.identifier "Item", .identifier "shelf", .unknown '#'].head? ≠ some (.keyword word))
    ∧ Keyword.Reorders [.private, .static, .public, .final] [.static, .private, .final, .public]
    ∧ (tokenize "private static\tpublic  final Item shelf #").significant
      = [.private, .static, .public, .final].map Token.keyword
        ++ [.identifier "Item", .identifier "shelf", .unknown '#']
    ∧ reworded [.static, .private, .final, .public] "private static\tpublic  final Item shelf #"
      = "static private\tfinal  public Item shelf #"
    ∧ Build.DiffersInQuotes
      (Build.compileAttribute? {} ⟨0⟩ "private static\tpublic  final Item shelf #")
      (Build.compileAttribute? {} ⟨0⟩ "static private\tfinal  public Item shelf #") {} := by
  have modifiers : ∀ word ∈ [.private, .static, .public, .final], word ∈ Keyword.modifiers := by
    decide
  have ends : ∀ word ∈ Keyword.modifiers,
      [Token.identifier "Item", .identifier "shelf", .unknown '#'].head? ≠ some (.keyword word) :=
    fun _ _ same => Token.noConfusion (Option.some.inj same)
  have reorders : Keyword.Reorders [.private, .static, .public, .final]
      [.static, .private, .final, .public] := ⟨by decide, by decide⟩
  have tokens : (tokenize "private static\tpublic  final Item shelf #").significant
      = [.private, .static, .public, .final].map Token.keyword
        ++ [.identifier "Item", .identifier "shelf", .unknown '#'] := rfl
  have moved : reworded [.static, .private, .final, .public]
      "private static\tpublic  final Item shelf #"
      = "static private\tfinal  public Item shelf #" := by decide +kernel
  obtain ⟨_, reordered⟩ := readsModifiers modifiers ends
  obtain ⟨texts, compiled⟩ := reordered _ reorders
  refine ⟨modifiers, ends, reorders, tokens, moved, ?_⟩
  exact (compiled _ _ (moved ▸ texts _ tokens) {} ⟨0⟩ {}).1

end ClassModel
