import Mathlib.Data.List.Chain
import ClassModel.Proofs.MemberText

/-!
# ClassModel.Proofs.Grammar

The form of a method, told of its meaningful tokens.

```
method  = modifiers [ type ] name '(' [ formals ] ')'
formals = formal { ',' formal }
formal  = type [ '...' ] name
type    = name [ '<' type { ',' type } '>' ] { '[' ']' }
```

A lenient form leaves more open: a comma may stand behind the last item of a
list, and the angle brackets behind some names may be empty. In both places two
tokens meet that are never neighbours in the strict form, so a method of the
lenient form has the strict one exactly if there is no such gap
(`Grammar.isMethod_strict_iff`).
-/

namespace ClassModel

namespace Grammar

open TypeTree (bracketTokens)

/-- What is left open in the lists of a signature. -/
structure Leniency where
  /-- A comma may stand behind the last item. -/
  trails : Prop
  /-- The angle brackets behind the name may be empty. -/
  empties : String → Prop

/-- The form with one comma between each two items, and no other one. -/
def Leniency.strict : Leniency := ⟨False, fun _ => False⟩

/-- The form with a comma behind the last item, if there is one, and the names with
empty angle brackets. -/
def Leniency.lenient (empties : String → Prop) : Leniency := ⟨True, empties⟩

/-- Items with commas between them. -/
inductive Listed (trails : Prop) (IsItem : List Token → Prop) : List Token → Prop where
  | last {item : List Token} : IsItem item → Listed trails IsItem item
  | trailed {item : List Token} : trails → IsItem item →
    Listed trails IsItem (item ++ [.punctuation ','])
  | cons {item items : List Token} : IsItem item → Listed trails IsItem items →
    Listed trails IsItem (item ++ .punctuation ',' :: items)

/-- The tokens of a type. -/
inductive IsType (leniency : Leniency) : List Token → Prop where
  | name (identifier : String) (dimension : Nat) :
    IsType leniency (.identifier identifier :: bracketTokens dimension)
  | empty (identifier : String) (dimension : Nat) : leniency.empties identifier →
    IsType leniency (.identifier identifier :: .punctuation '<' :: .punctuation '>'
      :: bracketTokens dimension)
  | application (identifier : String) {arguments : List Token} (dimension : Nat) :
    Listed leniency.trails (IsType leniency) arguments →
    IsType leniency (.identifier identifier :: .punctuation '<'
      :: (arguments ++ .punctuation '>' :: bracketTokens dimension))

/-- The tokens of a formal parameter. -/
inductive IsFormal (leniency : Leniency) : List Token → Prop where
  | single {type : List Token} (name : String) : IsType leniency type →
    IsFormal leniency (type ++ [.identifier name])
  | variadic {type : List Token} (name : String) : IsType leniency type →
    IsFormal leniency (type ++ [.ellipsis, .identifier name])

/-- The tokens of a method. -/
inductive IsMethod (leniency : Leniency) : List Token → Prop where
  | intro {words : List Keyword} {type formals : List Token} (name : String) :
    (∀ word ∈ words, word.IsModifier) → type = [] ∨ IsType leniency type →
    formals = [] ∨ Listed leniency.trails (IsFormal leniency) formals →
    IsMethod leniency (words.map .keyword ++ (type ++ .identifier name :: .punctuation '('
      :: (formals ++ [.punctuation ')'])))

theorem Listed.imp {trails : Prop} {IsItem IsItem' : List Token → Prop} {items : List Token}
    (each : ∀ item, IsItem item → IsItem' item) (listed : Listed trails IsItem items) :
    Listed trails IsItem' items := by
  induction listed with
  | last isItem => exact .last (each _ isItem)
  | trailed trails isItem => exact .trailed trails (each _ isItem)
  | cons isItem _ ih => exact .cons (each _ isItem) ih

/-- What holds of every type without arguments, and of one with arguments if it
holds of them, holds of all types. -/
@[elab_as_elim, induction_eliminator]
theorem IsType.induction {leniency : Leniency}
    {motive : (tokens : List Token) → IsType leniency tokens → Prop}
    (name : ∀ identifier dimension, motive _ (.name identifier dimension))
    (empty : ∀ identifier dimension empties, motive _ (.empty identifier dimension empties))
    (application : ∀ identifier arguments dimension
      (listed : Listed leniency.trails (IsType leniency) arguments),
      Listed leniency.trails (fun argument => ∃ isType, motive argument isType) arguments →
        motive _ (.application identifier dimension listed))
    {tokens : List Token} (isType : IsType leniency tokens) : motive tokens isType :=
  @IsType.rec leniency motive
    (fun arguments _ =>
      Listed leniency.trails (fun argument => ∃ isType, motive argument isType) arguments)
    name empty (fun identifier _ dimension listed => application identifier _ dimension listed)
    (fun isType holds => .last ⟨isType, holds⟩)
    (fun trails isType holds => .trailed trails ⟨isType, holds⟩)
    (fun isType _ holds listed => .cons ⟨isType, holds⟩ listed) tokens isType

/-! ## Gaps -/

/-- An item is missing between the tokens: behind a comma, or between angle
brackets. -/
def leavesGap (before after : Token) : Bool :=
  before.isMark ',' && (after.isMark ')' || after.isMark '>')
    || before.isMark '<' && after.isMark '>'

/-- No item is missing between two tokens. -/
def HasNoGap (tokens : List Token) : Prop :=
  tokens.IsChain fun before after => leavesGap before after = false

instance (tokens : List Token) : Decidable (HasNoGap tokens) :=
  inferInstanceAs (Decidable (tokens.IsChain fun before after => leavesGap before after = false))

theorem hasNoGap_cons {token : Token} {rest : List Token}
    (other : token.isMark ',' = false ∧ token.isMark '<' = false) (noGap : HasNoGap rest) :
    HasNoGap (token :: rest) :=
  List.isChain_cons.2 ⟨fun after _ => by simp [leavesGap, other], noGap⟩

theorem hasNoGap_words (words : List Keyword) {rest : List Token} (noGap : HasNoGap rest) :
    HasNoGap (words.map .keyword ++ rest) := by
  induction words with
  | nil => exact noGap
  | cons word words ih => exact hasNoGap_cons ⟨rfl, rfl⟩ ih

theorem hasNoGap_brackets (dimension : Nat) {rest : List Token} (noGap : HasNoGap rest) :
    HasNoGap (bracketTokens dimension ++ rest) := by
  induction dimension with
  | zero => exact noGap
  | succ dimension ih => exact hasNoGap_cons ⟨rfl, rfl⟩ (hasNoGap_cons ⟨rfl, rfl⟩ ih)

/-! ## The strict form has no gap -/

/-- The tokens start with a name, and whatever follows them, there is no gap up to
there. -/
structure IsSealed (tokens : List Token) : Prop where
  opens : ∃ name further, tokens = .identifier name :: further
  append {rest : List Token} : HasNoGap rest → HasNoGap (tokens ++ rest)

/-- Behind a mark that wants an item stands an item. -/
theorem IsSealed.cons {tokens : List Token} (isSealed : IsSealed tokens) (before : Token)
    {rest : List Token} (noGap : HasNoGap rest) : HasNoGap (before :: (tokens ++ rest)) := by
  have whole := isSealed.append noGap
  obtain ⟨name, further, rfl⟩ := isSealed.opens
  refine List.isChain_cons.2 ⟨?_, whole⟩
  rintro _ ⟨⟩
  simp [leavesGap, Token.isMark]

theorem Listed.isSealed {items : List Token} (listed : Listed False IsSealed items) :
    IsSealed items := by
  induction listed with
  | last isSealed => exact isSealed
  | trailed trails => exact trails.elim
  | cons isSealed _ ih =>
    constructor
    · obtain ⟨name, further, rfl⟩ := isSealed.opens
      exact ⟨name, _, List.cons_append⟩
    · intro rest noGap
      rw [List.append_assoc, List.cons_append]
      exact isSealed.append (ih.cons _ noGap)

theorem IsType.isSealed {type : List Token} (isType : IsType .strict type) : IsSealed type := by
  induction isType with
  | name identifier dimension =>
    exact ⟨⟨_, _, rfl⟩, fun noGap => hasNoGap_cons ⟨rfl, rfl⟩ (hasNoGap_brackets _ noGap)⟩
  | empty _ _ empties => exact empties.elim
  | application identifier arguments dimension _ ih =>
    refine ⟨⟨_, _, rfl⟩, fun {rest} noGap => ?_⟩
    rw [List.cons_append, List.cons_append, List.append_assoc]
    refine hasNoGap_cons ⟨rfl, rfl⟩ ?_
    exact (ih.imp fun _ ⟨_, isSealed⟩ => isSealed).isSealed.cons _
      (hasNoGap_cons ⟨rfl, rfl⟩ (hasNoGap_brackets _ noGap))

theorem IsFormal.isSealed {formal : List Token} (isFormal : IsFormal .strict formal) :
    IsSealed formal := by
  have behind {type : List Token} (isType : IsType .strict type) {further : List Token}
      (append : ∀ {rest}, HasNoGap rest → HasNoGap (further ++ rest)) :
      IsSealed (type ++ further) := by
    obtain ⟨name, more, rfl⟩ := isType.isSealed.opens
    refine ⟨⟨name, _, List.cons_append⟩, fun noGap => ?_⟩
    rw [List.append_assoc]
    exact isType.isSealed.append (append noGap)
  cases isFormal with
  | single name isType => exact behind isType (hasNoGap_cons ⟨rfl, rfl⟩)
  | variadic name isType =>
    exact behind isType fun noGap => hasNoGap_cons ⟨rfl, rfl⟩ (hasNoGap_cons ⟨rfl, rfl⟩ noGap)

theorem IsMethod.hasNoGap {tokens : List Token} (isMethod : IsMethod .strict tokens) :
    HasNoGap tokens := by
  obtain @⟨words, type, formals, name, _, isType, listed⟩ := isMethod
  have closing : HasNoGap [.punctuation ')'] := List.isChain_singleton _
  have formals : HasNoGap (.punctuation '(' :: (formals ++ [.punctuation ')'])) := by
    rcases listed with rfl | listed
    · exact hasNoGap_cons ⟨rfl, rfl⟩ closing
    · exact (listed.imp fun _ => IsFormal.isSealed).isSealed.cons _ closing
  have named : HasNoGap (.identifier name :: _) := hasNoGap_cons ⟨rfl, rfl⟩ formals
  refine hasNoGap_words words ?_
  rcases isType with rfl | isType
  · exact named
  · exact isType.isSealed.append named

/-! ## Without a gap the form is strict -/

variable {leniency : Leniency}

/-- Items in front of a closing bracket. -/
theorem Listed.strict {trails : Prop} {IsItem IsItem' : List Token → Prop} {mark : Char}
    (closes : mark = ')' ∨ mark = '>') {items rest : List Token}
    (each : ∀ item, IsItem item → HasNoGap item → IsItem' item)
    (listed : Listed trails IsItem items) (noGap : HasNoGap (items ++ .punctuation mark :: rest)) :
    Listed False IsItem' items := by
  induction listed with
  | last isItem => exact .last (each _ isItem noGap.left_of_append)
  | @trailed item _ _ =>
    -- The comma stands in front of the bracket.
    rw [List.append_assoc] at noGap
    have gap := (List.isChain_cons_cons.1 noGap.right_of_append).1
    rcases closes with rfl | rfl <;> cases gap
  | cons isItem _ ih =>
    rw [List.append_assoc, List.cons_append] at noGap
    exact .cons (each _ isItem noGap.left_of_append) (ih noGap.right_of_append.tail)

theorem IsType.strict {type : List Token} (isType : IsType leniency type) (noGap : HasNoGap type) :
    IsType .strict type := by
  induction isType with
  | name identifier dimension => exact .name identifier dimension
  | empty identifier dimension _ => cases (List.isChain_cons_cons.1 noGap.tail).1
  | application identifier arguments dimension _ ih =>
    exact .application identifier dimension
      (Listed.strict (.inr rfl) (fun _ ⟨_, strict⟩ => strict) ih noGap.tail.tail)

theorem IsFormal.strict {formal : List Token} (isFormal : IsFormal leniency formal)
    (noGap : HasNoGap formal) : IsFormal .strict formal := by
  cases isFormal with
  | single name isType => exact .single name (isType.strict noGap.left_of_append)
  | variadic name isType => exact .variadic name (isType.strict noGap.left_of_append)

theorem IsMethod.strict {tokens : List Token} (isMethod : IsMethod leniency tokens)
    (noGap : HasNoGap tokens) : IsMethod .strict tokens := by
  obtain @⟨words, type, formals, name, modifiers, isType, listed⟩ := isMethod
  have typed : HasNoGap _ := noGap.right_of_append
  have listing : HasNoGap (formals ++ [.punctuation ')']) := typed.right_of_append.tail.tail
  exact .intro name modifiers (isType.imp_right fun isType => isType.strict typed.left_of_append)
    (listed.imp_right fun listed =>
      Listed.strict (.inl rfl) (fun _ => IsFormal.strict) listed listing)

/-- A method of a lenient form has the strict one exactly if no item is missing. -/
theorem isMethod_strict_iff {tokens : List Token} (isMethod : IsMethod leniency tokens) :
    IsMethod .strict tokens ↔ HasNoGap tokens :=
  ⟨IsMethod.hasNoGap, isMethod.strict⟩

end Grammar

end ClassModel
