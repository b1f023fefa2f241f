import ClassModel.Proofs.Compiled

/-!
# ClassModel.Proofs.Signature

The signatures of methods. A signature holds the name of the method and a list
of the types of its formal parameters, as they are written. In the text of a
type each comma is followed by a blank, and between types none is, so that the
list can be taken apart again (`intercalate_injective`). Methods of the same
signature therefore have the same name, and types that are written alike
(`Library.methodSignature_inj`).
-/

namespace ClassModel

/-! ## Lists of texts -/

/-- Each comma is followed by a blank. -/
def Spaced : List Char → Prop
  | [] => True
  | c :: text => (c = ',' → text.head? = some ' ') ∧ Spaced text

/-- A text that may stand in a list: it is not empty, begins with no blank, and
has no comma without one. -/
structure IsItem (text : List Char) : Prop where
  spaced : Spaced text
  head : ∃ c rest, text = c :: rest ∧ c ≠ ' '

/-- The items of a list after its first one. -/
def furtherItems (items : List (List Char)) : List Char := items.flatMap (',' :: ·)

/-- The text can stand after an item: it goes on with another one, if at all. -/
def EndsItem (text : List Char) : Prop :=
  text = [] ∨ ∃ c rest, text = ',' :: c :: rest ∧ c ≠ ' '

theorem Spaced.append {text text' : List Char} (spaced : Spaced text) (spaced' : Spaced text') :
    Spaced (text ++ text') := by
  induction text with
  | nil => exact spaced'
  | cons c text ih =>
    refine ⟨fun comma => ?_, ih spaced.2⟩
    have blank := spaced.1 comma
    cases text with
    | nil => simp at blank
    | cons second text => exact blank

theorem spaced_of_not_mem {text : List Char} (free : ',' ∉ text) : Spaced text := by
  induction text with
  | nil => trivial
  | cons c text ih =>
    rw [List.mem_cons, not_or] at free
    exact ⟨fun comma => absurd comma.symm free.1, ih free.2⟩

/-- No item ends where a further one begins. -/
theorem not_endsItem {c : Char} {text : List Char} (spaced : Spaced (c :: text))
    (rest : List Char) : ¬ EndsItem (c :: text ++ rest) := by
  rintro (none | ⟨c', rest', same, notBlank⟩)
  · cases none
  · simp only [List.cons_append, List.cons.injEq] at same
    have blank := spaced.1 same.1
    cases text with
    | nil => simp at blank
    | cons second text =>
      simp only [List.cons_append, List.cons.injEq] at same
      exact notBlank (same.2.1 ▸ Option.some.inj blank)

/-- An item is told apart from what stands after it. -/
theorem append_inj_of_spaced {text text' rest rest' : List Char} (spaced : Spaced text)
    (spaced' : Spaced text') (ends : EndsItem rest) (ends' : EndsItem rest')
    (same : text ++ rest = text' ++ rest') : text = text' ∧ rest = rest' := by
  induction text generalizing text' with
  | nil =>
    cases text' with
    | nil => exact ⟨rfl, same⟩
    | cons c' text' =>
      rw [List.nil_append] at same
      exact absurd (same ▸ ends) (not_endsItem spaced' rest')
  | cons c text ih =>
    cases text' with
    | nil =>
      rw [List.nil_append] at same
      exact absurd (same ▸ ends') (not_endsItem spaced rest)
    | cons c' text' =>
      simp only [List.cons_append, List.cons.injEq] at same
      obtain ⟨rfl, same⟩ := same
      obtain ⟨rfl, rests⟩ := ih spaced.2 spaced'.2 same
      exact ⟨rfl, rests⟩

theorem endsItem_furtherItems {items : List (List Char)} (all : ∀ item ∈ items, IsItem item) :
    EndsItem (furtherItems items) := by
  cases items with
  | nil => exact .inl rfl
  | cons item items =>
    obtain ⟨c, rest, rfl, notBlank⟩ := (all item (by simp)).head
    exact .inr ⟨c, rest ++ furtherItems items, rfl, notBlank⟩

theorem furtherItems_injective {items items' : List (List Char)}
    (all : ∀ item ∈ items, IsItem item) (all' : ∀ item ∈ items', IsItem item)
    (same : furtherItems items = furtherItems items') : items = items' := by
  induction items generalizing items' with
  | nil =>
    cases items' with
    | nil => rfl
    | cons item' items' => simp [furtherItems] at same
  | cons item items ih =>
    cases items' with
    | nil => simp [furtherItems] at same
    | cons item' items' =>
      rw [List.forall_mem_cons] at all all'
      have same : item ++ furtherItems items = item' ++ furtherItems items' := by
        simpa [furtherItems] using same
      obtain ⟨rfl, rests⟩ := append_inj_of_spaced all.1.spaced all'.1.spaced
        (endsItem_furtherItems all.2) (endsItem_furtherItems all'.2) same
      rw [ih all.2 all'.2 rests]

theorem intercalate_eq_append (item : List Char) (items : List (List Char)) :
    [','].intercalate (item :: items) = item ++ furtherItems items := by
  induction items generalizing item with
  | nil => simp [furtherItems]
  | cons second items ih =>
    rw [List.intercalate_cons_cons, ih]
    simp [furtherItems]

/-- A list of items is known by its text. -/
theorem intercalate_injective {items items' : List (List Char)}
    (all : ∀ item ∈ items, IsItem item) (all' : ∀ item ∈ items', IsItem item)
    (same : [','].intercalate items = [','].intercalate items') : items = items' := by
  have nonempty {item : List Char} {items : List (List Char)} (isItem : IsItem item) :
      [] ≠ item ++ furtherItems items := by
    obtain ⟨c, rest, rfl, _⟩ := isItem.head
    simp
  cases items with
  | nil =>
    cases items' with
    | nil => rfl
    | cons item' items' =>
      rw [intercalate_eq_append] at same
      exact absurd same (nonempty (all' item' (by simp)))
  | cons item items =>
    cases items' with
    | nil =>
      rw [intercalate_eq_append] at same
      exact absurd same.symm (nonempty (all item (by simp)))
    | cons item' items' =>
      rw [List.forall_mem_cons] at all all'
      rw [intercalate_eq_append, intercalate_eq_append] at same
      obtain ⟨rfl, rests⟩ := append_inj_of_spaced all.1.spaced all'.1.spaced
        (endsItem_furtherItems all.2) (endsItem_furtherItems all'.2) same
      rw [furtherItems_injective all.2 all'.2 rests]

/-! ## The texts of types -/

/-- What may be part of the text of a type. -/
structure IsTypePart (text : List Char) : Prop where
  spaced : Spaced text
  noParenthesis : '(' ∉ text
  noDot : '.' ∉ text

/-- The text is an item without parentheses and dots. -/
structure IsTypeText (text : List Char) : Prop extends IsItem text, IsTypePart text

namespace IsTypePart

variable {text text' : List Char}

theorem append (part : IsTypePart text) (part' : IsTypePart text') :
    IsTypePart (text ++ text') where
  spaced := part.spaced.append part'.spaced
  noParenthesis := by simp [part.noParenthesis, part'.noParenthesis]
  noDot := by simp [part.noDot, part'.noDot]

theorem of_isName {name : String} (isName : IsName name) : IsTypePart name.toList := by
  have free (c : Char) (mark : continuesIdentifier c = false) : c ∉ name.toList := by
    intro mem
    rw [isName c mem] at mark
    cases mark
  exact ⟨spaced_of_not_mem (free ',' (by decide)), free '(' (by decide), free '.' (by decide)⟩

theorem brackets (n : Nat) : IsTypePart (TypeTree.brackets n) := by
  induction n with
  | zero => exact ⟨trivial, by simp [TypeTree.brackets], by simp [TypeTree.brackets]⟩
  | succ n ih =>
    have pair : IsTypePart ['[', ']'] := ⟨spaced_of_not_mem (by decide), by decide, by decide⟩
    exact pair.append ih

theorem intercalate {texts : List (List Char)} (all : ∀ text ∈ texts, IsTypePart text) :
    IsTypePart ([',', ' '].intercalate texts) := by
  have mark : IsTypePart [',', ' '] := ⟨by simp [Spaced], by decide, by decide⟩
  induction texts with
  | nil => exact ⟨trivial, by simp, by simp⟩
  | cons first texts ih =>
    rw [List.forall_mem_cons] at all
    cases texts with
    | nil => simpa using all.1
    | cons second texts =>
      rw [List.intercalate_cons_cons]
      exact (all.1.append mark).append (ih all.2)

end IsTypePart

theorem IsTypeText.append {text text' : List Char} (isTypeText : IsTypeText text)
    (part : IsTypePart text') : IsTypeText (text ++ text') where
  toIsTypePart := isTypeText.toIsTypePart.append part
  head := by
    obtain ⟨c, rest, rfl, notBlank⟩ := isTypeText.head
    exact ⟨c, rest ++ text', rfl, notBlank⟩

theorem isTypeText_of_isName {name : String} (isName : IsName name) (nonempty : name ≠ "") :
    IsTypeText name.toList where
  toIsTypePart := .of_isName isName
  head := by
    cases chars : name.toList with
    | nil => exact absurd (String.toList_eq_nil_iff.1 chars) nonempty
    | cons c rest =>
      refine ⟨c, rest, rfl, ?_⟩
      rintro rfl
      have := isName ' ' (by simp [chars])
      revert this
      decide

/-- The names of a scope are names, and none is empty. -/
structure Scope.IsSpelled (scope : Scope) : Prop where
  identifier {name : String} {shape : Shape} : scope name = some shape → IsName name ∧ name ≠ ""
  parameter {name parameter : String} {shape : Shape} : scope name = some shape →
    parameter ∈ shape.parameters → IsName parameter ∧ parameter ≠ ""

/-- The texts of well-formed types can be listed. -/
theorem TypeTree.isTypeText_signature {scope : Scope} {options : Options} {context : String}
    (spelled : scope.IsSpelled) {tree : TypeTree} (wf : tree.WellFormed scope options context) :
    IsTypeText tree.signature.toList := by
  induction tree with
  | primitive type n =>
    have isName : IsName type.text ∧ type.text ≠ "" := by
      cases type <;> exact ⟨List.all_eq_true.1 (by decide +kernel), by decide⟩
    rw [signature, toList_bracketed]
    exact (isTypeText_of_isName isName.1 isName.2).append (.brackets n)
  | declared name n =>
    rw [WellFormed] at wf
    obtain ⟨shape, known⟩ := Option.isSome_iff_exists.1 wf.1
    obtain ⟨isName, nonempty⟩ := spelled.identifier known
    rw [signature, toList_bracketed]
    exact (isTypeText_of_isName isName nonempty).append (.brackets n)
  | parameter owner name n =>
    rw [WellFormed] at wf
    obtain ⟨_, shape, known, mem⟩ := wf
    obtain ⟨isName, nonempty⟩ := spelled.parameter known mem
    rw [signature, toList_bracketed]
    exact (isTypeText_of_isName isName nonempty).append (.brackets n)
  | applied name arguments n ih =>
    rw [WellFormed] at wf
    obtain ⟨⟨shape, known, _⟩, _, _, _, all⟩ := wf
    obtain ⟨isName, nonempty⟩ := spelled.identifier known
    have mark (c : Char) (spaced : c ≠ ',') (noParenthesis : c ≠ '(') (noDot : c ≠ '.') :
        IsTypePart [c] := by
      refine ⟨spaced_of_not_mem ?_, ?_, ?_⟩ <;> simp [eq_comm, *]
    have listed : IsTypePart ([',', ' '].intercalate (arguments.map fun tree =>
        tree.signature.toList)) := by
      refine .intercalate fun text mem => ?_
      obtain ⟨argument, inside, rfl⟩ := List.mem_map.1 mem
      exact (ih argument inside (all argument inside)).toIsTypePart
    have chars : (applied name arguments n).signature.toList = name.toList ++ (['<']
        ++ [',', ' '].intercalate (arguments.map fun tree => tree.signature.toList) ++ ['>']
        ++ brackets n) := by
      rw [signature, toList_bracketed, Library.applied]
      simp [Function.comp_def]
    rw [chars]
    exact (isTypeText_of_isName isName nonempty).append
      ((((mark '<' (by decide) (by decide) (by decide)).append listed).append
        (mark '>' (by decide) (by decide) (by decide))).append (.brackets n))

/-- The names of what is declared are identifiers in a header. -/
theorem exists_mem_significant {declarations : List Declaration} {name : String} {shape : Shape}
    (known : scopeOf declarations name = some shape) : ∃ source,
      .identifier name ∈ (tokenize source).significant
        ∧ ∀ parameter ∈ shape.parameters,
          .identifier parameter ∈ (tokenize source).significant := by
  obtain ⟨registration, mem, rfl, rfl⟩ := Registration.exists_of_scopeOf known
  obtain ⟨declaration, _, read, _⟩ := Registration.exists_of_mem_readAll mem
  obtain ⟨identifier, rest⟩ := HeaderStart.mem_of_read read
  refine ⟨declaration.signature, identifier, fun parameter mem => ?_⟩
  rw [Registration.shape, Registration.parameters] at mem
  dsimp only at mem
  split at mem
  · cases mem
  · exact rest (ParameterNames.mem_of_mem_read mem)

/-- What is declared has a name. -/
theorem isSpelled_scopeOf (declarations : List Declaration) :
    (scopeOf declarations).IsSpelled where
  identifier known := by
    obtain ⟨source, mem, _⟩ := exists_mem_significant known
    exact isName_of_mem_significant mem
  parameter known mem := by
    obtain ⟨source, _, all⟩ := exists_mem_significant known
    exact isName_of_mem_significant (all _ mem)

/-! ## Signatures of methods -/

namespace Library

variable {library : Library}

/-- The formal parameters are written alike, but for their names. -/
structure WrittenAlike (library : Library) (formal formal' : Formal) : Prop where
  type : library.signatureOf formal.type = library.signatureOf formal'.type
  isVariadic : formal.isVariadic = formal'.isVariadic

/-- The types of the formal parameters have texts that can be listed. -/
def AreListable (library : Library) (formals : List Formal) : Prop :=
  ∀ formal ∈ formals, IsTypeText (library.signatureOf formal.type).toList

/-- How a formal parameter is written in a signature. -/
def formalText (library : Library) (formal : Formal) : String :=
  library.signatureOf formal.type ++ if formal.isVariadic then "..." else ""

theorem toList_methodSignature (identifier : String) (formals : List Formal) :
    (library.methodSignature identifier formals).toList = identifier.toList
      ++ '(' :: ([','].intercalate (formals.map fun formal => (library.formalText formal).toList)
        ++ [')']) := by
  rw [methodSignature]
  simp [formalText, Function.comp_def]

/-- The mark of a variadic parameter is told apart from its type. -/
theorem writtenAlike_of_formalText {formal formal' : Formal}
    (isTypeText : IsTypeText (library.signatureOf formal.type).toList)
    (isTypeText' : IsTypeText (library.signatureOf formal'.type).toList)
    (same : (library.formalText formal).toList = (library.formalText formal').toList) :
    library.WrittenAlike formal formal' := by
  have noDot {text : List Char} (isTypeText : IsTypeText text) :
      ∀ c ∈ text, (c != '.') = true := by
    intro c mem
    have away : c ≠ '.' := fun dot => isTypeText.noDot (dot ▸ mem)
    simpa using away
  have mark (formal : Formal) :
      ∀ c ∈ (if formal.isVariadic then "..." else "").toList.head?, (c != '.') = false := by
    cases formal.isVariadic <;> simp
  rw [formalText, formalText, String.toList_append, String.toList_append] at same
  obtain ⟨types, marks⟩ := TypeTree.append_inj_of_span (noDot isTypeText) (noDot isTypeText')
    (mark formal) (mark formal') same
  refine ⟨String.toList_inj.1 types, ?_⟩
  cases variadic : formal.isVariadic <;> cases variadic' : formal'.isVariadic <;>
    simp_all

theorem isItem_formalText {formal : Formal}
    (isTypeText : IsTypeText (library.signatureOf formal.type).toList) :
    IsItem (library.formalText formal).toList ∧ '(' ∉ (library.formalText formal).toList := by
  obtain ⟨c, rest, chars, notBlank⟩ := isTypeText.head
  rw [formalText, String.toList_append]
  refine ⟨⟨isTypeText.spaced.append (spaced_of_not_mem ?_), c, _, by rw [chars]; rfl, notBlank⟩, ?_⟩
  · cases formal.isVariadic <;> decide
  · rw [List.mem_append, not_or]
    refine ⟨isTypeText.noParenthesis, ?_⟩
    cases formal.isVariadic <;> decide

/-- What stands after the last parenthesis is told apart from what stands before
it. -/
theorem append_inj_of_last {text text' rest rest' : List Char} (free : '(' ∉ rest)
    (free' : '(' ∉ rest') (same : text ++ '(' :: rest = text' ++ '(' :: rest') :
    text = text' ∧ rest = rest' := by
  have away {rest : List Char} (free : '(' ∉ rest) : ∀ c ∈ rest.reverse, (c != '(') = true := by
    intro c mem
    have different : c ≠ '(' := fun parenthesis => free (parenthesis ▸ List.mem_reverse.1 mem)
    simpa using different
  have reversed : rest.reverse ++ '(' :: text.reverse = rest'.reverse ++ '(' :: text'.reverse := by
    simpa using congrArg List.reverse same
  obtain ⟨rests, texts⟩ := TypeTree.append_inj_of_span (away free) (away free') (by simp) (by simp)
    reversed
  exact ⟨List.reverse_injective (List.cons.inj texts).2, List.reverse_injective rests⟩

theorem forall₂_writtenAlike {formals formals' : List Formal}
    (listable : library.AreListable formals) (listable' : library.AreListable formals')
    (same : formals.map (fun formal => (library.formalText formal).toList)
      = formals'.map fun formal => (library.formalText formal).toList) :
    List.Forall₂ library.WrittenAlike formals formals' := by
  induction formals generalizing formals' with
  | nil =>
    cases formals' with
    | nil => exact .nil
    | cons formal' formals' => simp at same
  | cons formal formals ih =>
    cases formals' with
    | nil => simp at same
    | cons formal' formals' =>
      rw [AreListable, List.forall_mem_cons] at listable listable'
      rw [List.map_cons, List.map_cons, List.cons.injEq] at same
      exact .cons (writtenAlike_of_formalText listable.1 listable'.1 same.1)
        (ih listable.2 listable'.2 same.2)

theorem not_mem_intercalate {c : Char} (comma : c ≠ ',') {texts : List (List Char)}
    (free : ∀ text ∈ texts, c ∉ text) : c ∉ [','].intercalate texts := by
  cases texts with
  | nil => simp
  | cons text texts =>
    rw [List.forall_mem_cons] at free
    rw [intercalate_eq_append, furtherItems, List.mem_append, not_or]
    refine ⟨free.1, fun mem => ?_⟩
    obtain ⟨text', inside, mem⟩ := List.mem_flatMap.1 mem
    exact (List.mem_cons.1 mem).elim comma (free.2 text' inside)

/-- Methods of the same signature have the same name, and formal parameters that
are written alike. -/
theorem methodSignature_inj {identifier identifier' : String} {formals formals' : List Formal}
    (listable : library.AreListable formals) (listable' : library.AreListable formals')
    (same : library.methodSignature identifier formals
      = library.methodSignature identifier' formals') :
    identifier = identifier' ∧ List.Forall₂ library.WrittenAlike formals formals' := by
  have texts {formals : List Formal} (listable : library.AreListable formals) :
      ∀ text ∈ formals.map fun formal => (library.formalText formal).toList,
        IsItem text ∧ '(' ∉ text := by
    intro text mem
    obtain ⟨formal, inside, rfl⟩ := List.mem_map.1 mem
    exact isItem_formalText (listable formal inside)
  have noParenthesis {formals : List Formal} (listable : library.AreListable formals) :
      '(' ∉ [','].intercalate (formals.map fun formal => (library.formalText formal).toList)
        ++ [')'] := by
    rw [List.mem_append, not_or]
    exact ⟨not_mem_intercalate (by decide) fun text mem => (texts listable text mem).2, by decide⟩
  have same := congrArg String.toList same
  rw [toList_methodSignature, toList_methodSignature] at same
  obtain ⟨identifiers, lists⟩ :=
    append_inj_of_last (noParenthesis listable) (noParenthesis listable') same
  have items := intercalate_injective (fun text mem => (texts listable text mem).1)
    (fun text mem => (texts listable' text mem).1) (List.append_cancel_right lists)
  exact ⟨String.toList_inj.1 identifiers, forall₂_writtenAlike listable listable' items⟩

end Library

end ClassModel
