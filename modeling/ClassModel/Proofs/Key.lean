import ClassModel.Proofs.TypeTree
import ClassModel.Token.Coverage

/-!
# ClassModel.Proofs.Key

Keys tell types apart. Reading a key from the left, its head is what precedes
the first mark, and an opening bracket tells whether arguments follow; so a
key and the text after it can be told apart as well, as long as that text
begins with the mark of a list (`key_append_inj`). Two types without a common
key then come out as `key_injective`.
-/

namespace ClassModel

/-- A text that can be read as one name. -/
def IsName (name : String) : Prop := ∀ c ∈ name.toList, continuesIdentifier c = true

/-- Names do not hold the mark between an owner and its parameter. -/
theorem IsName.not_mem_dot {name : String} (isName : IsName name) : '.' ∉ name.toList := by
  intro mem
  have := isName '.' mem
  revert this
  decide

namespace TypeTree

/-- All names in the type can be read as names, no class-like takes the name
of a primitive type, and no instantiation is without arguments. -/
def Plain : TypeTree → Prop
  | primitive _ _ => True
  | declared name _ => IsName name ∧ Primitive.ofText? name = none
  | applied name arguments _ =>
    IsName name ∧ arguments ≠ [] ∧ ∀ argument ∈ arguments, argument.Plain
  | parameter owner name _ => IsName owner ∧ IsName name

/-! ## Heads and what follows them -/

/-- Whether a character may stand in front of the first mark of a key. -/
def isHeadChar (c : Char) : Bool := continuesIdentifier c || c == '.'

/-- What stands in front of the first mark of a key. -/
def head : TypeTree → List Char
  | primitive type _ => type.text.toList
  | declared name _ | applied name _ _ => name.toList
  | parameter owner name _ => owner.toList ++ '.' :: name.toList

/-- The brackets of array dimensions. -/
def brackets : Nat → List Char
  | 0 => []
  | n + 1 => '[' :: ']' :: brackets n

/-- The key of a type, character by character. -/
def chars (tree : TypeTree) : List Char := tree.key.toList

/-- The text begins with a mark that follows a type in a list, if at all. -/
def Closes : List Char → Prop
  | [] => True
  | c :: _ => c = ',' ∨ c = '>'

theorem closes_nil : Closes [] := trivial

theorem toList_bracketed (text : String) (dimension : Nat) :
    (Library.bracketed text dimension).toList = text.toList ++ brackets dimension := by
  have (n : Nat) : (List.replicate n "[]").flatMap String.toList = brackets n := by
    induction n with
    | zero => rfl
    | succ n ih => simpa [List.replicate_succ, brackets] using ih
  simp [Library.bracketed, this]

theorem chars_primitive (type : Primitive) (n : Nat) :
    (primitive type n).chars = type.text.toList ++ brackets n := by
  rw [chars, key, toList_bracketed]

theorem chars_declared (name : String) (n : Nat) :
    (declared name n).chars = name.toList ++ brackets n := by
  rw [chars, key, toList_bracketed]

theorem chars_parameter (owner name : String) (n : Nat) :
    (parameter owner name n).chars = owner.toList ++ '.' :: name.toList ++ brackets n := by
  rw [chars, key, toList_bracketed]
  simp

theorem chars_applied (name : String) (arguments : List TypeTree) (n : Nat) :
    (applied name arguments n).chars = name.toList
      ++ '<' :: ([',', ' '].intercalate (arguments.map chars) ++ '>' :: brackets n) := by
  have : (arguments.map key).map String.toList = arguments.map chars := List.map_map ..
  rw [chars, key, toList_bracketed, Library.applied]
  simp [this]

/-- Without arguments, the brackets of the dimensions follow the head. -/
theorem chars_eq_head_append {tree : TypeTree}
    (simple : ∀ name arguments n, tree ≠ .applied name arguments n) :
    ∃ n, tree.chars = tree.head ++ brackets n := by
  cases tree with
  | primitive type n => exact ⟨n, chars_primitive type n⟩
  | declared name n => exact ⟨n, chars_declared name n⟩
  | applied name arguments n => exact absurd rfl (simple name arguments n)
  | parameter owner name n => exact ⟨n, chars_parameter owner name n⟩

/-! ## Reading a key from the left -/

/-- A text is split in one way into characters of a kind and a rest that begins
with another kind. -/
theorem append_inj_of_span {p : Char → Bool} {xs ys rest rest' : List Char}
    (hx : ∀ c ∈ xs, p c = true) (hy : ∀ c ∈ ys, p c = true)
    (hr : ∀ c ∈ rest.head?, p c = false) (hr' : ∀ c ∈ rest'.head?, p c = false)
    (h : xs ++ rest = ys ++ rest') : xs = ys ∧ rest = rest' := by
  have heads : xs = ys := by
    rw [← takeWhile_append_of_ends hx hr, h, takeWhile_append_of_ends hy hr']
  subst heads
  exact ⟨rfl, List.append_cancel_left h⟩

/-- The dimensions of an array are read off in front of what closes it. -/
theorem brackets_append_inj {m n : Nat} {rest rest' : List Char} (closes : Closes rest)
    (closes' : Closes rest') (h : brackets m ++ rest = brackets n ++ rest') :
    m = n ∧ rest = rest' := by
  induction m generalizing n with
  | zero =>
    cases n with
    | zero => exact ⟨rfl, h⟩
    | succ n =>
      rw [brackets, List.nil_append] at h
      subst h
      simp [brackets, Closes] at closes
  | succ m ih =>
    cases n with
    | zero =>
      simp only [brackets, List.cons_append, List.nil_append] at h
      subst h
      simp [Closes] at closes'
    | succ n =>
      simp only [brackets, List.cons_append, List.cons.injEq, true_and] at h
      exact ⟨congrArg _ (ih h).1, (ih h).2⟩

theorem isHeadChar_of_mem_text (type : Primitive) :
    ∀ c ∈ type.text.toList, isHeadChar c = true :=
  List.all_eq_true.1 (by cases type <;> decide +kernel)

/-- A head has no mark in it. -/
theorem Plain.isHeadChar_of_mem_head {tree : TypeTree} (plain : tree.Plain) :
    ∀ c ∈ tree.head, isHeadChar c = true := by
  intro c mem
  cases tree with
  | primitive type n => exact isHeadChar_of_mem_text type c mem
  | declared name n =>
    rw [Plain] at plain
    simp [isHeadChar, plain.1 c mem]
  | applied name arguments n =>
    rw [Plain] at plain
    simp [isHeadChar, plain.1 c mem]
  | parameter owner name n =>
    rw [Plain] at plain
    simp only [head, List.mem_append, List.mem_cons] at mem
    rcases mem with mem | rfl | mem
    · simp [isHeadChar, plain.1 c mem]
    · rfl
    · simp [isHeadChar, plain.2 c mem]

/-- What follows the head of a key begins with a mark. -/
theorem isHeadChar_of_mem_head?_brackets {n : Nat} {rest : List Char} (closes : Closes rest) :
    ∀ c ∈ (brackets n ++ rest).head?, isHeadChar c = false := by
  intro c mem
  cases n with
  | zero =>
    cases rest with
    | nil => simp [brackets] at mem
    | cons first rest =>
      simp only [brackets, List.nil_append, List.head?_cons, Option.mem_some_iff] at mem
      subst mem
      rcases closes with rfl | rfl <;> decide
  | succ n =>
    simp only [brackets, List.cons_append, List.head?_cons, Option.mem_some_iff] at mem
    subst mem
    decide

theorem not_mem_dot_text (type : Primitive) : '.' ∉ type.text.toList := by
  cases type <;> decide +kernel

/-- A primitive type is known by its name, which is that of no class-like. -/
theorem eq_of_text_eq {type : Primitive} {name : String}
    (h : type.text.toList = name.toList) : Primitive.ofText? name = some type := by
  rw [← String.toList_inj.1 h]
  exact Primitive.ofText?_text type

/-- An owner and its parameter are told apart by the mark between them. -/
theorem parameter_inj {owner owner' name name' : String} (isName : IsName owner)
    (isName' : IsName owner')
    (h : owner.toList ++ '.' :: name.toList = owner'.toList ++ '.' :: name'.toList) :
    owner = owner' ∧ name = name' := by
  have stops (rest : List Char) : ∀ c ∈ ('.' :: rest).head?, continuesIdentifier c = false := by
    simp only [List.head?_cons, Option.mem_some_iff, forall_eq']
    decide
  have ⟨owners, names⟩ := append_inj_of_span isName isName' (stops _) (stops _) h
  exact ⟨String.toList_inj.1 owners, String.toList_inj.1 (List.cons.inj names).2⟩

/-- Without arguments, types of the same head and dimension are the same. -/
theorem array_eq_of_head_eq {tree tree' : TypeTree} (plain : tree.Plain) (plain' : tree'.Plain)
    (simple : ∀ name arguments n, tree ≠ .applied name arguments n)
    (simple' : ∀ name arguments n, tree' ≠ .applied name arguments n)
    (heads : tree.head = tree'.head) (chars : tree.chars = tree'.chars) : tree = tree' := by
  have dimension {m n : Nat} {text : List Char} (h : text ++ brackets m = text ++ brackets n) :
      m = n := by
    have same : brackets m ++ [] = brackets n ++ [] := by
      simpa using List.append_cancel_left h
    exact (brackets_append_inj closes_nil closes_nil same).1
  cases tree with
  | applied name arguments n => exact absurd rfl (simple name arguments n)
  | primitive type n =>
    cases tree' with
    | applied name arguments n => exact absurd rfl (simple' name arguments n)
    | primitive type' n' =>
      have := eq_of_text_eq heads
      rw [Primitive.ofText?_text, Option.some.injEq] at this
      subst this
      rw [chars_primitive, chars_primitive] at chars
      rw [dimension chars]
    | declared name n' =>
      rw [Plain] at plain'
      exact absurd (eq_of_text_eq heads) (by simp [plain'.2])
    | parameter owner name n' =>
      have spelled : type.text.toList = owner.toList ++ '.' :: name.toList := heads
      exact absurd (by simp [spelled]) (not_mem_dot_text type)
  | declared name n =>
    rw [Plain] at plain
    cases tree' with
    | applied name arguments n => exact absurd rfl (simple' name arguments n)
    | primitive type' n' => exact absurd (eq_of_text_eq heads.symm) (by simp [plain.2])
    | declared name' n' =>
      rw [chars_declared, chars_declared, show name.toList = name'.toList from heads] at chars
      rw [String.toList_inj.1 heads, dimension chars]
    | parameter owner name' n' =>
      have spelled : name.toList = owner.toList ++ '.' :: name'.toList := heads
      exact absurd (by simp [spelled]) plain.1.not_mem_dot
  | parameter owner name n =>
    rw [Plain] at plain
    cases tree' with
    | applied name arguments n => exact absurd rfl (simple' name arguments n)
    | primitive type' n' =>
      have spelled : owner.toList ++ '.' :: name.toList = type'.text.toList := heads
      exact absurd (by simp [← spelled]) (not_mem_dot_text type')
    | declared name' n' =>
      rw [Plain] at plain'
      have spelled : owner.toList ++ '.' :: name.toList = name'.toList := heads
      exact absurd (by simp [← spelled]) plain'.1.not_mem_dot
    | parameter owner' name' n' =>
      rw [Plain] at plain'
      obtain ⟨rfl, rfl⟩ := parameter_inj plain.1 plain'.1 heads
      rw [chars_parameter, chars_parameter] at chars
      rw [dimension chars]

/-- Whether a type has arguments is seen at what follows its head. -/
theorem simple_append_ne_applied {tree : TypeTree} (plain : tree.Plain)
    (simple : ∀ name arguments n, tree ≠ .applied name arguments n) {name : String}
    (isName : IsName name) {rest : List Char} (closes : Closes rest) (rest' : List Char) :
    tree.chars ++ rest ≠ name.toList ++ '<' :: rest' := by
  intro h
  obtain ⟨n, chars⟩ := chars_eq_head_append simple
  rw [chars, List.append_assoc] at h
  have isHead : ∀ c ∈ name.toList, isHeadChar c = true := fun c mem => by
    simp [isHeadChar, isName c mem]
  have marks : ∀ c ∈ ('<' :: rest').head?, isHeadChar c = false := by
    simp only [List.head?_cons, Option.mem_some_iff, forall_eq']
    decide
  have ⟨_, follows⟩ := append_inj_of_span plain.isHeadChar_of_mem_head isHead
    (isHeadChar_of_mem_head?_brackets closes) marks h
  cases n with
  | zero =>
    rw [brackets, List.nil_append] at follows
    subst follows
    simp [Closes] at closes
  | succ n => simp [brackets] at follows

/-- Lists of arguments are told apart if each argument is. -/
theorem arguments_append_inj {arguments arguments' : List TypeTree}
    (each : ∀ argument ∈ arguments, ∀ (argument' : TypeTree) (rest rest' : List Char),
      argument'.Plain → Closes rest → Closes rest' →
      argument.chars ++ rest = argument'.chars ++ rest' → argument = argument' ∧ rest = rest')
    (nonempty : arguments ≠ []) (nonempty' : arguments' ≠ [])
    (plain' : ∀ argument' ∈ arguments', argument'.Plain) {rest rest' : List Char}
    (h : [',', ' '].intercalate (arguments.map chars) ++ '>' :: rest
      = [',', ' '].intercalate (arguments'.map chars) ++ '>' :: rest') :
    arguments = arguments' ∧ rest = rest' := by
  induction arguments generalizing arguments' with
  | nil => exact absurd rfl nonempty
  | cons argument arguments ih =>
    obtain ⟨argument', arguments', rfl⟩ := List.exists_cons_of_ne_nil nonempty'
    have first := each argument (by simp) argument'
    have plainFirst := plain' argument' (by simp)
    have closesEnd (rest : List Char) : Closes ('>' :: rest) := .inr rfl
    have closesMore (rest : List Char) : Closes (',' :: rest) := .inl rfl
    -- both texts go on with a mark after the first argument: the end or a further argument
    cases arguments with
    | nil =>
      cases arguments' with
      | nil =>
        simp only [List.map_cons, List.map_nil, List.intercalate_singleton] at h
        obtain ⟨rfl, follows⟩ := first _ _ plainFirst (closesEnd _) (closesEnd _) h
        exact ⟨rfl, (List.cons.inj follows).2⟩
      | cons second arguments' =>
        simp only [List.map_cons, List.map_nil, List.intercalate_singleton,
          List.intercalate_cons_cons, List.append_assoc] at h
        have := (first _ _ plainFirst (closesEnd _) (closesMore _) h).2
        simp at this
    | cons second arguments =>
      cases arguments' with
      | nil =>
        simp only [List.map_cons, List.map_nil, List.intercalate_singleton,
          List.intercalate_cons_cons, List.append_assoc] at h
        have := (first _ _ plainFirst (closesMore _) (closesEnd _) h).2
        simp at this
      | cons second' arguments' =>
        simp only [List.map_cons, List.intercalate_cons_cons, List.append_assoc] at h
        obtain ⟨rfl, follows⟩ := first _ _ plainFirst (closesMore _) (closesMore _) h
        have nonempty : second' :: arguments' ≠ [] := by simp
        have later := ih (fun a mem => each a (List.mem_cons_of_mem _ mem)) (by simp) nonempty
          (fun a mem => plain' a (List.mem_cons_of_mem _ mem))
          (by simpa using follows)
        exact ⟨by rw [later.1], later.2⟩

/-- Without arguments, the keys of two types are told apart by their heads. -/
theorem simple_append_inj {tree tree' : TypeTree} {rest rest' : List Char} (plain : tree.Plain)
    (plain' : tree'.Plain) (simple : ∀ name arguments n, tree ≠ .applied name arguments n)
    (simple' : ∀ name arguments n, tree' ≠ .applied name arguments n) (closes : Closes rest)
    (closes' : Closes rest') (h : tree.chars ++ rest = tree'.chars ++ rest') :
    tree = tree' ∧ rest = rest' := by
  obtain ⟨n, chars⟩ := chars_eq_head_append simple
  obtain ⟨n', chars'⟩ := chars_eq_head_append simple'
  rw [chars, chars', List.append_assoc, List.append_assoc] at h
  obtain ⟨heads, follows⟩ := append_inj_of_span plain.isHeadChar_of_mem_head
    plain'.isHeadChar_of_mem_head (isHeadChar_of_mem_head?_brackets closes)
    (isHeadChar_of_mem_head?_brackets closes') h
  obtain ⟨rfl, rests⟩ := brackets_append_inj closes closes' follows
  have same : tree.chars = tree'.chars := by rw [chars, chars', heads]
  exact ⟨array_eq_of_head_eq plain plain' simple simple' heads same, rests⟩

/-- A key is told apart from another one even with more text behind it. -/
theorem key_append_inj {tree tree' : TypeTree} {rest rest' : List Char} (plain : tree.Plain)
    (plain' : tree'.Plain) (closes : Closes rest) (closes' : Closes rest')
    (h : tree.chars ++ rest = tree'.chars ++ rest') : tree = tree' ∧ rest = rest' := by
  induction tree generalizing tree' rest rest' with
  | applied name arguments n ih =>
    have argumentsPlain := plain
    rw [Plain] at argumentsPlain
    rw [chars_applied, List.append_assoc] at h
    cases tree' with
    | applied name' arguments' n' =>
      rw [Plain] at plain'
      rw [chars_applied, List.append_assoc] at h
      have stops (rest : List Char) : ∀ c ∈ ('<' :: rest).head?, continuesIdentifier c = false := by
        simp only [List.head?_cons, Option.mem_some_iff, forall_eq']
        decide
      simp only [List.cons_append, List.append_assoc] at h
      obtain ⟨names, follows⟩ := append_inj_of_span argumentsPlain.1 plain'.1 (stops _) (stops _) h
      obtain ⟨rfl, ends⟩ := arguments_append_inj
        (fun argument mem argument' rest rest' plain' => ih argument mem
          (argumentsPlain.2.2 argument mem) plain')
        argumentsPlain.2.1 plain'.2.1 plain'.2.2 (List.cons.inj follows).2
      obtain ⟨rfl, rests⟩ := brackets_append_inj closes closes' ends
      exact ⟨by rw [String.toList_inj.1 names], rests⟩
    | _ => exact absurd h.symm
            (simple_append_ne_applied plain' (by simp) argumentsPlain.1 closes' _)
  | _ =>
    cases tree' with
    | applied name' arguments' n' =>
      rw [chars_applied, List.append_assoc] at h
      rw [Plain] at plain'
      exact absurd h (simple_append_ne_applied plain (by simp) plain'.1 closes _)
    | _ => exact simple_append_inj plain plain' (by simp) (by simp) closes closes' h

/-- Types of the same key are the same. -/
theorem key_injective {tree tree' : TypeTree} (plain : tree.Plain) (plain' : tree'.Plain)
    (h : tree.key = tree'.key) : tree = tree' := by
  have same : tree.chars ++ [] = tree'.chars ++ [] := by simp [chars, h]
  exact (key_append_inj plain plain' closes_nil closes_nil same).1

end TypeTree

end ClassModel
