import ClassModel.Proofs.Accepted
import ClassModel.Proofs.AsWritten
import ClassModel.Proofs.Mute
import ClassModel.Proofs.Overload

/-!
# ClassModel.Proofs.Formals

Lists of formal parameters. Whatever the text of a method is, its formal
parameters stand at the positions from 1 on, and only the last one may be
variadic: the marks of the others are reported and dropped. The signature is
written of what is left, so that there is at most one mark in it, in front of the
closing bracket. In an instantiation the formal parameters have other types, and
nothing else about them is different (`listsFormals_of_compile`).
-/

namespace ClassModel

/-! ## Reading -/

theorem Signature.readMark_subset (mark : Char) (tokens : List Token) :
    (readMark mark tokens).2 ⊆ tokens := by
  fun_cases readMark mark tokens <;> simp

namespace TypeExpr

variable (takesArguments : String → Bool)

theorem readDimension_subset (tokens : List Token) : (readDimension tokens).2 ⊆ tokens := by
  intro token mem
  rw [eq_of_readDimension tokens]
  exact List.mem_append_right _ mem

/-- What is left over after a type, or after type arguments, is taken from the
tokens. -/
theorem reading_subset :
    (∀ bound tokens, (readWithin takesArguments bound tokens).2 ⊆ tokens)
      ∧ ∀ bound tokens, (readArgumentsWithin takesArguments bound tokens).2 ⊆ tokens := by
  apply reading_induction
  case zero | nil => exact fun _ => List.Subset.refl _
  case name =>
    intro bound identifier rest arguments
    rw [readWithin]
    split
    · next rest' _ found =>
      have opened := Signature.readMark_subset '<' rest
      rw [found] at opened
      have closed := Signature.readMark_subset '>'
        (readArgumentsWithin takesArguments bound rest').2
      exact List.subset_cons_of_subset _ <| List.Subset.trans (readDimension_subset _) <|
        List.Subset.trans closed <| List.Subset.trans (arguments rest') opened
    · exact List.subset_cons_of_subset _ (readDimension_subset rest)
  case missing =>
    intro bound found rest noName
    rw [readWithin_of_noName noName]
    exact List.subset_cons_of_subset _ (readDimension_subset rest)
  case none =>
    intro bound tokens stops
    rw [stops]
    exact List.Subset.refl _
  case argument =>
    intro bound identifier rest first later
    have mark := Signature.readMark_subset ','
      (readWithin takesArguments bound (.identifier identifier :: rest)).2
    rw [readArgumentsWithin]
    dsimp only
    split
    · next rest' found =>
      rw [found] at mark
      exact List.Subset.trans (later rest') <| List.Subset.trans mark first
    · next rest' found =>
      rw [found] at mark
      exact List.Subset.trans mark first

theorem readWithin_subset (bound : Nat) (tokens : List Token) :
    (readWithin takesArguments bound tokens).2 ⊆ tokens :=
  (reading_subset takesArguments).1 bound tokens

end TypeExpr

namespace MethodExpr

variable (takesArguments : String → Bool)

theorem readReturnType?_subset (tokens : List Token) :
    (readReturnType? takesArguments tokens).2 ⊆ tokens := by
  unfold readReturnType?
  split
  · exact List.Subset.refl _
  · exact TypeExpr.readWithin_subset ..

/-- The name of a method is taken from its tokens. -/
theorem mem_of_read {tokens : List Token} {name : String}
    (found : (read takesArguments tokens).identifier = .ok name) : .identifier name ∈ tokens :=
  (Modifiers.readMore_subset {} tokens) <| (readReturnType?_subset takesArguments _) <|
    Signature.mem_of_readIdentifier found

end MethodExpr

/-- The name of a written formal parameter; a missing one is taken as empty. -/
def FormalExpr.name (expr : FormalExpr) : String := expr.identifier.toOption.getD ""

/-! ## Lists -/

namespace Formal

/-- Where the formal parameter stands, and whether it is variadic. -/
def place (formal : Formal) : Nat × Bool := (formal.stackPosition, formal.isVariadic)

/-- The formal parameter without the mark of a variadic one. -/
def plain (formal : Formal) : Formal := { formal with isVariadic := false }

/-- The formal parameters where only the last one may be variadic. -/
def placed (formals : List Formal) : List Formal :=
  formals.dropLast.map plain ++ formals.getLast?.toList

/-- The formal parameters stand at the positions from 1 on, and only the last one
may be variadic. -/
structure AreListed (formals : List Formal) : Prop where
  stackPositions : formals.map (·.stackPosition) = List.range' 1 formals.length
  plain : ∀ formal ∈ formals.dropLast, formal.isVariadic = false

theorem getLast?_placed (formals : List Formal) : (placed formals).getLast? = formals.getLast? := by
  rcases List.eq_nil_or_concat formals with rfl | ⟨front, last, rfl⟩ <;> simp [placed]

/-- Only marks are dropped. -/
theorem map_placed {α : Type} {f : Formal → α} (same : ∀ formal, f formal.plain = f formal)
    (formals : List Formal) : (placed formals).map f = formals.map f := by
  rcases List.eq_nil_or_concat formals with rfl | ⟨front, last, rfl⟩
  · rfl
  · simp [placed, same]

theorem areListed_placed {formals : List Formal}
    (stackPositions : formals.map (·.stackPosition) = List.range' 1 formals.length) :
    AreListed (placed formals) where
  stackPositions := by
    have length := congrArg List.length (map_placed (f := fun _ => ()) (fun _ => rfl) formals)
    rw [List.length_map, List.length_map] at length
    rw [map_placed (fun _ => rfl), stackPositions, length]
  plain formal mem := by
    rcases List.eq_nil_or_concat formals with rfl | ⟨front, last, rfl⟩
    · cases mem
    · simp only [placed, List.concat_eq_append, List.dropLast_concat, List.getLast?_concat,
        Option.toList_some] at mem
      obtain ⟨formal, _, rfl⟩ := List.mem_map.1 mem
      rfl

/-- The types do not matter. -/
theorem areListed_map_bare {formals : List Formal} :
    AreListed (formals.map bare) ↔ AreListed formals := by
  constructor
  · intro ⟨stackPositions, plain⟩
    rw [List.map_map, List.length_map] at stackPositions
    rw [← List.map_dropLast, List.forall_mem_map] at plain
    exact ⟨stackPositions, plain⟩
  · intro ⟨stackPositions, plain⟩
    refine ⟨?_, ?_⟩
    · rw [List.map_map, List.length_map]
      exact stackPositions
    · rw [← List.map_dropLast, List.forall_mem_map]
      exact plain

end Formal

/-! ## By names -/

namespace NamedMethod

/-- The formal parameters without their types. -/
def bareFormals (method : NamedMethod) : List Formal := method.formals.map (·.bare)

/-- The formal parameters are listed in order, behind a name without dots. -/
structure ListsFormals (method : NamedMethod) : Prop where
  noDot : '.' ∉ method.bare.identifier.toList
  areListed : Formal.AreListed method.bareFormals

theorem ListsFormals.substitute {scope : Scope} {options : Options} {method : NamedMethod}
    (lists : method.ListsFormals) (arguments : List (String × TypeTree)) :
    (method.substitute scope options arguments).value.ListsFormals where
  noDot := lists.noDot
  areListed := by
    have same : (method.substitute scope options arguments).value.bareFormals
        = method.bareFormals := by
      simp only [bareFormals, NamedMethod.substitute, Traced.value_bind, Traced.value_pure,
        Traced.value_mapM, List.map_map]
      rfl
    rw [same]
    exact lists.areListed

end NamedMethod

namespace FormalExpr

/-- The formal parameter at the stack position, without its type. -/
def bareAt (position : Nat) (expr : FormalExpr) : Formal where
  identifier := expr.name
  type := .void
  isVariadic := expr.isVariadic
  stackPosition := position

/-- The formal parameters from the stack position on, without their types. -/
def baresFrom : Nat → List FormalExpr → List Formal
  | _, [] => []
  | position, expr :: exprs => expr.bareAt position :: baresFrom (position + 1) exprs

theorem map_baresFrom {α : Type} {f : Formal → α} {g : FormalExpr → α}
    (same : ∀ position expr, f (bareAt position expr) = g expr) (position : Nat)
    (exprs : List FormalExpr) : (baresFrom position exprs).map f = exprs.map g := by
  induction exprs generalizing position with
  | nil => rfl
  | cons expr exprs ih => rw [baresFrom, List.map_cons, same, ih, List.map_cons]

theorem length_baresFrom (position : Nat) (exprs : List FormalExpr) :
    (baresFrom position exprs).length = exprs.length := by
  simpa using congrArg List.length (map_baresFrom (f := fun _ => ()) (g := fun _ => ())
    (fun _ _ => rfl) position exprs)

theorem dropLast_baresFrom (position : Nat) (exprs : List FormalExpr) :
    (baresFrom position exprs).dropLast = baresFrom position exprs.dropLast := by
  induction exprs generalizing position with
  | nil => rfl
  | cons expr exprs ih =>
    cases exprs with
    | nil => rfl
    | cons second exprs => exact congrArg (expr.bareAt position :: ·) (ih (position + 1))

/-- The variadic ones are those that are written so. -/
theorem map_filter_baresFrom {α : Type} {f : Formal → α} {g : FormalExpr → α}
    (same : ∀ position expr, f (bareAt position expr) = g expr) (position : Nat)
    (exprs : List FormalExpr) : ((baresFrom position exprs).filter (·.isVariadic)).map f
      = (exprs.filter (·.isVariadic)).map g := by
  induction exprs generalizing position with
  | nil => rfl
  | cons expr exprs ih =>
    rw [baresFrom, List.filter_cons, List.filter_cons, bareAt]
    split
    · rw [List.map_cons, List.map_cons, ih, ← same position]
      rfl
    · exact ih _

theorem stackPosition_baresFrom (position : Nat) (exprs : List FormalExpr) :
    (baresFrom position exprs).map (·.stackPosition) = List.range' position exprs.length := by
  induction exprs generalizing position with
  | nil => rfl
  | cons expr exprs ih =>
    rw [baresFrom, List.map_cons, ih, List.length_cons, List.range'_succ]
    rfl

end FormalExpr

/-- The diagnostic is that a variadic parameter is not the last one. -/
def Diagnostic.isMisplacedEllipsis : Diagnostic → Bool
  | misplacedEllipsis .. => true
  | _ => false

theorem Diagnostic.isMisplacedEllipsis_bare (diagnostic : Diagnostic) :
    diagnostic.bare.isMisplacedEllipsis = diagnostic.isMisplacedEllipsis := by
  cases diagnostic <;> rfl

/-- The complaints about marks among what happened. -/
def misplacedMarks (events : List Event) : List NamedDiagnostic :=
  (reports events).filter (·.bare.isMisplacedEllipsis)

theorem misplacedMarks_append (events events' : List Event) :
    misplacedMarks (events ++ events') = misplacedMarks events ++ misplacedMarks events' := by
  rw [misplacedMarks, reports_append, List.filter_append]
  rfl

theorem Traced.IsMute.misplacedMarks {α : Type} {traced : Traced α}
    (mute : traced.IsMute Diagnostic.IsAboutWhole) : misplacedMarks traced.events = [] := by
  refine List.filter_eq_nil_iff.2 fun named mem isMisplaced => mute.silent named mem ?_
  generalize named.bare = diagnostic at isMisplaced
  cases diagnostic <;> trivial

namespace Scope

variable (scope : Scope) (options : Options) (context signature : String)

theorem bare_compileFormals (position : Nat) (exprs : List FormalExpr) :
    (scope.compileFormals options context signature position exprs).value.map (·.bare)
      = FormalExpr.baresFrom position exprs := by
  induction exprs generalizing position with
  | nil => rfl
  | cons expr exprs ih =>
    have name : (Traced.nameOf? signature expr.identifier).value = expr.identifier.toOption := by
      cases expr.identifier <;> rfl
    simp only [compileFormals, Traced.value_bind, Traced.value_pure, List.map_cons, ih, name]
    rfl

/-- The marks of all formal parameters but the last one are dropped. -/
theorem bare_placeEllipsis (formals : List NamedFormal) :
    (placeEllipsis signature formals).value.map (·.bare)
      = Formal.placed (formals.map (·.bare)) := by
  induction formals with
  | nil => rfl
  | cons formal formals ih =>
    cases formals with
    | nil => rfl
    | cons second formals =>
      rw [placeEllipsis.eq_3 _ _ _ (by simp)]
      have same := congrArg (formal.bare.plain :: ·) ih
      split <;> exact same

/-- These marks are reported, one by one. -/
theorem misplacedMarks_placeEllipsis (formals : List NamedFormal) :
    misplacedMarks (placeEllipsis signature formals).events
      = ((formals.map (·.bare)).dropLast.filter (·.isVariadic)).map fun formal =>
        ⟨.misplacedEllipsis signature formal.identifier, []⟩ := by
  induction formals with
  | nil => rfl
  | cons formal formals ih =>
    cases formals with
    | nil => rfl
    | cons second formals =>
      rw [placeEllipsis.eq_3 _ _ _ (by simp), List.map_cons, List.map_cons, List.dropLast_cons_cons,
        List.filter_cons, ← List.map_cons]
      split
      · simp only [Traced.events_bind, Traced.events_pure, misplacedMarks_append, List.append_nil,
          List.map_cons, ih]
        rfl
      · simp only [Traced.events_bind, Traced.events_pure, List.append_nil, ih]

/-- What the formal parameters of a method are compiled to, and which marks are
reported. -/
theorem formals_compileMethod (body : Body) :
    let exprs := (MethodExpr.read (scope.takesArguments context)
      (tokenize signature).significant).formalList.formals
    let traced := scope.compileMethod options context signature body
    traced.value.bareFormals = Formal.placed (FormalExpr.baresFrom 1 exprs)
      ∧ misplacedMarks traced.events = (exprs.dropLast.filter (·.isVariadic)).map fun expr =>
        ⟨.misplacedEllipsis signature expr.name, []⟩ := by
  intro exprs traced
  have tokens : (Traced.tokens signature).value = (tokenize signature).significant := rfl
  constructor
  · simp only [traced, compileMethod, Traced.value_bind, Traced.value_pure,
      NamedMethod.bareFormals, bare_placeEllipsis, bare_compileFormals, tokens, exprs]
  · -- Only the list as a whole is complained about in this way.
    simp only [traced, compileMethod, Traced.events_bind, Traced.events_pure, misplacedMarks_append,
      (Traced.IsMute.tokens _).misplacedMarks, (Traced.IsMute.nameOf? _ _).misplacedMarks,
      (Traced.IsMute.reportUnmet _ _).misplacedMarks,
      (scope.isMute_compileReturnType? options _ _ _).misplacedMarks,
      (scope.isMute_compileFormals options _ _ _ _).misplacedMarks,
      misplacedMarks_placeEllipsis, bare_compileFormals, tokens, List.nil_append]
    rw [FormalExpr.dropLast_baresFrom]
    exact (List.append_nil _).trans (FormalExpr.map_filter_baresFrom (fun _ _ => rfl) 1 _)

/-- A missing name is empty, and any other one is a word. -/
theorem noDot_compileMethod (body : Body) :
    '.' ∉ (scope.compileMethod options context signature body).value.bare.identifier.toList := by
  have tokens : (Traced.tokens signature).value = (tokenize signature).significant := rfl
  simp only [compileMethod, Traced.value_bind, Traced.value_pure, tokens]
  cases found : (MethodExpr.read (scope.takesArguments context)
      (tokenize signature).significant).identifier with
  | ok name => exact (isName_of_mem_significant (MethodExpr.mem_of_read _ found)).1.not_mem_dot
  | error unmet => exact List.not_mem_nil

end Scope

theorem NamedMethod.IsCompiled.listsFormals {method : NamedMethod} (compiled : method.IsCompiled) :
    method.ListsFormals := by
  obtain ⟨scope, options, context, signature, body, rfl⟩ := compiled
  refine ⟨scope.noDot_compileMethod options context signature body, ?_⟩
  rw [(scope.formals_compileMethod options context signature body).1]
  refine Formal.areListed_placed ?_
  rw [FormalExpr.stackPosition_baresFrom, FormalExpr.length_baresFrom]

/-- The methods of a class-like list their formal parameters in order. -/
def NamedClass.ListsFormals (named : NamedClass) : Prop :=
  ∀ method ∈ named.methods, method.ListsFormals

theorem NamedClass.keeps_listsFormals (scope : Scope) : scope.Keeps fun _ => ListsFormals where
  parameters lists _ _ _ := lists
  superclass? lists _ _ _ := lists
  interfaces lists _ _ := lists
  attributes lists _ _ := lists
  methods lists method admitted := by
    intro other mem
    rcases List.mem_append.1 mem with mem | mem
    · exact lists other mem
    · rw [List.mem_singleton.1 mem]
      exact admitted.compiled.listsFormals
  constants lists _ := lists
  layout lists _ := lists

theorem NamedClass.ListsFormals.substitute {scope : Scope} {options : Options} {named : NamedClass}
    (lists : named.ListsFormals) (arguments : List (String × TypeTree)) :
    (named.substitute scope options arguments).value.ListsFormals := by
  intro method mem
  simp only [NamedClass.substitute, Traced.value_bind, Traced.value_pure, Traced.value_mapM] at mem
  obtain ⟨method', inside, rfl⟩ := List.mem_map.1 mem
  exact (lists method' inside).substitute arguments

/-! ## Signatures -/

/-- What stands behind the last text stands behind the list. -/
theorem intercalate_concat_append (texts : List (List Char)) (text mark : List Char) :
    [','].intercalate (texts ++ [text ++ mark]) = [','].intercalate (texts ++ [text]) ++ mark := by
  cases texts with
  | nil => simp
  | cons first texts =>
    simp only [List.cons_append, intercalate_eq_append, furtherItems, List.flatMap_append,
      List.flatMap_singleton, List.append_assoc]

namespace Library

variable {library : Library}

/-- The formal parameters are written without dots, but for a mark behind the last
one. -/
theorem exists_front_of_areListed {identifier : String} {formals : List Formal}
    (noDot : '.' ∉ identifier.toList) (listable : library.AreListable formals)
    (listed : Formal.AreListed formals) :
    ∃ front : String, '.' ∉ front.toList ∧ library.methodSignature identifier formals
      = front ++ (if formals.any (·.isVariadic) then "..." else "") ++ ")" := by
  rcases List.eq_nil_or_concat formals with rfl | ⟨front, last, rfl⟩
  · refine ⟨identifier ++ "(", by simp [noDot], ?_⟩
    simp [methodSignature]
  · rw [List.concat_eq_append] at listable listed ⊢
    have plain := listed.plain
    rw [List.dropLast_concat] at plain
    rw [AreListable, List.forall_mem_append, List.forall_mem_singleton] at listable
    have any : (front ++ [last]).any (·.isVariadic) = last.isVariadic := by
      rw [List.any_append, List.any_eq_false.2 fun formal mem => by simp [plain formal mem]]
      simp
    let texts := front.map fun formal => (library.formalText formal).toList
    let text := (library.signatureOf last.type).toList
    have noDots : ∀ text' ∈ texts ++ [text], '.' ∉ text' := by
      rw [List.forall_mem_append, List.forall_mem_singleton, List.forall_mem_map]
      refine ⟨fun formal mem => ?_, listable.2.noDot⟩
      rw [formalText, plain formal mem]
      simpa using (listable.1 formal mem).noDot
    refine ⟨.ofList (identifier.toList ++ '(' :: [','].intercalate (texts ++ [text])), ?_, ?_⟩
    · rw [String.toList_ofList, List.mem_append, List.mem_cons, not_or, not_or]
      exact ⟨noDot, by decide, not_mem_intercalate (by decide) noDots⟩
    · have shown : (library.formalText last).toList
          = text ++ (if last.isVariadic then "..." else "").toList := String.toList_append
      apply String.toList_inj.1
      rw [toList_methodSignature, any, List.map_append, List.map_singleton, shown,
        intercalate_concat_append]
      simp [texts, List.append_assoc]

/-- The method lists its formal parameters in order, and its signature is written of
them. -/
structure ListsFormals (library : Library) (method : Method) : Prop where
  areListed : Formal.AreListed method.formals
  signature : method.signature = library.methodSignature method.identifier method.formals
  /-- The signature has no dots but those of a variadic parameter, behind which it ends. -/
  ellipsis : ∃ front : String, '.' ∉ front.toList ∧ method.signature
    = front ++ (if method.formals.any (·.isVariadic) then "..." else "") ++ ")"

variable {scope : Scope} {options : Options} {context : String}

theorem bareFormals_eq {method : Method} {named : NamedMethod}
    (spells : library.SpellsMethod scope options context method named) :
    method.formals.map Formal.bare = named.bareFormals :=
  Related.map_eq spells.formals fun _ _ _ spells => spells.bare

/-- A method that is compiled by names to formal parameters in order has them in
order. -/
theorem SpellsMethod.listsFormals {method : Method} {named : NamedMethod}
    (spells : library.SpellsMethod scope options context method named) (lists : named.ListsFormals)
    (signature : method.signature = library.methodSignature method.identifier method.formals)
    (listable : library.AreListable method.formals) : library.ListsFormals method where
  areListed := by
    rw [← Formal.areListed_map_bare, bareFormals_eq spells]
    exact lists.areListed
  signature := signature
  ellipsis := by
    rw [signature]
    refine exists_front_of_areListed ?_ listable ?_
    · rw [spells.identifier]
      exact lists.noDot
    · rw [← Formal.areListed_map_bare, bareFormals_eq spells]
      exact lists.areListed

/-! ## While methods are compiled -/

/-- How the formal parameters that are read from the text of a method are compiled. -/
structure CompilesFormals (library : Library) (signature : String) (exprs : List FormalExpr)
    (told : List Diagnostic) (method : Method) : Prop where
  lists : library.ListsFormals method
  identifiers : method.formals.map (·.identifier) = exprs.map (·.name)
  /-- The last formal parameter is variadic if it is written so. -/
  last : method.formals.getLast?.map (·.isVariadic) = exprs.getLast?.map (·.isVariadic)
  /-- The marks of the others are reported, one by one. -/
  misplaced : told.filter (·.isMisplacedEllipsis) = (exprs.dropLast.filter (·.isVariadic)).map
    fun expr => .misplacedEllipsis signature expr.name

/-- The complaints about marks are those by names. -/
theorem filter_isMisplacedEllipsis {signature : String} {told : List Diagnostic}
    {events : List Event} {exprs : List FormalExpr}
    (tells : List.Forall₂ library.Tells told (reports events))
    (misplaced : misplacedMarks events = exprs.map fun expr =>
      ⟨.misplacedEllipsis signature expr.name, []⟩) :
    told.filter (·.isMisplacedEllipsis)
      = exprs.map fun expr => .misplacedEllipsis signature expr.name := by
  have filtered : List.Forall₂ library.Tells (told.filter (·.isMisplacedEllipsis))
      (misplacedMarks events) := by
    refine List.rel_filter (fun diagnostic named tells => ?_) tells
    dsimp only
    rw [← tells.1, Diagnostic.isMisplacedEllipsis_bare]
  rw [misplaced, List.forall₂_map_right_iff] at filtered
  rw [← List.map_id (told.filter _)]
  refine Related.map_eq filtered fun expr _ diagnostic tells => ?_
  have bare := tells.1
  revert bare
  cases diagnostic <;> simp [Diagnostic.bare]

theorem SpellsMethod.compilesFormals {method : Method} {signature : String} {body : Body}
    {told : List Diagnostic} (coherent : library.Coherent scope options) (spelled : scope.IsSpelled)
    (spells : library.SpellsMethod scope options context method
      (scope.compileMethod options context signature body).value)
    (tells : List.Forall₂ library.Tells told
      (reports (scope.compileMethod options context signature body).events)) :
    library.CompilesFormals signature (MethodExpr.read (scope.takesArguments context)
      (tokenize signature).significant).formalList.formals told method := by
  obtain ⟨formals, misplaced⟩ := scope.formals_compileMethod options context signature body
  rw [← bareFormals_eq spells] at formals
  generalize (MethodExpr.read (scope.takesArguments context)
    (tokenize signature).significant).formalList.formals = exprs at formals misplaced ⊢
  refine ⟨?_, ?_, ?_, filter_isMisplacedEllipsis tells misplaced⟩
  · refine spells.listsFormals (NamedMethod.IsCompiled.listsFormals ⟨_, _, _, _, _, rfl⟩) ?_
      (spells.areListable coherent spelled)
    rw [coherent.methodSignature_eq _ spells.formals, spells.signature, spells.identifier]
    exact (scope.signature_compileMethod options context signature body).1
  · have identifiers := congrArg (List.map (·.identifier)) formals
    rw [List.map_map, Formal.map_placed (fun _ => rfl),
      FormalExpr.map_baresFrom (g := (·.name)) fun _ _ => rfl] at identifiers
    exact identifiers
  · have last := congrArg (fun formals => formals.getLast?.map (·.isVariadic)) formals
    simp only [Formal.getLast?_placed, ← List.getLast?_map, List.map_map] at last ⊢
    rw [FormalExpr.map_baresFrom (g := (·.isVariadic)) fun _ _ => rfl] at last
    exact last

/-! ## In a library -/

/-- The methods list their formal parameters in order, and those of an instantiation
stand where those of its base do, with the same marks. -/
structure KeepsFormals (library : Library) : Prop where
  lists {id : ClassId} {method : Method} : method ∈ library.methodsOf id →
    library.ListsFormals method
  places (id : ClassId) : (library.methodsOf id).map (·.formals.map Formal.place)
    = (library.methodsOf (library.baseOf id)).map (·.formals.map Formal.place)

theorem ListsFormals.marked {marks : ClassId → Nat → Bool} {before after : Library}
    {method : Method} (lists : before.ListsFormals method) (marked : Marked marks before after)
    (isMarked : Bool) : after.ListsFormals (method.mark isMarked) where
  areListed := lists.areListed
  signature := by
    rw [marked.methodSignature]
    exact lists.signature
  ellipsis := lists.ellipsis

/-- Marks leave formal parameters where they are. -/
theorem KeepsFormals.marked {marks : ClassId → Nat → Bool} {before after : Library}
    (keeps : before.KeepsFormals) (marked : Marked marks before after) : after.KeepsFormals where
  lists own := by
    obtain ⟨index, own⟩ := List.mem_iff_getElem?.1 own
    obtain ⟨unmarked, before, rfl⟩ := marked.exists_unmarked own
    exact (keeps.lists (List.mem_of_getElem? before)).marked marked _
  places id := by
    rw [marked.baseOf, marked.map_methodsOf fun _ _ => rfl, marked.map_methodsOf fun _ _ => rfl,
      keeps.places]

section Compiled

variable {declarations : List Declaration} {names : List String} {diagnostics : List Diagnostic}
  (compiled : Compiled options declarations names library diagnostics)

include compiled

theorem listsFormals {id : ClassId} {method : Method} (own : method ∈ library.methodsOf id) :
    library.ListsFormals method := by
  obtain ⟨signature, listable⟩ := signature_eq compiled own
  rw [methodsOf] at own
  split at own
  · next classLike known =>
    obtain ⟨name, context, named, _, spells, told⟩ := exists_spells compiled known
    have content : (contentOf options declarations names name).ListsFormals := by
      refine (NamedClass.keeps_listsFormals _).contentOf_of_methods compiled.coherent.object
        (fun name named none => ?_) names name
      simp [NamedClass.ListsFormals, none]
    have lists : named.ListsFormals := by
      rcases told with rfl | ⟨arguments, rfl⟩
      · exact content
      · exact content.substitute arguments
    obtain ⟨method', mem, spells⟩ := Related.exists_of_mem spells.methods.flip own
    exact spells.listsFormals (lists method' mem) signature listable
  · cases own

/-- Substitution leaves formal parameters where they are. -/
theorem places_methodsOf (id : ClassId) : (library.methodsOf id).map (·.formals.map Formal.place)
    = (library.methodsOf (library.baseOf id)).map (·.formals.map Formal.place) := by
  cases found : library.specialization? id with
  | none => rw [baseOf, found]
  | some specialization =>
    obtain ⟨_, substitution, substituted⟩ := exists_substituted_methods compiled found
    refine (Related.map_eq substituted fun method _ base substituted => ?_).symm
    refine Related.map_eq substituted.formals fun formal _ base substituted => ?_
    rw [substituted.rest]
    rfl

end Compiled

end Library

/-- Whatever text a method is compiled from, its formal parameters are listed in
order, with a mark on the last one at most; every mark in front of it is reported. So
are those of the methods of every library that a compilation returns, where
instantiations keep positions and marks. -/
theorem listsFormals_of_compile (declarations : List Declaration) :
    (∀ {options : Options} {state : BuildState} {owner : ClassId} {context : String},
      Build.CompilesMembers options (Standard.prelude ++ declarations) state →
        state.library.IsNamed owner context → ∀ signature body, ∃ method after told,
          (Build.compileMethod options owner signature body).run.run state = (.ok method, after)
            ∧ after.log.toList = state.log.toList ++ told
            ∧ after.library.CompilesFormals signature
                (MethodExpr.read (state.library.takesArguments owner)
                  (tokenize signature).significant).formalList.formals told method)
      ∧ ∀ {options : Options} {budget : Nat} {library : Library},
        (compile declarations options budget).result = .ok library → library.KeepsFormals := by
  constructor
  · intro options state owner context compiles isNamed signature body
    obtain ⟨coherent, _⟩ := compiles.realizes (sound_prelude declarations)
    obtain ⟨method, after, run, coherent', steps, spells⟩ := Build.Yields.exists_run
      (@Refines.compileMethod _ options context signature state owner body coherent isNamed)
    obtain ⟨told, log, tells⟩ := steps.log
    rw [coherent.takesArguments_eq isNamed]
    exact ⟨method, after, told, run, log,
      spells.compilesFormals coherent' (isSpelled_scopeOf _) tells⟩
  · intro options budget library returned
    obtain ⟨names, before, compiled, marked⟩ := exists_compiled returned
    have keeps : before.KeepsFormals :=
      ⟨Library.listsFormals compiled, Library.places_methodsOf compiled⟩
    exact keeps.marked marked

/-! ## A sample -/

/-- A generic class with a variadic method, and a class that extends an instantiation
of it. -/
def Declaration.drawers : List Declaration :=
  [{ signature := "class Drawer<T>"
     methods := [("void fill(int count, T... values)", .expression "null")] },
   { signature := "class Desk extends Drawer<String>" }]

/-- What the sample is compiled to. -/
structure Library.HasDrawers (library : Library) : Prop where
  drawer : (library.methodsOf ⟨8⟩).map (·.signature) = ["fill(int,T...)"]
  drawerOfString : (library.methodsOf ⟨10⟩).map (·.signature) = ["fill(int,String...)"]
  places : (library.methodsOf ⟨10⟩).map (·.formals.map Formal.place) = [[(1, false), (2, true)]]

instance (library : Library) : Decidable library.HasDrawers :=
  decidable_of_iff
    ((library.methodsOf ⟨8⟩).map (·.signature) = ["fill(int,T...)"]
      ∧ (library.methodsOf ⟨10⟩).map (·.signature) = ["fill(int,String...)"]
      ∧ (library.methodsOf ⟨10⟩).map (·.formals.map Formal.place) = [[(1, false), (2, true)]])
    ⟨fun ⟨drawer, ofString, places⟩ => ⟨drawer, ofString, places⟩,
      fun ⟨drawer, ofString, places⟩ => ⟨drawer, ofString, places⟩⟩

/-- The text of a further method breaks off, and has a mark that is not in place. -/
theorem listsFormals_drawers : ∃ state owner library,
    Build.CompilesMembers {} (Standard.prelude ++ Declaration.drawers) state
      ∧ state.library.IsNamed owner "Drawer"
      ∧ (compile Declaration.drawers {} 2).result = .ok library ∧ library.HasDrawers
      ∧ (∃ method after told,
        (Build.compileMethod {} owner "void fill(int... counts, T... values"
          (.expression "null")).run.run state = (.ok method, after)
        ∧ after.log.toList = state.log.toList ++ told
        ∧ after.library.CompilesFormals "void fill(int... counts, T... values"
            (MethodExpr.read (state.library.takesArguments owner)
              (tokenize "void fill(int... counts, T... values").significant).formalList.formals
            told method)
      ∧ library.KeepsFormals := by
  obtain ⟨library, returned, _, hasDrawers⟩ := exists_of_check (compile Declaration.drawers {} 2)
    (fun library => decide library.HasDrawers) (by decide +kernel)
  have sound := sound_prelude Declaration.drawers
  obtain ⟨state, compiles⟩ := Build.exists_compilesMembers {} sound
  have known : scopeOf (Standard.prelude ++ Declaration.drawers) "Drawer"
      = some ⟨.class, ["T"]⟩ := by decide +kernel
  obtain ⟨owner, classLike, declared, named, _⟩ :=
    (compiles.realizes sound).1.scope_iff.1 known
  have isNamed : state.library.IsNamed owner "Drawer" := ⟨classLike, declared, named⟩
  obtain ⟨lists, keeps⟩ := listsFormals_of_compile Declaration.drawers
  exact ⟨state, owner, library, compiles, isNamed, returned, of_decide_eq_true hasDrawers,
    lists compiles isNamed _ _, keeps returned⟩

end ClassModel
