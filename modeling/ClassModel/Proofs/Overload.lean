import ClassModel.Proofs.Embedding
import ClassModel.Proofs.Invariant
import ClassModel.Proofs.Signature

/-!
# ClassModel.Proofs.Overload

Methods of the same name. Where a class-like is declared no two of its methods
have the same signature, and each is called by its own. An instantiation takes
over all methods and writes their signatures anew: those that differ in a
generic parameter only may then have the same one, by which the first of them is
called (`tellsApart_of_compile`).
-/

namespace ClassModel

/-! ## By names -/

namespace NamedClass

/-- The methods have the signatures that go with their formal parameters. -/
def IsSigned (named : NamedClass) : Prop := ∀ method ∈ named.methods,
  method.bare.signature = NamedMethod.signature method.bare.identifier method.formals

/-- The methods are told apart by their signatures. -/
def IsDistinct (named : NamedClass) : Prop := (named.methods.map (·.bare.signature)).Nodup

theorem keeps_isSigned (scope : Scope) : scope.Keeps fun _ => IsSigned where
  parameters signed _ _ _ := signed
  superclass? signed _ _ _ := signed
  interfaces signed _ _ := signed
  attributes signed _ _ := signed
  methods signed method admitted := by
    intro other mem
    rcases List.mem_append.1 mem with mem | mem
    · exact signed other mem
    · rw [List.mem_singleton.1 mem]
      exact admitted.signature
  constants signed _ := signed
  layout signed _ := signed

theorem keeps_isDistinct (scope : Scope) : scope.Keeps fun _ => IsDistinct where
  parameters distinct _ _ _ := distinct
  superclass? distinct _ _ _ := distinct
  interfaces distinct _ _ := distinct
  attributes distinct _ _ := distinct
  methods distinct method admitted := by
    rw [IsDistinct, List.map_append, List.map_singleton, ← List.concat_eq_append,
      List.nodup_concat]
    refine ⟨fun mem => ?_, distinct⟩
    obtain ⟨other, inside, same⟩ := List.mem_map.1 mem
    exact admitted.new other inside same
  constants distinct _ := distinct
  layout distinct _ := distinct

/-- Substitution writes the signatures anew. -/
theorem IsSigned.substitute {scope : Scope} {options : Options} (named : NamedClass)
    (arguments : List (String × TypeTree)) :
    (named.substitute scope options arguments).value.IsSigned := by
  intro method mem
  simp only [NamedClass.substitute, Traced.value_bind, Traced.value_pure, Traced.value_mapM] at mem
  obtain ⟨method', _, rfl⟩ := List.mem_map.1 mem
  simp only [NamedMethod.substitute, Traced.value_bind, Traced.value_pure]

end NamedClass

/-- What is kept from a class-like without methods on holds in the end. -/
theorem Scope.Keeps.contentOf_of_methods {options : Options} {declarations : List Declaration}
    {p : String → NamedClass → Prop} (keeps : (scopeOf declarations).Keeps p)
    (object : scopeOf declarations Standard.objectIdentifier = some ⟨.class, []⟩)
    (start : ∀ name (named : NamedClass), named.methods = [] → p name named) (names : List String)
    (name : String) : p name (ClassModel.contentOf options declarations names name) := by
  refine keeps.contentOf object (keeps.resolveHeaders object (fun name => start name _ ?_) _) names
    name
  unfold Registration.contentOf
  split <;> rfl

/-! ## Types without generic parameters -/

namespace Library

variable {library : Library}

/-- What is answered for each argument as it is makes the same arguments. -/
theorem eq_of_mapM {inArgument : Ty → Option Ty} {arguments answers : List Ty}
    (same : ∀ argument ∈ arguments, ∀ answer, inArgument argument = some answer →
      answer = argument)
    (all : arguments.mapM inArgument = some answers) : answers = arguments := by
  induction arguments generalizing answers with
  | nil =>
    cases all
    rfl
  | cons argument arguments ih =>
    rw [List.mapM_cons] at all
    simp only [Option.bind_eq_bind, Option.bind_eq_some_iff, Option.pure_def,
      Option.some.injEq] at all
    obtain ⟨answer, first, answers, later, rfl⟩ := all
    rw [List.forall_mem_cons] at same
    rw [same.1 answer first, ih same.2 later]

section Coherent

variable {scope : Scope} {options : Options} (coherent : library.Coherent scope options)
  {substitution : Substitution} {type type' : Ty}

include coherent

/-- Substitution leaves a type as it is if no generic parameter is found in it,
and no argument without one is changed. -/
theorem eq_of_substitutedFrom? {inArgument : Ty → Option Ty}
    {parameterIn? : Ty → Option ParameterId} (normal : type.IsNormal)
    (same : ∀ argument answer, argument.IsNormal → parameterIn? argument = none →
      inArgument argument = some answer → answer = argument)
    (closed : library.parameterFrom? parameterIn? type = none)
    (substituted : library.substitutedFrom? options substitution inArgument type = some type') :
    type' = type := by
  refine normal.induction (motive := fun type => ∀ type',
    library.parameterFrom? parameterIn? type = none →
    library.substitutedFrom? options substitution inArgument type = some type' → type' = type)
    ?_ ?_ ?_ type' closed substituted
  · intro primitive n type' closed substituted
    rw [substitutedFrom?_array] at substituted
    cases substituted
    rfl
  · intro id n type' closed substituted
    rw [substitutedFrom?_array] at substituted
    rw [parameterFrom?_array] at closed
    obtain ⟨item, inItem, rfl⟩ := Option.map_eq_some_iff.1 substituted
    rw [parameterFrom?] at closed
    rw [substitutedFrom?] at inItem
    cases found : library.specialization? id with
    | none =>
      rw [found] at inItem
      cases inItem
      rfl
    | some specialization =>
      rw [found] at inItem
      rw [found, Option.bind_some, List.findSome?_eq_none_iff] at closed
      simp only [Option.bind_eq_bind, Option.bind_eq_some_iff] at inItem
      obtain ⟨answers, all, inItem⟩ := inItem
      have kept (argument : Ty) (mem : argument ∈ specialization.arguments) (answer : Ty) :
          inArgument argument = some answer → answer = argument :=
        same argument answer ((coherent.exists_denotes_argument found mem).elim
          fun _ => Denotes.isNormal) (closed argument mem)
      rw [if_pos (eq_of_mapM kept all)] at inItem
      cases inItem
      rfl
  · intro parameter n type' closed substituted
    rw [parameterFrom?_array] at closed
    cases closed

theorem eq_of_substitutedWithin? {depth : Nat} (normal : type.IsNormal)
    (closed : library.parameterWithin? depth type = none)
    (substituted : library.substitutedWithin? options substitution depth type = some type') :
    type' = type := by
  induction depth generalizing type type' with
  | zero => exact eq_of_substitutedFrom? coherent normal (by simp) closed substituted
  | succ depth ih =>
    exact eq_of_substitutedFrom? coherent normal (fun _ _ normal => ih normal) closed substituted

/-- Substitution leaves a type without generic parameters as it is. -/
theorem eq_of_substituted? (normal : type.IsNormal) (closed : library.isOpen type = false)
    (substituted : library.substituted? options substitution type = some type') : type' = type := by
  rw [isOpen, Option.isSome_eq_false_iff, Option.isNone_iff_eq_none] at closed
  exact eq_of_substitutedWithin? coherent normal closed substituted

end Coherent

/-! ## Own methods -/

/-- The types of formal parameters can be listed. -/
theorem SpellsMethod.areListable {scope : Scope} {options : Options} {context : String}
    {method : Method} {named : NamedMethod} (coherent : library.Coherent scope options)
    (spelled : scope.IsSpelled) (spells : library.SpellsMethod scope options context method named) :
    library.AreListable method.formals := by
  intro formal mem
  obtain ⟨formal', _, spells⟩ := Related.exists_of_mem spells.formals.flip mem
  rw [coherent.signatureOf_eq spells.type.denotes]
  exact TypeTree.isTypeText_signature spelled spells.type.wellFormed

section Compiled

variable {options : Options} {declarations : List Declaration} {names : List String}
  {diagnostics : List Diagnostic}
    (compiled : Compiled options declarations names library diagnostics)

include compiled

/-- The methods of a class-like, instantiated or not, have the signatures that
go with their formal parameters, the types of which can be listed. -/
theorem signature_eq {id : ClassId} {method : Method} (own : method ∈ library.methodsOf id) :
    method.signature = library.methodSignature method.identifier method.formals
      ∧ library.AreListable method.formals := by
  rw [methodsOf] at own
  split at own
  · next classLike known =>
    obtain ⟨name, context, named, _, spells, told⟩ := exists_spells compiled known
    have signed : named.IsSigned := by
      rcases told with rfl | ⟨arguments, rfl⟩
      · refine (NamedClass.keeps_isSigned _).contentOf_of_methods compiled.coherent.object
          (fun name named none => ?_) names name
        simp [NamedClass.IsSigned, none]
      · exact .substitute _ arguments
    obtain ⟨method', mem, spells⟩ := Related.exists_of_mem spells.methods.flip own
    constructor
    · rw [compiled.coherent.methodSignature_eq _ spells.formals, spells.signature,
        spells.identifier]
      exact signed method' mem
    · exact spells.areListable compiled.coherent (isSpelled_scopeOf declarations)
  · cases own

/-- The types of formal parameters are in normal form. -/
theorem isNormal_formal {id : ClassId} {method : Method} (own : method ∈ library.methodsOf id) :
    ∀ formal ∈ method.formals, formal.type.IsNormal := by
  rw [methodsOf] at own
  split at own
  · next classLike known =>
    obtain ⟨_, _, _, _, spells, _⟩ := exists_spells compiled known
    obtain ⟨_, _, spells⟩ := Related.exists_of_mem spells.methods.flip own
    intro formal mem
    obtain ⟨_, _, spells⟩ := Related.exists_of_mem spells.formals.flip mem
    exact spells.type.denotes.isNormal
  · cases own

/-- Where a class-like is declared its methods have different signatures. -/
theorem nodup_signature {id : ClassId} (plain : library.specialization? id = none) :
    ((library.methodsOf id).map (·.signature)).Nodup := by
  rw [methodsOf]
  split
  · next classLike known =>
    have declared : library.IsDeclared id classLike := by
      refine ⟨known, ?_⟩
      simpa [specialization?, known] using plain
    obtain ⟨_, known', spells⟩ := compiled.realizes _ _ ⟨classLike, declared, rfl⟩
    cases known.symm.trans known'
    rw [Related.map_eq spells.methods fun _ _ _ spells => spells.signature]
    refine (NamedClass.keeps_isDistinct _).contentOf_of_methods compiled.coherent.object
      (fun name named none => ?_) names classLike.identifier
    simp [NamedClass.IsDistinct, none]
  · exact List.nodup_nil

theorem signature_ne {id : ClassId} {i j : Nat} {method method' : Method}
    (plain : library.specialization? id = none) (different : i ≠ j)
    (own : (library.methodsOf id)[i]? = some method)
    (own' : (library.methodsOf id)[j]? = some method') : method.signature ≠ method'.signature := by
  intro same
  have found : ((library.methodsOf id).map (·.signature))[i]?
      = ((library.methodsOf id).map (·.signature))[j]? := by
    rw [List.getElem?_map, List.getElem?_map, own, own', Option.map_some, Option.map_some, same]
  obtain ⟨inside, _⟩ := List.getElem?_eq_some_iff.1 own
  exact different ((List.getElem?_inj (by simpa using inside) (nodup_signature compiled plain)).1
    found)

end Compiled

/-! ## Merged methods -/

/-- The formal parameters are written alike, unless one of their types has a
generic parameter in it. -/
structure MayMerge (library : Library) (formal formal' : Formal) : Prop where
  type : library.signatureOf formal.type = library.signatureOf formal'.type
    ∨ library.isOpen formal.type = true ∨ library.isOpen formal'.type = true
  isVariadic : formal.isVariadic = formal'.isVariadic

/-- The class-like is an instantiation, and the methods in the two places have
different signatures in its base, though it is only by generic parameters. -/
structure AreMerged (library : Library) (id : ClassId) (i j : Nat) : Prop where
  specialized : (library.specialization? id).isSome = true
  base : ∃ method method',
    (library.methodsOf (library.baseOf id))[i]? = some method
      ∧ (library.methodsOf (library.baseOf id))[j]? = some method'
      ∧ method.signature ≠ method'.signature ∧ method.identifier = method'.identifier
      ∧ List.Forall₂ library.MayMerge method.formals method'.formals

/-- Formal parameters that substitution makes alike were so before, or have
generic parameters in their types. -/
theorem mayMerge_of_writtenAlike {scope : Scope} {options : Options}
    (coherent : library.Coherent scope options) {substitution : Substitution}
    {formal formal' base base' : Formal} (normal : base.type.IsNormal)
    (normal' : base'.type.IsNormal)
    (same : IsSubstitutedFormal (library.substituted? options substitution) base formal)
    (same' : IsSubstitutedFormal (library.substituted? options substitution) base' formal')
    (alike : library.WrittenAlike formal formal') : library.MayMerge base base' where
  type := by
    cases opened : library.isOpen base.type with
    | true => simp
    | false =>
      cases opened' : library.isOpen base'.type with
      | true => simp
      | false =>
        rw [← eq_of_substituted? coherent normal opened same.type,
          ← eq_of_substituted? coherent normal' opened' same'.type]
        exact .inl alike.type
  isVariadic := by
    have own : formal.isVariadic = base.isVariadic := by rw [same.rest]
    have own' : formal'.isVariadic = base'.isVariadic := by rw [same'.rest]
    rw [← own, ← own', alike.isVariadic]

theorem forall₂_mayMerge {scope : Scope} {options : Options}
    (coherent : library.Coherent scope options) {substitution : Substitution}
    {formals formals' bases bases' : List Formal}
    (normal : ∀ base ∈ bases, base.type.IsNormal) (normal' : ∀ base ∈ bases', base.type.IsNormal)
    (same : List.Forall₂ (IsSubstitutedFormal (library.substituted? options substitution)) bases
      formals)
    (same' : List.Forall₂ (IsSubstitutedFormal (library.substituted? options substitution)) bases'
      formals')
    (alike : List.Forall₂ library.WrittenAlike formals formals') :
    List.Forall₂ library.MayMerge bases bases' := by
  have across : List.Forall₂ (fun base' formal => ∃ formal', library.WrittenAlike formal formal'
      ∧ base'.type.IsNormal
      ∧ IsSubstitutedFormal (library.substituted? options substitution) base' formal')
      bases' formals :=
    Related.join ((List.forall₂_and_left _ _).2 ⟨normal', same'⟩) alike
      fun formal' _ _ _ same alike => ⟨formal', alike, same⟩
  refine Related.join ((List.forall₂_and_left _ _).2 ⟨normal, same⟩) across ?_
  rintro formal _ _ _ ⟨normal, same⟩ ⟨formal', alike, normal', same'⟩
  exact mayMerge_of_writtenAlike coherent normal normal' same same' alike

/-- Methods of the same signature have different ones in the base. -/
theorem areMerged {options : Options} {declarations : List Declaration} {names : List String}
    {diagnostics : List Diagnostic}
    (compiled : Compiled options declarations names library diagnostics) {id : ClassId} {i j : Nat}
    {method method' : Method} (different : i ≠ j) (own : (library.methodsOf id)[i]? = some method)
    (own' : (library.methodsOf id)[j]? = some method')
    (same : method.signature = method'.signature) : library.AreMerged id i j := by
  cases found : library.specialization? id with
  | none => exact absurd same (signature_ne compiled found different own own')
  | some specialization =>
    obtain ⟨plain, substitution, methods⟩ := exists_substituted_methods compiled found
    obtain ⟨base, ownBase, substituted⟩ := Related.exists_getElem? methods own
    obtain ⟨base', ownBase', substituted'⟩ := Related.exists_getElem? methods own'
    -- the signatures are the same, so the formal parameters are written alike
    obtain ⟨signature, listable⟩ := signature_eq compiled (List.mem_of_getElem? own)
    obtain ⟨signature', listable'⟩ := signature_eq compiled (List.mem_of_getElem? own')
    rw [signature, signature'] at same
    obtain ⟨identifier, alike⟩ := methodSignature_inj listable listable' same
    have kept : method.identifier = base.identifier := by rw [substituted.rest]
    have kept' : method'.identifier = base'.identifier := by rw [substituted'.rest]
    exact {
      specialized := by rw [found, Option.isSome_some]
      base :=
        ⟨base, base', ownBase, ownBase', signature_ne compiled plain different ownBase ownBase',
        by rw [← kept, ← kept', identifier],
        forall₂_mayMerge compiled.coherent
          (isNormal_formal compiled (List.mem_of_getElem? ownBase))
          (isNormal_formal compiled (List.mem_of_getElem? ownBase')) substituted.formals
          substituted'.formals alike⟩ }

/-! ## Marks -/

theorem AreMerged.marked {marks : ClassId → Nat → Bool} {before after : Library} {id : ClassId}
    {i j : Nat} (merged : before.AreMerged id i j) (marked : Marked marks before after) :
    after.AreMerged id i j where
  specialized := by
    rw [marked.specialization?]
    exact merged.specialized
  base := by
    obtain ⟨method, method', own, own', different, identifier, formals⟩ := merged.base
    rw [marked.baseOf, marked.methodsOf]
    refine ⟨method.mark (marks (before.baseOf id) i), method'.mark (marks (before.baseOf id) j),
      ?_, ?_, different, identifier, ?_⟩
    · rw [List.getElem?_mapIdx, own, Option.map_some]
    · rw [List.getElem?_mapIdx, own', Option.map_some]
    · refine formals.imp fun formal formal' merge => ⟨?_, merge.isVariadic⟩
      rw [marked.signatureOf, marked.isOpen]
      exact merge.type

/-! ## Calls -/

/-- Of the entries of a key the first one is kept. -/
theorem find?_firstByKey {α β : Type} [BEq β] [LawfulBEq β] (key : α → β) (entries : List α)
    (k : β) : (firstByKey key entries).find? (key · == k) = entries.find? (key · == k) := by
  have folded (kept : List α) : (entries.foldl (fun kept entry =>
      if kept.any (key · == key entry) then kept else kept ++ [entry]) kept).find? (key · == k)
        = (kept ++ entries).find? (key · == k) := by
    induction entries generalizing kept with
    | nil => simp
    | cons entry entries ih =>
      rw [List.foldl_cons]
      split
      · next listed =>
        -- the entry is left out, and one of its key stands before it
        obtain ⟨earlier, mem, same⟩ := List.any_eq_true.1 listed
        rw [ih, List.find?_append, List.find?_append, List.find?_cons]
        cases fits : key entry == k with
        | false => rfl
        | true =>
          have isSome : (kept.find? (key · == k)).isSome = true := by
            rw [List.find?_isSome]
            exact ⟨earlier, mem, by rw [eq_of_beq same, fits]⟩
          obtain ⟨first, found⟩ := Option.isSome_iff_exists.1 isSome
          rw [found, Option.some_or, Option.some_or]
      · rw [ih, List.append_assoc]
        rfl
  exact folded []

/-- The first own method of a signature is the one that is visible. -/
theorem effectiveMethod?_own {id : ClassId} {signature : String} {method : Method}
    (found : (library.methodsOf id).find? (·.signature == signature) = some method) :
    library.effectiveMethod? id signature = some (id, method) := by
  obtain ⟨rest, order, _⟩ := library.exists_lookupOrder_eq id
  rw [methodsOf] at found
  rw [effectiveMethod?, effectiveMethods, find?_firstByKey, declaredMethods, order,
    List.flatMap_cons, List.find?_append]
  cases known : library.classLike? id with
  | none => simp [known] at found
  | some classLike =>
    rw [known] at found
    have own : (classLike.methods.map (id, ·)).find? (·.2.signature == signature)
        = some (id, method) := by
      rw [List.find?_map]
      exact Option.map_eq_some_iff.2 ⟨method, found, rfl⟩
    dsimp only
    rw [own, Option.some_or]

/-- Calling the signature on the class-like calls its own method. -/
structure Calls (library : Library) (id : ClassId) (signature : String) (method : Method) :
    Prop where
  visible : library.effectiveMethod? id signature = some (id, method)
  native {run : NativeFunction} : method.body? = some (.native run) → ∀ frame,
    library.invoke id signature frame
      = Invocation.returned <$> runNative run (library.frameFor id frame)
  expression {source : String} : method.body? = some (.expression source) → ∀ frame,
    library.invoke id signature frame = pure (.expression source)
  none : method.body? = .none → ∀ frame,
    library.invoke id signature frame = throw (.noBody signature)

theorem calls_of_visible {id : ClassId} {signature : String} {method : Method}
    (known : (library.classLike? id).isSome)
    (visible : library.effectiveMethod? id signature = some (id, method)) :
    library.Calls id signature method := by
  obtain ⟨classLike, known⟩ := Option.isSome_iff_exists.1 known
  refine ⟨visible, fun native frame => invoke_eq frame known visible native,
    fun expression frame => ?_, fun none frame => ?_⟩
  · rw [invoke, known, visible]
    simp [expression]
  · rw [invoke, known, visible]
    simp [none]

/-- How the own methods of a class-like are told apart. -/
structure TellsApart (library : Library) (id : ClassId) : Prop where
  declared : library.specialization? id = none →
    ((library.methodsOf id).map (·.signature)).Nodup
  merged {i j : Nat} {method method' : Method} : i ≠ j →
    (library.methodsOf id)[i]? = some method → (library.methodsOf id)[j]? = some method' →
      method.signature = method'.signature → library.AreMerged id i j
  /-- The first own method of its signature is called by it. -/
  calls {i : Nat} {method : Method} : (library.methodsOf id)[i]? = some method →
    (∀ j < i, ∀ earlier, (library.methodsOf id)[j]? = some earlier →
      earlier.signature ≠ method.signature) → library.Calls id method.signature method

theorem isSome_classLike?_of_own {id : ClassId} {i : Nat} {method : Method}
    (own : (library.methodsOf id)[i]? = some method) : (library.classLike? id).isSome = true := by
  rw [methodsOf] at own
  split at own
  · next known => simp [known]
  · simp at own

theorem tellsApart {options : Options} {declarations : List Declaration} {names : List String}
    {diagnostics : List Diagnostic} {marks : ClassId → Nat → Bool} {before after : Library}
    (compiled : Compiled options declarations names before diagnostics)
    (marked : Marked marks before after) (id : ClassId) : after.TellsApart id where
  declared plain := by
    rw [marked.specialization?] at plain
    rw [marked.map_methodsOf fun _ _ => rfl]
    exact nodup_signature compiled plain
  merged different own own' same := by
    obtain ⟨unmarked, before, rfl⟩ := marked.exists_unmarked own
    obtain ⟨unmarked', before', rfl⟩ := marked.exists_unmarked own'
    exact (areMerged compiled different before before' same).marked marked
  calls {i method} own first := by
    refine calls_of_visible (isSome_classLike?_of_own own) (effectiveMethod?_own ?_)
    obtain ⟨inside, same⟩ := List.getElem?_eq_some_iff.1 own
    refine List.find?_eq_some_iff_getElem.2 ⟨by simp, i, inside, same, fun j earlier => ?_⟩
    simpa using first j earlier _ (List.getElem?_eq_getElem (by omega))

end Library

/-- In every library that a compilation returns, no two own methods of a
class-like have the same signature, unless they are those of an instantiation
that generic parameters alone told apart. Each is called by its signature,
unless an earlier one has it. -/
theorem tellsApart_of_compile {declarations : List Declaration} {options : Options} {budget : Nat}
    {library : Library} (returned : (compile declarations options budget).result = .ok library)
    (id : ClassId) : library.TellsApart id := by
  obtain ⟨names, before, compiled, marked⟩ := exists_compiled returned
  exact Library.tellsApart compiled marked id

theorem tellsApart_shelves : ∃ library,
    (compile Declaration.shelves {} 2).result = .ok library ∧ library.TellsApart ⟨13⟩ := by
  obtain ⟨library, returned, _⟩ := exists_hasShelves
  exact ⟨library, returned, tellsApart_of_compile returned ⟨13⟩⟩

/-- The methods `put(T)` and `put(Integer)` of a generic class have the same
signature in its instantiation for `Integer`. -/
theorem exists_same_signature : ∃ library method method',
    (compile Declaration.shelves {} 2).result = .ok library
      ∧ (library.methodsOf ⟨13⟩)[0]? = some method ∧ (library.methodsOf ⟨13⟩)[1]? = some method'
      ∧ method.signature = method'.signature := by
  obtain ⟨library, returned, hasShelves⟩ := exists_hasShelves
  have own (i : Nat) : ((library.methodsOf ⟨13⟩)[i]?).map (·.signature)
      = ["put(Integer)", "put(Integer)"][i]? := by
    rw [← List.getElem?_map, hasShelves.ofInteger]
  obtain ⟨method, found, signature⟩ := Option.map_eq_some_iff.1 (own 0)
  obtain ⟨method', found', signature'⟩ := Option.map_eq_some_iff.1 (own 1)
  exact ⟨library, method, method', returned, found, found', signature.trans signature'.symm⟩

end ClassModel
