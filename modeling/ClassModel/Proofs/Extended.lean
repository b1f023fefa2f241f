import ClassModel.Proofs.Correspondence
import ClassModel.Proofs.Embedding
import ClassModel.Proofs.Further

/-!
# ClassModel.Proofs.Extended

Further declarations leave what is declared as it is
(`extended_of_append`). Where every name refers to something, declarations are
compiled to the same class-likes under the same identifiers whatever is declared
after them. The instantiations get other identifiers, and more methods may be
marked as virtual.
-/

namespace ClassModel

/-- The method is the other one under different identifiers, which may be
marked as virtual besides. -/
structure Method.KeptAs (renumbering : Renumbering) (method method' : Method) : Prop where
  isVirtual : method.isVirtual = true → method'.isVirtual = true
  rest : method' = { renumbering.method method with isVirtual := method'.isVirtual }

/-- The class-like is the other one under different identifiers, up to marks on
methods. Its cache is left out. -/
structure ClassLike.KeptAs (renumbering : Renumbering) (classLike classLike' : ClassLike) :
    Prop where
  methods : List.Forall₂ (Method.KeptAs renumbering) classLike.methods classLike'.methods
  rest : classLike' = { renumbering.classLike classLike with
    methods := classLike'.methods
    localCache := classLike'.localCache }

/-- The library is the former part of the other one. What is declared and its
generic parameters have the same identifiers there, the instantiations have
those of the renumbering. -/
structure Library.Extended (renumbering : Renumbering) (before after : Library) : Prop where
  types : before.types <+: after.types
  declared {id : ClassId} : id ∈ before.types → renumbering.classLikes id = id
  parameters {id : ParameterId} : (before.parameter? id).isSome → renumbering.parameters id = id
  classLike? {id : ClassId} {classLike : ClassLike} : before.classLike? id = some classLike →
    ∃ classLike', after.classLike? (renumbering.classLikes id) = some classLike'
      ∧ classLike.KeptAs renumbering classLike'
  parameter? {id : ParameterId} {found : GenericParameter} : before.parameter? id = some found →
    after.parameter? id = some (renumbering.parameter found)
  /-- Nothing else is cached in what is declared. -/
  localCache {id : ClassId} {classLike classLike' : ClassLike} : id ∈ before.types →
    before.classLike? id = some classLike → after.classLike? id = some classLike' →
      (renumbering.cache classLike.localCache).Perm classLike'.localCache
  typeCache : renumbering.cache before.typeCache ⊆ after.typeCache

/-! ## Marks -/

section Marks

variable {renumbering : Renumbering}

theorem Method.KeptAs.mark {method method' : Method} (kept : method.KeptAs renumbering method')
    {isMarked isMarked' : Bool} (step : isMarked = true → isMarked' = true) :
    (method.mark isMarked).KeptAs renumbering (method'.mark isMarked') := by
  obtain ⟨isVirtual, rest⟩ := kept
  constructor
  · simp only [Method.mark, Bool.or_eq_true]
    exact Or.imp isVirtual step
  · rw [rest]
    rfl

theorem ClassLike.KeptAs.mark {classLike classLike' : ClassLike}
    (kept : classLike.KeptAs renumbering classLike') {marks marks' : Nat → Bool}
    (step : ∀ index, marks index = true → marks' index = true) :
    (classLike.mark marks).KeptAs renumbering (classLike'.mark marks') := by
  obtain ⟨methods, rest⟩ := kept
  constructor
  · exact Related.mapIdx methods fun index _ _ _ kept => kept.mark (step index)
  · rw [rest]
    rfl

/-- Marks that include the former ones leave the library the former part. -/
theorem Library.Extended.marked {marks marks' : ClassId → Nat → Bool}
    {before after marked marked' : Library} (extended : before.Extended renumbering after)
    (h : Library.Marked marks before marked) (h' : Library.Marked marks' after marked')
    (step : ∀ id index, marks id index = true → marks' (renumbering.classLikes id) index = true) :
    marked.Extended renumbering marked' where
  types := by
    rw [h.types, h'.types]
    exact extended.types
  declared mem := extended.declared (h.types ▸ mem)
  parameters known := by
    rw [Library.parameter?, h.parameters] at known
    exact extended.parameters known
  classLike? {id classLike} known := by
    rw [h.classLike?] at known
    obtain ⟨unmarked, found, rfl⟩ := Option.map_eq_some_iff.1 known
    obtain ⟨classLike', found', kept⟩ := extended.classLike? found
    refine ⟨_, ?_, kept.mark (step id)⟩
    rw [h'.classLike?, found']
    rfl
  parameter? known := by
    rw [Library.parameter?, h.parameters] at known
    rw [Library.parameter?, h'.parameters]
    exact extended.parameter? known
  localCache {id classLike classLike'} mem known known' := by
    rw [h.types] at mem
    rw [h.classLike?] at known
    rw [h'.classLike?] at known'
    obtain ⟨unmarked, found, rfl⟩ := Option.map_eq_some_iff.1 known
    obtain ⟨unmarked', found', rfl⟩ := Option.map_eq_some_iff.1 known'
    have cache := extended.localCache mem found found'
    exact cache
  typeCache := by
    rw [h.typeCache, h'.typeCache]
    exact extended.typeCache

end Marks

/-! ## Identifiers -/

/-- Where identifiers are handed out in order, those that come first are the same. -/
theorem Id.eq_of_map_range {label : String} {f : Id label → Id label} {count count' : Nat}
    (first : ((List.range count).map Id.mk).map f <+: (List.range count').map Id.mk)
    {id : Id label} (mem : id ∈ (List.range count).map Id.mk) : f id = id := by
  obtain ⟨index, inside, rfl⟩ := List.mem_map.1 mem
  obtain ⟨rest, split⟩ := first
  rw [List.mem_range] at inside
  have here := congrArg (·[index]?) split
  simp only [List.map_map, List.getElem?_append, List.length_map, List.length_range, inside,
    if_true, List.getElem?_map, List.getElem?_range, Option.map_some, Function.comp_apply] at here
  obtain ⟨other, listed, same⟩ := Option.map_eq_some_iff.1 here.symm
  obtain ⟨_, rfl⟩ := List.getElem?_eq_some_iff.1 listed
  rw [← same, List.getElem_range]

namespace Library

variable {before after : Library} {scope scope' : Scope} {options : Options}
  {renumbering : Renumbering} {names names' : List String}

section Numbered

variable (corresponds : before.Corresponds renumbering after)
  (coherent' : after.Coherent scope' options) (numbered : before.Numbered names)
  (numbered' : after.Numbered names') (first : names <+: names')

include corresponds coherent' numbered numbered' first

/-- What is declared first is listed first. -/
theorem types_first : before.types.map renumbering.classLikes <+: after.types := by
  obtain ⟨rest, rfl⟩ := first
  have listed : List.Forall₂ after.IsNamed (before.types.map renumbering.classLikes) names := by
    rw [List.forall₂_map_left_iff]
    exact numbered.named.imp fun _ _ => corresponds.isNamed
  have taken : List.Forall₂ after.IsNamed (after.types.take names.length) names :=
    List.forall₂_take_append _ _ _ numbered'.named
  rw [Related.unique listed.flip taken.flip fun _ _ _ _ => coherent'.isNamed_inj]
  exact List.take_prefix _ _

/-- What is declared first keeps its identifier. -/
theorem classLikes_eq {id : ClassId} (mem : id ∈ before.types) :
    renumbering.classLikes id = id := by
  have first := types_first corresponds coherent' numbered numbered' first
  obtain ⟨count, types⟩ := numbered.types
  obtain ⟨count', types'⟩ := numbered'.types
  rw [types, types'] at first
  exact Id.eq_of_map_range first (types ▸ mem)

theorem types_isFirst : before.types <+: after.types := by
  have same : before.types.map renumbering.classLikes = before.types :=
    (List.map_congr_left fun _ mem =>
      classLikes_eq corresponds coherent' numbered numbered' first mem).trans (List.map_id' _)
  rw [← same]
  exact types_first corresponds coherent' numbered numbered' first

/-- The generic parameters of what is declared first keep their identifiers. -/
theorem parameters_eq (coherent : before.Coherent scope options) {id : ParameterId}
    (known : (before.parameter? id).isSome) : renumbering.parameters id = id := by
  have listed : (before.types.flatMap before.parametersOf).map renumbering.parameters
      = before.types.flatMap after.parametersOf := by
    rw [List.map_flatMap]
    refine List.flatMap_congr fun id mem => ?_
    obtain ⟨name, _, isNamed⟩ := Related.exists_of_mem numbered.named.flip mem
    rw [← corresponds.parametersOf isNamed,
      classLikes_eq corresponds coherent' numbered numbered' first mem]
  obtain ⟨rest, types⟩ := types_isFirst corresponds coherent' numbered numbered' first
  obtain ⟨count, parameters⟩ := numbered.parameters
  obtain ⟨count', parameters'⟩ := numbered'.parameters
  rw [← types, List.flatMap_append, ← listed, parameters] at parameters'
  obtain ⟨found, known⟩ := Option.isSome_iff_exists.1 known
  obtain ⟨classLike, declared, mem⟩ := coherent.owner_mem known
  refine Id.eq_of_map_range ⟨_, parameters'⟩ (parameters ▸ List.mem_flatMap.2
    ⟨found.owner, coherent.mem_types.2 ⟨classLike, declared⟩, ?_⟩)
  rwa [parametersOf, declared.1, Option.map_some, Option.getD_some]

end Numbered

/-! ## Contents -/

/-- A library whose class-likes spell what their correspondents spell is part of
the other one. -/
theorem Corresponds.embeds (corresponds : before.Corresponds renumbering after)
    (coherent : before.Coherent scope options) (coherent' : after.Coherent scope' options)
    (alike : ∀ id classLike, before.classLike? id = some classLike →
      ∃ classLike', before.SpellAlike after scope scope' options id (renumbering.classLikes id)
        classLike classLike') : before.Embeds renumbering after where
  classLike? known := by
    obtain ⟨classLike', alike⟩ := alike _ _ known
    exact ⟨_, by rw [alike.known', ← corresponds.classLike_renumbered coherent coherent' alike]⟩
  parameter? known := by
    obtain ⟨classLike, declared, mem⟩ := coherent.owner_mem known
    obtain ⟨classLike', alike⟩ := alike _ _ declared.1
    rw [corresponds.parameter?_eq coherent coherent' alike mem, known, Option.map_some]
  types mem := by
    obtain ⟨classLike, declared⟩ := coherent.mem_types.1 mem
    obtain ⟨classLike', declared', _⟩ := corresponds.isNamed ⟨classLike, declared, rfl⟩
    exact coherent'.mem_types.2 ⟨classLike', declared'⟩
  byIdentifier? found := coherent'.byIdentifier?_eq_some_iff.2
    (corresponds.isNamed (coherent.byIdentifier?_eq_some_iff.1 found))
  object := by
    rw [Option.isSome_iff_ne_none]
    intro unknown
    have none := coherent.byIdentifier?_eq_none_iff.1 unknown
    rw [coherent.object] at none
    cases none

/-- What is part of a library is kept there without further marks. -/
theorem Embeds.exists_keptAs (embeds : before.Embeds renumbering after) {id : ClassId}
    {classLike : ClassLike} (known : before.classLike? id = some classLike) :
    ∃ classLike', after.classLike? (renumbering.classLikes id) = some classLike'
      ∧ classLike.KeptAs renumbering classLike' := by
  obtain ⟨entries, known'⟩ := embeds.classLike? known
  refine ⟨_, known', ?_, rfl⟩
  show List.Forall₂ _ classLike.methods (classLike.methods.map renumbering.method)
  rw [List.forall₂_map_right_iff, List.forall₂_same]
  exact fun _ _ => ⟨fun isVirtual => isVirtual, rfl⟩

end Library

/-! ## Compiled libraries -/

section Compiled

variable {options : Options} {declarations declarations' : List Declaration}
  {names names' : List String} {before after : Library} {diagnostics diagnostics' : List Diagnostic}

/-- What is cached in a declared class-like mentions one of its generic
parameters, so that it was asked for before. -/
theorem Compiled.perm_localCache {renumbering : Renumbering}
    (compiled : Compiled options declarations names before diagnostics)
    (compiled' : Compiled options declarations' names' after diagnostics')
    (further : FurtherStages options declarations declarations' names names')
    (corresponds : before.Corresponds renumbering after) {id : ClassId}
    (known : (before.classLike? id).isSome) :
    (renumbering.cache (before.cacheOf (some id))).Perm
      (after.cacheOf (some (renumbering.classLikes id))) := by
  refine corresponds.perm_cacheOf compiled.coherent compiled'.coherent (by simpa using known)
    fun tree has hosts => ?_
  obtain ⟨name, owner, isNamed⟩ : ∃ name, tree.owners.head? = some name
      ∧ before.IsNamed id name := by
    unfold Library.Hosts at hosts
    generalize tree.owners.head? = owner? at hosts
    cases hosts with
    | some isNamed => exact ⟨_, rfl, isNamed⟩
  exact compiled.has.2 (further.requestedBy_of_owner compiled compiled' (compiled'.has.1 has)
    (List.mem_of_mem_head? owner) (compiled.covers.1 (compiled.mem_names isNamed)))

/-- Compiled declarations are a part of what is compiled if more is declared. -/
theorem Compiled.exists_extended
    (compiled : Compiled options declarations names before diagnostics)
    (compiled' : Compiled options declarations' names' after diagnostics')
    (further : FurtherStages options declarations declarations' names names') :
    ∃ renumbering, before.Corresponds renumbering after ∧ before.Embeds renumbering after
      ∧ before.Extended renumbering after := by
  have coherent := compiled.coherent
  have coherent' := compiled'.coherent
  obtain ⟨renumbering, corresponds⟩ := Library.exists_corresponds coherent coherent' further.isIn
    fun tree has => compiled'.has.2 (further.requestedBy compiled (compiled.has.1 has))
  have embeds := corresponds.embeds coherent coherent' fun id classLike known =>
    compiled.exists_spellAlike compiled' corresponds
      (fun id name isNamed =>
        (further.content_eq name (compiled.covers.1 (compiled.mem_names isNamed))).symm)
      (fun name trees has => by
        obtain ⟨context, wf⟩ := compiled.exists_wellFormed (compiled.has.1 has)
        rw [TypeTree.WellFormed] at wf
        obtain ⟨⟨shape, known, _⟩, _⟩ := wf
        rw [further.instanceOf_eq compiled (by rw [known]; rfl)])
      known
  have fixed {id : ClassId} (mem : id ∈ before.types) : renumbering.classLikes id = id :=
    Library.classLikes_eq corresponds coherent' compiled.numbered compiled'.numbered further.first
      mem
  have fixedParameter {id : ParameterId} (known : (before.parameter? id).isSome) :
      renumbering.parameters id = id :=
    Library.parameters_eq corresponds coherent' compiled.numbered compiled'.numbered further.first
      coherent known
  refine ⟨renumbering, corresponds, embeds, ?_⟩
  exact {
    types := Library.types_isFirst corresponds coherent' compiled.numbered compiled'.numbered
      further.first
    declared := fixed
    parameters := fixedParameter
    classLike? := embeds.exists_keptAs
    parameter? := fun known => by
      have there := embeds.parameter? known
      rwa [fixedParameter (by rw [known]; rfl)] at there
    localCache := fun {id classLike classLike'} mem known known' => by
      have cache := compiled.perm_localCache compiled' further corresponds (by rw [known]; rfl)
      rw [fixed mem] at cache
      simpa [Library.cacheOf, known, known'] using cache
    typeCache := by
      rintro ⟨key, id⟩ mem
      obtain ⟨⟨_, id⟩, cached, same⟩ := List.mem_map.1 mem
      cases same
      have cached' : (key, id) ∈ before.cacheOf none := cached
      exact corresponds.mem_cacheOf coherent coherent' cached' }

/-- Keys of class-likes are told by what the class-likes denote. -/
theorem Library.Marked.keyOf_eq {library : Library} {scope : Scope} {marks : ClassId → Nat → Bool}
    (h : Library.Marked marks before library) (coherent : before.Coherent scope options)
    {type : Ty} {tree : TypeTree} (denotes : before.Denotes type tree) :
    library.keyOf type = tree.key :=
  (h.revises.coherent coherent).keyOf_eq (h.revises.toGrows.denotes denotes)

/-- Names that refer to something are not reported. -/
theorem Compiled.familiar (compiled : Compiled options declarations names before diagnostics)
    (silent : ∀ signature identifier, .unknownType signature identifier ∉ diagnostics) :
    Familiar (preparation options declarations names) := by
  obtain ⟨trees, _, told⟩ := compiled.exists_told
  have all : Familiar (eventsOf options declarations names trees) := by
    rintro named mem ⟨signature, identifier, same⟩
    obtain ⟨diagnostic, mem, bare⟩ := told named mem
    rw [same] at bare
    cases diagnostic <;> cases bare
    exact silent _ _ mem
  exact all.append.1

end Compiled

/-- Where every name refers to something, further declarations leave the
compiled library as it is: the declared class-likes have the same identifiers
and, under other identifiers for the instantiations, the same contents and
caches, and a virtual method stays virtual. -/
theorem extended_of_append {declarations extra : List Declaration} {options : Options}
    {budget budget' : Nat} {library : Library} (lenient : options.strict = false)
    (returned : (compile declarations options budget).result = .ok library)
    (silent : ∀ signature identifier, .unknownType signature identifier
      ∉ (compile declarations options budget).diagnostics)
    (terminates :
      (compile (declarations ++ extra) options budget').result ≠ .error .budgetExhausted) :
    ∃ library' renumbering, (compile (declarations ++ extra) options budget').result = .ok library'
      ∧ library.Extended renumbering library'
      ∧ ∀ id, (library.classLike? id).isSome →
        library'.keyOf (.classLike (renumbering.classLikes id))
          = library.keyOf (.classLike id) := by
  have permitted (library : Library) (diagnostics : List Diagnostic) :
      Outcome.ofCompiled options library diagnostics = ⟨.ok library, diagnostics⟩ := by
    simp [Outcome.ofCompiled, lenient]
  have sound := sound_prelude declarations
  have cases := compile_cases declarations options budget
  have cases' := compile_cases (declarations ++ extra) options budget'
  rw [← List.append_assoc] at cases'
  revert cases cases' returned silent terminates
  generalize compile declarations options budget = outcome,
    compile (declarations ++ extra) options budget' = outcome'
  rintro returned silent terminates ⟨names, before, diagnostics, ⟨compiled, _, rfl⟩ | ⟨_, rfl⟩⟩
    ⟨names', after, diagnostics', ⟨compiled', _, rfl⟩ | ⟨_, rfl⟩⟩
  · rw [permitted] at returned silent ⊢
    cases returned
    have further := FurtherStages.of_append sound compiled.ordered compiled'.ordered
      (fun _ => compiled.covers) (fun _ => compiled'.covers) (compiled.familiar silent)
    obtain ⟨renumbering, corresponds, embeds, extended⟩ :=
      compiled.exists_extended compiled' further
    have marked := Library.marked_flagVirtual compiled.specialization?_base
    have marked' := Library.marked_flagVirtual compiled'.specialization?_base
    refine ⟨_, renumbering, rfl, extended.marked marked marked' fun _ _ => embeds.marks, ?_⟩
    intro id known
    rw [marked.classLike?, Option.isSome_map] at known
    obtain ⟨classLike, known⟩ := Option.isSome_iff_exists.1 known
    obtain ⟨tree, denotes⟩ := compiled.coherent.exists_denotes known
    rw [marked.keyOf_eq compiled.coherent denotes,
      marked'.keyOf_eq compiled'.coherent (corresponds.classLike denotes)]
  · exact absurd rfl terminates
  · cases returned
  · cases returned

theorem extended_sample : ∃ library library' renumbering,
    (compile (Declaration.sample.take 3) {} 3).result = .ok library
      ∧ (compile (Declaration.sample.take 3 ++ Declaration.sample.drop 3) {} 6).result
        = .ok library'
      ∧ library.Extended renumbering library'
      ∧ ∀ id, (library.classLike? id).isSome →
        library'.keyOf (.classLike (renumbering.classLikes id))
          = library.keyOf (.classLike id) := by
  obtain ⟨library, returned, silent, _⟩ := exists_of_check
    (compile (Declaration.sample.take 3) {} 3) (fun _ => true) (by decide +kernel)
  have terminates : (compile (Declaration.sample.take 3 ++ Declaration.sample.drop 3) {} 6).result
      ≠ .error .budgetExhausted := by
    obtain ⟨_, returned, _⟩ := exists_isSample
    rw [List.take_append_drop, returned]
    exact nofun
  obtain ⟨library', renumbering, returned', extended⟩ :=
    extended_of_append rfl returned (by simp [silent]) terminates
  exact ⟨library, library', renumbering, returned, returned', extended⟩

end ClassModel
