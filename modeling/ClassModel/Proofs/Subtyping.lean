import ClassModel.Proofs.Composition
import ClassModel.Proofs.Reach

/-!
# ClassModel.Proofs.Subtyping

Subtyping is transitive where nothing nests too deeply and the target mentions
no generic parameter (`isSubtype_trans_of_compile`). The one step that needs an
argument is the one from an instantiation to its base: what is above the base
is, with the arguments in place of the generic parameters, above the
instantiation as well (`Library.exists_isAbove_of_base`).
-/

namespace ClassModel

/-- The root class has no supertypes. -/
theorem supertypes_object {options : Options} {declarations : List Declaration}
    {names : List String} (nodup : (declaredNames declarations).Nodup)
    (sound : Registration.Sound (registrationsOf declarations)) :
    (contentOf options declarations names Standard.objectIdentifier).supertypes = [] := by
  have root := @Registration.object_members (scopeOf declarations) options _ nodup sound.first
  have kept := hierarchy_layOutAll names (membersOf options declarations).value
    Standard.objectIdentifier
  rw [NamedClass.supertypes, contentOf, kept.1, kept.2, membersOf, root.1, root.2]
  rfl

namespace Library

variable {library : Library} {scope : Scope} {options : Options} {content : String → NamedClass}

/-! ## Steps upwards -/

/-- The class-likes right above a class-like are those that its type tells by
names. -/
structure Ascends (library : Library) (scope : Scope) (options : Options)
    (content : String → NamedClass) : Prop where
  above {id : ClassId} {tree : TypeTree} : library.Denotes (.classLike id) tree →
    List.Forall₂ (fun id tree => library.Denotes (.classLike id) tree)
      (library.directSupertypes id) (scope.above content tree)
  wellFormed {id : ClassId} {name : String} {tree : TypeTree} : library.IsNamed id name →
    tree ∈ (content name).supertypes → tree.WellFormed scope options name

theorem Ascends.declared (ascends : library.Ascends scope options content) {id : ClassId}
    {name : String} (isNamed : library.IsNamed id name) :
    List.Forall₂ (fun id tree => library.Denotes (.classLike id) tree) (library.directSupertypes id)
      (content name).supertypes :=
  ascends.above isNamed.denotes

/-- The supertypes of a declared class-like are types in its signatures. -/
theorem Realizes.wellFormed (realizes : library.Realizes scope options content) {id : ClassId}
    {name : String} (isNamed : library.IsNamed id name) {tree : TypeTree}
    (mem : tree ∈ (content name).supertypes) : tree.WellFormed scope options name := by
  obtain ⟨classLike, _, spells⟩ := realizes id name isNamed
  obtain ⟨_, _, means⟩ := Related.exists_of_mem spells.supertypes mem
  exact means.wellFormed

theorem Coherent.exists_isNamed (coherent : library.Coherent scope options) {id : ClassId}
    {name : String} {trees : List TypeTree}
    (isInstance : library.IsInstance id (.applied name trees 0)) :
    ∃ base, library.IsNamed base name := by
  obtain ⟨_, _, _, base, _, _, rfl, _, instantiates⟩ := coherent.of_denotes_applied isInstance.1
  exact ⟨_, base, instantiates.declared, rfl⟩

/-- If nothing nests too deeply, the supertypes of an instantiation are those of
its base, with its arguments in place of the generic parameters. -/
theorem Coherent.ascends (coherent : library.Coherent scope options)
    (realizes : library.Realizes scope options content)
    (complete : ∀ id tree, library.IsInstance id tree →
      library.IsComplete scope options content id)
    (unlimited : ∀ tree, library.Has tree → Unlimited (scope.eventsOf options content tree)) :
    library.Ascends scope options content := by
  refine ⟨fun {id tree} denotes => ?_, fun isNamed => realizes.wellFormed isNamed⟩
  rcases denotes.classLike_cases with ⟨name, rfl, isNamed⟩ | ⟨name, trees, rfl, isInstance⟩
  · obtain ⟨classLike, known, spells⟩ := realizes id name isNamed
    obtain ⟨_, declared, _⟩ := isNamed
    cases known.symm.trans declared.1
    have own : library.directSupertypes id = classLike.kind.supertypes := by
      simp [directSupertypes, hierarchyKind?, declared.1, declared.2]
    rw [own, Scope.above]
    exact spells.supertypes.imp fun _ _ means => means.denotes
  · have filledIn := (complete id _ isInstance).filledIn isInstance
    obtain ⟨specialization, found, isMaterialized⟩ := filledIn.isMaterialized
    obtain ⟨context, _, _, _, classLike, known, spells⟩ := filledIn.spells
    have own : library.directSupertypes id = classLike.kind.supertypes := by
      rw [specialization?, known, Option.bind_some] at found
      simp [directSupertypes, hierarchyKind?, known, found, isMaterialized]
    have unlimited := unlimited _ ⟨id, isInstance⟩
    rw [Scope.eventsOf, Scope.instanceOf, NamedClass.events_substitute] at unlimited
    have substituted : (scope.instanceOf options content name trees).value.supertypes
        = scope.above content (.applied name trees 0) := by
      rw [Scope.instanceOf, NamedClass.supertypes_substitute, Scope.above]
      refine List.map_congr_left fun tree mem => ?_
      obtain ⟨base, isNamed⟩ := coherent.exists_isNamed isInstance
      refine TypeTree.value_substitute (realizes.wellFormed isNamed mem) (unlimited.of_mem ?_)
      simp only [NamedClass.types, List.mem_append]
      exact .inl (.inl (List.mem_append.1 mem))
    rw [own, ← substituted]
    exact spells.supertypes.imp fun _ _ means => means.denotes

/-- Marks on methods leave the steps upwards as they are. -/
theorem Marked.ascends {marks : ClassId → Nat → Bool} {before after : Library}
    (h : Marked marks before after) (coherent : before.Coherent scope options)
    (ascends : before.Ascends scope options content) : after.Ascends scope options content := by
  refine ⟨fun {id tree} denotes => ?_,
    fun isNamed => ascends.wellFormed (h.revises.isNamed_iff.1 isNamed)⟩
  have earlier : before.Denotes (.classLike id) tree := by
    rcases denotes.classLike_cases with ⟨name, rfl, isNamed⟩ | ⟨name, trees, rfl, isInstance⟩
    · exact (h.revises.isNamed_iff.1 isNamed).denotes
    · exact ((h.revises.isInstance_iff coherent).1 isInstance).1
  rw [h.directSupertypes]
  exact (ascends.above earlier).imp fun _ _ => h.revises.denotes

/-! ## From an instantiation to its base -/

section Base

variable {id base : ClassId} {name : String} {trees : List TypeTree}

/-- What takes the place of a class-like that is above the base: it is the same,
or the arguments are in place of the generic parameters. -/
def Follows (library : Library) (arguments : List (String × TypeTree)) (above above' : ClassId) :
    Prop :=
  above' = above ∨ ∃ tree, library.Denotes (.classLike above) tree
    ∧ library.Denotes (.classLike above') (tree.subst arguments)

/-- One step upwards is followed. -/
theorem Follows.step (coherent : library.Coherent scope options)
    (ascends : library.Ascends scope options content)
    {arguments : List (String × TypeTree)} {above above' next : ClassId}
    (follows : library.Follows arguments above above')
    (mem : next ∈ library.directSupertypes above) :
    ∃ next' ∈ library.directSupertypes above', library.Follows arguments next next' := by
  rcases follows with rfl | ⟨tree, denotes, denotes'⟩
  · exact ⟨next, mem, .inl rfl⟩
  rcases denotes.classLike_cases with ⟨name, rfl, _⟩ | ⟨name, trees, rfl, isInstance⟩
  · rw [TypeTree.subst] at denotes'
    cases coherent.denotes_inj denotes denotes'
    exact ⟨next, mem, .inl rfl⟩
  · obtain ⟨context, _, _, wf⟩ := coherent.isType isInstance
    obtain ⟨base, isNamed⟩ := coherent.exists_isNamed isInstance
    have steps' := ascends.above denotes'
    rw [Scope.above_subst wf fun _ => ascends.wellFormed isNamed] at steps'
    obtain ⟨tree, memTree, denotes⟩ := Related.exists_of_mem (ascends.above denotes).flip mem
    obtain ⟨next', mem', denotes'⟩ := Related.exists_of_mem steps' (List.mem_map_of_mem memTree)
    exact ⟨next', mem', .inr ⟨tree, denotes, denotes'⟩⟩

/-- What is above the base is above the instantiation, with the arguments in
place of the generic parameters. -/
theorem exists_isAbove_of_base (coherent : library.Coherent scope options)
    (ascends : library.Ascends scope options content)
    (isInstance : library.IsInstance id (.applied name trees 0))
    (isNamed : library.IsNamed base name) {above : ClassId} (isAbove : library.IsAbove base above) :
    above = base ∨ ∃ above', library.IsAbove id above'
      ∧ library.Follows ((scope.parametersOf name).zip trees) above above' := by
  induction isAbove with
  | refl => exact .inl rfl
  | @tail middle last _ mem ih =>
    refine .inr ?_
    rcases ih with rfl | ⟨middle', isAbove, follows⟩
    · have steps' := ascends.above isInstance.1
      obtain ⟨tree, memTree, denotes⟩ := Related.exists_of_mem (ascends.declared isNamed).flip mem
      obtain ⟨last', mem', denotes'⟩ := Related.exists_of_mem steps' (List.mem_map_of_mem memTree)
      exact ⟨last', .single mem', .inr ⟨tree, denotes, denotes'⟩⟩
    · obtain ⟨last', mem', follows⟩ := follows.step coherent ascends mem
      exact ⟨last', isAbove.tail mem', follows⟩

end Base

/-! ## Transitivity -/

/-- A class-like that is a target, or whose base is one. -/
theorem Follows.isTarget (coherent : library.Coherent scope options)
    {arguments : List (String × TypeTree)} {above above' target : ClassId}
    (follows : library.Follows arguments above above')
    (closed : library.isOpen (.classLike target) = false)
    (isTarget : above = target ∨ library.baseOf above = target) :
    above' = target ∨ library.baseOf above' = target := by
  rcases follows with rfl | ⟨tree, denotes, denotes'⟩
  · exact isTarget
  rcases isTarget with rfl | rfl
  · -- a closed type stays as it is
    have noOwner : tree.owners = [] := by
      simpa [coherent.isOpen_eq denotes] using closed
    rw [TypeTree.subst_of_closed noOwner] at denotes'
    cases coherent.denotes_inj denotes denotes'
    exact .inl rfl
  · rcases denotes.classLike_cases with ⟨name, rfl, _⟩ | ⟨name, trees, rfl, isInstance⟩
    · rw [TypeTree.subst] at denotes'
      cases coherent.denotes_inj denotes denotes'
      exact .inr rfl
    · -- the substituted type is an instantiation of the same base
      have base {id : ClassId} {trees : List TypeTree}
          (denotes : library.Denotes (.classLike id) (.applied name trees 0)) :
          library.IsNamed (library.baseOf id) name := by
        obtain ⟨_, className, isNamed⟩ := Refines.exists_className? coherent denotes
        cases className
        exact isNamed
      rw [TypeTree.subst] at denotes'
      exact .inr (coherent.isNamed_inj (base denotes') (base denotes))

/-- What is below something that is there is there itself. -/
theorem isSome_of_isSubtype {source target : ClassId}
    (isSubtype : library.isSubtype source target = true)
    (known : (library.classLike? target).isSome) : (library.classLike? source).isSome := by
  rcases library.isSubtype_iff.1 isSubtype with ⟨_, known⟩ | ⟨_, above, isAbove, isTarget⟩
  · exact known
  cases found : library.classLike? source with
  | some classLike => rfl
  | none =>
    -- nothing else is above what is not there
    obtain rfl := eq_of_isAbove (by simp [directSupertypes, hierarchyKind?, found]) isAbove
    have base : library.baseOf above = above := by simp [baseOf, specialization?, found]
    rw [base, or_self] at isTarget
    simp [← isTarget, found] at known

/-- Subtyping is transitive, if its target mentions no generic parameter. -/
theorem Coherent.isSubtype_trans (coherent : library.Coherent scope options)
    (ascends : library.Ascends scope options content)
    (object : (content Standard.objectIdentifier).supertypes = []) {first second third : ClassId}
    (closed : library.isOpen (.classLike third) = false)
    (below : library.isSubtype first second = true)
    (below' : library.isSubtype second third = true) : library.isSubtype first third = true := by
  rw [isSubtype_iff]
  rcases library.isSubtype_iff.1 below'
    with ⟨isObject, known⟩ | ⟨notObject, above', isAbove', target'⟩
  · exact .inl ⟨isObject, isSome_of_isSubtype below known⟩
  refine .inr ⟨notObject, ?_⟩
  rcases library.isSubtype_iff.1 below with ⟨isObject, _⟩ | ⟨_, above, isAbove, target⟩
  · obtain ⟨objectClass, declared, same⟩ :=
      coherent.byIdentifier?_eq_some_iff.1 (beq_iff_eq.1 isObject)
    -- nothing else is above the root class
    have steps := ascends.declared ⟨objectClass, declared, same⟩
    rw [object] at steps
    rw [eq_of_isAbove (List.forall₂_nil_right_iff.1 steps) isAbove',
      baseOf_of_isDeclared declared, or_self] at target'
    rw [← target', isObject] at notObject
    cases notObject
  rcases target with rfl | rfl
  · exact ⟨above', isAbove.trans isAbove', target'⟩
  cases found : library.specialization? above with
  | none =>
    rw [baseOf, found] at isAbove'
    exact ⟨above', isAbove.trans isAbove', target'⟩
  | some specialization =>
    obtain ⟨classLike, known, specialized⟩ := specialization?_eq_some found
    obtain ⟨baseClass, trees, instantiates⟩ := coherent.instantiates known specialized
    have base : library.baseOf above = specialization.base := by rw [baseOf, found]
    rw [base] at isAbove'
    have isNamed : library.IsNamed specialization.base baseClass.identifier :=
      ⟨baseClass, instantiates.declared, rfl⟩
    rcases exists_isAbove_of_base coherent ascends
      (instantiates.isInstance known specialized) isNamed isAbove'
        with rfl | ⟨last, isAbove'', follows⟩
    · rw [baseOf_of_isDeclared instantiates.declared, or_self] at target'
      exact ⟨above, isAbove, .inr (base.trans target')⟩
    · exact ⟨last, isAbove.trans isAbove'', follows.isTarget coherent closed target'⟩

/-- An instantiation is below its base. -/
theorem isSubtype_baseOf {id : ClassId} (known : (library.classLike? id).isSome) :
    library.isSubtype id (library.baseOf id) = true := by
  rw [isSubtype_iff]
  cases isObject : library.isObject (library.baseOf id) with
  | true => exact .inl ⟨rfl, known⟩
  | false => exact .inr ⟨rfl, id, .refl, .inr rfl⟩

end Library

/-- Where no diagnostic says so, no instantiation gave way to its base. -/
theorem Compiled.unlimited {options : Options} {declarations : List Declaration}
    {names : List String} {library : Library} {diagnostics : List Diagnostic}
    (compiled : Compiled options declarations names library diagnostics)
    (shallow : ∀ diagnostic ∈ diagnostics, ∀ signature maximum,
      diagnostic ≠ .depthExceeded signature maximum) {tree : TypeTree} (has : library.Has tree) :
    Unlimited
      ((scopeOf declarations).eventsOf options (contentOf options declarations names) tree) := by
  obtain ⟨trees, mem_iff, told⟩ := compiled.exists_told
  have all : Unlimited (eventsOf options declarations names trees) := by
    rintro named mem ⟨signature, maximum, same⟩
    obtain ⟨diagnostic, mem, bare⟩ := told named mem
    rw [same] at bare
    cases diagnostic <;> cases bare
    exact shallow _ mem _ _ rfl
  exact all.append.2.of_mem ((mem_iff tree).2 has)

/-- In every library that a compilation returns without a report that some
instantiation nests too deeply, subtyping is transitive if the target mentions
no generic parameter. So an instantiation is below every such class-like that
its base is below. -/
theorem isSubtype_trans_of_compile {declarations : List Declaration} {options : Options}
    {budget : Nat} {library : Library}
    (returned : (compile declarations options budget).result = .ok library)
    (shallow : ∀ diagnostic ∈ (compile declarations options budget).diagnostics,
      ∀ signature maximum, diagnostic ≠ .depthExceeded signature maximum)
    {first second third : ClassId} (closed : library.isOpen (.classLike third) = false) :
    (library.isSubtype first second = true → library.isSubtype second third = true →
        library.isSubtype first third = true)
      ∧ (library.isSubtype (library.baseOf first) third = true →
        library.isSubtype first third = true) := by
  obtain ⟨names, before, compiled, marked⟩ := exists_compiled returned
  have object := @supertypes_object options _ names
    (nodup_declaredNames _) (sound_prelude declarations)
  have ascends := compiled.coherent.ascends compiled.realizes (fun _ _ => compiled.complete)
    fun _ => compiled.unlimited shallow
  have trans {first second : ClassId} (below : library.isSubtype first second = true)
      (below' : library.isSubtype second third = true) : library.isSubtype first third = true :=
    (marked.revises.coherent compiled.coherent).isSubtype_trans
      (marked.ascends compiled.coherent ascends) object closed below below'
  refine ⟨trans, fun below => ?_⟩
  cases found : library.classLike? first with
  | some classLike =>
    exact trans (Library.isSubtype_baseOf (by rw [found, Option.isSome_some])) below
  | none => rwa [Library.baseOf, Library.specialization?, found, Option.bind_none] at below

theorem isSubtype_trans_sample : ∃ library,
    (compile Declaration.sample {} 6).result = .ok library
      ∧ (∀ diagnostic ∈ (compile Declaration.sample {} 6).diagnostics,
        ∀ signature maximum, diagnostic ≠ .depthExceeded signature maximum)
      ∧ library.isOpen (.classLike ⟨13⟩) = false
      ∧ library.isSubtype ⟨11⟩ ⟨8⟩ = true ∧ library.isSubtype ⟨8⟩ ⟨13⟩ = true
      ∧ library.isSubtype ⟨11⟩ ⟨13⟩ = true := by
  obtain ⟨library, returned, silent, isSample⟩ := exists_isSample
  have shallow : ∀ diagnostic ∈ (compile Declaration.sample {} 6).diagnostics,
      ∀ signature maximum, diagnostic ≠ .depthExceeded signature maximum := by
    simp [silent]
  exact ⟨library, returned, shallow, isSample.closed, isSample.below.1, isSample.below.2,
    (isSubtype_trans_of_compile returned shallow isSample.closed).1 isSample.below.1
      isSample.below.2⟩

end ClassModel
