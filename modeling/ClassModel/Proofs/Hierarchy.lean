import ClassModel.Proofs.Segment
import ClassModel.Proofs.Stage

/-!
# ClassModel.Proofs.Hierarchy

Superclasses and their cycles. The declared class above a class is told by the
contents of the classes (`declaredSuperclass?_rel`), so whether a class is above
itself, that is on a cycle (`isAboveItself_iff_cycle`), does not depend on the
library (`isAboveItself_iff`). Cutting the cycles leaves none
(`not_isCyclic_cutAll`) and changes nothing where there is none (`cutAll_eq`), and
without cycles every class has a way up (`exists_declaredPath`).
-/

namespace ClassModel

open Walk

/-- The name of the class above the one of the name. -/
def superName (content : String → NamedClass) (name : String) : Option String :=
  (content name).superclass?.bind TypeTree.className?

namespace Library

variable {library : Library} {scope : Scope} {options : Options} {content : String → NamedClass}

/-! ## The length of walks -/

/-- The class-likes that have something above them are fewer than the bound on
walks. -/
theorem length_lt_walkBound (library : Library) :
    (library.classLikes.ids.filter fun id => !(library.directSupertypes id).isEmpty).length
      < library.walkBound := by
  have le (ids : List ClassId) :
      (ids.filter fun id => !(library.directSupertypes id).isEmpty).length
        ≤ (ids.flatMap library.directSupertypes).length := by
    induction ids with
    | nil => exact Nat.le_refl _
    | cons id ids ih =>
      rw [List.flatMap_cons, List.length_append]
      cases above : library.directSupertypes id with
      | nil => simpa [above] using ih
      | cons first others =>
        simp only [List.filter_cons, above, List.isEmpty_cons, Bool.not_false, if_true,
          List.length_cons]
        omega
  have := le library.classLikes.ids
  rw [walkBound]
  omega

theorem mem_ids_of_isSome_superclass? {id : ClassId}
    (above : (library.superclass? id).isSome) :
    id ∈ library.classLikes.ids.filter fun id => !(library.directSupertypes id).isEmpty := by
  obtain ⟨superclass, found⟩ := Option.isSome_iff_exists.1 above
  rw [superclass?, Option.bind_eq_some_iff] at found
  obtain ⟨kind, known, found⟩ := found
  rw [List.mem_filter, Arena.mem_ids, ← Arena.isSome_get?]
  constructor
  · cases found : library.classLikes.get? id with
    | some classLike => rfl
    | none => simp [hierarchyKind?, classLike?, found] at known
  · simp [directSupertypes, known, Kind.supertypes, found]

theorem length_le_walkBound {start? stop? : Option ClassId} {path : List ClassId}
    (segment : Segment library.superclass? stop? start? path) (nodup : path.Nodup) :
    path.length ≤ library.walkBound := by
  have := segment.length_le nodup fun _ => mem_ids_of_isSome_superclass?
  have := library.length_lt_walkBound
  omega

theorem length_declared_le_walkBound {start? stop? : Option ClassId} {path : List ClassId}
    (segment : Segment library.declaredSuperclass? stop? start? path) (nodup : path.Nodup) :
    path.length ≤ library.walkBound := by
  have := segment.length_le nodup fun id above => by
    rw [declaredSuperclass?, Option.isSome_map] at above
    exact mem_ids_of_isSome_superclass? above
  have := library.length_lt_walkBound
  omega

/-- The declared chain is the longest segment without repetition. -/
theorem declaredChain_eq {id : ClassId} {stop? : Option ClassId} {path : List ClassId}
    (segment : Segment library.declaredSuperclass? stop? (some id) path) (nodup : path.Nodup)
    (stops : ∀ node ∈ stop?, node ∈ path) : library.declaredChain id = path :=
  along_eq segment nodup (Nat.le_succ_of_le (length_declared_le_walkBound segment nodup)) stops

theorem isAboveItself_eq {id : ClassId} {stop? : Option ClassId} {path : List ClassId}
    (segment : Segment library.declaredSuperclass? stop? (some id) path) (nodup : path.Nodup)
    (stops : ∀ node ∈ stop?, node ∈ path) : library.isAboveItself id = (stop? == some id) := by
  have nonempty : path ≠ [] := by
    rintro rfl
    cases segment
    simp at stops
  rw [isAboveItself, declaredChain_eq segment nodup stops, segment.getLast?_bind nonempty]

/-- A class is above itself if it is on a cycle. -/
theorem isAboveItself_iff_cycle {id : ClassId} :
    library.isAboveItself id = true ↔ ∃ path, Cycle library.declaredSuperclass? id path := by
  constructor
  · intro above
    obtain ⟨path, stop?, segment, nodup, stops⟩ :=
      exists_segment fun path stop? => library.length_declared_le_walkBound
    rw [isAboveItself_eq segment nodup stops, beq_iff_eq] at above
    subst above
    cases segment with
    | nil => simp at stops
    | cons later => exact ⟨_, .cons later, nodup⟩
  · rintro ⟨path, segment, nodup⟩
    rw [isAboveItself_eq segment nodup (by simp), beq_self_eq_true]

/-! ## By names -/

theorem superclass?_of_isDeclared {id : ClassId} {classLike : ClassLike}
    (declared : library.IsDeclared id classLike) :
    library.superclass? id = classLike.kind.superclass? := by
  simp [superclass?, hierarchyKind?, declared.1, declared.2]

/-- The declared class above a declared class is the one that its contents
name. -/
theorem declaredSuperclass?_rel (coherent : library.Coherent scope options)
    (realizes : library.Realizes scope options content) {id : ClassId} {name : String}
    (isNamed : library.IsNamed id name) :
    Option.Rel library.IsNamed (library.declaredSuperclass? id) (superName content name) := by
  obtain ⟨classLike, known, spells⟩ := realizes id name isNamed
  obtain ⟨classLike', declared, _⟩ := isNamed
  cases known.symm.trans declared.1
  have related := spells.superclass?
  rw [declaredSuperclass?, superclass?_of_isDeclared declared, superName]
  generalize classLike.kind.superclass? = superclass?, (content name).superclass? = tree?
    at related
  cases related with
  | none => exact .none
  | some means =>
    obtain ⟨name, className, isNamed⟩ := Refines.exists_className? coherent means.denotes
    rw [Option.map_some, Option.bind_some, className]
    exact .some isNamed

end Library

/-- The classes above the one of the name lead back to it. -/
def IsCyclic (content : String → NamedClass) (name : String) : Prop :=
  ∃ path, Segment (superName content) (some name) (some name) (name :: path)
    ∧ (name :: path).Nodup

namespace Library

variable {library : Library} {scope : Scope} {options : Options} {content : String → NamedClass}

/-- Different identifiers have different names. -/
theorem Coherent.nodup_iff (coherent : library.Coherent scope options) {ids : List ClassId}
    {names : List String} (all : List.Forall₂ library.IsNamed ids names) :
    ids.Nodup ↔ names.Nodup := by
  induction all with
  | nil => simp
  | @cons id name ids names isNamed later ih =>
    have mem_iff : id ∈ ids ↔ name ∈ names := by
      constructor
      · intro mem
        obtain ⟨name', mem', isNamed'⟩ := Related.exists_of_mem (List.Forall₂.flip later) mem
        rwa [isNamed.name_inj isNamed']
      · intro mem
        obtain ⟨id', mem', isNamed'⟩ := Related.exists_of_mem later mem
        rwa [coherent.isNamed_inj isNamed isNamed']
    rw [List.nodup_cons, List.nodup_cons, mem_iff, ih]

/-- Whether a class is above itself is told by the contents. -/
theorem isAboveItself_iff (coherent : library.Coherent scope options)
    (realizes : library.Realizes scope options content) {id : ClassId} {name : String}
    (isNamed : library.IsNamed id name) :
    library.isAboveItself id = true ↔ IsCyclic content name := by
  rw [isAboveItself_iff_cycle]
  constructor
  · rintro ⟨path, segment, nodup⟩
    obtain ⟨stop?, names, loop, all, stop⟩ := segment.related (.some isNamed)
      fun id name isNamed => declaredSuperclass?_rel coherent realizes isNamed
    have nodup := (coherent.nodup_iff all).1 nodup
    cases stop with
    | some isNamed' =>
      obtain rfl := isNamed.name_inj isNamed'
      cases all with
      | cons _ _ => cases loop with
        | cons loop => exact ⟨_, .cons loop, nodup⟩
  · rintro ⟨path, loop, nodup⟩
    obtain ⟨stop?, ids, segment, all, stop⟩ :=
      loop.related (r := fun name id => library.IsNamed id name)
      (.some isNamed) fun name id isNamed =>
        Related.optional_flip (declaredSuperclass?_rel coherent realizes isNamed)
    have nodup := (coherent.nodup_iff (List.Forall₂.flip all)).2 nodup
    cases stop with
    | some isNamed' =>
      obtain rfl := coherent.isNamed_inj isNamed isNamed'
      cases all with
      | cons _ _ => cases segment with
        | cons later => exact ⟨_, .cons later, nodup⟩

end Library

/-! ## Cuts -/

/-- The class with nothing above it but the root class. -/
def NamedClass.cut (name : String) (named : NamedClass) : NamedClass :=
  { named with
    superclass? := if name = Standard.objectIdentifier then none else some .object }

open Classical in
/-- Cuts the cycle through the class of the name, if there is one. -/
noncomputable def cutCycle (name : String) (content : String → NamedClass) :
    Traced NamedClass :=
  if IsCyclic content name then do
    Traced.reportOf (.cyclicInheritance .placeholder) [.declared name 0]
    return (content name).cut name
  else return content name

/-- Cuts every cycle. -/
noncomputable def cutAll (names : List String) (content : String → NamedClass) :
    Traced (String → NamedClass) :=
  reviseAll id cutCycle names content

section Cut

variable {content : String → NamedClass} {name other : String} {names : List String}

theorem superName_update_cut (away : name ≠ Standard.objectIdentifier) :
    superName (Function.update content name ((content name).cut name)) other
      = if other = name then some Standard.objectIdentifier else superName content other := by
  by_cases same : other = name
  · subst same
    rw [superName, Function.update_self, NamedClass.cut, if_neg away, if_pos rfl]
    rfl
  · rw [superName, Function.update_of_ne same, if_neg same, superName]

theorem not_isCyclic_of_superName_eq_none (top : superName content name = none) :
    ¬ IsCyclic content name := by
  rintro ⟨path, cycle⟩
  have above := Cycle.isSome cycle
  rw [top] at above
  cases above

/-- A cut makes no cycle, and no cycle leads through the class that was cut. -/
theorem isCyclic_of_update_cut (root : superName content Standard.objectIdentifier = none)
    (away : name ≠ Standard.objectIdentifier)
    (cyclic : IsCyclic (Function.update content name ((content name).cut name)) other) :
    other ≠ name ∧ IsCyclic content other := by
  have redirects : Redirects (fun _ => True) (· = name) Standard.objectIdentifier
      (superName content) (superName (Function.update content name ((content name).cut name))) := {
    changed := by
      rintro _ rfl
      rw [superName_update_cut away, if_pos rfl]
    kept := fun _ other => by rw [superName_update_cut away, if_neg other]
    closed := fun _ _ => trivial
    inside_top := trivial
    ends := root
    top_kept := Ne.symm away }
  obtain ⟨path, cycle⟩ := cyclic
  obtain ⟨cycle, avoids⟩ := (redirects.cycle_iff trivial).1 cycle
  exact ⟨avoids other List.mem_cons_self, path, cycle⟩

theorem cutAll_cons : cutAll (name :: names) content = cutCycle name content >>= fun named =>
    cutAll names (Function.update content name named) :=
  reviseAll_cons name

/-- One step towards contents without cycles. -/
theorem cutCycle_step (root : superName content Standard.objectIdentifier = none)
    {next : String → NamedClass}
    (same : next = Function.update content name (cutCycle name content).value) :
    superName next Standard.objectIdentifier = none ∧ ¬ IsCyclic next name
      ∧ ∀ other, ¬ IsCyclic content other → ¬ IsCyclic next other := by
  subst same
  unfold cutCycle
  by_cases cyclic : IsCyclic content name
  · have away : name ≠ Standard.objectIdentifier := by
      rintro rfl
      exact not_isCyclic_of_superName_eq_none root cyclic
    rw [if_pos cyclic, Traced.value_bind, Traced.value_pure]
    refine ⟨?_, fun cyclic' => (isCyclic_of_update_cut root away cyclic').1 rfl,
      fun other straight cyclic' => straight (isCyclic_of_update_cut root away cyclic').2⟩
    rw [superName_update_cut away, if_neg (Ne.symm away), root]
  · rw [if_neg cyclic, Traced.value_pure, Function.update_eq_self]
    exact ⟨root, cyclic, fun _ => id⟩

/-- Cutting all cycles leaves none. -/
theorem not_isCyclic_cutAll (root : superName content Standard.objectIdentifier = none) :
    (∀ name ∈ names, ¬ IsCyclic (cutAll names content).value name)
      ∧ ∀ other, ¬ IsCyclic content other → ¬ IsCyclic (cutAll names content).value other := by
  induction names generalizing content with
  | nil => exact ⟨by simp, fun _ => id⟩
  | cons name names ih =>
    obtain ⟨root, straight, kept⟩ := @cutCycle_step content name root _ rfl
    obtain ⟨all, kept'⟩ := ih root
    rw [cutAll_cons, Traced.value_bind]
    refine ⟨fun other mem => ?_, fun other free => kept' other (kept other free)⟩
    rcases List.mem_cons.1 mem with rfl | mem
    · exact kept' other straight
    · exact all other mem

/-- A class-like that is on no cycle keeps its contents. -/
theorem value_cutAll (root : superName content Standard.objectIdentifier = none)
    (straight : ¬ IsCyclic content other) : (cutAll names content).value other = content other := by
  induction names generalizing content with
  | nil => rfl
  | cons name names ih =>
    obtain ⟨root', _, kept⟩ := @cutCycle_step content name root _ rfl
    rw [cutAll_cons, Traced.value_bind, ih root' (kept other straight)]
    by_cases same : other = name
    · subst same
      rw [Function.update_self, cutCycle, if_neg straight, Traced.value_pure]
    · rw [Function.update_of_ne same]

/-- Where there is no cycle, nothing is cut. -/
theorem cutAll_eq (straight : ∀ name ∈ names, ¬ IsCyclic content name) :
    cutAll names content = pure content := by
  induction names with
  | nil => rfl
  | cons name names ih =>
    rw [cutAll_cons, cutCycle, if_neg (straight name (by simp)), pure_bind,
      Function.update_eq_self]
    exact ih fun name mem => straight name (by simp [mem])

/-- A cycle is not cut without a report. -/
theorem not_isCyclic_of_reports
    (silent : ∀ named ∈ reports (cutAll names content).events,
      named.bare ≠ .cyclicInheritance .placeholder) :
    ∀ name ∈ names, ¬ IsCyclic content name := by
  induction names with
  | nil => simp
  | cons name names ih =>
    by_cases cyclic : IsCyclic content name
    · rw [cutAll_cons, cutCycle, if_pos cyclic, Traced.events_bind, reports_append] at silent
      exact absurd rfl (silent ⟨.cyclicInheritance .placeholder, [.declared name 0]⟩
        (List.mem_append_left _ List.mem_cons_self))
    · rw [cutAll_cons, cutCycle, if_neg cyclic, pure_bind, Function.update_eq_self] at silent
      intro other mem
      rcases List.mem_cons.1 mem with rfl | mem
      · exact cyclic
      · exact ih silent other mem

end Cut

namespace Refines

variable {state : BuildState} {scope : Scope} {options : Options} {content : String → NamedClass}

/-- Only classes are above themselves. -/
theorem isClass_of_isCyclic {library : Library} {context name : String} {id : ClassId}
    {classLike : ClassLike}
    (spells : library.SpellsClass scope options context id classLike (content name))
    (cyclic : IsCyclic content name) : classLike.kind.isClass = true := by
  obtain ⟨path, cycle⟩ := cyclic
  refine Kind.isClass_of_isSome_superclass? ?_
  obtain ⟨tree, above, _⟩ := Option.bind_eq_some_iff.1 (Option.get_mem (Cycle.isSome cycle))
  have related := Related.isNone_eq spells.superclass?
  rw [above] at related
  exact Option.isNone_eq_false_iff.1 related

/-- Cutting a cycle follows the cut by names. -/
theorem breakCycle {id : ClassId} {name : String} (coherent : state.library.Coherent scope options)
    (realizes : state.library.Realizes scope options content)
    (isNamed : state.library.IsNamed id name) :
    Refines scope options (· = id) state (Build.breakCycle id) (cutCycle name content)
      fun after _ named => after.DeclaredAs scope options name id named := by
  have declaredAs := realizes.declaredAs isNamed
  obtain ⟨classLike, declared, named, spells⟩ := declaredAs.exists_classLike
  unfold Build.breakCycle cutCycle
  apply Refines.library
  by_cases cyclic : IsCyclic content name
  · rw [if_pos cyclic, if_pos ((Library.isAboveItself_iff coherent realizes isNamed).2 cyclic)]
    refine Refines.bind_quiet (reportOf coherent rfl
      (.cons ⟨id, classLike, rfl, declared, named⟩ .nil)) fun _ after coherent' grows _ => ?_
    obtain ⟨object, found, isObject⟩ := coherent.exists_objectId?
    have declaredAs' := grows.declaredAs not_false declaredAs
    obtain ⟨later, declared', _, spells'⟩ := declaredAs'.exists_classLike
    have isClass : later.kind.isClass = true := isClass_of_isCyclic spells' cyclic
    refine modifyClassLike coherent' declaredAs'.isNamed declared'.1 ?_ rfl ?_
    · exact ⟨rfl, rfl, rfl, by simp, rfl, rfl, rfl⟩
    · exact { spells' with
        bare := by
          rw [NamedClass.cut, ← spells'.bare]
          simp [ClassLike.bare]
        superclass? := by
          rw [Kind.superclass?_withSuperclass isClass, found, NamedClass.cut, Option.filter_some]
          by_cases same : name = Standard.objectIdentifier
          · subst same
            rw [if_pos rfl, coherent.isNamed_inj isObject isNamed, if_neg (by simp)]
            exact .none
          · have away : object ≠ id := by
              rintro rfl
              exact same (isNamed.name_inj isObject)
            rw [if_neg same, if_pos (by simpa using away)]
            have means : state.library.Means scope options name _ _ := coherent.means_object
            rw [Library.objectType, found] at means
            exact .some (grows.means means)
        interfaces := by
          rw [Kind.interfaces_withSuperclass]
          exact spells'.interfaces }
  · rw [if_neg cyclic, if_neg (mt (Library.isAboveItself_iff coherent realizes isNamed).1 cyclic)]
    exact .pure coherent declaredAs

end Refines

namespace Refines

variable {state : BuildState} {scope : Scope} {options : Options} {content : String → NamedClass}
  {names : List String}

/-- Cutting the cycles follows the cuts by names. -/
theorem breakCycles (coherent : state.library.Coherent scope options)
    (realizes : state.library.Realizes scope options content)
    (named : List.Forall₂ state.library.IsNamed state.library.types names) :
    Refines scope options Library.anybody state Build.breakCycles (cutAll names content)
      fun after _ content => after.Realizes scope options content := by
  unfold Build.breakCycles
  apply Refines.library
  refine reviseAll (fun name _ id isNamed after content coherent grows realizes => ?_) coherent
    realizes named
  exact ⟨id, breakCycle coherent realizes (grows.isNamed_iff.2 isNamed)⟩

end Refines

/-! ## The way up -/

namespace Library

variable {library : Library} {scope : Scope} {options : Options} {content : String → NamedClass}

/-- Without cycles every class has a way up. -/
theorem exists_declaredPath (coherent : library.Coherent scope options)
    (realizes : library.Realizes scope options content)
    (straight : ∀ id name, library.IsNamed id name → ¬ IsCyclic content name) {id : ClassId}
    {name : String} (isNamed : library.IsNamed id name) :
    ∃ path names, Path library.declaredSuperclass? (some id) path
      ∧ Path (superName content) (some name) names ∧ List.Forall₂ library.IsNamed path names := by
  have step (id : ClassId) (name : String) (isNamed : library.IsNamed id name) :=
    declaredSuperclass?_rel coherent realizes isNamed
  obtain ⟨path, segment⟩ := exists_path
    (fun path stop? => library.length_declared_le_walkBound) fun node before after first cycle => by
      obtain ⟨_, _, _, _, stop⟩ := first.related (.some isNamed) step
      cases stop with
      | some isNamed' =>
        exact straight node _ isNamed'
          ((isAboveItself_iff coherent realizes isNamed').1 (isAboveItself_iff_cycle.2 ⟨_, cycle⟩))
  obtain ⟨stop?, names, segment', all, stop⟩ := segment.related (.some isNamed) step
  cases stop
  exact ⟨path, names, segment, segment', all⟩

end Library

end ClassModel
