import ClassModel.Proofs.Correspondence
import ClassModel.Proofs.Order

/-!
# ClassModel.Proofs.Permuted

The order of the declarations does not matter (`renumbered_of_perm`). Where no
name is declared twice and no superclasses make a cycle, permuted declarations
are compiled to the same library under different identifiers, and the same is
reported in another order.
-/

namespace ClassModel

section Compiled

variable {options : Options} {declarations declarations' : List Declaration}
  {names names' : List String} {before after : Library} {diagnostics diagnostics' : List Diagnostic}

/-- What went through the same stages is compiled to the same library under
different identifiers. -/
theorem Compiled.exists_renumbered
    (compiled : Compiled options declarations names before diagnostics)
    (compiled' : Compiled options declarations' names' after diagnostics')
    (same : SameStages options declarations declarations' names names') :
    ∃ renumbering, before.Corresponds renumbering after ∧ before.Renumbered renumbering after
      ∧ (diagnostics.map renumbering.diagnostic).Perm diagnostics' := by
  have has (tree : TypeTree) : after.Has tree ↔ before.Has tree := by
    rw [compiled.has, compiled'.has, same.requestedBy]
  obtain ⟨renumbering, corresponds⟩ := Library.exists_corresponds compiled.coherent
    compiled'.coherent (fun _ _ known => same.scope_eq ▸ known) fun tree => (has tree).2
  refine ⟨renumbering, corresponds, ?_, ?_⟩
  · refine corresponds.renumbered compiled.coherent compiled'.coherent
      (fun _ _ known => same.scope_eq ▸ known) (fun tree => (has tree).1) fun id classLike known =>
        compiled.exists_spellAlike compiled' corresponds ?_ ?_ known
    · exact fun _ name _ => congrFun same.content_eq name
    · exact fun _ _ _ => by rw [same.scope_eq, same.content_eq]
  · obtain ⟨trees, nodup, mem_iff, tells⟩ := compiled.log
    obtain ⟨trees', nodup', mem_iff', tells'⟩ := compiled'.log
    have perm : trees.Perm trees' := (List.perm_ext_iff_of_nodup nodup nodup').2 fun tree => by
      rw [mem_iff, mem_iff', has]
    -- the other diagnostics, in the order in which they are reported here
    obtain ⟨reported, tells', perm⟩ :=
      List.perm_comp_forall₂ (same.reports_eventsOf perm) tells'.flip
    obtain rfl : reported = diagnostics.map renumbering.diagnostic :=
      Related.eq_map tells tells'.flip fun _ _ _ =>
        corresponds.diagnostic_eq compiled'.coherent
    exact perm

/-- The last stage marks corresponding methods. -/
theorem Compiled.renumbered_flagVirtual {renumbering : Renumbering}
    (compiled : Compiled options declarations names before diagnostics)
    (compiled' : Compiled options declarations' names' after diagnostics')
    (same : scopeOf declarations = scopeOf declarations')
    (corresponds : before.Corresponds renumbering after)
    (renumbered : before.Renumbered renumbering after) :
    before.flagVirtual.Renumbered renumbering after.flagVirtual := by
  have byIdentifier? (name : String) :
      after.byIdentifier? name = (before.byIdentifier? name).map renumbering.classLikes :=
    corresponds.byIdentifier?_eq compiled.coherent compiled'.coherent fun unknown => same ▸ unknown
  exact renumbered.marked (Library.marked_flagVirtual compiled.specialization?_base)
    (Library.marked_flagVirtual compiled'.specialization?_base) (renumbered.marks_eq byIdentifier?)

/-- The budget is enough for permuted declarations. -/
theorem Compiled.not_exhausted {budget : Nat}
    (compiled : Compiled options declarations names before diagnostics)
    (exhausted : Exhausted options budget declarations' names' after)
    (within : before.instances.length ≤ budget)
    (same : SameStages options declarations declarations' names names') : False := by
  have le :=
    exhausted.coherent.length_instances_le (same.scope_eq ▸ compiled.coherent) fun tree has => by
    rw [compiled.has, same.requestedBy]
    exact exhausted.requested has
  have := exhausted.budget
  omega

/-- What the stages report is among the diagnostics. -/
theorem Compiled.exists_bare (compiled : Compiled options declarations names before diagnostics)
    {named : NamedDiagnostic} (mem : named ∈ reports (preparation options declarations names)) :
    ∃ diagnostic ∈ diagnostics, diagnostic.bare = named.bare := by
  obtain ⟨trees, _, told⟩ := compiled.exists_told
  rw [eventsOf, reports_append] at told
  exact told named (List.mem_append_left _ mem)

/-- Permuted declarations go through the same stages, where neither a name that
is taken nor a cycle is reported. -/
theorem Compiled.sameStages (compiled : Compiled options declarations names before diagnostics)
    (perm : declarations.Perm declarations')
    (ordered : Walk.Ordered (superName (membersOf options declarations').value) names')
    (covers : ∀ {name}, name ∈ names' ↔ name ∈ declaredNames declarations')
    (unique : ∀ existing signature, .redefinedClassLike existing signature ∉ diagnostics)
    (straight : ∀ id, .cyclicInheritance id ∉ diagnostics) :
    SameStages options declarations declarations' names names' := by
  refine .of_perm perm compiled.ordered ordered (fun _ => compiled.covers) (fun _ => covers) ?_ ?_
  · intro named mem signature redefined
    obtain ⟨diagnostic, mem, told⟩ := compiled.exists_bare mem
    rw [redefined] at told
    cases diagnostic <;> cases told
    exact unique _ _ mem
  · intro named mem cyclic
    obtain ⟨diagnostic, mem, told⟩ := compiled.exists_bare mem
    rw [cyclic] at told
    cases diagnostic <;> cases told
    exact straight _ mem

end Compiled

/-- Permuted declarations are compiled to the same library under different
identifiers, with the same diagnostics in another order, where neither a name
that is taken nor a cycle is reported. -/
theorem renumbered_of_perm {declarations declarations' : List Declaration} {options : Options}
    {budget : Nat} (perm : declarations.Perm declarations') (lenient : options.strict = false)
    (terminates : (compile declarations options budget).result ≠ .error .budgetExhausted)
    (unique : ∀ existing signature, .redefinedClassLike existing signature
      ∉ (compile declarations options budget).diagnostics)
    (straight : ∀ id, .cyclicInheritance id ∉ (compile declarations options budget).diagnostics) :
    ∃ library library' renumbering,
      (compile declarations options budget).result = .ok library
        ∧ (compile declarations' options budget).result = .ok library'
        ∧ library.Renumbered renumbering library'
        ∧ (∀ type, library'.keyOf (renumbering.type type) = library.keyOf type)
        ∧ ((compile declarations options budget).diagnostics.map renumbering.diagnostic).Perm
          (compile declarations' options budget).diagnostics := by
  have permitted (library : Library) (diagnostics : List Diagnostic) :
      Outcome.ofCompiled options library diagnostics = ⟨.ok library, diagnostics⟩ := by
    simp [Outcome.ofCompiled, lenient]
  have cases := compile_cases declarations options budget
  have cases' := compile_cases declarations' options budget
  revert cases cases' terminates unique straight
  generalize compile declarations options budget = outcome,
    compile declarations' options budget = outcome'
  rintro terminates unique straight
    ⟨names, before, diagnostics, ⟨compiled, within, rfl⟩ | ⟨_, rfl⟩⟩
      ⟨names', after, diagnostics', ends⟩
  · rw [permitted] at terminates unique straight ⊢
    have perm := perm.append_left Standard.prelude
    rcases ends with ⟨compiled', _, rfl⟩ | ⟨exhausted, rfl⟩
    · rw [permitted]
      have same :=
        compiled.sameStages perm compiled'.ordered compiled'.covers unique straight
      obtain ⟨renumbering, corresponds, renumbered, reported⟩ :=
        compiled.exists_renumbered compiled' same
      have renumbered :=
        compiled.renumbered_flagVirtual compiled' same.scope_eq corresponds renumbered
      exact ⟨_, _, renumbering, rfl, rfl, renumbered, renumbered.keyOf, reported⟩
    · exact (compiled.not_exhausted exhausted within
        (compiled.sameStages perm exhausted.ordered exhausted.covers unique straight)).elim
  · exact absurd rfl terminates

theorem renumbered_sample : ∃ library library' renumbering,
    (compile Declaration.sample {} 6).result = .ok library
      ∧ (compile Declaration.sample.reverse {} 6).result = .ok library'
      ∧ library.Renumbered renumbering library'
      ∧ (∀ type, library'.keyOf (renumbering.type type) = library.keyOf type)
      ∧ ((compile Declaration.sample {} 6).diagnostics.map renumbering.diagnostic).Perm
        (compile Declaration.sample.reverse {} 6).diagnostics := by
  obtain ⟨library, returned, silent, _⟩ := exists_isSample
  refine renumbered_of_perm (List.reverse_perm _).symm rfl ?_ ?_ ?_
  · rw [returned]
    exact nofun
  · simp [silent]
  · simp [silent]

end ClassModel
