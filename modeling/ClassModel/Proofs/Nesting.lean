import ClassModel.Proofs.Lockstep
import ClassModel.Proofs.Terminating

/-!
# ClassModel.Proofs.Nesting

The nesting of instantiations and the limit on it. Every instantiation records
how deeply it is nested, which is one more than its deepest argument and at most
the limit (`Library.Coherent.nestsWithin`). A limit that is never exceeded has
no influence: under a higher one the compilation goes the same way, step by
step (`compile_eq_of_not_exceeded`). Where nothing is told at all, it does so in
strict mode, too (`compile_eq_of_silent`).
-/

namespace ClassModel

/-! ## What is recorded -/

namespace Library

/-- The nesting is one more than that of the deepest argument, and within the
limit. -/
structure NestsWithin (library : Library) (limit : Nat) (specialization : Specialization) :
    Prop where
  deepest : ∃ deepest, (specialization.arguments.map library.depthOf).max? = some deepest
    ∧ specialization.depth = 1 + deepest
  positive : 1 ≤ specialization.depth
  within : specialization.depth ≤ limit

/-- With at least one argument, the nesting of an application goes by the
deepest one. -/
theorem exists_max?_depthOf (library : Library) {arguments : List Ty} (nonempty : arguments ≠ []) :
    ∃ deepest, (arguments.map library.depthOf).max? = some deepest
      ∧ library.depthOfApplication arguments = 1 + deepest := by
  obtain ⟨first, arguments, rfl⟩ := List.exists_cons_of_ne_nil nonempty
  refine ⟨_, by rw [List.map_cons, List.max?_cons'], ?_⟩
  simp [depthOfApplication]

/-- The nesting that is recorded is that of the arguments as they are in the
end. -/
theorem Coherent.nestsWithin {library : Library} {scope : Scope} {options : Options}
    (coherent : library.Coherent scope options) {id : ClassId} {specialization : Specialization}
    (found : library.specialization? id = some specialization) :
    library.NestsWithin options.maxSpecializationDepth specialization := by
  obtain ⟨classLike, known, specialized⟩ := specialization?_eq_some found
  obtain ⟨base, trees, instantiates⟩ := coherent.instantiates known specialized
  have denotes := denotesAll_iff.1 instantiates.denotes
  have nonempty : specialization.arguments ≠ [] := by
    obtain ⟨_, _, _, wf⟩ := instantiates.wellFormed
    rw [TypeTree.WellFormed] at wf
    intro none
    rw [none] at denotes
    cases denotes
    exact wf.2.2.1 rfl
  obtain ⟨deepest, max, depth⟩ := library.exists_max?_depthOf nonempty
  have recorded : specialization.depth = 1 + deepest := by
    rw [instantiates.depth, ← coherent.depth_applied _ denotes, depth]
  exact {
    deepest := ⟨deepest, max, recorded⟩
    positive := by omega
    within := coherent.depth_le found }

end Library

/-! ## Higher limits -/

/-- The diagnostic tells that the limit on the nesting was exceeded. -/
def Diagnostic.isDepthExceeded : Diagnostic → Bool
  | depthExceeded .. => true
  | _ => false

section Limits

variable {declarations : List Declaration} {options : Options} {budget : Nat}

/-- Under a higher limit a compilation goes the same way, unless the lower limit
was exceeded. -/
theorem compile_eq_of_not_exceeded {limit : Nat} (le : options.maxSpecializationDepth ≤ limit)
    (silent : ∀ diagnostic ∈ (compile declarations options budget).diagnostics,
      diagnostic.isDepthExceeded = false) :
    compile declarations { options with maxSpecializationDepth := limit } budget
      = compile declarations options budget := by
  have relaxes : Build.Relaxes (.same id fun diagnostic => diagnostic.isDepthExceeded = true)
      options { options with maxSpecializationDepth := limit } :=
    ⟨rfl, .inr ⟨le, fun _ => rfl⟩⟩
  have follows := Build.follows_compileAll_same relaxes budget (Standard.prelude ++ declarations)
  rw [compile_eq_ofRun, Outcome.diagnostics_ofRun] at silent
  obtain ⟨answer, library, log⟩ :=
    follows.run_start fun diagnostic mem => by simp [silent diagnostic mem]
  rw [Diagnostic.mapStrict_id, List.map_id] at log
  rw [compile_eq_ofRun, compile_eq_ofRun, Outcome.ofRun, Outcome.ofRun, answer, library, log]
  generalize (Build.compileAll options budget (Standard.prelude ++ declarations)).run.run {} = ran
  rfl

/-- A compilation that tells nothing goes the same way under a higher limit, strict or
not. -/
theorem compile_eq_of_silent {options' : Options}
    (le : options.maxSpecializationDepth ≤ options'.maxSpecializationDepth)
    (silent : (compile declarations options budget).diagnostics = []) :
    compile declarations options' budget = compile declarations options budget := by
  have relaxes : Build.Relaxes (.same (fun _ => options'.strict) fun _ => True) options options' :=
    ⟨rfl, .inr ⟨le, fun _ => trivial⟩⟩
  have follows := Build.follows_compileAll_same relaxes budget (Standard.prelude ++ declarations)
  rw [compile_eq_ofRun, Outcome.diagnostics_ofRun] at silent
  obtain ⟨answer, library, log⟩ := follows.run_start (by simp [silent])
  rw [silent, List.map_nil] at log
  rw [compile_eq_ofRun, compile_eq_ofRun, Outcome.ofRun, Outcome.ofRun, answer, library, log,
    silent, Outcome.ofCompiled_nil, Outcome.ofCompiled_nil]

/-- What the limit on the nesting has to do with a compilation that comes to its
end. -/
structure IsLimited (declarations : List Declaration) (options : Options) (budget : Nat) :
    Prop where
  nestsWithin {library : Library} {id : ClassId} {specialization : Specialization} :
    (compile declarations options budget).result = .ok library →
      library.specialization? id = some specialization →
        library.NestsWithin options.maxSpecializationDepth specialization
  /-- With the limit zero nothing is instantiated. -/
  none {library : Library} : (compile declarations options budget).result = .ok library →
    options.maxSpecializationDepth = 0 → ∀ id, library.specialization? id = none
  /-- A higher limit changes nothing, unless the limit was exceeded. -/
  same {limit budget' : Nat} :
    (∀ diagnostic ∈ (compile declarations options budget).diagnostics,
      diagnostic.isDepthExceeded = false) →
      options.maxSpecializationDepth ≤ limit → budget ≤ budget' →
        compile declarations { options with maxSpecializationDepth := limit } budget'
          = compile declarations options budget

/-- The limit bounds the nesting of all instantiations, and where it was not
exceeded the outcome is the same under every higher limit. -/
theorem isLimited_of_compile
    (finishes : (compile declarations options budget).result ≠ .error .budgetExhausted) :
    IsLimited declarations options budget := by
  have nestsWithin {library : Library} {id : ClassId} {specialization : Specialization}
      (returned : (compile declarations options budget).result = .ok library)
      (found : library.specialization? id = some specialization) :
      library.NestsWithin options.maxSpecializationDepth specialization := by
    obtain ⟨_, _, compiled, marked⟩ := exists_compiled returned
    exact (marked.revises.coherent compiled.coherent).nestsWithin found
  refine ⟨nestsWithin, fun {library} returned none id => ?_, fun silent le le' => ?_⟩
  · cases found : library.specialization? id with
    | none => rfl
    | some specialization =>
      obtain ⟨_, positive, within⟩ := nestsWithin returned found
      omega
  · have same := compile_eq_of_not_exceeded le silent
    rw [← same] at finishes
    rw [compile_mono le' finishes, same]

end Limits

theorem isLimited_sample :
    (compile Declaration.sample { maxSpecializationDepth := 2 } 6).result
        ≠ .error .budgetExhausted
      ∧ IsLimited Declaration.sample { maxSpecializationDepth := 2 } 6
      ∧ compile Declaration.sample {} 9
        = compile Declaration.sample { maxSpecializationDepth := 2 } 6 := by
  obtain ⟨returned, silent⟩ :
      (compile Declaration.sample { maxSpecializationDepth := 2 } 6).result.toOption.isSome = true
        ∧ (compile Declaration.sample { maxSpecializationDepth := 2 } 6).diagnostics.isEmpty
          = true := by decide +kernel
  have finishes : (compile Declaration.sample { maxSpecializationDepth := 2 } 6).result
      ≠ .error .budgetExhausted := by
    intro exhausted
    rw [exhausted] at returned
    cases returned
  have isLimited := isLimited_of_compile finishes
  refine ⟨finishes, isLimited, isLimited.same (fun diagnostic mem => ?_) ?_ ?_⟩
  · rw [List.isEmpty_iff.1 silent] at mem
    cases mem
  · decide
  · decide

end ClassModel
