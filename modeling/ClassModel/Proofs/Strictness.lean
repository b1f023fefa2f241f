import ClassModel.Proofs.Compiled
import ClassModel.Proofs.Lockstep

/-!
# ClassModel.Proofs.Strictness

Strict mode adds a verdict (`addsVerdict_of_compile`). Two stages look at whether
a compilation is strict: where a header declares nothing and where arguments are
too few or too many, they tell so. All stages go the same way in strict mode and
without it, so both compilations tell the same, each in its own mode, and come to
the same library. In strict mode the library is refused if there are errors.
-/

namespace ClassModel

namespace Diagnostic

/-- A misuse is a warning, and an error in strict mode. -/
def isMisuse : Diagnostic → Bool
  | unrecognizedKeyword .. | mismatchedArguments .. => true
  | _ => false

/-- The mode in which a diagnostic was told last is the one that counts. -/
theorem inMode_inMode (diagnostic : Diagnostic) (strict strict' : Bool) :
    (diagnostic.inMode strict).inMode strict' = diagnostic.inMode strict' := by
  cases diagnostic <;> rfl

theorem isMisuse_inMode (diagnostic : Diagnostic) (strict : Bool) :
    (diagnostic.inMode strict).isMisuse = diagnostic.isMisuse := by
  cases diagnostic <;> rfl

/-- A misuse is told in the same words in both modes. -/
theorem report_inMode_of_isMisuse (library : Library) {diagnostic : Diagnostic}
    (isMisuse : diagnostic.isMisuse = true) (strict : Bool) :
    (diagnostic.inMode strict).report library
      = { diagnostic.report library with severity := if strict then .error else .warning } := by
  cases diagnostic with
  | unrecognizedKeyword | mismatchedArguments => rfl
  | _ => cases isMisuse

/-- All other problems are told without a look at the mode. -/
theorem inMode_of_isMisuse_eq_false {diagnostic : Diagnostic}
    (isOther : diagnostic.isMisuse = false) (strict : Bool) :
    diagnostic.inMode strict = diagnostic := by
  cases diagnostic with
  | unrecognizedKeyword | mismatchedArguments => cases isOther
  | _ => rfl

end Diagnostic

/-! ## The verdict -/

/-- The outcome in strict mode is the lenient one with a verdict on the
library. -/
structure Outcome.AddsVerdict (lenient strict : Outcome) (library : Library) : Prop where
  returned : lenient.result = .ok library
  /-- Without strict mode no diagnostic tells of it. -/
  mode {diagnostic : Diagnostic} : diagnostic ∈ lenient.diagnostics →
    diagnostic.inMode false = diagnostic
  /-- The same is told in strict mode, in the same order. -/
  diagnostics : strict.diagnostics = lenient.diagnostics.map (Diagnostic.inMode true)
  /-- A misuse is told as an error in place of a warning. -/
  misuse {diagnostic : Diagnostic} : diagnostic ∈ lenient.diagnostics →
    diagnostic.isMisuse = true → (diagnostic.report library).severity = .warning
      ∧ (diagnostic.inMode true).report library
        = { diagnostic.report library with severity := .error }
  /-- All else is told in the same way. -/
  rest {diagnostic : Diagnostic} : diagnostic ∈ lenient.diagnostics →
    diagnostic.isMisuse = false → diagnostic.inMode true = diagnostic
  /-- The library is refused if there are errors, and these are counted. -/
  verdict : strict.result =
    if errorCount library strict.diagnostics = 0 then .ok library
    else .error (.aborted (errorCount library strict.diagnostics))

/-- Once the stages have come to the same end, a verdict is all that strict mode
adds. -/
theorem Outcome.addsVerdict_ofCompiled (options : Options) (library : Library)
    (diagnostics : List Diagnostic) :
    (ofCompiled { options with strict := false } library
        (diagnostics.map (.inMode false))).AddsVerdict
      (ofCompiled { options with strict := true } library (diagnostics.map (.inMode true)))
      library where
  returned := by simp [result_ofCompiled]
  mode mem := by
    rw [diagnostics_ofCompiled] at mem
    obtain ⟨diagnostic, _, rfl⟩ := List.mem_map.1 mem
    exact diagnostic.inMode_inMode false false
  diagnostics := by
    rw [diagnostics_ofCompiled, diagnostics_ofCompiled, List.map_map]
    exact List.map_congr_left fun diagnostic _ => (diagnostic.inMode_inMode false true).symm
  misuse mem isMisuse := by
    rw [diagnostics_ofCompiled] at mem
    obtain ⟨diagnostic, _, rfl⟩ := List.mem_map.1 mem
    rw [Diagnostic.isMisuse_inMode] at isMisuse
    rw [Diagnostic.inMode_inMode, Diagnostic.report_inMode_of_isMisuse library isMisuse false,
      Diagnostic.report_inMode_of_isMisuse library isMisuse true]
    exact ⟨rfl, rfl⟩
  rest _ isOther := Diagnostic.inMode_of_isMisuse_eq_false isOther true
  verdict := by
    rw [diagnostics_ofCompiled, result_ofCompiled]
    by_cases clean : errorCount library (diagnostics.map (Diagnostic.inMode true)) = 0 <;>
      simp [clean]

/-! ## Both modes -/

/-- All stages come to the same end in each mode, and tell the same in it. -/
theorem Build.run_compileAll_strict (options : Options) (budget : Nat)
    (declarations : List Declaration) (strict : Bool) :
    let ran := (compileAll options budget declarations).run.run {}
    let ran' := (compileAll { options with strict } budget declarations).run.run {}
    ran'.1 = ran.1 ∧ ran'.2.library = ran.2.library
      ∧ ran'.2.log.toList = ran.2.log.toList.map (Diagnostic.inMode strict) := by
  have relaxes : Relaxes (.same (fun _ => strict) fun _ => False) options { options with strict } :=
    ⟨rfl, .inl rfl⟩
  exact (follows_compileAll_same relaxes budget declarations).run_start fun _ _ => not_false

/-- If the stages come to their end, they do so in both modes. -/
theorem exists_ofCompiled {declarations : List Declaration} {options : Options} {budget : Nat}
    (finishes : (compile declarations options budget).result ≠ .error .budgetExhausted) :
    ∃ library, ∃ diagnostics : List Diagnostic, ∀ strict,
      compile declarations { options with strict } budget
        = .ofCompiled { options with strict } library (diagnostics.map (.inMode strict)) := by
  obtain ⟨names, _, _, outcomes⟩ := Build.run_compileAll options (sound_prelude declarations)
  obtain ⟨after, ⟨run, _⟩ | ⟨run, _⟩⟩ := outcomes budget
  · refine ⟨after.library.flagVirtual, after.log.toList, fun strict => ?_⟩
    obtain ⟨answer, library, log⟩ :=
      Build.run_compileAll_strict options budget (Standard.prelude ++ declarations) strict
    rw [run] at answer library log
    rw [compile_eq_ofRun, Outcome.ofRun, answer, library, log]
  · rw [compile_eq_ofRun, run] at finishes
    exact absurd rfl finishes

/-- Strict mode only adds the verdict to a compilation that comes to its
end. -/
theorem addsVerdict_of_compile {declarations : List Declaration} {options : Options} {budget : Nat}
    (finishes : (compile declarations options budget).result ≠ .error .budgetExhausted) :
    ∃ library, (compile declarations { options with strict := false } budget).AddsVerdict
      (compile declarations { options with strict := true } budget) library := by
  obtain ⟨library, diagnostics, same⟩ := exists_ofCompiled finishes
  refine ⟨library, ?_⟩
  rw [same false, same true]
  exact Outcome.addsVerdict_ofCompiled options library diagnostics

/-- A generic class, a class below it with an argument too many, and a header
without a keyword. -/
def Declaration.misused : List Declaration :=
  [{ signature := "class Box<T>" }, { signature := "class Crate extends Box<String, String>" },
    { signature := "record Label" }]

theorem addsVerdict_misused :
    (compile Declaration.misused {} 1).result ≠ .error .budgetExhausted
      ∧ ∃ library, (compile Declaration.misused { strict := false } 1).AddsVerdict
          (compile Declaration.misused { strict := true } 1) library
        ∧ (compile Declaration.misused { strict := true } 1).result = .error (.aborted 2) := by
  obtain ⟨returned, errors⟩ : (compile Declaration.misused {} 1).result.toOption.isSome = true
      ∧ ((compile Declaration.misused { strict := true } 1).diagnostics.countP
        fun diagnostic => diagnostic.severity == .error) = 2 := by decide +kernel
  have finishes : (compile Declaration.misused {} 1).result ≠ .error .budgetExhausted := by
    intro exhausted
    rw [exhausted] at returned
    cases returned
  obtain ⟨library, addsVerdict⟩ := addsVerdict_of_compile finishes
  refine ⟨finishes, library, addsVerdict, ?_⟩
  rw [addsVerdict.verdict, show errorCount library _ = 2 from errors, if_neg (by decide)]

end ClassModel
