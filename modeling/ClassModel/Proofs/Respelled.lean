import ClassModel.Proofs.Lockstep
import ClassModel.Proofs.Related

/-!
# ClassModel.Proofs.Respelled

Only the significant tokens of the signatures matter. Two lists of declarations
that read the same, such as with other blanks, have a respelling in common. The
compilation of the respelled declarations follows each of theirs, so their
outcomes are the same up to the texts in the declarations that are kept and the
signatures that are quoted (`compile_respelled`).
-/

namespace ClassModel

/-! ## Declarations that read the same -/

/-- The declarations differ in the spelling of their signatures. -/
structure Declaration.Respelled (declaration declaration' : Declaration) : Prop where
  signature : SameTokens declaration.signature declaration'.signature
  attributes : List.Forall₂ SameTokens declaration.attributes declaration'.attributes
  methods :
    List.Forall₂ (fun method method' => SameTokens method.1 method'.1 ∧ method'.2 = method.2)
    declaration.methods declaration'.methods
  staticValues : declaration'.staticValues = declaration.staticValues
  enumConstants : declaration'.enumConstants = declaration.enumConstants

/-- Some respelling gives texts that read the same one text in common. -/
theorem exists_respelling : ∃ respell, IsRespelling respell ∧
    ∀ text text', SameTokens text text' → respell text = respell text' := by
  refine ⟨fun text => Classical.epsilon (SameTokens text),
    fun text => Classical.epsilon_spec ⟨text, rfl, rfl⟩, fun text text' same => ?_⟩
  have alike : SameTokens text = SameTokens text' := by
    funext other
    refine propext ⟨fun ⟨errors, significant⟩ => ?_, fun ⟨errors, significant⟩ => ?_⟩
    · exact ⟨errors.trans same.errors.symm, significant.trans same.significant.symm⟩
    · exact ⟨errors.trans same.errors, significant.trans same.significant⟩
  show Classical.epsilon (SameTokens text) = Classical.epsilon (SameTokens text')
  rw [alike]

/-- Declarations that read the same become equal where texts that read the
same do. -/
theorem Declaration.Respelled.respell_eq {respell : String → String}
    (common : ∀ text text', SameTokens text text' → respell text = respell text')
    {declaration declaration' : Declaration} (respelled : declaration.Respelled declaration') :
    declaration.respell respell = declaration'.respell respell := by
  have attributes : declaration.attributes.map respell = declaration'.attributes.map respell :=
    Related.map_eq respelled.attributes fun _ _ _ same => common _ _ same
  have methods : (declaration.methods.map fun method => (respell method.1, method.2))
      = declaration'.methods.map fun method => (respell method.1, method.2) :=
    Related.map_eq respelled.methods fun _ _ _ ⟨same, body⟩ => by
      rw [common _ _ same, body]
  unfold Declaration.respell
  rw [common _ _ respelled.signature, attributes, methods, respelled.staticValues,
    respelled.enumConstants]

/-! ## Quoted signatures -/

namespace Diagnostic

/-- The diagnostic without the signature that it quotes as it was written. -/
def unquoted : Diagnostic → Diagnostic := requote fun _ => ""

/-- Nothing but the quoted signature is lost. -/
theorem report_unquoted (diagnostic : Diagnostic) (library : Library) :
    { diagnostic.unquoted.report library with
      signature? := (diagnostic.report library).signature? } = diagnostic.report library := by
  cases diagnostic <;> rfl

end Diagnostic

/-- Errors are counted without a look at what is quoted. -/
theorem errorCount_eq (library : Library) (diagnostics : List Diagnostic) :
    errorCount library diagnostics
      = (diagnostics.map Diagnostic.unquoted).countP (·.severity == .error) := by
  rw [errorCount, List.countP_map]
  refine List.countP_congr fun diagnostic _ => ?_
  cases diagnostic <;> rfl

/-! ## Outcomes -/

/-- The library without the declarations that its class-likes were compiled
from. -/
abbrev Library.withoutPrototypes : Library → Library := withPrototypes fun _ => none

/-- The outcome without the declarations that are kept in the library and
without the signatures that the diagnostics quote. -/
def Outcome.withoutTexts (outcome : Outcome) : Outcome :=
  { result := outcome.result.map Library.withoutPrototypes
    diagnostics := outcome.diagnostics.map Diagnostic.unquoted }

/-- The texts are other ones, and what is quoted of them is not told apart. -/
def Variation.respelling {respell : String → String} (isRespelling : IsRespelling respell) :
    Variation where
  respell := respell
  quote _ := ""
  strict := id
  frees _ := False
  isRespelling := isRespelling
  quote_respell _ := rfl

/-- With other texts, a compilation that follows another one has the same
outcome up to texts. -/
theorem Build.Follows.withoutTexts_ofRun {respell : String → String}
    {isRespelling : IsRespelling respell} {step step' : Build Unit}
    (follows : Follows (.respelling isRespelling) id step step') (options : Options) :
    (Outcome.ofRun options (step'.run.run {})).withoutTexts
      = (Outcome.ofRun options (step.run.run {})).withoutTexts := by
  obtain ⟨added, log, along⟩ := follows {}
  obtain ⟨answer, varies, added', log', quoted⟩ :=
    along (fun _ _ => not_false) {} ⟨Library.empty_withPrototypes.symm, rfl⟩
  generalize step.run.run {} = ran at log answer varies ⊢
  generalize step'.run.run {} = ran' at log' answer varies ⊢
  have diagnostics : ran'.2.log.toList.map Diagnostic.unquoted
      = ran.2.log.toList.map Diagnostic.unquoted := by
    rw [Variation.retell_of_strict_eq rfl] at quoted
    rw [log, log']
    exact quoted
  have errors : errorCount ran'.2.library ran'.2.log.toList
      = errorCount ran.2.library ran.2.log.toList := by
    rw [errorCount_eq, errorCount_eq, diagnostics]
  have library : ran'.2.library.withoutPrototypes = ran.2.library.withoutPrototypes := by
    rw [varies.library]
    exact Library.withPrototypes_withPrototypes ..
  rw [Except.map_id] at answer
  rw [Outcome.ofRun, Outcome.ofRun, answer]
  cases ran.1 with
  | error error => simp only [Outcome.withoutTexts, diagnostics, Except.map, id]
  | ok _ =>
    simp only [Outcome.withoutTexts, Outcome.diagnostics_ofCompiled, Outcome.result_ofCompiled,
      diagnostics, errors, id]
    split
    · rfl
    · simp only [Except.map, library]

/-- Declarations that are spelled in another way, with the same significant
tokens, have the same outcome: the same library or the same error, and the same
diagnostics in the same order. Only the declarations that the library keeps and
the signatures that the diagnostics quote are spelled in the other way. -/
theorem compile_respelled {declarations declarations' : List Declaration}
    (respelled : List.Forall₂ Declaration.Respelled declarations declarations')
    (options : Options) (budget : Nat) :
    (compile declarations options budget).withoutTexts
      = (compile declarations' options budget).withoutTexts := by
  obtain ⟨respell, isRespelling, common⟩ := exists_respelling
  have same : (Standard.prelude ++ declarations).map (Declaration.respell respell)
      = (Standard.prelude ++ declarations').map (Declaration.respell respell) := by
    rw [List.map_append, List.map_append]
    exact congrArg _ (Related.map_eq respelled fun _ _ _ same => same.respell_eq common)
  -- the compilation of the texts in common follows both compilations
  have follows (declarations : List Declaration) :
      Build.Follows (.respelling isRespelling) id
        (Build.compileAll options budget declarations)
        (Build.compileAll options budget
          (declarations.map (Declaration.respell respell))) :=
    Build.follows_compileAll ⟨rfl, .inl rfl⟩ budget declarations
  rw [compile_eq_ofRun, compile_eq_ofRun, ← (follows _).withoutTexts_ofRun,
    ← (follows (Standard.prelude ++ declarations')).withoutTexts_ofRun, same]

/-! ### A sample -/

/-- A generic class with an unknown type, written with as few blanks as
possible. -/
def Declaration.narrow : Declaration :=
  { signature := "class Box<T>"
    attributes := ["Itme item"]
    methods := [("T get()", .expression "item")] }

/-- The same class, written with more blanks and a line break. -/
def Declaration.wide : Declaration :=
  { signature := "class  Box < T >"
    attributes := ["Itme\n item"]
    methods := [("T get ( )", .expression "item")] }

theorem Declaration.respelled_narrow : narrow.Respelled wide where
  signature := ⟨by decide +kernel, rfl⟩
  attributes := .cons ⟨by decide +kernel, rfl⟩ .nil
  methods := .cons ⟨⟨by decide +kernel, rfl⟩, rfl⟩ .nil
  staticValues := rfl
  enumConstants := rfl

theorem compile_respelled_narrow : List.Forall₂ Declaration.Respelled [.narrow] [.wide]
    ∧ (compile [.narrow] {} 8).withoutTexts = (compile [.wide] {} 8).withoutTexts :=
  have respelled := .cons Declaration.respelled_narrow .nil
  ⟨respelled, compile_respelled respelled {} 8⟩

end ClassModel
