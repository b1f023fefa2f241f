import ClassModel.Proofs.Header
import ClassModel.Proofs.Member
import ClassModel.Proofs.Register
import Mathlib.Logic.Function.Basic

/-!
# ClassModel.Proofs.Stage

The stages that go through all declarations. Each changes one class-like after
the other, so its counterpart by names changes the contents of one name after
the other (`Refines.reviseAll`). Where a change looks at its own class-like
only, the order does not matter (`value_reviseAll`, `events_reviseAll`).
-/

namespace ClassModel

/-! ## By names -/

/-- Changes the contents of one name after the other. -/
def reviseAll {κ : Type} (nameOf : κ → String)
    (change : κ → (String → NamedClass) → Traced NamedClass) (ks : List κ)
    (content : String → NamedClass) : Traced (String → NamedClass) :=
  ks.foldlM (fun content k => do
    let named ← change k content
    return Function.update content (nameOf k) named) content

section Own

variable {κ : Type} {nameOf : κ → String} {change : κ → NamedClass → Traced NamedClass}
  {ks : List κ} {content : String → NamedClass}

theorem reviseAll_cons {change : κ → (String → NamedClass) → Traced NamedClass} (k : κ) :
    reviseAll nameOf change (k :: ks) content = change k content >>= fun named =>
      reviseAll nameOf change ks (Function.update content (nameOf k) named) := by
  rw [reviseAll, List.foldlM_cons, bind_assoc]
  rfl

/-- Other names keep their contents. -/
theorem value_reviseAll_of_not_mem {change : κ → (String → NamedClass) → Traced NamedClass}
    {name : String} (away : name ∉ ks.map nameOf) :
    (reviseAll nameOf change ks content).value name = content name := by
  induction ks generalizing content with
  | nil => rfl
  | cons k ks ih =>
    rw [List.map_cons, List.mem_cons, not_or] at away
    rw [reviseAll_cons, Traced.value_bind, ih away.2, Function.update_of_ne away.1]

/-- A name gets the contents that are made of its own ones. -/
theorem value_reviseAll (nodup : (ks.map nameOf).Nodup) {k : κ} (mem : k ∈ ks) :
    (reviseAll nameOf (fun k content => change k (content (nameOf k))) ks content).value (nameOf k)
      = (change k (content (nameOf k))).value := by
  induction ks generalizing content with
  | nil => simp at mem
  | cons first ks ih =>
    rw [List.map_cons, List.nodup_cons] at nodup
    rw [reviseAll_cons, Traced.value_bind]
    rcases List.mem_cons.1 mem with rfl | mem
    · rw [value_reviseAll_of_not_mem nodup.1, Function.update_self]
    · have away : nameOf k ≠ nameOf first := fun same =>
        nodup.1 (same ▸ List.mem_map_of_mem mem)
      rw [ih nodup.2 mem, Function.update_of_ne away]

theorem events_reviseAll (nodup : (ks.map nameOf).Nodup) :
    (reviseAll nameOf (fun k content => change k (content (nameOf k))) ks content).events
      = ks.flatMap fun k => (change k (content (nameOf k))).events := by
  induction ks generalizing content with
  | nil => rfl
  | cons first ks ih =>
    rw [List.map_cons, List.nodup_cons] at nodup
    rw [reviseAll_cons, Traced.events_bind, ih nodup.2, List.flatMap_cons]
    congr 1
    refine List.flatMap_congr fun k mem => ?_
    have away : nameOf k ≠ nameOf first := fun same => nodup.1 (same ▸ List.mem_map_of_mem mem)
    rw [Function.update_of_ne away]

end Own

/-! ## Stages -/

namespace Library

variable {before after : Library} {focus : ClassId → Prop} {scope : Scope} {options : Options}
  {content content' : String → NamedClass}

/-- Any class-like. -/
def anybody : ClassId → Prop := fun _ => True

theorem Realizes.declaredAs (realizes : before.Realizes scope options content) {id : ClassId}
    {name : String} (isNamed : before.IsNamed id name) :
    before.DeclaredAs scope options name id (content name) :=
  ⟨isNamed, realizes id name isNamed⟩

/-- One class-like gets other contents. -/
theorem Realizes.update (realizes : before.Realizes scope options content)
    (coherent : after.Coherent scope options) {id : ClassId} (h : before.Grows (· = id) after)
    {name : String} {named : NamedClass}
    (declaredAs : after.DeclaredAs scope options name id named) :
    after.Realizes scope options (Function.update content name named) := by
  intro id' name' isNamed
  by_cases same : name' = name
  · subst same
    obtain rfl := coherent.isNamed_inj declaredAs.isNamed isNamed
    rw [Function.update_self]
    exact declaredAs.spells
  · have away : ¬ id' = id := by
      rintro rfl
      obtain ⟨classLike, declared, rfl⟩ := isNamed
      obtain ⟨classLike', declared', rfl⟩ := declaredAs.isNamed
      cases declared.1.symm.trans declared'.1
      exact same rfl
    rw [Function.update_of_ne same]
    exact h.spells away (realizes id' name' (h.isNamed_iff.1 isNamed))

/-- Class-likes keep the declaration that they come from. -/
theorem Grows.prototype?_eq (h : before.Grows focus after)
    (realizes : before.Realizes scope options content)
    (realizes' : after.Realizes scope options content') {id : ClassId} {name : String}
    (isNamed : before.IsNamed id name) :
    (content' name).bare.prototype? = (content name).bare.prototype? := by
  obtain ⟨classLike, known, spells⟩ := realizes id name isNamed
  obtain ⟨later, known', spells'⟩ := realizes' id name (h.isNamed_iff.2 isNamed)
  obtain ⟨later', known'', keeps, _⟩ := h.classLike known
  cases known'.symm.trans known''
  rw [← spells.bare, ← spells'.bare]
  exact keeps.prototype?

end Library

namespace Refines

variable {scope : Scope} {options : Options} {state : BuildState} {content : String → NamedClass}

/-- A stage follows the revision of the contents, if the change of each
class-like follows the change by names. -/
theorem reviseAll {ι κ : Type} {f : ι → Build Unit} {nameOf : κ → String}
    {change : κ → (String → NamedClass) → Traced NamedClass} {is : List ι} {ks : List κ}
    {r : ι → κ → Prop}
    (step : ∀ k ∈ ks, ∀ i, r i k → ∀ (after : BuildState) (content : String → NamedClass),
      after.library.Coherent scope options →
      state.library.Grows Library.anybody after.library →
      after.library.Realizes scope options content → ∃ id,
        Refines scope options (· = id) after (f i) (change k content) fun after _ named =>
          after.DeclaredAs scope options (nameOf k) id named)
    (coherent : state.library.Coherent scope options)
    (realizes : state.library.Realizes scope options content) (all : List.Forall₂ r is ks) :
    Refines scope options Library.anybody state (is.forM f)
      (reviseAll nameOf change ks content) fun after _ content =>
        after.Realizes scope options content := by
  have invariant : Refines scope options Library.anybody state (is.forM f)
      (ClassModel.reviseAll nameOf change ks content) fun after _ content =>
        state.library.Grows Library.anybody after ∧ after.Realizes scope options content := by
    refine forM_foldlM_related (fun k mem i related after content coherent ⟨grows, realizes⟩ => ?_)
      coherent ⟨.refl _, realizes⟩ all
    obtain ⟨id, refines⟩ := step k mem i related after content coherent grows realizes
    refine Build.Yields.mono refines fun _ last ⟨coherent', steps, declaredAs⟩ => ?_
    have grows' := steps.grows
    refine ⟨coherent', ?_, grows.trans (grows'.mono fun _ _ => trivial),
      realizes.update coherent' grows' declaredAs⟩
    rw [Traced.events_bind, Traced.events_pure, List.append_nil]
    exact steps.mono fun _ _ => trivial
  exact invariant.mono fun _ _ _ both => both.2

end Refines

namespace Registration

variable (scope : Scope) (options : Options)

/-- Resolves the headers. -/
def resolveHeaders (registrations : List Registration) (content : String → NamedClass) :
    Traced (String → NamedClass) :=
  reviseAll identifier (fun registration content =>
    (content registration.identifier).resolveHeader scope options
      registration.declaration.signature registration.start.rest) registrations content

/-- Compiles the members. -/
def compileMembers (registrations : List Registration) (content : String → NamedClass) :
    Traced (String → NamedClass) :=
  reviseAll identifier (fun registration content =>
    (content registration.identifier).compileMembers scope options registration.declaration)
    registrations content

end Registration

namespace Refines

variable {scope : Scope} {options : Options} {state : BuildState} {content : String → NamedClass}
  {intakes : List Intake} {registrations : List Registration}

/-- The second stage follows the resolution of the headers by names. -/
theorem resolveHeaders (coherent : state.library.Coherent scope options)
    (realizes : state.library.Realizes scope options content)
    (takes : List.Forall₂ state.library.Takes intakes registrations) :
    Refines scope options Library.anybody state (intakes.forM (Build.resolveHeader options))
      (Registration.resolveHeaders scope options registrations content) fun after _ content =>
        after.Realizes scope options content := by
  refine reviseAll (fun registration _ intake takes after content coherent grows realizes => ?_)
    coherent realizes takes
  rw [← takes.signature, ← takes.rest]
  exact ⟨intake.id,
    resolveHeader coherent (realizes.declaredAs (grows.isNamed_iff.2 takes.isNamed))⟩

/-- The third stage follows the compilation of the members by names. -/
theorem compileAllMembers (coherent : state.library.Coherent scope options)
    (realizes : state.library.Realizes scope options content)
    (takes : List.Forall₂ state.library.Takes intakes registrations)
    (prototypes : ∀ registration ∈ registrations,
      (content registration.identifier).bare.prototype? = some registration.declaration) :
    Refines scope options Library.anybody state
      (intakes.forM fun intake => Build.compileMembers options intake.id)
      (Registration.compileMembers scope options registrations content) fun after _ content =>
        after.Realizes scope options content := by
  refine reviseAll (fun registration mem intake takes after content' coherent grows realizes' => ?_)
    coherent realizes takes
  refine ⟨intake.id, compileMembers coherent
    (realizes'.declaredAs (grows.isNamed_iff.2 takes.isNamed)) ?_⟩
  rw [grows.prototype?_eq realizes realizes' takes.isNamed]
  exact prototypes registration mem

end Refines

end ClassModel
