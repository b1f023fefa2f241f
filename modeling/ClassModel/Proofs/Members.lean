import ClassModel.Proofs.Compiled

/-!
# ClassModel.Proofs.Members

The states of a compilation in which members are compiled. They are what is
there after the hierarchy, and what is made of it by adding attributes and
methods to declared class-likes, in any order (`Build.CompilesMembers`). In each
of them the library is coherent, and every declared class-like spells named
contents (`Build.CompilesMembers.realizes`).
-/

namespace ClassModel

namespace Build

/-- The stages in front of the members. -/
def straighten (options : Options) (declarations : List Declaration) : Build Unit := do
  let intakes ← registerAll options declarations
  intakes.forM (resolveHeader options)
  breakCycles

/-- A state of the third stage. -/
inductive CompilesMembers (options : Options) (declarations : List Declaration) :
    BuildState → Prop where
  | start {state : BuildState} : (straighten options declarations).run.run {} = (.ok (), state) →
    CompilesMembers options declarations state
  | addAttribute {state after : BuildState} {owner : ClassId} {name signature : String} :
    CompilesMembers options declarations state → state.library.IsNamed owner name →
      (Build.addAttribute options owner signature).run.run state = (.ok (), after) →
        CompilesMembers options declarations after
  | addMethod {state after : BuildState} {owner : ClassId} {name signature : String} {body : Body} :
    CompilesMembers options declarations state → state.library.IsNamed owner name →
      (Build.addMethod options owner signature body).run.run state = (.ok (), after) →
        CompilesMembers options declarations after
  | setConstants {state after : BuildState} {owner : ClassId} {name : String}
      {constants : List String} :
    CompilesMembers options declarations state → state.library.IsNamed owner name →
      (modifyClassLike owner fun classLike =>
        { classLike with kind := classLike.kind.withConstants constants }).run.run state
          = (.ok (), after) →
        CompilesMembers options declarations after

end Build

/-- A step that gives one class-like other contents leaves a library with these
contents. -/
theorem Refines.realizes_of_run {scope : Scope} {options : Options} {state after : BuildState}
    {content : String → NamedClass} {id : ClassId} {name : String} {step : Build Unit}
    {traced : Traced NamedClass}
    (refines : Refines scope options (· = id) state step traced fun after _ named =>
      after.DeclaredAs scope options name id named)
    (realizes : state.library.Realizes scope options content)
    (run : step.run.run state = (.ok (), after)) : after.library.Coherent scope options
      ∧ after.library.Realizes scope options (Function.update content name traced.value) := by
  obtain ⟨_, _, run', coherent, steps, declaredAs⟩ := Build.Yields.exists_run refines
  cases run.symm.trans run'
  exact ⟨coherent, realizes.update coherent steps.grows declaredAs⟩

namespace Build

variable {options : Options} {declarations : List Declaration} {state : BuildState}

/-- The second stage comes to its end. -/
theorem yields_straighten (options : Options)
    (sound : Registration.Sound (registrationsOf declarations)) :
    (straighten options declarations).Yields {} fun _ after =>
      after.library.Coherent (scopeOf declarations) options
        ∧ ∃ content, after.library.Realizes (scopeOf declarations) options content := by
  unfold straighten
  rw [yields_bind]
  refine (Registering.registerAll_start options declarations).mono
    fun intakes second ⟨registering, takes⟩ => ?_
  have registered : second.library.Registered
      ((registrationsOf declarations).map Registration.entry) := registering.registered
  have coherent :
      second.library.Coherent (scopeOf declarations) options := registered.coherent sound
  have hierarchy := Refines.hierarchy registered coherent (registered.realizes sound) takes
  exact Yields.mono hierarchy fun _ third ⟨coherent, _, realizes⟩ => ⟨coherent, _, realizes⟩

namespace CompilesMembers

theorem realizes (sound : Registration.Sound (registrationsOf declarations))
    (compiles : CompilesMembers options declarations state) :
    state.library.Coherent (scopeOf declarations) options
      ∧ ∃ content, state.library.Realizes (scopeOf declarations) options content := by
  -- Each step gives one class-like other contents and leaves the others as they are.
  induction compiles with
  | start run =>
    obtain ⟨_, _, run', both⟩ := (yields_straighten options sound).exists_run
    cases run.symm.trans run'
    exact both
  | addAttribute _ isNamed run ih =>
    obtain ⟨coherent, content, realizes⟩ := ih
    obtain ⟨coherent', realizes'⟩ := (Refines.addAttribute coherent
      (realizes.declaredAs isNamed)).realizes_of_run realizes run
    exact ⟨coherent', _, realizes'⟩
  | addMethod _ isNamed run ih =>
    obtain ⟨coherent, content, realizes⟩ := ih
    obtain ⟨coherent', realizes'⟩ := (Refines.addMethod coherent
      (realizes.declaredAs isNamed)).realizes_of_run realizes run
    exact ⟨coherent', _, realizes'⟩
  | setConstants _ isNamed run ih =>
    obtain ⟨coherent, content, realizes⟩ := ih
    obtain ⟨coherent', realizes'⟩ := (Refines.withConstants _ coherent
      (realizes.declaredAs isNamed)).realizes_of_run realizes run
    exact ⟨coherent', _, realizes'⟩

section Members

variable {owner : ClassId} {name : String}

/-- A step that the stage is made of leads to a state of the stage, where the
class-like has its name. -/
theorem yields_step {scope : Scope} {focus : ClassId → Prop} {step : Build Unit}
    {traced : Traced NamedClass} {related : Library → Unit → NamedClass → Prop}
    (refines : Refines scope options focus state step traced related)
    (isNamed : state.library.IsNamed owner name)
    (next : ∀ after, step.run.run state = (.ok (), after) →
      CompilesMembers options declarations after) :
    step.Yields state fun _ after =>
      CompilesMembers options declarations after ∧ after.library.IsNamed owner name := by
  obtain ⟨_, after, run, _, steps, _⟩ := Yields.exists_run refines
  rw [Yields, run]
  exact ⟨next after run, steps.grows.isNamed_iff.2 isNamed⟩

theorem yields_forM {ι : Type} {f : ι → Build Unit}
    (step : ∀ i state, CompilesMembers options declarations state →
    state.library.IsNamed owner name →
      (f i).Yields state fun _ after =>
        CompilesMembers options declarations after ∧ after.library.IsNamed owner name)
    (is : List ι) (compiles : CompilesMembers options declarations state)
    (isNamed : state.library.IsNamed owner name) :
    (is.forM f).Yields state fun _ after =>
      CompilesMembers options declarations after ∧ after.library.IsNamed owner name := by
  induction is generalizing state with
  | nil => exact ⟨compiles, isNamed⟩
  | cons i is ih =>
    show (f i >>= fun _ => is.forM f).Yields _ _
    rw [yields_bind]
    exact (step i state compiles isNamed).mono fun _ _ ⟨compiles, isNamed⟩ => ih compiles isNamed

/-- The members of a class-like are compiled in such states, one after another. -/
theorem compileMembers (sound : Registration.Sound (registrationsOf declarations))
    (compiles : CompilesMembers options declarations state)
    (isNamed : state.library.IsNamed owner name) :
    (Build.compileMembers options owner).Yields state fun _ after =>
      CompilesMembers options declarations after ∧ after.library.IsNamed owner name := by
  have addAttribute (signature : String) (state : BuildState)
      (compiles : CompilesMembers options declarations state)
      (isNamed : state.library.IsNamed owner name) :
      (Build.addAttribute options owner signature).Yields state fun _ after =>
        CompilesMembers options declarations after ∧ after.library.IsNamed owner name := by
    obtain ⟨coherent, content, realizes⟩ := compiles.realizes sound
    exact yields_step (Refines.addAttribute coherent (realizes.declaredAs isNamed)) isNamed
      fun _ => .addAttribute compiles isNamed
  have addMethod (entry : String × Body) (state : BuildState)
      (compiles : CompilesMembers options declarations state)
      (isNamed : state.library.IsNamed owner name) :
      (Build.addMethod options owner entry.1 entry.2).Yields state fun _ after =>
        CompilesMembers options declarations after ∧ after.library.IsNamed owner name := by
    obtain ⟨coherent, content, realizes⟩ := compiles.realizes sound
    exact yields_step (Refines.addMethod coherent (realizes.declaredAs isNamed)) isNamed
      fun _ => .addMethod compiles isNamed
  have ⟨classLike, declared, _⟩ := isNamed
  unfold Build.compileMembers
  rw [yields_bind, yields_classLike declared.1]
  split
  · exact ⟨compiles, isNamed⟩
  · next declaration _ =>
    rw [yields_bind]
    refine (yields_forM addAttribute _ compiles isNamed).mono fun _ _ ⟨compiles, isNamed⟩ => ?_
    rw [yields_bind]
    refine (yields_forM addMethod _ compiles isNamed).mono fun _ _ ⟨compiles, isNamed⟩ => ?_
    obtain ⟨coherent, content, realizes⟩ := compiles.realizes sound
    exact yields_step (Refines.withConstants _ coherent (realizes.declaredAs isNamed)) isNamed
      fun _ => .setConstants compiles isNamed

end Members

end CompilesMembers

/-- A compilation gets to the third stage. -/
theorem exists_compilesMembers (options : Options)
    (sound : Registration.Sound (registrationsOf declarations)) :
    ∃ state, CompilesMembers options declarations state := by
  obtain ⟨_, state, run, _⟩ := (yields_straighten options sound).exists_run
  exact ⟨state, .start run⟩

end Build

end ClassModel
