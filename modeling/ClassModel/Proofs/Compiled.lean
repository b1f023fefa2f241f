import ClassModel.Library.Run
import ClassModel.Proofs.Marks
import ClassModel.Proofs.Preparation

/-!
# ClassModel.Proofs.Compiled

All stages together. A compilation that comes to its end has `Compiled` a
library that is told by names alone: the contents of the declared class-likes,
the instantiations that are there and the diagnostics. A compilation that does
not come to its end has asked for more instantiations than the budget allows.
-/

namespace ClassModel

section Compiled

variable (options : Options) (declarations : List Declaration) (names : List String)

/-- The instantiations that are asked for in the end. -/
def RequestedBy : TypeTree → Prop :=
  (scopeOf declarations).Requested options (contentOf options declarations names)
    (· ∈ requests (preparation options declarations names))

/-- What happens in a compilation that fills in the instantiations in the order
of the trees. -/
noncomputable def eventsOf (trees : List TypeTree) : List Event :=
  preparation options declarations names
    ++ trees.flatMap
      ((scopeOf declarations).eventsOf options (contentOf options declarations names))

/-- The library before the virtual methods are marked, and the diagnostics. -/
structure Compiled (library : Library) (diagnostics : List Diagnostic) : Prop where
  ordered : Walk.Ordered (superName (membersOf options declarations).value) names
  covers {name : String} : name ∈ names ↔ name ∈ declaredNames declarations
  coherent : library.Coherent (scopeOf declarations) options
  numbered : library.Numbered (declaredNames declarations)
  realizes : library.Realizes (scopeOf declarations) options (contentOf options declarations names)
  complete {id : ClassId} {tree : TypeTree} : library.IsInstance id tree →
    library.IsComplete (scopeOf declarations) options (contentOf options declarations names) id
  has {tree : TypeTree} : library.Has tree ↔ RequestedBy options declarations names tree
  log : ∃ trees, trees.Nodup ∧ (∀ tree, tree ∈ trees ↔ library.Has tree)
    ∧ List.Forall₂ library.Tells diagnostics (reports (eventsOf options declarations names trees))

end Compiled

/-- The state in which a compilation ran out of its budget. -/
structure Exhausted (options : Options) (budget : Nat) (declarations : List Declaration)
    (names : List String) (library : Library) : Prop where
  ordered : Walk.Ordered (superName (membersOf options declarations).value) names
  covers {name : String} : name ∈ names ↔ name ∈ declaredNames declarations
  coherent : library.Coherent (scopeOf declarations) options
  requested {tree : TypeTree} : library.Has tree → RequestedBy options declarations names tree
  budget : budget < library.instances.length

section Run

variable {options : Options} {declarations : List Declaration} {names : List String}

theorem Compiled.specialization?_base {library : Library} {diagnostics : List Diagnostic}
    (compiled : Compiled options declarations names library diagnostics) (id : ClassId)
    (specialization : Specialization) (found : library.specialization? id = some specialization) :
    library.specialization? specialization.base = none := by
  obtain ⟨classLike, known, specialized⟩ := Library.specialization?_eq_some found
  obtain ⟨base, _, instantiates⟩ := compiled.coherent.instantiates known specialized
  rw [Library.specialization?, instantiates.declared.1, Option.bind_some, instantiates.declared.2]

theorem Compiled.mem_names {library : Library} {diagnostics : List Diagnostic}
    (compiled : Compiled options declarations names library diagnostics) {id : ClassId}
    {name : String} (isNamed : library.IsNamed id name) : name ∈ names := by
  obtain ⟨classLike, declared, rfl⟩ := isNamed
  obtain ⟨registration, mem, same, _⟩ :=
    Registration.exists_of_scopeOf (compiled.coherent.scope_identifier declared)
  exact compiled.covers.2 (List.mem_map.2 ⟨registration, mem, same⟩)

/-- What happens is told by the diagnostics. -/
theorem Compiled.exists_told {library : Library} {diagnostics : List Diagnostic}
    (compiled : Compiled options declarations names library diagnostics) :
    ∃ trees, (∀ tree, tree ∈ trees ↔ library.Has tree)
      ∧ ∀ named ∈ reports (eventsOf options declarations names trees),
        ∃ diagnostic ∈ diagnostics, diagnostic.bare = named.bare := by
  obtain ⟨trees, _, mem_iff, tells⟩ := compiled.log
  refine ⟨trees, mem_iff, fun named mem => ?_⟩
  obtain ⟨diagnostic, mem, told⟩ := Related.exists_of_mem tells mem
  exact ⟨diagnostic, mem, told.1⟩

/-- Nothing is filled in when the worklist begins. -/
theorem Prepared.progress {state : BuildState}
    (prepared : Prepared options declarations names state) :
    Progress (scopeOf declarations) options (contentOf options declarations names)
      (· ∈ requests (preparation options declarations names))
      (reports (preparation options declarations names)) [] state where
  coherent := prepared.coherent
  realizes := prepared.realizes
  instances := prepared.instances
  complete mem := by simp at mem
  asked := prepared.has.2
  requested has := .initial (prepared.has.1 has)
  log := ⟨[], .nil, by simpa [reports] using prepared.log⟩

section Worklist

variable {first after : BuildState} {filled : List ClassId}
  (prepared : Prepared options declarations names first)
  (progress : Progress (scopeOf declarations) options (contentOf options declarations names)
    (· ∈ requests (preparation options declarations names))
    (reports (preparation options declarations names)) filled after)

include prepared progress

/-- When the worklist comes to its end, the declarations are compiled. -/
theorem Prepared.compiled
    (grows : first.library.Grows (fun _ => True) after.library) (finished : after.pending = []) :
    Compiled options declarations names after.library after.log.toList where
  ordered := prepared.ordered
  covers := prepared.covers
  coherent := progress.coherent
  numbered := grows.numbered prepared.numbered
  realizes := progress.realizes
  complete := progress.isComplete finished
  has := progress.has_iff finished
  log := by
    obtain ⟨trees, all, tells⟩ := progress.log
    have instances : after.library.instances = filled := by
      rw [progress.instances, finished, List.append_nil]
    rw [← instances] at all
    obtain ⟨trees', all', nodup, mem_iff⟩ := progress.coherent.exists_trees
    obtain rfl : trees = trees' := Related.unique all all' fun tree _ id tree' h h' =>
      h.1.unique progress.coherent.toDeclares h'.1
    exact ⟨trees, nodup, mem_iff, by rwa [eventsOf, reports_append]⟩

/-- While the worklist goes on, more is instantiated than is filled in. -/
theorem Prepared.exhausted (pending : after.pending ≠ []) :
    Exhausted options filled.length declarations names after.library where
  ordered := prepared.ordered
  covers := prepared.covers
  coherent := progress.coherent
  requested := progress.requested
  budget := by
    rw [progress.instances, List.length_append]
    have := List.length_pos_of_ne_nil pending
    omega

end Worklist

/-- A compilation comes to its end, or runs out of its budget. What comes
before the worklist does not depend on the budget. -/
theorem Build.run_compileAll (options : Options)
    (sound : Registration.Sound (registrationsOf declarations)) :
    ∃ names state, Prepared options declarations names state ∧ ∀ budget, ∃ after,
      (compileAll options budget declarations).run.run {}
          = (.ok (), { after with library := after.library.flagVirtual })
        ∧ Compiled options declarations names after.library after.log.toList
        ∧ after.library.instances.length ≤ budget
      ∨ (compileAll options budget declarations).run.run {} = (.error .budgetExhausted, after)
        ∧ Exhausted options budget declarations names after.library := by
  obtain ⟨_, first, prepare, names, prepared⟩ := (yields_prepare options sound).exists_run
  refine ⟨names, first, prepared, fun budget => ?_⟩
  obtain ⟨filled, after, progress, grows, outcome⟩ := prepared.progress.run budget
  refine ⟨after, ?_⟩
  rw [compileAll_eq, run_bind, prepare]
  dsimp only
  rw [run_bind]
  rw [List.nil_append] at progress
  rcases outcome with ⟨run, finished, within⟩ | ⟨run, pending, rfl⟩
  · refine .inl ⟨by rw [run]; rfl, prepared.compiled progress grows finished, ?_⟩
    rwa [progress.instances, finished, List.append_nil]
  · exact .inr ⟨by rw [run], prepared.exhausted progress pending⟩

end Run

/-! ## The outcome -/

/-- What is compiled besides the prelude. -/
theorem sound_prelude (declarations : List Declaration) :
    Registration.Sound (registrationsOf (Standard.prelude ++ declarations)) :=
  Registration.sound_readAll declarations

/-- A compilation comes to its end, or runs out of its budget. -/
theorem compile_outcomes (declarations : List Declaration) (options : Options) :
    ∃ names state, Prepared options (Standard.prelude ++ declarations) names
        state ∧ ∀ budget, ∃ library diagnostics,
      Compiled options (Standard.prelude ++ declarations) names library
          diagnostics
        ∧ library.instances.length ≤ budget
        ∧ compile declarations options budget
          = .ofCompiled options library.flagVirtual diagnostics
      ∨ Exhausted options budget (Standard.prelude ++ declarations) names
          library
        ∧ compile declarations options budget = ⟨.error .budgetExhausted, diagnostics⟩ := by
  generalize whole : Standard.prelude ++ declarations = all
  have sound : Registration.Sound (registrationsOf all) := whole ▸ sound_prelude declarations
  obtain ⟨names, state, prepared, outcomes⟩ :=
    Build.run_compileAll options sound
  refine ⟨names, state, prepared, fun budget => ?_⟩
  obtain ⟨after, outcome⟩ := outcomes budget
  refine ⟨after.library, after.log.toList, outcome.imp ?_ ?_⟩
  · rintro ⟨run, compiled, within⟩
    refine ⟨compiled, within, ?_⟩
    rw [compile_eq_ofRun, whole, run]
    rfl
  · rintro ⟨run, exhausted⟩
    refine ⟨exhausted, ?_⟩
    rw [compile_eq_ofRun, whole, run]
    rfl

theorem compile_cases (declarations : List Declaration) (options : Options) (budget : Nat) :
    ∃ names library diagnostics,
      Compiled options (Standard.prelude ++ declarations) names library
          diagnostics
        ∧ library.instances.length ≤ budget
        ∧ compile declarations options budget
          = .ofCompiled options library.flagVirtual diagnostics
      ∨ Exhausted options budget (Standard.prelude ++ declarations) names
          library
        ∧ compile declarations options budget = ⟨.error .budgetExhausted, diagnostics⟩ := by
  obtain ⟨names, _, _, outcomes⟩ := compile_outcomes declarations options
  exact ⟨names, outcomes budget⟩

/-- A library that is returned is compiled, with marks on the virtual methods. -/
theorem exists_compiled {declarations : List Declaration} {options : Options} {budget : Nat}
    {library : Library} (returned : (compile declarations options budget).result = .ok library) :
    ∃ names before, Compiled options (Standard.prelude ++ declarations) names
        before (compile declarations options budget).diagnostics
      ∧ Library.Marked before.marks before library := by
  obtain ⟨names, before, diagnostics, ⟨compiled, _, outcome⟩ | ⟨_, outcome⟩⟩ :=
    compile_cases declarations options budget
  · rw [outcome] at returned
    rw [outcome, Outcome.diagnostics_ofCompiled, Outcome.eq_of_result_ofCompiled _ _ _ returned]
    exact ⟨names, before, compiled, Library.marked_flagVirtual compiled.specialization?_base⟩
  · rw [outcome] at returned
    cases returned

/-! ## A sample -/

/-- A generic class with a superclass that is declared later and an attribute
that is static, and a class below an instantiation of it. -/
def Declaration.sample : List Declaration :=
  [{ signature := "class Pair<A, B> extends Box<A> implements Held<String>"
     attributes := ["B other", "static int made"]
     methods := [("B second()", .native fun frame => frame.getAttribute 0)]
     staticValues := [("made", .int 7)] },
   { signature := "class Box<T>"
     attributes := ["T content"]
     methods := [("Box<T> copy()", .expression "this")] },
   { signature := "interface Held<T>"
     methods := [("T held()", .expression "null")] },
   { signature := "class Label extends Pair<String, Box<String>>"
     attributes := ["int size"] }]

/-- What the sample is compiled to: the class-likes after the prelude with the
instantiations, an object of the last class, and that class below an
instantiation that only its generic superclass names. -/
structure Library.IsSample (library : Library) : Prop where
  keys : (library.classLikes.ids.drop 8).map (fun id => library.keyOf (.classLike id))
    = ["Pair", "Box", "Held", "Label", "Box<Pair.A>", "Held<String>", "Box<String>",
      "Pair<String, Box<String>>", "Box<Box.T>"]
  specialized : (library.specialization? ⟨15⟩).isSome = true
  fresh : (library.freshObject ⟨11⟩).isOk = true
  below : library.isSubtype ⟨11⟩ ⟨8⟩ = true ∧ library.isSubtype ⟨8⟩ ⟨13⟩ = true
  closed : library.isOpen (.classLike ⟨13⟩) = false

instance (library : Library) : Decidable library.IsSample :=
  decidable_of_iff
    ((library.classLikes.ids.drop 8).map (fun id => library.keyOf (.classLike id))
        = ["Pair", "Box", "Held", "Label", "Box<Pair.A>", "Held<String>", "Box<String>",
          "Pair<String, Box<String>>", "Box<Box.T>"]
      ∧ (library.specialization? ⟨15⟩).isSome = true
      ∧ (library.freshObject ⟨11⟩).isOk = true
      ∧ (library.isSubtype ⟨11⟩ ⟨8⟩ = true ∧ library.isSubtype ⟨8⟩ ⟨13⟩ = true)
      ∧ library.isOpen (.classLike ⟨13⟩) = false)
    ⟨fun ⟨keys, specialized, fresh, below, closed⟩ => ⟨keys, specialized, fresh, below, closed⟩,
      fun ⟨keys, specialized, fresh, below, closed⟩ => ⟨keys, specialized, fresh, below, closed⟩⟩

/-- What passes a check has been returned. -/
theorem exists_of_any {result : Except CompileError Library} {check : Library → Bool}
    (passes : result.toOption.any check = true) :
    ∃ library, result = .ok library ∧ check library = true := by
  cases result with
  | error error => cases passes
  | ok library => exact ⟨library, rfl, passes⟩

/-- What passes a check has been returned without a diagnostic. -/
theorem exists_of_check (outcome : Outcome) (check : Library → Bool)
    (passes : (outcome.diagnostics.isEmpty && outcome.result.toOption.any check) = true) :
    ∃ library, outcome.result = .ok library ∧ outcome.diagnostics = [] ∧ check library = true := by
  obtain ⟨silent, passes⟩ := Bool.and_eq_true_iff.1 passes
  obtain ⟨library, returned, passes⟩ := exists_of_any passes
  exact ⟨library, returned, List.isEmpty_iff.1 silent, passes⟩

theorem exists_isSample : ∃ library,
    (compile Declaration.sample {} 6).result = .ok library
      ∧ (compile Declaration.sample {} 6).diagnostics = [] ∧ library.IsSample := by
  obtain ⟨library, returned, silent, isSample⟩ := exists_of_check
    (compile Declaration.sample {} 6) (fun library => decide library.IsSample) (by decide +kernel)
  exact ⟨library, returned, silent, of_decide_eq_true isSample⟩

/-! ## A sample with methods -/

/-- An interface whose method is implemented by the instantiations of a generic
class for one argument only, and a class below such an instantiation with a
primitive result in place of an object. -/
def Declaration.crates : List Declaration :=
  [{ signature := "interface Sink"
     methods := [("void put(Integer value)", .expression "null")] },
   { signature := "class Box<T> implements Sink"
     methods := [("Object content()", .expression "null"),
       ("void put(T value)", .expression "null")] },
   { signature := "class Crate extends Box<Integer>"
     methods := [("int content()", .expression "0")] }]

/-- What the sample is compiled to: `Sink`, `Box`, `Crate` and `Box<Integer>`
come after the prelude. -/
structure Library.HasCrates (library : Library) : Prop where
  types : library.types.drop 8 = [⟨8⟩, ⟨9⟩, ⟨10⟩]
  classes : ∀ id ∈ [(⟨10⟩ : ClassId), ⟨11⟩], (library.classLike? id).any (·.kind.isClass) = true
  chain : library.superclassChain ⟨10⟩ = [⟨10⟩, ⟨11⟩, ⟨0⟩]
  bases : library.baseOf ⟨10⟩ = ⟨10⟩ ∧ library.baseOf ⟨11⟩ = ⟨9⟩
  sees : ⟨8⟩ ∈ (library.lookupOrder ⟨11⟩).drop 1 ∧ ⟨11⟩ ∈ (library.lookupOrder ⟨10⟩).drop 1
  flagged : ((library.methodsOf ⟨9⟩)[0]?.map (·.isVirtual)) = some true
  missed : ∃ method ∈ library.methodsOf ⟨11⟩, ∃ candidate ∈ library.methodsOf ⟨8⟩,
    method.isInstance = true ∧ candidate.isInstance = true
      ∧ library.implements method candidate = true ∧ candidate.isVirtual = false
  boxed : ∃ method ∈ library.methodsOf ⟨10⟩, ∃ candidate ∈ library.methodsOf ⟨11⟩,
    method.isInstance = true ∧ candidate.isInstance = true
      ∧ library.implements method candidate = true
      ∧ method.returnType? = some (.primitive .int)
      ∧ candidate.returnType? = some (.classLike ⟨0⟩)

instance (library : Library) : Decidable library.HasCrates :=
  decidable_of_iff
    (library.types.drop 8 = [⟨8⟩, ⟨9⟩, ⟨10⟩]
      ∧ (∀ id ∈ [(⟨10⟩ : ClassId), ⟨11⟩], (library.classLike? id).any (·.kind.isClass) = true)
      ∧ library.superclassChain ⟨10⟩ = [⟨10⟩, ⟨11⟩, ⟨0⟩]
      ∧ (library.baseOf ⟨10⟩ = ⟨10⟩ ∧ library.baseOf ⟨11⟩ = ⟨9⟩)
      ∧ (⟨8⟩ ∈ (library.lookupOrder ⟨11⟩).drop 1 ∧ ⟨11⟩ ∈ (library.lookupOrder ⟨10⟩).drop 1)
      ∧ ((library.methodsOf ⟨9⟩)[0]?.map (·.isVirtual)) = some true
      ∧ (∃ method ∈ library.methodsOf ⟨11⟩, ∃ candidate ∈ library.methodsOf ⟨8⟩,
        method.isInstance = true ∧ candidate.isInstance = true
          ∧ library.implements method candidate = true ∧ candidate.isVirtual = false)
      ∧ (∃ method ∈ library.methodsOf ⟨10⟩, ∃ candidate ∈ library.methodsOf ⟨11⟩,
        method.isInstance = true ∧ candidate.isInstance = true
          ∧ library.implements method candidate = true
          ∧ method.returnType? = some (.primitive .int)
          ∧ candidate.returnType? = some (.classLike ⟨0⟩)))
    ⟨fun ⟨types, classes, chain, bases, sees, flagged, missed, boxed⟩ =>
        ⟨types, classes, chain, bases, sees, flagged, missed, boxed⟩,
      fun ⟨types, classes, chain, bases, sees, flagged, missed, boxed⟩ =>
        ⟨types, classes, chain, bases, sees, flagged, missed, boxed⟩⟩

theorem exists_hasCrates : ∃ library,
    (compile Declaration.crates {} 1).result = .ok library ∧ library.HasCrates := by
  obtain ⟨library, returned, _, hasCrates⟩ := exists_of_check (compile Declaration.crates {} 1)
    (fun library => decide library.HasCrates) (by decide +kernel)
  exact ⟨library, returned, of_decide_eq_true hasCrates⟩

/-! ## A sample with attributes -/

/-- An interface with attributes, and a generic class with an attribute and a
method of its parameter, of which there are an instantiation with a primitive
type and one that makes two of its methods alike. -/
def Declaration.shelves : List Declaration :=
  [{ signature := "interface Sized"
     attributes := ["int size", "int depth"] },
   { signature := "class Box<T> implements Sized"
     attributes := ["T content"]
     methods := [("void put(T value)", .expression "0"),
       ("void put(Integer value)", .expression "1")] },
   { signature := "class Crate extends Box<int>" },
   { signature := "class Shelf extends Box<Integer>"
     attributes := ["long width"] }]

/-- What the sample is compiled to: `Sized`, `Box`, `Crate`, `Shelf`, `Box<int>`
and `Box<Integer>` come after the prelude. -/
structure Library.HasShelves (library : Library) : Prop where
  fresh : ∀ id ∈ [(⟨11⟩ : ClassId), ⟨12⟩], (library.freshObject id).isOk = true
  chain : library.superclassChain ⟨12⟩ = [⟨12⟩, ⟨0⟩]
  sees : library.lookupOrder ⟨12⟩ = [⟨12⟩, ⟨0⟩, ⟨8⟩]
  sized : ∃ classLike ∈ library.classLike? ⟨8⟩, classLike.instanceAttributes.map (·.index) = [0, 1]
  ofInt : ∃ classLike ∈ library.classLike? ⟨12⟩,
    classLike.instanceAttributes.map (fun found => (found.index, found.type))
        = [(0, .primitive .int)]
      ∧ classLike.layout.initialValues.length = 1
      ∧ classLike.layout.initialValues[0]?.any (· matches .null) = true
  ofInteger : (library.methodsOf ⟨13⟩).map (·.signature) = ["put(Integer)", "put(Integer)"]

instance (library : Library) : Decidable library.HasShelves :=
  decidable_of_iff
    ((∀ id ∈ [(⟨11⟩ : ClassId), ⟨12⟩], (library.freshObject id).isOk = true)
      ∧ library.superclassChain ⟨12⟩ = [⟨12⟩, ⟨0⟩]
      ∧ library.lookupOrder ⟨12⟩ = [⟨12⟩, ⟨0⟩, ⟨8⟩]
      ∧ (∃ classLike ∈ library.classLike? ⟨8⟩,
        classLike.instanceAttributes.map (·.index) = [0, 1])
      ∧ (∃ classLike ∈ library.classLike? ⟨12⟩,
        classLike.instanceAttributes.map (fun found => (found.index, found.type))
            = [(0, .primitive .int)]
          ∧ classLike.layout.initialValues.length = 1
          ∧ classLike.layout.initialValues[0]?.any (· matches .null) = true)
      ∧ (library.methodsOf ⟨13⟩).map (·.signature) = ["put(Integer)", "put(Integer)"])
    ⟨fun ⟨fresh, chain, sees, sized, ofInt, ofInteger⟩ =>
        ⟨fresh, chain, sees, sized, ofInt, ofInteger⟩,
      fun ⟨fresh, chain, sees, sized, ofInt, ofInteger⟩ =>
        ⟨fresh, chain, sees, sized, ofInt, ofInteger⟩⟩

theorem exists_hasShelves : ∃ library,
    (compile Declaration.shelves {} 2).result = .ok library ∧ library.HasShelves := by
  obtain ⟨library, returned, _, hasShelves⟩ := exists_of_check (compile Declaration.shelves {} 2)
    (fun library => decide library.HasShelves) (by decide +kernel)
  exact ⟨library, returned, of_decide_eq_true hasShelves⟩

end ClassModel
