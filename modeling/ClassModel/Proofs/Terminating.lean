import ClassModel.Proofs.Further
import ClassModel.Proofs.Narrow

/-!
# ClassModel.Proofs.Terminating

When the worklist comes to its end (`finishesIn_of_areUnwrapped`). Where no
type argument is an array of a generic parameter, all instantiations that are
ever asked for are narrow types over the declared names, within the limit on
the nesting. There are finitely many of those, and each enters the worklist
once, so a compilation takes as many steps as there are instantiations in the
end.
-/

namespace ClassModel

/-! ## Declarations without wrapped parameters -/

/-- The types that are written in the header of a declaration, given what comes
after its name, and in the members. -/
def Declaration.writtenTypes (takesArguments : String → Bool) (isGeneric : Bool)
    (rest : List Token) (declaration : Declaration) : List TypeExpr :=
  (HeaderRest.read takesArguments isGeneric rest).types
    ++ declaration.attributes.map (fun signature =>
      (AttributeExpr.read takesArguments (tokenize signature).significant).type)
    ++ declaration.methods.flatMap fun method =>
      (MethodExpr.read takesArguments (tokenize method.1).significant).types

namespace Library

/-- Whether the name refers to a generic parameter of the class-like. -/
def isParameter (library : Library) (id : ClassId) (name : String) : Bool :=
  (Primitive.ofText? name).isNone && (library.parameterNamed? id name).isSome

/-- Whether no type argument in the signatures of a class-like is an array of a
generic parameter. -/
def isUnwrapped (library : Library) (intake : Intake) : Bool :=
  (library.classLike? intake.id).all fun classLike => classLike.prototype?.all fun declaration =>
    (declaration.writtenTypes (library.takesArguments intake.id) (!classLike.kind.isEnum)
      intake.rest).all (·.isUnwrapped (library.isParameter intake.id))

end Library

/-- Whether in no declaration a type argument is an array of a generic
parameter. The declarations are read as a compilation reads them, when all
names are registered. -/
def Declaration.areUnwrapped (declarations : List Declaration) : Bool :=
  match (Build.registerAll {} Standard.prelude
    >>= fun _ => Build.registerAll {} declarations).run.run {} with
  | (.ok intakes, state) => intakes.all state.library.isUnwrapped
  | (.error _, _) => false

/-- By names, no type argument in the declaration is an array of a generic
parameter. -/
def Registration.IsUnwrapped (scope : Scope) (registration : Registration) : Prop :=
  ∀ type ∈ registration.declaration.writtenTypes (scope.takesArguments registration.identifier)
      (!registration.start.kind.isEnum) registration.start.rest,
    type.isUnwrapped (scope.isParameter registration.identifier) = true

namespace Library.Registered

variable {library : Library} {registrations : List Registration} {registration : Registration}

/-- What is taken in is read in the same way by names. -/
theorem isUnwrapped_of_takes
    (registered : library.Registered (registrations.map Registration.entry))
    (sound : Registration.Sound registrations) (mem : registration ∈ registrations)
    {intake : Intake} (takes : library.Takes intake registration)
    (unwrapped : library.isUnwrapped intake = true) :
    registration.IsUnwrapped (Registration.scopeOf registrations) := by
  have coherent : library.Coherent (Registration.scopeOf registrations) {} :=
    registered.coherent sound
  obtain ⟨id, _, holds⟩ := Related.exists_of_mem registered.holds
    (List.mem_map_of_mem (f := Registration.entry) mem)
  obtain rfl := coherent.isNamed_inj holds.isNamed takes.isNamed
  obtain ⟨parameters, known, _⟩ := holds
  have isParameter : library.isParameter intake.id
      = (Registration.scopeOf registrations).isParameter registration.identifier := by
    funext name
    rw [isParameter, coherent.isSome_parameterNamed? takes.isNamed, Scope.isParameter]
  rw [isUnwrapped, known, coherent.takesArguments_eq takes.isNamed, isParameter,
    takes.rest] at unwrapped
  exact List.all_eq_true.1 unwrapped

end Library.Registered

/-- The prelude declares no generic parameters. -/
theorem Registration.parameters_prelude {registration : Registration}
    (mem : registration ∈ registrationsOf Standard.prelude) : registration.parameters = [] := by
  have none : (Standard.prelude.all fun declaration =>
      match HeaderStart.read (tokenize declaration.signature).significant with
      | .ok start => (ParameterNames.read start.rest).isEmpty
      | .error _ => true) = true := by decide +kernel
  obtain ⟨declaration, inside, read, _⟩ := exists_of_mem_readAll mem
  have empty := List.all_eq_true.1 none declaration inside
  rw [read] at empty
  rw [parameters, List.isEmpty_iff.1 empty, ite_self]

/-- Declarations that are registered after others follow the registration by
names. -/
theorem Registering.exists_run_append (former declarations : List Declaration) :
    ∃ intakes state, (Build.registerAll {} former
        >>= fun _ => Build.registerAll {} declarations).run.run {} = (.ok intakes, state)
      ∧ state.library.Registered
        ((registrationsOf (former ++ declarations)).map Registration.entry)
      ∧ List.Forall₂ state.library.Takes intakes
        (Registration.readAll {} (registrationsOf former) declarations).value := by
  obtain ⟨_, first, run, registering, _⟩ := (registerAll_start {} former).exists_run
  obtain ⟨intakes, second, run', registering', takes⟩ :=
    (registerAll {} declarations registering.registered).exists_run
  have split : registrationsOf (former ++ declarations) = registrationsOf former
      ++ (Registration.readAll {} (registrationsOf former) declarations).value := by
    rw [registrationsOf, Registration.readAll_append]
    rfl
  refine ⟨intakes, second, ?_, split ▸ registering'.registered, takes⟩
  rw [Build.run_bind, run]
  exact run'

/-- All that is registered is read in the same way by names. -/
theorem Registration.isUnwrapped_of_areUnwrapped {declarations : List Declaration}
    (unwrapped : Declaration.areUnwrapped declarations = true) {registration : Registration}
    (mem : registration ∈ registrationsOf (Standard.prelude ++ declarations)) :
    registration.IsUnwrapped (ClassModel.scopeOf (Standard.prelude ++ declarations)) := by
  obtain ⟨intakes, state, run, registered, takes⟩ :=
    Registering.exists_run_append Standard.prelude declarations
  rw [Declaration.areUnwrapped, run] at unwrapped
  rw [ClassModel.scopeOf]
  have inside := mem
  rw [registrationsOf, readAll_append] at mem
  rcases List.mem_append.1 mem with mem | mem
  · intro type _
    refine TypeExpr.isUnwrapped_of_forall_not (fun name => ?_) type
    simp [Scope.isParameter, Scope.declaresParameter, Scope.parametersOf,
      registered.scopeOf_eq inside, shape, parameters_prelude mem]
  · obtain ⟨intake, mem, takes⟩ := Related.exists_of_mem takes mem
    exact registered.isUnwrapped_of_takes (sound_prelude declarations) inside takes
      (List.all_eq_true.1 unwrapped intake mem)

/-! ## What is asked for -/

section Preparation

variable {options : Options} {bound : Nat} {declarations : List Declaration} {names : List String}
  {state : BuildState}

/-- The headers and the members ask for narrow types. -/
theorem asks_membersOf (unwrapped : ∀ registration ∈ registrationsOf declarations,
    registration.IsUnwrapped (scopeOf declarations)) :
    (membersOf options declarations).Asks fun tree => ∃ bound, tree.Narrow bound := by
  have nodup := nodup_declaredNames declarations
  have asks {registration : Registration} (mem : registration ∈ registrationsOf declarations)
      {type : TypeExpr} (written : type ∈ registration.declaration.writtenTypes
        ((scopeOf declarations).takesArguments registration.identifier)
        (!registration.start.kind.isEnum) registration.start.rest) (signature : String) :
      ((scopeOf declarations).resolve options registration.identifier signature type).Asks
        fun tree => ∃ bound, tree.Narrow bound :=
    (Scope.narrow_resolve (unwrapped registration mem type written)).1
  refine .bind (.bind ?_ (.quiet (requests_cutAll _ _))) ?_
  · refine asks_reviseAll_of_nodup nodup fun registration mem =>
      NamedClass.asks_resolveHeader (Registration.identifier_contentOf _ _) fun type written => ?_
    have isEnum : registration.named.bare.kind.isEnum = registration.start.kind.isEnum :=
      Kind.isEnum_withoutSupertypes _
    rw [Registration.contentOf, Registration.find?_of_nodup nodup mem] at written
    dsimp only at written
    rw [isEnum] at written
    exact asks mem (List.mem_append_left _ (List.mem_append_left _ written)) _
  · refine asks_reviseAll_of_nodup nodup fun registration mem => NamedClass.asks_compileMembers
      (Registration.identifier_hierarchy _ _ _ _) (fun signature inside => ?_)
      fun method inside type written => ?_
    · exact asks mem (List.mem_append_left _ (List.mem_append_right _
        (List.mem_map_of_mem inside))) _
    · exact asks mem (List.mem_append_right _ (List.mem_flatMap.2 ⟨method, inside, written⟩)) _

/-- A type of a declared class-like is well formed, and has been asked for if it
is an instantiation. -/
theorem Prepared.wellFormed_types (prepared : Prepared options declarations names state)
    {name : String} (known : (scopeOf declarations name).isSome) {type : TypeTree}
    (mem : type ∈ (contentOf options declarations names name).types) :
    type.WellFormed (scopeOf declarations) options name ∧ ∀ base trees n,
      type = .applied base trees n → TypeTree.applied base trees 0
        ∈ requests (preparation options declarations names) := by
  obtain ⟨shape, known⟩ := Option.isSome_iff_exists.1 known
  obtain ⟨id, classLike, declared, rfl, _⟩ := prepared.coherent.scope_iff.1 known
  obtain ⟨_, _, spells⟩ := prepared.realizes id _ ⟨classLike, declared, rfl⟩
  obtain ⟨_, _, means⟩ := Related.exists_of_mem spells.types mem
  refine ⟨means.wellFormed, ?_⟩
  rintro base trees n rfl
  obtain ⟨id, classLike, specialization, rfl, found⟩ := means.denotes
  exact prepared.has.1 ⟨id, ⟨id, classLike, specialization, rfl, found⟩, base, trees, rfl⟩

/-- What is asked for in the end is as narrow as what is asked for at first. -/
theorem Prepared.narrow_of_requestedBy (prepared : Prepared options declarations names state)
    (initial : ∀ tree ∈ requests (preparation options declarations names), tree.Narrow bound)
    {tree : TypeTree} (requested : RequestedBy options declarations names tree) :
    ∃ context, tree.WellFormed (scopeOf declarations) options context ∧ tree.Narrow bound := by
  induction requested with
  | initial mem =>
    obtain ⟨_, isInstance⟩ := prepared.has.2 mem
    obtain ⟨context, _, _, wf⟩ := prepared.coherent.isType isInstance
    exact ⟨context, wf, initial _ mem⟩
  | inner _ mem ih =>
    obtain ⟨context, wf, narrow⟩ := ih
    refine ⟨context, Scope.narrow_of_mem_requests (fun name known type mem => ?_) wf narrow mem⟩
    obtain ⟨wf, asked⟩ := prepared.wellFormed_types known mem
    exact ⟨wf, fun base trees n same => initial _ (asked base trees n same)⟩

/-- There is a bound on the number of instantiations. -/
theorem Prepared.exists_bound (prepared : Prepared options declarations names state)
    (unwrapped : ∀ registration ∈ registrationsOf declarations,
      registration.IsUnwrapped (scopeOf declarations)) :
    ∃ most, ∀ library : Library, library.Coherent (scopeOf declarations) options →
      (∀ tree, library.Has tree → RequestedBy options declarations names tree) →
        library.instances.length ≤ most := by
  have asked : ∀ tree ∈ requests (preparation options declarations names),
      ∃ bound, tree.Narrow bound := by
    rw [requests_preparation]
    exact asks_membersOf unwrapped
  obtain ⟨bound, initial⟩ := TypeTree.exists_narrow asked
  refine ⟨(TypeTree.upTo (scopeOf declarations) (declaredNames declarations) bound
      options.maxSpecializationDepth).length, fun library coherent requested => ?_⟩
  obtain ⟨trees, all, nodup, mem_iff⟩ := coherent.exists_trees
  rw [all.length_eq]
  refine (List.subperm_of_subset nodup fun tree mem => ?_).length_le
  have has := (mem_iff tree).1 mem
  obtain ⟨context, wf, narrow⟩ := prepared.narrow_of_requestedBy initial (requested tree has)
  obtain ⟨_, _, name, arguments, rfl⟩ := has
  exact TypeTree.mem_upTo (fun _ => Registration.isSome_scopeOf.1) wf narrow wf.depth_le

end Preparation

/-! ## The worklist -/

/-- A worklist that comes to its end does so with a larger budget. -/
theorem Build.materializeAll_mono {options : Options} {budget budget' : Nat} (le : budget ≤ budget')
    {state after : BuildState}
    (run : (materializeAll options budget).run.run state = (.ok (), after)) :
    (materializeAll options budget').run.run state = (.ok (), after) := by
  induction budget generalizing budget' state with
  | zero =>
    rw [materializeAll, run_get_bind] at run
    cases pending : state.pending with
    | nil =>
      rw [pending] at run
      cases budget' with
      | zero =>
        rw [materializeAll, run_get_bind, pending]
        exact run
      | succ budget' =>
        rw [materializeAll, run_get_bind, pending]
        exact run
    | cons id rest =>
      rw [pending] at run
      cases run
  | succ budget ih =>
    obtain ⟨more, rfl⟩ := Nat.exists_eq_add_of_le' le
    rw [materializeAll, run_get_bind] at run
    rw [← Nat.add_assoc, materializeAll, run_get_bind]
    cases pending : state.pending with
    | nil =>
      rw [pending] at run
      exact run
    | cons id rest =>
      rw [pending] at run
      dsimp only at run ⊢
      rw [run_modify_bind, run_bind] at run ⊢
      split at run
      · exact ih (Nat.le_add_left _ _) run
      · cases run

theorem Build.compileAll_mono {options : Options} {budget budget' : Nat} (le : budget ≤ budget')
    {declarations : List Declaration} {state after : BuildState}
    (run : (compileAll options budget declarations).run.run state = (.ok (), after)) :
    (compileAll options budget' declarations).run.run state = (.ok (), after) := by
  rw [compileAll_eq, run_bind] at run ⊢
  split at run
  · next prepared _ =>
    rw [run_bind] at run ⊢
    cases filled : (materializeAll options budget).run.run prepared with
    | mk result last =>
      rw [filled] at run
      cases result with
      | ok =>
        rw [materializeAll_mono le filled]
        exact run
      | error error => cases run
  · cases run

section Finishing

variable {declarations : List Declaration} {options : Options} {budget budget' : Nat}

/-- A compilation that comes to its end does so in the same way with a larger
budget. -/
theorem compile_mono (le : budget ≤ budget')
    (finishes : (compile declarations options budget).result ≠ .error .budgetExhausted) :
    compile declarations options budget' = compile declarations options budget := by
  obtain ⟨_, _, _, outcomes⟩ := Build.run_compileAll options
    (sound_prelude declarations)
  obtain ⟨after, ⟨run, _⟩ | ⟨run, _⟩⟩ := outcomes budget
  · rw [compile_eq_ofRun, compile_eq_ofRun, run, Build.compileAll_mono le run]
  · rw [compile_eq_ofRun, run] at finishes
    exact absurd rfl finishes

/-- What the instantiations of the library are made of. -/
def Library.applications (library : Library) : List (ClassId × List Ty) :=
  library.instances.filterMap fun id => (library.specialization? id).map fun specialization =>
    (specialization.base, specialization.arguments)

theorem Library.length_applications (library : Library) :
    library.applications.length = library.instances.length := by
  rw [applications, List.filterMap_length_eq_length]
  intro id mem
  rw [Option.isSome_map]
  exact mem_instances.1 mem

theorem Library.IsCanonical.nodup_applications {library : Library}
    (isCanonical : library.IsCanonical) : library.applications.Nodup := by
  refine List.Nodup.filterMap (fun id id' application mem mem' => ?_) library.nodup_instances
  obtain ⟨specialization, found, rfl⟩ := Option.map_eq_some_iff.1 mem
  obtain ⟨specialization', found', same⟩ := Option.map_eq_some_iff.1 mem'
  exact isCanonical.unique found found' (congrArg Prod.fst same).symm (congrArg Prod.snd same).symm

theorem Library.Marked.instances {marks : ClassId → Nat → Bool} {before after : Library}
    (marked : Marked marks before after) : after.instances = before.instances := by
  simp only [Library.instances, marked.ids, marked.specialization?]

theorem Library.Coherent.depth_le {library : Library} {scope : Scope} {options : Options}
    (coherent : library.Coherent scope options) {id : ClassId} {specialization : Specialization}
    (found : library.specialization? id = some specialization) :
    specialization.depth ≤ options.maxSpecializationDepth := by
  obtain ⟨classLike, known, specialized⟩ := specialization?_eq_some found
  obtain ⟨base, trees, instantiates⟩ := coherent.instantiates known specialized
  obtain ⟨_, _, _, wf⟩ := instantiates.wellFormed
  rw [instantiates.depth]
  exact wf.depth_le

/-- The worklist comes to its end after so many steps, each for an
instantiation of its own. -/
structure FinishesIn (declarations : List Declaration) (options : Options) (steps : Nat) :
    Prop where
  exhausted_iff {budget : Nat} :
    (compile declarations options budget).result = .error .budgetExhausted ↔ budget < steps
  same {budget : Nat} : steps ≤ budget →
    compile declarations options budget = compile declarations options steps
  /-- Each class-like with arguments that is asked for takes one step. -/
  applications {library : Library} : (compile declarations options steps).result = .ok library →
    library.applications.Nodup ∧ library.applications.length = steps
  depth {library : Library} {id : ClassId} {specialization : Specialization} :
    (compile declarations options steps).result = .ok library →
      library.specialization? id = some specialization →
        specialization.depth ≤ options.maxSpecializationDepth

/-- A compilation that comes to its end with some budget takes as many steps as
there are instantiations. -/
theorem exists_finishesIn
    (finishes : (compile declarations options budget).result ≠ .error .budgetExhausted) :
    ∃ steps, FinishesIn declarations options steps := by
  obtain ⟨names, _, _, outcomes⟩ := compile_outcomes declarations options
  obtain ⟨library, _, ⟨compiled, _, _⟩ | ⟨_, outcome⟩⟩ := outcomes budget
  swap
  · rw [outcome] at finishes
    exact absurd rfl finishes
  -- what is asked for in the end does not depend on the budget
  have count {other : Library} {diagnostics : List Diagnostic}
      (compiled' : Compiled options (Standard.prelude ++ declarations) names
        other diagnostics) : other.instances.length = library.instances.length :=
    Nat.le_antisymm
      (compiled'.coherent.length_instances_le compiled.coherent fun _ has =>
        compiled.has.2 (compiled'.has.1 has))
      (compiled.coherent.length_instances_le compiled'.coherent fun _ has =>
        compiled'.has.2 (compiled.has.1 has))
  have exhausted_iff (budget : Nat) :
      (compile declarations options budget).result = .error .budgetExhausted
        ↔ budget < library.instances.length := by
    obtain ⟨other, diagnostics, ⟨compiled', within, outcome⟩ | ⟨exhausted, outcome⟩⟩ :=
      outcomes budget
    · rw [count compiled'] at within
      rw [outcome]
      exact iff_of_false (Outcome.result_ofCompiled_ne _ _ _) (Nat.not_lt.2 within)
    · rw [outcome]
      refine iff_of_true rfl (Nat.lt_of_lt_of_le exhausted.budget ?_)
      exact exhausted.coherent.length_instances_le compiled.coherent fun _ has =>
        compiled.has.2 (exhausted.requested has)
  refine ⟨library.instances.length, ?_⟩
  exact {
    exhausted_iff := exhausted_iff _
    same := fun le => compile_mono le fun exhausted =>
      Nat.lt_irrefl _ ((exhausted_iff _).1 exhausted)
    applications := fun {returned} result => by
      refine ⟨(isCanonical_of_compile result).nodup_applications, ?_⟩
      obtain ⟨other, diagnostics, ⟨compiled', _, outcome⟩ | ⟨_, outcome⟩⟩ := outcomes _
      · rw [outcome] at result
        rw [Outcome.eq_of_result_ofCompiled _ _ _ result, Library.length_applications,
          (Library.marked_flagVirtual compiled'.specialization?_base).instances, count compiled']
      · rw [outcome] at result
        cases result
    depth := fun result found => by
      obtain ⟨_, _, compiled', marked⟩ := exists_compiled result
      exact (marked.revises.coherent compiled'.coherent).depth_le found }

/-- The worklist comes to its end where no type argument is an array of a
generic parameter. -/
theorem finishesIn_of_areUnwrapped (unwrapped : Declaration.areUnwrapped declarations = true)
    (options : Options) : ∃ steps, FinishesIn declarations options steps := by
  obtain ⟨names, state, prepared, outcomes⟩ := compile_outcomes declarations options
  obtain ⟨most, bound⟩ := prepared.exists_bound fun _ =>
    Registration.isUnwrapped_of_areUnwrapped unwrapped
  have finishes : (compile declarations options most).result ≠ .error .budgetExhausted := by
    obtain ⟨library, diagnostics, ⟨_, _, outcome⟩ | ⟨exhausted, _⟩⟩ := outcomes most
    · rw [outcome]
      exact Outcome.result_ofCompiled_ne _ _ _
    · have := bound library exhausted.coherent fun _ => exhausted.requested
      exact absurd exhausted.budget (Nat.not_lt.2 this)
  exact exists_finishesIn finishes

end Finishing

/-- A generic class that is nested in its own arguments, once more each time. -/
def Declaration.nesting : List Declaration :=
  [{ signature := "class Nest<T> extends Object"
     attributes := ["Nest<Nest<T>> inner", "T[] items", "Nest<int[]> numbers"] }]

theorem finishesIn_nesting : Declaration.areUnwrapped Declaration.nesting = true
    ∧ ∃ steps, FinishesIn Declaration.nesting { maxSpecializationDepth := 5 } steps := by
  have unwrapped : Declaration.areUnwrapped Declaration.nesting = true := by decide +kernel
  exact ⟨unwrapped, finishesIn_of_areUnwrapped unwrapped _⟩

end ClassModel
