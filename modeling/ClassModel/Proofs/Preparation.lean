import ClassModel.Proofs.Layout

/-!
# ClassModel.Proofs.Preparation

All stages before the instantiations are filled in, put together. After them
the library is coherent in the scope of the registered declarations, the
declared class-likes have contents that are computed by names, and every
instantiation is pending (`Prepared`).
-/

namespace ClassModel

/-! ## By names -/

/-- Compiling members adds no supertypes. -/
theorem NamedClass.hierarchy_compileMembers (scope : Scope) (options : Options)
    (declaration : Declaration) (named : NamedClass) :
    (named.compileMembers scope options declaration).value.superclass? = named.superclass?
      ∧ (named.compileMembers scope options declaration).value.interfaces = named.interfaces := by
  have folded {ι : Type} (step : NamedClass → ι → Traced NamedClass)
      (keeps : ∀ named i, (step named i).value.superclass? = named.superclass?
        ∧ (step named i).value.interfaces = named.interfaces) (is : List ι) (named : NamedClass) :
      (is.foldlM step named).value.superclass? = named.superclass?
        ∧ (is.foldlM step named).value.interfaces = named.interfaces := by
    induction is generalizing named with
    | nil => exact ⟨rfl, rfl⟩
    | cons i is ih =>
      rw [List.foldlM_cons, Traced.value_bind, (ih _).1, (ih _).2]
      exact keeps named i
  have attributes := folded (fun named signature => named.addAttribute scope options signature)
    (fun named signature => by
      unfold addAttribute
      rw [Traced.value_bind]
      split
      · exact ⟨rfl, rfl⟩
      · split <;> exact ⟨rfl, rfl⟩) declaration.attributes named
  have methods := folded (fun named (method : String × Body) =>
      named.addMethod scope options method.1 method.2)
    (fun named method => by
      unfold addMethod
      rw [Traced.value_bind]
      split <;> exact ⟨rfl, rfl⟩) declaration.methods
  rw [compileMembers, Traced.value_bind, Traced.value_bind, Traced.value_pure]
  exact ⟨(methods _).1.trans attributes.1, (methods _).2.trans attributes.2⟩

namespace Registration

/-- What the class-likes are after their registration. -/
def contentOf (registrations : List Registration) (name : String) : NamedClass :=
  match registrations.find? (·.identifier == name) with
  | some registration => registration.named
  | none => { bare := { identifier := name, visibility := .public, kind := .interface [] } }

variable (scope : Scope) (options : Options) (registrations : List Registration)

/-- The contents with supertypes, and without cycles. -/
noncomputable def hierarchy : Traced (String → NamedClass) := do
  let content ← resolveHeaders scope options registrations (contentOf registrations)
  cutAll (registrations.map identifier) content

/-- The contents with members, as yet without a layout. -/
noncomputable def members : Traced (String → NamedClass) := do
  let content ← hierarchy scope options registrations
  compileMembers scope options registrations content

end Registration

namespace Registration

variable {scope : Scope} {options : Options} {registrations : List Registration}
  {content : String → NamedClass}

/-- Members leave the hierarchy as it is. -/
theorem superName_compileMembers (nodup : (registrations.map identifier).Nodup) :
    superName (compileMembers scope options registrations content).value = superName content := by
  funext name
  rw [superName, superName]
  congr 1
  by_cases mem : name ∈ registrations.map identifier
  · obtain ⟨registration, mem', rfl⟩ := List.mem_map.1 mem
    rw [compileMembers, value_reviseAll nodup mem', (NamedClass.hierarchy_compileMembers ..).1]
  · rw [compileMembers, value_reviseAll_of_not_mem mem]

/-- The header of the root class names no supertypes. -/
theorem object_resolveHeaders (nodup : (registrations.map identifier).Nodup)
    (first : ∃ others, registrations = ⟨objectStart, Standard.objectClass⟩ :: others) :
    ((resolveHeaders scope options registrations (contentOf registrations)).value
        Standard.objectIdentifier).superclass? = none
      ∧ ((resolveHeaders scope options registrations (contentOf registrations)).value
        Standard.objectIdentifier).interfaces = [] := by
  obtain ⟨others, rfl⟩ := first
  have own : contentOf (⟨objectStart, Standard.objectClass⟩ :: others) Standard.objectIdentifier
      = (⟨objectStart, Standard.objectClass⟩ : Registration).named := by
    rw [contentOf, List.find?_cons_of_pos (by rfl)]
  have value : (resolveHeaders scope options (⟨objectStart, Standard.objectClass⟩ :: others)
      (contentOf (⟨objectStart, Standard.objectClass⟩ :: others))).value
        Standard.objectIdentifier = ((contentOf (⟨objectStart, Standard.objectClass⟩ :: others)
          Standard.objectIdentifier).resolveHeader scope options
            Standard.objectClass.signature []).value := value_reviseAll nodup List.mem_cons_self
  rw [value, own]
  exact ⟨rfl, rfl⟩

/-- Nothing is above the root class. -/
theorem superName_resolveHeaders (nodup : (registrations.map identifier).Nodup)
    (first : ∃ others, registrations = ⟨objectStart, Standard.objectClass⟩ :: others) :
    superName (resolveHeaders scope options registrations (contentOf registrations)).value
      Standard.objectIdentifier = none := by
  rw [superName, (object_resolveHeaders nodup first).1, Option.bind_none]

/-- The root class has no supertypes. -/
theorem object_members (nodup : (registrations.map identifier).Nodup)
    (first : ∃ others, registrations = ⟨objectStart, Standard.objectClass⟩ :: others) :
    ((members scope options registrations).value Standard.objectIdentifier).superclass? = none
      ∧ ((members scope options registrations).value Standard.objectIdentifier).interfaces
        = [] := by
  have header := @object_resolveHeaders scope options _ nodup first
  have root := @superName_resolveHeaders scope options _ nodup first
  have kept : (hierarchy scope options registrations).value Standard.objectIdentifier
      = (resolveHeaders scope options registrations (contentOf registrations)).value
        Standard.objectIdentifier := by
    rw [hierarchy, Traced.value_bind, value_cutAll root (not_isCyclic_of_superName_eq_none root)]
  obtain ⟨others, rfl⟩ := first
  have mem :
      ⟨objectStart, Standard.objectClass⟩ ∈ (⟨objectStart, Standard.objectClass⟩ :: others) :=
    List.mem_cons_self
  have same : Standard.objectIdentifier = identifier ⟨objectStart, Standard.objectClass⟩ := rfl
  rw [members, Traced.value_bind, compileMembers, same, value_reviseAll nodup mem, ← same, kept]
  obtain ⟨superclass, interfaces⟩ := NamedClass.hierarchy_compileMembers scope options
    Standard.objectClass
      ((resolveHeaders scope options (⟨objectStart, Standard.objectClass⟩ :: others)
      (contentOf (⟨objectStart, Standard.objectClass⟩ :: others))).value Standard.objectIdentifier)
  exact ⟨superclass.trans header.1, interfaces.trans header.2⟩

end Registration

/-! ## The registered library -/

namespace Library

/-- The declared class-likes and their generic parameters are numbered in the
order of the names. -/
structure Numbered (library : Library) (names : List String) : Prop where
  named : List.Forall₂ library.IsNamed library.types names
  types : ∃ count, library.types = (List.range count).map Id.mk
  parameters : ∃ count,
    library.types.flatMap library.parametersOf = (List.range count).map Id.mk

theorem Grows.numbered {before after : Library} {focus : ClassId → Prop} {names : List String}
    (h : before.Grows focus after) (numbered : before.Numbered names) : after.Numbered names := by
  obtain ⟨named, types, parameters⟩ := numbered
  rw [← h.types] at named types parameters
  refine ⟨named.imp fun _ _ => h.isNamed_iff.2, types, ?_⟩
  obtain ⟨count, same⟩ := parameters
  refine ⟨count, same ▸ List.flatMap_congr fun id mem => ?_⟩
  obtain ⟨name, _, isNamed⟩ := Related.exists_of_mem named.flip mem
  exact h.parametersOf isNamed

end Library

namespace Library.Registered

variable {library : Library} {registrations : List Registration} {options : Options}

theorem isNamed_iff (registered : library.Registered (registrations.map Registration.entry))
    {id : ClassId} {name : String} : library.IsNamed id name
      ↔ ∃ registration ∈ registrations, registration.identifier = name
        ∧ library.Holds id registration.entry := by
  constructor
  · rintro ⟨classLike, declared, rfl⟩
    obtain ⟨registration, mem, holds⟩ := registered.exists_holds declared.1
    exact ⟨registration, mem, IsNamed.name_inj holds.isNamed ⟨classLike, declared, rfl⟩, holds⟩
  · rintro ⟨registration, _, rfl, holds⟩
    exact holds.isNamed

theorem exists_isNamed_iff (registered : library.Registered (registrations.map Registration.entry))
    {name : String} :
    (∃ id, library.IsNamed id name) ↔ name ∈ registrations.map Registration.identifier := by
  rw [List.mem_map]
  constructor
  · rintro ⟨id, isNamed⟩
    obtain ⟨registration, mem, same, _⟩ := registered.isNamed_iff.1 isNamed
    exact ⟨registration, mem, same⟩
  · rintro ⟨registration, mem, rfl⟩
    obtain ⟨id, _, holds⟩ :=
      Related.exists_of_mem registered.holds (List.mem_map_of_mem (f := Registration.entry) mem)
    exact ⟨id, holds.isNamed⟩

theorem isNamed_types (registered : library.Registered (registrations.map Registration.entry)) :
    List.Forall₂ library.IsNamed library.types (registrations.map Registration.identifier) := by
  rw [List.forall₂_map_right_iff]
  exact (List.forall₂_map_right_iff.1 registered.holds).imp fun _ _ holds => holds.isNamed

theorem realizes (registered : library.Registered (registrations.map Registration.entry))
    (sound : Registration.Sound registrations) :
    library.Realizes (Registration.scopeOf registrations) options
      (Registration.contentOf registrations) := by
  intro id name isNamed
  obtain ⟨registration, mem, rfl, holds⟩ := registered.isNamed_iff.1 isNamed
  rw [Registration.contentOf, registered.find?_eq mem]
  exact spells sound mem holds

/-- What is registered is numbered in the order of the registrations. -/
theorem numbered (registered : library.Registered (registrations.map Registration.entry)) :
    library.Numbered (registrations.map Registration.identifier) :=
  ⟨registered.isNamed_types, ⟨_, registered.ids.symm⟩, ⟨_, registered.parameterIds⟩⟩

theorem instances_eq (registered : library.Registered (registrations.map Registration.entry)) :
    library.instances = [] := by
  refine List.eq_nil_iff_forall_not_mem.2 fun id mem => ?_
  obtain ⟨specialization, found⟩ := Option.isSome_iff_exists.1 (mem_instances.1 mem)
  obtain ⟨classLike, known, specialized⟩ := specialization?_eq_some found
  cases specialized.symm.trans (registered.isDeclared known).2

end Library.Registered

/-! ## The stages -/

namespace Build

/-- The stages before the instantiations are filled in. -/
def prepare (options : Options) (declarations : List Declaration) : Build Unit := do
  let intakes ← registerAll options declarations
  intakes.forM (resolveHeader options)
  breakCycles
  intakes.forM fun intake => compileMembers options intake.id
  layOutAll

theorem compileAll_eq (options : Options) (budget : Nat) (declarations : List Declaration) :
    compileAll options budget declarations = prepare options declarations >>= fun _ =>
      materializeAll options budget >>= fun _ =>
        library >>= fun library => setLibrary library.flagVirtual := by
  simp only [compileAll, prepare, bind_assoc]

end Build

section Prepared

variable (options : Options) (declarations : List Declaration)

/-- The declarations that are registered. -/
def registrationsOf : List Registration := (Registration.readAll {} [] declarations).value

/-- The scope of a compilation. -/
def scopeOf : Scope := Registration.scopeOf (registrationsOf declarations)

/-- The names that are declared. -/
def declaredNames : List String := (registrationsOf declarations).map Registration.identifier

theorem nodup_declaredNames : (declaredNames declarations).Nodup := by
  have nodup := @Registration.nodup_readAll {} [] declarations (by simp)
  rwa [List.nil_append] at nodup

/-- The contents before the layout. -/
noncomputable def membersOf : Traced (String → NamedClass) :=
  Registration.members (scopeOf declarations) options (registrationsOf declarations)

/-- The contents, laid out in the order of the names. -/
noncomputable def contentOf (names : List String) : String → NamedClass :=
  (layOutAll names (membersOf options declarations).value).value

/-- What happens before the instantiations are filled in. -/
noncomputable def preparation (names : List String) : List Event :=
  (Registration.readAll options [] declarations).events
    ++ ((membersOf options declarations).events
      ++ (layOutAll names (membersOf options declarations).value).events)

/-- The state before the instantiations are filled in, after a layout in the
order of the names. -/
structure Prepared (names : List String) (state : BuildState) : Prop where
  ordered : Walk.Ordered (superName (membersOf options declarations).value) names
  covers {name : String} : name ∈ names ↔ name ∈ declaredNames declarations
  coherent : state.library.Coherent (scopeOf declarations) options
  numbered : state.library.Numbered (declaredNames declarations)
  realizes :
    state.library.Realizes (scopeOf declarations) options (contentOf options declarations names)
  instances : state.library.instances = state.pending
  has {tree : TypeTree} :
    state.library.Has tree ↔ tree ∈ requests (preparation options declarations names)
  log : List.Forall₂ state.library.Tells state.log.toList
    (reports (preparation options declarations names))

end Prepared

namespace Refines

variable {scope : Scope} {options : Options} {registrations : List Registration}
  {intakes : List Intake} {state : BuildState}

/-- What is taken in stays so. -/
theorem takes_of_grows {before after : Library} {focus : ClassId → Prop}
    (h : before.Grows focus after) (takes : List.Forall₂ before.Takes intakes registrations) :
    List.Forall₂ after.Takes intakes registrations :=
  takes.imp fun _ _ takes => ⟨h.isNamed_iff.2 takes.isNamed, takes.signature, takes.rest⟩

/-- The second stage follows its counterpart by names. -/
theorem hierarchy (registered : state.library.Registered (registrations.map Registration.entry))
    (coherent : state.library.Coherent scope options)
    (realizes : state.library.Realizes scope options (Registration.contentOf registrations))
    (takes : List.Forall₂ state.library.Takes intakes registrations) :
    Refines scope options Library.anybody state
      (intakes.forM (Build.resolveHeader options) >>= fun _ => Build.breakCycles)
      (Registration.hierarchy scope options registrations) fun after _ content =>
        after.Realizes scope options content := by
  refine (resolveHeaders coherent realizes takes).bind fun _ second coherent grows realizes => ?_
  have named : List.Forall₂ second.library.IsNamed second.library.types
      (registrations.map Registration.identifier) := by
    rw [grows.types]
    exact registered.isNamed_types.imp fun _ _ => grows.isNamed_iff.2
  exact breakCycles coherent realizes named

/-- The stages between the registration and the layout follow their
counterparts by names. -/
theorem members (registered : state.library.Registered (registrations.map Registration.entry))
    (coherent : state.library.Coherent scope options)
    (realizes : state.library.Realizes scope options (Registration.contentOf registrations))
    (takes : List.Forall₂ state.library.Takes intakes registrations) :
    Refines scope options Library.anybody state (do
        intakes.forM (Build.resolveHeader options)
        Build.breakCycles
        intakes.forM fun intake => Build.compileMembers options intake.id)
      (Registration.members scope options registrations) fun after _ content =>
        after.Realizes scope options content := by
  rw [← bind_assoc, Registration.members]
  refine (hierarchy registered coherent realizes takes).bind
    fun _ second coherent' grows realizes' => ?_
  refine compileAllMembers coherent' realizes' (takes_of_grows grows takes)
    fun registration mem => ?_
  obtain ⟨id, isNamed⟩ := registered.exists_isNamed_iff.2 (List.mem_map_of_mem mem)
  rw [grows.prototype?_eq realizes realizes' isNamed, Registration.contentOf,
    registered.find?_eq mem]
  rfl

end Refines

/-- There are no cycles after the second stage. -/
theorem not_isCyclic_membersOf {options : Options} {declarations : List Declaration}
    (nodup : (declaredNames declarations).Nodup)
    (sound : Registration.Sound (registrationsOf declarations)) {name : String}
    (mem : name ∈ declaredNames declarations) :
    ¬ IsCyclic (membersOf options declarations).value name := by
  have root : superName (Registration.resolveHeaders (scopeOf declarations) options
      (registrationsOf declarations) (Registration.contentOf (registrationsOf declarations))).value
        Standard.objectIdentifier = none :=
    Registration.superName_resolveHeaders nodup sound.first
  have same : superName (membersOf options declarations).value
      = superName (Registration.hierarchy (scopeOf declarations) options
        (registrationsOf declarations)).value :=
    Registration.superName_compileMembers nodup
  unfold IsCyclic
  rw [same]
  exact (not_isCyclic_cutAll root).1 name mem

/-- The stages before the instantiations are filled in come to their end. -/
theorem Build.yields_prepare (options : Options) {declarations : List Declaration}
    (sound : Registration.Sound (registrationsOf declarations)) :
    (prepare options declarations).Yields {} fun _ after =>
      ∃ names, Prepared options declarations names after := by
  unfold prepare
  rw [Build.yields_bind]
  refine (Registering.registerAll_start options declarations).mono
    fun intakes second ⟨registering, takes⟩ => ?_
  have registered : second.library.Registered
      ((registrationsOf declarations).map Registration.entry) := registering.registered
  have coherent :
      second.library.Coherent (scopeOf declarations) options := registered.coherent sound
  have nodup := nodup_declaredNames declarations
  rw [show (intakes.forM (resolveHeader options) >>= fun _ => breakCycles >>= fun _ =>
        (intakes.forM fun intake => compileMembers options intake.id) >>= fun _ => layOutAll)
      = (intakes.forM (resolveHeader options) >>= fun _ => breakCycles >>= fun _ =>
        intakes.forM fun intake => compileMembers options intake.id) >>= fun _ => layOutAll by
    simp only [bind_assoc], Build.yields_bind]
  have members := Refines.members registered coherent (registered.realizes sound) takes
  refine Build.Yields.mono members fun _ third ⟨coherent', steps, realizes⟩ => ?_
  have isNamed {name : String} : (∃ id, third.library.IsNamed id name)
      ↔ name ∈ declaredNames declarations :=
    (exists_congr fun _ => steps.grows.isNamed_iff).trans registered.exists_isNamed_iff
  obtain ⟨names, ordered, covers, laidOut⟩ := Refines.layOutAll coherent' realizes
    fun id name named => not_isCyclic_membersOf nodup sound (isNamed.1 ⟨id, named⟩)
  refine Build.Yields.mono laidOut fun _ last ⟨coherent'', steps', realizes'⟩ => ⟨names, ?_⟩
  have steps'' := steps.trans steps'
  exact {
    ordered := ordered
    covers := (covers _).trans isNamed
    coherent := coherent''
    numbered := steps''.grows.numbered registered.numbered
    realizes := realizes'
    instances := by
      obtain ⟨created, pending, instances⟩ := steps''.pending
      rw [pending, instances, registered.instances_eq, registering.pending]
    has := fun {tree} => by
      rw [preparation, requests_append, registering.requests, List.nil_append]
      refine (steps''.has tree).trans (or_iff_right fun ⟨_, isInstance⟩ => ?_)
      exact registered.not_isInstance isInstance
    log := by
      obtain ⟨diagnostics, log, tells⟩ := registering.log
      obtain ⟨diagnostics', log', tells'⟩ := steps''.log
      rw [log', log, preparation, reports_append]
      exact List.rel_append (tells.imp fun _ _ => steps''.grows.tells) tells' }

end ClassModel
