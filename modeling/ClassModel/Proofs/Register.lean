import ClassModel.Proofs.Name
import ClassModel.Proofs.Worklist

/-!
# ClassModel.Proofs.Register

The first stage by names. A `Registration` is a declaration with the start of
its header; a declaration is accepted if its name is not taken. After the stage
the library holds the accepted declarations and nothing else, which makes it
coherent in their scope (`Registered.coherent`).
-/

namespace ClassModel

/-! ## By names -/

/-- Names stay distinct when one that is not among them is added. -/
theorem nodup_map_concat {α : Type} {name : α → String} {items : List α} {item : α}
    (nodup : (items.map name).Nodup) (free : items.any (name · == name item) = false) :
    ((items ++ [item]).map name).Nodup := by
  rw [List.map_append, List.nodup_append]
  refine ⟨nodup, by simp, ?_⟩
  rintro _ mem _ mem' rfl
  obtain ⟨other, mem, same⟩ := List.mem_map.1 mem
  have away := List.any_eq_false.1 free other mem
  simp only [List.map_cons, List.map_nil, List.mem_singleton] at mem'
  simp [same, mem'] at away

/-- A declaration with the start of its header. -/
structure Registration where
  start : HeaderStart
  declaration : Declaration

namespace Registration

variable (registration : Registration)

def identifier : String := registration.start.identifier

/-- The class-like without generic parameters. -/
def shell : ClassLike := registration.start.classLike registration.declaration

/-- The names of the generic parameters. -/
def parameters : List String :=
  if registration.start.kind.isEnum then [] else ParameterNames.read registration.start.rest

def shape : Shape := ⟨registration.start.kind.keyword, registration.parameters⟩

/-- What is known of the class-like after its registration. -/
def named : NamedClass where
  bare := registration.shell.bare
  parameters := registration.parameters.map ({ identifier := · })

/-- The class-likes that the registrations declare. -/
def scopeOf (registrations : List Registration) : Scope := fun name =>
  (registrations.find? (·.identifier == name)).map (·.shape)

theorem exists_of_scopeOf {registrations : List Registration} {name : String} {shape : Shape}
    (known : scopeOf registrations name = some shape) :
    ∃ registration ∈ registrations, registration.identifier = name
      ∧ registration.shape = shape := by
  rw [scopeOf, Option.map_eq_some_iff] at known
  obtain ⟨registration, found, same⟩ := known
  exact ⟨registration, List.mem_of_find?_eq_some found, by simpa using List.find?_some found, same⟩

/-- Registrations are told apart by their names. -/
theorem find?_of_nodup {registrations : List Registration}
    (nodup : (registrations.map identifier).Nodup) {registration : Registration}
    (mem : registration ∈ registrations) :
    registrations.find? (·.identifier == registration.identifier) = some registration := by
  cases found : registrations.find? (·.identifier == registration.identifier) with
  | none => simpa using List.find?_eq_none.1 found registration mem
  | some other =>
    have same : other.identifier = registration.identifier := by
      simpa using List.find?_some found
    rw [List.inj_on_of_nodup_map nodup (List.mem_of_find?_eq_some found) mem same]

/-- Registers a declaration besides others. -/
def read? (options : Options) (taken : List Registration) (declaration : Declaration) :
    Traced (Option Registration) := do
  let signature := declaration.signature
  match HeaderStart.read (← Traced.tokens signature) with
  | .error (.noKeyword found) =>
    Traced.report (.unrecognizedKeyword signature found options.strict)
    return none
  | .error (.noIdentifier unmet) =>
    Traced.report (.unexpectedToken signature unmet)
    return none
  | .ok start =>
    if taken.any (·.identifier == start.identifier) then
      Traced.reportOf (.redefinedClassLike .placeholder signature) [.declared start.identifier 0]
      return none
    else return some ⟨start, declaration⟩

/-- Registers declarations in their order. -/
def readAll (options : Options) (taken : List Registration) :
    List Declaration → Traced (List Registration)
  | [] => return []
  | declaration :: declarations => do
    let registration? ← read? options taken declaration
    let registrations ← readAll options (taken ++ registration?.toList) declarations
    return registration?.toList ++ registrations

/-- The options have to do with what is reported only. -/
theorem value_read? (options options' : Options) (taken : List Registration)
    (declaration : Declaration) :
    (read? options taken declaration).value = (read? options' taken declaration).value := by
  unfold read?
  rw [Traced.value_bind, Traced.value_bind]
  rcases HeaderStart.read (Traced.tokens declaration.signature).value with (_ | _) | _ <;> rfl

theorem value_readAll (options options' : Options) (taken : List Registration)
    (declarations : List Declaration) :
    (readAll options taken declarations).value = (readAll options' taken declarations).value := by
  induction declarations generalizing taken with
  | nil => rfl
  | cons declaration declarations ih =>
    simp only [readAll, Traced.value_bind, Traced.value_pure, value_read? options options', ih]

/-- Further declarations are registered after the others. -/
theorem readAll_append (options : Options) (taken : List Registration)
    (declarations further : List Declaration) : readAll options taken (declarations ++ further) = do
      let registrations ← readAll options taken declarations
      let more ← readAll options (taken ++ registrations) further
      return registrations ++ more := by
  induction declarations generalizing taken with
  | nil => simp [readAll]
  | cons declaration declarations ih =>
    simp only [List.cons_append, readAll, ih, bind_assoc, pure_bind, List.append_assoc]

end Registration

/-- Further declarations are registered after the others. -/
theorem Build.registerAll_append (options : Options) (declarations further : List Declaration) :
    registerAll options (declarations ++ further) = do
      let intakes ← registerAll options declarations
      let more ← registerAll options further
      return intakes ++ more := by
  induction declarations with
  | nil => simp [registerAll]
  | cons declaration declarations ih =>
    simp only [List.cons_append, registerAll, ih, bind_assoc, pure_bind, List.append_assoc]

/-! ## The library -/

namespace Library

/-- The class-like is the registered one, with generic parameters of the
names. -/
def Holds (library : Library) (id : ClassId) (entry : Registration × List String) : Prop :=
  ∃ parameters : List ParameterId,
    library.classLike? id = some { entry.1.shell with genericParameters := parameters }
      ∧ parameters.Nodup
      ∧ List.Forall₂ (fun parameter name =>
          library.parameter? parameter = some { identifier := name, owner := id })
        parameters entry.2

theorem Holds.isNamed {library : Library} {id : ClassId} {entry : Registration × List String}
    (holds : library.Holds id entry) : library.IsNamed id entry.1.identifier := by
  obtain ⟨parameters, known, _⟩ := holds
  exact ⟨_, ⟨known, rfl⟩, rfl⟩

/-- The library holds the registered class-likes, with the generic parameters
that were created for them, and nothing else. -/
structure Registered (library : Library) (entries : List (Registration × List String)) :
    Prop where
  ids : library.classLikes.ids = library.types
  typeCache : library.typeCache = []
  holds : List.Forall₂ library.Holds library.types entries
  names : (entries.map (·.1.identifier)).Nodup
  owner {parameter : ParameterId} {found : GenericParameter} :
    library.parameter? parameter = some found → ∃ classLike,
      library.classLike? found.owner = some classLike ∧ parameter ∈ classLike.genericParameters
  parameterIds : library.types.flatMap library.parametersOf = library.parameters.ids

namespace Registered

variable {library : Library} {entries : List (Registration × List String)}

theorem empty : Library.empty.Registered [] where
  ids := rfl
  typeCache := rfl
  holds := .nil
  names := .nil
  owner known := by simp [Library.empty, parameter?] at known
  parameterIds := rfl

/-- Every class-like is a registered one. -/
theorem exists_entry (registered : library.Registered entries) {id : ClassId}
    {classLike : ClassLike} (known : library.classLike? id = some classLike) :
    ∃ entry ∈ entries, library.Holds id entry := by
  have mem : id ∈ library.types := by
    rw [← registered.ids, Arena.mem_ids, ← Arena.isSome_get?]
    exact Option.isSome_iff_exists.2 ⟨classLike, known⟩
  exact Related.exists_of_mem (List.Forall₂.flip registered.holds) mem

theorem isDeclared (registered : library.Registered entries) {id : ClassId}
    {classLike : ClassLike} (known : library.classLike? id = some classLike) :
    library.IsDeclared id classLike := by
  obtain ⟨entry, _, parameters, known', _⟩ := registered.exists_entry known
  cases known.symm.trans known'
  exact ⟨known, rfl⟩

/-- A name is found if it is registered. -/
theorem isSome_byIdentifier? (registered : library.Registered entries) (name : String) :
    (library.byIdentifier? name).isSome = entries.any (·.1.identifier == name) := by
  rw [byIdentifier?, List.isSome_find?]
  refine Related.any_eq registered.holds fun id entry holds => ?_
  obtain ⟨parameters, known, _⟩ := holds
  rw [known]
  rfl

theorem isNamed_of_byIdentifier? (registered : library.Registered entries) {name : String}
    {id : ClassId} (found : library.byIdentifier? name = some id) : library.IsNamed id name := by
  have bears := List.find?_some found
  cases known : library.classLike? id with
  | none => simp [known] at bears
  | some classLike => exact ⟨classLike, registered.isDeclared known, by simpa [known] using bears⟩

/-- Only declared class-likes are denoted. -/
theorem denotes_classLike (registered : library.Registered entries) {id : ClassId}
    {tree : TypeTree} (denotes : library.Denotes (.classLike id) tree) :
    ∃ name, tree = .declared name 0 ∧ library.IsNamed id name := by
  obtain ⟨name, same, isNamed⟩ | ⟨_, _, _, isInstance⟩ := denotes.classLike_cases
  · exact ⟨name, same, isNamed⟩
  · obtain ⟨classLike, _, known, specialized⟩ := isInstance.exists_specialization
    cases specialized.symm.trans (registered.isDeclared known).2

/-! ## Insertion -/

theorem classLike?_insert {shell : ClassLike} {id : ClassId} {classLike : ClassLike}
    (known : library.classLike? id = some classLike) :
    (library.insert shell).2.classLike? id = some classLike := by
  have old : id ≠ library.classLikes.nextId := by
    rintro rfl
    simp [classLike?_nextId] at known
  rw [← known]
  exact (Arena.get?_insert ..).trans (if_neg old)

theorem parameter?_nextId (library : Library) :
    library.parameter? library.parameters.nextId = none := by
  rw [← Option.not_isSome_iff_eq_none, parameter?, Arena.isSome_get?]
  simp [Arena.contains, Arena.nextId]

section Insert

variable {registration : Registration}

/-- A name that is taken is not registered again. -/
theorem register_taken (registered : library.Registered entries)
    (taken : entries.any (·.1.identifier == registration.identifier) = true) :
    ∃ existing, library.register registration.shell = .error existing
      ∧ library.IsNamed existing registration.identifier := by
  rw [← registered.isSome_byIdentifier?, Option.isSome_iff_exists] at taken
  obtain ⟨existing, found⟩ := taken
  refine ⟨existing, ?_, registered.isNamed_of_byIdentifier? found⟩
  rw [register, show registration.shell.identifier = registration.identifier from rfl, found]

/-- A name that is not taken is registered. -/
theorem register_new (registered : library.Registered entries)
    (new : entries.any (·.1.identifier == registration.identifier) = false) :
    ∃ library', library.register registration.shell = .ok (library.classLikes.nextId, library')
      ∧ library'.Registered (entries ++ [(registration, [])])
      ∧ library'.types = library.types ++ [library.classLikes.nextId]
      ∧ ∀ id name, library.IsNamed id name → library'.IsNamed id name := by
  have absent : library.byIdentifier? registration.identifier = none := by
    rw [← Option.not_isSome_iff_eq_none, registered.isSome_byIdentifier?, new]
    simp
  refine ⟨{ (library.insert registration.shell).2 with
    types := library.types ++ [library.classLikes.nextId] }, ?_, ?_, rfl, ?_⟩
  · rw [register, show registration.shell.identifier = registration.identifier from rfl, absent]
    rfl
  · exact {
      ids := by
        rw [← registered.ids]
        exact Arena.ids_eq_append (Arena.size_insert ..)
      typeCache := registered.typeCache
      holds := by
        refine List.rel_append (registered.holds.imp ?_) (.cons ⟨[], ?_, .nil, .nil⟩ .nil)
        · rintro id entry ⟨parameters, known, nodup, all⟩
          exact ⟨parameters, classLike?_insert known, nodup, all⟩
        · exact (Arena.get?_insert ..).trans (if_pos rfl)
      names := nodup_map_concat registered.names new
      owner := by
        intro parameter found known
        obtain ⟨classLike, known, mem⟩ := registered.owner known
        exact ⟨classLike, classLike?_insert known, mem⟩
      parameterIds := by
        show (library.types ++ [library.classLikes.nextId]).flatMap
          (library.insert registration.shell).2.parametersOf = library.parameters.ids
        have own : (library.insert registration.shell).2.parametersOf library.classLikes.nextId
            = [] := by
          rw [parametersOf, show (library.insert registration.shell).2.classLike? _ = some _ from
            (Arena.get?_insert ..).trans (if_pos rfl)]
          rfl
        rw [List.flatMap_append, List.flatMap_singleton, own, List.append_nil,
          ← registered.parameterIds]
        refine List.flatMap_congr fun id mem => ?_
        obtain ⟨_, _, _, known, _⟩ := Related.exists_of_mem registered.holds.flip mem
        rw [parametersOf, parametersOf, known, classLike?_insert known] }
  · rintro id name ⟨classLike, declared, same⟩
    exact ⟨classLike, ⟨classLike?_insert declared.1, declared.2⟩, same⟩

/-- What was registered last, and what was registered before. -/
theorem exists_last {entry : Registration × List String} {owner : ClassId}
    (registered : library.Registered (entries ++ [entry]))
    (last : library.types.getLast? = some owner) : ∃ earlier, library.types = earlier ++ [owner]
      ∧ List.Forall₂ library.Holds earlier entries ∧ library.Holds owner entry := by
  obtain ⟨owner', listed, holds⟩ : ∃ owner', library.types.drop entries.length = [owner']
      ∧ library.Holds owner' entry := by
    have rest := List.forall₂_drop_append _ _ _ registered.holds
    generalize library.types.drop entries.length = listed at rest
    cases rest with
    | cons holds none =>
      cases none
      exact ⟨_, rfl, holds⟩
  have split := (List.take_append_drop entries.length library.types).symm
  rw [listed] at split
  have same := last
  rw [split, List.getLast?_concat] at same
  obtain rfl := Option.some.inj same
  exact ⟨_, split, List.forall₂_take_append _ _ _ registered.holds, holds⟩

end Insert

end Registered

/-! ## Generic parameters -/

/-- The library with another generic parameter for the class-like. -/
def withParameter (library : Library) (owner : ClassId) (name : String) : Library :=
  (library.insertParameter { identifier := name, owner }).2.modify owner fun classLike =>
    { classLike with
      genericParameters := classLike.genericParameters ++ [library.parameters.nextId] }

section WithParameter

variable {library : Library} {owner id : ClassId} {name : String}

theorem classLike?_withParameter (library : Library) (owner id : ClassId) (name : String) :
    (library.withParameter owner name).classLike? id = if owner = id then
        (library.classLike? id).map fun classLike => { classLike with
          genericParameters := classLike.genericParameters ++ [library.parameters.nextId] }
      else library.classLike? id := by
  rw [withParameter, classLike?_modify]
  rfl

theorem parameter?_withParameter (library : Library) (owner : ClassId) (name : String)
    (id : ParameterId) : (library.withParameter owner name).parameter? id
      = if id = library.parameters.nextId then some { identifier := name, owner := owner }
        else library.parameter? id :=
  Arena.get?_insert ..

/-- The generic parameters that were there are still there. -/
theorem parameter?_withParameter_of_some {parameter : ParameterId} {found : GenericParameter}
    (known : library.parameter? parameter = some found) :
    (library.withParameter owner name).parameter? parameter = some found := by
  have old : parameter ≠ library.parameters.nextId := by
    rintro rfl
    simp [Registered.parameter?_nextId] at known
  rw [parameter?_withParameter, if_neg old, known]

theorem parametersOf_withParameter_of_ne (away : owner ≠ id) :
    (library.withParameter owner name).parametersOf id = library.parametersOf id := by
  rw [parametersOf, parametersOf, classLike?_withParameter, if_neg away]

theorem parametersOf_withParameter {classLike : ClassLike}
    (known : library.classLike? owner = some classLike) :
    (library.withParameter owner name).parametersOf owner
      = library.parametersOf owner ++ [library.parameters.nextId] := by
  rw [parametersOf, parametersOf, classLike?_withParameter, if_pos rfl, known]
  rfl

theorem IsNamed.withParameter {named : String} (isNamed : library.IsNamed id named) :
    (library.withParameter owner name).IsNamed id named := by
  obtain ⟨classLike, declared, same⟩ := isNamed
  rw [IsNamed]
  simp only [IsDeclared, classLike?_withParameter, declared.1]
  split
  · exact ⟨_, ⟨rfl, declared.2⟩, same⟩
  · exact ⟨classLike, ⟨rfl, declared.2⟩, same⟩

/-- Other class-likes are not touched. -/
theorem Holds.withParameter_of_ne {entry : Registration × List String} (away : owner ≠ id)
    (holds : library.Holds id entry) : (library.withParameter owner name).Holds id entry := by
  obtain ⟨parameters, known, nodup, all⟩ := holds
  refine ⟨parameters, ?_, nodup, all.imp fun _ _ => parameter?_withParameter_of_some⟩
  rw [classLike?_withParameter, if_neg away, known]

/-- The class-like has one more generic parameter. -/
theorem Holds.withParameter {registration : Registration} {names : List String}
    (holds : library.Holds owner (registration, names)) :
    (library.withParameter owner name).Holds owner (registration, names ++ [name]) := by
  obtain ⟨parameters, known, nodup, all⟩ := holds
  have new : library.parameters.nextId ∉ parameters := by
    intro mem
    obtain ⟨_, _, known⟩ := Related.exists_of_mem (List.Forall₂.flip all) mem
    simp [Registered.parameter?_nextId] at known
  refine ⟨parameters ++ [library.parameters.nextId], ?_, ?_, ?_⟩
  · rw [classLike?_withParameter, if_pos rfl, known]
    rfl
  · exact List.nodup_append.2 ⟨nodup, by simp, by
      rintro _ mem _ mem' rfl
      exact new (List.mem_singleton.1 mem' ▸ mem)⟩
  · refine List.rel_append (all.imp fun _ _ => parameter?_withParameter_of_some) (.cons ?_ .nil)
    rw [parameter?_withParameter, if_pos rfl]

end WithParameter

namespace Registered

variable {library : Library} {entries : List (Registration × List String)}
  {registration : Registration} {names : List String} {owner : ClassId}

/-- The class-like that was registered last is not among the earlier ones. -/
theorem ne_of_mem_earlier {earlier : List ClassId}
    (registered : library.Registered entries) (types : library.types = earlier ++ [owner])
    {id : ClassId} (mem : id ∈ earlier) : owner ≠ id := by
  have distinct : (earlier ++ [owner]).Nodup := by
    rw [← types, ← registered.ids]
    exact Arena.nodup_ids _
  exact fun same => (List.nodup_append.1 distinct).2.2 id mem owner (by simp) same.symm

/-- The owners of the generic parameters still list them. -/
theorem owner_withParameter (registered : library.Registered entries) {classLike : ClassLike}
    (known : library.classLike? owner = some classLike) {name : String} {parameter : ParameterId}
    {found : GenericParameter}
    (known' : (library.withParameter owner name).parameter? parameter = some found) :
    ∃ classLike, (library.withParameter owner name).classLike? found.owner = some classLike
      ∧ parameter ∈ classLike.genericParameters := by
  rw [parameter?_withParameter] at known'
  split at known'
  · next same =>
    cases known'
    rw [same, classLike?_withParameter, if_pos rfl, known]
    exact ⟨_, rfl, by simp⟩
  · obtain ⟨classLike, known'', mem⟩ := registered.owner known'
    rw [classLike?_withParameter, known'']
    split
    · exact ⟨_, rfl, by simp [mem]⟩
    · exact ⟨classLike, rfl, mem⟩

/-- Another generic parameter is created for the class-like that was registered
last. -/
theorem withParameter (registered : library.Registered (entries ++ [(registration, names)]))
    (last : library.types.getLast? = some owner) (name : String) :
    (library.withParameter owner name).Registered
      (entries ++ [(registration, names ++ [name])]) := by
  obtain ⟨earlier, types, holds, own⟩ := registered.exists_last last
  have ⟨_, known, _⟩ := own
  have away {id : ClassId} (mem : id ∈ earlier) : owner ≠ id :=
    registered.ne_of_mem_earlier types mem
  have types' : (library.withParameter owner name).types = earlier ++ [owner] := types
  have others : List.Forall₂ (flip (library.withParameter owner name).Holds) entries earlier :=
    Related.imp holds.flip fun _ mem _ holds => Holds.withParameter_of_ne (away mem) holds
  exact {
    ids := by simpa [Arena.ids, Library.withParameter, insertParameter, modify] using registered.ids
    typeCache := registered.typeCache
    holds := types' ▸ List.rel_append others.flip (.cons own.withParameter .nil)
    names := by simpa using registered.names
    owner := registered.owner_withParameter known
    parameterIds := by
      have ids : (library.withParameter owner name).parameters.ids
          = library.parameters.ids ++ [library.parameters.nextId] :=
        Arena.ids_eq_append (Arena.size_insert ..)
      have others : earlier.flatMap (library.withParameter owner name).parametersOf
          = earlier.flatMap library.parametersOf :=
        List.flatMap_congr fun id mem => parametersOf_withParameter_of_ne (away mem)
      rw [types', List.flatMap_append, others, List.flatMap_singleton,
        parametersOf_withParameter known, ids, ← registered.parameterIds, types,
        List.flatMap_append, List.flatMap_singleton, List.append_assoc] }

end Registered

end Library

/-! ## The stage -/

/-- What the registration of declarations does to the state. -/
structure Registering (entries : List (Registration × List String)) (before after : BuildState)
    (events : List Event) : Prop where
  registered : after.library.Registered entries
  isNamed {id : ClassId} {name : String} :
    before.library.IsNamed id name → after.library.IsNamed id name
  log : ∃ diagnostics, after.log.toList = before.log.toList ++ diagnostics
    ∧ List.Forall₂ after.library.Tells diagnostics (reports events)
  pending : after.pending = before.pending
  requests : requests events = []

namespace Registering

variable {entries entries' : List (Registration × List String)}
  {first before after third state : BuildState} {events events' : List Event}

theorem refl (registered : state.library.Registered entries) : Registering entries state state []
    where
  registered := registered
  isNamed := id
  log := ⟨[], by simp, .nil⟩
  pending := rfl
  requests := rfl

theorem trans (h : Registering entries first before events)
    (h' : Registering entries' before third events') :
    Registering entries' first third (events ++ events') where
  registered := h'.registered
  isNamed isNamed := h'.isNamed (h.isNamed isNamed)
  log := by
    obtain ⟨diagnostics, log, tells⟩ := h.log
    obtain ⟨diagnostics', log', tells'⟩ := h'.log
    refine ⟨diagnostics ++ diagnostics', by rw [log', log, List.append_assoc], ?_⟩
    rw [reports_append]
    refine List.rel_append (tells.imp fun diagnostic named tells => ⟨tells.1, ?_⟩) tells'
    refine tells.2.imp fun id tree denotes => ?_
    obtain ⟨name, rfl, isNamed⟩ := h.registered.denotes_classLike denotes
    obtain ⟨classLike, declared, same⟩ := h'.isNamed isNamed
    exact ⟨id, classLike, rfl, declared, same⟩
  pending := h'.pending.trans h.pending
  requests := by rw [requests_append, h.requests, h'.requests, List.append_nil]

/-- A problem is reported. -/
theorem report {diagnostic bare : Diagnostic} {mentioned : List TypeTree}
    (registered : state.library.Registered entries) (same : diagnostic.bare = bare)
    (tells : List.Forall₂ (fun id tree => state.library.Denotes (.classLike id) tree)
      diagnostic.mentioned mentioned) :
    Registering entries state { state with log := state.log.report diagnostic }
      (Traced.reportOf bare mentioned).events where
  registered := registered
  isNamed := id
  log := ⟨[diagnostic], by simp, .cons ⟨same, tells⟩ .nil⟩
  pending := rfl
  requests := rfl

theorem reportAll (signature : String) (errors : List LexicalError)
    (registered : state.library.Registered entries) :
    (errors.forM fun error => Build.report (.lexical signature error)).Yields state fun _ after =>
      Registering entries state after
        (errors.forM fun error => Traced.report (.lexical signature error)).events := by
  induction errors generalizing state with
  | nil => exact .refl registered
  | cons error errors ih =>
    change Build.Yields
      (Build.report (.lexical signature error) >>= fun _ => List.forM errors _) _ _
    rw [Build.yields_bind, Build.yields_report]
    have reported : Registering entries state
        { state with log := state.log.report (.lexical signature error) }
        (Traced.report (.lexical signature error)).events := report registered rfl .nil
    exact (ih reported.registered).mono fun _ _ later => reported.trans later

theorem tokens (signature : String) (registered : state.library.Registered entries) :
    (Build.tokens signature).Yields state fun tokens after =>
      tokens = (tokenize signature).significant
        ∧ Registering entries state after (Traced.tokens signature).events := by
  unfold Build.tokens Traced.tokens
  rw [Build.yields_bind]
  refine (reportAll signature _ registered).mono fun _ after reported => ⟨rfl, ?_⟩
  rw [Traced.events_bind, Traced.events_pure, List.append_nil]
  exact reported

section Last

variable {registration : Registration} {owner : ClassId}

theorem createParameter {created : List String} (name : String)
    (registered : state.library.Registered (entries ++ [(registration, created)]))
    (last : state.library.types.getLast? = some owner) :
    (Build.createParameter owner name).Yields state fun _ after =>
      Registering (entries ++ [(registration, created ++ [name])]) state after []
        ∧ after.library.types = state.library.types := by
  exact ⟨⟨registered.withParameter last name, .withParameter,
    ⟨[], (List.append_nil _).symm, .nil⟩, rfl, rfl⟩, rfl⟩

/-- The generic parameters of the class-like that was registered last are
created. -/
theorem createParameters {created names : List String}
    (registered : state.library.Registered (entries ++ [(registration, created)]))
    (last : state.library.types.getLast? = some owner) :
    (names.forM (Build.createParameter owner)).Yields state fun _ after =>
      Registering (entries ++ [(registration, created ++ names)]) state after [] := by
  induction names generalizing created state with
  | nil =>
    rw [List.append_nil]
    exact .refl registered
  | cons name names ih =>
    change Build.Yields (Build.createParameter owner name >>= fun _ => List.forM names _) _ _
    rw [Build.yields_bind, List.append_cons created name names]
    refine (createParameter name registered last).mono fun _ after ⟨step, types⟩ => ?_
    exact (ih step.registered (types ▸ last)).mono fun _ _ later => step.trans later

end Last

end Registering

/-- The intake is the registration. -/
structure Library.Takes (library : Library) (intake : Intake) (registration : Registration) :
    Prop where
  isNamed : library.IsNamed intake.id registration.identifier
  signature : intake.signature = registration.declaration.signature
  rest : intake.rest = registration.start.rest

/-- The registration with all its generic parameters. -/
def Registration.entry (registration : Registration) : Registration × List String :=
  (registration, registration.parameters)

namespace Registering

variable {taken : List Registration} {state : BuildState}

/-- Only a class-like that is not an enumeration has generic parameters. -/
theorem forM_parameters {α : Type} (registration : Registration) (step : String → Build Unit)
    (rest : Build α) : (if registration.start.kind.isEnum then rest else
      (ParameterNames.read registration.start.rest).forM step >>= fun _ => rest)
    = registration.parameters.forM step >>= fun _ => rest := by
  unfold Registration.parameters
  cases registration.start.kind.isEnum <;> rfl

/-- A registration whose name is not taken is inserted with its generic
parameters. -/
theorem insert {registration : Registration} {library : Library} {id : ClassId}
    (registered : library.Registered (taken.map Registration.entry ++ [(registration, [])]))
    (types : library.types = state.library.types ++ [id])
    (kept : ∀ id name, state.library.IsNamed id name → library.IsNamed id name) :
    (registration.parameters.forM (Build.createParameter id)).Yields { state with library }
      fun _ after => Registering ((taken ++ [registration]).map Registration.entry) state after []
        ∧ after.library.IsNamed id registration.identifier := by
  have last : library.types.getLast? = some id := by rw [types, List.getLast?_concat]
  obtain ⟨_, _, _, holds⟩ := registered.exists_last last
  have inserted : Registering (taken.map Registration.entry ++ [(registration, [])]) state
      { state with library } [] :=
    ⟨registered, kept _ _, ⟨[], (List.append_nil _).symm, .nil⟩, rfl, rfl⟩
  refine (createParameters inserted.registered last).mono fun _ after created => ?_
  rw [List.map_append]
  exact ⟨inserted.trans created, created.isNamed holds.isNamed⟩

/-- Registering a declaration follows the registration by names. -/
theorem register (options : Options) (declaration : Declaration)
    (registered : state.library.Registered (taken.map Registration.entry)) :
    (Build.register options declaration).Yields state fun intake? after =>
      Registering ((taken ++ (Registration.read? options taken declaration).value.toList).map
          Registration.entry) state after (Registration.read? options taken declaration).events
        ∧ Option.Rel after.library.Takes intake?
          (Registration.read? options taken declaration).value := by
  unfold Build.register Registration.read?
  rw [Build.yields_bind, Traced.value_bind, Traced.events_bind]
  refine (tokens _ registered).mono fun significant after ⟨same, steps⟩ => ?_
  subst same
  have registered := steps.registered
  rw [show (Traced.tokens declaration.signature).value
    = (tokenize declaration.signature).significant from rfl]
  cases read : HeaderStart.read (tokenize declaration.signature).significant with
  | error error =>
    cases error with
    | noKeyword found | noIdentifier unmet =>
      rw [Build.yields_bind, Build.yields_report, Build.yields_pure]
      refine ⟨?_, .none⟩
      rw [show taken ++ Option.toList _ = taken from List.append_nil _]
      exact steps.trans (report registered rfl .nil)
  | ok start =>
    let registration : Registration := ⟨start, declaration⟩
    have any_eq : taken.any (·.identifier == start.identifier)
        = (taken.map Registration.entry).any (·.1.identifier == registration.identifier) := by
      rw [List.any_map]
      rfl
    dsimp only
    rw [Build.yields_bind, Build.yields_library,
      show start.classLike declaration = registration.shell from rfl]
    cases isTaken : taken.any (·.identifier == start.identifier) with
    | true =>
      obtain ⟨existing, refused, isNamed⟩ := registered.register_taken (any_eq ▸ isTaken)
      obtain ⟨classLike, declared, named⟩ := isNamed
      rw [refused]
      dsimp only
      rw [Build.yields_bind, Build.yields_report, Build.yields_pure]
      refine ⟨?_, .none⟩
      rw [show taken ++ Option.toList _ = taken from List.append_nil _]
      exact steps.trans (report registered rfl
        (.cons ⟨existing, classLike, rfl, declared, named⟩ .nil))
    | false =>
      obtain ⟨library, accepted, registered', types, kept⟩ :=
        registered.register_new (any_eq ▸ isTaken)
      rw [accepted]
      dsimp only
      rw [Build.yields_bind, Build.yields_setLibrary]
      have created := insert registered' types kept
      rw [forM_parameters registration, Build.yields_bind]
      refine created.mono fun _ last ⟨later, named⟩ => ⟨?_, .some ⟨named, rfl, rfl⟩⟩
      exact steps.trans later

/-- Registering declarations follows the registration by names. -/
theorem registerAll (options : Options) (declarations : List Declaration)
    (registered : state.library.Registered (taken.map Registration.entry)) :
    (Build.registerAll options declarations).Yields state fun intakes after =>
      Registering ((taken ++ (Registration.readAll options taken declarations).value).map
          Registration.entry) state after (Registration.readAll options taken declarations).events
        ∧ List.Forall₂ after.library.Takes intakes
          (Registration.readAll options taken declarations).value := by
  induction declarations generalizing taken state with
  | nil =>
    refine ⟨?_, .nil⟩
    rw [show taken ++ (Registration.readAll options taken []).value = taken from List.append_nil _]
    exact .refl registered
  | cons declaration declarations ih =>
    rw [Build.registerAll, Registration.readAll, Build.yields_bind, Traced.value_bind,
      Traced.events_bind]
    refine (register options declaration registered).mono fun intake? after both => ?_
    generalize Registration.read? options taken declaration = read at both ⊢
    obtain ⟨registration?, events⟩ := read
    obtain ⟨steps, taken'⟩ := both
    rw [Build.yields_bind, Traced.value_bind, Traced.events_bind]
    refine (ih steps.registered).mono fun intakes last ⟨steps', all⟩ => ?_
    rw [Build.yields_pure, Traced.value_pure, Traced.events_pure, List.append_nil,
      ← List.append_assoc]
    refine ⟨steps.trans steps', ?_⟩
    cases taken' with
    | none => exact all
    | some taken' => exact .cons ⟨steps'.isNamed taken'.isNamed, taken'.signature, taken'.rest⟩ all

/-- At the start nothing is registered. -/
theorem registerAll_start (options : Options) (declarations : List Declaration) :
    (Build.registerAll options declarations).Yields {} fun intakes after =>
      Registering ((Registration.readAll {} [] declarations).value.map Registration.entry) {} after
          (Registration.readAll options [] declarations).events
        ∧ List.Forall₂ after.library.Takes intakes
          (Registration.readAll {} [] declarations).value := by
  rw [Registration.value_readAll {} options]
  have empty : ({} : BuildState).library.Registered
      (([] : List Registration).map Registration.entry) := .empty
  exact registerAll options declarations empty

end Registering

/-! ## Coherence -/

/-- The start of the header of the root class. -/
def Registration.objectStart : HeaderStart :=
  ⟨{}, .class none [] false, Standard.objectIdentifier, []⟩

/-- The registrations hold the root class first, and only what can be read. -/
structure Registration.Sound (registrations : List Registration) : Prop where
  isName {registration : Registration} : registration ∈ registrations →
    IsName registration.identifier ∧ ∀ parameter ∈ registration.parameters, IsName parameter
  kind {registration : Registration} : registration ∈ registrations →
    registration.start.kind.superclass? = none ∧ registration.start.kind.interfaces = []
  first : ∃ others, registrations = ⟨objectStart, Standard.objectClass⟩ :: others

theorem Registration.Sound.object {registrations : List Registration}
    (sound : Sound registrations) :
    scopeOf registrations Standard.objectIdentifier = some ⟨.class, []⟩ := by
  obtain ⟨others, rfl⟩ := sound.first
  rw [scopeOf, List.find?_cons_of_pos (by rfl)]
  rfl

namespace Library.Registered

variable {library : Library} {registrations : List Registration} {options : Options}

theorem exists_holds (registered : library.Registered (registrations.map Registration.entry))
    {id : ClassId} {classLike : ClassLike} (known : library.classLike? id = some classLike) :
    ∃ registration ∈ registrations, library.Holds id registration.entry := by
  obtain ⟨entry, mem, holds⟩ := registered.exists_entry known
  obtain ⟨registration, mem', rfl⟩ := List.mem_map.1 mem
  exact ⟨registration, mem', holds⟩

theorem find?_eq (registered : library.Registered (registrations.map Registration.entry))
    {registration : Registration} (mem : registration ∈ registrations) :
    registrations.find? (·.identifier == registration.identifier) = some registration := by
  have names := registered.names
  rw [List.map_map] at names
  exact Registration.find?_of_nodup names mem

theorem scopeOf_eq (registered : library.Registered (registrations.map Registration.entry))
    {registration : Registration} (mem : registration ∈ registrations) :
    Registration.scopeOf registrations registration.identifier = some registration.shape := by
  rw [Registration.scopeOf, registered.find?_eq mem, Option.map_some]

theorem shapeOf_eq {id : ClassId} {registration : Registration} {classLike : ClassLike}
    (holds : library.Holds id registration.entry)
    (known : library.classLike? id = some classLike) :
    library.shapeOf classLike = registration.shape := by
  obtain ⟨parameters, known', _, all⟩ := holds
  cases known.symm.trans known'
  have names :
      parameters.map library.parameterName = registration.parameters.map fun name => name :=
    Related.map_eq all fun name _ parameter found => by rw [parameterName, found]; rfl
  rw [List.map_id'] at names
  rw [shapeOf, Registration.shape, ← names]
  rfl

theorem declares (registered : library.Registered (registrations.map Registration.entry))
    (sound : Registration.Sound registrations) :
    library.Declares (Registration.scopeOf registrations) where
  types_nodup := registered.ids ▸ Arena.nodup_ids _
  mem_types {id} := by
    rw [← registered.ids, Arena.mem_ids, ← Arena.isSome_get?, Option.isSome_iff_exists]
    exact ⟨fun ⟨classLike, known⟩ => ⟨classLike, registered.isDeclared known⟩,
      fun ⟨classLike, declared⟩ => ⟨classLike, declared.1⟩⟩
  identifier_inj {id id' classLike classLike'} declared declared' same := by
    have mem {id : ClassId} {classLike : ClassLike} (declared : library.IsDeclared id classLike) :
        id ∈ library.types := by
      rw [← registered.ids, Arena.mem_ids, ← Arena.isSome_get?]
      exact Option.isSome_iff_exists.2 ⟨classLike, declared.1⟩
    have names := registered.names
    refine Related.inj (f := fun id => (library.classLike? id).map (·.identifier))
      (g := fun entry => some entry.1.identifier) registered.holds ?_ ?_ (mem declared)
      (mem declared') ?_
    · rintro id entry ⟨parameters, known, _⟩
      rw [known]
      rfl
    · have names := names.map fun _ _ => Option.some.inj
      rw [List.map_map] at names
      exact names
    · simp [declared.1, declared'.1, same]
  scope_iff {name shape} := by
    constructor
    · intro known
      obtain ⟨registration, mem, rfl, rfl⟩ := Registration.exists_of_scopeOf known
      obtain ⟨id, _, holds⟩ :=
        Related.exists_of_mem registered.holds (List.mem_map_of_mem (f := Registration.entry) mem)
      obtain ⟨classLike, declared, same⟩ := holds.isNamed
      exact ⟨id, classLike, declared, same, shapeOf_eq holds declared.1⟩
    · rintro ⟨id, classLike, declared, rfl, rfl⟩
      obtain ⟨registration, mem, holds⟩ := registered.exists_holds declared.1
      obtain ⟨classLike', declared', same⟩ := holds.isNamed
      cases declared.1.symm.trans declared'.1
      rw [shapeOf_eq holds declared.1, same]
      exact registered.scopeOf_eq mem
  owned {id classLike parameter} declared mem := by
    obtain ⟨registration, _, parameters, known, _, all⟩ := registered.exists_holds declared.1
    cases declared.1.symm.trans known
    obtain ⟨name, _, found⟩ := Related.exists_of_mem (List.Forall₂.flip all) mem
    exact ⟨_, found, rfl⟩
  genericParameters_nodup {id classLike} declared := by
    obtain ⟨registration, _, parameters, known, nodup, _⟩ := registered.exists_holds declared.1
    cases declared.1.symm.trans known
    exact nodup
  owner_mem known := by
    obtain ⟨classLike, known, mem⟩ := registered.owner known
    exact ⟨classLike, registered.isDeclared known, mem⟩
  enum_parameters {name shape} known isEnum := by
    obtain ⟨registration, _, _, rfl⟩ := Registration.exists_of_scopeOf known
    have kind : registration.start.kind.isEnum = true := by
      have keyword : registration.start.kind.keyword = .enum := isEnum
      revert keyword
      cases registration.start.kind <;> simp [Kind.keyword, Kind.isEnum]
    exact if_pos kind
  isName {name shape} known := by
    obtain ⟨registration, mem, rfl, rfl⟩ := Registration.exists_of_scopeOf known
    exact sound.isName mem
  object := sound.object

theorem not_isInstance (registered : library.Registered (registrations.map Registration.entry))
    {id : ClassId} {tree : TypeTree} : ¬ library.IsInstance id tree := by
  intro isInstance
  obtain ⟨classLike, specialization, known, specialized⟩ := isInstance.exists_specialization
  cases specialized.symm.trans (registered.isDeclared known).2

theorem cacheOf_eq (registered : library.Registered (registrations.map Registration.entry))
    (place? : Option ClassId) : library.cacheOf place? = [] := by
  cases place? with
  | none => exact registered.typeCache
  | some id =>
    cases found : library.classLike? id with
    | none => simp [cacheOf, found]
    | some classLike =>
      obtain ⟨registration, _, parameters, known, _⟩ := registered.exists_holds found
      simp [cacheOf, known, Registration.shell, Registration.entry, HeaderStart.classLike]

/-- A library that holds registered class-likes only is coherent. -/
theorem coherent (registered : library.Registered (registrations.map Registration.entry))
    (sound : Registration.Sound registrations) :
    library.Coherent (Registration.scopeOf registrations) options where
  toDeclares := registered.declares sound
  instantiates known specialized := by
    cases specialized.symm.trans (registered.isDeclared known).2
  older known specialized := by
    cases specialized.symm.trans (registered.isDeclared known).2
  canonical isInstance := absurd isInstance registered.not_isInstance
  mem_cacheOf {place? key id} := by
    rw [registered.cacheOf_eq]
    constructor
    · intro mem
      simp at mem
    · rintro ⟨tree, isInstance, _⟩
      exact absurd isInstance registered.not_isInstance
  cacheOf_nodup {place?} := by
    rw [registered.cacheOf_eq]
    exact .nil

/-- The class-likes are those that their registrations tell. -/
theorem spells
    (sound : Registration.Sound registrations) {id : ClassId} {registration : Registration}
    (mem : registration ∈ registrations) (holds : library.Holds id registration.entry) :
    library.Spells (Registration.scopeOf registrations) options registration.identifier id
      registration.named := by
  obtain ⟨parameters, known, _, all⟩ := holds
  have kind := sound.kind mem
  refine ⟨_, known, ?_⟩
  exact {
    bare := rfl
    superclass? := by
      change Option.Rel _ registration.start.kind.superclass? none
      rw [kind.1]
      exact .none
    interfaces := by
      change List.Forall₂ _ registration.start.kind.interfaces []
      rw [kind.2]
      exact .nil
    parameters := by
      refine List.forall₂_map_right_iff.2 (all.imp fun parameter name found => ?_)
      exact ⟨_, found, rfl, rfl, .nil, .none⟩
    methods := .nil
    attributes := .nil }

end Library.Registered

/-! ## What is registered -/

/-- The start of a header tells no supertypes. -/
theorem HeaderStart.kind_of_read {tokens : List Token} {start : HeaderStart}
    (found : read tokens = .ok start) :
    start.kind.superclass? = none ∧ start.kind.interfaces = [] := by
  have kindOf {modifiers : Modifiers} {rest : List Token} {kind : Kind}
      (same : kindOf? modifiers rest = some kind) :
        kind.superclass? = none ∧ kind.interfaces = [] := by
    unfold kindOf? at same
    split at same <;> cases same <;> exact ⟨rfl, rfl⟩
  unfold read at found
  dsimp only at found
  split at found
  · cases found
  · next kind same =>
    split at found <;> cases found
    exact kindOf same

namespace Registration

theorem read_objectClass : HeaderStart.read (tokenize Standard.objectClass.signature).significant
    = .ok objectStart := by
  rfl

variable {options : Options} {taken : List Registration} {registration : Registration}
  {declaration : Declaration} {declarations : List Declaration}

theorem read_of_read?_eq_some (read : (read? options taken declaration).value = some registration) :
    HeaderStart.read (tokenize declaration.signature).significant = .ok registration.start
      ∧ registration.declaration = declaration
      ∧ taken.any (·.identifier == registration.identifier) = false := by
  unfold read? at read
  rw [Traced.value_bind, show (Traced.tokens declaration.signature).value
    = (tokenize declaration.signature).significant from rfl] at read
  cases found : HeaderStart.read (tokenize declaration.signature).significant with
  | error error =>
    rw [found] at read
    cases error <;> cases read
  | ok start =>
    rw [found] at read
    dsimp only at read
    split at read
    · cases read
    · next free =>
      cases read
      exact ⟨rfl, rfl, Bool.eq_false_iff.2 free⟩

/-- Only declarations are registered. -/
theorem exists_of_mem_readAll (mem : registration ∈ (readAll options taken declarations).value) :
    ∃ declaration ∈ declarations,
      HeaderStart.read (tokenize declaration.signature).significant = .ok registration.start
        ∧ registration.declaration = declaration := by
  induction declarations generalizing taken with
  | nil => cases mem
  | cons declaration declarations ih =>
    rw [readAll, Traced.value_bind, Traced.value_bind, Traced.value_pure, List.mem_append] at mem
    rcases mem with mem | mem
    · obtain ⟨read, same, _⟩ := read_of_read?_eq_some (Option.mem_toList.1 mem)
      exact ⟨declaration, by simp, read, same⟩
    · obtain ⟨declaration', mem, read⟩ := ih mem
      exact ⟨declaration', by simp [mem], read⟩

/-- A name that is taken is not registered again. -/
theorem nodup_read? (nodup : (taken.map identifier).Nodup) :
    ((taken ++ (read? options taken declaration).value.toList).map identifier).Nodup := by
  cases read : (read? options taken declaration).value with
  | none => simpa using nodup
  | some registration =>
    obtain ⟨_, _, free⟩ := read_of_read?_eq_some read
    exact nodup_map_concat nodup free

/-- No name is registered twice. -/
theorem nodup_readAll (nodup : (taken.map identifier).Nodup) :
    ((taken ++ (readAll options taken declarations).value).map identifier).Nodup := by
  induction declarations generalizing taken with
  | nil => simpa [readAll] using nodup
  | cons declaration declarations ih =>
    rw [readAll, Traced.value_bind, Traced.value_bind, Traced.value_pure, ← List.append_assoc]
    exact ih (nodup_read? nodup)

/-- The root class is registered first. -/
theorem readAll_prelude (declarations : List Declaration) : ∃ registrations,
    (readAll options [] (Standard.prelude ++ declarations)).value
      = ⟨objectStart, Standard.objectClass⟩ :: registrations := by
  have first : (read? options [] Standard.objectClass).value
      = some ⟨objectStart, Standard.objectClass⟩ := by
    rw [read?, Traced.value_bind, show (Traced.tokens Standard.objectClass.signature).value
      = (tokenize Standard.objectClass.signature).significant from rfl, read_objectClass]
    rfl
  rw [Standard.prelude, List.cons_append, readAll, Traced.value_bind, first]
  exact ⟨_, rfl⟩

/-- What every library begins with is sound, and so is what is added to it. -/
theorem sound_readAll (declarations : List Declaration) :
    Sound (readAll options [] (Standard.prelude ++ declarations)).value where
  isName mem := by
    obtain ⟨declaration, _, read, _⟩ := exists_of_mem_readAll mem
    obtain ⟨isName, names⟩ := HeaderStart.names_of_read (namesIn_significant _) read
    refine ⟨isName, fun parameter mem => ?_⟩
    rw [parameters] at mem
    split at mem
    · cases mem
    · exact ParameterNames.isName_of_mem_read names mem
  kind mem := by
    obtain ⟨declaration, _, read, _⟩ := exists_of_mem_readAll mem
    exact HeaderStart.kind_of_read read
  first := readAll_prelude declarations

end Registration

end ClassModel
