import ClassModel.Proofs.Asked
import ClassModel.Proofs.Closed
import ClassModel.Proofs.Order

/-!
# ClassModel.Proofs.Further

Further declarations. Where every name refers to something, the stages before
the instantiations are filled in do the same for what was declared before,
whatever is declared after it.
-/

namespace ClassModel

/-! ## Registration -/

namespace Registration

variable {registrations more : List Registration} {name : String}

theorem exists_readAll_append (taken : List Registration) (declarations extra : List Declaration) :
    ∃ more, (readAll options taken (declarations ++ extra)).value
      = (readAll options taken declarations).value ++ more := by
  rw [readAll_append]
  exact ⟨_, rfl⟩

theorem asks_read? {p : TypeTree → Prop} (taken : List Registration) (declaration : Declaration) :
    (read? options taken declaration).Asks p := by
  refine (Traced.Asks.tokens _).bind ?_
  split
  · exact (Traced.Asks.report _).bind (.pure _)
  · exact (Traced.Asks.report _).bind (.pure _)
  · split
    · exact (Traced.Asks.reportOf _ _).bind (.pure _)
    · exact .pure _

/-- Registering declarations asks for nothing. -/
theorem asks_readAll {p : TypeTree → Prop} (taken : List Registration)
    (declarations : List Declaration) : (readAll options taken declarations).Asks p := by
  induction declarations generalizing taken with
  | nil => exact .pure _
  | cons declaration declarations ih =>
    exact (asks_read? taken declaration).bind ((ih _).bind (.pure _))

theorem exists_find? (mem : name ∈ registrations.map identifier) :
    ∃ registration, registrations.find? (·.identifier == name) = some registration := by
  obtain ⟨registration, inside, rfl⟩ := List.mem_map.1 mem
  rw [← Option.isSome_iff_exists, List.find?_isSome]
  exact ⟨registration, inside, by simp⟩

theorem isSome_scopeOf :
    (scopeOf registrations name).isSome ↔ name ∈ registrations.map identifier := by
  constructor
  · intro known
    obtain ⟨shape, known⟩ := Option.isSome_iff_exists.1 known
    obtain ⟨registration, mem, rfl, _⟩ := exists_of_scopeOf known
    exact List.mem_map_of_mem mem
  · intro mem
    obtain ⟨registration, found⟩ := exists_find? mem
    rw [scopeOf, found]
    rfl

theorem isIn_scopeOf_append : (scopeOf registrations).IsIn (scopeOf (registrations ++ more)) := by
  intro name shape known
  obtain ⟨registration, found, rfl⟩ := Option.map_eq_some_iff.1 known
  rw [scopeOf, List.find?_append, found]
  rfl

theorem contentOf_append (mem : name ∈ registrations.map identifier) :
    contentOf (registrations ++ more) name = contentOf registrations name := by
  obtain ⟨registration, found⟩ := exists_find? mem
  rw [contentOf, contentOf, List.find?_append, found]
  rfl

theorem identifier_contentOf (registrations : List Registration) (name : String) :
    (contentOf registrations name).identifier = name := by
  unfold contentOf
  split
  · next registration found =>
    show registration.identifier = name
    simpa using List.find?_some found
  · rfl

end Registration

/-! ## Revisions -/

/-- Contents with further class-likes: those of the names are the same, and what
else is asked for mentions generic parameters of the further class-likes only. -/
structure Furthers (names more : List String) (traced traced' : Traced (String → NamedClass)) :
    Prop where
  value : ∀ name ∈ names, traced'.value name = traced.value name
  requests : ∀ tree ∈ requests traced.events, tree ∈ requests traced'.events
  asks : ∀ tree ∈ ClassModel.requests traced'.events,
    tree ∈ ClassModel.requests traced.events ∨ tree.Within (· ∈ more)

theorem Furthers.bind {names more : List String} {traced traced' : Traced (String → NamedClass)}
    {next next' : (String → NamedClass) → Traced (String → NamedClass)}
    (first : Furthers names more traced traced')
    (rest : Furthers names more (next traced.value) (next' traced'.value)) :
    Furthers names more (traced >>= next) (traced' >>= next') where
  value := rest.value
  requests tree mem := by
    rw [Traced.events_bind, requests_append, List.mem_append] at mem ⊢
    exact mem.imp (first.requests tree) (rest.requests tree)
  asks tree mem := by
    rw [Traced.events_bind, requests_append, List.mem_append] at mem ⊢
    rcases mem with mem | mem
    · exact (first.asks tree mem).imp_left .inl
    · exact (rest.asks tree mem).imp_left .inr

section Revise

variable {κ : Type} {nameOf : κ → String} {ks more : List κ}
  {content content' : String → NamedClass}

/-- Contents that are changed under their name stay under it. -/
theorem identifier_reviseAll {change : κ → (String → NamedClass) → Traced NamedClass}
    (keeps : ∀ k content,
      (change k content).value.identifier = (content (nameOf k)).identifier) (name : String) :
    ((reviseAll nameOf change ks content).value name).identifier = (content name).identifier := by
  induction ks generalizing content with
  | nil => rfl
  | cons k ks ih =>
    rw [reviseAll_cons, Traced.value_bind, ih]
    by_cases same : name = nameOf k
    · rw [same, Function.update_self, keeps]
    · rw [Function.update_of_ne same]

theorem asks_reviseAll {change : κ → (String → NamedClass) → Traced NamedClass}
    {p : TypeTree → Prop} (asks : ∀ k content, (change k content).Asks p) :
    (reviseAll nameOf change ks content).Asks p :=
  .foldlM (fun k _ content (_ : True) => ⟨trivial, (asks k content).bind (.pure _)⟩) trivial

theorem asks_reviseAll_of_nodup {change : κ → NamedClass → Traced NamedClass}
    {p : TypeTree → Prop} (nodup : (ks.map nameOf).Nodup)
    (asks : ∀ k ∈ ks, (change k (content (nameOf k))).Asks p) :
    (reviseAll nameOf (fun k content => change k (content (nameOf k))) ks content).Asks p := by
  intro tree mem
  rw [events_reviseAll nodup, requests_flatMap, List.mem_flatMap] at mem
  obtain ⟨k, mem, asked⟩ := mem
  exact asks k mem tree asked

/-- Where each name looks at its own contents, further names change none of the
others. -/
theorem furthers_reviseAll {change change' : κ → NamedClass → Traced NamedClass}
    (nodup : ((ks ++ more).map nameOf).Nodup)
    (same : ∀ k ∈ ks, change' k (content' (nameOf k)) = change k (content (nameOf k)))
    (asks : ∀ k ∈ more,
      (change' k (content' (nameOf k))).Asks (TypeTree.Within (· = nameOf k))) :
    Furthers (ks.map nameOf) (more.map nameOf)
      (reviseAll nameOf (fun k content => change k (content (nameOf k))) ks content)
      (reviseAll nameOf (fun k content => change' k (content (nameOf k)))
        (ks ++ more) content') := by
  have nodup' : (ks.map nameOf).Nodup := by
    rw [List.map_append] at nodup
    exact (List.nodup_append.1 nodup).1
  have events : (reviseAll nameOf (fun k content => change' k (content (nameOf k))) (ks ++ more)
        content').events
      = (reviseAll nameOf (fun k content => change k (content (nameOf k))) ks content).events
        ++ more.flatMap fun k => (change' k (content' (nameOf k))).events := by
    rw [events_reviseAll nodup, events_reviseAll nodup', List.flatMap_append]
    congr 1
    exact List.flatMap_congr fun k mem => by rw [same k mem]
  refine ⟨fun name mem => ?_, fun tree mem => ?_, fun tree mem => ?_⟩
  · obtain ⟨k, inside, rfl⟩ := List.mem_map.1 mem
    rw [value_reviseAll nodup (List.mem_append_left _ inside), value_reviseAll nodup' inside,
      same k inside]
  · rw [events, requests_append]
    exact List.mem_append_left _ mem
  · rw [events, requests_append, requests_flatMap, List.mem_append, List.mem_flatMap] at mem
    refine mem.imp_right ?_
    rintro ⟨k, inside, mem⟩ owner mem'
    obtain rfl := asks k inside tree mem owner mem'
    exact List.mem_map_of_mem inside

end Revise

/-! ## Cycles -/

section Cut

variable {content content' : String → NamedClass} {names : List String} {name : String}

/-- What is above one of the names is one of them. -/
def Encloses (names : List String) (content : String → NamedClass) : Prop :=
  ∀ name ∈ names, ∀ above ∈ superName content name, above ∈ names

/-- A walk does not leave the names. -/
theorem Encloses.subset (encloses : Encloses names content) {start? stop? : Option String}
    {path : List String} (segment : Walk.Segment (superName content) stop? start? path)
    (start : ∀ name ∈ start?, name ∈ names) : path ⊆ names := by
  induction segment with
  | nil => simp
  | cons later ih =>
    rw [List.cons_subset]
    exact ⟨start _ rfl, ih (encloses _ (start _ rfl))⟩

theorem superName_eq (same : content' name = content name) :
    superName content' name = superName content name := by
  rw [superName, superName, same]

/-- The names are on the same cycles. -/
theorem Encloses.isCyclic (encloses : Encloses names content)
    (same : ∀ name ∈ names, content' name = content name) (mem : name ∈ names)
    (cyclic : IsCyclic content name) : IsCyclic content' name := by
  obtain ⟨path, segment, nodup⟩ := cyclic
  have inside := encloses.subset segment fun _ start => Option.some.inj start ▸ mem
  exact ⟨path, segment.congr fun node mem => superName_eq (same node (inside mem)), nodup⟩

theorem Encloses.congr (encloses : Encloses names content)
    (same : ∀ name ∈ names, content' name = content name) : Encloses names content' := by
  intro name mem above
  rw [superName_eq (same name mem)]
  exact encloses name mem above

theorem Encloses.cutCycle_eq (encloses : Encloses names content)
    (same : ∀ name ∈ names, content' name = content name) (mem : name ∈ names) :
    cutCycle name content' = cutCycle name content := by
  have cyclic : IsCyclic content' name ↔ IsCyclic content name :=
    ⟨(encloses.congr same).isCyclic (fun name mem => (same name mem).symm) mem,
      encloses.isCyclic same mem⟩
  unfold cutCycle
  rw [same name mem]
  by_cases straight : IsCyclic content name
  · rw [if_pos straight, if_pos (cyclic.2 straight)]
  · rw [if_neg straight, if_neg (straight ∘ cyclic.1)]

/-- What is cut is below the root class. -/
theorem Encloses.update_cutCycle (encloses : Encloses names content)
    (object : Standard.objectIdentifier ∈ names) :
    Encloses names (Function.update content name (cutCycle name content).value) := by
  unfold cutCycle
  split
  · intro other mem above found
    rw [superName, Traced.value_bind, Traced.value_pure, Function.update_apply] at found
    split at found
    · unfold NamedClass.cut at found
      dsimp only at found
      split at found
      · cases found
      · obtain rfl : Standard.objectIdentifier = above := Option.some.inj found
        exact object
    · exact encloses other mem above found
  · rwa [Traced.value_pure, Function.update_eq_self]

/-- The names are cut alike. -/
theorem Encloses.cutAll_eq {cut : List String} (encloses : Encloses names content)
    (object : Standard.objectIdentifier ∈ names)
    (same : ∀ name ∈ names, content' name = content name) (sub : cut ⊆ names) :
    ∀ name ∈ names, (cutAll cut content').value name = (cutAll cut content).value name := by
  induction cut generalizing content content' with
  | nil => exact same
  | cons first cut ih =>
    rw [List.cons_subset] at sub
    rw [cutAll_cons, cutAll_cons, Traced.value_bind, Traced.value_bind]
    refine ih (encloses.update_cutCycle object) (fun name mem => ?_) sub.2
    rw [encloses.cutCycle_eq same sub.1, Function.update_apply, Function.update_apply,
      same name mem]

theorem cutAll_append (names names' : List String) (content : String → NamedClass) :
    cutAll (names ++ names') content = cutAll names content >>= cutAll names' := by
  rw [cutAll, reviseAll, List.foldlM_append]
  rfl

/-- Cutting cycles asks for nothing. -/
theorem requests_cutAll (names : List String) (content : String → NamedClass) :
    requests (cutAll names content).events = [] := by
  have step (name : String) (content : String → NamedClass) :
      (cutCycle name content).Asks fun _ => False := by
    unfold cutCycle
    split
    · exact (Traced.Asks.reportOf _ _).bind (.pure _)
    · exact .pure _
  have asks : (cutAll names content).Asks fun _ => False := asks_reviseAll step
  exact List.eq_nil_iff_forall_not_mem.2 asks

/-- Cutting further cycles changes none of the names. -/
theorem Encloses.furthers_cutAll {more : List String} (encloses : Encloses names content)
    (object : Standard.objectIdentifier ∈ names)
    (same : ∀ name ∈ names, content' name = content name) (nodup : (names ++ more).Nodup) :
    Furthers names more (cutAll names content) (cutAll (names ++ more) content') := by
  refine ⟨fun name mem => ?_, by simp [requests_cutAll], by simp [requests_cutAll]⟩
  have away : name ∉ more.map id := fun mem' =>
    (List.nodup_append.1 nodup).2.2 name mem name (by simpa using mem') rfl
  rw [cutAll_append, Traced.value_bind, cutAll, value_reviseAll_of_not_mem away]
  exact encloses.cutAll_eq object same (List.Subset.refl _) name mem

theorem identifier_cutAll (names : List String) (content : String → NamedClass) (name : String) :
    ((cutAll names content).value name).identifier = (content name).identifier := by
  refine identifier_reviseAll (fun name content => ?_) name
  unfold cutCycle
  split <;> rfl

end Cut

/-! ## Headers and members -/

namespace Registration

variable {options : Options} {registrations more : List Registration} {order : List String}
  {name : String}

theorem identifier_hierarchy (scope : Scope) (options : Options) (registrations : List Registration)
    (name : String) : ((hierarchy scope options registrations).value name).identifier = name := by
  rw [hierarchy, Traced.value_bind, identifier_cutAll, resolveHeaders,
    identifier_reviseAll fun _ _ => NamedClass.identifier_resolveHeader _, identifier_contentOf]

/-- What is above a registered class-like is registered. -/
theorem encloses_resolveHeaders {scope : Scope} (nodup : (registrations.map identifier).Nodup)
    (root : superName (resolveHeaders scope options registrations (contentOf registrations)).value
      Standard.objectIdentifier = none)
    (ordered : Walk.Ordered (superName (members scope options registrations).value) order)
    (covers : ∀ name, name ∈ order ↔ name ∈ registrations.map identifier) :
    Encloses (registrations.map identifier)
      (resolveHeaders scope options registrations (contentOf registrations)).value := by
  intro name mem above found
  by_cases cyclic : IsCyclic (resolveHeaders scope options registrations
    (contentOf registrations)).value name
  · -- the way back leads through registered class-likes only
    obtain ⟨path, segment, _⟩ := cyclic
    cases segment with
    | cons later =>
      rw [found] at later
      cases later with
      | nil => exact mem
      | cons later =>
        by_contra away
        have none : registrations.find? (·.identifier == above) = none := by
          rw [List.find?_eq_none]
          rintro registration inside same
          exact away (List.mem_map.2 ⟨registration, inside, by simpa using same⟩)
        have top : superName (resolveHeaders scope options registrations
            (contentOf registrations)).value above = Option.none := by
          rw [superName, resolveHeaders, value_reviseAll_of_not_mem away, contentOf, none]
          rfl
        rw [top] at later
        cases later
  · rw [← covers] at mem ⊢
    refine ordered.mem_of_next? mem ?_
    rw [members, Traced.value_bind, superName_compileMembers nodup, superName, hierarchy,
      Traced.value_bind, value_cutAll root cyclic]
    exact found

/-- Where every name refers to something, further declarations change none of
the contents. -/
theorem furthers_members (nodup : ((registrations ++ more).map identifier).Nodup)
    (object : Standard.objectIdentifier ∈ registrations.map identifier)
    (encloses : Encloses (registrations.map identifier)
      (resolveHeaders (scopeOf registrations) options registrations
        (contentOf registrations)).value)
    (familiar : Familiar (members (scopeOf registrations) options registrations).events) :
    Furthers (registrations.map identifier) (more.map identifier)
      (members (scopeOf registrations) options registrations)
      (members (scopeOf (registrations ++ more)) options (registrations ++ more)) := by
  have isIn : (scopeOf registrations).IsIn (scopeOf (registrations ++ more)) := isIn_scopeOf_append
  have known (registration : Registration) (mem : registration ∈ registrations) :
      (scopeOf registrations registration.identifier).isSome :=
    isSome_scopeOf.2 (List.mem_map_of_mem mem)
  have nodup₁ : (registrations.map identifier ++ more.map identifier).Nodup := by
    rwa [← List.map_append]
  have nodup₂ := (List.nodup_append.1 nodup₁).1
  rw [members, hierarchy, Traced.events_bind, Traced.events_bind] at familiar
  have inHeaders := familiar.append.1.append.1
  have inMembers := familiar.append.2
  rw [resolveHeaders, events_reviseAll nodup₂] at inHeaders
  rw [compileMembers, events_reviseAll nodup₂] at inMembers
  have headers : Furthers (registrations.map identifier) (more.map identifier)
      (resolveHeaders (scopeOf registrations) options registrations (contentOf registrations))
      (resolveHeaders (scopeOf (registrations ++ more)) options (registrations ++ more)
        (contentOf (registrations ++ more))) := by
    refine furthers_reviseAll nodup (fun registration mem => ?_) fun registration _ =>
      NamedClass.asks_resolveHeader (identifier_contentOf _ _) fun type _ => Scope.asks_resolve type
    rw [contentOf_append (List.mem_map_of_mem mem)]
    exact (NamedClass.extends_resolveHeader isIn (known registration mem) (isSome_scopeOf.2 object)
      (identifier_contentOf _ _) (inHeaders.of_mem mem)).2
  have cut : Furthers (registrations.map identifier) (more.map identifier)
      (hierarchy (scopeOf registrations) options registrations)
      (hierarchy (scopeOf (registrations ++ more)) options (registrations ++ more)) := by
    rw [hierarchy, hierarchy, List.map_append]
    exact headers.bind (encloses.furthers_cutAll object headers.value nodup₁)
  refine cut.bind (furthers_reviseAll nodup (fun registration mem => ?_) fun registration _ =>
    NamedClass.asks_compileMembers (identifier_hierarchy _ _ _ _)
      (fun _ _ => Scope.asks_resolve _) fun _ _ type _ => Scope.asks_resolve type)
  rw [cut.value _ (List.mem_map_of_mem mem)]
  exact (NamedClass.extends_compileMembers isIn (known registration mem)
    (identifier_hierarchy _ _ _ _) (inMembers.of_mem mem)).2

end Registration

/-! ## The layout -/

theorem NamedClass.asks_layOut {p : TypeTree → Prop} (named : NamedClass)
    (above? : Option NamedClass) : (named.layOut above?).Asks p := by
  have supply (named : NamedClass) (supplied : String × Value) :
      (named.supplyStaticValue supplied.1 supplied.2).Asks p := by
    unfold supplyStaticValue
    split
    · exact .pure _
    · exact (Traced.Asks.reportOf _ _).bind (.pure _)
  have layOutFrom (first : Nat) (inherited : List Value) :
      (named.layOutFrom first inherited).Asks p := by
    unfold NamedClass.layOutFrom
    dsimp only
    split
    · exact .pure _
    · exact .foldlM (fun supplied _ named (_ : True) => ⟨trivial, supply named supplied⟩) trivial
  cases above? with
  | none => exact layOutFrom 0 []
  | some superclass => exact layOutFrom _ _

/-- The layout asks for nothing. -/
theorem requests_layOutAll (names : List String) (content : String → NamedClass) :
    requests (layOutAll names content).events = [] := by
  have asks : (layOutAll names content).Asks fun _ => False :=
    asks_reviseAll fun name content => NamedClass.asks_layOut _ _
  exact List.eq_nil_iff_forall_not_mem.2 asks

/-- Before the instantiations are filled in, the headers and the members ask for
some. -/
theorem requests_preparation (options : Options) (declarations : List Declaration)
    (names : List String) :
    requests (preparation options declarations names)
      = requests (membersOf options declarations).events := by
  have quiet : requests (Registration.readAll options [] declarations).events = [] :=
    List.eq_nil_iff_forall_not_mem.2 (Registration.asks_readAll (p := fun _ => False) _ _)
  rw [preparation, requests_append, requests_append, quiet, requests_layOutAll, List.nil_append,
    List.append_nil]

/-! ## Instantiations -/

section Substitute

theorem Traced.mapM_congr {α β : Type} {step step' : α → Traced β} {values : List α}
    (same : ∀ value ∈ values, step' value = step value) :
    values.mapM step' = values.mapM step := by
  induction values with
  | nil => rfl
  | cons value values ih =>
    rw [List.mapM_cons, List.mapM_cons, same value (by simp),
      ih fun value mem => same value (by simp [mem])]

theorem Traced.optionMapM_congr {α β : Type} {step step' : α → Traced β} {value? : Option α}
    (same : ∀ value ∈ value?, step' value = step value) :
    value?.mapM step' = value?.mapM step := by
  cases value? with
  | none => rfl
  | some value => rw [Option.mapM_some, Option.mapM_some, same value rfl]

variable {scope scope' : Scope} {options : Options} {context base : String}
  {arguments : List (String × TypeTree)}

/-- Substituting in a type does the same in a wider scope. -/
theorem TypeTree.substitute_eq_of_isIn (isIn : scope.IsIn scope') {tree : TypeTree}
    (wf : tree.WellFormed scope options base) :
    tree.substitute scope' options arguments = tree.substitute scope options arguments := by
  induction tree with
  | primitive | declared | parameter => rw [substitute, substitute]
  | applied name trees n ih =>
    rw [WellFormed] at wf
    obtain ⟨⟨shape, known, _⟩, _, _, _, wf⟩ := wf
    rw [substitute_applied, substitute_applied, substituteAll_eq_mapM, substituteAll_eq_mapM,
      Traced.mapM_congr fun tree mem => ih tree mem (wf tree mem)]
    congr 2
    funext substituted
    exact Scope.instantiate_eq_of_isIn isIn (by rw [known]; rfl)

theorem NamedMethod.substitute_congr {named : NamedMethod}
    (same : ∀ tree ∈ named.types,
      tree.substitute scope' options arguments = tree.substitute scope options arguments) :
    named.substitute scope' options arguments = named.substitute scope options arguments := by
  rw [substitute, substitute, Traced.optionMapM_congr fun tree mem =>
    same tree (List.mem_append_left _ (Option.mem_toList.2 mem)), Traced.mapM_congr]
  intro formal mem
  rw [same _ (List.mem_append_right _ (List.mem_map_of_mem mem))]

/-- Substituting in a class-like is substituting in its types. -/
theorem NamedClass.substitute_congr {named : NamedClass}
    (same : ∀ tree ∈ named.types,
      tree.substitute scope' options arguments = tree.substitute scope options arguments) :
    named.substitute scope' options arguments = named.substitute scope options arguments := by
  simp only [types, List.mem_append, List.mem_flatMap, List.mem_map, Option.mem_toList] at same
  have methods : named.methods.mapM (NamedMethod.substitute scope' options arguments)
      = named.methods.mapM (NamedMethod.substitute scope options arguments) :=
    Traced.mapM_congr fun method mem =>
      NamedMethod.substitute_congr fun tree mem' => same tree (.inl (.inr ⟨method, mem, mem'⟩))
  have attributes : named.attributes.mapM (NamedAttribute.substitute scope' options arguments)
      = named.attributes.mapM (NamedAttribute.substitute scope options arguments) :=
    Traced.mapM_congr fun found mem => by
      rw [NamedAttribute.substitute, same _ (.inr ⟨found, mem, rfl⟩), NamedAttribute.substitute]
  rw [substitute, substitute, substituteSupertypes, substituteSupertypes,
    Traced.optionMapM_congr fun tree mem => same tree (.inl (.inl (.inl mem))),
    Traced.mapM_congr fun tree mem => same tree (.inl (.inl (.inr mem))), methods, attributes]

end Substitute
/-! ## All stages -/

section Stages

variable {options : Options} {declarations declarations' extra : List Declaration}
  {names names' : List String} {before after : Library}
  {diagnostics diagnostics' : List Diagnostic}

/-- The stages do the same for all that is declared by the former declarations,
and what else is asked for mentions generic parameters of other class-likes
only. -/
structure FurtherStages (options : Options) (declarations declarations' : List Declaration)
    (names names' : List String) : Prop where
  first : declaredNames declarations <+: declaredNames declarations'
  isIn : (scopeOf declarations).IsIn (scopeOf declarations')
  content_eq : ∀ name ∈ declaredNames declarations,
    contentOf options declarations' names' name = contentOf options declarations names name
  asked : ∀ tree ∈ requests (preparation options declarations names),
    tree ∈ requests (preparation options declarations' names')
  asks : ∀ tree ∈ requests (preparation options declarations' names'),
    tree ∈ requests (preparation options declarations names)
      ∨ tree.Within (· ∉ declaredNames declarations)

/-- Where every name refers to something, further declarations come after the
others and leave them as they are. -/
theorem FurtherStages.of_append (sound : Registration.Sound (registrationsOf declarations))
    (ordered : Walk.Ordered (superName (membersOf options declarations).value) names)
    (ordered' : Walk.Ordered (superName (membersOf options (declarations ++ extra)).value) names')
    (covers : ∀ name, name ∈ names ↔ name ∈ declaredNames declarations)
    (covers' : ∀ name, name ∈ names' ↔ name ∈ declaredNames (declarations ++ extra))
    (familiar : Familiar (preparation options declarations names)) :
    FurtherStages options declarations (declarations ++ extra) names names' := by
  obtain ⟨more, split⟩ := Registration.exists_readAll_append [] declarations extra
  have split :
      registrationsOf (declarations ++ extra) = registrationsOf declarations ++ more := split
  have nodup := nodup_declaredNames (declarations ++ extra)
  have nodup₂ := nodup_declaredNames declarations
  have object : Standard.objectIdentifier ∈ declaredNames declarations := by
    obtain ⟨others, first⟩ := sound.first
    rw [declaredNames, first, List.map_cons]
    exact List.mem_cons_self
  rw [preparation] at familiar
  rw [declaredNames, split] at nodup
  have members : Furthers (declaredNames declarations) (more.map Registration.identifier)
      (membersOf options declarations) (membersOf options (declarations ++ extra)) := by
    rw [membersOf, membersOf, scopeOf, scopeOf, split]
    exact Registration.furthers_members nodup object
      (Registration.encloses_resolveHeaders nodup₂
        (Registration.superName_resolveHeaders nodup₂ sound.first) ordered covers)
      familiar.append.2.append.1
  refine ⟨?_, ?_, fun name mem => ?_, ?_, ?_⟩
  · rw [declaredNames, declaredNames, split, List.map_append]
    exact List.prefix_append _ _
  · rw [scopeOf, scopeOf, split]
    exact Registration.isIn_scopeOf_append
  · refine value_layOutAll_eq ordered ordered' (fun name mem => ?_)
      (fun name mem => members.value name ((covers name).1 mem)) name ((covers name).2 mem)
    rw [covers', declaredNames, split, List.map_append]
    exact List.mem_append_left _ ((covers name).1 mem)
  · rw [requests_preparation, requests_preparation]
    exact members.requests
  · rw [requests_preparation, requests_preparation]
    intro tree mem
    refine (members.asks tree mem).imp_right fun within owner mem' inside => ?_
    rw [List.map_append] at nodup
    exact (List.nodup_append.1 nodup).2.2 _ inside _ (within owner mem') rfl

/-- The types of a declared class-like are well formed in it. -/
theorem Compiled.wellFormed_types
    (compiled : Compiled options declarations names before diagnostics) {name : String}
    (known : (scopeOf declarations name).isSome) {tree : TypeTree}
    (mem : tree ∈ (contentOf options declarations names name).types) :
    tree.WellFormed (scopeOf declarations) options name := by
  obtain ⟨shape, known⟩ := Option.isSome_iff_exists.1 known
  obtain ⟨id, classLike, declared, rfl, _⟩ := compiled.coherent.scope_iff.1 known
  obtain ⟨_, _, spells⟩ := compiled.realizes id _ ⟨classLike, declared, rfl⟩
  obtain ⟨_, _, means⟩ := Related.exists_of_mem spells.types mem
  exact means.wellFormed

theorem Compiled.exists_wellFormed
    (compiled : Compiled options declarations names before diagnostics) {tree : TypeTree}
    (requested : RequestedBy options declarations names tree) :
    ∃ context, tree.WellFormed (scopeOf declarations) options context := by
  obtain ⟨_, isInstance⟩ := compiled.has.2 requested
  obtain ⟨context, _, _, wf⟩ := compiled.coherent.isType isInstance
  exact ⟨context, wf⟩

namespace FurtherStages

variable (further : FurtherStages options declarations declarations' names names')
  (compiled : Compiled options declarations names before diagnostics)

include further compiled

/-- What is instantiated is the same. -/
theorem instanceOf_eq {name : String} (known : (scopeOf declarations name).isSome)
    (trees : List TypeTree) :
    (scopeOf declarations').instanceOf options (contentOf options declarations' names') name
        trees
      = (scopeOf declarations).instanceOf options (contentOf options declarations names) name
        trees := by
  have mem : name ∈ declaredNames declarations := Registration.isSome_scopeOf.1 known
  rw [Scope.instanceOf, Scope.instanceOf, Scope.parametersOf_eq_of_isIn further.isIn known,
    further.content_eq name mem]
  exact NamedClass.substitute_congr fun tree mem =>
    TypeTree.substitute_eq_of_isIn further.isIn (compiled.wellFormed_types known mem)

theorem eventsOf_eq {tree : TypeTree} (requested : RequestedBy options declarations names tree) :
    (scopeOf declarations').eventsOf options (contentOf options declarations' names') tree
      = (scopeOf declarations).eventsOf options (contentOf options declarations names)
        tree := by
  obtain ⟨context, wf⟩ := compiled.exists_wellFormed requested
  cases tree with
  | applied name trees n =>
    rw [TypeTree.WellFormed] at wf
    obtain ⟨⟨shape, known, _⟩, _⟩ := wf
    rw [Scope.eventsOf, Scope.eventsOf, further.instanceOf_eq compiled (by rw [known]; rfl)]
  | primitive | declared | parameter => rfl

/-- What is asked for is asked for as well if more is declared. -/
theorem requestedBy {tree : TypeTree} (requested : RequestedBy options declarations names tree) :
    RequestedBy options declarations' names' tree := by
  induction requested with
  | initial mem => exact .initial (further.asked _ mem)
  | inner requested mem ih =>
    refine .inner ih ?_
    rw [further.eventsOf_eq compiled requested]
    exact mem

/-- What mentions generic parameters of the former declarations is asked for by
them. -/
theorem requestedBy_of_owner
    (compiled' : Compiled options declarations' names' after diagnostics') {tree : TypeTree}
    (requested : RequestedBy options declarations' names' tree) {owner : String}
    (mem : owner ∈ tree.owners) (declared : owner ∈ declaredNames declarations) :
    RequestedBy options declarations names tree := by
  induction requested with
  | initial asked =>
    rcases further.asks _ asked with asked | within
    · exact .initial asked
    · exact absurd declared (within owner mem)
  | @inner tree inner requested asked ih =>
    obtain ⟨context, wf⟩ := compiled'.exists_wellFormed requested
    -- filling in an instantiation asks for its own generic parameters only
    have within : inner.Within (· ∈ tree.owners) :=
      TypeTree.within_iff_over.2 (Scope.over_of_mem_requests wf
        (fun _ known _ mem => compiled'.wellFormed_types known mem)
        (TypeTree.within_iff_over.1 fun _ mem => mem) asked)
    have mem' : owner ∈ tree.owners := within owner mem
    refine .inner (ih mem') ?_
    rwa [← further.eventsOf_eq compiled (ih mem')]

end FurtherStages

end Stages

end ClassModel
