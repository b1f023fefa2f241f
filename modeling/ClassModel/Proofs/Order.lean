import ClassModel.Proofs.Compiled

/-!
# ClassModel.Proofs.Order

The order of the declarations. Where no name is declared twice and no
superclasses make a cycle, the stages before the instantiations do the same for
every class-like whatever comes before it, so permuted declarations have the
same scope, the same contents and the same events in another order
(`SameStages.of_perm`).
-/

namespace ClassModel

/-! ## Registration -/

namespace Registration

/-- Registers declarations as if no name were taken. -/
def readFreely (options : Options) (declarations : List Declaration) : Traced (List Registration) :=
  ⟨declarations.flatMap fun declaration => (read? options [] declaration).value.toList,
    declarations.flatMap fun declaration => (read? options [] declaration).events⟩

variable {options : Options} {taken : List Registration} {declaration : Declaration}
  {declarations declarations' : List Declaration}

/-- A name that is not taken is read as if none were. -/
theorem read?_eq (free : ∀ registration ∈ (read? options [] declaration).value,
    taken.any (·.identifier == registration.identifier) = false) :
    read? options taken declaration = read? options [] declaration := by
  unfold read? at free ⊢
  refine Traced.bind_congr ?_
  rw [Traced.value_bind] at free
  cases read : HeaderStart.read (Traced.tokens declaration.signature).value with
  | error error => cases error <;> rfl
  | ok start =>
    rw [read] at free
    have free :
        taken.any (·.identifier == start.identifier) = false := free ⟨start, declaration⟩ rfl
    dsimp only
    rw [if_neg (by simp [free]), if_neg (by simp)]

/-- A name that is taken is reported. -/
theorem any_eq_false (silent : ∀ named ∈ reports (read? options taken declaration).events,
      ∀ signature, named.bare ≠ .redefinedClassLike .placeholder signature) :
    ∀ registration ∈ (read? options [] declaration).value,
      taken.any (·.identifier == registration.identifier) = false := by
  intro registration mem
  obtain ⟨read, _, _⟩ := read_of_read?_eq_some mem
  rw [Bool.eq_false_iff]
  intro isTaken
  unfold read? at silent
  rw [Traced.events_bind, reports_append,
    show (Traced.tokens declaration.signature).value
      = (tokenize declaration.signature).significant from rfl, read] at silent
  dsimp only at silent
  rw [show registration.identifier = registration.start.identifier from rfl] at isTaken
  rw [if_pos isTaken] at silent
  exact silent _ (List.mem_append_right _ (List.mem_singleton_self _)) declaration.signature rfl

/-- Where no name is taken, declarations are read independently. -/
theorem readAll_eq
    (nodup : ((taken ++ (readFreely options declarations).value).map identifier).Nodup) :
    readAll options taken declarations = readFreely options declarations := by
  induction declarations generalizing taken with
  | nil => rfl
  | cons declaration declarations ih =>
    have split : (readFreely options (declaration :: declarations)).value
        = (read? options [] declaration).value.toList
          ++ (readFreely options declarations).value := rfl
    rw [split, ← List.append_assoc] at nodup
    have same : read? options taken declaration = read? options [] declaration := by
      refine read?_eq fun registration mem => Bool.eq_false_iff.2 fun isTaken => ?_
      obtain ⟨other, memOther, sameName⟩ := List.any_eq_true.1 isTaken
      rw [List.map_append, List.map_append] at nodup
      exact (List.nodup_append.1 (List.nodup_append.1 nodup).1).2.2 _
        (List.mem_map_of_mem memOther) _
        (List.mem_map_of_mem (Option.mem_toList.2 mem)) (by simpa using sameName)
    rw [readAll, same]
    show Traced.mk
      ((read? options [] declaration).value.toList ++ (readAll options _ declarations).value)
      ((read? options [] declaration).events ++ ((readAll options _ declarations).events ++ [])) = _
    rw [ih nodup, List.append_nil]
    rfl

/-- Where no name is reported as taken, none is. -/
theorem nodup_readFreely (nodup : (taken.map identifier).Nodup)
    (silent : ∀ named ∈ reports (readAll options taken declarations).events,
      ∀ signature, named.bare ≠ .redefinedClassLike .placeholder signature) :
    ((taken ++ (readFreely options declarations).value).map identifier).Nodup := by
  induction declarations generalizing taken with
  | nil => simpa [readFreely] using nodup
  | cons declaration declarations ih =>
    rw [readAll, Traced.events_bind, Traced.events_bind, reports_append, reports_append] at silent
    have free := any_eq_false fun named mem => silent named (List.mem_append_left _ mem)
    rw [read?_eq free] at silent
    have split : (readFreely options (declaration :: declarations)).value
        = (read? options [] declaration).value.toList
          ++ (readFreely options declarations).value := rfl
    rw [split, ← List.append_assoc]
    refine ih ?_ fun named mem =>
      silent named (List.mem_append_right _ (List.mem_append_left _ mem))
    rw [← read?_eq free]
    exact nodup_read? nodup

/-- Permuted declarations are registered in another order. -/
theorem perm_readFreely (perm : declarations.Perm declarations') :
    (readFreely options declarations).value.Perm (readFreely options declarations').value
      ∧ (readFreely options declarations).events.Perm (readFreely options declarations').events :=
  ⟨perm.flatMap_right _, perm.flatMap_right _⟩

end Registration

/-! ## By names -/

/-- The same answer, and the same happens in some order. -/
structure Traced.Alike {α : Type} (traced traced' : Traced α) : Prop where
  value : traced.value = traced'.value
  events : traced.events.Perm traced'.events

namespace Traced.Alike

variable {α β : Type}

theorem refl (traced : Traced α) : traced.Alike traced := ⟨rfl, .refl _⟩

theorem bind {traced traced' : Traced α} {next next' : α → Traced β}
    (first : traced.Alike traced') (rest : (next traced.value).Alike (next' traced.value)) :
    (traced >>= next).Alike (traced' >>= next') := by
  rw [first.value] at rest
  refine ⟨?_, ?_⟩
  · rw [value_bind, value_bind, first.value, rest.value]
  · rw [events_bind, events_bind, first.value]
    exact first.events.append rest.events

end Traced.Alike

/-- Where each name looks at its own contents, the order does not matter. -/
theorem alike_reviseAll {κ : Type} {nameOf : κ → String}
    {change : κ → NamedClass → Traced NamedClass} {ks ks' : List κ} {content : String → NamedClass}
    (nodup : (ks.map nameOf).Nodup) (perm : ks.Perm ks') :
    (reviseAll nameOf (fun k content => change k (content (nameOf k))) ks content).Alike
      (reviseAll nameOf (fun k content => change k (content (nameOf k))) ks' content) := by
  have nodup' : (ks'.map nameOf).Nodup := (perm.map nameOf).nodup_iff.1 nodup
  refine ⟨funext fun name => ?_, ?_⟩
  · by_cases mem : name ∈ ks.map nameOf
    · obtain ⟨k, known, rfl⟩ := List.mem_map.1 mem
      rw [value_reviseAll nodup known, value_reviseAll nodup' (perm.mem_iff.1 known)]
    · rw [value_reviseAll_of_not_mem mem,
        value_reviseAll_of_not_mem fun mem' => mem ((perm.map nameOf).mem_iff.2 mem')]
  · rw [events_reviseAll nodup, events_reviseAll nodup']
    exact perm.flatMap_right _

namespace Registration

variable {scope : Scope} {options : Options} {registrations registrations' : List Registration}

/-- A name is registered once at most, so the order does not matter. -/
theorem find?_eq_of_perm (nodup : (registrations.map identifier).Nodup)
    (perm : registrations.Perm registrations') (name : String) :
    registrations.find? (·.identifier == name) = registrations'.find? (·.identifier == name) := by
  have once {registrations : List Registration} (nodup : (registrations.map identifier).Nodup)
      {registration : Registration} : registrations.find? (·.identifier == name) = some registration
        ↔ registration ∈ registrations ∧ registration.identifier = name := by
    constructor
    · intro found
      exact ⟨List.mem_of_find?_eq_some found, by simpa using List.find?_some found⟩
    · rintro ⟨mem, rfl⟩
      exact find?_of_nodup nodup mem
  refine Option.ext fun registration => ?_
  rw [once nodup, once ((perm.map identifier).nodup_iff.1 nodup), perm.mem_iff]

theorem scopeOf_eq_of_perm (nodup : (registrations.map identifier).Nodup)
    (perm : registrations.Perm registrations') : scopeOf registrations = scopeOf registrations' :=
  funext fun name => by rw [scopeOf, scopeOf, find?_eq_of_perm nodup perm]

theorem contentOf_eq_of_perm (nodup : (registrations.map identifier).Nodup)
    (perm : registrations.Perm registrations') :
    contentOf registrations = contentOf registrations' :=
  funext fun name => by rw [contentOf, contentOf, find?_eq_of_perm nodup perm]

/-- Where no cycle is cut, the order of the registrations does not matter. -/
theorem alike_members (nodup : (registrations.map identifier).Nodup)
    (perm : registrations.Perm registrations')
    (silent : ∀ named ∈ reports (members scope options registrations).events,
      named.bare ≠ .cyclicInheritance .placeholder) :
    (members scope options registrations).Alike (members scope options registrations') := by
  have headers : (resolveHeaders scope options registrations (contentOf registrations)).Alike
      (resolveHeaders scope options registrations' (contentOf registrations')) := by
    rw [← contentOf_eq_of_perm nodup perm]
    exact alike_reviseAll nodup perm
  refine (headers.bind ?_).bind (alike_reviseAll nodup perm)
  rw [members, hierarchy, Traced.events_bind, Traced.events_bind, reports_append,
    reports_append] at silent
  have straight := not_isCyclic_of_reports fun named mem =>
    silent named (List.mem_append_left _ (List.mem_append_right _ mem))
  rw [cutAll_eq straight, cutAll_eq fun name mem =>
    straight name ((perm.map identifier).mem_iff.2 mem)]
  exact .refl _

end Registration

/-! ## The layout -/

section Layout

variable {content content' : String → NamedClass} {names names' : List String}

/-- The layout of a class-like is the same in all orders that put it after the
same ones. -/
theorem value_layOutAll_eq (ordered : Walk.Ordered (superName content) names)
    (ordered' : Walk.Ordered (superName content') names') (sub : names ⊆ names')
    (same : ∀ name ∈ names, content' name = content name) : ∀ name ∈ names,
      (layOutAll names' content').value name = (layOutAll names content).value name := by
  intro name mem
  -- by the way up from the class, since a layout goes on where the one above ends
  obtain ⟨path, segment⟩ := ordered.exists_path mem
  generalize start : some name = start? at segment
  induction segment generalizing name with
  | nil => cases start
  | @cons node path later ih =>
    obtain rfl := Option.some.inj start
    have above : superName content' name = superName content name := by
      rw [superName, superName, same name mem]
    rw [value_layOutAll ordered name mem, value_layOutAll ordered' name (sub mem), same name mem,
      above]
    congr 2
    refine Option.map_congr fun above found => ?_
    exact ih above (ordered.mem_of_next? mem found) found.symm

/-- The layout is the same in all orders with the same names. -/
theorem alike_layOutAll (ordered : Walk.Ordered (superName content) names)
    (ordered' : Walk.Ordered (superName content) names') (perm : names.Perm names') :
    (layOutAll names content).Alike (layOutAll names' content) := by
  have value : (layOutAll names content).value = (layOutAll names' content).value := by
    funext name
    by_cases mem : name ∈ names
    · exact (value_layOutAll_eq ordered ordered' perm.subset (fun _ _ => rfl) name mem).symm
    · rw [value_layOutAll_of_not_mem mem,
        value_layOutAll_of_not_mem fun mem' => mem (perm.mem_iff.2 mem')]
  refine ⟨value, ?_⟩
  rw [events_layOutAll ordered, events_layOutAll ordered', value]
  exact perm.flatMap_right _

end Layout

/-! ## All stages -/

section Stages

variable {options : Options} {declarations declarations' : List Declaration}
  {names names' : List String}

/-- The stages do the same, in some order. -/
structure SameStages (options : Options) (declarations declarations' : List Declaration)
    (names names' : List String) : Prop where
  scope_eq : scopeOf declarations = scopeOf declarations'
  content_eq : contentOf options declarations names = contentOf options declarations' names'
  perm : (preparation options declarations names).Perm (preparation options declarations' names')

/-- Where no name is reported as taken, permuted declarations are read as
permuted registrations. -/
theorem alike_registrationsOf (perm : declarations.Perm declarations')
    (silent : ∀ named ∈ reports (Registration.readAll options [] declarations).events,
      ∀ signature, named.bare ≠ .redefinedClassLike .placeholder signature) :
    (declaredNames declarations).Nodup
      ∧ (registrationsOf declarations).Perm (registrationsOf declarations')
      ∧ (Registration.readAll options [] declarations).events.Perm
        (Registration.readAll options [] declarations').events := by
  have nodup := Registration.nodup_readFreely (by simp) silent
  obtain ⟨values, events⟩ := Registration.perm_readFreely perm
  have nodup' := ((values.append_left []).map Registration.identifier).nodup_iff.1 nodup
  rw [declaredNames, registrationsOf, registrationsOf, Registration.value_readAll {} options,
    Registration.value_readAll {} options, Registration.readAll_eq nodup,
    Registration.readAll_eq nodup']
  exact ⟨nodup, values, events⟩

/-- Permuted declarations go through the same stages, where no name is declared
twice and no cycle is cut. -/
theorem SameStages.of_perm (perm : declarations.Perm declarations')
    (ordered : Walk.Ordered (superName (membersOf options declarations).value) names)
    (ordered' : Walk.Ordered (superName (membersOf options declarations').value) names')
    (covers : ∀ name, name ∈ names ↔ name ∈ declaredNames declarations)
    (covers' : ∀ name, name ∈ names' ↔ name ∈ declaredNames declarations')
    (unique : ∀ named ∈ reports (preparation options declarations names),
      ∀ signature, named.bare ≠ .redefinedClassLike .placeholder signature)
    (straight : ∀ named ∈ reports (preparation options declarations names),
      named.bare ≠ .cyclicInheritance .placeholder) :
    SameStages options declarations declarations' names names' := by
  rw [preparation, reports_append, reports_append] at unique straight
  obtain ⟨nodup, registrations, read⟩ := alike_registrationsOf perm fun named mem =>
    unique named (List.mem_append_left _ mem)
  have scope : scopeOf declarations = scopeOf declarations' :=
    Registration.scopeOf_eq_of_perm nodup registrations
  have members : (membersOf options declarations).Alike (membersOf options declarations') := by
    rw [membersOf, membersOf, ← scope]
    exact Registration.alike_members nodup registrations fun named mem =>
      straight named (List.mem_append_right _ (List.mem_append_left _ mem))
  have same : names.Perm names' := by
    rw [List.perm_ext_iff_of_nodup ordered.nodup ordered'.nodup]
    intro name
    rw [covers, covers', declaredNames, declaredNames,
      (registrations.map Registration.identifier).mem_iff]
  rw [← members.value] at ordered'
  have laidOut := alike_layOutAll ordered ordered' same
  refine ⟨scope, ?_, ?_⟩
  · rw [contentOf, contentOf, ← members.value, laidOut.value]
  · rw [preparation, preparation, ← members.value]
    exact read.append (members.events.append laidOut.events)

namespace SameStages

/-- The same instantiations are asked for. -/
theorem requestedBy (same : SameStages options declarations declarations' names names') :
    RequestedBy options declarations names = RequestedBy options declarations' names' := by
  have requests : (· ∈ requests (preparation options declarations names))
      = (· ∈ requests (preparation options declarations' names')) :=
    funext fun tree => propext (same.perm.filterMap _).mem_iff
  rw [RequestedBy, RequestedBy, same.scope_eq, same.content_eq, requests]

/-- The same is reported. -/
theorem reports_eventsOf (same : SameStages options declarations declarations' names names')
    {trees trees' : List TypeTree} (perm : trees.Perm trees') :
    (reports (eventsOf options declarations names trees)).Perm
      (reports (eventsOf options declarations' names' trees')) := by
  rw [eventsOf, eventsOf, same.scope_eq, same.content_eq]
  exact (same.perm.append (perm.flatMap_right _)).filterMap _

end SameStages

end Stages

end ClassModel
