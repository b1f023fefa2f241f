import ClassModel.Proofs.Legible
import ClassModel.Proofs.Turn

/-!
# ClassModel.Proofs.Redefined

Methods that are there already. The members of the declared class-likes are
compiled in turn (`Build.MembersTurn`). Where nothing is reported in a turn but
that members are there already, each method is told apart from the others by its
name and by the types and marks of its formal parameters alone: the first one of
each is kept, and every other one is reported (`keepsFirstMethods`).
-/

namespace ClassModel

/-! ## What comes again -/

section Repeats

variable {α β γ : Type} [DecidableEq β] [DecidableEq γ] (key : α → β)

/-- The items whose keys are not among the earlier ones, the first of each key. -/
def firstsAfter (earlier : List β) : List α → List α
  | [] => []
  | item :: items =>
    if key item ∈ earlier then firstsAfter earlier items
    else item :: firstsAfter (earlier ++ [key item]) items

/-- The items whose keys are among the earlier ones, or have come before. -/
def repeatsAfter (earlier : List β) : List α → List α
  | [] => []
  | item :: items =>
    if key item ∈ earlier then item :: repeatsAfter earlier items
    else repeatsAfter (earlier ++ [key item]) items

/-- The first item of each key. -/
def firsts (items : List α) : List α := firstsAfter key [] items

/-- The items whose keys have come before. -/
def repeats (items : List α) : List α := repeatsAfter key [] items

example : firsts String.length ["a", "bc", "d", "ef"] = ["a", "bc"]
    ∧ repeats String.length ["a", "bc", "d", "ef"] = ["d", "ef"] := by
  decide

variable {key} {key' : α → γ}

/-- Keys that tell the same items apart have the same first items. -/
theorem firstsAfter_congr (earlier : List α) {items : List α}
    (same : ∀ x ∈ earlier ++ items, ∀ y ∈ earlier ++ items, key x = key y ↔ key' x = key' y) :
    firstsAfter key (earlier.map key) items = firstsAfter key' (earlier.map key') items
      ∧ repeatsAfter key (earlier.map key) items = repeatsAfter key' (earlier.map key') items := by
  induction items generalizing earlier with
  | nil => exact ⟨rfl, rfl⟩
  | cons item items ih =>
    have there : key item ∈ earlier.map key ↔ key' item ∈ earlier.map key' := by
      rw [List.mem_map, List.mem_map]
      exact exists_congr fun other => and_congr_right fun mem =>
        same other (by simp [mem]) item (by simp)
    have later := ih (earlier ++ [item]) (by simpa using same)
    have fewer : earlier ++ items ⊆ earlier ++ item :: items :=
      ((List.sublist_cons_self item items).append_left earlier).subset
    have skipped := ih earlier fun x mem y mem' => same x (fewer mem) y (fewer mem')
    rw [List.map_append, List.map_append, List.map_singleton, List.map_singleton] at later
    rw [firstsAfter, firstsAfter, repeatsAfter, repeatsAfter]
    by_cases isThere : key item ∈ earlier.map key
    · rw [if_pos isThere, if_pos isThere, if_pos (there.1 isThere), if_pos (there.1 isThere),
        skipped.1, skipped.2]
      exact ⟨rfl, rfl⟩
    · have isNew := mt there.2 isThere
      rw [if_neg isThere, if_neg isThere, if_neg isNew, if_neg isNew, later.1, later.2]
      exact ⟨rfl, rfl⟩

theorem firsts_congr {items : List α}
    (same : ∀ x ∈ items, ∀ y ∈ items, key x = key y ↔ key' x = key' y) :
    firsts key items = firsts key' items ∧ repeats key items = repeats key' items :=
  firstsAfter_congr [] same

end Repeats

/-! ## Turns -/

namespace Build

/-- In the third stage, the members of the class-like of the intake are compiled
between the states `before` and `after`. -/
def MembersTurn (options : Options) (declarations : List Declaration) (intake : Intake)
    (before after : BuildState) : Prop :=
  ∃ earlier later registered straight,
    (registerAll options declarations).run.run {} = (.ok (earlier ++ intake :: later), registered)
      ∧ (do (earlier ++ intake :: later).forM (resolveHeader options)
            breakCycles).run.run registered = (.ok (), straight)
      ∧ (earlier.forM fun intake => compileMembers options intake.id).run.run straight
        = (.ok (), before)
      ∧ (compileMembers options intake.id).run.run before = (.ok (), after)

/-- The methods are compiled from their texts between the states, and each is added
to the owner unless it has one of the same signature. -/
inductive CompilesMethods (options : Options) (owner : ClassId) :
    List (String × Body) → List Method → BuildState → BuildState → Prop where
  | nil {state : BuildState} : CompilesMethods options owner [] [] state state
  | cons {signature : String} {body : Body} {entries : List (String × Body)} {method : Method}
      {methods : List Method} {state middle after last : BuildState} :
    (compileMethod options owner signature body).run.run state = (.ok method, middle) →
      (addMethod options owner signature body).run.run state = (.ok (), after) →
        CompilesMethods options owner entries methods after last →
          CompilesMethods options owner ((signature, body) :: entries)
            (method :: methods) state last

variable {α : Type} {options : Options} {owner : ClassId} {state : BuildState}

theorem run_eq_of_yields {step : Build α} {answer : α} {after : BuildState}
    (yields : step.Yields state fun answer' after' => answer' = answer ∧ after' = after) :
    step.run.run state = (.ok answer, after) := by
  obtain ⟨_, _, run, rfl, rfl⟩ := yields.exists_run
  exact run

/-- What adding a method comes to. -/
theorem run_addMethod {signature : String} {body : Body} {method : Method} {middle : BuildState}
    {found : ClassLike}
    (compiled : (compileMethod options owner signature body).run.run state = (.ok method, middle))
    (known : middle.library.classLike? owner = some found) :
    (addMethod options owner signature body).run.run state = (.ok (),
      if method.signature ∈ found.methods.map (·.signature) then
        { middle with log := middle.log.report (.redefinedMember owner method.signature) }
      else
        { middle with
          library := middle.library.modify owner fun classLike =>
            { classLike with methods := classLike.methods ++ [method] } }) := by
  have isThere : (found.method? method.signature).isSome = true
      ↔ method.signature ∈ found.methods.map (·.signature) := by
    simp [ClassLike.method?]
  apply run_eq_of_yields
  unfold addMethod
  rw [yields_bind, Yields, compiled]
  dsimp only
  rw [yields_bind, yields_classLike known]
  simp only [isThere]
  split
  · exact ⟨trivial, rfl⟩
  · rw [yields_modifyClassLike known]
    exact ⟨trivial, rfl⟩

end Build

/-! ## Silence -/

/-- The diagnostic is that a member is there already. -/
def Diagnostic.IsRedefinedMember : Diagnostic → Prop
  | redefinedMember .. => True
  | _ => False

theorem Diagnostic.IsRedefinedMember.isAboutMember_bare {diagnostic : Diagnostic}
    (isRedefined : diagnostic.IsRedefinedMember) : diagnostic.bare.IsAboutMember := by
  cases diagnostic <;> trivial

/-- Where nothing of a kind can be reported, and nothing else is, nothing is. -/
theorem Refines.eq_nil_of_isMute {α β : Type} {scope : Scope} {options : Options}
    {focus : ClassId → Prop} {state after : BuildState} {step : Build α} {traced : Traced β}
    {related : Library → α → β → Prop} {kind : Diagnostic → Prop} {answer : α}
    {told : List Diagnostic} (refines : Refines scope options focus state step traced related)
    (mute : traced.IsMute kind) (run : step.run.run state = (.ok answer, after))
    (log : after.log.toList = state.log.toList ++ told)
    (only : ∀ diagnostic ∈ told, kind diagnostic.bare) : told = [] := by
  obtain ⟨_, _, run', _, steps, _⟩ := Build.Yields.exists_run refines
  cases run.symm.trans run'
  obtain ⟨diagnostics, log', tells⟩ := steps.log
  obtain rfl := List.append_cancel_left (log.symm.trans log')
  refine List.eq_nil_iff_forall_not_mem.2 fun diagnostic mem => ?_
  obtain ⟨named, inside, tells⟩ := Related.exists_of_mem tells.flip mem
  exact mute.silent named inside (tells.1 ▸ only diagnostic mem)

/-! ## Adding methods -/

namespace Library

theorem Grows.methodsOf_eq {before after : Library} (grows : before.Grows nobody after)
    {id : ClassId} {classLike : ClassLike} (known : before.classLike? id = some classLike) :
    after.methodsOf id = before.methodsOf id := by
  obtain ⟨later, known', _, content⟩ := grows.classLike known
  rw [methodsOf, methodsOf, known, known']
  exact congrArg (·.methods) (content not_false)

end Library

section AddMethods

variable {scope : Scope} {options : Options} {context : String} {owner : ClassId}

/-- What adding methods comes to where each is compiled without a diagnostic. -/
structure AddsMethods (scope : Scope) (options : Options) (context : String) (owner : ClassId)
    (compiled : List Method) (told : List Diagnostic) (state last : BuildState) : Prop where
  legible : ∀ method ∈ compiled, last.library.IsLegible scope options context method
  told : told = (repeatsAfter Method.signature
    ((state.library.methodsOf owner).map Method.signature) compiled).map
      fun method => .redefinedMember owner method.signature
  methods : last.library.methodsOf owner = state.library.methodsOf owner
    ++ firstsAfter Method.signature ((state.library.methodsOf owner).map Method.signature) compiled

/-- No complaint about a member is reported while a method is compiled. Where nothing
else is, the method is what its text says. -/
theorem isLegible_of_run {signature : String} {body : Body} {state middle : BuildState}
    {named : NamedClass} {method : Method} {told : List Diagnostic}
    (coherent : state.library.Coherent scope options)
    (declaredAs : state.library.DeclaredAs scope options context owner named)
    (run : (Build.compileMethod options owner signature body).run.run state = (.ok method, middle))
    (log : middle.log.toList = state.log.toList ++ told)
    (only : ∀ diagnostic ∈ told, diagnostic.bare.IsAboutMember) :
    told = [] ∧ middle.library.IsLegible scope options context method := by
  have refines := @Refines.compileMethod scope options context signature state owner body coherent
    declaredAs.isNamed
  have none := refines.eq_nil_of_isMute (scope.isMute_compileMethod ..) run log only
  rw [none, List.append_nil] at log
  obtain ⟨_, _, run', coherent', _, spells⟩ := Build.Yields.exists_run refines
  cases run.symm.trans run'
  exact ⟨none, spells.isLegible coherent' (refines.silent_of_run run log)⟩

/-- A method that is compiled without a diagnostic is added, or is reported to be
there. -/
theorem addsMethods_addMethod {signature : String} {body : Body} {state after : BuildState}
    {named : NamedClass} {told : List Diagnostic} (coherent : state.library.Coherent scope options)
    (declaredAs : state.library.DeclaredAs scope options context owner named)
    (run : (Build.addMethod options owner signature body).run.run state = (.ok (), after))
    (log : after.log.toList = state.log.toList ++ told)
    (only : ∀ diagnostic ∈ told, diagnostic.bare.IsAboutMember) : ∃ method middle,
      (Build.compileMethod options owner signature body).run.run state = (.ok method, middle)
        ∧ AddsMethods scope options context owner [method] told state after := by
  obtain ⟨method, middle, compile, coherent', steps, _⟩ := Build.Yields.exists_run
    (@Refines.compileMethod scope options context signature state owner body coherent
      declaredAs.isNamed)
  obtain ⟨compiling, logged, _⟩ := steps.log
  obtain ⟨found, declared, _⟩ := (steps.grows.declaredAs not_false declaredAs).exists_classLike
  obtain ⟨classLike, known, _⟩ := declaredAs.exists_classLike
  have same := steps.grows.methodsOf_eq known.1
  have methods : middle.library.methodsOf owner = found.methods := by
    rw [Library.methodsOf, declared.1]
  refine ⟨method, middle, compile, ?_⟩
  have added := Build.run_addMethod compile declared.1
  rw [run, ← methods, same] at added
  split at added
  · next isThere =>
    cases added
    rw [Log.toList_report, logged, List.append_assoc, List.append_cancel_left_eq] at log
    obtain ⟨rfl, legible⟩ :=
      isLegible_of_run coherent declaredAs compile logged fun diagnostic mem =>
      only diagnostic (log ▸ List.mem_append_left _ mem)
    exact {
      legible := List.forall_mem_singleton.2 legible
      told := by
        rw [repeatsAfter, if_pos isThere, ← log]
        rfl
      methods := by
        rw [firstsAfter, if_pos isThere]
        exact same.trans (List.append_nil _).symm }
  · next isNew =>
    cases added
    rw [logged, List.append_cancel_left_eq] at log
    obtain ⟨rfl, legible⟩ := isLegible_of_run coherent declaredAs compile logged (log ▸ only)
    have revises : middle.library.Revises (· = owner) (middle.library.modify owner fun classLike =>
        { classLike with methods := classLike.methods ++ [method] }) :=
      Library.revises_modify declared.1 ⟨rfl, rfl, rfl, rfl, rfl, rfl, rfl⟩ rfl
    exact {
      legible := List.forall_mem_singleton.2
        (legible.grows coherent' (revises.coherent coherent') revises.toGrows)
      told := by
        rw [repeatsAfter, if_neg isNew, ← log]
        rfl
      methods := by
        rw [firstsAfter, if_neg isNew, ← same, methods, Library.methodsOf,
          Library.classLike?_modify, if_pos rfl, declared.1]
        rfl }

/-- A method, and then others. -/
theorem AddsMethods.cons {method : Method} {methods : List Method} {told told' : List Diagnostic}
    {state after last : BuildState}
    (first : AddsMethods scope options context owner [method] told state after)
    (later : AddsMethods scope options context owner methods told' after last)
    (coherent : after.library.Coherent scope options)
    (coherent' : last.library.Coherent scope options) {focus : ClassId → Prop}
    (grows : after.library.Grows focus last.library) :
    AddsMethods scope options context owner (method :: methods) (told ++ told') state last := by
  have legible : ∀ other ∈ method :: methods, last.library.IsLegible scope options context other :=
    List.forall_mem_cons.2
      ⟨(first.legible method (by simp)).grows coherent coherent' grows, later.legible⟩
  have methodsOf := first.methods
  have told := first.told
  by_cases isThere : method.signature ∈ (state.library.methodsOf owner).map Method.signature
  · rw [firstsAfter, if_pos isThere, firstsAfter, List.append_nil] at methodsOf
    rw [repeatsAfter, if_pos isThere, repeatsAfter] at told
    refine ⟨legible, ?_, ?_⟩
    · rw [repeatsAfter, if_pos isThere, told, later.told, methodsOf]
      rfl
    · rw [firstsAfter, if_pos isThere, later.methods, methodsOf]
  · rw [firstsAfter, if_neg isThere, firstsAfter] at methodsOf
    rw [repeatsAfter, if_neg isThere, repeatsAfter] at told
    refine ⟨legible, ?_, ?_⟩
    · rw [repeatsAfter, if_neg isThere, told, later.told, methodsOf, List.map_append]
      rfl
    · rw [firstsAfter, if_neg isThere, later.methods, methodsOf, List.map_append, List.append_assoc]
      rfl

/-- Methods are compiled and added one after another. -/
theorem addsMethods_forM {entries : List (String × Body)} {state last : BuildState}
    {named : NamedClass} {told : List Diagnostic} (coherent : state.library.Coherent scope options)
    (declaredAs : state.library.DeclaredAs scope options context owner named)
    (run : (entries.forM fun (signature, body) =>
      Build.addMethod options owner signature body).run.run state = (.ok (), last))
    (log : last.log.toList = state.log.toList ++ told)
    (only : ∀ diagnostic ∈ told, diagnostic.bare.IsAboutMember) :
    last.library.Coherent scope options ∧ ∃ compiled,
      Build.CompilesMethods options owner entries compiled state last
        ∧ AddsMethods scope options context owner compiled told state last := by
  induction entries generalizing state named told with
  | nil =>
    cases run
    obtain rfl : told = [] := by simpa using log
    exact ⟨coherent, [], .nil, by simp, rfl, (List.append_nil _).symm⟩
  | cons entry entries ih =>
    obtain ⟨_, after, first, later⟩ := Build.exists_run_of_bind run
    obtain ⟨_, _, first', coherent', steps, declaredAs'⟩ :=
      Build.Yields.exists_run (Refines.addMethod coherent declaredAs)
    cases first.symm.trans first'
    obtain ⟨_, _, later', _, steps', _⟩ :=
      Build.Yields.exists_run (Refines.addMethods coherent' declaredAs')
    cases later.symm.trans later'
    obtain ⟨toldFirst, logged, _⟩ := steps.log
    obtain ⟨toldLater, logged', _⟩ := steps'.log
    rw [logged', logged, List.append_assoc, List.append_cancel_left_eq] at log
    subst log
    rw [List.forall_mem_append] at only
    obtain ⟨method, middle, compile, added⟩ :=
      addsMethods_addMethod coherent declaredAs first logged only.1
    obtain ⟨coherent'', methods, compiles, adds⟩ := ih coherent' declaredAs' later logged' only.2
    exact ⟨coherent'', method :: methods, .cons compile first compiles,
      added.cons adds coherent' coherent'' steps'.grows⟩

end AddMethods

/-! ## The start of a turn -/

/-- Headers, and cutting cycles, leave the methods and the declaration of a
class-like as they are. -/
theorem Registration.methods_hierarchy {scope : Scope} (options : Options)
    (object : scope Standard.objectIdentifier = some ⟨.class, []⟩)
    (registrations : List Registration) (name : String) :
    let named := (hierarchy scope options registrations).value name
    named.methods = []
      ∧ named.bare.prototype? = (contentOf registrations name).bare.prototype? := by
  have keeps : scope.KeepsHierarchy fun name named => named.methods = []
      ∧ named.bare.prototype? = (contentOf registrations name).bare.prototype? :=
    { parameters := fun holds _ _ _ => holds
      superclass? := fun holds _ _ _ => holds
      interfaces := fun holds _ _ => holds }
  refine keeps.hierarchy object (keeps.resolveHeaders object (fun name => ⟨?_, rfl⟩) _) name
  unfold contentOf
  split <;> rfl

namespace Build

variable {options : Options} {declarations : List Declaration} {intake : Intake}
  {before after : BuildState}

/-- The hierarchy is there when the members are compiled. -/
structure HasHierarchy (options : Options) (declarations : List Declaration)
    (registrations : List Registration) (content : String → NamedClass) (straight : BuildState) :
    Prop where
  coherent : straight.library.Coherent (scopeOf declarations) options
  realizes : straight.library.Realizes (scopeOf declarations) options content
  methods (name : String) : (content name).methods = []
  prototype? : ∀ registration ∈ registrations,
    (content registration.identifier).bare.prototype? = some registration.declaration

/-- The first two stages come to their end. -/
theorem exists_hasHierarchy (options : Options)
    (sound : Registration.Sound (registrationsOf declarations)) :
    ∃ intakes registered straight content,
      (registerAll options declarations).run.run {} = (.ok intakes, registered)
        ∧ (do intakes.forM (resolveHeader options); breakCycles).run.run registered
          = (.ok (), straight)
        ∧ List.Forall₂ straight.library.Takes intakes (registrationsOf declarations)
        ∧ HasHierarchy options declarations (registrationsOf declarations) content straight := by
  obtain ⟨intakes, registered, register, isRegistered, coherent, takes⟩ :=
    exists_registered options sound
  obtain ⟨_, straight, run, coherent', steps, realizes⟩ := Yields.exists_run
    (Refines.hierarchy isRegistered coherent (isRegistered.realizes sound) takes)
  have start :=
    Registration.methods_hierarchy options coherent.object (registrationsOf declarations)
  refine ⟨intakes, registered, straight, _, register, run, Refines.takes_of_grows steps.grows takes,
    coherent', realizes, fun name => (start name).1, fun registration mem => ?_⟩
  rw [(start registration.identifier).2, Registration.contentOf, isRegistered.find?_eq mem]
  rfl

/-- Members are compiled as by names. -/
theorem HasHierarchy.compileMembers {registrations : List Registration}
    {content : String → NamedClass} {straight : BuildState}
    (hierarchy : HasHierarchy options declarations registrations content straight)
    {intakes : List Intake} (takes : List.Forall₂ straight.library.Takes intakes registrations) :
    Refines (scopeOf declarations) options Library.anybody straight
      (intakes.forM fun intake => Build.compileMembers options intake.id)
      (Registration.compileMembers (scopeOf declarations) options registrations content)
      fun after _ content => after.Realizes (scopeOf declarations) options content :=
  Refines.compileAllMembers hierarchy.coherent hierarchy.realizes takes hierarchy.prototype?

/-- It comes to the turn of each class-like. Then it has its declaration, and no
methods yet. -/
theorem HasHierarchy.exists_before {content : String → NamedClass} {straight : BuildState}
    (hierarchy : HasHierarchy options declarations (registrationsOf declarations) content straight)
    {earlier later : List Intake} (takes : List.Forall₂ straight.library.Takes
      (earlier ++ intake :: later) (registrationsOf declarations)) :
    ∃ registration ∈ registrationsOf declarations, straight.library.Takes intake registration
      ∧ ∃ before named,
        (earlier.forM fun intake => Build.compileMembers options intake.id).run.run straight
            = (.ok (), before)
          ∧ before.library.Coherent (scopeOf declarations) options
          ∧ before.library.DeclaredAs (scopeOf declarations) options registration.identifier
            intake.id named
          ∧ named.methods = [] ∧ named.bare.prototype? = some registration.declaration := by
  obtain ⟨earlier', registration, later', split, takesEarlier, takesOwn, _⟩ :=
    Related.exists_append_cons takes
  have among {registration : Registration} (mem : registration ∈ earlier') :
      registration ∈ registrationsOf declarations := by simp [split, mem]
  have hierarchy' : HasHierarchy options declarations earlier' content straight :=
    { hierarchy with prototype? := fun registration mem => hierarchy.prototype? _ (among mem) }
  obtain ⟨_, before, first, coherent, steps, realizes⟩ :=
    Yields.exists_run (hierarchy'.compileMembers takesEarlier)
  -- The turns of the others are those of other names.
  have notEarlier : registration.identifier ∉ earlier'.map Registration.identifier := by
    have nodup := nodup_declaredNames declarations
    rw [declaredNames, split, List.map_append, List.map_cons] at nodup
    exact fun mem => (List.nodup_append.1 nodup).2.2 _ mem _ List.mem_cons_self rfl
  have declaredAs := realizes.declaredAs (steps.grows.isNamed_iff.2 takesOwn.isNamed)
  rw [Registration.compileMembers, value_reviseAll_of_not_mem notEarlier] at declaredAs
  have mem : registration ∈ registrationsOf declarations := by simp [split]
  exact ⟨registration, mem, takesOwn, before, _, first, coherent, declaredAs, hierarchy.methods _,
    hierarchy.prototype? registration mem⟩

/-- When it is the turn of a class-like, it has its declaration and no methods. -/
theorem MembersTurn.exists_declaredAs (sound : Registration.Sound (registrationsOf declarations))
    (turn : MembersTurn options declarations intake before after) :
    ∃ registration ∈ registrationsOf declarations, ∃ named,
      before.library.Coherent (scopeOf declarations) options
        ∧ before.library.DeclaredAs (scopeOf declarations) options registration.identifier intake.id
          named
        ∧ named.methods = [] ∧ named.bare.prototype? = some registration.declaration := by
  obtain ⟨earlier, later, registered, straight, register, run, first, _⟩ := turn
  obtain ⟨_, _, _, content, register', run', takes, hierarchy⟩ := exists_hasHierarchy options sound
  cases register.symm.trans register'
  cases run.symm.trans run'
  obtain ⟨registration, mem, _, before, named, first', facts⟩ := hierarchy.exists_before takes
  cases first.symm.trans first'
  exact ⟨registration, mem, named, facts⟩

/-- Each declared class-like has its turn. -/
theorem exists_membersTurn (options : Options)
    (sound : Registration.Sound (registrationsOf declarations)) {registration : Registration}
    (mem : registration ∈ registrationsOf declarations) : ∃ intake before after,
      MembersTurn options declarations intake before after
        ∧ before.library.IsNamed intake.id registration.identifier := by
  obtain ⟨intakes, registered, straight, content, register, run, takes, hierarchy⟩ :=
    exists_hasHierarchy options sound
  obtain ⟨intake, taken, takesOwn⟩ := Related.exists_of_mem takes mem
  obtain ⟨earlier, later, rfl⟩ := List.append_of_mem taken
  obtain ⟨registration', _, takesOwn', before, named, first, coherent, declaredAs, _, prototype?⟩ :=
    hierarchy.exists_before takes
  obtain ⟨_, after, own, _⟩ :=
    Yields.exists_run (Refines.compileMembers coherent declaredAs prototype?)
  refine ⟨intake, before, after, ⟨earlier, later, registered, straight, register, run, first, own⟩,
    ?_⟩
  rw [takesOwn.isNamed.name_inj takesOwn'.isNamed]
  exact declaredAs.isNamed

/-- What compiling the members of a class-like is made of. -/
theorem exists_runs_of_compileMembers {owner : ClassId} {found : ClassLike}
    {declaration : Declaration} (known : before.library.classLike? owner = some found)
    (prototype? : found.prototype? = some declaration)
    (run : (compileMembers options owner).run.run before = (.ok (), after)) : ∃ middle last,
      (declaration.attributes.forM (addAttribute options owner)).run.run before = (.ok (), middle)
        ∧ (declaration.methods.forM fun (signature, body) =>
          addMethod options owner signature body).run.run middle = (.ok (), last)
        ∧ (modifyClassLike owner fun classLike =>
          { classLike with kind := classLike.kind.withConstants declaration.enumConstants }).run.run
            last = (.ok (), after) := by
  have read : (classLike owner).run.run before = (.ok found, before) :=
    run_eq_of_yields ((yields_classLike known).2 ⟨rfl, rfl⟩)
  unfold compileMembers at run
  rw [run_bind, read] at run
  simp only [prototype?] at run
  obtain ⟨_, middle, attributes, run⟩ := exists_run_of_bind run
  obtain ⟨_, last, methods, constants⟩ := exists_run_of_bind run
  exact ⟨middle, last, attributes, methods, constants⟩

end Build

/-- Compiling attributes adds no methods. -/
theorem NamedClass.methods_addAttributes {scope : Scope} {options : Options} {named : NamedClass}
    (none : named.methods = []) (signatures : List String) :
    (signatures.foldlM (fun (named : NamedClass) signature =>
      named.addAttribute scope options signature) named).value.methods = [] := by
  refine Traced.value_foldlM_of (p := fun named : NamedClass => named.methods = [])
    (fun named signature none => ?_) none signatures
  unfold addAttribute
  rw [Traced.value_bind]
  split
  · exact none
  · split <;> exact none

theorem Library.DeclaredAs.methodsOf_eq_nil {library : Library} {scope : Scope} {options : Options}
    {context : String} {id : ClassId} {named : NamedClass}
    (declaredAs : library.DeclaredAs scope options context id named) (none : named.methods = []) :
    library.methodsOf id = [] := by
  obtain ⟨classLike, declared, _, spells⟩ := declaredAs.exists_classLike
  have methods := spells.methods
  rw [none, List.forall₂_nil_right_iff] at methods
  rw [methodsOf, declared.1]
  exact methods

/-! ## The whole turn -/

/-- The members of the declaration are compiled between the states, and what comes
of its methods. -/
structure KeepsFirstMethods (options : Options) (owner : ClassId) (declaration : Declaration)
    (compiled : List Method) (before after : BuildState) : Prop where
  /-- The methods are compiled in their order, behind the attributes. All that is
  reported about them is which have come before. -/
  compiles : ∃ middle last,
    (declaration.attributes.forM (Build.addAttribute options owner)).run.run before
      = (.ok (), middle)
      ∧ Build.CompilesMethods options owner declaration.methods compiled middle last
      ∧ after.log.toList = middle.log.toList ++ (repeats Method.profile compiled).map
        fun method => .redefinedMember owner method.signature
  signature_eq_iff : ∀ method ∈ compiled, ∀ method' ∈ compiled,
    method.signature = method'.signature ↔ method.profile = method'.profile
  methodsOf : after.library.methodsOf owner = firsts Method.profile compiled

/-- Where nothing is reported in the turn of a declared class-like but that members
are there already, its methods have the same signature exactly if they have the same
name, and the same types and marks of formal parameters. The first method of each
signature is kept, and every other one is reported. -/
theorem keepsFirstMethods {options : Options} {declarations : List Declaration} {intake : Intake}
    {before after : BuildState} {told : List Diagnostic}
    (turn : Build.MembersTurn options (Standard.prelude ++ declarations) intake before after)
    (log : after.log.toList = before.log.toList ++ told)
    (only : ∀ diagnostic ∈ told, diagnostic.IsRedefinedMember) : ∃ declaration compiled,
      (before.library.classLike? intake.id).bind ClassLike.prototype? = some declaration
        ∧ KeepsFirstMethods options intake.id declaration compiled before after := by
  obtain ⟨registration, _, named, coherent, declaredAs, none, prototype?⟩ :=
    turn.exists_declaredAs (sound_prelude declarations)
  obtain ⟨_, _, _, _, _, _, _, own⟩ := turn
  obtain ⟨found, declared, _, spells⟩ := declaredAs.exists_classLike
  rw [← spells.bare] at prototype?
  obtain ⟨middle, last, attributes, methods, constants⟩ :=
    Build.exists_runs_of_compileMembers declared.1 prototype? own
  -- The attributes, and the methods.
  obtain ⟨_, _, attributes', coherent', steps, declaredAs'⟩ :=
    Build.Yields.exists_run (Refines.addAttributes coherent declaredAs)
  cases attributes.symm.trans attributes'
  obtain ⟨_, _, methods', _, steps', declaredAs''⟩ :=
    Build.Yields.exists_run (Refines.addMethods coherent' declaredAs')
  cases methods.symm.trans methods'
  -- The constants change neither the methods nor the log.
  obtain ⟨later, declared', _⟩ := declaredAs''.exists_classLike
  cases constants.symm.trans (Build.run_eq_of_yields
    ((Build.yields_modifyClassLike declared'.1 _).2 ⟨rfl, rfl⟩))
  obtain ⟨_, logged, _⟩ := steps.log
  obtain ⟨_, logged', _⟩ := steps'.log
  have all := log
  simp only [logged', logged, List.append_assoc, List.append_cancel_left_eq] at all
  subst all
  rw [List.forall_mem_append] at only
  obtain ⟨coherent'', compiled, compiles, adds⟩ := addsMethods_forM coherent' declaredAs' methods
    logged' fun diagnostic mem => (only.2 diagnostic mem).isAboutMember_bare
  have start := declaredAs'.methodsOf_eq_nil (NamedClass.methods_addAttributes none _)
  have same : ∀ method ∈ compiled, ∀ method' ∈ compiled,
      method.signature = method'.signature ↔ method.profile = method'.profile :=
    fun method mem method' mem' => (adds.legible method mem).signature_eq_iff coherent''
      (hasWords_scopeOf _) (isSpelled_scopeOf _) (adds.legible method' mem')
  obtain ⟨firstsEq, repeatsEq⟩ := firsts_congr same
  refine ⟨registration.declaration, compiled, ?_,
    ⟨middle, last, attributes, compiles, ?_⟩, same, ?_⟩
  · rw [declared.1]
    exact prototype?
  · show last.log.toList = _
    rw [logged', adds.told, start, ← repeatsEq]
    rfl
  · have kept : last.library.methodsOf intake.id = firsts Method.profile compiled := by
      rw [adds.methods, start, ← firstsEq]
      rfl
    rw [← kept, Library.methodsOf, Library.methodsOf, Library.classLike?_modify, if_pos rfl,
      declared'.1]
    rfl

/-! ## A sample -/

/-- The second method differs from the first one in its mark only, and the third one
is the first one again. -/
def Declaration.overloads : Declaration where
  signature := "class Box<T>"
  methods := [("void f(int... a)", .expression "1"), ("void f(int a,)", .expression "2"),
    ("void f(int... a)", .expression "3")]

/-- Where each method is compiled without a diagnostic, nothing is reported but that
methods are there already. -/
theorem NamedClass.isMute_addMethods {scope : Scope} {options : Options}
    {entries : List (String × Body)} (silent : ∀ entry ∈ entries, ∀ context,
      reports (scope.compileMethod options context entry.1 entry.2).events = [])
    (named : NamedClass) : (entries.foldlM (fun (named : NamedClass) (signature, body) =>
      named.addMethod scope options signature body) named).IsMute
        fun diagnostic => ¬ diagnostic.IsRedefinedMember := by
  induction entries generalizing named with
  | nil => exact .pure _
  | cons entry entries ih =>
    rw [List.forall_mem_cons] at silent
    rw [List.foldlM_cons]
    refine .bind (.bind ⟨fun named mem => ?_⟩ fun method => ?_) fun named => ih silent.2 named
    · rw [silent.1] at mem
      cases mem
    · split
      · exact (Traced.IsMute.reportOf (not_not.2 trivial)).bind fun _ => .pure _
      · exact .pure _

theorem NamedClass.isMute_overloads (scope : Scope) (options : Options) (named : NamedClass) :
    (named.compileMembers scope options Declaration.overloads).IsMute
      fun diagnostic => ¬ diagnostic.IsRedefinedMember := by
  have silent : ∀ entry ∈ Declaration.overloads.methods, ∀ context,
      reports (scope.compileMethod options context entry.1 entry.2).events = [] := by
    rintro _ (_ | ⟨_, _ | ⟨_, _ | ⟨_, ⟨⟩⟩⟩⟩) context
    exacts [(scope.silent_samples options context _).1, (scope.silent_samples options context _).2,
      (scope.silent_samples options context _).1]
  exact (Traced.IsMute.pure named).bind fun named =>
    (isMute_addMethods silent named).bind fun named => .pure _

theorem Diagnostic.IsRedefinedMember.of_bare {diagnostic : Diagnostic}
    (isRedefined : diagnostic.bare.IsRedefinedMember) : diagnostic.IsRedefinedMember := by
  cases diagnostic <;> trivial

theorem exists_overloads : ∃ registration ∈ registrationsOf (Standard.prelude
    ++ [Declaration.overloads]), registration.declaration = Declaration.overloads := by
  have known : (registrationsOf (Standard.prelude ++ [Declaration.overloads])).any
        (·.declaration.signature == Declaration.overloads.signature) = true
      ∧ ∀ declaration ∈ Standard.prelude,
        declaration.signature ≠ Declaration.overloads.signature := by
    decide +kernel
  obtain ⟨registration, mem, same⟩ := List.any_eq_true.1 known.1
  obtain ⟨declaration, mem', _, own⟩ := Registration.exists_of_mem_readAll mem
  rw [own, beq_iff_eq] at same
  rcases List.mem_append.1 mem' with inPrelude | isOwn
  · exact absurd same (known.2 declaration inPrelude)
  · exact ⟨registration, mem, own.trans (List.mem_singleton.1 isOwn)⟩

theorem keepsFirstMethods_overloads : ∃ intake before after told compiled,
    Build.MembersTurn {} (Standard.prelude ++ [Declaration.overloads]) intake before after
      ∧ after.log.toList = before.log.toList ++ told
      ∧ (∀ diagnostic ∈ told, diagnostic.IsRedefinedMember)
      ∧ KeepsFirstMethods {} intake.id Declaration.overloads compiled before after := by
  have sound := sound_prelude [Declaration.overloads]
  obtain ⟨registration, mem, own⟩ := exists_overloads
  obtain ⟨intake, before, after, turn, isNamed⟩ := Build.exists_membersTurn {} sound mem
  obtain ⟨registration', mem', named, coherent, declaredAs, none, prototype?⟩ :=
    turn.exists_declaredAs sound
  obtain rfl : registration = registration' := List.inj_on_of_nodup_map
    (nodup_declaredNames _) mem mem' (isNamed.name_inj declaredAs.isNamed)
  rw [own] at prototype?
  have ⟨_, _, _, _, _, _, _, run⟩ := turn
  obtain ⟨_, _, run', _, steps, _⟩ :=
    Build.Yields.exists_run (Refines.compileMembers coherent declaredAs prototype?)
  cases run.symm.trans run'
  obtain ⟨told, log, tells⟩ := steps.log
  have only : ∀ diagnostic ∈ told, diagnostic.IsRedefinedMember := by
    intro diagnostic mem
    obtain ⟨told, inside, same, _⟩ := Related.exists_of_mem tells.flip mem
    exact .of_bare (same ▸ not_not.1 ((NamedClass.isMute_overloads _ _ _).silent told inside))
  obtain ⟨declaration, compiled, known, keeps⟩ := keepsFirstMethods turn log only
  obtain ⟨found, declared, _, spells⟩ := declaredAs.exists_classLike
  rw [← spells.bare] at prototype?
  rw [declared.1] at known
  obtain rfl : Declaration.overloads = declaration := Option.some.inj (prototype?.symm.trans known)
  exact ⟨intake, before, after, told, compiled, turn, log, only, keeps⟩

end ClassModel
