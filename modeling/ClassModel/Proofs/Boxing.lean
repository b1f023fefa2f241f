import ClassModel.Proofs.Effective
import ClassModel.Proofs.Extended
import ClassModel.Proofs.Nesting
import ClassModel.Proofs.Redefined

/-!
# ClassModel.Proofs.Boxing

Values of the primitive types are wrapped and unwrapped in every library
(`boxesValues_of_compile`). The factory of a wrapper writes its object down as it
is, and the accessor finds the value through the compiled class. The two agree
whatever is declared besides the prelude: the wrappers are compiled as in the
library of the prelude alone (`exists_extended_prelude`), and their methods have
the bodies of their declarations (`Library.bodies_sublist`).
-/

namespace ClassModel

/-! ## Bodies -/

namespace NamedClass

variable (scope : Scope) (options : Options)

/-- The bodies of the methods. -/
def bodies (named : NamedClass) : List (Option Body) := named.methods.map (·.bare.body?)

theorem bodies_addMethod (named : NamedClass) (signature : String) (body : Body) :
    List.Sublist (named.addMethod scope options signature body).value.bodies
      (named.bodies ++ [some body]) := by
  rw [addMethod, Traced.value_bind]
  split
  · exact List.sublist_append_left _ _
  · rw [Traced.value_pure, bodies, bodies, List.map_append]
    exact List.Sublist.refl _

/-- Methods are added with the bodies that stand beside them, unless they are there
already. -/
theorem bodies_addMethods (entries : List (String × Body)) (named : NamedClass) :
    List.Sublist (entries.foldlM (fun (named : NamedClass) (signature, body) =>
        named.addMethod scope options signature body) named).value.bodies
      (named.bodies ++ entries.map fun entry => some entry.2) := by
  induction entries generalizing named with
  | nil => exact List.sublist_append_left _ _
  | cons entry entries ih =>
    have first := bodies_addMethod scope options named entry.1 entry.2
    rw [List.foldlM_cons, Traced.value_bind, List.map_cons, List.append_cons]
    exact (ih _).trans (first.append_right _)

theorem bodies_compileMembers {named : NamedClass} (none : named.methods = [])
    (declaration : Declaration) :
    List.Sublist (named.compileMembers scope options declaration).value.bodies
      (declaration.methods.map fun entry => some entry.2) := by
  rw [compileMembers, Traced.value_bind, Traced.value_bind, Traced.value_pure]
  refine (bodies_addMethods scope options declaration.methods _).trans ?_
  rw [bodies, methods_addAttributes none]
  exact List.Sublist.refl _

theorem methods_layOut (named : NamedClass) (above? : Option NamedClass) :
    (named.layOut above?).value.methods = named.methods := by
  obtain ⟨first, inherited, values, same⟩ := named.exists_value_layOut above?
  rw [same]
  rfl

end NamedClass

theorem methods_layOutAll (names : List String) (content : String → NamedClass) (name : String) :
    ((layOutAll names content).value name).methods = (content name).methods := by
  unfold layOutAll
  refine forall_reviseAll (p := fun name named => named.methods = (content name).methods)
    (fun name content same => ?_) (fun _ => rfl) names name
  exact (NamedClass.methods_layOut _ _).trans (same name)

section Bodies

variable {options : Options} {declarations : List Declaration} {names : List String}
  {registration : Registration}

theorem bodies_contentOf
    (object : scopeOf declarations Standard.objectIdentifier = some ⟨.class, []⟩)
    (mem : registration ∈ registrationsOf declarations) (names : List String) :
    List.Sublist (contentOf options declarations names registration.identifier).bodies
      (registration.declaration.methods.map fun entry => some entry.2) := by
  have members : ((membersOf options declarations).value registration.identifier).bodies.Sublist
      (registration.declaration.methods.map fun entry => some entry.2) := by
    have start := Registration.methods_hierarchy options object (registrationsOf declarations)
      registration.identifier
    rw [membersOf, Registration.members, Traced.value_bind, Registration.compileMembers,
      value_reviseAll (nodup_declaredNames _) mem]
    exact NamedClass.bodies_compileMembers _ options start.1 _
  rw [NamedClass.bodies, contentOf, methods_layOutAll]
  exact members

/-- The methods of a declared class-like have bodies of its declaration, in their
order. -/
theorem Library.bodies_sublist {library before : Library} {diagnostics : List Diagnostic}
    {marks : ClassId → Nat → Bool}
    (compiled : Compiled options declarations names before diagnostics)
    (marked : Library.Marked marks before library)
    (mem : registration ∈ registrationsOf declarations) {id : ClassId}
    (isNamed : before.IsNamed id registration.identifier) :
    List.Sublist ((library.methodsOf id).map (·.body?))
      (registration.declaration.methods.map fun entry => some entry.2) := by
  obtain ⟨classLike, known, spells⟩ := compiled.realizes id _ isNamed
  have bodies : classLike.methods.map (·.body?)
      = (contentOf options declarations names registration.identifier).bodies :=
    Related.map_eq spells.methods fun _ _ _ spells => congrArg (·.body?) spells.bare
  rw [marked.map_methodsOf fun _ _ => rfl, methodsOf, known]
  dsimp only
  rw [bodies]
  exact bodies_contentOf compiled.coherent.object mem names

end Bodies

/-! ## The library of the prelude -/

/-- The library of the prelude alone is a part of every library, and was compiled
without a diagnostic. -/
theorem exists_extended_prelude {declarations : List Declaration} {options : Options} {budget : Nat}
    {library prelude : Library}
    (returned : (compile declarations options budget).result = .ok library)
    (returned' : (compile [] { maxSpecializationDepth := 0 } 0).result = .ok prelude)
    (silent : (compile [] { maxSpecializationDepth := 0 } 0).diagnostics = []) :
    ∃ renumbering, prelude.Extended renumbering library := by
  obtain ⟨names', after, compiled', marked'⟩ := exists_compiled returned
  -- the prelude alone does not come to any limit, and misuses nothing
  have same := @compile_eq_of_silent [] { maxSpecializationDepth := 0 } 0 options (Nat.zero_le _)
    silent
  rw [← same] at returned' silent
  obtain ⟨names, before, compiled, marked⟩ := exists_compiled returned'
  rw [silent, List.append_nil] at compiled
  have further := FurtherStages.of_append (List.append_nil Standard.prelude ▸ sound_prelude [])
    compiled.ordered compiled'.ordered
    (fun _ => compiled.covers) (fun _ => compiled'.covers) (compiled.familiar (by simp))
  obtain ⟨renumbering, corresponds, embeds, extended⟩ :=
    compiled.exists_extended compiled' further
  exact ⟨renumbering, extended.marked marked marked' fun _ _ => embeds.marks⟩

/-! ## Wrappers -/

namespace Standard.Wrapper

variable (wrapper : Wrapper)

/-- The signature of the static factory. -/
def factorySignature : String := "valueOf(" ++ wrapper.primitive.text ++ ")"

/-- The signature of the accessor. -/
def accessorSignature : String := wrapper.accessor ++ "()"

/-- A primitive type that has a wrapper class has a wrapper. -/
theorem exists_of_boxedIdentifier? {primitive : Primitive} {identifier : String}
    (boxed : primitive.boxedIdentifier? = some identifier) :
    ∃ wrapper ∈ all, wrapper.primitive = primitive ∧ wrapper.identifier = identifier := by
  cases primitive with
  | void | null => cases boxed
  | int | long | float | double | boolean | char =>
    cases boxed
    simp [all, integer, long, float, double, boolean, character]

theorem declaration_mem_prelude {wrapper : Wrapper} (mem : wrapper ∈ all) :
    wrapper.declaration ∈ prelude :=
  List.mem_cons_of_mem _ (List.mem_cons_of_mem _ (List.mem_map_of_mem mem))

end Standard.Wrapper

open Standard (Wrapper)

/-- The class is compiled as a wrapper: an object has one slot, which is the first
one, and the methods are the accessor and the factory. -/
structure ClassLike.IsWrapper (classLike : ClassLike) (wrapper : Wrapper) : Prop where
  identifier : classLike.identifier = wrapper.identifier
  specialization? : classLike.specialization? = none
  firstAttributeIndex : classLike.layout.firstAttributeIndex = 0
  attributeCount : classLike.attributeCount = 1
  methods : classLike.methods.map (·.signature)
    = [wrapper.accessorSignature, wrapper.factorySignature]

instance (classLike : ClassLike) (wrapper : Wrapper) : Decidable (classLike.IsWrapper wrapper) :=
  decidable_of_iff
    (classLike.identifier = wrapper.identifier ∧ classLike.specialization? = none
      ∧ classLike.layout.firstAttributeIndex = 0 ∧ classLike.attributeCount = 1
      ∧ classLike.methods.map (·.signature)
        = [wrapper.accessorSignature, wrapper.factorySignature])
    ⟨fun ⟨identifier, specialization?, firstAttributeIndex, attributeCount, methods⟩ =>
        ⟨identifier, specialization?, firstAttributeIndex, attributeCount, methods⟩,
      fun ⟨identifier, specialization?, firstAttributeIndex, attributeCount, methods⟩ =>
        ⟨identifier, specialization?, firstAttributeIndex, attributeCount, methods⟩⟩

/-- What is kept of a wrapper is a wrapper. -/
theorem ClassLike.IsWrapper.kept {classLike classLike' : ClassLike} {wrapper : Wrapper}
    {renumbering : Renumbering} (isWrapper : classLike.IsWrapper wrapper)
    (kept : classLike.KeptAs renumbering classLike') : classLike'.IsWrapper wrapper where
  identifier := by
    rw [kept.rest]
    exact isWrapper.identifier
  specialization? := by
    rw [kept.rest]
    exact Option.map_eq_none_iff.2 isWrapper.specialization?
  firstAttributeIndex := by
    rw [kept.rest]
    exact isWrapper.firstAttributeIndex
  attributeCount := by
    have same : classLike'.instanceAttributes
        = classLike.instanceAttributes.map renumbering.field := by
      rw [kept.rest]
      exact List.filter_map
    have layout : classLike'.layout = classLike.layout := by
      rw [kept.rest]
      rfl
    rw [ClassLike.attributeCount, same, List.length_map, layout]
    exact isWrapper.attributeCount
  methods := by
    rw [← isWrapper.methods]
    refine Related.map_eq kept.methods.flip fun _ _ _ kept => ?_
    rw [kept.rest]
    rfl

/-- The wrappers are declared in the library. -/
def Library.HasWrappers (library : Library) : Prop :=
  ∀ wrapper ∈ Wrapper.all, ∃ id ∈ library.types,
    ∃ classLike ∈ library.classLike? id, classLike.IsWrapper wrapper

instance (library : Library) : Decidable library.HasWrappers :=
  inferInstanceAs (Decidable (∀ wrapper ∈ Wrapper.all, _))

theorem exists_hasWrappers : ∃ prelude,
    (compile [] { maxSpecializationDepth := 0 } 0).result = .ok prelude
      ∧ (compile [] { maxSpecializationDepth := 0 } 0).diagnostics = [] ∧ prelude.HasWrappers := by
  obtain ⟨prelude, returned, silent, hasWrappers⟩ := exists_of_check
    (compile [] { maxSpecializationDepth := 0 } 0) (fun library => decide library.HasWrappers)
    (by decide +kernel)
  exact ⟨prelude, returned, silent, of_decide_eq_true hasWrappers⟩

/-- A wrapper is registered from its own declaration, whatever comes after the
prelude. -/
theorem exists_registration_wrapper (declarations : List Declaration) {wrapper : Wrapper}
    (mem : wrapper ∈ Wrapper.all) :
    ∃ registration ∈ registrationsOf (Standard.prelude ++ declarations),
      registration.identifier = wrapper.identifier
        ∧ registration.declaration = wrapper.declaration := by
  have registered : ∀ wrapper ∈ Wrapper.all, ∃ registration ∈ registrationsOf Standard.prelude,
      registration.identifier = wrapper.identifier
        ∧ registration.declaration.signature = wrapper.declaration.signature := by
    decide +kernel
  have signatures : (Standard.prelude.map (·.signature)).Nodup := by decide +kernel
  obtain ⟨registration, mem', identifier, signature⟩ := registered wrapper mem
  obtain ⟨declaration, inPrelude, _, rfl⟩ := Registration.exists_of_mem_readAll mem'
  obtain ⟨more, split⟩ := Registration.exists_readAll_append [] Standard.prelude declarations
  refine ⟨registration, ?_, identifier, List.inj_on_of_nodup_map signatures inPrelude
    (Wrapper.declaration_mem_prelude mem) signature⟩
  rw [registrationsOf, split]
  exact List.mem_append_left _ mem'

/-! ## Every library -/

/-- The class-like is the class of the wrapper, with the methods that its
declaration gives it. -/
structure Library.IsWrapperClass (library : Library) (wrapper : Wrapper) (id : ClassId)
    (classLike : ClassLike) : Prop where
  distinct : wrapper.accessorSignature ≠ wrapper.factorySignature
  byIdentifier? : library.byIdentifier? wrapper.identifier = some id
  classLike? : library.classLike? id = some classLike
  isWrapper : classLike.IsWrapper wrapper
  bodies : classLike.methods.map (·.body?)
    = [some (.native Wrapper.unbox), some (.native wrapper.valueOf)]

/-- In every library that a compilation returns, the wrappers are those of the
prelude. -/
theorem exists_isWrapperClass {declarations : List Declaration} {options : Options} {budget : Nat}
    {library : Library} (returned : (compile declarations options budget).result = .ok library)
    {wrapper : Wrapper} (mem : wrapper ∈ Wrapper.all) :
    ∃ id classLike, library.IsWrapperClass wrapper id classLike := by
  obtain ⟨prelude, returned', silent, hasWrappers⟩ := exists_hasWrappers
  obtain ⟨renumbering, extended⟩ := exists_extended_prelude returned returned' silent
  obtain ⟨id, listed, classLike, known, isWrapper⟩ := hasWrappers wrapper mem
  obtain ⟨classLike', known', kept⟩ := extended.classLike? known
  rw [extended.declared listed] at known'
  have isWrapper := isWrapper.kept kept
  obtain ⟨names, before, compiled, marked⟩ := exists_compiled returned
  have isNamed : library.IsNamed id wrapper.identifier :=
    ⟨classLike', ⟨known', isWrapper.specialization?⟩, isWrapper.identifier⟩
  obtain ⟨registration, mem', identifier, declaration⟩ :=
    exists_registration_wrapper declarations mem
  have distinct : ∀ wrapper ∈ Wrapper.all,
      wrapper.accessorSignature ≠ wrapper.factorySignature := by
    decide +kernel
  refine ⟨id, classLike', distinct wrapper mem, ?_, known', isWrapper, ?_⟩
  · exact (marked.revises.coherent compiled.coherent).byIdentifier?_eq_some_iff.2 isNamed
  · have written : wrapper.declaration.methods.map (fun entry => some entry.2)
        = [some (.native Wrapper.unbox), some (.native wrapper.valueOf)] := rfl
    have bodies := Library.bodies_sublist compiled marked mem'
      (marked.revises.toGrows.isNamed_iff.1 (identifier ▸ isNamed))
    have signatures := congrArg List.length isWrapper.methods
    rw [List.length_map] at signatures
    rw [Library.methodsOf, known', declaration, written] at bodies
    refine bodies.eq_of_length ?_
    rw [List.length_map, signatures]
    rfl

/-! ## Calls -/

namespace Standard.Wrapper

/-- The object that wraps a value. -/
def object (wrapper : Wrapper) (value : Value) : Object := ⟨wrapper.identifier, [value]⟩

variable {wrapper : Wrapper} (frame : Frame) {heap : Heap} {value : Value}

theorem run_unbox {objectId : ObjectId} (first : frame.firstAttributeIndex = 0)
    (receiver : frame.receiver = .object objectId)
    (known : heap.get? objectId = some (wrapper.object value)) :
    (unbox frame).run.run heap = (.ok value, heap) :=
  Frame.run_getAttribute receiver known (by rw [first]; rfl)

theorem run_valueOf (argument : frame.arguments.head? = some value) :
    (wrapper.valueOf frame).run.run heap
      = if value.primitive? = some wrapper.primitive then
          (.ok (.object heap.nextId), heap.insert (wrapper.object value))
        else (.error (.argumentType 0 (value.render heap)), heap) := by
  have first : frame.argument 0 = pure value := by
    rw [Frame.argument, ← List.head?_eq_getElem?, argument]
  rw [valueOf, first, pure_bind]
  split <;> rfl

theorem run_valueOf_of_none (none : frame.arguments = []) :
    (wrapper.valueOf frame).run.run heap = (.error (.argumentCount 1 0), heap) := by
  have first : frame.argument 0 = throw (.argumentCount 1 0) := by
    rw [Frame.argument, none]
    rfl
  rw [valueOf, first]
  rfl

end Standard.Wrapper

/-- In the heap, the object of the identity wraps the value: it is one of the class
of the wrapper, and the accessor answers the value and leaves the heap as it is. -/
structure Library.Wraps (library : Library) (wrapper : Wrapper) (id : ClassId) (heap : Heap)
    (objectId : ObjectId) (value : Value) : Prop where
  isOf : ∃ object classLike, heap.get? objectId = some object
    ∧ library.classLike? id = some classLike ∧ object.classIdentifier = classLike.identifier
    ∧ object.attributes.length = classLike.attributeCount
  unboxes {frame : Frame} : frame.receiver = .object objectId →
    (library.invoke id wrapper.accessorSignature frame).run.run heap = (.ok (.returned value), heap)

/-- What calling the methods of a wrapper comes to. -/
structure Library.BoxesValues (library : Library) (wrapper : Wrapper) (id : ClassId) : Prop where
  byIdentifier? : library.byIdentifier? wrapper.identifier = some id
  /-- A value of the primitive type is wrapped in a new object. -/
  boxes {frame : Frame} {value : Value} (heap : Heap) : frame.arguments.head? = some value →
    value.primitive? = some wrapper.primitive → ∃ objectId after,
      (library.invoke id wrapper.factorySignature frame).run.run heap
          = (.ok (.returned (.object objectId)), after)
        ∧ library.Wraps wrapper id after objectId value
        ∧ heap.get? objectId = none
        ∧ ∀ other, other ≠ objectId → after.get? other = heap.get? other
  mistyped {frame : Frame} {value : Value} (heap : Heap) : frame.arguments.head? = some value →
    value.primitive? ≠ some wrapper.primitive →
      (library.invoke id wrapper.factorySignature frame).run.run heap
        = (.error (.thrown (.argumentType 0 (value.render heap))), heap)
  missing {frame : Frame} (heap : Heap) : frame.arguments = [] →
    (library.invoke id wrapper.factorySignature frame).run.run heap
      = (.error (.thrown (.argumentCount 1 0)), heap)

namespace Library.IsWrapperClass

variable {library : Library} {wrapper : Wrapper} {id : ClassId} {classLike : ClassLike}
  (isClass : library.IsWrapperClass wrapper id classLike)

include isClass

/-- Calling an own method of the class runs its body on a frame whose slots begin
with the first one of the object. -/
theorem run_invoke {signature : String} {method : Method} {native : NativeFunction}
    (own : classLike.methods.find? (·.signature == signature) = some method)
    (body : method.body? = some (.native native)) (frame : Frame) (heap : Heap) :
    (library.invoke id signature frame).run.run heap
      = match (native { frame with firstAttributeIndex := 0 }).run.run heap with
        | (.ok value, after) => (.ok (.returned value), after)
        | (.error cause, after) => (.error (.thrown cause), after) := by
  have known := isClass.classLike?
  have visible : library.effectiveMethod? id signature = some (id, method) := by
    refine effectiveMethod?_own ?_
    rw [methodsOf, known]
    exact own
  rw [invoke_eq frame known visible body, frameFor, known]
  dsimp only
  rw [isClass.isWrapper.firstAttributeIndex]
  exact run_runNative native _ heap

/-- The accessor and the factory are told apart by their signatures. -/
theorem exists_methods : ∃ accessor factory,
    classLike.methods.find? (·.signature == wrapper.accessorSignature) = some accessor
      ∧ accessor.body? = some (.native Wrapper.unbox)
      ∧ classLike.methods.find? (·.signature == wrapper.factorySignature) = some factory
      ∧ factory.body? = some (.native wrapper.valueOf) := by
  obtain ⟨accessor, factory, methods⟩ := List.length_eq_two.1
    ((List.length_map _).symm.trans (congrArg List.length isClass.isWrapper.methods))
  have signatures := isClass.isWrapper.methods
  have bodies := isClass.bodies
  rw [methods] at signatures bodies ⊢
  simp only [List.map_cons, List.map_nil, List.cons.injEq, and_true] at signatures bodies
  have different := isClass.distinct
  refine ⟨accessor, factory, ?_, bodies.1, ?_, bodies.2⟩
  · rw [List.find?_cons_of_pos (by simp [signatures.1])]
  · rw [List.find?_cons_of_neg (by simp [signatures.1, different]),
      List.find?_cons_of_pos (by simp [signatures.2])]

theorem boxesValues : library.BoxesValues wrapper id := by
  obtain ⟨accessor, factory, own, unboxes, own', boxes⟩ := isClass.exists_methods
  have accessed := isClass.run_invoke own unboxes
  have made := isClass.run_invoke own' boxes
  refine ⟨isClass.byIdentifier?, fun {frame value} heap argument isOf => ?_,
    fun {frame value} heap argument mistyped => ?_, fun {frame} heap none => ?_⟩
  · have there : (heap.insert (wrapper.object value)).get? heap.nextId
        = some (wrapper.object value) := by
      rw [Arena.get?_insert, if_pos rfl]
    refine ⟨heap.nextId, heap.insert (wrapper.object value), ?_,
      ⟨?_, fun {frame} receiver => ?_⟩, ?_, fun other away => ?_⟩
    · rw [made, Wrapper.run_valueOf { frame with firstAttributeIndex := 0 } argument, if_pos isOf]
    · exact ⟨_, classLike, there, isClass.classLike?, isClass.isWrapper.identifier.symm,
        isClass.isWrapper.attributeCount.symm⟩
    · rw [accessed, Wrapper.run_unbox { frame with firstAttributeIndex := 0 } rfl receiver there]
    · simp [Arena.get?, Arena.nextId, Arena.size]
    · rw [Arena.get?_insert, if_neg away]
  · rw [made, Wrapper.run_valueOf { frame with firstAttributeIndex := 0 } argument,
      if_neg mistyped]
  · rw [made, Wrapper.run_valueOf_of_none { frame with firstAttributeIndex := 0 } none]

end Library.IsWrapperClass

/-- In every library that a compilation returns, each primitive type that has a
wrapper class has the wrapper of the prelude: its values are wrapped in objects of
the class, from which they are read back. -/
theorem boxesValues_of_compile {declarations : List Declaration} {options : Options} {budget : Nat}
    {library : Library} (returned : (compile declarations options budget).result = .ok library)
    {primitive : Primitive} {identifier : String}
    (boxed : primitive.boxedIdentifier? = some identifier) :
    ∃ wrapper ∈ Wrapper.all, wrapper.primitive = primitive ∧ wrapper.identifier = identifier
      ∧ ∃ id, library.BoxesValues wrapper id := by
  obtain ⟨wrapper, mem, isOf, named⟩ := Wrapper.exists_of_boxedIdentifier? boxed
  obtain ⟨id, classLike, isClass⟩ := exists_isWrapperClass returned mem
  exact ⟨wrapper, mem, isOf, named, id, isClass.boxesValues⟩

/-! ## A sample -/

/-- A class of the name of a wrapper, and a class below the wrapper with methods
of the same signatures. -/
def Declaration.rivals : List Declaration :=
  [{ signature := "class Integer extends Long"
     attributes := ["long value"]
     methods := [("static Integer valueOf(int value)", .expression "null"),
       ("int intValue()", .expression "0")] },
   { signature := "class Count extends Integer"
     attributes := ["int step"]
     methods := [("int intValue()", .expression "1")] }]

/-- What the sample is compiled to: the class below is below the wrapper of the
prelude. -/
def Library.HasRivals (library : Library) : Prop :=
  library.types.length = 9 ∧ library.byIdentifier? "Integer" = some ⟨2⟩
    ∧ library.superclass? ⟨8⟩ = some ⟨2⟩

instance (library : Library) : Decidable library.HasRivals :=
  inferInstanceAs (Decidable (_ ∧ _ ∧ _))

theorem boxesValues_rivals : ∃ library, (compile Declaration.rivals {} 0).result = .ok library
    ∧ library.HasRivals ∧ Primitive.int.boxedIdentifier? = some "Integer"
    ∧ ∃ wrapper ∈ Wrapper.all, wrapper.primitive = .int ∧ wrapper.identifier = "Integer"
      ∧ ∃ id, library.BoxesValues wrapper id := by
  have passes : ((compile Declaration.rivals {} 0).result.toOption.any fun library =>
      decide library.HasRivals) = true := by
    decide +kernel
  obtain ⟨library, returned, hasRivals⟩ := exists_of_any passes
  exact ⟨library, returned, of_decide_eq_true hasRivals, rfl, boxesValues_of_compile returned rfl⟩

end ClassModel
