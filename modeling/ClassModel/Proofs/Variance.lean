import ClassModel.Proofs.Compiled

/-!
# ClassModel.Proofs.Variance

Primitive types in overriding. A primitive type of the overridden method has to
be met exactly, but where that method has none the types only have to convert:
there a primitive result is boxed, and a primitive parameter takes what is
unboxed (`Library.varies_of_implements`). So primitive types do take part in
overriding (`exists_not_agrees`).
-/

namespace ClassModel

/-- The types are the same primitive type of values, or none of them is one. -/
def Ty.Agrees (first second : Ty) : Prop :=
  first.isValuePrimitive = true ∧ first = second
    ∨ first.isValuePrimitive = false ∧ second.isValuePrimitive = false

theorem Ty.exists_of_isValuePrimitive {type : Ty} (isValue : type.isValuePrimitive = true) :
    ∃ primitive, type = .primitive primitive ∧ primitive ≠ .null := by
  unfold isValuePrimitive primitive? at isValue
  split at isValue
  · next primitive found =>
    split at found
    · cases found
      exact ⟨primitive, rfl, by simpa using isValue⟩
    · cases found
    · cases found
    · cases found
  · cases isValue

namespace Library

variable {library : Library}

/-! ## Conversions of primitive types -/

/-- Values of the primitive type are boxed: the target is the wrapper class or
above it. -/
def Boxes (library : Library) (primitive : Primitive) (target : Ty) : Prop :=
  ∃ boxed id, primitive.boxedIdentifier?.bind library.byIdentifier? = some boxed
    ∧ target = .classLike id ∧ library.isSubtype boxed id = true

/-- Values of the type are converted to the primitive type: they are primitive
and widened, or objects of a wrapper class and unboxed. -/
inductive Unboxes (library : Library) (target : Primitive) : Ty → Prop where
  | primitive {source : Primitive} : source.widensTo target = true →
      Unboxes library target (.primitive source)
  | wrapper {id : ClassId} {base : ClassLike} {source : Primitive} :
      library.classLike? (library.baseOf id) = some base →
        Primitive.ofBoxedIdentifier? base.identifier = some source →
          source.widensTo target = true → Unboxes library target (.classLike id)
  | bound {id : ParameterId} {parameter : GenericParameter} {bound : Ty} :
      library.parameter? id = some parameter → bound ∈ parameter.upperBounds →
        Unboxes library target bound → Unboxes library target (.parameter id)

theorem casts_primitive (boundCasts : Ty → Ty → Bool) (source target : Primitive) :
    library.casts boundCasts (.primitive source) (.primitive target)
      = source.widensTo target := by
  cases source <;> cases target <;> rfl

theorem casts_boxed {boundCasts : Ty → Ty → Bool} {source : Primitive} {target : ClassId}
    (isValue : source ≠ .null)
    (casts : library.casts boundCasts (.primitive source) (.classLike target) = true) :
    ∃ boxed, source.boxedIdentifier?.bind library.byIdentifier? = some boxed
      ∧ library.isSubtype boxed target = true := by
  cases source with
  | null => exact absurd rfl isValue
  | _ =>
    simp only [Library.casts, plainCasts, reduceCtorEq, beq_iff_eq, Bool.or_eq_true, false_or]
      at casts
    split at casts
    · next boxed named => exact ⟨boxed, named, casts⟩
    · cases casts

theorem casts_unboxed {boundCasts : Ty → Ty → Bool} {source : ClassId} {target : Primitive}
    (casts : library.casts boundCasts (.classLike source) (.primitive target) = true) :
    ∃ base unboxed, library.classLike? (library.baseOf source) = some base
      ∧ Primitive.ofBoxedIdentifier? base.identifier = some unboxed
      ∧ unboxed.widensTo target = true := by
  simp only [Library.casts, plainCasts, reduceCtorEq, beq_iff_eq, Bool.or_eq_true, false_or]
    at casts
  split at casts
  · next unboxed named =>
    obtain ⟨base, found, wraps⟩ := Option.bind_eq_some_iff.1 named
    exact ⟨base, unboxed, found, wraps, casts⟩
  · cases casts

theorem casts_bound {boundCasts : Ty → Ty → Bool} {source : ParameterId}
    {target : Primitive}
    (casts : library.casts boundCasts (.parameter source) (.primitive target) = true) :
    ∃ parameter bound, library.parameter? source = some parameter
      ∧ bound ∈ parameter.upperBounds ∧ boundCasts bound (.primitive target) = true := by
  simp only [Library.casts, plainCasts, reduceCtorEq, beq_iff_eq, Bool.or_eq_true, false_or]
    at casts
  split at casts
  · next parameter found =>
    obtain ⟨bound, mem, casts⟩ := List.any_eq_true.1 casts
    exact ⟨parameter, bound, found, mem, casts⟩
  · cases casts

/-- A value of a primitive type that converts to a type which is none is boxed. -/
theorem boxes_of_casts {boundCasts : Ty → Ty → Bool} {primitive : Primitive} {target : Ty}
    (isValue : primitive ≠ .null) (notValue : target.isValuePrimitive = false)
    (casts : library.casts boundCasts (.primitive primitive) target = true) :
    library.Boxes primitive target := by
  cases target with
  | primitive target =>
    -- The only primitive target that is left is the type of `null`.
    obtain rfl : target = .null := by simpa [Ty.isValuePrimitive, Ty.primitive?] using notValue
    rw [casts_primitive] at casts
    cases primitive <;> first | exact absurd rfl isValue | cases casts
  | classLike target =>
    obtain ⟨boxed, named, below⟩ := casts_boxed isValue casts
    exact ⟨boxed, target, named, rfl, below⟩
  | parameter | arrayOf => cases primitive <;> first | exact absurd rfl isValue | cases casts

theorem boxes_of_castsWithin {bounds : Nat} {primitive : Primitive} {target : Ty}
    (isValue : primitive ≠ .null) (notValue : target.isValuePrimitive = false)
    (casts : library.castsWithin bounds (.primitive primitive) target = true) :
    library.Boxes primitive target := by
  cases bounds <;> exact boxes_of_casts isValue notValue casts

/-- What converts to a primitive type of values is widened or unboxed, given that
the bounds of generic parameters are. -/
theorem unboxes_of_casts {boundCasts : Ty → Ty → Bool} {target : Primitive} {source : Ty}
    (unboxes : ∀ bound, boundCasts bound (.primitive target) = true → library.Unboxes target bound)
    (casts : library.casts boundCasts source (.primitive target) = true) :
    library.Unboxes target source := by
  cases source with
  | primitive source => exact .primitive (casts_primitive .. ▸ casts)
  | classLike id =>
    obtain ⟨base, source, found, wraps, widens⟩ := casts_unboxed casts
    exact .wrapper found wraps widens
  | parameter id =>
    obtain ⟨parameter, bound, found, mem, casts⟩ := casts_bound casts
    exact .bound found mem (unboxes bound casts)
  | arrayOf => cases casts

/-- What converts to a primitive type through a bounded number of bounds is
widened or unboxed. -/
theorem unboxes_of_castsWithin {target : Primitive} {bounds : Nat} {source : Ty}
    (casts : library.castsWithin bounds source (.primitive target) = true) :
    library.Unboxes target source := by
  induction bounds generalizing source with
  | zero => exact unboxes_of_casts (fun _ none => by cases none) casts
  | succ bounds ih => exact unboxes_of_casts (fun _ => ih) casts

/-! ## Overriding -/

/-- How the result of a method may differ from that of a method it implements. -/
def ResultVaries (library : Library) (returned expected : Ty) : Prop :=
  returned.Agrees expected
    ∨ ∃ primitive, returned = .primitive primitive ∧ library.Boxes primitive expected

/-- How a parameter of a method may differ from that of a method it implements. -/
def FormalVaries (library : Library) (formal overridden : Ty) : Prop :=
  formal.Agrees overridden
    ∨ ∃ primitive, formal = .primitive primitive ∧ overridden.isValuePrimitive = false
        ∧ library.Unboxes primitive overridden

/-- Wherever one of the two methods has a primitive type of values, the other one
has the same; or only the other one has none, and its result takes what is boxed
or its parameter gives what is unboxed. -/
structure Varies (library : Library) (method overridden : Method) : Prop where
  result : method.returnsNothing = true ∧ overridden.returnsNothing = true
    ∨ ∃ returned expected, method.returnType? = some returned
        ∧ overridden.returnType? = some expected ∧ library.ResultVaries returned expected
  formals : List.Forall₂ (fun formal other => library.FormalVaries formal.type other.type)
    method.formals overridden.formals

theorem resultVaries_of_fits {returned expected : Ty}
    (fits : library.fits returned expected = true) : library.ResultVaries returned expected := by
  unfold Library.fits at fits
  split at fits
  · next isValue =>
    obtain rfl := beq_iff_eq.1 fits
    exact .inl (.inl ⟨isValue, rfl⟩)
  · next notValue =>
    rw [Bool.not_eq_true] at notValue
    cases isValue : returned.isValuePrimitive with
    | false => exact .inl (.inr ⟨isValue, notValue⟩)
    | true =>
      obtain ⟨primitive, rfl, value⟩ := Ty.exists_of_isValuePrimitive isValue
      exact .inr ⟨primitive, rfl, boxes_of_castsWithin value notValue fits⟩

theorem formalVaries_of_formalFits {formal overridden : Formal}
    (fits : library.formalFits formal overridden = true) :
    library.FormalVaries formal.type overridden.type := by
  unfold formalFits at fits
  split at fits
  · next isValue =>
    have same := beq_iff_eq.1 fits
    exact .inl (.inl ⟨same ▸ isValue, same.symm⟩)
  · next notValue =>
    rw [Bool.not_eq_true] at notValue
    cases isValue : formal.type.isValuePrimitive with
    | false => exact .inl (.inr ⟨isValue, notValue⟩)
    | true =>
      obtain ⟨primitive, same, -⟩ := Ty.exists_of_isValuePrimitive isValue
      rw [canCast, same] at fits
      exact .inr ⟨primitive, same, notValue, unboxes_of_castsWithin fits⟩

/-- A method that implements another one keeps its primitive types, and has
others only where they are boxed or unboxed. -/
theorem varies_of_implements {method overridden : Method}
    (implements : library.implements method overridden = true) :
    library.Varies method overridden := by
  simp only [Library.implements, Bool.and_eq_true, beq_iff_eq, List.all_eq_true] at implements
  obtain ⟨⟨⟨-, result⟩, length⟩, formals⟩ := implements
  refine ⟨?_, List.forall₂_iff_zip.2 ⟨length, fun mem => ?_⟩⟩
  · unfold resultFits at result
    split at result
    · next nothing => exact .inl ⟨nothing, result⟩
    · split at result
      · next returned expected own own' =>
        exact .inr ⟨returned, expected, own, own', resultVaries_of_fits result⟩
      · cases result
  · exact formalVaries_of_formalFits (formals _ mem)

end Library

theorem varies_crates : ∃ library method candidate,
    (compile Declaration.crates {} 1).result = .ok library ∧ method ∈ library.methodsOf ⟨10⟩
      ∧ candidate ∈ library.methodsOf ⟨11⟩ ∧ library.implements method candidate = true
      ∧ library.Varies method candidate := by
  obtain ⟨library, returned, hasCrates⟩ := exists_hasCrates
  obtain ⟨method, own, candidate, own', -, -, implements, -⟩ := hasCrates.boxed
  exact ⟨library, method, candidate, returned, own, own', implements,
    Library.varies_of_implements implements⟩

/-- A method that returns a primitive type implements one that returns objects. -/
theorem exists_not_agrees : ∃ library method candidate result result',
    (compile Declaration.crates {} 1).result = .ok library ∧ method ∈ library.methodsOf ⟨10⟩
      ∧ candidate ∈ library.methodsOf ⟨11⟩ ∧ library.implements method candidate = true
      ∧ method.returnType? = some result ∧ candidate.returnType? = some result'
      ∧ ¬ result.Agrees result' := by
  obtain ⟨library, returned, hasCrates⟩ := exists_hasCrates
  obtain ⟨method, own, candidate, own', -, -, implements, result, result'⟩ := hasCrates.boxed
  refine ⟨library, method, candidate, _, _, returned, own, own', implements, result, result', ?_⟩
  rintro (⟨-, same⟩ | ⟨notValue, -⟩)
  · cases same
  · cases notValue

end ClassModel
