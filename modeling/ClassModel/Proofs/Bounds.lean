import ClassModel.Proofs.Invariant
import ClassModel.Proofs.Variance
import Mathlib.Data.Set.Card
import Mathlib.Logic.Relation

/-!
# ClassModel.Proofs.Bounds

Conversions through the bounds of generic parameters. If no generic parameter
is a bound of itself, directly or through others, then deciding whether a type
converts ends by itself (`Library.wellFounded_asks`), and its recursion is what
`Library.canCast` computes (`Library.canCast_eq`). A generic parameter then
converts to the root class, to the parameters that its bounds lead to, and to
what a class-like among the bounds of these converts to
(`castsThroughBounds_of_compile`).
-/

namespace ClassModel

/-! ## By names -/

namespace NamedClass

/-- The bounds of all generic parameters are of a kind that is accepted. -/
def IsBounded (named : NamedClass) : Prop := ∀ parameter ∈ named.parameters, parameter.IsBounded

theorem keeps_isBounded (scope : Scope) : scope.Keeps fun _ => IsBounded where
  parameters bounded position change keeps := by
    intro parameter mem
    obtain ⟨place, found⟩ := List.mem_iff_getElem?.1 mem
    rw [List.getElem?_modify, Option.map_eq_map, Option.map_eq_some_iff] at found
    obtain ⟨earlier, found, rfl⟩ := found
    have earlier := bounded earlier (List.mem_of_getElem? found)
    split
    · exact keeps _ earlier
    · exact earlier
  superclass? bounded _ _ _ := bounded
  interfaces bounded _ _ := bounded
  attributes bounded _ _ := bounded
  methods bounded _ _ := bounded
  constants bounded _ := bounded
  layout bounded _ := bounded

end NamedClass

theorem isBounded_contentOf {options : Options} {declarations : List Declaration}
    (object : scopeOf declarations Standard.objectIdentifier = some ⟨.class, []⟩)
    (names : List String) (name : String) :
    (contentOf options declarations names name).IsBounded := by
  have keeps := NamedClass.keeps_isBounded (scopeOf declarations)
  refine keeps.contentOf object (keeps.resolveHeaders object (fun name => ?_) _) names name
  unfold Registration.contentOf
  split <;> simp [NamedClass.IsBounded, NamedParameter.IsBounded, Registration.named]

namespace Library

variable {library before after : Library}

/-! ## Bounds -/

/-- The upper bounds of generic parameters are class-likes and generic
parameters. -/
def HasBounds (library : Library) : Prop :=
  ∀ {p : ParameterId} {parameter : GenericParameter} {bound : Ty},
    library.parameter? p = some parameter → bound ∈ parameter.upperBounds →
      (∃ id, bound = .classLike id) ∨ ∃ q, bound = .parameter q

/-- The first generic parameter has the second one as an upper bound. -/
def Extends (library : Library) (p q : ParameterId) : Prop :=
  ∃ parameter, library.parameter? p = some parameter ∧ .parameter q ∈ parameter.upperBounds

/-- No generic parameter is a bound of itself, directly or through others. -/
def HasAcyclicBounds (library : Library) : Prop :=
  ∀ p, ¬ Relation.TransGen library.Extends p p

theorem Denotes.exists_of_isBound {type : Ty} {tree : TypeTree}
    (denotes : library.Denotes type tree) (isBound : tree.isBound = true) :
    (∃ id, type = .classLike id) ∨ ∃ q, type = .parameter q := by
  unfold TypeTree.isBound at isBound
  split at isBound
  · obtain ⟨id, _, rfl, _⟩ := denotes
    exact .inl ⟨id, rfl⟩
  · obtain ⟨id, _, _, rfl, _⟩ := denotes
    exact .inl ⟨id, rfl⟩
  · obtain ⟨q, _, _, rfl, _⟩ := denotes
    exact .inr ⟨q, rfl⟩
  · cases isBound

theorem hasBounds {options : Options} {declarations : List Declaration} {names : List String}
    {diagnostics : List Diagnostic}
    (compiled : Compiled options declarations names library diagnostics) : library.HasBounds := by
  intro p parameter bound known mem
  obtain ⟨classLike, declared, own⟩ := compiled.coherent.owner_mem known
  obtain ⟨_, known', spells⟩ := compiled.realizes _ _ ⟨classLike, declared, rfl⟩
  cases declared.1.symm.trans known'
  obtain ⟨named, own', found, known', _, spells⟩ := Related.exists_of_mem spells.parameters.flip own
  cases known.symm.trans known'
  obtain ⟨tree, mem', means⟩ := Related.exists_of_mem spells.upperBounds.flip mem
  refine means.denotes.exists_of_isBound ?_
  exact isBounded_contentOf compiled.coherent.object names _ named own' tree
    (List.mem_append_left _ mem')

theorem Marked.hasBounds {marks : ClassId → Nat → Bool} (marked : Marked marks before after)
    (bounds : before.HasBounds) : after.HasBounds := by
  intro p parameter bound known
  rw [parameter?, marked.parameters] at known
  exact bounds known

/-! ## Termination -/

/-- Whether the second pair of types converts is decided by asking for the
first pair. -/
inductive Asks (library : Library) : Ty × Ty → Ty × Ty → Prop where
  | bound {p : ParameterId} {parameter : GenericParameter} {bound : Ty} (target : Ty) :
    library.parameter? p = some parameter → bound ∈ parameter.upperBounds →
      Asks library (bound, target) (.parameter p, target)
  | items {asked : Ty × Ty} {source target : Ty} (dimension : Nat) :
    Asks library asked (source, target) →
      Asks library asked (.arrayOf source dimension, .arrayOf target dimension)

theorem any_congr {f g : Ty → Bool} {types : List Ty} (same : ∀ type ∈ types, f type = g type) :
    types.any f = types.any g := by
  rw [Bool.eq_iff_iff, List.any_eq_true, List.any_eq_true]
  exact exists_congr fun type => and_congr_right fun mem => by rw [same type mem]

theorem plainCasts_congr {boundCasts boundCasts' : Ty → Ty → Bool} {source target : Ty}
    (same : ∀ bound target', library.Asks (bound, target') (source, target) →
      boundCasts bound target' = boundCasts' bound target') :
    library.plainCasts boundCasts source target
      = library.plainCasts boundCasts' source target := by
  cases source with
  | primitive source => cases source <;> cases target <;> rfl
  | classLike source => cases target <;> rfl
  | arrayOf source m => cases target <;> rfl
  | parameter p =>
    cases known : library.parameter? p with
    | none => simp only [plainCasts, known]
    | some parameter =>
      have same (bound : Ty) (mem : bound ∈ parameter.upperBounds) :=
        same bound target (.bound _ known mem)
      simp only [plainCasts, known, any_congr same]

/-- The answer depends on the pairs that are asked for only. -/
theorem casts_congr {boundCasts boundCasts' : Ty → Ty → Bool} {source target : Ty}
    (same : ∀ bound target', library.Asks (bound, target') (source, target) →
      boundCasts bound target' = boundCasts' bound target') :
    library.casts boundCasts source target = library.casts boundCasts' source target := by
  induction source generalizing target with
  | primitive | classLike | parameter =>
    rw [casts_eq_plainCasts _ _ (.inl rfl), casts_eq_plainCasts _ _ (.inl rfl),
      plainCasts_congr same]
  | arrayOf source m ih =>
    cases target with
    | primitive | classLike | parameter =>
      rw [casts_eq_plainCasts _ _ (.inr rfl), casts_eq_plainCasts _ _ (.inr rfl),
        plainCasts_congr same]
    | arrayOf target n =>
      rw [casts_arrayOf, casts_arrayOf]
      by_cases dimension : m = n
      · subst dimension
        rw [ih fun bound target' asks => same bound target' (.items m asks)]
      · simp [beq_eq_false_iff_ne.2 dimension]

/-- How many generic parameters the bounds of the type, or of what it has arrays
of, lead to, itself included. -/
noncomputable def height (library : Library) (type : Ty) : Nat :=
  {q | (library.parameter? q).isSome
    ∧ ∃ p, type.innermost = .parameter p ∧ Relation.ReflTransGen library.Extends p q}.ncard

theorem finite_parameters (library : Library) : {q | (library.parameter? q).isSome}.Finite := by
  refine library.parameters.ids.finite_toSet.subset fun q known => ?_
  exact (library.parameters.mem_ids q).2 (library.parameters.isSome_get? q ▸ known)

theorem height_le (library : Library) (type : Ty) :
    library.height type ≤ library.parameters.size := by
  have subset : {q | (library.parameter? q).isSome
      ∧ ∃ p, type.innermost = .parameter p ∧ Relation.ReflTransGen library.Extends p q}
        ⊆ (library.parameters.ids.toFinset : Set ParameterId) := by
    rintro q ⟨known, _⟩
    rw [List.coe_toFinset]
    exact (library.parameters.mem_ids q).2 (library.parameters.isSome_get? q ▸ known)
  calc library.height type
      ≤ (library.parameters.ids.toFinset : Set ParameterId).ncard :=
        Set.ncard_le_ncard subset (Finset.finite_toSet _)
    _ ≤ library.parameters.ids.length := by
        rw [Set.ncard_coe_finset]
        exact List.toFinset_card_le _
    _ = library.parameters.size := by simp [Arena.ids]

section Acyclic

variable (bounds : library.HasBounds) (acyclic : library.HasAcyclicBounds)

include bounds acyclic

/-- The bounds of a generic parameter lead to fewer ones: not to itself. -/
theorem height_lt {p : ParameterId} {parameter : GenericParameter} {bound : Ty}
    (known : library.parameter? p = some parameter) (mem : bound ∈ parameter.upperBounds) :
    library.height bound < library.height (.parameter p) := by
  have up {p' : ParameterId} (isParameter : bound.innermost = .parameter p') :
      library.Extends p p' := by
    rcases bounds known mem with ⟨id, rfl⟩ | ⟨q, rfl⟩
    · cases isParameter
    · cases isParameter
      exact ⟨parameter, known, mem⟩
  refine Set.ncard_lt_ncard ⟨?_, fun subset => ?_⟩
    (library.finite_parameters.subset fun q reached => reached.1)
  · rintro q ⟨found, p', isParameter, path⟩
    exact ⟨found, p, rfl, path.head (up isParameter)⟩
  · obtain ⟨_, p', isParameter, path⟩ :=
      subset ⟨Option.isSome_iff_exists.2 ⟨parameter, known⟩, p, rfl, .refl⟩
    exact acyclic p (.head' (up isParameter) path)

theorem Asks.height_lt {asked asking : Ty × Ty} (asks : library.Asks asked asking) :
    library.height asked.1 < library.height asking.1 := by
  induction asks with
  | bound target known mem => exact Library.height_lt bounds acyclic known mem
  | items dimension _ ih => exact ih

/-- One pair of types leads to another one a finite number of times only. -/
theorem wellFounded_asks : WellFounded library.Asks :=
  Subrelation.wf (fun asks => asks.height_lt bounds acyclic)
    (measure fun pair : Ty × Ty => library.height pair.1).wf

/-- More bounds than the type leads to make no difference. -/
theorem castsWithin_succ {source : Ty} {n : Nat} (enough : library.height source ≤ n)
    (target : Ty) :
    library.castsWithin (n + 1) source target = library.castsWithin n source target := by
  induction n generalizing source target with
  | zero =>
    refine casts_congr fun bound target' asks => ?_
    have : library.height bound < library.height source := asks.height_lt bounds acyclic
    exact absurd enough (by omega)
  | succ n ih =>
    refine casts_congr fun bound target' asks => ih ?_ target'
    have : library.height bound < library.height source := asks.height_lt bounds acyclic
    omega

/-- The number of generic parameters is no restriction. -/
theorem canCast_eq (source target : Ty) :
    library.canCast source target = library.casts library.canCast source target :=
  (castsWithin_succ bounds acyclic (library.height_le _) target).symm

end Acyclic

/-! ## Conversions of generic parameters -/

theorem casts_parameter_iff {boundCasts : Ty → Ty → Bool} {p : ParameterId} {target : Ty} :
    library.casts boundCasts (.parameter p) target = true
      ↔ target = .parameter p ∨ (∃ object, target = .classLike object ∧ library.isObject object)
        ∨ ∃ parameter bound, library.parameter? p = some parameter
          ∧ bound ∈ parameter.upperBounds ∧ boundCasts bound target = true := by
  rw [casts_eq_plainCasts _ _ (.inl rfl)]
  cases known : library.parameter? p <;> cases target <;>
    simp [plainCasts, known, @eq_comm _ p]

/-- What is no generic parameter converts to none, unless it is `null`. -/
theorem casts_to_parameter {boundCasts : Ty → Ty → Bool} {source : Ty} {q : ParameterId}
    (casts : library.casts boundCasts source (.parameter q) = true) :
    source = .primitive .null ∨ ∃ p, source = .parameter p := by
  cases source with
  | primitive source => cases source <;> first | exact .inl rfl | cases casts
  | classLike source => cases casts
  | parameter p => exact .inr ⟨p, rfl⟩
  | arrayOf source m => cases casts

/-- How conversions go through the bounds of generic parameters. -/
structure CastsThroughBounds (library : Library) : Prop where
  /-- Deciding whether a type converts asks for other pairs of types, and does so
  a finite number of times. -/
  wellFounded : WellFounded library.Asks
  congr {boundCasts boundCasts' : Ty → Ty → Bool} {source target : Ty} :
    (∀ bound target', library.Asks (bound, target') (source, target) →
      boundCasts bound target' = boundCasts' bound target') →
        library.casts boundCasts source target = library.casts boundCasts' source target
  canCast_eq (source target : Ty) :
    library.canCast source target = library.casts library.canCast source target
  parameter_iff (p : ParameterId) (target : Ty) : library.canCast (.parameter p) target = true
    ↔ (∃ object, target = .classLike object ∧ library.isObject object)
      ∨ (∃ q, target = .parameter q ∧ Relation.ReflTransGen library.Extends p q)
      ∨ ∃ q parameter id, Relation.ReflTransGen library.Extends p q
          ∧ library.parameter? q = some parameter ∧ .classLike id ∈ parameter.upperBounds
          ∧ library.canCast (.classLike id) target = true
  to_parameter_iff (source : Ty) (q : ParameterId) :
    library.canCast source (.parameter q) = true ↔ source = .primitive .null
      ∨ ∃ p, source = .parameter p ∧ Relation.ReflTransGen library.Extends p q

section Acyclic

variable (bounds : library.HasBounds) (acyclic : library.HasAcyclicBounds)

include bounds acyclic

/-- What a bound converts to, the generic parameter converts to. -/
theorem canCast_of_reaches {p q : ParameterId} {target : Ty}
    (path : Relation.ReflTransGen library.Extends p q)
    (casts : library.canCast (.parameter q) target = true) :
    library.canCast (.parameter p) target = true := by
  induction path using Relation.ReflTransGen.head_induction_on with
  | refl => exact casts
  | head up _ ih =>
    obtain ⟨parameter, known, mem⟩ := up
    rw [canCast_eq bounds acyclic]
    exact casts_parameter_iff.2 (.inr (.inr ⟨parameter, _, known, mem, ih⟩))

/-- A generic parameter converts to nothing that its bounds do not lead to. -/
theorem reaches_of_canCast {p : ParameterId} {target : Ty}
    (casts : library.canCast (.parameter p) target = true) :
    (∃ object, target = .classLike object ∧ library.isObject object)
      ∨ (∃ q, target = .parameter q ∧ Relation.ReflTransGen library.Extends p q)
      ∨ ∃ q parameter id, Relation.ReflTransGen library.Extends p q
          ∧ library.parameter? q = some parameter ∧ .classLike id ∈ parameter.upperBounds
          ∧ library.canCast (.classLike id) target = true := by
  induction height : library.height (.parameter p) using Nat.strongRecOn generalizing p with
  | ind n ih =>
    rw [canCast_eq bounds acyclic] at casts
    rcases casts_parameter_iff.1 casts with same | isObject | ⟨parameter, bound, known, mem, casts⟩
    · exact .inr (.inl ⟨p, same, .refl⟩)
    · exact .inl isObject
    · rcases bounds known mem with ⟨id, rfl⟩ | ⟨q, rfl⟩
      · exact .inr (.inr ⟨p, parameter, id, .refl, known, mem, casts⟩)
      · have up : library.Extends p q := ⟨parameter, known, mem⟩
        refine (ih _ (height ▸ height_lt bounds acyclic known mem) casts rfl).imp_right ?_
        rintro (⟨q', same, path⟩ | ⟨q', parameter', id, path, rest⟩)
        · exact .inl ⟨q', same, path.head up⟩
        · exact .inr ⟨q', parameter', id, path.head up, rest⟩

theorem canCast_parameter_iff (p : ParameterId) (target : Ty) :
    library.canCast (.parameter p) target = true
      ↔ (∃ object, target = .classLike object ∧ library.isObject object)
        ∨ (∃ q, target = .parameter q ∧ Relation.ReflTransGen library.Extends p q)
        ∨ ∃ q parameter id, Relation.ReflTransGen library.Extends p q
            ∧ library.parameter? q = some parameter ∧ .classLike id ∈ parameter.upperBounds
            ∧ library.canCast (.classLike id) target = true := by
  refine ⟨reaches_of_canCast bounds acyclic, ?_⟩
  rintro (isObject | ⟨q, rfl, path⟩ | ⟨q, parameter, id, path, known, mem, casts⟩)
  · rw [canCast_eq bounds acyclic]
    exact casts_parameter_iff.2 (.inr (.inl isObject))
  · refine canCast_of_reaches bounds acyclic path ?_
    rw [canCast_eq bounds acyclic]
    exact casts_parameter_iff.2 (.inl rfl)
  · refine canCast_of_reaches bounds acyclic path ?_
    rw [canCast_eq bounds acyclic]
    exact casts_parameter_iff.2 (.inr (.inr ⟨parameter, _, known, mem, casts⟩))

theorem canCast_to_parameter_iff (source : Ty) (q : ParameterId) :
    library.canCast source (.parameter q) = true ↔ source = .primitive .null
      ∨ ∃ p, source = .parameter p ∧ Relation.ReflTransGen library.Extends p q := by
  constructor
  · intro casts
    rw [canCast_eq bounds acyclic] at casts
    rcases casts_to_parameter casts with null | ⟨p, rfl⟩
    · exact .inl null
    · rw [← canCast_eq bounds acyclic, canCast_parameter_iff bounds acyclic] at casts
      rcases casts with ⟨_, same, _⟩ | ⟨q, same, path⟩ | ⟨_, _, id, _, _, _, casts⟩
      · cases same
      · cases same
        exact .inr ⟨p, rfl, path⟩
      · -- A class-like converts to no generic parameter.
        rw [canCast_eq bounds acyclic] at casts
        rcases casts_to_parameter casts with same | ⟨_, same⟩ <;> cases same
  · rintro (rfl | ⟨p, rfl, path⟩)
    · rw [canCast_eq bounds acyclic]
      rfl
    · exact (canCast_parameter_iff bounds acyclic p _).2 (.inr (.inl ⟨q, rfl, path⟩))

theorem castsThroughBounds : library.CastsThroughBounds where
  wellFounded := wellFounded_asks bounds acyclic
  congr := casts_congr
  canCast_eq := canCast_eq bounds acyclic
  parameter_iff := canCast_parameter_iff bounds acyclic
  to_parameter_iff := canCast_to_parameter_iff bounds acyclic

end Acyclic

end Library

/-- In a library that a compilation returns, in which no generic parameter bounds
itself, the conversions of a generic parameter are those of its bounds. -/
theorem castsThroughBounds_of_compile {declarations : List Declaration} {options : Options}
    {budget : Nat} {library : Library}
    (returned : (compile declarations options budget).result = .ok library)
    (acyclic : library.HasAcyclicBounds) : library.CastsThroughBounds := by
  obtain ⟨names, before, compiled, marked⟩ := exists_compiled returned
  exact Library.castsThroughBounds (marked.hasBounds (Library.hasBounds compiled)) acyclic

/-! ## A sample -/

/-- A generic parameter that is bounded by another one, which a wrapper class
bounds. -/
def Declaration.bounded : List Declaration :=
  [{ signature := "class Box<A extends B, B extends Integer>" }]

/-- The generic parameters among the bounds of the generic parameter were declared
after it. -/
def Library.boundsRise (library : Library) (p : ParameterId) : Bool :=
  (library.parameter? p).all fun parameter => parameter.upperBounds.all fun bound =>
    match bound with
    | .parameter q => p.index < q.index
    | _ => true

theorem Library.hasAcyclicBounds_of_boundsRise {library : Library}
    (rise : ∀ p ∈ library.parameters.ids, library.boundsRise p = true) :
    library.HasAcyclicBounds := by
  have up {p q : ParameterId} (above : library.Extends p q) : p.index < q.index := by
    obtain ⟨parameter, known, mem⟩ := above
    have isKnown : p ∈ library.parameters.ids := by
      rw [Arena.mem_ids, ← Arena.isSome_get?]
      exact Option.isSome_iff_exists.2 ⟨parameter, known⟩
    have rises := rise p isKnown
    rw [boundsRise, known, Option.all_some, List.all_eq_true] at rises
    exact of_decide_eq_true (rises _ mem)
  have above {p q : ParameterId} (path : Relation.TransGen library.Extends p q) :
      p.index < q.index := by
    induction path with
    | single above => exact up above
    | tail _ above ih => exact Nat.lt_trans ih (up above)
  exact fun p path => Nat.lt_irrefl _ (above path)

theorem castsThroughBounds_bounded : ∃ library,
    (compile Declaration.bounded {} 0).result = .ok library ∧ library.HasAcyclicBounds
      ∧ library.CastsThroughBounds ∧ library.canCast (.parameter ⟨0⟩) (.primitive .int) = true
      ∧ library.canCast (.parameter ⟨1⟩) (.parameter ⟨0⟩) = false := by
  obtain ⟨library, returned, _, check⟩ := exists_of_check (compile Declaration.bounded {} 0)
    (fun library => decide ((∀ p ∈ library.parameters.ids, library.boundsRise p = true)
      ∧ library.canCast (.parameter ⟨0⟩) (.primitive .int) = true
      ∧ library.canCast (.parameter ⟨1⟩) (.parameter ⟨0⟩) = false)) (by decide +kernel)
  obtain ⟨rise, unboxed, apart⟩ := of_decide_eq_true check
  have acyclic := Library.hasAcyclicBounds_of_boundsRise rise
  exact ⟨library, returned, acyclic, castsThroughBounds_of_compile returned acyclic, unboxed, apart⟩

end ClassModel
