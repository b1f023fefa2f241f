import ClassModel.Proofs.Compiled

/-!
# ClassModel.Proofs.Canonical

The instantiations of a compiled library are canonical
(`isCanonical_of_compile`): a base and arguments have one instantiation, each
instantiation stands in one cache, under its key, and the cache is that of the
class-like whose generic parameters it mentions.
-/

namespace ClassModel

namespace Library

/-! ## Caches -/

/-- The generic parameter occurs in the type. -/
inductive Mentions (library : Library) (parameter : ParameterId) : Ty → Prop where
  | itself : Mentions library parameter (.parameter parameter)
  | argument {id : ClassId} {specialization : Specialization} {argument : Ty} :
    library.specialization? id = some specialization → argument ∈ specialization.arguments →
      Mentions library parameter argument → Mentions library parameter (.classLike id)
  | item {item : Ty} (dimension : Nat) :
    Mentions library parameter item → Mentions library parameter (.arrayOf item dimension)

/-- The generic parameter occurs in the arguments. -/
def MentionsIn (library : Library) (parameter : ParameterId) (specialization : Specialization) :
    Prop :=
  ∃ argument ∈ specialization.arguments, library.Mentions parameter argument

/-- An entry of the cache of a class-like, or of the cache of the library. -/
structure CacheEntry where
  owner? : Option ClassId
  key : String
  id : ClassId
  deriving DecidableEq

/-- The entries of all caches. -/
def cacheEntries (library : Library) : List CacheEntry :=
  (none :: library.classLikes.ids.map some).flatMap fun owner? =>
    (library.cacheOf owner?).map fun (key, id) => ⟨owner?, key, id⟩

/-- Where an instantiation belongs: in the cache of the library if it mentions
no generic parameter, and else in the cache of the declared class-like that
owns every generic parameter that it mentions. -/
def BelongsTo (library : Library) (specialization : Specialization) : Option ClassId → Prop
  | none => ∀ parameter, ¬ library.MentionsIn parameter specialization
  | some owner => (∃ classLike, library.IsDeclared owner classLike)
    ∧ (∃ parameter, library.MentionsIn parameter specialization)
    ∧ ∀ parameter, library.MentionsIn parameter specialization →
      ∃ found, library.parameter? parameter = some found ∧ found.owner = owner

/-- An instantiation is told by its base and its arguments, and stands once in
all caches, where it belongs and under its key. -/
structure IsCanonical (library : Library) : Prop where
  unique {id id' : ClassId} {specialization specialization' : Specialization} :
    library.specialization? id = some specialization →
      library.specialization? id' = some specialization' →
        specialization.base = specialization'.base →
          specialization.arguments = specialization'.arguments → id = id'
  cached {id : ClassId} {specialization : Specialization} :
    library.specialization? id = some specialization →
      ∃ entry, library.cacheEntries.filter (·.id = id) = [entry]
        ∧ library.BelongsTo specialization entry.owner?
  keyed {entry : CacheEntry} : entry ∈ library.cacheEntries →
    ∃ classLike, library.classLike? entry.id = some classLike
      ∧ classLike.specialization?.isSome
      ∧ entry.key = library.keyOf (.classLike entry.id)
      ∧ (entry.owner? = none → entry.key = classLike.signature)

/-! ## Mentioned parameters -/

@[simp] theorem mentions_array {library : Library} {parameter : ParameterId} (type : Ty) (n : Nat) :
    library.Mentions parameter (type.array n) = library.Mentions parameter type :=
  type.apply_array (fun _ mentions => mentions)
    (fun _ n => propext ⟨fun (.item _ mentions) => mentions, .item n⟩) (fun _ => rfl)
    (fun _ _ _ => rfl) n

/-- The arguments of an instantiation mention what it mentions. -/
theorem mentionsIn_iff {library : Library} {parameter : ParameterId} {id : ClassId}
    {specialization : Specialization}
    (found : library.specialization? id = some specialization) :
    library.MentionsIn parameter specialization ↔ library.Mentions parameter (.classLike id) := by
  constructor
  · rintro ⟨argument, mem, mentions⟩
    exact .argument found mem mentions
  · intro mentions
    cases mentions with
    | argument found' mem mentions =>
      cases found.symm.trans found'
      exact ⟨_, mem, mentions⟩

namespace Coherent

variable {library : Library} {scope : Scope} {options : Options}

/-- An argument of an instantiation has a tree. -/
theorem exists_denotes_argument (coherent : library.Coherent scope options) {id : ClassId}
    {specialization : Specialization} {argument : Ty}
    (found : library.specialization? id = some specialization)
    (mem : argument ∈ specialization.arguments) :
    ∃ tree, library.Denotes argument tree := by
  obtain ⟨classLike, known, specialized⟩ := specialization?_eq_some found
  obtain ⟨_, _, instantiates⟩ := coherent.instantiates known specialized
  obtain ⟨tree, _, denotes⟩ :=
    Related.exists_of_mem (denotesAll_iff.1 instantiates.denotes).flip mem
  exact ⟨tree, denotes⟩

/-- The generic parameters that occur in a type are those that its tree
tells. -/
theorem mentions_iff (coherent : library.Coherent scope options) {parameter : ParameterId}
    {type : Ty} {tree : TypeTree} (denotes : library.Denotes type tree) :
    library.Mentions parameter type ↔ ∃ entry ∈ tree.parameters,
      library.Denotes (.parameter parameter) (.parameter entry.1 entry.2 0) := by
  induction tree generalizing type with
  | primitive primitive n =>
    obtain rfl := denotes
    rw [TypeTree.parameters, mentions_array]
    refine ⟨fun mentions => ?_, by simp⟩
    cases mentions
  | declared name n =>
    obtain ⟨id, classLike, rfl, declared, rfl⟩ := denotes
    rw [TypeTree.parameters, mentions_array]
    refine ⟨fun mentions => ?_, by simp⟩
    cases mentions with
    | argument specialized => simp [specialization?, declared.1, declared.2] at specialized
  | applied name trees n ih =>
    obtain ⟨id, classLike, specialization, rfl, known, rfl, specialized, all⟩ := denotes
    have found : library.specialization? id = some specialization := by
      rw [specialization?, known, Option.bind_some, specialized]
    rw [denotesAll_iff] at all
    simp only [TypeTree.parameters, List.mem_flatMap, mentions_array]
    constructor
    · intro mentions
      cases mentions with
      | argument found' mem mentions =>
        cases found.symm.trans found'
        obtain ⟨tree, memTree, denotes⟩ := Related.exists_of_mem all.flip mem
        obtain ⟨entry, listed, refers⟩ := (ih tree memTree denotes).1 mentions
        exact ⟨entry, ⟨tree, memTree, listed⟩, refers⟩
    · rintro ⟨entry, ⟨tree, memTree, listed⟩, refers⟩
      obtain ⟨argument, mem, denotes⟩ := Related.exists_of_mem all memTree
      exact .argument found mem ((ih tree memTree denotes).2 ⟨entry, listed, refers⟩)
  | parameter owner name n =>
    obtain ⟨other, id, classLike, rfl, declared⟩ := denotes
    rw [TypeTree.parameters, mentions_array]
    simp only [List.mem_singleton, exists_eq_left]
    constructor
    · intro mentions
      cases mentions
      exact ⟨parameter, id, classLike, rfl, declared⟩
    · intro refers
      cases coherent.denotes_inj refers ⟨other, id, classLike, rfl, declared⟩
      exact .itself

/-- The owners of the generic parameters in a type are those that its tree
tells. -/
theorem exists_owner (coherent : library.Coherent scope options) {parameter : ParameterId}
    {type : Ty} {tree : TypeTree} (mentions : library.Mentions parameter type)
    (denotes : library.Denotes type tree) :
    ∃ owner ∈ tree.owners, library.OwnedBy parameter owner := by
  obtain ⟨⟨owner, name⟩, listed, _, id, classLike, same, declared, rfl, named⟩ :=
    (coherent.mentions_iff denotes).1 mentions
  cases ((Ty.eq_array_iff rfl rfl).1 same).1
  obtain ⟨mem, found, known, _⟩ := parameterNamed?_eq_some declared.1 named
  obtain ⟨found', known', rfl⟩ := coherent.owned declared mem
  cases known.symm.trans known'
  rw [TypeTree.owners_eq_map]
  exact ⟨_, List.mem_map_of_mem listed, found, classLike, known, declared, rfl⟩

/-- A generic parameter of each owner in the tree occurs in the type. -/
theorem exists_mentions {type : Ty} {tree : TypeTree} (denotes : library.Denotes type tree)
    {owner : String} (mem : owner ∈ tree.owners) :
    ∃ parameter, library.Mentions parameter type := by
  induction tree generalizing type with
  | primitive primitive n => simp [TypeTree.owners] at mem
  | declared name n => simp [TypeTree.owners] at mem
  | applied name trees n ih =>
    obtain ⟨id, classLike, specialization, rfl, known, rfl, specialized, all⟩ := denotes
    rw [TypeTree.owners, List.mem_flatMap] at mem
    obtain ⟨tree, memTree, mem⟩ := mem
    obtain ⟨argument, memArgument, denotes⟩ :=
      Related.exists_of_mem (denotesAll_iff.1 all) memTree
    obtain ⟨parameter, mentions⟩ := ih tree memTree denotes mem
    refine ⟨parameter, ?_⟩
    rw [mentions_array]
    exact .argument (by simp [specialization?, known, specialized]) memArgument mentions
  | parameter owner' name n =>
    obtain ⟨parameter, _, _, rfl, _⟩ := denotes
    refine ⟨parameter, ?_⟩
    rw [mentions_array]
    exact .itself

/-- An instantiation belongs where it is hosted. -/
theorem belongsTo (coherent : library.Coherent scope options) {id : ClassId}
    {specialization : Specialization} {tree : TypeTree} {owner? : Option ClassId}
    (found : library.specialization? id = some specialization)
    (isInstance : library.IsInstance id tree) (hosts : library.Hosts owner? tree) :
    library.BelongsTo specialization owner? := by
  obtain ⟨context, _, _, wf⟩ := coherent.isType isInstance
  have denotes := isInstance.1
  unfold Hosts at hosts
  cases listed : tree.owners with
  | nil =>
    rw [listed] at hosts
    cases hosts
    intro parameter mentions
    obtain ⟨owner, mem, _⟩ := coherent.exists_owner ((mentionsIn_iff found).1 mentions) denotes
    simp [listed] at mem
  | cons first owners =>
    rw [listed] at hosts
    cases hosts with
    | some isNamed =>
      have first_mem : first ∈ tree.owners := by simp [listed]
      refine ⟨isNamed.imp fun _ declared => declared.1, ?_, fun parameter mentions => ?_⟩
      · obtain ⟨parameter, mentions⟩ := exists_mentions denotes first_mem
        exact ⟨parameter, (mentionsIn_iff found).2 mentions⟩
      · obtain ⟨owner, mem, known, classLike, found', declared, same⟩ :=
          coherent.exists_owner ((mentionsIn_iff found).1 mentions) denotes
        -- all generic parameters of a well-formed type have the same owner
        have same' := (wf.eq_of_mem_owners mem).trans (wf.eq_of_mem_owners first_mem).symm
        exact ⟨known, found', coherent.isNamed_inj ⟨classLike, declared, same.trans same'⟩ isNamed⟩

/-! ## Entries -/

theorem mem_cacheEntries (coherent : library.Coherent scope options) {entry : CacheEntry} :
    entry ∈ library.cacheEntries ↔ ∃ tree, library.IsInstance entry.id tree
      ∧ library.Hosts entry.owner? tree ∧ entry.key = tree.key := by
  rw [← coherent.mem_cacheOf, cacheEntries, List.mem_flatMap]
  constructor
  · rintro ⟨owner?, _, mem⟩
    obtain ⟨⟨key, id⟩, listed, rfl⟩ := List.mem_map.1 mem
    exact listed
  · intro mem
    refine ⟨entry.owner?, ?_, List.mem_map.2 ⟨_, mem, rfl⟩⟩
    cases place : entry.owner? with
    | none => simp
    | some owner =>
      -- a class-like that is not there keeps nothing
      have known : (library.classLike? owner).isSome := by
        rw [place, cacheOf] at mem
        cases found : library.classLike? owner with
        | none => simp [found] at mem
        | some classLike => rfl
      rw [classLike?, Arena.isSome_get?, ← Arena.mem_ids] at known
      simp [known]

theorem nodup_cacheEntries (coherent : library.Coherent scope options) :
    library.cacheEntries.Nodup := by
  rw [cacheEntries, List.nodup_flatMap]
  constructor
  · intro owner? _
    refine coherent.cacheOf_nodup.map fun entry entry' same => ?_
    simp only [CacheEntry.mk.injEq, true_and] at same
    exact Prod.ext same.1 same.2
  · have nodup : (none :: library.classLikes.ids.map some).Nodup :=
      List.nodup_cons.2 ⟨by simp, (Arena.nodup_ids _).map fun _ _ => Option.some.inj⟩
    refine nodup.imp fun {owner? owner?'} away => ?_
    intro entry mem mem'
    obtain ⟨_, _, rfl⟩ := List.mem_map.1 mem
    obtain ⟨_, _, same⟩ := List.mem_map.1 mem'
    exact away (congrArg CacheEntry.owner? same).symm

/-- The entry of an instantiation is the only one that refers to it. -/
theorem filter_cacheEntries (coherent : library.Coherent scope options) {id : ClassId}
    {tree : TypeTree} {owner? : Option ClassId} (isInstance : library.IsInstance id tree)
    (hosts : library.Hosts owner? tree) :
    library.cacheEntries.filter (·.id = id) = [⟨owner?, tree.key, id⟩] := by
  refine List.perm_singleton.1 ((List.perm_ext_iff_of_nodup
    (coherent.nodup_cacheEntries.filter _) (List.nodup_singleton _)).2 fun entry => ?_)
  rw [List.mem_filter, coherent.mem_cacheEntries, List.mem_singleton, decide_eq_true_iff]
  constructor
  · rintro ⟨⟨tree', isInstance', hosts', key⟩, rfl⟩
    obtain rfl := isInstance.1.unique coherent.toDeclares isInstance'.1
    obtain rfl := coherent.hosts_unique hosts hosts'
    rw [← key]
  · rintro rfl
    exact ⟨⟨tree, isInstance, hosts, rfl⟩, rfl⟩

theorem isCanonical (coherent : library.Coherent scope options) : library.IsCanonical where
  unique {id id' specialization specialization'} found found' base arguments := by
    obtain ⟨classLike, known, specialized⟩ := specialization?_eq_some found
    obtain ⟨classLike', known', specialized'⟩ := specialization?_eq_some found'
    obtain ⟨baseClass, trees, instantiates⟩ := coherent.instantiates known specialized
    obtain ⟨baseClass', trees', instantiates'⟩ := coherent.instantiates known' specialized'
    have isInstance := instantiates.isInstance known specialized
    have isInstance' := instantiates'.isInstance known' specialized'
    have all := instantiates.denotes
    have all' := instantiates'.denotes
    rw [arguments, denotesAll_iff] at all
    rw [denotesAll_iff] at all'
    obtain rfl : trees = trees' := Related.unique all all' fun _ _ _ _ first first' =>
      first.unique coherent.toDeclares first'
    have declared := instantiates.declared
    rw [base] at declared
    cases declared.1.symm.trans instantiates'.declared.1
    exact coherent.canonical isInstance isInstance'
  cached {id specialization} found := by
    obtain ⟨classLike, known, specialized⟩ := specialization?_eq_some found
    obtain ⟨tree, isInstance⟩ := coherent.exists_isInstance known specialized
    obtain ⟨owner?, hosts⟩ : ∃ owner?, library.Hosts owner? tree := by
      obtain ⟨context, shape, known, wf⟩ := coherent.isType isInstance
      unfold Hosts
      cases listed : tree.owners with
      | nil => exact ⟨none, .none⟩
      | cons owner owners =>
        obtain rfl := wf.eq_of_mem_owners (by simp [listed] : owner ∈ tree.owners)
        obtain ⟨id, classLike, declared, same, _⟩ := coherent.scope_iff.1 known
        exact ⟨some id, .some ⟨classLike, declared, same⟩⟩
    exact ⟨_, coherent.filter_cacheEntries isInstance hosts,
      coherent.belongsTo found isInstance hosts⟩
  keyed {entry} mem := by
    obtain ⟨tree, isInstance, hosts, key⟩ := coherent.mem_cacheEntries.1 mem
    obtain ⟨classLike, specialization, known, specialized⟩ := isInstance.exists_specialization
    refine ⟨classLike, known, by simp [specialized],
      key.trans (coherent.keyOf_eq isInstance.1).symm, fun closed => ?_⟩
    have noOwner : tree.owners = [] := by
      unfold Hosts at hosts
      rw [closed] at hosts
      cases listed : tree.owners with
      | nil => rfl
      | cons owner owners => simp [listed] at hosts
    have signature := coherent.signatureOf_eq isInstance.1
    rw [key, TypeTree.key_eq_signature noOwner, ← signature]
    simp [signatureOf, known]

end Coherent

end Library

/-- The instantiations of every library that a compilation returns are
canonical. -/
theorem isCanonical_of_compile {declarations : List Declaration} {options : Options} {budget : Nat}
    {library : Library} (returned : (compile declarations options budget).result = .ok library) :
    library.IsCanonical := by
  obtain ⟨names, before, compiled, marked⟩ := exists_compiled returned
  exact (marked.revises.coherent compiled.coherent).isCanonical

theorem isCanonical_sample : ∃ library,
    (compile Declaration.sample {} 6).result = .ok library ∧ library.IsCanonical := by
  obtain ⟨library, returned, _⟩ := exists_isSample
  exact ⟨library, returned, isCanonical_of_compile returned⟩

end ClassModel
