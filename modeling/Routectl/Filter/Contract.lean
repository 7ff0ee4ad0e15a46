import Routectl.Filter.Chained
import Routectl.Filter.FeatureFilter

/-! The contract of the capability filter over a whole chain, and the one way a chain
breaks it: a target that strips the very capability it was granted a re-probe of. -/
namespace Routectl.Filter
open Routectl.Core Routectl.Registry Library

/-- A chain as it is dispatched: no target strips anything yet. -/
structure DispatchChain where
  slated : List Slated
  unstripped : ∀ entry ∈ slated, entry.target.stripCapabilities = []

def inBucket (bucket : Bucket) (all : List Ruling) : List Ruling :=
  all.filter fun ruling => ruling.2.bucket = some bucket

/-- The target with the strip keys of its ruling attached. -/
def delivered (ruling : Ruling) : DispatchTarget :=
  ruling.1.target.stripping ruling.2.stripKeys

def reordered (all : List Ruling) : List DispatchTarget :=
  (inBucket .kept all).map delivered ++ (inBucket .prior all).map delivered ++
    (inBucket .learned all).map fun ruling => ruling.1.target

section Loop
variable {router : Router} {features : List String}

private theorem sortTarget_eq (buckets : Buckets) (slated : Slated) :
    let consulted :=
      unsupportedFeatureForTarget router slated.target buckets.registry slated.now features []
    sortTarget router features buckets slated =
      { registry := consulted.registry
        supported := buckets.supported ++ (inBucket .kept [(slated, consulted)]).map delivered
        priorTail := buckets.priorTail ++ (inBucket .prior [(slated, consulted)]).map delivered
        learnedTail := buckets.learnedTail ++
          (inBucket .learned [(slated, consulted)]).map fun ruling => ruling.1.target
        admissions := buckets.admissions ++ consulted.admissions } := by
  intro consulted
  unfold sortTarget
  dsimp only
  rw [unsupportedFeatureForTarget_append]
  cases spoken : (unsupportedFeatureForTarget router slated.target buckets.registry slated.now
    features []).verdict with
  | none => simp [inBucket, Consulted.bucket, consulted, spoken, delivered]
  | some verdict =>
    obtain ⟨feature, source⟩ := verdict
    cases source <;> simp [inBucket, Consulted.bucket, consulted, spoken, delivered]

private theorem inBucket_cons (bucket : Bucket) (ruling : Ruling) (later : List Ruling) :
    inBucket bucket (ruling :: later) = inBucket bucket [ruling] ++ inBucket bucket later := by
  unfold inBucket
  rw [List.filter_cons, List.filter_cons]
  split <;> rfl

private theorem sortTargets_from (buckets : Buckets) (chain : List Slated) :
    chain.foldl (sortTarget router features) buckets =
      let all := rulings router features buckets.registry chain
      { registry := registryAfter router features buckets.registry chain
        supported := buckets.supported ++ (inBucket .kept all).map delivered
        priorTail := buckets.priorTail ++ (inBucket .prior all).map delivered
        learnedTail := buckets.learnedTail ++
          (inBucket .learned all).map fun ruling => ruling.1.target
        admissions := buckets.admissions ++ all.flatMap fun ruling => ruling.2.admissions } := by
  induction chain generalizing buckets with
  | nil => simp [rulings, registryAfter, inBucket]
  | cons slated later ih =>
    rw [List.foldl_cons, ih, sortTarget_eq]
    simp only [rulings, registryAfter, inBucket_cons _ _ (rulings router features _ later),
      List.map_append, List.append_assoc, List.flatMap_cons]

theorem sortTargets_eq (registry : LearnedCapabilityRegistry) (chain : List Slated)
    (admissions : List ProbeAdmission) :
    sortTargets router features registry chain admissions =
      let all := rulings router features registry chain
      { registry := registryAfter router features registry chain
        supported := (inBucket .kept all).map delivered
        priorTail := (inBucket .prior all).map delivered
        learnedTail := (inBucket .learned all).map fun ruling => ruling.1.target
        admissions := admissions ++ all.flatMap fun ruling => ruling.2.admissions } := by
  unfold sortTargets
  rw [sortTargets_from]
  simp

/-- A ruling without a bucket is one an override dropped. -/
private theorem reordered_eq_nil_iff {registry : LearnedCapabilityRegistry} {chain : List Slated} :
    reordered (rulings router features registry chain) = [] ↔
      ∀ slated ∈ chain, hardDropped router features slated.target = true := by
  have dropped : reordered (rulings router features registry chain) = [] ↔
      ∀ ruling ∈ rulings router features registry chain, ruling.2.bucket = none := by
    simp only [reordered, inBucket, List.append_eq_nil_iff, List.map_eq_nil_iff,
      List.filter_eq_nil_iff, decide_eq_true_eq, ← forall_and]
    apply forall_congr'
    intro ruling
    cases bucket : ruling.2.bucket with
    | none => simp
    | some chosen => cases chosen <;> simp
  rw [dropped]
  constructor
  · intro none slated member
    obtain ⟨earlier, later, rfl⟩ := List.append_of_mem member
    obtain ⟨consulted, start, ruled, consult⟩ :=
      @exists_ruling router features _ registry _ _ _
        (rfl : earlier ++ slated :: later = earlier ++ slated :: later)
    exact consult.dropped.mp (none _ ruled)
  · intro all ruling member
    obtain ⟨earlier, later, start, rfl, consult⟩ := consultOf_ruling member
    exact consult.dropped.mpr (all ruling.1 (by simp))

end Loop

/-- What the filter promises of a chain, a feature list and a registry. -/
structure FilterContract (router : Router) (features : List String)
    (registry : LearnedCapabilityRegistry) (chain : DispatchChain) (aliasName : String)
    (admissions : List ProbeAdmission) : Prop where
  passes : features = [] ∨ chain.slated = [] →
    filterChainByFeatures router features registry chain.slated aliasName admissions =
      { registry, admissions, outcome := .ok (chain.slated.map Slated.target) }
  refuses :
    (∃ refusal, (filterChainByFeatures router features registry chain.slated aliasName
        admissions).outcome = .error refusal) ↔
      features ≠ [] ∧ chain.slated ≠ [] ∧
        ∀ slated ∈ chain.slated, hardDropped router features slated.target = true
  refusal : ∀ refusal, (filterChainByFeatures router features registry chain.slated aliasName
      admissions).outcome = .error refusal →
    refusal.provider = aliasName ∧
      (filterChainByFeatures router features registry chain.slated aliasName admissions).registry =
        registry ∧
      (filterChainByFeatures router features registry chain.slated aliasName
        admissions).admissions = admissions
  ruled : (rulings router features registry chain.slated).map Prod.fst = chain.slated
  survives : ∀ ruling ∈ rulings router features registry chain.slated,
    ruling.2.bucket = none ↔ hardDropped router features ruling.1.target = true
  sorted : features ≠ [] → ∀ targets,
    (filterChainByFeatures router features registry chain.slated aliasName admissions).outcome =
        .ok targets →
      targets = reordered (rulings router features registry chain.slated)
  appended :
    (filterChainByFeatures router features registry chain.slated aliasName
        admissions).admissions =
      admissions ++ (rulings router features registry chain.slated).flatMap fun ruling =>
        ruling.2.admissions
  distinct : (((rulings router features registry chain.slated).flatMap fun ruling =>
    ruling.2.admissions).map ProbeAdmission.key).Nodup
  claimed : ∀ key, key ∈ ((rulings router features registry chain.slated).flatMap fun ruling =>
      ruling.2.admissions).map ProbeAdmission.key ↔
    Claimed (registry.entries.lookup key)
      ((filterChainByFeatures router features registry chain.slated aliasName
        admissions).registry.entries.lookup key)
  granted : ∀ ruling ∈ rulings router features registry chain.slated,
    ∀ admission ∈ ruling.2.admissions,
      hardDropped router features ruling.1.target = false ∧
        admission.stateKey = ruling.1.target.stateKey ∧
        ruling.1.target.providerKind = some admission.providerKind ∧
        ∀ feature, router.overrideForcesSupported ruling.1.target feature admission.providerKind =
            true →
          admission.feature ≠ normalizeCapabilityKey feature admission.providerKind
  unstripped : ∀ ruling ∈ inBucket .learned (rulings router features registry chain.slated),
    ruling.1.target.stripCapabilities = []
  stripped : ∀ ruling ∈ inBucket .kept (rulings router features registry chain.slated),
    ∀ key ∈ (delivered ruling).stripCapabilities, ∃ feature ∈ features, ∃ providerKind entry,
      ruling.1.target.providerKind = some providerKind ∧
        normalizeCapabilityKey feature providerKind = key ∧
        registry.entries.lookup (makeKey ruling.1.target.stateKey feature providerKind) =
          some entry ∧
        actingPhase entry = some .f1
  spares : ∀ ruling ∈ inBucket .kept (rulings router features registry chain.slated),
    ∀ key ∈ (delivered ruling).stripCapabilities, ∀ admission ∈ ruling.2.admissions,
      admission.feature ≠ key
  windowed : ∀ estimate corrected targets,
    (filterChainByFeatures router features registry chain.slated aliasName admissions).outcome =
        .ok targets →
      (filterChainByWindow router estimate corrected targets).Sublist targets ∧
        (targets ≠ [] → filterChainByWindow router estimate corrected targets ≠ [])

/-- A target that stays where it is reads one slot twice for the requested features: the
first read claims the re-probe, and the second strips what the probe is to test. -/
def StripsItsProbe (router : Router) (features : List String)
    (registry : LearnedCapabilityRegistry) (earlier : List Slated) (slated : Slated) : Prop :=
  ∃ providerKind, Consults router features slated.target providerKind ∧
    ¬RoutedAway router features registry (slotsAfter router features registry earlier) slated
      providerKind ∧
    (∀ feature ∈ features, ¬PriorFlagged router registry
      (slotsAfter router features registry earlier) slated providerKind feature) ∧
    ∃ before feature, ReadAt features before feature ∧
      reads router registry slated.target providerKind feature = true ∧
      router.stripsInPlace slated.target feature = true ∧
      holds (slotsAfter router features registry earlier)
        (makeKey slated.target.stateKey feature providerKind) = some .f1 ∧
      Due slated.now (slotsAfter router features registry earlier)
        (makeKey slated.target.stateKey feature providerKind) ∧
      makeKey slated.target.stateKey feature providerKind ∈
        (readsOf router registry slated.target providerKind slated.now before).map SlotRead.key

section Contract
variable {router : Router} {features : List String} {registry : LearnedCapabilityRegistry}
  {chain : DispatchChain} {aliasName : String} {admissions : List ProbeAdmission}

private theorem consult_idle {slated : Slated}
    (idle : features = [] ∨ hardDropped router features slated.target = true) :
    (unsupportedFeatureForTarget router slated.target registry slated.now features []).registry =
        registry ∧
      (unsupportedFeatureForTarget router slated.target registry slated.now features
        []).admissions = [] := by
  unfold unsupportedFeatureForTarget
  cases found : features.findSome? fun feature =>
    (router.routeAwayOverride slated.target feature).map fun source => (feature, source) with
  | some verdict => exact ⟨rfl, rfl⟩
  | none =>
    rcases idle with rfl | dropped
    · dsimp only
      split
      · exact ⟨rfl, rfl⟩
      · exact ⟨rfl, rfl⟩
    · simp [hardDropped_of_missed found] at dropped

private theorem rulings_idle {slated : List Slated}
    (idle : ∀ entry ∈ slated, features = [] ∨ hardDropped router features entry.target = true) :
    (rulings router features registry slated).flatMap (fun ruling => ruling.2.admissions) = [] ∧
      registryAfter router features registry slated = registry := by
  induction slated with
  | nil => exact ⟨rfl, rfl⟩
  | cons entry later ih =>
    obtain ⟨kept, none⟩ := @consult_idle router features registry _ (idle entry (by simp))
    obtain ⟨rest, same⟩ := ih fun other member => idle other (List.mem_cons_of_mem entry member)
    rw [rulings, registryAfter, List.flatMap_cons, none, kept]
    exact ⟨rest, same⟩

private theorem filterChainByFeatures_early (early : features = [] ∨ chain.slated = []) :
    filterChainByFeatures router features registry chain.slated aliasName admissions =
      { registry, admissions, outcome := .ok (chain.slated.map Slated.target) } := by
  unfold filterChainByFeatures
  rw [if_pos (by simpa [List.isEmpty_iff] using early)]

private theorem filterChainByFeatures_late (late : ¬(features = [] ∨ chain.slated = [])) :
    filterChainByFeatures router features registry chain.slated aliasName admissions =
      { registry := registryAfter router features registry chain.slated
        admissions := admissions ++ (rulings router features registry chain.slated).flatMap
          fun ruling => ruling.2.admissions
        outcome :=
          if reordered (rulings router features registry chain.slated) = [] then
            .error
              { provider := aliasName,
                detail := "no provider in chain supports features: " ++
                  ", ".intercalate features }
          else .ok (reordered (rulings router features registry chain.slated)) } := by
  unfold filterChainByFeatures
  rw [if_neg (by simpa [List.isEmpty_iff] using late), sortTargets_eq]
  dsimp only
  congr 1
  by_cases empty : reordered (rulings router features registry chain.slated) = []
  · rw [if_pos empty, if_pos]
    simpa [reordered, and_assoc] using empty
  · rw [if_neg empty, if_neg]
    · rfl
    · simpa [reordered, and_assoc] using empty

/-- Whatever the outcome, the consults of the chain are all that happened. -/
private theorem filterChainByFeatures_effects :
    (filterChainByFeatures router features registry chain.slated aliasName admissions).registry =
        registryAfter router features registry chain.slated ∧
      (filterChainByFeatures router features registry chain.slated aliasName
          admissions).admissions =
        admissions ++ (rulings router features registry chain.slated).flatMap fun ruling =>
          ruling.2.admissions := by
  by_cases early : features = [] ∨ chain.slated = []
  · have idle : ∀ entry ∈ chain.slated,
        features = [] ∨ hardDropped router features entry.target = true := by
      intro entry member
      rcases early with none | none
      · exact .inl none
      · rw [none] at member
        cases member
    obtain ⟨rest, same⟩ := @rulings_idle router features registry _ idle
    rw [filterChainByFeatures_early early, rest, same, List.append_nil]
    exact ⟨rfl, rfl⟩
  · rw [filterChainByFeatures_late early]
    exact ⟨rfl, rfl⟩

private theorem refused_iff_dropped :
    (∃ refusal, (filterChainByFeatures router features registry chain.slated aliasName
        admissions).outcome = .error refusal) ↔
      features ≠ [] ∧ chain.slated ≠ [] ∧
        ∀ slated ∈ chain.slated, hardDropped router features slated.target = true := by
  by_cases early : features = [] ∨ chain.slated = []
  · rw [filterChainByFeatures_early early]
    simp only [reduceCtorEq, exists_false, false_iff]
    tauto
  · rw [filterChainByFeatures_late early]
    by_cases empty : reordered (rulings router features registry chain.slated) = []
    · rw [if_pos empty]
      have dropped := reordered_eq_nil_iff.mp empty
      simp only [Except.error.injEq, exists_eq', true_iff]
      tauto
    · rw [if_neg empty]
      rw [reordered_eq_nil_iff] at empty
      simp only [reduceCtorEq, exists_false, false_iff]
      tauto

/-- The keys of one target's kept ruling, and the re-probes it was granted. -/
private theorem mem_delivered {ruling : Ruling}
    (kept : ruling ∈ inBucket .kept (rulings router features registry chain.slated)) {key : String} :
    key ∈ (delivered ruling).stripCapabilities ↔ key ∈ ruling.2.stripKeys := by
  have member : ruling.1 ∈ chain.slated := by
    rw [← @rulings_slated router features registry chain.slated]
    exact List.mem_map_of_mem (List.mem_filter.mp kept).1
  unfold delivered DispatchTarget.stripping
  cases keys : ruling.2.stripKeys with
  | nil => simp [chain.unstripped ruling.1 member]
  | cons first rest => simp

private theorem targetReads_of_consults {slated : Slated} {providerKind : String}
    (consults : Consults router features slated.target providerKind) :
    targetReads router features registry slated =
      readsOf router registry slated.target providerKind slated.now features := by
  simp [targetReads, consults.survives, consults.enabled, consults.kind]

private theorem mem_readsOf {target : DispatchTarget} {providerKind : String} {now : Nat}
    {listed : List String} {key : RegistryKey} :
    key ∈ (readsOf router registry target providerKind now listed).map SlotRead.key ↔
      ∃ feature ∈ listed, reads router registry target providerKind feature = true ∧
        makeKey target.stateKey feature providerKind = key := by
  simp [readsOf, and_assoc]

/-- A mask covers every spelling of its capability. -/
private theorem forcesSupported_of_normalized {target : DispatchTarget}
    {feature other providerKind : String}
    (same : normalizeCapabilityKey feature providerKind = normalizeCapabilityKey other providerKind) :
    router.overrideForcesSupported target feature providerKind =
      router.overrideForcesSupported target other providerKind := by
  have resolved : router.overrideRegistry.resolve target.providerName (target.nickname.getD "")
      feature providerKind = router.overrideRegistry.resolve target.providerName
        (target.nickname.getD "") other providerKind := by
    unfold OverrideRegistry.resolve
    rw [same]
  unfold Router.overrideForcesSupported
  rw [resolved]

private theorem granted_ruling {ruling : Ruling}
    (member : ruling ∈ rulings router features registry chain.slated) {admission : ProbeAdmission}
    (held : admission ∈ ruling.2.admissions) :
    hardDropped router features ruling.1.target = false ∧
      admission.stateKey = ruling.1.target.stateKey ∧
      ruling.1.target.providerKind = some admission.providerKind ∧
      ∀ feature, router.overrideForcesSupported ruling.1.target feature admission.providerKind =
          true →
        admission.feature ≠ normalizeCapabilityKey feature admission.providerKind := by
  obtain ⟨earlier, later, start, -, consult⟩ := consultOf_ruling member
  obtain ⟨stateKey, consults⟩ := consult.granted admission held
  refine ⟨consults.survives, stateKey, consults.kind, ?_⟩
  intro feature masked same
  have read := ((consult.admitted admission.key).mp (List.mem_map_of_mem held)).1
  rw [targetReads_of_consults consults, mem_readsOf] at read
  obtain ⟨other, -, read, keyed⟩ := read
  have spelled : normalizeCapabilityKey other admission.providerKind =
      normalizeCapabilityKey feature admission.providerKind :=
    (congrArg RegistryKey.featureKey keyed).trans same
  rw [← forcesSupported_of_normalized spelled] at masked
  simp [reads, masked] at read

private theorem stripped_ruling {ruling : Ruling}
    (kept : ruling ∈ inBucket .kept (rulings router features registry chain.slated)) {key : String}
    (stripped : key ∈ (delivered ruling).stripCapabilities) :
    ∃ feature ∈ features, ∃ providerKind entry,
      ruling.1.target.providerKind = some providerKind ∧
        normalizeCapabilityKey feature providerKind = key ∧
        registry.entries.lookup (makeKey ruling.1.target.stateKey feature providerKind) =
          some entry ∧
        actingPhase entry = some .f1 := by
  obtain ⟨earlier, later, start, -, consult⟩ := consultOf_ruling (List.mem_filter.mp kept).1
  rw [mem_delivered kept, consult.stripped] at stripped
  obtain ⟨providerKind, consults, -, before, feature, place, strips, spelled⟩ := stripped
  have held := strips.1.2.1
  rw [holds, slotsAfter, slotAfter_phase] at held
  obtain ⟨entry, resident, phase⟩ := Option.bind_eq_some_iff.mp held
  exact ⟨feature, place.mem, providerKind, entry, consults.kind, spelled, resident, phase⟩

private theorem spares_of_condition {ruling : Ruling}
    (spared : ∀ earlier slated later, chain.slated = earlier ++ slated :: later →
      ¬StripsItsProbe router features registry earlier slated)
    (kept : ruling ∈ inBucket .kept (rulings router features registry chain.slated)) {key : String}
    (stripped : key ∈ (delivered ruling).stripCapabilities) {admission : ProbeAdmission}
    (held : admission ∈ ruling.2.admissions) : admission.feature ≠ key := by
  obtain ⟨member, bucket⟩ := List.mem_filter.mp kept
  obtain ⟨earlier, later, start, split, consult⟩ := consultOf_ruling member
  rw [mem_delivered kept, consult.stripped] at stripped
  obtain ⟨providerKind, consults, stays, before, feature, place, ⟨refused, drops⟩, rfl⟩ := stripped
  intro same
  have keyed : admission.key = makeKey ruling.1.target.stateKey feature providerKind := by
    rw [ProbeAdmission.key, (consult.granted admission held).1, same]
    rfl
  have due := ((consult.admitted admission.key).mp (List.mem_map_of_mem held)).2
  rw [keyed] at due
  have unflagged := ((consult.kept.mp (of_decide_eq_true bucket)).2 providerKind consults).2
  exact spared earlier ruling.1 later split ⟨providerKind, consults, stays, unflagged, before,
    feature, place, refused.1, drops, refused.2.1, due, refused.2.2 due⟩

private theorem condition_of_spares
    (spares : ∀ ruling ∈ inBucket .kept (rulings router features registry chain.slated),
      ∀ key ∈ (delivered ruling).stripCapabilities, ∀ admission ∈ ruling.2.admissions,
        admission.feature ≠ key)
    {earlier later : List Slated} {slated : Slated}
    (split : chain.slated = earlier ++ slated :: later) :
    ¬StripsItsProbe router features registry earlier slated := by
  rintro ⟨providerKind, consults, stays, unflagged, before, feature, place, read, drops, phase, due,
    repeated⟩
  obtain ⟨consulted, start, member, consult⟩ :=
    @exists_ruling router features _ registry _ _ _ split
  have bucket : consulted.bucket = some .kept := by
    apply consult.kept.mpr
    refine ⟨consults.survives, fun other others => ?_⟩
    obtain rfl := Option.some.inj (others.kind.symm.trans consults.kind)
    exact ⟨stays, unflagged⟩
  have kept : (slated, consulted) ∈
      inBucket .kept (rulings router features registry chain.slated) :=
    List.mem_filter.mpr ⟨member, decide_eq_true bucket⟩
  have stripped : normalizeCapabilityKey feature providerKind ∈
      (delivered (slated, consulted)).stripCapabilities := by
    rw [mem_delivered kept, consult.stripped]
    exact ⟨providerKind, consults, stays, before, feature, place,
      ⟨⟨read, phase, fun _ => repeated⟩, drops⟩, rfl⟩
  have admitted : makeKey slated.target.stateKey feature providerKind ∈
      consulted.admissions.map ProbeAdmission.key := by
    rw [consult.admitted, targetReads_of_consults consults]
    refine ⟨?_, due⟩
    rw [mem_readsOf] at repeated ⊢
    obtain ⟨other, listed, found⟩ := repeated
    exact ⟨other, place.subset (List.mem_append_left _ listed), found⟩
  obtain ⟨admission, held, keyed⟩ := List.mem_map.mp admitted
  exact spares _ kept _ stripped admission held (congrArg RegistryKey.featureKey keyed)

/-- The filter keeps its contract exactly when no target strips a capability it was
granted a re-probe of. -/
theorem filterContract_iff :
    FilterContract router features registry chain aliasName admissions ↔
      ∀ earlier slated later, chain.slated = earlier ++ slated :: later →
        ¬StripsItsProbe router features registry earlier slated := by
  constructor
  · intro contract earlier slated later split
    exact condition_of_spares contract.spares split
  · intro spared
    obtain ⟨registryIs, admissionsAre⟩ := @filterChainByFeatures_effects router features registry chain
      aliasName admissions
    obtain ⟨distinct, claimed⟩ :=
      @rulings_admitted router features registry chain.slated
    constructor
    case passes => exact filterChainByFeatures_early
    case refuses => exact refused_iff_dropped
    case refusal =>
      intro refusal failed
      obtain ⟨asked, nonempty, dropped⟩ := refused_iff_dropped.mp ⟨refusal, failed⟩
      obtain ⟨rest, same⟩ := @rulings_idle router features registry _
        fun entry member => .inr (dropped entry member)
      have late : ¬(features = [] ∨ chain.slated = []) := not_or.mpr ⟨asked, nonempty⟩
      rw [registryIs, admissionsAre, rest, same, List.append_nil]
      rw [filterChainByFeatures_late late, if_pos (reordered_eq_nil_iff.mpr dropped)] at failed
      obtain rfl := Except.error.inj failed
      exact ⟨rfl, rfl, rfl⟩
    case ruled => exact rulings_slated registry chain.slated
    case survives =>
      intro ruling member
      obtain ⟨earlier, later, start, -, consult⟩ := consultOf_ruling member
      exact consult.dropped
    case sorted =>
      intro asked targets delivered
      by_cases empty : chain.slated = []
      · rw [filterChainByFeatures_early (.inr empty)] at delivered
        obtain rfl := Except.ok.inj delivered
        rw [empty]
        rfl
      · rw [filterChainByFeatures_late (not_or.mpr ⟨asked, empty⟩)] at delivered
        dsimp only at delivered
        split at delivered
        · cases delivered
        · exact (Except.ok.inj delivered).symm
    case appended => exact admissionsAre
    case distinct => exact distinct
    case claimed => exact registryIs ▸ claimed
    case granted => exact fun ruling member admission held => granted_ruling member held
    case unstripped =>
      intro ruling learned
      apply chain.unstripped
      rw [← @rulings_slated router features registry chain.slated]
      exact List.mem_map_of_mem (List.mem_filter.mp learned).1
    case stripped => exact fun ruling kept key stripped => stripped_ruling kept stripped
    case spares =>
      exact fun ruling kept key stripped admission held =>
        spares_of_condition spared kept stripped held
    case windowed =>
      intro estimate corrected targets delivered
      exact ⟨filterChainByWindow_sublist, filterChainByWindow_ne_nil⟩

end Contract

section Example

private def openRouter : Router :=
  { config :=
      { capabilityEnabled := true, essential := [], windowGateEnabled := false, providers := ∅ }
    overrideRegistry := { cells := ∅ }
    registryGeneration := 1 }

/-- A wire-token negative that has lapsed and waits for its re-probe. -/
private def lapsedAdvisor : LearnedCapabilityRegistry :=
  { LearnedCapabilityRegistry.new 100 100 8 with
    entries := AList.singleton { stateKey := "lane", featureKey := "advisor" }
      { incarnation := 1, verdict := .negative, signal := .selfIdentifying, observations := 1,
        firstSeen := 0, lastSeen := 0, expiresAt := 100, inFlight := false,
        consecutiveFailedProbes := 0, phase := .f1, source := .live, evidenceClass := none } }

private def bedrockLane : Slated :=
  { target :=
      { providerName := "east", providerKind := some "bedrock", stateKey := "lane",
        nickname := some "lane", stripCapabilities := [],
        model := { headerExtras := [], contextWindowTokens := none }, capabilities := ∅ }
    now := 200 }

private def bedrockChain : DispatchChain :=
  { slated := [bedrockLane], unstripped := by simp [bedrockLane] }

/-- Two tool types of one capability: the first read is granted the re-probe, the second
strips the tool the probe is to test. -/
theorem probe_stripped :
    ¬FilterContract openRouter ["advisor.preview", "advisor"] lapsedAdvisor bedrockChain "alias"
      [] := by
  intro contract
  have stripped := contract.spares
    (bedrockLane, unsupportedFeatureForTarget openRouter bedrockLane.target lapsedAdvisor 200
      ["advisor.preview", "advisor"] [])
    (List.mem_filter.mpr ⟨List.mem_cons_self, by decide⟩) "advisor" (by decide)
    (ProbeAdmission.granted "lane" "advisor.preview" "bedrock" 1) (by decide)
  exact stripped (by decide)

end Example
end Routectl.Filter
