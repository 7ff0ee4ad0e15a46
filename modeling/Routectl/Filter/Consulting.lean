import Routectl.Filter.SlotReads

/-! One target's learned pass, read off the slots it starts from: which features it is
refused, which re-probes it is granted, and what it strips. -/
namespace Routectl.Filter
open Routectl.Core Routectl.Registry Library

/-- A place in a list of features: the ones before it, and the feature itself. -/
def ReadAt (features before : List String) (feature : String) : Prop :=
  before ++ [feature] <+: features

theorem readAt_snoc {features before : List String} {feature last : String} :
    ReadAt (features ++ [last]) before feature ↔
      ReadAt features before feature ∨ (before = features ∧ feature = last) := by
  unfold ReadAt
  rw [List.prefix_concat_iff, List.append_singleton_inj, or_comm]

theorem exists_readAt_snoc {features : List String} {last : String}
    {holds : List String → String → Prop} :
    (∃ before feature, ReadAt (features ++ [last]) before feature ∧ holds before feature) ↔
      (∃ before feature, ReadAt features before feature ∧ holds before feature) ∨
        holds features last := by
  simp only [readAt_snoc]
  constructor
  · rintro ⟨before, feature, earlier | ⟨rfl, rfl⟩, held⟩
    · exact .inl ⟨before, feature, earlier, held⟩
    · exact .inr held
  · rintro (⟨before, feature, earlier, held⟩ | held)
    · exact ⟨before, feature, .inl earlier, held⟩
    · exact ⟨features, last, .inr ⟨rfl, rfl⟩, held⟩

theorem ReadAt.mem {features before : List String} {feature : String}
    (place : ReadAt features before feature) : feature ∈ features :=
  place.subset (by simp)

section Target
variable (router : Router) (registry : LearnedCapabilityRegistry) (target : DispatchTarget)
  (providerKind : String) (now : Nat)

/-- The read of this feature is made, and it reaches its slot. -/
def reads (feature : String) : Bool :=
  !router.overrideForcesSupported target feature providerKind &&
    router.reaches registry target.stateKey feature providerKind

def readsOf (features : List String) : List SlotRead :=
  (features.filter (reads router registry target providerKind)).map fun feature =>
    ⟨makeKey target.stateKey feature providerKind, now⟩

section Slots
variable (slots : RegistryKey → Option LearnedEntry)

/-- The slot is due for its re-probe. -/
def Due (key : RegistryKey) : Prop := (slots key).any (·.probeDue now) = true

def holds (key : RegistryKey) : Option FailurePhase := (slots key).bind actingPhase

/-- The read keeps the target's traffic away: an acting negative is held, and it is not
due, or an earlier read of the same list has just claimed it. -/
def Refused (before : List String) (feature : String) (phase : FailurePhase) : Prop :=
  reads router registry target providerKind feature = true ∧
    holds slots (makeKey target.stateKey feature providerKind) = some phase ∧
    (Due now slots (makeKey target.stateKey feature providerKind) →
      makeKey target.stateKey feature providerKind ∈
        (readsOf router registry target providerKind now before).map SlotRead.key)

def Granted (before : List String) (feature : String) : Prop :=
  reads router registry target providerKind feature = true ∧
    Due now slots (makeKey target.stateKey feature providerKind) ∧
    makeKey target.stateKey feature providerKind ∉
      (readsOf router registry target providerKind now before).map SlotRead.key

/-- A refusal that stripping answers. -/
def StripsAt (before : List String) (feature : String) : Prop :=
  Refused router registry target providerKind now slots before feature .f1 ∧
    router.stripsInPlace target feature = true

/-- A refusal that sends the whole target to the tail. -/
def RoutesAwayAt (before : List String) (feature : String) : Prop :=
  ∃ phase, Refused router registry target providerKind now slots before feature phase ∧
    ¬(phase = .f1 ∧ router.stripsInPlace target feature = true)

end Slots

/-- What the learned pass has found in the features it went through. -/
structure ScanOf (slots : RegistryKey → Option LearnedEntry) (features : List String)
    (scan : LearnedScan) : Prop where
  readBy : ReadBy (readsOf router registry target providerKind now features) registry scan.registry
  claimed : ∀ feature, feature ∈ scan.learnedClaimed ↔ feature ∈ features ∧
    reads router registry target providerKind feature = true ∧
      holds slots (makeKey target.stateKey feature providerKind) ≠ none
  stripped : ∀ key, key ∈ scan.strip ↔ ∃ before feature, ReadAt features before feature ∧
    StripsAt router registry target providerKind now slots before feature ∧
      normalizeCapabilityKey feature providerKind = key
  routed : scan.routeAway.isSome = true ↔ ∃ before feature, ReadAt features before feature ∧
    RoutesAwayAt router registry target providerKind now slots before feature
  granted : ∀ admission, admission ∈ scan.admissions → admission.stateKey = target.stateKey ∧
    admission.providerKind = providerKind
  distinct : (scan.admissions.map ProbeAdmission.key).Nodup
  admitted : ∀ key, key ∈ scan.admissions.map ProbeAdmission.key ↔
    key ∈ (readsOf router registry target providerKind now features).map SlotRead.key ∧
      Due now slots key

section Snoc
variable {router registry target providerKind now}
  {features : List String} {feature : String}

theorem readsOf_snoc_read (read : reads router registry target providerKind feature = true) :
    readsOf router registry target providerKind now (features ++ [feature]) =
      readsOf router registry target providerKind now features ++
        [⟨makeKey target.stateKey feature providerKind, now⟩] := by
  simp [readsOf, List.filter_append, read]

theorem readsOf_snoc_quiet (quiet : reads router registry target providerKind feature = false) :
    readsOf router registry target providerKind now (features ++ [feature]) =
      readsOf router registry target providerKind now features := by
  simp [readsOf, List.filter_append, quiet]

theorem readsOf_now (features : List String) :
    ∀ read ∈ readsOf router registry target providerKind now features, read.now = now := by
  intro read member
  obtain ⟨feature, -, rfl⟩ := List.mem_map.mp member
  rfl

/-- A feature whose read is masked, or reaches no slot, changes nothing. -/
theorem learnedStep_quiet {scan : LearnedScan} {reads' : List SlotRead}
    (readBy : ReadBy reads' registry scan.registry)
    (quiet : reads router registry target providerKind feature = false) :
    learnedStep router target providerKind now scan feature = scan := by
  unfold learnedStep
  split
  · rfl
  · rename_i unmasked
    have unreached : router.reaches scan.registry target.stateKey feature providerKind = false := by
      rw [router.reaches_readBy registry _ _ _ readBy]
      simpa [reads, unmasked] using quiet
    rw [router.actingNegativeWithGeneration_unreached _ _ _ _ _ unreached]

/-- A read that reaches its slot answers by what the slot holds by then. -/
theorem learnedStep_read {scan : LearnedScan} {reads' : List SlotRead}
    (readBy : ReadBy reads' registry scan.registry)
    (read : reads router registry target providerKind feature = true) :
    ∃ after generation,
      ReadBy [⟨makeKey target.stateKey feature providerKind, now⟩] scan.registry after ∧
      learnedStep router target providerKind now scan feature =
        match readDecision
          (scan.registry.entries.lookup (makeKey target.stateKey feature providerKind)) now with
        | .routeAway _ phase =>
          if phase = .f1 && router.stripsInPlace target feature then
            { scan with
              registry := after,
              learnedClaimed := scan.learnedClaimed ++ [feature],
              strip := scan.strip ++ [normalizeCapabilityKey feature providerKind] }
          else
            { scan with
              registry := after,
              learnedClaimed := scan.learnedClaimed ++ [feature],
              routeAway := scan.routeAway.or (some feature) }
        | .probeAdmitted =>
          { scan with
            registry := after,
            learnedClaimed := scan.learnedClaimed ++ [feature],
            admissions := scan.admissions ++
              [ProbeAdmission.granted target.stateKey feature providerKind generation] }
        | .allow => { scan with registry := after } := by
  simp only [reads, Bool.and_eq_true, Bool.not_eq_true'] at read
  obtain ⟨unmasked, reached⟩ := read
  rw [← router.reaches_readBy registry _ _ _ readBy] at reached
  obtain ⟨after, same, readOnce⟩ :=
    router.actingNegativeWithGeneration_reached scan.registry _ _ _ now reached
  refine ⟨after, scan.registry.effectivePersistenceGeneration, readOnce, ?_⟩
  unfold learnedStep
  rw [if_neg (by simp [unmasked]), same]
  cases readDecision
    (scan.registry.entries.lookup (makeKey target.stateKey feature providerKind)) now <;> rfl

end Snoc

section Decided
variable {router registry target providerKind now}
  {features : List String} {feature : String} {after : LearnedCapabilityRegistry}

private theorem slot_phase
    (readBy : ReadBy (readsOf router registry target providerKind now features) registry after)
    (key : RegistryKey) :
    (after.entries.lookup key).bind actingPhase =
      holds (fun key => registry.entries.lookup key) key := by
  rw [readBy.slots, slotAfter_phase]
  rfl

private theorem slot_due
    (readBy : ReadBy (readsOf router registry target providerKind now features) registry after)
    (key : RegistryKey) :
    (after.entries.lookup key).any (·.probeDue now) = true ↔
      Due now (fun key => registry.entries.lookup key) key ∧
        key ∉ (readsOf router registry target providerKind now features).map SlotRead.key := by
  rw [readBy.slots, slotAfter_due (readsOf_now features)]
  rfl

theorem refused_iff
    (readBy : ReadBy (readsOf router registry target providerKind now features) registry after)
    (read : reads router registry target providerKind feature = true) {phase : FailurePhase} :
    Refused router registry target providerKind now (fun key => registry.entries.lookup key)
        features feature phase ↔
      ∃ signal, readDecision (after.entries.lookup (makeKey target.stateKey feature providerKind))
        now = .routeAway signal phase := by
  rw [readDecision_routeAway_iff, slot_phase readBy, ← Bool.not_eq_true, slot_due readBy]
  unfold Refused
  simp only [read, true_and]
  apply and_congr_right
  intro _
  constructor
  · rintro earlier ⟨due, fresh⟩
    exact fresh (earlier due)
  · intro undue due
    by_contra fresh
    exact undue ⟨due, fresh⟩

theorem granted_iff
    (readBy : ReadBy (readsOf router registry target providerKind now features) registry after)
    (read : reads router registry target providerKind feature = true) :
    Granted router registry target providerKind now (fun key => registry.entries.lookup key)
        features feature ↔
      readDecision (after.entries.lookup (makeKey target.stateKey feature providerKind)) now =
        .probeAdmitted := by
  rw [readDecision_probeAdmitted_iff, slot_due readBy]
  unfold Granted
  simp only [read, true_and]

end Decided

section Pass
variable {router registry target providerKind now}
  {features : List String} {feature : String} {scan next : LearnedScan}

/-- What one more feature has to contribute for the pass to go on. -/
private theorem ScanOf.extend
    (scanned : ScanOf router registry target providerKind now
      (fun key => registry.entries.lookup key) features scan)
    (readBy : ReadBy (readsOf router registry target providerKind now (features ++ [feature]))
      registry next.registry)
    (claimed : ∀ other, other ∈ next.learnedClaimed ↔ other ∈ scan.learnedClaimed ∨
      (other = feature ∧ reads router registry target providerKind feature = true ∧
        holds (fun key => registry.entries.lookup key)
          (makeKey target.stateKey feature providerKind) ≠ none))
    (stripped : ∀ key, key ∈ next.strip ↔ key ∈ scan.strip ∨
      (StripsAt router registry target providerKind now (fun key => registry.entries.lookup key)
        features feature ∧ normalizeCapabilityKey feature providerKind = key))
    (routed : next.routeAway.isSome = true ↔ scan.routeAway.isSome = true ∨
      RoutesAwayAt router registry target providerKind now
        (fun key => registry.entries.lookup key) features feature)
    (admitted : (next.admissions = scan.admissions ∧
        ¬Granted router registry target providerKind now
          (fun key => registry.entries.lookup key) features feature) ∨
      (∃ generation, next.admissions = scan.admissions ++
          [ProbeAdmission.granted target.stateKey feature providerKind generation]) ∧
        Granted router registry target providerKind now
          (fun key => registry.entries.lookup key) features feature) :
    ScanOf router registry target providerKind now (fun key => registry.entries.lookup key)
      (features ++ [feature]) next where
  readBy := readBy
  claimed other := by
    rw [claimed, scanned.claimed, List.mem_append, List.mem_singleton]
    constructor
    · rintro (⟨earlier, held⟩ | ⟨rfl, held⟩)
      · exact ⟨.inl earlier, held⟩
      · exact ⟨.inr rfl, held⟩
    · rintro ⟨earlier | rfl, held⟩
      · exact .inl ⟨earlier, held⟩
      · exact .inr ⟨rfl, held⟩
  stripped key := by rw [stripped, scanned.stripped, exists_readAt_snoc]
  routed := by rw [routed, scanned.routed, exists_readAt_snoc]
  granted admission member := by
    rcases admitted with ⟨same, -⟩ | ⟨⟨generation, same⟩, -⟩
    · exact scanned.granted admission (same ▸ member)
    · rw [same, List.mem_append, List.mem_singleton] at member
      rcases member with earlier | rfl
      · exact scanned.granted admission earlier
      · exact ⟨rfl, rfl⟩
  distinct := by
    rcases admitted with ⟨same, -⟩ | ⟨⟨generation, same⟩, -, -, fresh⟩
    · rw [same]
      exact scanned.distinct
    · rw [same, List.map_append, List.nodup_append_comm]
      refine List.nodup_cons.mpr ⟨?_, scanned.distinct⟩
      intro earlier
      exact fresh ((scanned.admitted _).mp earlier).1
  admitted key := by
    rcases admitted with ⟨same, ungranted⟩ | ⟨⟨generation, same⟩, read, due, fresh⟩
    · rw [same, scanned.admitted]
      apply and_congr_left
      intro due
      cases read : reads router registry target providerKind feature with
      | false => rw [readsOf_snoc_quiet read]
      | true =>
        rw [readsOf_snoc_read read, List.map_append, List.mem_append]
        constructor
        · exact .inl
        · rintro (earlier | last)
          · exact earlier
          · by_contra fresh
            obtain rfl := List.mem_singleton.mp last
            exact ungranted ⟨read, due, fresh⟩
    · rw [same, List.map_append, List.mem_append, scanned.admitted, readsOf_snoc_read read,
        List.map_append, List.mem_append, or_and_right]
      apply or_congr_right
      simp only [List.map_cons, List.map_nil, List.mem_singleton, ProbeAdmission.granted_key]
      constructor
      · rintro rfl
        exact ⟨rfl, due⟩
      · exact And.left

theorem ScanOf.step
    (scanned : ScanOf router registry target providerKind now
      (fun key => registry.entries.lookup key) features scan) (feature : String) :
    ScanOf router registry target providerKind now (fun key => registry.entries.lookup key)
      (features ++ [feature]) (learnedStep router target providerKind now scan feature) := by
  cases read : reads router registry target providerKind feature with
  | false =>
    rw [learnedStep_quiet scanned.readBy read]
    apply scanned.extend
    case readBy =>
      rw [readsOf_snoc_quiet read]
      exact scanned.readBy
    case claimed => simp [read]
    case stripped => simp [StripsAt, Refused, read]
    case routed => simp [RoutesAwayAt, Refused, read]
    case admitted => exact .inl ⟨rfl, by simp [Granted, read]⟩
  | true =>
    obtain ⟨after, generation, readOnce, same⟩ := @learnedStep_read _ _ _ _ now _ _ _ scanned.readBy read
    have readBy : ReadBy (readsOf router registry target providerKind now (features ++ [feature]))
        registry after := by
      rw [readsOf_snoc_read read]
      exact scanned.readBy.trans readOnce
    have refused (phase : FailurePhase) : Refused router registry target providerKind now
        (fun key => registry.entries.lookup key) features feature phase ↔
          ∃ signal, readDecision (scan.registry.entries.lookup
            (makeKey target.stateKey feature providerKind)) now = .routeAway signal phase :=
      refused_iff scanned.readBy read
    have granted := granted_iff scanned.readBy read
    have held : holds (fun key => registry.entries.lookup key)
        (makeKey target.stateKey feature providerKind) = none ↔ readDecision
          (scan.registry.entries.lookup (makeKey target.stateKey feature providerKind)) now =
            .allow := by
      rw [readDecision_allow_iff, slot_phase scanned.readBy]
    rw [same]
    cases decision : readDecision
      (scan.registry.entries.lookup (makeKey target.stateKey feature providerKind)) now with
    | allow =>
      simp only [decision] at refused granted held
      apply scanned.extend readBy
      case claimed => simp [held]
      case stripped => simp [StripsAt, refused]
      case routed => simp [RoutesAwayAt, refused]
      case admitted => exact .inl ⟨rfl, by simp [granted]⟩
    | probeAdmitted =>
      simp only [decision] at refused granted held
      apply scanned.extend readBy
      case claimed => simp [held, read]
      case stripped => simp [StripsAt, refused]
      case routed => simp [RoutesAwayAt, refused]
      case admitted => exact .inr ⟨⟨generation, rfl⟩, by simp [granted]⟩
    | routeAway signal phase =>
      simp only [decision] at refused granted held
      dsimp only
      split
      · rename_i strips
        simp only [Bool.and_eq_true, decide_eq_true_eq] at strips
        obtain ⟨rfl, droppable⟩ := strips
        apply scanned.extend readBy
        case claimed => simp [held, read]
        case stripped => simp [StripsAt, refused, droppable, eq_comm]
        case routed => simp [RoutesAwayAt, refused, droppable]
        case admitted => exact .inl ⟨rfl, by simp [granted]⟩
      · rename_i stays
        simp only [Bool.and_eq_true, decide_eq_true_eq] at stays
        apply scanned.extend readBy
        case claimed => simp [held, read]
        case stripped =>
          intro key
          simp only [StripsAt, refused]
          grind
        case routed =>
          simp only [RoutesAwayAt, refused]
          grind
        case admitted => exact .inl ⟨rfl, by simp [granted]⟩

theorem learnedPass_scanOf (features : List String) :
    ScanOf router registry target providerKind now (fun key => registry.entries.lookup key) features
      (learnedPass router target providerKind now registry features []) := by
  induction features using List.reverseRecOn with
  | nil =>
    exact
      { readBy := ReadBy.refl registry
        claimed := by simp [learnedPass]
        stripped := by simp [learnedPass, ReadAt]
        routed := by simp [learnedPass, ReadAt]
        granted := by simp [learnedPass]
        distinct := List.nodup_nil
        admitted := by simp [learnedPass, readsOf] }
  | append_singleton features feature ih =>
    unfold learnedPass at ih ⊢
    rw [List.foldl_append]
    exact ih.step feature

end Pass
end Target
end Routectl.Filter
