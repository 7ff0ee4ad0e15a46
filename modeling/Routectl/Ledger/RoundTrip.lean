import Routectl.Ledger.Restatement
import Routectl.Registry.World

/-! The boundary round trip, from every registry the callers can reach. -/
namespace Routectl.Registry
open Routectl.Core Library

/-- Positives are recorded under a recognized evidence class only. -/
def GuardedOp.recognized : GuardedOp → Prop
  | .observePositive _ evidenceClass _ => evidenceClass.any isKnownEvidenceClass = true
  | _ => True

def Action.recognized : Action → Prop
  | .call request => request.op.recognized
  | _ => True

end Routectl.Registry

namespace Routectl.Ledger
open Routectl.Core Library Registry

/-- No resident is on the verified side without its grounds. -/
def GroundedResidents (registry : LearnedCapabilityRegistry) : Prop :=
  ∀ key entry, registry.entries.lookup key = some entry → Grounded entry

/-- One entry for each catalog-independent resident, and no other. -/
def RoundTrips (registry replayed : LearnedCapabilityRegistry) : Prop :=
  ∀ key, Option.Rel Restated
    (if catalogIndependent key then registry.entries.lookup key else none)
    (replayed.entries.lookup key)

/-- The rebuild of an empty registry from a ledger that ends with `batch`. -/
def afterBoundary (writer : Writer) (batch : CapabilityBatch) (tuning : RegistryTuning) :
    LearnedCapabilityRegistry :=
  (rebuildCapabilitiesInto (ledgerReader (writer.commitCapabilityBatch batch true).1.rows)
    (.new tuning.decay tuning.inferredWindow tuning.maxEntries)).1

section Grounds
variable {tuning : RegistryTuning} {slot : Option LearnedEntry} {entry : LearnedEntry}

theorem Grounded.of_negative (negative : entry.verdict = .negative) : Grounded entry := by
  intro verified
  rw [negative] at verified
  cases verified

theorem Grounded.restamp (grounded : Grounded entry) (incarnation : Nat) :
    Grounded (Registry.restamp incarnation entry) := grounded

theorem observeSlot_grounded (held : ∀ prior, slot = some prior → Grounded prior)
    (tier : SignalTier) (phase : FailurePhase) (source : EvidenceSource)
    (evidence : Option String) (now : Nat) :
    Grounded (observeSlot tuning slot tier phase source evidence now).1 := by
  cases slot with
  | none => exact .of_negative rfl
  | some prior =>
    cases side : prior.verdict with
    | negative =>
      rw [observeSlot_negative side]
      apply Grounded.of_negative
      rw [observeExisting_verdict, side]
    | verified =>
      rw [observeSlot_verified side]
      cases tier with
      | selfIdentifying => exact .of_negative rfl
      | inferred => exact held prior rfl

theorem positiveSlot_grounded (held : ∀ prior, slot = some prior → Grounded prior)
    (source : EvidenceSource) {evidence : Option String}
    (recognized : evidence.any isKnownEvidenceClass = true) (now : Nat) :
    Grounded (positiveSlot slot source evidence now) := by
  cases slot with
  | none => exact fun _ => ⟨rfl, rfl, recognized⟩
  | some prior =>
    have grounded := held prior rfl
    cases side : prior.verdict with
    | negative =>
      rw [positiveSlot_negative side]
      exact grounded
    | verified =>
      rw [positiveSlot_verified side]
      exact grounded

theorem effect_grounded {op : GuardedOp} (recognized : op.recognized)
    (held : ∀ prior, slot = some prior → Grounded prior)
    (left : op.effect tuning slot = some entry) : Grounded entry := by
  cases op with
  | observe tier phase source evidence now =>
    obtain rfl := Option.some.inj left
    exact observeSlot_grounded held tier phase source evidence now
  | observePositive source evidence now =>
    obtain rfl := Option.some.inj left
    exact positiveSlot_grounded held source recognized now
  | negativeState now => exact held entry left
  | isVerifiedWorking => exact held entry left
  | fieldActingFacts now => exact held entry left
  | expireKeyed now =>
    obtain ⟨prior, same, rfl⟩ := Option.map_eq_some_iff.mp left
    exact held prior same
  | removeKeyed => cases left

theorem claimSlot_grounded (held : ∀ prior, slot = some prior → Grounded prior) {now : Nat}
    (left : claimSlot slot now = some entry) : Grounded entry := by
  obtain ⟨prior, same, rfl⟩ := Option.map_eq_some_iff.mp left
  have grounded := held prior same
  split <;> exact grounded

theorem settleSlot_grounded (held : ∀ prior, slot = some prior → Grounded prior)
    {hasher : RegistryKey → Nat → Nat} {key : RegistryKey} {outcome : ProbeOutcome} {now : Nat}
    (left : settleSlot tuning hasher key slot outcome now = some entry) : Grounded entry := by
  cases outcome with
  | success => cases left
  | sameCapabilityRejection =>
    obtain ⟨prior, same, rfl⟩ := Option.map_eq_some_iff.mp left
    exact held prior same
  | otherError =>
    obtain ⟨prior, same, rfl⟩ := Option.map_eq_some_iff.mp left
    exact held prior same

end Grounds

section Residents
variable {registry after : LearnedCapabilityRegistry} {key : RegistryKey} {intent : Intent}
  {effect : Option LearnedEntry → Option LearnedEntry}

theorem GroundedResidents.of_lookup (grounded : GroundedResidents registry)
    (kept : ∀ key entry, after.entries.lookup key = some entry →
      registry.entries.lookup key = some entry) : GroundedResidents after :=
  fun key entry resident => grounded key entry (kept key entry resident)

theorem GroundedResidents.guarded (grounded : GroundedResidents registry)
    (step : GuardedStep registry key effect intent after)
    (keeps : ∀ entry, effect (registry.entries.lookup key) = some entry → Grounded entry) :
    GroundedResidents after := by
  have outside (other : RegistryKey) (different : other ≠ key) (entry : LearnedEntry)
      (resident : after.entries.lookup other = some entry) : Grounded entry := by
    rcases step.lookup_other different with same | gone
    · exact grounded other entry (same ▸ resident)
    · rw [gone] at resident
      cases resident
  intro other entry resident
  by_cases same : other = key
  · subst same
    cases step with
    | refused => exact grounded other entry resident
    | exhausted full count => exact grounded other entry resident
    | mutated entries unleased room slot frame =>
      dsimp only at resident
      rw [slot] at resident
      obtain ⟨left, produced, rfl⟩ := Option.map_eq_some_iff.mp resident
      exact (keeps left produced).restamp _
    | read entries unleased slot frame => exact keeps entry (slot ▸ resident)
  · exact outside other same entry resident

theorem step_grounded {hasher : RegistryKey → Nat → Nat} {world next : World} {action : Action}
    (grounded : GroundedResidents world.registry) (recognized : action.recognized)
    (step : world.step hasher action = some next) : GroundedResidents next.registry := by
  cases World.step_moved step with
  | called call registry guarded =>
    exact grounded.guarded guarded fun entry left => effect_grounded recognized (grounded _) left
  | looked registry guarded => exact grounded.guarded guarded (grounded _)
  | claimed granted registry guarded =>
    exact grounded.guarded guarded fun entry left => claimSlot_grounded (grounded _) left
  | settled admission present =>
    exact grounded.guarded (settleAdmission_step hasher world.registry admission _ _)
      fun entry left => settleSlot_grounded (grounded _) left
  | removed live found open_ =>
    apply grounded.of_lookup
    intro key entry resident
    unfold LearnedCapabilityRegistry.finalizeRemove at resident
    split at resident
    · split at resident
      · by_cases same : key = live.lease.key
        · subst same
          simp [AList.lookup_erase] at resident
        · rw [AList.lookup_erase_ne same] at resident
          exact resident
      · exact resident
    · exact resident
  | committed pending advances =>
    apply grounded.of_lookup
    intro key entry resident
    rw [KeyedMap.lookup_retain] at resident
    split at resident
    · exact resident
    · cases resident
  | rehashed entries permuted =>
    apply grounded.of_lookup
    intro key entry resident
    rw [← AList.perm_lookup permuted]
    exact resident
  | unprepared => exact grounded
  | prepared lease key unpending resident unleased => exact grounded
  | released live found kind => exact grounded
  | uncut => exact grounded
  | cut receipt unpending unleased derived => exact grounded
  | stale receipt other kind => exact grounded
  | regressed pending still => exact grounded
  | rolledBack pending => exact grounded
  | retuned tuning => exact grounded

theorem run_grounded {hasher : RegistryKey → Nat → Nat} {actions : List Action} {start world : World}
    (grounded : GroundedResidents start.registry) (recognized : ∀ action ∈ actions, action.recognized)
    (reached : (World.machine hasher).run start actions = some world) :
    GroundedResidents world.registry := by
  induction actions generalizing start with
  | nil => exact Option.some.inj reached ▸ grounded
  | cons action rest ih =>
    obtain ⟨next, step, onward⟩ := (World.machine hasher).run_cons_eq_some.mp reached
    have moved := step_grounded grounded (recognized action List.mem_cons_self) step
    exact ih moved (fun later member => recognized later (List.mem_cons_of_mem action member)) onward

end Residents

section Survivors
variable {registry : LearnedCapabilityRegistry} {revision : Revision}

/-- The survivors' rows, resident by resident. -/
theorem survivors_rows : registry.survivors.flatMap (restatedRows revision) =
    (KeyedMap.retain catalogIndependent registry.entries).entries.flatMap
      fun resident => restatedRows revision (resident.2.snapshotRow resident.1) := by
  rw [LearnedCapabilityRegistry.survivors, List.flatMap_map]
  rfl

theorem survivors_length : registry.survivors.length =
    (KeyedMap.retain catalogIndependent registry.entries).entries.length := by
  rw [LearnedCapabilityRegistry.survivors, List.length_map]
  rfl

theorem restatedRows_own (key : RegistryKey) (entry : LearnedEntry) (row : CapabilityEvent)
    (member : row ∈ restatedRows revision (entry.snapshotRow key)) : row.key = key := by
  obtain ⟨observed, _, rfl⟩ := List.mem_map.mp member
  rfl

theorem restatedRows_current (entry : LearnedEntry) (key : RegistryKey) (row : CapabilityEvent)
    (member : row ∈ restatedRows revision (entry.snapshotRow key)) :
    row.verdict ≠ "tombstone" ∧ row.revision = revision := by
  obtain ⟨observed, _, rfl⟩ := List.mem_map.mp member
  refine ⟨?_, rfl⟩
  cases side : entry.verdict with
  | negative => simp [restatedRow, LearnedEntry.snapshotRow, LearnedEntry.readVerdict, side,
      Verdict.asStr]
  | verified => simp [restatedRow, LearnedEntry.snapshotRow, LearnedEntry.readVerdict, side,
      Verdict.asStr]

theorem survivors_current (row : CapabilityEvent)
    (member : row ∈ registry.survivors.flatMap (restatedRows revision)) :
    row.verdict ≠ "tombstone" ∧ row.revision = revision := by
  rw [survivors_rows] at member
  obtain ⟨resident, _, inside⟩ := List.mem_flatMap.mp member
  exact restatedRows_current resident.2 resident.1 row inside

theorem survivors_covered (row : CapabilityEvent)
    (member : row ∈ registry.survivors.flatMap (restatedRows revision)) :
    row.key ∈ (KeyedMap.retain catalogIndependent registry.entries).keys.toFinset := by
  rw [survivors_rows] at member
  obtain ⟨resident, present, inside⟩ := List.mem_flatMap.mp member
  rw [restatedRows_own resident.1 resident.2 row inside, List.mem_toFinset]
  exact List.mem_map_of_mem present

theorem survivors_filter (key : RegistryKey) :
    (registry.survivors.flatMap (restatedRows revision)).filter (fun row => row.key = key) =
      ((KeyedMap.retain catalogIndependent registry.entries).lookup key).elim []
        fun entry => restatedRows revision (entry.snapshotRow key) := by
  rw [survivors_rows]
  exact KeyedMap.filter_flatMap_own restatedRows_own _ key

end Survivors

section RoundTrip
variable {registry : LearnedCapabilityRegistry} {tuning : RegistryTuning} {now : Nat}
  {revision : Revision} {queued : Bool} {batch : CapabilityBatch} {receipt : BoundaryReceipt}

theorem committed_rows (writer : Writer)
    (taken : (admitCapabilityBoundary registry now revision queued).2 = .taken batch receipt) :
    (writer.commitCapabilityBatch batch true).1.rows =
      writer.rows ++ .tombstone now revision ::
        registry.survivors.flatMap (restatedRows revision) := by
  have cut := registry.withBoundaryCut_taken (Prod.ext rfl taken)
  rw [cut.2.2.2.2.1]
  rfl

theorem afterBoundary_size (writer : Writer)
    (taken : (admitCapabilityBoundary registry now revision queued).2 = .taken batch receipt) :
    (afterBoundary writer batch tuning).entries.entries.length ≤ max tuning.maxEntries 1 := by
  rw [afterBoundary, committed_rows writer taken]
  exact rebuild_size survivors_current writer.rows now

theorem afterBoundary_lookup (writer : Writer)
    (taken : (admitCapabilityBoundary registry now revision queued).2 = .taken batch receipt)
    (fits : registry.survivors.length ≤ max tuning.maxEntries 1) (key : RegistryKey) :
    (afterBoundary writer batch tuning).entries.lookup key =
      (((KeyedMap.retain catalogIndependent registry.entries).lookup key).elim []
        fun entry => restatedRows revision (entry.snapshotRow key)).foldl (eventSlot tuning) none := by
  have counted : (KeyedMap.retain catalogIndependent registry.entries).keys.toFinset.card ≤
      max tuning.maxEntries 1 := by
    rw [KeyedMap.card_keys, ← survivors_length]
    exact fits
  rw [afterBoundary, committed_rows writer taken, ← survivors_filter]
  exact rebuild_lookup survivors_current writer.rows now _ survivors_covered counted key

/-- A round trip leaves no survivor out, so they all fit. -/
theorem RoundTrips.fits {replayed : LearnedCapabilityRegistry}
    (trips : RoundTrips registry replayed) :
    registry.survivors.length ≤ replayed.entries.entries.length := by
  rw [survivors_length]
  apply KeyedMap.length_le_of_covers
  intro key resident
  have same := trips key
  rw [← KeyedMap.lookup_retain] at same
  intro missing
  rw [missing] at same
  cases found : (KeyedMap.retain catalogIndependent registry.entries).lookup key with
  | none => exact resident found
  | some entry =>
    rw [found] at same
    cases same

theorem roundTrips_of_fits (grounded : GroundedResidents registry) (writer : Writer)
    (taken : (admitCapabilityBoundary registry now revision queued).2 = .taken batch receipt)
    (fits : registry.survivors.length ≤ max tuning.maxEntries 1) :
    RoundTrips registry (afterBoundary writer batch tuning) ↔
      ∀ key entry, catalogIndependent key = true → registry.entries.lookup key = some entry →
        Corroborated tuning.inferredWindow entry := by
  have slot := afterBoundary_lookup writer taken fits
  constructor
  · intro trips key entry independent resident
    have same := trips key
    have kept : (KeyedMap.retain catalogIndependent registry.entries).lookup key = some entry := by
      rw [KeyedMap.lookup_retain, if_pos independent, resident]
    have rows : Restates tuning revision key entry := restates (grounded key entry resident)
    obtain ⟨replayed, rebuilt, exactly⟩ := rows
    rw [slot key, ← KeyedMap.lookup_retain, kept, Option.elim_some, rebuilt] at same
    cases same with
    | some restated => exact exactly.mp restated
  · intro corroborated key
    rw [slot key, ← KeyedMap.lookup_retain]
    cases kept : (KeyedMap.retain catalogIndependent registry.entries).lookup key with
    | none => exact .none
    | some entry =>
      rw [KeyedMap.lookup_retain] at kept
      split at kept
      · rename_i independent
        have rows : Restates tuning revision key entry := restates (grounded key entry kept)
        obtain ⟨replayed, rebuilt, exactly⟩ := rows
        rw [Option.elim_some, rebuilt]
        exact .some (exactly.mpr (corroborated key entry independent kept))
      · cases kept

/-- From every registry the callers reach, the boundary's rows round-trip exactly
when the survivors fit and every entry counting two inferred observations saw
them inside the window. -/
theorem boundary_round_trip_iff {hasher : RegistryKey → Nat → Nat}
    {decay inferredWindow maxEntries : Nat} {actions : List Action} {world : World}
    (recognized : ∀ action ∈ actions, action.recognized)
    (reached : (World.machine hasher).run (.initial decay inferredWindow maxEntries) actions =
      some world)
    (taken : (admitCapabilityBoundary world.registry now revision queued).2 = .taken batch receipt)
    (writer : Writer) (capacity : Nat) :
    RoundTrips world.registry
        (afterBoundary writer batch { world.registry.tuning with maxEntries := capacity }) ↔
      world.registry.survivors.length ≤ max capacity 1 ∧
        ∀ key entry, catalogIndependent key = true →
          world.registry.entries.lookup key = some entry →
            Corroborated world.registry.tuning.inferredWindow entry := by
  have starts : GroundedResidents (World.initial decay inferredWindow maxEntries).registry := by
    intro key entry resident
    cases resident
  have grounded := run_grounded starts recognized reached
  constructor
  · intro trips
    have fits := trips.fits.trans (afterBoundary_size writer taken)
    exact ⟨fits, (roundTrips_of_fits grounded writer taken fits).mp trips⟩
  · rintro ⟨fits, corroborated⟩
    exact (roundTrips_of_fits grounded writer taken fits).mpr corroborated

end RoundTrip

section Sample

def fieldKey : RegistryKey := ⟨"lane", "field:thinking"⟩

def fieldObserve (tier : SignalTier) (now : Nat) : Action :=
  .call ⟨1, "lane", "field:thinking", "openai-compat", .observe tier .f1 .live none now⟩

def fieldWorld (actions : List Action) : World :=
  ((World.machine fun _ _ => 0).run (.initial 48 10 4) actions).getD (.initial 48 10 4)

def corroborating : List Action := [fieldObserve .inferred 5, fieldObserve .inferred 12]

/-- Two inferred observations inside the window survive the boundary. -/
theorem boundary_round_trip_corroborated : ∃ batch receipt,
    (admitCapabilityBoundary (fieldWorld corroborating).registry 20 ⟨1, 1⟩ true).2 =
      .taken batch receipt ∧
    RoundTrips (fieldWorld corroborating).registry (afterBoundary .empty batch ⟨48, 10, 4⟩) := by
  have recognized : ∀ action ∈ corroborating, action.recognized := by
    intro action member
    rcases List.mem_pair.mp member with rfl | rfl <;> exact trivial
  have reached : (World.machine fun _ _ => 0).run (.initial 48 10 4) corroborating =
      some (fieldWorld corroborating) := rfl
  obtain ⟨batch, receipt, taken⟩ : ∃ batch receipt, (admitCapabilityBoundary
      (fieldWorld corroborating).registry 20 ⟨1, 1⟩ true).2 = .taken batch receipt := ⟨_, _, rfl⟩
  refine ⟨batch, receipt, taken, ?_⟩
  apply (boundary_round_trip_iff recognized reached taken .empty 4).mpr
  refine ⟨by decide, ?_⟩
  intro key entry _ resident
  have listed : ⟨key, entry⟩ ∈ [(⟨fieldKey,
      ⟨2, .negative, .inferred, 2, 5, 12, 60, false, 0, .f1, .live, none⟩⟩ :
        Sigma fun _ : RegistryKey => LearnedEntry)] := AList.mem_lookup_iff.mp resident
  cases List.mem_singleton.mp listed
  intro _ _
  decide

/-- A purge removes the entry its re-probe was claimed on; the key is relearned
once and the re-probe, refused long after, counts as its second observation. -/
def strayRefusal : List Action :=
  [fieldObserve .selfIdentifying 0, .read 1 "lane" "field:thinking" "openai-compat" 48,
    .preparePurge 1 "lane" "field:thinking" "openai-compat", .finalizeRemove 0, .finalizeRelease 0,
    fieldObserve .inferred 60, .settle 0 .sameCapabilityRejection 80]

/-- The resident negative acts, its replayed rows do not. -/
theorem stray_refusal_restated_pending : ∃ world batch receipt,
    (World.machine fun _ _ => 0).run (.initial 48 10 4) strayRefusal = some world ∧
      (∀ action ∈ strayRefusal, action.recognized) ∧
      (admitCapabilityBoundary world.registry 90 ⟨1, 1⟩ true).2 = .taken batch receipt ∧
      world.registry.survivors.length ≤ world.registry.tuning.maxEntries ∧
      ¬RoundTrips world.registry (afterBoundary .empty batch world.registry.tuning) := by
  have recognized : ∀ action ∈ strayRefusal, action.recognized := by
    intro action member
    simp only [strayRefusal, fieldObserve, List.mem_cons, List.not_mem_nil, or_false] at member
    rcases member with rfl | rfl | rfl | rfl | rfl | rfl | rfl <;> exact trivial
  have reached : (World.machine fun _ _ => 0).run (.initial 48 10 4) strayRefusal =
      some (fieldWorld strayRefusal) := rfl
  have starts : GroundedResidents (World.initial 48 10 4).registry := by
    intro key entry resident
    cases resident
  have grounded := run_grounded starts recognized reached
  obtain ⟨batch, receipt, taken⟩ : ∃ batch receipt, (admitCapabilityBoundary
      (fieldWorld strayRefusal).registry 90 ⟨1, 1⟩ true).2 = .taken batch receipt := ⟨_, _, rfl⟩
  have fits : (fieldWorld strayRefusal).registry.survivors.length ≤
      max (fieldWorld strayRefusal).registry.tuning.maxEntries 1 := by decide
  have resident : (fieldWorld strayRefusal).registry.entries.lookup fieldKey =
      some ⟨3, .negative, .inferred, 2, 60, 80, 170, false, 1, .f1, .live, none⟩ := by decide
  refine ⟨_, batch, receipt, reached, recognized, taken, by decide, ?_⟩
  intro trips
  have exactly := roundTrips_of_fits grounded .empty taken fits
  have inside := exactly.mp trips fieldKey _ (by decide) resident rfl rfl
  exact absurd inside (by decide)

end Sample
end Routectl.Ledger
