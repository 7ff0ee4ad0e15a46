import Mathlib.Data.Finset.Insert
import Routectl.Registry.Entry

/-! The bodies the registry runs on the resident entries, and what each one does
to the single slot it is asked about. -/
namespace Routectl.Registry
open Routectl.Core Library

abbrev Entries := KeyedMap RegistryKey LearnedEntry
abbrev Leases := Finset RegistryKey

/-- A leased key is never the victim. -/
def evictIfFull (tuning : RegistryTuning) (entries : Entries) (leased : Leases) : Entries :=
  KeyedMap.evictOldest tuning.maxEntries (fun key => key ∉ leased) LearnedEntry.lastSeen entries

/-- A re-probe refused again: the negative stays, backed off further. -/
def refusedProbe (tuning : RegistryTuning) (hasher : RegistryKey → Nat → Nat) (key : RegistryKey)
    (now : Nat) (entry : LearnedEntry) : LearnedEntry :=
  let failed := saturatingSucc entry.consecutiveFailedProbes
  { entry with
    consecutiveFailedProbes := failed,
    observations := saturatingSucc entry.observations,
    lastSeen := now,
    inFlight := false,
    expiresAt := now + backoffWindow hasher tuning key failed }

section Bodies
variable (tuning : RegistryTuning) (entries : Entries) (leased : Leases) (key : RegistryKey)

def observeIn (tier : SignalTier) (phase : FailurePhase) (source : EvidenceSource)
    (evidenceClass : Option String) (now : Nat) : Entries × ObserveOutcome :=
  match entries.lookup key with
  | some existing =>
    match existing.verdict with
    | .negative =>
      let (entry, outcome) := observeExisting tuning existing tier now
      (entries.insert key entry, outcome)
    | .verified =>
      match tier with
      | .selfIdentifying =>
        let (entry, outcome) := freshEntry tuning tier phase source evidenceClass now
        (entries.insert key entry, outcome)
      | .inferred => (entries, .pending)
  | none =>
    let (entry, outcome) := freshEntry tuning tier phase source evidenceClass now
    ((evictIfFull tuning entries leased).insert key entry, outcome)

def observePositiveIn (source : EvidenceSource) (evidenceClass : Option String) (now : Nat) :
    Entries × PositiveOutcome :=
  match entries.lookup key with
  | some existing =>
    match existing.verdict with
    | .negative => (entries, .suppressedByNegative)
    | .verified =>
      (entries.insert key
        { existing with observations := saturatingSucc existing.observations, lastSeen := now },
       .recorded)
  | none =>
    ((evictIfFull tuning entries leased).insert key (freshPositive source evidenceClass now),
     .recorded)

def actingNegativeForIn (now : Nat) : Entries × RoutingDecision :=
  match entries.lookup key with
  | none => (entries, .allow)
  | some entry =>
    if !entry.isActing then (entries, .allow)
    else if entry.actingDecision = .allow then (entries, .allow)
    else if !entry.isExpired now || entry.inFlight then (entries, entry.actingDecision)
    else (entries.insert key { entry with inFlight := true }, .probeAdmitted)

def negativeStateIn (now : Nat) : NegativeState :=
  match entries.lookup key with
  | none => .absent
  | some entry =>
    if entry.verdict ≠ .negative || !entry.isActing then .absent
    else if entry.isExpired now then .lapsed
    else .acting

def isVerifiedWorkingIn : Bool :=
  match entries.lookup key with
  | none => false
  | some entry => entry.verdict = .verified && entry.isActing

def recordProbeOutcomeIn (hasher : RegistryKey → Nat → Nat) (outcome : ProbeOutcome) (now : Nat) :
    Entries :=
  match outcome with
  | .success => entries.erase key
  | .sameCapabilityRejection =>
    KeyedMap.modify key (refusedProbe tuning hasher key now) entries
  | .otherError => KeyedMap.modify key (fun entry => { entry with inFlight := false }) entries

def expireKeyedIn (now : Nat) : Entries × Bool :=
  (KeyedMap.modify key (fun entry => { entry with expiresAt := now, inFlight := false }) entries,
   (entries.lookup key).isSome)

def removeKeyedIn : Entries × Bool := (entries.erase key, (entries.lookup key).isSome)

end Bodies

section Slots
variable (tuning : RegistryTuning)

/-- An observation, seen from the slot it lands in. -/
def observeSlot (slot : Option LearnedEntry) (tier : SignalTier) (phase : FailurePhase)
    (source : EvidenceSource) (evidenceClass : Option String) (now : Nat) :
    LearnedEntry × ObserveOutcome :=
  match slot with
  | none => freshEntry tuning tier phase source evidenceClass now
  | some existing =>
    match existing.verdict, tier with
    | .negative, _ => observeExisting tuning existing tier now
    | .verified, .selfIdentifying => freshEntry tuning tier phase source evidenceClass now
    | .verified, .inferred => (existing, .pending)

def positiveSlot (slot : Option LearnedEntry) (source : EvidenceSource)
    (evidenceClass : Option String) (now : Nat) : LearnedEntry :=
  match slot with
  | none => freshPositive source evidenceClass now
  | some existing =>
    match existing.verdict with
    | .negative => existing
    | .verified =>
      { existing with observations := saturatingSucc existing.observations, lastSeen := now }

section Sides
variable {tuning : RegistryTuning} {existing : LearnedEntry}

theorem observeSlot_negative (negative : existing.verdict = .negative) (tier : SignalTier)
    (phase : FailurePhase) (source : EvidenceSource) (evidenceClass : Option String) (now : Nat) :
    observeSlot tuning (some existing) tier phase source evidenceClass now =
      observeExisting tuning existing tier now := by
  simp [observeSlot, negative]

/-- Only a self-identifying failure supersedes the verified side. -/
theorem observeSlot_verified (verified : existing.verdict = .verified) (tier : SignalTier)
    (phase : FailurePhase) (source : EvidenceSource) (evidenceClass : Option String) (now : Nat) :
    observeSlot tuning (some existing) tier phase source evidenceClass now =
      match tier with
      | .selfIdentifying => freshEntry tuning tier phase source evidenceClass now
      | .inferred => (existing, .pending) := by
  cases tier <;> simp [observeSlot, verified]

theorem positiveSlot_negative (negative : existing.verdict = .negative) (source : EvidenceSource)
    (evidenceClass : Option String) (now : Nat) :
    positiveSlot (some existing) source evidenceClass now = existing := by
  simp [positiveSlot, negative]

theorem positiveSlot_verified (verified : existing.verdict = .verified) (source : EvidenceSource)
    (evidenceClass : Option String) (now : Nat) :
    positiveSlot (some existing) source evidenceClass now =
      { existing with observations := saturatingSucc existing.observations, lastSeen := now } := by
  simp [positiveSlot, verified]

end Sides

/-- A lapsed, unclaimed negative that routes away is due for its re-probe. -/
def LearnedEntry.probeDue (entry : LearnedEntry) (now : Nat) : Bool :=
  entry.isActing && entry.actingDecision ≠ .allow && entry.isExpired now && !entry.inFlight

def claimSlot (slot : Option LearnedEntry) (now : Nat) : Option LearnedEntry :=
  slot.map fun entry => if entry.probeDue now then { entry with inFlight := true } else entry

def settleSlot (hasher : RegistryKey → Nat → Nat) (key : RegistryKey) (slot : Option LearnedEntry)
    (outcome : ProbeOutcome) (now : Nat) : Option LearnedEntry :=
  match outcome with
  | .success => none
  | .sameCapabilityRejection => slot.map (refusedProbe tuning hasher key now)
  | .otherError => slot.map fun entry => { entry with inFlight := false }

end Slots

/-- Outside `key`, an operation may drop an unleased entry and nothing else. -/
def Frame (leased : Leases) (key : RegistryKey) (before after : Entries) : Prop :=
  ∀ other, other ≠ key → after.lookup other = before.lookup other ∨
    (after.lookup other = none ∧ other ∉ leased)

theorem Frame.refl (leased : Leases) (key : RegistryKey) (entries : Entries) :
    Frame leased key entries entries := fun _ _ => .inl rfl

theorem Frame.insert {leased : Leases} {key : RegistryKey} {before after : Entries}
    (frame : Frame leased key before after) (entry : LearnedEntry) :
    Frame leased key before (after.insert key entry) := by
  intro other different
  rw [AList.lookup_insert_ne different]
  exact frame other different

theorem Frame.erase (leased : Leases) (key : RegistryKey) (entries : Entries) :
    Frame leased key entries (entries.erase key) :=
  fun _ different => .inl (AList.lookup_erase_ne different)

theorem Frame.modify (leased : Leases) (key : RegistryKey)
    (change : LearnedEntry → LearnedEntry) (entries : Entries) :
    Frame leased key entries (KeyedMap.modify key change entries) :=
  fun _ different => .inl (KeyedMap.lookup_modify_ne different change entries)

theorem Frame.evictIfFull (tuning : RegistryTuning) (leased : Leases) (key : RegistryKey)
    (entries : Entries) : Frame leased key entries (evictIfFull tuning entries leased) := by
  intro other _
  rcases KeyedMap.lookup_evictOldest tuning.maxEntries (fun key => key ∉ leased)
    LearnedEntry.lastSeen entries other with kept | ⟨gone, eligible⟩
  · exact .inl kept
  · exact .inr ⟨gone, of_decide_eq_true eligible⟩

section Specifications
variable {tuning : RegistryTuning} {entries : Entries} {leased : Leases} {key : RegistryKey}

theorem observeIn_spec (tier : SignalTier) (phase : FailurePhase) (source : EvidenceSource)
    (evidence : Option String) (now : Nat) :
    (observeIn tuning entries leased key tier phase source evidence now).1.lookup key =
        some (observeSlot tuning (entries.lookup key) tier phase source evidence now).1 ∧
      (observeIn tuning entries leased key tier phase source evidence now).2 =
        (observeSlot tuning (entries.lookup key) tier phase source evidence now).2 ∧
      Frame leased key entries
        (observeIn tuning entries leased key tier phase source evidence now).1 := by
  unfold observeIn observeSlot
  cases found : entries.lookup key with
  | none =>
    exact ⟨AList.lookup_insert _, rfl, (Frame.evictIfFull tuning leased key entries).insert _⟩
  | some existing =>
    cases side : existing.verdict with
    | negative => simp [side, (Frame.refl leased key entries).insert]
    | verified =>
      cases tier with
      | selfIdentifying => simp [side, (Frame.refl leased key entries).insert]
      | inferred => simp [side, found, Frame.refl]

theorem observePositiveIn_spec (source : EvidenceSource) (evidence : Option String) (now : Nat) :
    (observePositiveIn tuning entries leased key source evidence now).1.lookup key =
        some (positiveSlot (entries.lookup key) source evidence now) ∧
      Frame leased key entries
        (observePositiveIn tuning entries leased key source evidence now).1 := by
  unfold observePositiveIn positiveSlot
  cases found : entries.lookup key with
  | none =>
    exact ⟨AList.lookup_insert _, (Frame.evictIfFull tuning leased key entries).insert _⟩
  | some existing =>
    cases side : existing.verdict with
    | negative => simp [side, found, Frame.refl]
    | verified => simp [side, (Frame.refl leased key entries).insert]

theorem actingNegativeForIn_spec (entries : Entries) (leased : Leases) (key : RegistryKey)
    (now : Nat) :
    (actingNegativeForIn entries key now).1.lookup key = claimSlot (entries.lookup key) now ∧
      ((actingNegativeForIn entries key now).2 = .probeAdmitted ↔
        ∃ entry, entries.lookup key = some entry ∧ entry.probeDue now = true) ∧
      Frame leased key entries (actingNegativeForIn entries key now).1 := by
  unfold actingNegativeForIn claimSlot
  cases found : entries.lookup key with
  | none => simp [found, Frame.refl]
  | some entry =>
    dsimp only
    split
    · simp_all [LearnedEntry.probeDue, Frame.refl]
    · split
      · simp_all [LearnedEntry.probeDue, Frame.refl]
      · split
        · rename_i unlapsed
          have undue : entry.probeDue now = false := by
            simp only [LearnedEntry.probeDue]
            cases expired : entry.isExpired now <;> simp_all
          simp [found, undue, Frame.refl, entry.actingDecision_ne_probeAdmitted]
        · have due : entry.probeDue now = true := by simp_all [LearnedEntry.probeDue]
          simp [due, (Frame.refl leased key entries).insert]

theorem recordProbeOutcomeIn_spec (leased : Leases) (hasher : RegistryKey → Nat → Nat)
    (outcome : ProbeOutcome) (now : Nat) :
    (recordProbeOutcomeIn tuning entries key hasher outcome now).lookup key =
        settleSlot tuning hasher key (entries.lookup key) outcome now ∧
      Frame leased key entries (recordProbeOutcomeIn tuning entries key hasher outcome now) := by
  cases outcome with
  | success => exact ⟨AList.lookup_erase key entries, Frame.erase leased key entries⟩
  | sameCapabilityRejection =>
    exact ⟨KeyedMap.lookup_modify_self key _ entries, Frame.modify leased key _ entries⟩
  | otherError =>
    exact ⟨KeyedMap.lookup_modify_self key _ entries, Frame.modify leased key _ entries⟩

theorem actingNegativeForIn_others {other : RegistryKey} (different : other ≠ key) (now : Nat) :
    (actingNegativeForIn entries key now).1.lookup other = entries.lookup other := by
  unfold actingNegativeForIn
  split
  · rfl
  · split
    · rfl
    · split
      · rfl
      · split
        · rfl
        · exact AList.lookup_insert_ne different

theorem recordProbeOutcomeIn_others {other : RegistryKey} (different : other ≠ key)
    (hasher : RegistryKey → Nat → Nat) (outcome : ProbeOutcome) (now : Nat) :
    (recordProbeOutcomeIn tuning entries key hasher outcome now).lookup other =
      entries.lookup other := by
  cases outcome with
  | success => exact AList.lookup_erase_ne different
  | sameCapabilityRejection => exact KeyedMap.lookup_modify_ne different _ entries
  | otherError => exact KeyedMap.lookup_modify_ne different _ entries

end Specifications
end Routectl.Registry
