import Routectl.Ledger.Event
import Routectl.Registry.Incarnations

/-! The warm rebuild: a bounded slice of the ledger replayed through the live
admission calls, in append order. -/
namespace Routectl.Registry
open Routectl.Core Library

namespace LearnedCapabilityRegistry
variable (registry : LearnedCapabilityRegistry) (stateKey featureKeyRaw providerKind : String)

def observe (tier : SignalTier) (phase : FailurePhase) (source : EvidenceSource)
    (evidenceClass : Option String) (now : Nat) : LearnedCapabilityRegistry × ObserveOutcome :=
  let (entries, outcome) :=
    observeIn registry.tuning registry.entries registry.purgeLeases
      (makeKey stateKey featureKeyRaw providerKind) tier phase source evidenceClass now
  ({ registry with entries }, outcome)

def observePositive (source : EvidenceSource) (evidenceClass : Option String) (now : Nat) :
    LearnedCapabilityRegistry × PositiveOutcome :=
  let (entries, outcome) :=
    observePositiveIn registry.tuning registry.entries registry.purgeLeases
      (makeKey stateKey featureKeyRaw providerKind) source evidenceClass now
  ({ registry with entries }, outcome)

def removeKeyed : LearnedCapabilityRegistry × Bool :=
  let (entries, removed) :=
    removeKeyedIn registry.entries (makeKey stateKey featureKeyRaw providerKind)
  ({ registry with entries }, removed)

end LearnedCapabilityRegistry
end Routectl.Registry

namespace Routectl.Ledger
open Routectl.Core Library Registry

structure ReplayTombstone where
  rowid : Nat
  revision : Revision
deriving Repr, DecidableEq

/-- A ledger row in the registry's terms, its tokens still raw. -/
structure CapabilityEventRow where
  rowid : Nat
  observedAt : Nat
  verdict : String
  phase : Option String
  source : String
  tier : Option String
  evidenceClass : Option String
  capability : String
  stateKey : String
  providerKind : String
  revision : Revision
deriving Repr, DecidableEq

def CapabilityEventRow.key (row : CapabilityEventRow) : RegistryKey :=
  makeKey row.stateKey row.capability row.providerKind

/-- The replay boundary and every candidate row, in any order. -/
structure CapabilityLedgerReader where
  tombstone : Option ReplayTombstone
  readEvents : List CapabilityEventRow

/-- A persisted row as the reader maps it; the capability is already canonical,
so the provider kind is left empty. -/
def mapRow (event : CapabilityEvent) (rowid : Nat) : CapabilityEventRow :=
  { rowid, observedAt := event.ts, verdict := event.verdict, phase := some event.phase,
    source := event.source, tier := some event.tier, evidenceClass := event.evidenceClass,
    capability := event.capability, stateKey := event.laneKey, providerKind := "",
    revision := event.revision }

/-- Rows are numbered in append order from `first` on. -/
def ledgerRows (events : List CapabilityEvent) (first : Nat) : List CapabilityEventRow :=
  (events.zipIdx first).map fun numbered => mapRow numbered.1 numbered.2

/-- The tombstone of the highest rowid. -/
def latestTombstone (events : List CapabilityEvent) : Option ReplayTombstone :=
  ((events.zipIdx 1).filter fun numbered => numbered.1.verdict = "tombstone").getLast?.map
    fun numbered => { rowid := numbered.2, revision := numbered.1.revision }

def ledgerReader (events : List CapabilityEvent) : CapabilityLedgerReader :=
  { tombstone := latestTombstone events, readEvents := ledgerRows events 1 }

inductive ReplayDecision where
  | replay
  | skipBoundary
  | skipRevision
deriving Repr, DecidableEq

def shouldReplay (event : CapabilityEventRow) (tombstone : ReplayTombstone) : ReplayDecision :=
  if event.rowid ≤ tombstone.rowid then .skipBoundary
  else if event.revision ≠ tombstone.revision && capabilityKeyIsCatalogScoped event.capability then
    .skipRevision
  else .replay

structure CapabilityRebuildSummary where
  replayedVerified : Nat
  replayedNegative : Nat
  replayedCleared : Nat
  clearedNoop : Nat
  replayedProbe : Nat
  skippedUnknown : Nat
  skippedRevision : Nat
deriving Repr, DecidableEq

namespace CapabilityRebuildSummary

def zero : CapabilityRebuildSummary := ⟨0, 0, 0, 0, 0, 0, 0⟩

def skip (summary : CapabilityRebuildSummary) : CapabilityRebuildSummary :=
  { summary with skippedUnknown := summary.skippedUnknown + 1 }

/-- A by-source tally, alongside the by-verdict counter of the same row. -/
def bumpProbe (summary : CapabilityRebuildSummary) (source : EvidenceSource) :
    CapabilityRebuildSummary :=
  match source with
  | .probe => { summary with replayedProbe := summary.replayedProbe + 1 }
  | .live => summary

end CapabilityRebuildSummary

def evidenceClassRecognized (row : CapabilityEventRow) : Bool :=
  row.evidenceClass.any isKnownEvidenceClass

def parseTierPhase (row : CapabilityEventRow) : Option (SignalTier × FailurePhase) :=
  match row.tier.bind SignalTier.parse with
  | none => none
  | some tier =>
    match row.phase.bind FailurePhase.parse with
    | none => none
    | some phase => some (tier, phase)

abbrev Rebuilding := LearnedCapabilityRegistry × CapabilityRebuildSummary

def mintNegative (rebuilding : Rebuilding) (row : CapabilityEventRow) (tier : SignalTier)
    (phase : FailurePhase) (source : EvidenceSource) : Rebuilding :=
  let (registry, summary) := rebuilding
  ((registry.observe row.stateKey row.capability row.providerKind tier phase source
      row.evidenceClass row.observedAt).1,
    { summary with replayedNegative := summary.replayedNegative + 1 }.bumpProbe source)

/-- An unrecognized token skips its row. -/
def replayRow (rebuilding : Rebuilding) (row : CapabilityEventRow) : Rebuilding :=
  let (registry, summary) := rebuilding
  match EvidenceSource.parse row.source with
  | none => (registry, summary.skip)
  | some source =>
    if row.verdict = "verified" then
      if !evidenceClassRecognized row then (registry, summary.skip)
      else
        ((registry.observePositive row.stateKey row.capability row.providerKind source
            row.evidenceClass row.observedAt).1,
          { summary with replayedVerified := summary.replayedVerified + 1 }.bumpProbe source)
    else if row.verdict = "broken" then
      match parseTierPhase row with
      | none => (registry, summary.skip)
      | some (tier, phase) => mintNegative (registry, summary) row tier phase source
    else if row.verdict = "suspect" then
      if !evidenceClassRecognized row then (registry, summary.skip)
      else
        match parseTierPhase row with
        | none => (registry, summary.skip)
        | some (tier, phase) =>
          if phase ≠ .f3 then (registry, summary.skip)
          else mintNegative (registry, summary) row tier phase source
    else if row.verdict = "cleared" then
      let (after, removed) := registry.removeKeyed row.stateKey row.capability row.providerKind
      (after,
        (if removed then { summary with replayedCleared := summary.replayedCleared + 1 }
          else { summary with clearedNoop := summary.clearedNoop + 1 }).bumpProbe source)
    else (registry, summary.skip)

/-- A missing tombstone replays nothing; precedence is the rowid alone. -/
def rebuildCapabilitiesInto (reader : CapabilityLedgerReader)
    (registry : LearnedCapabilityRegistry) : Rebuilding :=
  match reader.tombstone with
  | none => (registry, .zero)
  | some tombstone =>
    let rows := reader.readEvents.filter fun row => shouldReplay row tombstone = .replay
    let evicted := reader.readEvents.countP fun row => shouldReplay row tombstone = .skipRevision
    (rows.mergeSort fun first second => first.rowid ≤ second.rowid).foldl replayRow
      (registry, { CapabilityRebuildSummary.zero with skippedRevision := evicted })

section Rebuilds
variable {registry : LearnedCapabilityRegistry}

theorem replayRow_numbered (numbered : registry.Numbered) (summary : CapabilityRebuildSummary)
    (row : CapabilityEventRow) : (replayRow (registry, summary) row).1.Numbered := by
  have minted (tier : SignalTier) (phase : FailurePhase) (source : EvidenceSource) :
      (mintNegative (registry, summary) row tier phase source).1.Numbered := by
    obtain ⟨slot, -, frame⟩ := @observeIn_spec registry.tuning registry.entries
      registry.purgeLeases row.key tier phase source row.evidenceClass row.observedAt
    have kept := numbered.replayed frame fun entry resident => by
      rw [slot] at resident
      obtain rfl := Option.some.inj resident
      exact observeSlot_numbered (numbered row.key) _ _ _ _ _
    exact kept
  have verified (source : EvidenceSource) :
      (registry.observePositive row.stateKey row.capability row.providerKind source
        row.evidenceClass row.observedAt).1.Numbered := by
    obtain ⟨slot, frame⟩ := @observePositiveIn_spec registry.tuning registry.entries
      registry.purgeLeases row.key source row.evidenceClass row.observedAt
    have kept := numbered.replayed frame fun entry resident => by
      rw [slot] at resident
      obtain rfl := Option.some.inj resident
      exact positiveSlot_numbered (numbered row.key) _ _ _
    exact kept
  have cleared : (registry.removeKeyed row.stateKey row.capability
      row.providerKind).1.Numbered := by
    have kept := numbered.replayed (Frame.erase _ row.key registry.entries) fun entry resident => by
      simp [AList.lookup_erase] at resident
    exact kept
  unfold replayRow
  dsimp only
  split
  · exact numbered
  · rename_i source parsed
    split
    · split
      · exact numbered
      · exact verified source
    · split
      · split
        · exact numbered
        · rename_i tier phase parsed
          exact minted tier phase source
      · split
        · split
          · exact numbered
          · split
            · exact numbered
            · rename_i tier phase parsed
              split
              · exact numbered
              · exact minted tier phase source
        · split
          · exact cleared
          · exact numbered

/-- A rebuild numbers no entry past the counter it found. -/
theorem rebuild_numbered (numbered : registry.Numbered) (reader : CapabilityLedgerReader) :
    (rebuildCapabilitiesInto reader registry).1.Numbered := by
  unfold rebuildCapabilitiesInto
  split
  · exact numbered
  · dsimp only
    generalize CapabilityRebuildSummary.mk _ _ _ _ _ _ _ = summary
    generalize List.mergeSort _ _ = rows
    induction rows generalizing registry summary with
    | nil => exact numbered
    | cons row rest ih => exact ih (replayRow_numbered numbered summary row) _

end Rebuilds
end Routectl.Ledger
