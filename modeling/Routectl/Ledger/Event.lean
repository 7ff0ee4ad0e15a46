import Routectl.Registry.Incarnations

/-! The capability-event ledger's rows, and the rows a request's drain writes for
what its dispatch learned, observed and cleared. -/
namespace Routectl.Ledger
open Routectl.Core Registry

/-- The catalog and overlay revision a row is written under. -/
structure Revision where
  catalogVersion : Nat
  overlayRevision : Nat
deriving Repr, DecidableEq

/-- `ts` is the instant the row's age maps back to. -/
structure CapabilityEvent where
  ts : Nat
  laneKey : String
  capability : String
  verdict : String
  phase : String
  source : String
  tier : String
  evidenceClass : Option String
  revision : Revision
deriving Repr, DecidableEq

namespace CapabilityEvent

def key (event : CapabilityEvent) : RegistryKey :=
  { stateKey := event.laneKey, featureKey := event.capability }

def tombstone (ts : Nat) (revision : Revision) : CapabilityEvent :=
  { ts, laneKey := "", capability := "", verdict := "tombstone", phase := "", source := "",
    tier := "", evidenceClass := none, revision }

end CapabilityEvent

/-- A negative that acts. Its capability key is already canonical. -/
structure CapabilityLearnEvent where
  persistenceGeneration : Nat
  incarnation : Nat
  stateKey : String
  capabilityKey : String
  providerKind : String
  signalTier : SignalTier
  observations : Nat
  phase : FailurePhase
  source : EvidenceSource
deriving Repr, DecidableEq

section Drain
variable (ts : Nat) (revision : Revision)

def learnedRow (event : CapabilityLearnEvent) : CapabilityEvent :=
  { ts, laneKey := event.stateKey, capability := event.capabilityKey,
    verdict := (Verdict.learnedBroken event.phase).asStr, phase := event.phase.asStr,
    source := event.source.asStr, tier := event.signalTier.asStr, evidenceClass := none, revision }

def clearedRow (event : CapabilityClearedEvent) : CapabilityEvent :=
  { ts, laneKey := event.stateKey, capability := event.capabilityKey,
    verdict := Verdict.cleared.asStr, phase := "", source := EvidenceSource.live.asStr, tier := "",
    evidenceClass := none, revision }

end Drain
end Routectl.Ledger
