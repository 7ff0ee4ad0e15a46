import Routectl.Core.Capability
import Routectl.Library.KeyedMap

/-! One resident entry of the learned-capability registry and the state machine
a single observation drives. Instants and durations are nanoseconds. -/
namespace Routectl.Registry
open Routectl.Core Library

def u32Max : Nat := 2 ^ 32 - 1
def u64Max : Nat := 2 ^ 64 - 1

/-- `u32::saturating_add(1)`. -/
def saturatingSucc (count : Nat) : Nat := min (count + 1) u32Max

/-- `u64::checked_add(1)`. -/
def checkedSucc (count : Nat) : Option Nat := if count < u64Max then some (count + 1) else none

theorem checkedSucc_eq_some {count next : Nat} :
    checkedSucc count = some next ↔ count < u64Max ∧ next = count + 1 := by
  unfold checkedSucc
  split <;> simp_all [eq_comm]

theorem checkedSucc_eq_none {count : Nat} : checkedSucc count = none ↔ u64Max ≤ count := by
  simp [checkedSucc]

structure RegistryKey where
  stateKey : String
  featureKey : String
deriving Repr, DecidableEq

inductive EntryVerdict where
  | verified
  | negative
deriving Repr, DecidableEq

inductive RoutingDecision where
  | allow
  | routeAway (signal : SignalTier) (phase : FailurePhase)
  | probeAdmitted
deriving Repr, DecidableEq

inductive ObserveOutcome where
  | pending
  | acting
deriving Repr, DecidableEq

inductive PositiveOutcome where
  | recorded
  | suppressedByNegative
deriving Repr, DecidableEq

inductive NegativeState where
  | absent
  | acting
  | lapsed
deriving Repr, DecidableEq

inductive ProbeOutcome where
  | success
  | sameCapabilityRejection
  | otherError
deriving Repr, DecidableEq

structure LearnedEntry where
  incarnation : Nat
  verdict : EntryVerdict
  signal : SignalTier
  observations : Nat
  firstSeen : Nat
  lastSeen : Nat
  expiresAt : Nat
  inFlight : Bool
  consecutiveFailedProbes : Nat
  phase : FailurePhase
  source : EvidenceSource
  evidenceClass : Option String
deriving Repr, DecidableEq

namespace LearnedEntry

def isActing (entry : LearnedEntry) : Bool :=
  entry.signal = .selfIdentifying || 2 ≤ entry.observations

def isExpired (entry : LearnedEntry) (now : Nat) : Bool :=
  entry.verdict = .negative && entry.expiresAt ≤ now

def actingDecision (entry : LearnedEntry) : RoutingDecision :=
  match entry.verdict with
  | .verified => .allow
  | .negative =>
    match entry.phase, entry.source with
    | .f3, .live => .allow
    | _, _ => .routeAway entry.signal entry.phase

def readVerdict (entry : LearnedEntry) : Verdict :=
  match entry.verdict with
  | .verified => .verifiedWorking
  | .negative => .learnedBroken entry.phase

theorem actingDecision_ne_probeAdmitted (entry : LearnedEntry) :
    entry.actingDecision ≠ .probeAdmitted := by
  unfold actingDecision
  split
  · simp
  · split <;> simp

end LearnedEntry

/-- Hot-reloadable tempo and capacity. -/
structure RegistryTuning where
  decay : Nat
  inferredWindow : Nat
  maxEntries : Nat
deriving Repr, DecidableEq

def freshEntry (tuning : RegistryTuning) (tier : SignalTier) (phase : FailurePhase)
    (source : EvidenceSource) (evidenceClass : Option String) (now : Nat) :
    LearnedEntry × ObserveOutcome :=
  let (expiresAt, outcome) :=
    match tier with
    | .selfIdentifying => (now + tuning.decay, ObserveOutcome.acting)
    | .inferred => (now, ObserveOutcome.pending)
  ({ incarnation := 0, verdict := .negative, signal := tier, observations := 1, firstSeen := now,
     lastSeen := now, expiresAt, inFlight := false, consecutiveFailedProbes := 0, phase, source,
     evidenceClass }, outcome)

def freshPositive (source : EvidenceSource) (evidenceClass : Option String) (now : Nat) :
    LearnedEntry :=
  { incarnation := 0, verdict := .verified, signal := .selfIdentifying, observations := 1,
    firstSeen := now, lastSeen := now, expiresAt := now, inFlight := false,
    consecutiveFailedProbes := 0, phase := .f3, source, evidenceClass }

def observeExisting (tuning : RegistryTuning) (entry : LearnedEntry) (tier : SignalTier)
    (now : Nat) : LearnedEntry × ObserveOutcome :=
  if entry.isActing then
    let refreshed :=
      { entry with
        observations := saturatingSucc entry.observations, lastSeen := now,
        expiresAt := now + tuning.decay }
    match tier with
    | .selfIdentifying =>
      ({ refreshed with signal := .selfIdentifying, consecutiveFailedProbes := 0 }, .acting)
    | .inferred => (refreshed, .acting)
  else
    match tier with
    | .selfIdentifying =>
      ({ entry with
         signal := .selfIdentifying, observations := saturatingSucc entry.observations,
         lastSeen := now, expiresAt := now + tuning.decay, consecutiveFailedProbes := 0 },
       .acting)
    | .inferred =>
      if now - entry.firstSeen ≤ tuning.inferredWindow then
        ({ entry with observations := 2, lastSeen := now, expiresAt := now + tuning.decay }, .acting)
      else
        ({ entry with observations := 1, firstSeen := now, lastSeen := now, expiresAt := now },
         .pending)

section Observed
variable {tuning : RegistryTuning} {entry : LearnedEntry} {tier : SignalTier} {now : Nat}

theorem freshEntry_inFlight (phase : FailurePhase) (source : EvidenceSource)
    (evidence : Option String) :
    (freshEntry tuning tier phase source evidence now).1.inFlight = false := by
  cases tier <;> rfl

theorem observeExisting_inFlight :
    (observeExisting tuning entry tier now).1.inFlight = entry.inFlight := by
  unfold observeExisting
  split
  · cases tier <;> rfl
  · cases tier with
    | selfIdentifying => rfl
    | inferred => dsimp only; split <;> rfl

theorem observeExisting_verdict :
    (observeExisting tuning entry tier now).1.verdict = entry.verdict := by
  unfold observeExisting
  split
  · cases tier <;> rfl
  · cases tier with
    | selfIdentifying => rfl
    | inferred => dsimp only; split <;> rfl

/-- Inside the window a second inferred observation makes a pending entry act. -/
theorem observeExisting_corroborates (pending : entry.isActing = false)
    (inside : now - entry.firstSeen ≤ tuning.inferredWindow) :
    observeExisting tuning entry .inferred now =
      ({ entry with observations := 2, lastSeen := now, expiresAt := now + tuning.decay },
       .acting) := by
  simp only [observeExisting, pending, if_pos inside, Bool.false_eq_true, if_false]

theorem observeExisting_resets (pending : entry.isActing = false)
    (outside : ¬now - entry.firstSeen ≤ tuning.inferredWindow) :
    observeExisting tuning entry .inferred now =
      ({ entry with observations := 1, firstSeen := now, lastSeen := now, expiresAt := now },
       .pending) := by
  simp only [observeExisting, pending, if_neg outside, Bool.false_eq_true, if_false]

/-- An observation reports acting exactly when the entry it leaves acts. -/
theorem observeExisting_acting_iff :
    (observeExisting tuning entry tier now).2 = .acting ↔
      (observeExisting tuning entry tier now).1.isActing = true := by
  unfold observeExisting
  split
  · rename_i acting
    cases tier with
    | selfIdentifying => simp [LearnedEntry.isActing]
    | inferred =>
      simp only [LearnedEntry.isActing, Bool.or_eq_true, decide_eq_true_eq, true_iff] at acting ⊢
      have counted : 2 ≤ entry.observations → 2 ≤ saturatingSucc entry.observations := by
        simp only [saturatingSucc, u32Max]
        omega
      exact acting.imp_right counted
  · rename_i pending
    cases tier with
    | selfIdentifying => simp [LearnedEntry.isActing]
    | inferred =>
      dsimp only
      split
      · simp [LearnedEntry.isActing]
      · simp_all [LearnedEntry.isActing]

theorem freshEntry_acting_iff (phase : FailurePhase) (source : EvidenceSource)
    (evidence : Option String) :
    (freshEntry tuning tier phase source evidence now).2 = .acting ↔
      (freshEntry tuning tier phase source evidence now).1.isActing = true := by
  cases tier <;> simp [freshEntry, LearnedEntry.isActing]

end Observed

def maxBackoffMultiple : Nat := 30
def jitterDivisor : Nat := 8

section Backoff
variable (hasher : RegistryKey → Nat → Nat)

/-- `hasher` stands for the standard library's keyed hash of the pair. -/
def jitterOffset (key : RegistryKey) (consecutiveFailedProbes : Nat) (span : Nat) : Int :=
  ((hasher key consecutiveFailedProbes % (2 * span + 1) : Nat) : Int) - span

def backoffWindow (tuning : RegistryTuning) (key : RegistryKey) (consecutiveFailedProbes : Nat) :
    Nat :=
  let multiple := min (2 ^ consecutiveFailedProbes) maxBackoffMultiple
  let base := tuning.decay * multiple
  let span := tuning.decay / jitterDivisor
  let jitter : Int := if span = 0 then 0 else jitterOffset hasher key consecutiveFailedProbes span
  min (base + jitter).toNat u64Max

end Backoff
end Routectl.Registry
