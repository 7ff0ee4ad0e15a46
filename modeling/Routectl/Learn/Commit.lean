import Routectl.Ledger.Event
import Routectl.Registry.ProbeGuard

/-! Committing one resolved upstream rejection: the mint gates, the re-probe it
may settle, and the event a negative that acts rides out on. -/
namespace Routectl.Learn
open Routectl.Core Registry Ledger

inductive FailureClass where
  | rateLimited
  | auth
  | badRequest
  | contentPolicy
  | contextWindow
  | serverError
  | timeout
  | networkError
  | overloaded
  | featureUnsupported (capability : String)
  | unknown
deriving Repr, DecidableEq

def f2ClassIsDeterministic : FailureClass → Bool
  | .badRequest | .featureUnsupported _ => true
  | _ => false

def f2EvidenceIsMintable (tier : SignalTier) (failure : FailureClass) : Bool :=
  tier = .selfIdentifying && f2ClassIsDeterministic failure

def operatorRemapCapability : String := "operator-remap"

/-- One request's memory of what it already reported. -/
inductive LearnDedupeKey where
  | capability (stateKey featureKey : String)
  | f1Seen (featureKey : String)
  | f2Suppressed (featureKey : String)
deriving Repr, DecidableEq

abbrev LearnDedupe := Finset LearnDedupeKey

/-- A rejection the resolver attributed to a capability, already in its canonical
act-side form; `masked` tells whether an override forces it supported. -/
structure Rejection where
  featureKey : String
  tier : SignalTier
  phase : FailurePhase
  failure : FailureClass
  stateKey : String
  providerKind : String
  requestFeatures : List String
  masked : Bool
  canonical : normalizeCapabilityKey featureKey providerKind = featureKey

namespace Rejection

def key (rejection : Rejection) : RegistryKey := ⟨rejection.stateKey, rejection.featureKey⟩

def reported (rejection : Rejection) : LearnDedupeKey :=
  .capability rejection.stateKey rejection.featureKey

@[simp] theorem makeKey_eq (rejection : Rejection) :
    makeKey rejection.stateKey rejection.featureKey rejection.providerKind = rejection.key := by
  simp [makeKey, key, rejection.canonical]

end Rejection

/-- The phase of the resident negative a re-probe reconfirmed. -/
def settledNegativePhase (registry : LearnedCapabilityRegistry) (stateKey featureKey : String) :
    Option FailurePhase :=
  (registry.entries.lookup ⟨stateKey, featureKey⟩).map LearnedEntry.phase

/-- The half after the settlement: F2 gates, dedupe, observation, event. A refused
observation takes its dedupe key back. -/
def mintLearned (registry : LearnedCapabilityRegistry) (generation : Nat) (rejection : Rejection)
    (dedupe : LearnDedupe) (now : Nat) :
    LearnedCapabilityRegistry × LearnDedupe × Option CapabilityLearnEvent :=
  if rejection.phase = .f2 && !f2EvidenceIsMintable rejection.tier rejection.failure then
    (registry, dedupe, none)
  else if rejection.phase = .f2 && .f1Seen rejection.featureKey ∈ dedupe then
    (registry, insert (.f2Suppressed rejection.featureKey) dedupe, none)
  else if rejection.reported ∈ dedupe then (registry, dedupe, none)
  else
    let inserted := insert rejection.reported dedupe
    match registry.observeInGenerationWithObservations generation rejection.stateKey
        rejection.featureKey rejection.providerKind rejection.tier rejection.phase .live none now with
    | (after, .applied (outcome, observations) incarnation persistenceGeneration) =>
      (after,
       if outcome = .acting && rejection.phase = .f1 then
         insert (.f1Seen rejection.featureKey) inserted
       else inserted,
       if outcome = .acting then
         some { persistenceGeneration, incarnation, stateKey := rejection.stateKey,
                capabilityKey := rejection.featureKey, providerKind := rejection.providerKind,
                signalTier := rejection.tier, observations, phase := rejection.phase,
                source := .live }
       else none)
    | (after, _) => (after, inserted.erase rejection.reported, none)

def commitLearnedObservation (hasher : RegistryKey → Nat → Nat)
    (registry : LearnedCapabilityRegistry) (generation : Nat) (rejection : Rejection)
    (dedupe : LearnDedupe) (guard : LearnedProbeGuard) (now : Nat) :
    LearnedCapabilityRegistry × LearnDedupe × LearnedProbeGuard × Option CapabilityLearnEvent :=
  if rejection.featureKey = operatorRemapCapability then (registry, dedupe, guard, none)
  else if !rejection.requestFeatures.contains rejection.featureKey then
    (registry, dedupe, guard, none)
  else if rejection.masked then (registry, insert rejection.reported dedupe, guard, none)
  else
    match guard.settleSameCapability hasher registry rejection.stateKey rejection.featureKey
        rejection.providerKind now with
    | (settled, held, .stale) => (settled, dedupe, held, none)
    | (settled, held, .applied) =>
      let seen :=
        if settledNegativePhase settled rejection.stateKey rejection.featureKey = some .f1 then
          insert (.f1Seen rejection.featureKey) dedupe
        else dedupe
      (settled, insert rejection.reported seen, held, none)
    | (unsettled, held, .noMatch) =>
      let (after, reported, event) := mintLearned unsettled generation rejection dedupe now
      (after, reported, held, event)

/-- What a rejection comes to, before the registry is asked. -/
inductive Disposition where
  | dropped
  | settles (admission : ProbeAdmission)
  | observes

def mints (rejection : Rejection) (dedupe : LearnDedupe) : Bool :=
  !(rejection.phase = .f2 && !f2EvidenceIsMintable rejection.tier rejection.failure) &&
    !(rejection.phase = .f2 && .f1Seen rejection.featureKey ∈ dedupe) &&
    rejection.reported ∉ dedupe

def disposition (rejection : Rejection) (dedupe : LearnDedupe) (guard : LearnedProbeGuard) :
    Disposition :=
  if rejection.featureKey = operatorRemapCapability then .dropped
  else if !rejection.requestFeatures.contains rejection.featureKey then .dropped
  else if rejection.masked then .dropped
  else
    match guard.matching rejection.stateKey rejection.featureKey rejection.providerKind with
    | some admission => .settles admission
    | none => if mints rejection dedupe then .observes else .dropped

section Specification
variable (hasher : RegistryKey → Nat → Nat) (registry : LearnedCapabilityRegistry)
  (generation : Nat) (rejection : Rejection) (now : Nat)

def observeRejection : LearnedCapabilityRegistry × GenerationOutcome (ObserveOutcome × Nat) :=
  registry.observeInGenerationWithObservations generation rejection.stateKey rejection.featureKey
    rejection.providerKind rejection.tier rejection.phase .live none now

/-- The body of that observation, on the canonical key. -/
def observeBody (entries : Entries) (leased : Leases) : Entries × (ObserveOutcome × Nat) :=
  let (after, outcome) :=
    observeIn registry.tuning entries leased rejection.key rejection.tier rejection.phase .live none now
  let observations :=
    match after.lookup rejection.key with
    | none => 0
    | some entry => entry.observations
  (after, outcome, observations)

theorem observeRejection_eq : observeRejection registry generation rejection now =
    registry.guardedKeyed generation rejection.key .mutate rejection.featureKey
      (observeBody registry rejection now) := by
  unfold observeRejection LearnedCapabilityRegistry.observeInGenerationWithObservations
    LearnedCapabilityRegistry.guardedFor
  rw [rejection.makeKey_eq]
  rfl

/-- The event of an accepted observation: one exactly when the entry acts. -/
def mintedEvent : GenerationOutcome (ObserveOutcome × Nat) → Option CapabilityLearnEvent
  | .applied (.acting, observations) incarnation persistenceGeneration =>
    some { persistenceGeneration, incarnation, stateKey := rejection.stateKey,
           capabilityKey := rejection.featureKey, providerKind := rejection.providerKind,
           signalTier := rejection.tier, observations, phase := rejection.phase, source := .live }
  | _ => none

/-- What each disposition does to the registry, and the event it emits. -/
def Disposition.effect : Disposition → LearnedCapabilityRegistry × Option CapabilityLearnEvent
  | .dropped => (registry, none)
  | .settles admission =>
    ((settleAdmission hasher registry admission .sameCapabilityRejection now).1, none)
  | .observes =>
    ((observeRejection registry generation rejection now).1,
     mintedEvent rejection (observeRejection registry generation rejection now).2)

variable {hasher registry generation rejection now} {dedupe : LearnDedupe}
  {guard : LearnedProbeGuard}

theorem mintLearned_effect :
    ((mintLearned registry generation rejection dedupe now).1,
      (mintLearned registry generation rejection dedupe now).2.2) =
    (if mints rejection dedupe then Disposition.observes else .dropped).effect hasher registry
      generation rejection now := by
  unfold mintLearned mints
  split
  · rename_i unmintable
    simp [unmintable, Disposition.effect]
  · rename_i mintable
    split
    · rename_i suppressed
      simp [suppressed, Disposition.effect]
    · rename_i unsuppressed
      split
      · rename_i reported
        simp [reported, Disposition.effect]
      · rename_i unreported
        rw [Bool.not_eq_true] at mintable unsuppressed
        simp only [mintable, unsuppressed, unreported, Bool.not_false, Bool.true_and,
          not_false_eq_true, decide_true, if_true, Disposition.effect, observeRejection]
        split
        · rename_i after outcome observations incarnation granted observed
          rw [observed]
          cases outcome with
          | pending => rfl
          | acting => rfl
        · rename_i after refusal refused observed
          rw [observed]
          cases refusal with
          | applied value incarnation granted => exact absurd rfl (refused value.1 value.2 _ _)
          | stale => rfl
          | exhausted => rfl
          | reserved => rfl

/-- Every rejection is dropped, settles one re-probe, or makes one observation. -/
theorem commitLearnedObservation_effect :
    ((commitLearnedObservation hasher registry generation rejection dedupe guard now).1,
      (commitLearnedObservation hasher registry generation rejection dedupe guard now).2.2.2) =
    (disposition rejection dedupe guard).effect hasher registry generation rejection now := by
  unfold disposition commitLearnedObservation
  by_cases remapped : rejection.featureKey = operatorRemapCapability
  · simp only [if_pos remapped, Disposition.effect]
  · by_cases absent : (!rejection.requestFeatures.contains rejection.featureKey) = true
    · simp only [if_neg remapped, if_pos absent, Disposition.effect]
    · by_cases masked : rejection.masked = true
      · simp only [if_neg remapped, if_neg absent, if_pos masked, Disposition.effect]
      · simp only [if_neg remapped, if_neg absent, if_neg masked]
        cases matched : guard.matching rejection.stateKey rejection.featureKey
            rejection.providerKind with
        | some admission =>
          obtain ⟨settled, counted⟩ :=
            LearnedProbeGuard.settleSameCapability_some hasher matched registry now
          dsimp only [Disposition.effect]
          rw [← settled]
          split
          · rename_i after held same
            rw [same]
          · rename_i after held same
            rw [same]
          · rename_i after held same
            rw [same] at counted
            exact absurd rfl counted
        | none =>
          rw [LearnedProbeGuard.settleSameCapability_none hasher matched registry now]
          exact mintLearned_effect

end Specification
end Routectl.Learn
