import Routectl.Canary.Canaries
import Routectl.Ledger.Rebuild

/-! Pre-flight authorization: two stores under locks of their own, read at three
instants, and the one instant its answer describes. -/
namespace Routectl.Canary
open Routectl.Core Library Registry Ledger

def minimumConfirmations : Nat := 1

inductive CanaryPosture where
  | counting
  | due
  | inFlight
deriving Repr, DecidableEq

def canaryPosture : Option CanaryState → CanaryPosture
  | some entry => if entry.canaryClaimed then .inFlight else if entry.due then .due else .counting
  | none => .counting

structure PreflightAuthorization where
  incarnation : Nat
  confirmations : Nat
  phase : FailurePhase
  source : EvidenceSource
  canary : CanaryPosture
  canaryLastOutcome : Option CanaryOutcome
deriving Repr, DecidableEq

/-- The learned registry and the canary registry, each behind its own lock. -/
structure Stores where
  world : World
  canaries : Canaries

inductive StoreAction where
  | learned (action : Action)
  | canary (action : CanaryAction)

namespace Stores

/-- A process as it boots: the ledger replayed into a fresh registry, any canary state. -/
def booted (reader : CapabilityLedgerReader) (decay inferredWindow maxEntries : Nat)
    (canaries : Canaries) : Stores :=
  let world := World.initial decay inferredWindow maxEntries
  { world := { world with registry := (rebuildCapabilitiesInto reader world.registry).1 }, canaries }

def step (hasher : RegistryKey → Nat → Nat) (stores : Stores) : StoreAction → Option Stores
  | .learned action => (stores.world.step hasher action).map fun world => { stores with world }
  | .canary action => (stores.canaries.step action).map fun canaries => { stores with canaries }

def machine (hasher : RegistryKey → Nat → Nat) : Machine Stores StoreAction := ⟨step hasher⟩

def actingFacts (stores : Stores) (key : FieldVerdictKey) (generation now : Nat) :
    Option FieldActingFacts :=
  (stores.world.registry.fieldActingFactsInGeneration generation key.stateKey key.capabilityKey
    key.providerKind now).2

end Stores

/-- The three reads of one call, each under its own acquisition: the acting facts at
`first`, the canary snapshot at `second`, the acting facts again at `third`. -/
def preflightAuthorization (key : FieldVerdictKey) (generation now : Nat)
    (first second third : Stores) : Option PreflightAuthorization :=
  match first.actingFacts key generation now with
  | none => none
  | some before =>
    match second.canaries.registry.snapshot key with
    | none => none
    | some snapshot =>
      if snapshot.preflightSuspended then none
      else if snapshot.incarnation ≠ before.incarnation ||
          snapshot.confirmations < minimumConfirmations then none
      else if third.actingFacts key generation now = some before then
        some
          { incarnation := before.incarnation, confirmations := snapshot.confirmations,
            phase := before.phase, source := before.source, canary := canaryPosture (some snapshot),
            canaryLastOutcome := snapshot.lastOutcome }
      else none

section Snapshots
variable {hasher : RegistryKey → Nat → Nat} {before after stores next : Stores}
  {key : FieldVerdictKey} {generation now : Nat} {facts : FieldActingFacts}

/-- A resident row that acts at `now`, with the facts read of it. -/
def Stores.ActsAs (stores : Stores) (key : FieldVerdictKey) (now : Nat) (facts : FieldActingFacts) :
    Prop :=
  ∃ entry,
    stores.world.registry.entries.lookup
        (makeKey key.stateKey key.capabilityKey key.providerKind) = some entry ∧
      entry.verdict = .negative ∧ entry.isActing = true ∧ entry.isExpired now = false ∧
      facts = ⟨entry.incarnation, entry.phase, entry.source⟩

theorem actingFacts_acts (read : stores.actingFacts key generation now = some facts) :
    stores.ActsAs key now facts := by
  unfold Stores.actingFacts LearnedCapabilityRegistry.fieldActingFactsInGeneration at read
  dsimp only at read
  split at read
  · rename_i state seen incarnation granted outcome
    obtain rfl := Option.some.inj read
    unfold LearnedCapabilityRegistry.guardedRead LearnedCapabilityRegistry.guardedKeyed at outcome
    split at outcome
    · cases outcome
    · split at outcome
      · cases outcome
      · dsimp only at outcome
        obtain ⟨value, -, -⟩ := GenerationOutcome.applied.inj outcome
        obtain ⟨acting, seen⟩ := Prod.mk.inj value
        obtain ⟨entry, resident, rfl⟩ := Option.map_eq_some_iff.mp seen
        simp only [negativeStateIn, resident] at acting
        split at acting
        · cases acting
        · rename_i standing
          split at acting
          · cases acting
          · rename_i unexpired
            simp only [ne_eq, decide_not, Bool.or_eq_true, Bool.not_eq_true', decide_eq_false_iff_not,
              not_or, not_not, Bool.not_eq_false] at standing
            exact ⟨entry, resident, standing.1, standing.2, by simpa using unexpired, rfl⟩
  · cases read

theorem step_retained {action : StoreAction} (step : before.step hasher action = some after) :
    Retains before.world.registry after.world.registry := by
  cases action with
  | learned action =>
    obtain ⟨world, moved, rfl⟩ := Option.map_eq_some_iff.mp step
    exact World.step_retains moved
  | canary action =>
    obtain ⟨canaries, moved, rfl⟩ := Option.map_eq_some_iff.mp step
    exact .of_lookup rfl fun _ _ resident => resident

theorem run_continues {actions : List StoreAction}
    (reached : (Stores.machine hasher).run before actions = some after) :
    Continues before.world.registry after.world.registry := by
  have always : (Stores.machine hasher).Preserves fun _ => True := fun _ _ _ _ _ => trivial
  exact @Machine.Preserves.run_relates Stores StoreAction (Stores.machine hasher) _
    (fun first second => Continues first.world.registry second.world.registry) always
    (fun stores => Continues.refl stores.world.registry) (fun _ _ _ => Continues.trans)
    (fun _ _ _ _ step => (step_retained step).continues) _ _ _ trivial reached

theorem booted_numbered (reader : CapabilityLedgerReader)
    (decay inferredWindow maxEntries : Nat) (canaries : Canaries) :
    (Stores.booted reader decay inferredWindow maxEntries canaries).world.registry.Numbered :=
  rebuild_numbered (by
    intro key entry resident
    simp [World.initial, LearnedCapabilityRegistry.new] at resident) reader

/-- A row read acting after some instant, bearing a number taken before it, was there
and acting at that instant. -/
theorem acting_between {actions : List StoreAction}
    (onward : (Stores.machine hasher).run before actions = some after)
    (acts : after.ActsAs key now facts)
    (earlier : facts.incarnation ≤ before.world.registry.nextIncarnation) :
    before.ActsAs key now facts := by
  obtain ⟨entry, resident, negative, acting, unexpired, rfl⟩ := acts
  rcases (run_continues onward).slots _ entry resident with ⟨prior, held, same⟩ | newer
  · refine ⟨prior, held, ?_, ?_, ?_, ?_⟩
    · rw [same] at negative
      exact negative
    · rw [same] at acting
      exact acting
    · rw [same] at unexpired
      exact unexpired
    · rw [same]
  · exact absurd earlier (Nat.not_le.mpr newer)

theorem preflightAuthorization_some {first second third : Stores}
    {authorization : PreflightAuthorization}
    (granted : preflightAuthorization key generation now first second third = some authorization) :
    ∃ before snapshot, first.actingFacts key generation now = some before ∧
      second.canaries.registry.snapshot key = some snapshot ∧
      third.actingFacts key generation now = some before ∧ snapshot.preflightSuspended = false ∧
      snapshot.incarnation = before.incarnation ∧ minimumConfirmations ≤ snapshot.confirmations ∧
      authorization =
        { incarnation := before.incarnation, confirmations := snapshot.confirmations,
          phase := before.phase, source := before.source, canary := canaryPosture (some snapshot),
          canaryLastOutcome := snapshot.lastOutcome } := by
  unfold preflightAuthorization at granted
  split at granted
  · cases granted
  · rename_i before read
    split at granted
    · cases granted
    · rename_i snapshot seen
      split at granted
      · cases granted
      · rename_i unsuspended
        split at granted
        · cases granted
        · rename_i confirmed
          split at granted
          · rename_i reread
            simp only [ne_eq, Bool.or_eq_true, decide_eq_true_eq, not_or, not_not,
              Nat.not_lt] at confirmed
            exact ⟨before, snapshot, read, seen, reread, by simpa using unsuspended, confirmed.1,
              confirmed.2, (Option.some.inj granted).symm⟩
          · cases granted

/-- An authorization describes the instant of its canary snapshot, whatever both stores
did between the reads: the row then stood and acted with the facts reported, and the
canary state of that incarnation held the confirmations reported, unsuspended. -/
theorem preflight_consistent_snapshot {reader : CapabilityLedgerReader}
    {decay inferredWindow maxEntries : Nat} {canaries : Canaries}
    {earlier between later : List StoreAction} {first second third : Stores}
    {authorization : PreflightAuthorization}
    (reached : (Stores.machine hasher).run
      (.booted reader decay inferredWindow maxEntries canaries) earlier = some first)
    (onward : (Stores.machine hasher).run first between = some second)
    (final : (Stores.machine hasher).run second later = some third)
    (granted : preflightAuthorization key generation now first second third = some authorization) :
    second.ActsAs key now
        ⟨authorization.incarnation, authorization.phase, authorization.source⟩ ∧
      ∃ state, second.canaries.registry.states.lookup key = some state ∧
        state.incarnation = authorization.incarnation ∧
        state.confirmations = authorization.confirmations ∧
        minimumConfirmations ≤ authorization.confirmations ∧ state.preflightSuspended = false := by
  obtain ⟨facts, snapshot, read, seen, reread, unsuspended, sameIncarnation, confirmed, rfl⟩ :=
    preflightAuthorization_some granted
  refine ⟨?_, snapshot, seen, sameIncarnation, rfl, confirmed, unsuspended⟩
  have numbered : first.world.registry.Numbered := by
    have preserves : (Stores.machine hasher).Preserves fun stores =>
        stores.world.registry.Numbered :=
      fun _ _ _ numbered step => numbered.retains (step_retained step)
    exact preserves.run _ (booted_numbered reader decay inferredWindow maxEntries canaries) reached
  obtain ⟨entry, resident, -, -, -, same⟩ := actingFacts_acts read
  have taken : facts.incarnation ≤ first.world.registry.nextIncarnation := by
    rw [same]
    exact numbered _ entry resident
  exact acting_between final (actingFacts_acts reread)
    (taken.trans (run_continues onward).counter)

end Snapshots

section Sample

def sampled : FieldVerdictKey := ⟨"lane", "field:output_config", "anthropic"⟩

/-- A verdict is learned and its confirmation acknowledged. -/
def confirmedVerdict : List StoreAction :=
  [.learned (.call ⟨0, "lane", "field:output_config", "anthropic",
      .observe .selfIdentifying .f1 .live none 10⟩),
    .canary (.acknowledgeConfirmation sampled 1 1)]

def storesAfter (stores : Stores) (actions : List StoreAction) : Stores :=
  ((Stores.machine fun _ _ => 0).run stores actions).getD stores

def confirmedStores : Stores :=
  storesAfter (.booted ⟨none, []⟩ 1000 1000 8 .initial) confirmedVerdict

/-- Another row is learned between the reads, and the identity's cadence ticks. -/
theorem preflight_consistent_snapshot_live :
    (storesAfter confirmedStores [.canary (.tickCadence sampled 1)]).ActsAs sampled 20
      ⟨1, .f1, .live⟩ := by
  have reached : (Stores.machine fun _ _ => 0).run (.booted ⟨none, []⟩ 1000 1000 8 .initial)
      confirmedVerdict = some confirmedStores := rfl
  have onward : (Stores.machine fun _ _ => 0).run confirmedStores
      [.canary (.tickCadence sampled 1)] =
        some (storesAfter confirmedStores [.canary (.tickCadence sampled 1)]) := rfl
  have later : (Stores.machine fun _ _ => 0).run
      (storesAfter confirmedStores [.canary (.tickCadence sampled 1)])
      [.learned (.call ⟨0, "other", "tools", "anthropic",
        .observe .selfIdentifying .f1 .live none 15⟩)] =
        some (storesAfter (storesAfter confirmedStores [.canary (.tickCadence sampled 1)])
          [.learned (.call ⟨0, "other", "tools", "anthropic",
            .observe .selfIdentifying .f1 .live none 15⟩)]) := rfl
  have granted : preflightAuthorization sampled 0 20 confirmedStores
      (storesAfter confirmedStores [.canary (.tickCadence sampled 1)])
      (storesAfter (storesAfter confirmedStores [.canary (.tickCadence sampled 1)])
        [.learned (.call ⟨0, "other", "tools", "anthropic",
          .observe .selfIdentifying .f1 .live none 15⟩)]) =
      some ⟨1, 1, .f1, .live, .counting, none⟩ := by decide
  exact (preflight_consistent_snapshot reached onward later granted).1

end Sample
end Routectl.Canary
