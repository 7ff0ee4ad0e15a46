import Routectl.Learn.Commit
import Routectl.Ledger.Plane

/-! Requests on one revision, interleaved at every registry access: the re-probes
they are granted, the rejections they commit, the settlements they make, and the
events these emit. -/
namespace Routectl.Learn
open Routectl.Core Library Registry Ledger

/-- A request in dispatch: its dedupe memory and the re-probes it still holds,
whichever target is to settle them. -/
structure Attempt where
  dedupe : LearnDedupe
  guard : LearnedProbeGuard

/-- `emitted` is in mutation order. -/
structure Session where
  registry : LearnedCapabilityRegistry
  attempts : List Attempt
  emitted : List Flight

/-- `clear` settles one re-probe after a success, `release` after anything else
that leaves the target. -/
inductive SessionAction where
  | arrive
  | admission (index : Nat) (stateKey featureKeyRaw providerKind : String) (now : Nat)
  | reject (index : Nat) (rejection : Rejection) (now : Nat)
  | clear (index position now : Nat)
  | release (index position now : Nat)

section Flights
variable (now : Nat) (revision : Revision)

def learnedFlight (event : CapabilityLearnEvent) : Flight :=
  { event := learnedRow now revision event,
    stamp := { generation := event.persistenceGeneration, incarnation := event.incarnation } }

def clearedFlight (event : CapabilityClearedEvent) : Flight :=
  { event := clearedRow now revision event,
    stamp := { generation := event.persistenceGeneration, incarnation := event.incarnation } }

variable {revision}

theorem learnedFlight_current (event : CapabilityLearnEvent) :
    (learnedFlight now revision event).event.verdict ≠ "tombstone" ∧
      (learnedFlight now revision event).event.revision = revision := by
  simp [learnedFlight, learnedRow, Verdict.asStr]

theorem clearedFlight_current (event : CapabilityClearedEvent) :
    (clearedFlight now revision event).event.verdict ≠ "tombstone" ∧
      (clearedFlight now revision event).event.revision = revision := by
  simp [clearedFlight, clearedRow, Verdict.asStr]

end Flights

namespace Session

def initial (decay inferredWindow maxEntries : Nat) : Session :=
  { registry := .new decay inferredWindow maxEntries, attempts := [], emitted := [] }

/-- The re-probe an attempt holds at a position, and the attempt without it. -/
def take (session : Session) (index position : Nat) : Option (ProbeAdmission × Attempt) :=
  match session.attempts[index]? with
  | none => none
  | some attempt =>
    match attempt.guard.probes[position]? with
    | none => none
    | some admission =>
      let remaining := attempt.guard.probes.eraseIdx position
      some (admission,
        { attempt with guard := { armed := !remaining.isEmpty, probes := remaining } })

variable (hasher : RegistryKey → Nat → Nat) (revision : Revision)

def act (session : Session) : SessionAction → Option Session
  | .arrive => some { session with attempts := session.attempts ++ [⟨∅, .inert⟩] }
  | .admission index stateKey featureKeyRaw providerKind now =>
    match session.attempts[index]? with
    | none => none
    | some attempt =>
      match session.registry.actingNegativeInGeneration session.registry.generation stateKey
          featureKeyRaw providerKind now with
      | (registry, some (.probeAdmitted, granted)) =>
        let admission := ProbeAdmission.granted stateKey featureKeyRaw providerKind granted
        some { session with
          registry,
          attempts := session.attempts.set index
            { attempt with guard := .new (attempt.guard.probes ++ [admission]) } }
      | (registry, _) => some { session with registry }
  | .reject index rejection now =>
    match session.attempts[index]? with
    | none => none
    | some attempt =>
      let (registry, dedupe, guard, event) :=
        commitLearnedObservation hasher session.registry session.registry.generation rejection
          attempt.dedupe attempt.guard now
      some {
        registry, attempts := session.attempts.set index { dedupe, guard },
        emitted := session.emitted ++ (event.map (learnedFlight now revision)).toList }
  | .clear index position now =>
    match session.take index position with
    | none => none
    | some (admission, attempt) =>
      let (registry, _, cleared) :=
        (LearnedProbeGuard.new [admission]).settleSuccess hasher session.registry now
      some {
        registry, attempts := session.attempts.set index attempt,
        emitted := session.emitted ++ cleared.map (clearedFlight now revision) }
  | .release index position now =>
    match session.take index position with
    | none => none
    | some (admission, attempt) =>
      some { session with
        registry := (LearnedProbeGuard.new [admission]).drop hasher session.registry now,
        attempts := session.attempts.set index attempt }

end Session

/-- What an action other than a rejection does to the registry, and the flight it
adds. -/
inductive Acted (hasher : RegistryKey → Nat → Nat) (revision : Revision)
    (registry : LearnedCapabilityRegistry) :
    LearnedCapabilityRegistry → List Flight → Prop where
  | idle : Acted hasher revision registry registry []
  | looked (stateKey featureKeyRaw providerKind : String) (now : Nat) :
      Acted hasher revision registry
        (registry.actingNegativeInGeneration registry.generation stateKey featureKeyRaw
          providerKind now).1 []
  | released (admission : ProbeAdmission) (now : Nat) :
      Acted hasher revision registry (settleAdmission hasher registry admission .otherError now).1 []
  | cleared (admission : ProbeAdmission) (now : Nat) :
      Acted hasher revision registry (settleAdmission hasher registry admission .success now).1
        ((LearnedProbeGuard.clearedEvent admission
          (settleAdmission hasher registry admission .success now).2).map
            (clearedFlight now revision)).toList

section Steps
variable {hasher : RegistryKey → Nat → Nat} {revision : Revision} {session next : Session}

/-- A rejection does to the registry what its disposition says. -/
theorem act_reject {index : Nat} {rejection : Rejection} {now : Nat}
    (step : session.act hasher revision (.reject index rejection now) = some next) :
    ∃ attempt, session.attempts[index]? = some attempt ∧
      ((disposition rejection attempt.dedupe attempt.guard).effect hasher session.registry
        session.registry.generation rejection now).1 = next.registry ∧
      next.emitted = session.emitted ++
        (((disposition rejection attempt.dedupe attempt.guard).effect hasher session.registry
          session.registry.generation rejection now).2.map (learnedFlight now revision)).toList := by
  simp only [Session.act] at step
  split at step
  · cases step
  · rename_i attempt present
    have effect : ((commitLearnedObservation hasher session.registry session.registry.generation
          rejection attempt.dedupe attempt.guard now).1,
        (commitLearnedObservation hasher session.registry session.registry.generation rejection
          attempt.dedupe attempt.guard now).2.2.2) = _ := commitLearnedObservation_effect
    obtain rfl := Option.some.inj step
    exact ⟨attempt, present, (congrArg Prod.fst effect).symm, by rw [← effect]⟩

theorem act_acted {action : SessionAction}
    (other : ∀ index rejection now, action ≠ .reject index rejection now)
    (step : session.act hasher revision action = some next) :
    ∃ flights, Acted hasher revision session.registry next.registry flights ∧
      next.emitted = session.emitted ++ flights := by
  cases action with
  | arrive =>
    obtain rfl := Option.some.inj step
    exact ⟨[], .idle, (List.append_nil _).symm⟩
  | admission index stateKey featureKeyRaw providerKind now =>
    simp only [Session.act] at step
    split at step
    · cases step
    · have looked : Acted hasher revision session.registry _ [] :=
        .looked stateKey featureKeyRaw providerKind now
      split at step
      · rename_i registry granted same
        obtain rfl := Option.some.inj step
        rw [same] at looked
        exact ⟨[], looked, (List.append_nil _).symm⟩
      · rename_i registry decision other same
        obtain rfl := Option.some.inj step
        rw [same] at looked
        exact ⟨[], looked, (List.append_nil _).symm⟩
  | reject index rejection now => exact absurd rfl (other index rejection now)
  | clear index position now =>
    simp only [Session.act] at step
    split at step
    · cases step
    · rename_i admission attempt held
      obtain ⟨registry, cleared⟩ :=
        LearnedProbeGuard.settleSuccess_one hasher session.registry admission now
      obtain rfl := Option.some.inj step
      refine ⟨_, ?_, rfl⟩
      rw [cleared, registry, ← Option.toList_map]
      exact .cleared admission now
  | release index position now =>
    simp only [Session.act] at step
    split at step
    · cases step
    · rename_i admission attempt held
      obtain rfl := Option.some.inj step
      exact ⟨[], .released admission now, (List.append_nil _).symm⟩

end Steps
end Routectl.Learn
