import Routectl.Ledger.Event
import Routectl.Registry.Boundary

/-! The single writer of the ledger: what it refuses to append, and the floors
and the boundary generation its committed batches raise. -/
namespace Routectl.Ledger
open Routectl.Core Library Registry

inductive CapabilityEventWrite where
  | committed
  | supersededByBoundary
  | supersededByPurge
  | writeFailed
deriving Repr, DecidableEq

inductive BatchCommit where
  | committed (rows : Nat)
  | writeFailed
deriving Repr, DecidableEq

/-- One acknowledged transaction; the incarnation counts only for what it clears. -/
structure CapabilityBatch where
  events : List CapabilityEvent
  generation : Nat
  incarnation : Nat
deriving Repr, DecidableEq

/-- `rows` are in append order. -/
structure Writer where
  rows : List CapabilityEvent
  boundaryGeneration : Nat
  purgeFloors : KeyedMap RegistryKey Nat

/-- Floors only go up. -/
def raiseFloor (incarnation : Nat) (floors : KeyedMap RegistryKey Nat) (key : RegistryKey) :
    KeyedMap RegistryKey Nat :=
  floors.insert key ((floors.lookup key).elim incarnation fun floor => max floor incarnation)

def raiseFloors (incarnation : Nat) (floors : KeyedMap RegistryKey Nat)
    (events : List CapabilityEvent) : KeyedMap RegistryKey Nat :=
  events.foldl
    (fun raised event =>
      if event.verdict = Verdict.cleared.asStr then raiseFloor incarnation raised event.key else raised)
    floors

namespace Writer

def empty : Writer := { rows := [], boundaryGeneration := 0, purgeFloors := ∅ }

/-- `stored` tells whether the database takes the row. -/
def persistCapabilityEvent (writer : Writer) (event : CapabilityEvent) (stamp : EventStamp)
    (stored : Bool) : Writer × CapabilityEventWrite :=
  if stamp.generation < writer.boundaryGeneration then (writer, .supersededByBoundary)
  else if (writer.purgeFloors.lookup event.key).any fun floor => stamp.incarnation ≤ floor then
    (writer, .supersededByPurge)
  else if stored then ({ writer with rows := writer.rows ++ [event] }, .committed)
  else (writer, .writeFailed)

def commitCapabilityBatch (writer : Writer) (batch : CapabilityBatch) (stored : Bool) :
    Writer × BatchCommit :=
  if stored then
    ({ rows := writer.rows ++ batch.events,
       boundaryGeneration := max writer.boundaryGeneration batch.generation,
       purgeFloors := raiseFloors batch.incarnation writer.purgeFloors batch.events },
     .committed batch.events.length)
  else (writer, .writeFailed)

end Writer

section Floors
variable {floors : KeyedMap RegistryKey Nat} {key : RegistryKey} {incarnation floor : Nat}

theorem raiseFloor_lookup (other : RegistryKey) :
    (raiseFloor incarnation floors key).lookup other =
      if other = key then
        some ((floors.lookup key).elim incarnation fun floor => max floor incarnation)
      else floors.lookup other := by
  unfold raiseFloor
  by_cases same : other = key
  · rw [if_pos same, same, AList.lookup_insert]
  · rw [if_neg same, AList.lookup_insert_ne same]

theorem le_raiseFloor (incarnation : Nat) (other : RegistryKey) (found : floors.lookup key = some floor) :
    ∃ raised, (raiseFloor incarnation floors other).lookup key = some raised ∧ floor ≤ raised := by
  rw [raiseFloor_lookup]
  by_cases same : key = other
  · subst same
    rw [if_pos rfl, found]
    exact ⟨_, rfl, Nat.le_max_left _ _⟩
  · rw [if_neg same]
    exact ⟨floor, found, Nat.le_refl floor⟩

theorem le_raiseFloors (incarnation : Nat) (events : List CapabilityEvent)
    (found : floors.lookup key = some floor) :
    ∃ raised, (raiseFloors incarnation floors events).lookup key = some raised ∧ floor ≤ raised := by
  induction events generalizing floors floor with
  | nil => exact ⟨floor, found, Nat.le_refl floor⟩
  | cons event rest ih =>
    simp only [raiseFloors, List.foldl_cons]
    split
    · obtain ⟨raised, next, below⟩ := le_raiseFloor incarnation event.key found
      obtain ⟨final, reached, above⟩ := ih next
      exact ⟨final, reached, Nat.le_trans below above⟩
    · exact ih found

/-- A committed clear leaves its key a floor no lower than its incarnation. -/
theorem raiseFloors_cleared (incarnation : Nat) (floors : KeyedMap RegistryKey Nat)
    {events : List CapabilityEvent} {event : CapabilityEvent} (member : event ∈ events) (cleared : event.verdict = Verdict.cleared.asStr) :
    ∃ raised, (raiseFloors incarnation floors events).lookup event.key = some raised ∧
      incarnation ≤ raised := by
  induction events generalizing floors with
  | nil => cases member
  | cons head rest ih =>
    rcases List.mem_cons.mp member with same | later
    · subst same
      simp only [raiseFloors, List.foldl_cons, if_pos cleared]
      have first : (raiseFloor incarnation floors event.key).lookup event.key =
          some ((floors.lookup event.key).elim incarnation fun floor => max floor incarnation) := by
        rw [raiseFloor_lookup, if_pos rfl]
      obtain ⟨raised, reached, above⟩ := le_raiseFloors incarnation rest first
      refine ⟨raised, reached, Nat.le_trans ?_ above⟩
      cases floors.lookup event.key with
      | none => exact Nat.le_refl _
      | some floor => exact Nat.le_max_right _ _
    · simp only [raiseFloors, List.foldl_cons]
      split
      · exact ih _ later
      · exact ih _ later

/-- A floor is one that was there or the batch's own incarnation. -/
theorem raiseFloors_bound {events : List CapabilityEvent} {bound raised : Nat}
    (before : ∀ floor, floors.lookup key = some floor → floor ≤ bound)
    (own : (∃ event ∈ events, event.verdict = Verdict.cleared.asStr ∧ event.key = key) →
      incarnation ≤ bound)
    (found : (raiseFloors incarnation floors events).lookup key = some raised) : raised ≤ bound := by
  induction events generalizing floors with
  | nil => exact before raised found
  | cons event rest ih =>
    have onward : (∃ later ∈ rest, later.verdict = Verdict.cleared.asStr ∧ later.key = key) →
        incarnation ≤ bound := by
      rintro ⟨later, member, matches_⟩
      exact own ⟨later, List.mem_cons_of_mem event member, matches_⟩
    simp only [raiseFloors, List.foldl_cons] at found
    split at found
    · rename_i cleared
      apply ih _ onward found
      intro floor next
      rw [raiseFloor_lookup] at next
      by_cases same : key = event.key
      · rw [if_pos same] at next
        have capped := own ⟨event, List.mem_cons_self, cleared, same.symm⟩
        cases known : floors.lookup event.key with
        | none =>
          rw [known] at next
          exact Option.some.inj next ▸ capped
        | some prior =>
          rw [known] at next
          have low := before prior (same ▸ known)
          rw [← Option.some.inj next]
          exact Nat.max_le.mpr ⟨low, capped⟩
      · rw [if_neg same] at next
        exact before floor next
    · exact ih before onward found

end Floors

namespace Writer
variable {writer : Writer} {event : CapabilityEvent} {stamp : EventStamp} {stored : Bool}
  {key : RegistryKey}

/-- Persisting an event appends it or changes nothing at all. -/
theorem persistCapabilityEvent_cases (writer : Writer) (event : CapabilityEvent)
    (stamp : EventStamp) (stored : Bool) :
    (writer.persistCapabilityEvent event stamp stored).1 = writer ∧
        (writer.persistCapabilityEvent event stamp stored).2 ≠ .committed ∨
      (writer.persistCapabilityEvent event stamp stored) =
        ({ writer with rows := writer.rows ++ [event] }, .committed) := by
  unfold persistCapabilityEvent
  split
  · exact .inl ⟨rfl, by simp⟩
  · split
    · exact .inl ⟨rfl, by simp⟩
    · split
      · exact .inr rfl
      · exact .inl ⟨rfl, by simp⟩

@[simp] theorem persistCapabilityEvent_floors :
    (writer.persistCapabilityEvent event stamp stored).1.purgeFloors = writer.purgeFloors := by
  rcases writer.persistCapabilityEvent_cases event stamp stored with ⟨same, -⟩ | same
  · rw [same]
  · rw [same]

theorem superseded_iff :
    (writer.persistCapabilityEvent event stamp stored).2 = .supersededByPurge ↔
      writer.boundaryGeneration ≤ stamp.generation ∧
        ∃ floor, writer.purgeFloors.lookup event.key = some floor ∧ stamp.incarnation ≤ floor := by
  unfold persistCapabilityEvent
  by_cases old : stamp.generation < writer.boundaryGeneration
  · rw [if_pos old]
    simp [Nat.not_le.mpr old]
  · rw [if_neg old]
    have current := Nat.not_lt.mp old
    cases found : writer.purgeFloors.lookup event.key with
    | none => cases stored <;> simp
    | some floor =>
      by_cases below : stamp.incarnation ≤ floor
      · simp [below, current]
      · cases stored <;> simp [below]

/-- An event at or below its key's floor is never appended. -/
theorem persistCapabilityEvent_below {floor : Nat}
    (found : writer.purgeFloors.lookup event.key = some floor) (below : stamp.incarnation ≤ floor) :
    (writer.persistCapabilityEvent event stamp stored).1 = writer := by
  unfold persistCapabilityEvent
  split
  · rfl
  · simp [found, below]

theorem le_commitCapabilityBatch {floor : Nat} (batch : CapabilityBatch)
    (found : writer.purgeFloors.lookup key = some floor) :
    ∃ raised, (writer.commitCapabilityBatch batch stored).1.purgeFloors.lookup key = some raised ∧
      floor ≤ raised := by
  unfold commitCapabilityBatch
  split
  · exact le_raiseFloors batch.incarnation batch.events found
  · exact ⟨floor, found, Nat.le_refl floor⟩

end Writer

/-! The batch a reload boundary commits: its tombstone and the restated
catalog-independent survivors. -/

/-- One row, two or three: enough to cross the acts-or-not threshold and to land
the current decay stamp. -/
def restatedAt (survivor : LearnedRegistryEntry) : List Nat :=
  if survivor.signalTier ≠ .inferred || survivor.observations < 2 then [survivor.lastSeen]
  else if survivor.observations = 2 then [survivor.firstSeen, survivor.lastSeen]
  else [survivor.firstSeen, survivor.firstSeen, survivor.lastSeen]

def restatedRow (revision : Revision) (survivor : LearnedRegistryEntry) (observed : Nat) :
    CapabilityEvent :=
  { ts := observed, laneKey := survivor.stateKey, capability := survivor.featureKey,
    verdict := survivor.verdict.asStr, phase := survivor.phase.asStr,
    source := survivor.source.asStr, tier := survivor.signalTier.asStr,
    evidenceClass := survivor.evidenceClass, revision }

def restatedRows (revision : Revision) (survivor : LearnedRegistryEntry) : List CapabilityEvent :=
  (restatedAt survivor).map (restatedRow revision survivor)

def boundaryEvents (now : Nat) (revision : Revision) (survivors : List LearnedRegistryEntry) :
    List CapabilityEvent :=
  .tombstone now revision :: survivors.flatMap (restatedRows revision)

/-- Snapshot and submission under one guard; `queued` tells whether the writer's
channel took the batch. -/
def admitCapabilityBoundary (registry : LearnedCapabilityRegistry) (now : Nat)
    (revision : Revision) (queued : Bool) :
    LearnedCapabilityRegistry × BoundaryCut CapabilityBatch :=
  registry.withBoundaryCut
    (fun survivors generation =>
      { events := boundaryEvents now revision survivors, generation, incarnation := 0 })
    fun _ => queued

/-- The durable clear of a reserved purge. -/
def purgeBatch (lease : PurgeLease) (now : Nat) (revision : Revision) : CapabilityBatch :=
  { events :=
      [{ ts := now, laneKey := lease.key.stateKey, capability := lease.key.featureKey,
         verdict := Verdict.cleared.asStr, phase := "", source := EvidenceSource.live.asStr,
         tier := "", evidenceClass := none, revision }],
    generation := lease.generation, incarnation := lease.incarnation }

end Routectl.Ledger
