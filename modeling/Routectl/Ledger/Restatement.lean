import Routectl.Ledger.Writer
import Routectl.Ledger.Replay

/-! The rows one resident is restated by, replayed: exactly when they land on the
resident's side of the acting line. -/
namespace Routectl.Ledger
open Routectl.Core Library Registry

/-- What replaying its restated rows must keep of a resident entry. -/
structure Restated (resident replayed : LearnedEntry) : Prop where
  acting : replayed.isActing = resident.isActing
  verdict : replayed.verdict = resident.verdict
  phase : replayed.phase = resident.phase
  source : replayed.source = resident.source
  signal : replayed.signal = resident.signal
  lastSeen : replayed.lastSeen = resident.lastSeen

/-- The verified side holds what a recognized positive left there. -/
def Grounded (entry : LearnedEntry) : Prop :=
  entry.verdict = .verified → entry.signal = .selfIdentifying ∧ entry.phase = .f3 ∧
    entry.evidenceClass.any isKnownEvidenceClass = true

/-- An inferred entry counting two observations saw them inside the window. -/
def Corroborated (window : Nat) (entry : LearnedEntry) : Prop :=
  entry.signal = .inferred → entry.observations = 2 → entry.lastSeen - entry.firstSeen ≤ window

section Slot
variable {tuning : RegistryTuning} {revision : Revision} {key : RegistryKey} {entry : LearnedEntry}

theorem eventSlot_restated_negative (negative : entry.verdict = .negative)
    (slot : Option LearnedEntry) (observed : Nat) :
    eventSlot tuning slot (restatedRow revision (entry.snapshotRow key) observed) =
      some (observeSlot tuning slot entry.signal entry.phase entry.source entry.evidenceClass
        observed).1 := by
  simp [eventSlot, replaySlot, mapRow, restatedRow, LearnedEntry.snapshotRow,
    LearnedEntry.readVerdict, negative, Verdict.asStr, parseTierPhase]

theorem eventSlot_restated_verified (verified : entry.verdict = .verified)
    (recognized : entry.evidenceClass.any isKnownEvidenceClass = true)
    (slot : Option LearnedEntry) (observed : Nat) :
    eventSlot tuning slot (restatedRow revision (entry.snapshotRow key) observed) =
      some (positiveSlot slot entry.source entry.evidenceClass observed) := by
  simp [eventSlot, replaySlot, mapRow, restatedRow, LearnedEntry.snapshotRow,
    LearnedEntry.readVerdict, verified, Verdict.asStr, evidenceClassRecognized, recognized]

/-- The restated observations of a negative, one after another. -/
def reobserved (tuning : RegistryTuning) (tier : SignalTier) (held : LearnedEntry)
    (observed : List Nat) : LearnedEntry :=
  observed.foldl (fun held now => (observeExisting tuning held tier now).1) held

theorem replay_reobserved (negative : entry.verdict = .negative) {held : LearnedEntry}
    (side : held.verdict = .negative) (observed : List Nat) :
    (observed.map (restatedRow revision (entry.snapshotRow key))).foldl (eventSlot tuning)
        (some held) = some (reobserved tuning entry.signal held observed) := by
  induction observed generalizing held with
  | nil => rfl
  | cons now later ih =>
    have next : (observeExisting tuning held entry.signal now).1.verdict = .negative := by
      rw [observeExisting_verdict, side]
    rw [List.map_cons, List.foldl_cons, eventSlot_restated_negative negative,
      observeSlot_negative side]
    exact ih next

theorem replay_negative (negative : entry.verdict = .negative) (first : Nat) (later : List Nat) :
    ((first :: later).map (restatedRow revision (entry.snapshotRow key))).foldl (eventSlot tuning)
        none =
      some (reobserved tuning entry.signal
        (freshEntry tuning entry.signal entry.phase entry.source entry.evidenceClass first).1
          later) := by
  rw [List.map_cons, List.foldl_cons, eventSlot_restated_negative negative]
  apply replay_reobserved negative
  simp [observeSlot, freshEntry]

/-- Its rows replay to an entry that is on the resident's side exactly when the
resident is corroborated. -/
def Restates (tuning : RegistryTuning) (revision : Revision) (key : RegistryKey)
    (entry : LearnedEntry) : Prop :=
  ∃ replayed, (restatedRows revision (entry.snapshotRow key)).foldl (eventSlot tuning) none =
      some replayed ∧
    (Restated entry replayed ↔ Corroborated tuning.inferredWindow entry)

theorem restates_verified (grounded : Grounded entry) (verified : entry.verdict = .verified) :
    Restates tuning revision key entry := by
  obtain ⟨signal, phase, recognized⟩ := grounded verified
  have row : restatedRows revision (entry.snapshotRow key) =
      [restatedRow revision (entry.snapshotRow key) entry.lastSeen] := by
    simp [restatedRows, restatedAt, LearnedEntry.snapshotRow, signal]
  refine ⟨freshPositive entry.source entry.evidenceClass entry.lastSeen, ?_, ?_⟩
  · rw [row, List.foldl_cons, eventSlot_restated_verified verified recognized]
    rfl
  · apply iff_of_true
    · constructor <;> simp [freshPositive, LearnedEntry.isActing, verified, signal, phase]
    · intro inferred
      rw [signal] at inferred
      cases inferred

theorem restates_selfIdentifying (negative : entry.verdict = .negative)
    (signal : entry.signal = .selfIdentifying) : Restates tuning revision key entry := by
  have row : restatedRows revision (entry.snapshotRow key) =
      [entry.lastSeen].map (restatedRow revision (entry.snapshotRow key)) := by
    simp [restatedRows, restatedAt, LearnedEntry.snapshotRow, signal]
  refine ⟨_, row ▸ replay_negative negative entry.lastSeen [], ?_⟩
  apply iff_of_true
  · constructor <;> simp [reobserved, freshEntry, LearnedEntry.isActing, negative, signal]
  · intro inferred
    rw [signal] at inferred
    cases inferred

/-- One row leaves a pending entry pending. -/
theorem restates_pending (negative : entry.verdict = .negative) (signal : entry.signal = .inferred)
    (few : entry.observations < 2) : Restates tuning revision key entry := by
  have row : restatedRows revision (entry.snapshotRow key) =
      [entry.lastSeen].map (restatedRow revision (entry.snapshotRow key)) := by
    simp [restatedRows, restatedAt, LearnedEntry.snapshotRow, few]
  refine ⟨_, row ▸ replay_negative negative entry.lastSeen [], ?_⟩
  have pending : ¬2 ≤ entry.observations := Nat.not_le.mpr few
  apply iff_of_true
  · constructor <;> simp [reobserved, freshEntry, LearnedEntry.isActing, negative, signal, pending]
  · intro _ two
    omega

/-- Two rows reach the acting side only inside the window. -/
theorem restates_twice (negative : entry.verdict = .negative) (signal : entry.signal = .inferred)
    (two : entry.observations = 2) : Restates tuning revision key entry := by
  have rows : restatedRows revision (entry.snapshotRow key) =
      [entry.firstSeen, entry.lastSeen].map (restatedRow revision (entry.snapshotRow key)) := by
    simp [restatedRows, restatedAt, LearnedEntry.snapshotRow, signal, two]
  refine ⟨_, rows ▸ replay_negative negative entry.firstSeen [entry.lastSeen], ?_⟩
  rw [reobserved, List.foldl_cons, List.foldl_nil, signal]
  have pending : (freshEntry tuning .inferred entry.phase entry.source entry.evidenceClass
      entry.firstSeen).1.isActing = false := by simp [freshEntry, LearnedEntry.isActing]
  by_cases inside : entry.lastSeen - entry.firstSeen ≤ tuning.inferredWindow
  · rw [observeExisting_corroborates pending inside]
    apply iff_of_true
    · constructor <;> simp [freshEntry, LearnedEntry.isActing, negative, signal, two]
    · intro _ _
      exact inside
  · rw [observeExisting_resets pending inside]
    apply iff_of_false
    · intro restated
      have acting := restated.acting
      simp [freshEntry, LearnedEntry.isActing, two] at acting
    · intro corroborated
      exact inside (corroborated signal two)

/-- The third row reconfirms an entry the first two already made act. -/
theorem restates_reconfirmed (negative : entry.verdict = .negative)
    (signal : entry.signal = .inferred) (many : 2 < entry.observations) :
    Restates tuning revision key entry := by
  have notFew : ¬entry.observations < 2 := by omega
  have notTwo : entry.observations ≠ 2 := by omega
  have acts : 2 ≤ entry.observations := by omega
  have rows : restatedRows revision (entry.snapshotRow key) =
      [entry.firstSeen, entry.firstSeen, entry.lastSeen].map
        (restatedRow revision (entry.snapshotRow key)) := by
    simp [restatedRows, restatedAt, LearnedEntry.snapshotRow, signal, notFew, notTwo]
  refine ⟨_, rows ▸ replay_negative negative entry.firstSeen [entry.firstSeen, entry.lastSeen], ?_⟩
  apply iff_of_true
  · constructor <;>
      simp [reobserved, freshEntry, observeExisting, LearnedEntry.isActing, negative, signal, acts,
        saturatingSucc, u32Max]
  · intro _ two
    exact absurd two notTwo

theorem restates (grounded : Grounded entry) : Restates tuning revision key entry := by
  cases side : entry.verdict with
  | verified => exact restates_verified grounded side
  | negative =>
    cases signal : entry.signal with
    | selfIdentifying => exact restates_selfIdentifying side signal
    | inferred =>
      rcases Nat.lt_trichotomy entry.observations 2 with few | two | many
      · exact restates_pending side signal few
      · exact restates_twice side signal two
      · exact restates_reconfirmed side signal many

end Slot
end Routectl.Ledger
