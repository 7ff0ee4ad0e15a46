import Routectl.Bedrock.Ledger

/-! What holds of the driver on any bytes: every turn that is repeated shrinks
what is held, and what is kept between chunks waits for a frame within the cap. -/
namespace Routectl.Bedrock

variable {State Message Handler Chunk HandlerError : Type}

namespace Ledger
variable {parse : Bytes → Option Message} {ledger next : Ledger}

/-- A ledger the loop may meet: a taken prelude is whole and passed the cap. -/
structure Admissible (ledger : Ledger) : Prop where
  sound : ledger.Sound
  capped : ledger.prelude = true → advertisedLength ledger.bytes ≤ maxFrameBytes

theorem Admissible.fresh (bytes : Bytes) : Admissible ⟨bytes, false⟩ where
  sound := by
    intro flagged
    cases flagged
  capped := by
    intro flagged
    cases flagged

theorem Settled.admissible (settled : ledger.Settled) : ledger.Admissible := by
  have whole (flagged : ledger.prelude = true) : 12 ≤ ledger.bytes.length := by
    rw [settled.prelude] at flagged
    exact of_decide_eq_true flagged
  constructor
  · exact whole
  · intro flagged
    have long := whole flagged
    exact settled.capped (by omega)

theorem Admissible.receive (admissible : ledger.Admissible) (bytes : Bytes) :
    (ledger.receive bytes).Admissible := by
  constructor
  · intro flagged
    rw [Ledger.receive, List.length_append]
    exact Nat.le_add_right_of_le (admissible.sound flagged)
  · intro flagged
    have long := admissible.sound flagged
    rw [Ledger.receive, advertisedLength_append (by omega)]
    exact admissible.capped flagged

theorem Settled.empty : Settled ⟨[], false⟩ := by
  constructor
  · rfl
  · intro long
    cases long
  · intro long
    cases long

/-- What is held stays below the cap. -/
theorem Settled.bounded (settled : ledger.Settled) : ledger.bytes.length < maxFrameBytes := by
  rcases Nat.lt_or_ge ledger.bytes.length 12 with short | long
  · rw [maxFrameBytes]
    omega
  · have unfinished := settled.partial_ long
    have within := settled.capped (by omega)
    omega

/-- Nothing buffered and no prelude taken is nothing held. -/
theorem Settled.boundary (settled : ledger.Settled) :
    (ledger.buffered ≠ 0 ∨ ledger.prelude = true) ↔ ledger.bytes ≠ [] := by
  have empty : ledger.bytes ≠ [] ↔ 0 < ledger.bytes.length := List.length_pos_iff.symm
  rw [empty, buffered]
  rcases Nat.lt_or_ge ledger.bytes.length 12 with short | long
  · have unflagged : ledger.prelude = false := by
      rw [settled.prelude]
      exact decide_eq_false (by omega)
    simp only [unflagged, Bool.false_eq_true, if_false, or_false]
    omega
  · have flagged : ledger.prelude = true := by
      rw [settled.prelude]
      exact decide_eq_true long
    simp only [flagged, or_true, true_iff]
    omega

theorem afterRefusal_length (prelude : Bool) {bytes : Bytes} (long : 0 < bytes.length) :
    (afterRefusal prelude bytes).length < bytes.length := by
  rw [afterRefusal]
  split
  case isTrue readable =>
    simp only [Bool.and_eq_true, decide_eq_true_eq] at readable
    rw [List.length_drop]
    omega
  case isFalse => exact long

variable (sized : ∀ frame message, parse frame = some message → 16 ≤ frame.length)
include sized

theorem turn_complete {message : Message} (turned : ledger.turn parse = .complete message next) :
    next = ⟨ledger.bytes.drop (advertisedLength ledger.bytes), false⟩ ∧
      next.bytes.length < ledger.bytes.length := by
  rw [turn] at turned
  split at turned
  · cases turned
  · split at turned
    · cases turned
    · split at turned
      · cases turned
      · split at turned
        case h_1 found intact =>
          cases turned
          have enough := sized _ _ intact
          rw [List.length_take] at enough
          refine ⟨rfl, ?_⟩
          rw [List.length_drop]
          omega
        case h_2 => cases turned

omit sized in
theorem turn_skipped (turned : ledger.turn parse = .skipped next) :
    next = ⟨afterRefusal ledger.prelude ledger.bytes, false⟩ ∧
      next.bytes.length < ledger.bytes.length := by
  rw [turn] at turned
  split at turned
  · cases turned
  · split at turned
    · cases turned
    · split at turned
      · cases turned
      · split at turned
        case h_1 => cases turned
        case h_2 =>
          cases turned
          exact ⟨rfl, afterRefusal_length _ (by omega)⟩

omit sized in
theorem turn_waiting (admissible : ledger.Admissible) (turned : ledger.turn parse = .waiting next) :
    next.Settled ∧ next.bytes = ledger.bytes := by
  have within : 4 ≤ ledger.bytes.length → ¬ ledger.turn parse = .capped (advertisedLength ledger.bytes) →
      advertisedLength ledger.bytes ≤ maxFrameBytes := by
    intro long uncapped
    cases flag : ledger.prelude with
    | true => exact admissible.capped flag
    | false =>
      apply Nat.not_lt.mp
      intro exceeds
      apply uncapped
      rw [turn]
      simp [flag, long, exceeds]
  have capped (long : 4 ≤ ledger.bytes.length) := within long (by simp [turned])
  rw [turn] at turned
  split at turned
  · cases turned
  · split at turned
    case isTrue short =>
      cases turned
      refine ⟨⟨?_, ?_, capped⟩, rfl⟩
      · exact (decide_eq_false (by simpa using short)).symm
      · intro long
        exact absurd short (Nat.not_lt.mpr long)
    case isFalse long =>
      split at turned
      case isTrue unfinished =>
        cases turned
        refine ⟨⟨?_, ?_, capped⟩, rfl⟩
        · exact (decide_eq_true (by simpa using long)).symm
        · intro _
          exact unfinished
      case isFalse => split at turned <;> cases turned

end Ledger

namespace Run
variable {parse : Bytes → Option Message}
  (handler : FrameHandler Handler Message Chunk HandlerError) (label : FrameLabel)

@[simp] theorem ended_fail (output : Output Message Handler Chunk HandlerError)
    (error : StreamError HandlerError) : (output.fail error).ended = true := rfl

/-- A run that still wants bytes holds a settled ledger. -/
def Rests (run : Run Message Handler Chunk HandlerError) : Prop :=
  run.output.ended = true ∨ run.ledger.Settled

/-- With more turns than bytes held the loop stops by itself. -/
theorem drain_rests (sized : ∀ frame message, parse frame = some message → 16 ≤ frame.length)
    {fuel : Nat} {run : Run Message Handler Chunk HandlerError}
    (admissible : run.ledger.Admissible) (enough : run.ledger.bytes.length < fuel) :
    (run.drain parse handler label fuel).Rests ∧
      ∀ more, run.drain parse handler label (fuel + more) = run.drain parse handler label fuel := by
  induction fuel generalizing run with
  | zero => cases enough
  | succ fuel ih =>
    simp only [Nat.succ_add, drain]
    cases turned : run.ledger.turn parse with
    | capped advertised => exact ⟨.inl rfl, fun _ => rfl⟩
    | waiting next => exact ⟨.inr (Ledger.turn_waiting admissible turned).1, fun _ => rfl⟩
    | skipped next =>
      obtain ⟨same, shrinks⟩ := Ledger.turn_skipped turned
      have fresh : next.Admissible := by
        rw [same]
        exact .fresh _
      have smaller : next.bytes.length < fuel := by omega
      exact @ih { run with ledger := next } fresh smaller
    | complete message next =>
      obtain ⟨same, shrinks⟩ := Ledger.turn_complete sized turned
      have fresh : next.Admissible := by
        rw [same]
        exact .fresh _
      have smaller : next.bytes.length < fuel := by omega
      simp only
      split
      case isTrue ended => exact ⟨.inl ended, fun _ => rfl⟩
      case isFalse =>
        exact @ih { ledger := next, output := run.output.hand handler message } fresh smaller

theorem receive_rests (sized : ∀ frame message, parse frame = some message → 16 ≤ frame.length)
    (item : Except String Bytes) {run : Run Message Handler Chunk HandlerError} (rests : run.Rests) :
    (run.receive parse handler label item).Rests := by
  rcases rests with ended | settled
  · have unchanged : run.receive parse handler label item = run := by
      simp only [receive, ended, if_true]
    rw [unchanged]
    exact .inl ended
  · cases item with
    | error reason =>
      simp only [receive]
      split
      case isTrue ended => exact .inl ended
      case isFalse => exact .inl rfl
    | ok bytes =>
      simp only [receive]
      split
      case isTrue ended => exact .inl ended
      case isFalse =>
        exact (drain_rests handler label sized (settled.admissible.receive bytes)
          (Nat.lt_succ_self _)).1

theorem foldl_rests (sized : ∀ frame message, parse frame = some message → 16 ≤ frame.length)
    (items : List (Except String Bytes)) {run : Run Message Handler Chunk HandlerError}
    (rests : run.Rests) : (items.foldl (receive parse handler label) run).Rests := by
  induction items generalizing run with
  | nil => exact rests
  | cons item rest ih => exact ih (receive_rests handler label sized item rests)

theorem start_rests (initial : Handler) :
    (start initial : Run Message Handler Chunk HandlerError).Rests := .inr .empty

end Run
end Routectl.Bedrock
