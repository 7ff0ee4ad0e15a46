import Routectl.Bedrock.Frame

/-! What the driver holds since the last frame boundary, and what one turn of its
loop makes of that. -/
namespace Routectl.Bedrock

variable {State Message Handler Chunk HandlerError : Type}

/-- What the decoder's documentation promises: it takes the prelude as soon as
it is there, waits for the whole frame, and answers by the frame's checks. -/
structure Documented (decoder : MessageFrameDecoder State Message) (pending : State → Bytes)
    (parse : Bytes → Option Message) : Prop where
  fresh : pending decoder.new = []
  sized : ∀ frame message, parse frame = some message → 16 ≤ frame.length
  short : ∀ state buffer, (pending state ++ buffer).length < 12 →
    ∃ next, decoder.decodeFrame state buffer = (.incomplete, 0, next) ∧
      pending next = pending state
  waits : ∀ state buffer, 12 ≤ (pending state ++ buffer).length →
    (pending state ++ buffer).length < advertisedLength (pending state ++ buffer) →
    ∃ next, decoder.decodeFrame state buffer = (.incomplete, 12 - (pending state).length, next) ∧
      pending next = (pending state ++ buffer).take 12
  completes : ∀ state buffer message, 12 ≤ (pending state ++ buffer).length →
    advertisedLength (pending state ++ buffer) ≤ (pending state ++ buffer).length →
    parse ((pending state ++ buffer).take (advertisedLength (pending state ++ buffer))) =
      some message →
    ∃ next, decoder.decodeFrame state buffer =
        (.complete message, advertisedLength (pending state ++ buffer) - (pending state).length,
          next) ∧
      pending next = []
  refuses : ∀ state buffer, 12 ≤ (pending state ++ buffer).length →
    advertisedLength (pending state ++ buffer) ≤ (pending state ++ buffer).length →
    parse ((pending state ++ buffer).take (advertisedLength (pending state ++ buffer))) = none →
    ∃ consumed next, decoder.decodeFrame state buffer = (.error, consumed, next)

/-- The bytes since the last boundary: the decoder's prelude and the buffer. -/
def held (pending : State → Bytes) (driver : Driver State) : Bytes :=
  pending driver.decoder ++ driver.buffer

/-- The flag says whether the decoder holds a prelude. -/
def Tracks (pending : State → Bytes) (driver : Driver State) : Prop :=
  (driver.smithyHasPreludeBuffered = false ∧ pending driver.decoder = []) ∨
    (driver.smithyHasPreludeBuffered = true ∧ (pending driver.decoder).length = 12)

theorem advertisedLength_append {bytes : Bytes} (enough : 4 ≤ bytes.length) (more : Bytes) :
    advertisedLength (bytes ++ more) = advertisedLength bytes := by
  match bytes, enough with
  | first :: second :: third :: fourth :: rest, _ => rfl

section Turn
variable {decoder : MessageFrameDecoder State Message} {pending : State → Bytes}
  {parse : Bytes → Option Message} {driver : Driver State}

/-- What stands between the last frame boundary and the bytes to come. -/
structure Ledger where
  bytes : Bytes
  prelude : Bool

structure Mirrors (pending : State → Bytes) (ledger : Ledger) (driver : Driver State) : Prop where
  tracks : Tracks pending driver
  bytes : held pending driver = ledger.bytes
  flag : driver.smithyHasPreludeBuffered = ledger.prelude

theorem advertised_of_unflagged (tracks : Tracks pending driver)
    (unflagged : driver.smithyHasPreludeBuffered = false) :
    driver.advertised =
      if 4 ≤ (held pending driver).length then advertisedLength (held pending driver) else 0 := by
  rcases tracks with ⟨-, none⟩ | ⟨flagged, -⟩
  · simp [Driver.advertised, unflagged, held, none]
  · cases unflagged.symm.trans flagged

theorem advertised_of_flagged (flagged : driver.smithyHasPreludeBuffered = true) :
    driver.advertised = 0 := by
  simp [Driver.advertised, flagged]

theorem iterate_capped (tracks : Tracks pending driver)
    (unflagged : driver.smithyHasPreludeBuffered = false) (long : 4 ≤ (held pending driver).length)
    (exceeds : maxFrameBytes < advertisedLength (held pending driver)) :
    iterate decoder driver = .capped (advertisedLength (held pending driver)) := by
  have advertised := advertised_of_unflagged tracks unflagged
  rw [if_pos long] at advertised
  rw [iterate, advertised, if_pos exceeds]

/-- The turn was not stopped by the cap. -/
def Uncapped (pending : State → Bytes) (driver : Driver State) : Prop :=
  driver.smithyHasPreludeBuffered = true ∨ (held pending driver).length < 4 ∨
    advertisedLength (held pending driver) ≤ maxFrameBytes

theorem advertised_uncapped (tracks : Tracks pending driver) (uncapped : Uncapped pending driver) :
    ¬ maxFrameBytes < driver.advertised := by
  have positive : 0 ≤ maxFrameBytes := Nat.zero_le _
  cases flag : driver.smithyHasPreludeBuffered with
  | true =>
    rw [advertised_of_flagged flag]
    omega
  | false =>
    rw [advertised_of_unflagged tracks flag]
    rcases uncapped with flagged | short | small
    · cases flag.symm.trans flagged
    · rw [if_neg (by omega)]
      omega
    · split <;> omega

theorem iterate_short (documented : Documented decoder pending parse)
    (tracks : Tracks pending driver) (short : (held pending driver).length < 12)
    (uncapped : Uncapped pending driver) :
    ∃ next, iterate decoder driver = .waiting next ∧ Mirrors pending ⟨held pending driver, false⟩ next := by
  obtain ⟨state, decoded, kept⟩ := documented.short driver.decoder driver.buffer short
  have unflagged : driver.smithyHasPreludeBuffered = false ∧ pending driver.decoder = [] := by
    rcases tracks with unflagged | ⟨-, full⟩
    · exact unflagged
    · rw [held, List.length_append, full] at short
      omega
  refine ⟨{ driver with decoder := state }, ?_, ?_⟩
  · rw [iterate, if_neg (advertised_uncapped tracks uncapped), decoded]
    rfl
  · exact ⟨.inl ⟨unflagged.1, kept.trans unflagged.2⟩, by rw [held, held, kept], unflagged.1⟩

theorem iterate_waits (documented : Documented decoder pending parse)
    (tracks : Tracks pending driver) (long : 12 ≤ (held pending driver).length)
    (partial_ : (held pending driver).length < advertisedLength (held pending driver))
    (uncapped : Uncapped pending driver) :
    ∃ next, iterate decoder driver = .waiting next ∧ Mirrors pending ⟨held pending driver, true⟩ next := by
  obtain ⟨state, decoded, kept⟩ := documented.waits driver.decoder driver.buffer long partial_
  have full : (pending state).length = 12 := by
    rw [kept, List.length_take]
    exact Nat.min_eq_left long
  rcases tracks with ⟨unflagged, none⟩ | ⟨flagged, whole⟩
  · refine ⟨{ buffer := driver.buffer.drop 12, decoder := state,
              smithyHasPreludeBuffered := true }, ?_, .inr ⟨rfl, full⟩, ?_, rfl⟩
    · rw [iterate, if_neg (advertised_uncapped (.inl ⟨unflagged, none⟩) uncapped), decoded, none]
      rfl
    · simp only [held, kept, none, List.nil_append, List.take_append_drop]
  · refine ⟨{ driver with decoder := state }, ?_, .inr ⟨flagged, full⟩, ?_, flagged⟩
    · rw [iterate, if_neg (advertised_uncapped (.inr ⟨flagged, whole⟩) uncapped), decoded, whole]
      rfl
    · rw [held, held, kept, ← whole, List.take_left]

theorem pending_le_advertised (tracks : Tracks pending driver) {size : Nat} (sized : 16 ≤ size) :
    (pending driver.decoder).length ≤ size := by
  rcases tracks with ⟨-, none⟩ | ⟨-, whole⟩
  · rw [none]
    exact Nat.zero_le _
  · rw [whole]
    omega

theorem iterate_completes (documented : Documented decoder pending parse)
    (tracks : Tracks pending driver) {message : Message} (long : 12 ≤ (held pending driver).length)
    (there : advertisedLength (held pending driver) ≤ (held pending driver).length)
    (intact : parse ((held pending driver).take (advertisedLength (held pending driver))) =
      some message)
    (uncapped : Uncapped pending driver) :
    ∃ next, iterate decoder driver = .complete message next ∧
      Mirrors pending ⟨(held pending driver).drop (advertisedLength (held pending driver)), false⟩
        next := by
  obtain ⟨state, decoded, emptied⟩ :=
    documented.completes driver.decoder driver.buffer message long there intact
  have sized := documented.sized _ _ intact
  rw [List.length_take, Nat.min_eq_left there] at sized
  have small : (pending driver.decoder).length ≤ advertisedLength (held pending driver) :=
    pending_le_advertised tracks sized
  refine ⟨{ buffer := driver.buffer.drop
              (advertisedLength (held pending driver) - (pending driver.decoder).length),
            decoder := state, smithyHasPreludeBuffered := false },
    ?_, .inl ⟨rfl, emptied⟩, ?_, rfl⟩
  · rw [iterate, if_neg (advertised_uncapped tracks uncapped), decoded]
    rfl
  · have dropped (count : Nat) (covers : (pending driver.decoder).length ≤ count) :
        (held pending driver).drop count =
          driver.buffer.drop (count - (pending driver.decoder).length) := by
      rw [held, List.drop_append, List.drop_of_length_le covers, List.nil_append]
    rw [dropped _ small, held, emptied]
    rfl

/-- What a refused turn leaves: the frame skipped where its length could be read,
nothing of the buffer otherwise. -/
def afterRefusal (flagged : Bool) (bytes : Bytes) : Bytes :=
  if !flagged && 0 < advertisedLength bytes then bytes.drop (advertisedLength bytes) else []

theorem iterate_refuses (documented : Documented decoder pending parse)
    (tracks : Tracks pending driver) (long : 12 ≤ (held pending driver).length)
    (there : advertisedLength (held pending driver) ≤ (held pending driver).length)
    (corrupted : parse ((held pending driver).take (advertisedLength (held pending driver))) = none)
    (uncapped : Uncapped pending driver) :
    ∃ next, iterate decoder driver = .skipped next ∧
      Mirrors pending
        ⟨afterRefusal driver.smithyHasPreludeBuffered (held pending driver), false⟩ next := by
  obtain ⟨consumed, state, decoded⟩ :=
    documented.refuses driver.decoder driver.buffer long there corrupted
  refine ⟨{ buffer :=
              if 0 < driver.advertised && driver.advertised ≤ driver.buffer.length then
                driver.buffer.drop driver.advertised
              else [],
            decoder := decoder.new, smithyHasPreludeBuffered := false },
    ?_, .inl ⟨rfl, documented.fresh⟩, ?_, rfl⟩
  · rw [iterate, if_neg (advertised_uncapped tracks uncapped), decoded]
  · rw [held, documented.fresh, List.nil_append]
    rcases tracks with ⟨unflagged, none⟩ | ⟨flagged, whole⟩
    · have buffered : held pending driver = driver.buffer := by
        rw [held, none, List.nil_append]
      have advertised : driver.advertised = advertisedLength driver.buffer := by
        rw [advertised_of_unflagged (.inl ⟨unflagged, none⟩) unflagged, if_pos (by omega), buffered]
      rw [buffered] at there ⊢
      simp [afterRefusal, advertised, unflagged, there]
    · simp [afterRefusal, advertised_of_flagged flagged, flagged]

end Turn
end Routectl.Bedrock
