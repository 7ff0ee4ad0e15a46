import Routectl.Bedrock.Framing

/-! The driver without its decoder: the bytes since the last boundary and whether
their prelude has been taken. Under a documented decoder the driver runs as this. -/
namespace Routectl.Bedrock

variable {State Message Handler Chunk HandlerError : Type}

inductive Turn (Message : Type) where
  | capped (advertised : Nat)
  | complete (message : Message) (next : Ledger)
  | waiting (next : Ledger)
  | skipped (next : Ledger)

namespace Ledger

def turn (parse : Bytes → Option Message) (ledger : Ledger) : Turn Message :=
  let advertised := advertisedLength ledger.bytes
  if !ledger.prelude && 4 ≤ ledger.bytes.length && maxFrameBytes < advertised then .capped advertised
  else if ledger.bytes.length < 12 then .waiting ⟨ledger.bytes, false⟩
  else if ledger.bytes.length < advertised then .waiting ⟨ledger.bytes, true⟩
  else
    match parse (ledger.bytes.take advertised) with
    | some message => .complete message ⟨ledger.bytes.drop advertised, false⟩
    | none => .skipped ⟨afterRefusal ledger.prelude ledger.bytes, false⟩

def receive (ledger : Ledger) (bytes : Bytes) : Ledger :=
  { ledger with bytes := ledger.bytes ++ bytes }

/-- A prelude is only ever taken whole. -/
def Sound (ledger : Ledger) : Prop := ledger.prelude = true → 12 ≤ ledger.bytes.length

/-- The bytes the driver's own buffer holds of it. -/
def buffered (ledger : Ledger) : Nat :=
  ledger.bytes.length - if ledger.prelude then 12 else 0

/-- Nothing more can be decoded of it, and what it waits for is within the cap. -/
structure Settled (ledger : Ledger) : Prop where
  prelude : ledger.prelude = decide (12 ≤ ledger.bytes.length)
  partial_ : 12 ≤ ledger.bytes.length → ledger.bytes.length < advertisedLength ledger.bytes
  capped : 4 ≤ ledger.bytes.length → advertisedLength ledger.bytes ≤ maxFrameBytes

end Ledger

section Refinement
variable {decoder : MessageFrameDecoder State Message} {pending : State → Bytes}
  {parse : Bytes → Option Message} {driver : Driver State} {ledger : Ledger}

def Follows (pending : State → Bytes) : Iteration State Message → Turn Message → Prop
  | .capped seen, .capped advertised => seen = advertised
  | .complete handed next, .complete message ledger => handed = message ∧ Mirrors pending ledger next
  | .waiting next, .waiting ledger => Mirrors pending ledger next
  | .skipped next, .skipped ledger => Mirrors pending ledger next
  | _, _ => False

theorem Mirrors.sound (mirrors : Mirrors pending ledger driver) : ledger.Sound := by
  intro prelude
  rcases mirrors.tracks with ⟨unflagged, -⟩ | ⟨-, whole⟩
  · cases unflagged.symm.trans (mirrors.flag.trans prelude)
  · rw [← mirrors.bytes, held, List.length_append, whole]
    exact Nat.le_add_right 12 _

theorem Mirrors.receive (mirrors : Mirrors pending ledger driver) (bytes : Bytes) :
    Mirrors pending (ledger.receive bytes) { driver with buffer := driver.buffer ++ bytes } where
  tracks := mirrors.tracks
  bytes := by
    rw [Ledger.receive, ← mirrors.bytes, held, held, List.append_assoc]
  flag := mirrors.flag

theorem Mirrors.buffered (mirrors : Mirrors pending ledger driver) :
    driver.buffer.length = ledger.buffered := by
  rw [Ledger.buffered, ← mirrors.bytes, ← mirrors.flag, held, List.length_append]
  rcases mirrors.tracks with ⟨unflagged, none⟩ | ⟨flagged, whole⟩
  · simp [unflagged, none]
  · simp [flagged, whole]

theorem Mirrors.fuel (mirrors : Mirrors pending ledger driver) :
    turns driver = ledger.bytes.length + 1 := by
  rw [turns, ← mirrors.bytes, held, List.length_append]
  rcases mirrors.tracks with ⟨unflagged, none⟩ | ⟨flagged, whole⟩
  · simp [unflagged, none]
  · simp [flagged, whole]
    omega

/-- One turn of the driver is one turn of the ledger it mirrors. -/
theorem iterate_follows (documented : Documented decoder pending parse)
    (mirrors : Mirrors pending ledger driver) :
    Follows pending (iterate decoder driver) (ledger.turn parse) := by
  obtain ⟨tracks, bytes, flag⟩ := mirrors
  obtain ⟨bytes', prelude⟩ := ledger
  simp only at bytes flag
  subst bytes flag
  rw [Ledger.turn]
  split
  case isTrue exceeds =>
    simp only [Bool.and_eq_true, Bool.not_eq_true', decide_eq_true_eq] at exceeds
    rw [iterate_capped tracks exceeds.1.1 exceeds.1.2 exceeds.2]
    rfl
  case isFalse within =>
    have uncapped : Uncapped pending driver := by
      simp only [Bool.and_eq_true, Bool.not_eq_true', decide_eq_true_eq, not_and, Nat.not_lt] at within
      rw [Uncapped]
      cases flag : driver.smithyHasPreludeBuffered with
      | true => exact .inl rfl
      | false =>
        rcases Nat.lt_or_ge (held pending driver).length 4 with short | long
        · exact .inr (.inl short)
        · exact .inr (.inr (within ⟨flag, long⟩))
    split
    case isTrue short =>
      obtain ⟨next, turned, mirrors⟩ := iterate_short documented tracks short uncapped
      rw [turned]
      exact mirrors
    case isFalse long =>
      have long := Nat.not_lt.mp long
      split
      case isTrue unfinished =>
        obtain ⟨next, turned, mirrors⟩ :=
          iterate_waits documented tracks long unfinished uncapped
        rw [turned]
        exact mirrors
      case isFalse there =>
        have there := Nat.not_lt.mp there
        cases intact : parse ((held pending driver).take (advertisedLength (held pending driver))) with
        | some message =>
          obtain ⟨next, turned, mirrors⟩ :=
            iterate_completes documented tracks long there intact uncapped
          rw [turned]
          exact ⟨rfl, mirrors⟩
        | none =>
          obtain ⟨next, turned, mirrors⟩ :=
            iterate_refuses documented tracks long there intact uncapped
          rw [turned]
          exact mirrors

end Refinement

/-- The stream as the ledger sees it. -/
structure Run (Message Handler Chunk HandlerError : Type) where
  ledger : Ledger
  output : Output Message Handler Chunk HandlerError

namespace Run
section Loop
variable (parse : Bytes → Option Message)
  (handler : FrameHandler Handler Message Chunk HandlerError) (label : FrameLabel)

def drain : Nat → Run Message Handler Chunk HandlerError → Run Message Handler Chunk HandlerError
  | 0, run => run
  | fuel + 1, run =>
    match run.ledger.turn parse with
    | .capped advertised =>
      { run with output := run.output.fail (.streaming (label.capExceeded advertised)) }
    | .waiting ledger => { run with ledger }
    | .skipped ledger => drain fuel { run with ledger }
    | .complete message ledger =>
      let output := run.output.hand handler message
      if output.ended then { ledger, output } else drain fuel { ledger, output }

def settle (run : Run Message Handler Chunk HandlerError) : Run Message Handler Chunk HandlerError :=
  drain parse handler label (run.ledger.bytes.length + 1) run

def receive (run : Run Message Handler Chunk HandlerError) (item : Except String Bytes) :
    Run Message Handler Chunk HandlerError :=
  if run.output.ended then run
  else
    match item with
    | .ok bytes => settle parse handler label { run with ledger := run.ledger.receive bytes }
    | .error reason =>
      { run with output := run.output.fail (.streaming (label.upstreamRead reason)) }

def finish (run : Run Message Handler Chunk HandlerError) :
    Output Message Handler Chunk HandlerError :=
  if run.output.ended then run.output
  else if run.ledger.buffered ≠ 0 then
    run.output.fail (.streaming (label.eofBuffered run.ledger.buffered))
  else if run.ledger.prelude then run.output.fail (.streaming label.eofPrelude)
  else
    { run.output with
      yielded := run.output.yielded ++ (handler.onEof run.output.handler).map .chunk,
      ended := true }

def start (initial : Handler) : Run Message Handler Chunk HandlerError :=
  { ledger := ⟨[], false⟩,
    output := { handler := initial, handed := [], yielded := [], ended := false } }

end Loop
end Run

section Simulation
variable {decoder : MessageFrameDecoder State Message} {pending : State → Bytes}
  {parse : Bytes → Option Message} (handler : FrameHandler Handler Message Chunk HandlerError)
  (label : FrameLabel)

/-- A session and the run it is seen as. -/
structure Simulates (pending : State → Bytes) (session : Session State Message Handler Chunk HandlerError)
    (run : Run Message Handler Chunk HandlerError) : Prop where
  mirrors : Mirrors pending run.ledger session.driver
  output : session.output = run.output

theorem drain_simulates (documented : Documented decoder pending parse) (fuel : Nat)
    {session : Session State Message Handler Chunk HandlerError}
    {run : Run Message Handler Chunk HandlerError} (simulates : Simulates pending session run) :
    Simulates pending (drain decoder handler label fuel session)
      (run.drain parse handler label fuel) := by
  induction fuel generalizing session run with
  | zero => exact simulates
  | succ fuel ih =>
    have follows := iterate_follows documented simulates.mirrors
    rw [drain, Run.drain]
    cases driven : iterate decoder session.driver <;> cases turned : run.ledger.turn parse <;>
      rw [driven, turned] at follows
    case capped.capped seen advertised =>
      have same : seen = advertised := follows
      exact ⟨simulates.mirrors, by simp only [simulates.output, same]⟩
    case complete.complete handed next message ledger =>
      obtain ⟨same, mirrors⟩ := follows
      simp only [same, simulates.output]
      split
      · exact ⟨mirrors, rfl⟩
      · exact ih ⟨mirrors, rfl⟩
    case waiting.waiting next ledger => exact ⟨follows, simulates.output⟩
    case skipped.skipped next ledger => exact ih ⟨follows, simulates.output⟩
    all_goals cases follows

theorem receive_simulates (documented : Documented decoder pending parse)
    (item : Except String Bytes) {session : Session State Message Handler Chunk HandlerError}
    {run : Run Message Handler Chunk HandlerError} (simulates : Simulates pending session run) :
    Simulates pending (receive decoder handler label session item)
      (run.receive parse handler label item) := by
  cases item with
  | error reason =>
    simp only [receive, Run.receive, simulates.output]
    split
    · exact simulates
    · exact ⟨simulates.mirrors, rfl⟩
  | ok bytes =>
    have received := simulates.mirrors.receive bytes
    simp only [receive, Run.receive, simulates.output, decodeBuffered, Run.settle, received.fuel]
    split
    · exact simulates
    · exact drain_simulates handler label documented _ ⟨received, rfl⟩

theorem finish_simulates {session : Session State Message Handler Chunk HandlerError}
    {run : Run Message Handler Chunk HandlerError} (simulates : Simulates pending session run) :
    finish handler label session = run.finish handler label := by
  have length := simulates.mirrors.buffered
  have empty : session.driver.buffer ≠ [] ↔ run.ledger.buffered ≠ 0 := by
    rw [← length, ne_eq, ne_eq, List.length_eq_zero_iff]
  simp only [finish, Run.finish, simulates.output, simulates.mirrors.flag, empty, length]

theorem start_simulates (documented : Documented decoder pending parse) (initial : Handler) :
    Simulates pending
      (start decoder initial : Session State Message Handler Chunk HandlerError)
      (Run.start initial) := by
  refine ⟨⟨.inl ⟨rfl, documented.fresh⟩, ?_, rfl⟩, rfl⟩
  rw [held, start, Run.start, documented.fresh]
  rfl

theorem opened_simulates (documented : Documented decoder pending parse) (initial : Handler) :
    Simulates pending
      (decodeBuffered decoder handler label
        (start decoder initial : Session State Message Handler Chunk HandlerError))
      (Run.start initial) := by
  have started : Simulates pending
      (start decoder initial : Session State Message Handler Chunk HandlerError) (Run.start initial) :=
    start_simulates documented initial
  have drained := drain_simulates handler label documented 1 started
  rw [decodeBuffered, started.mirrors.fuel]
  exact drained

theorem foldl_simulates (documented : Documented decoder pending parse)
    (items : List (Except String Bytes)) {session : Session State Message Handler Chunk HandlerError}
    {run : Run Message Handler Chunk HandlerError} (simulates : Simulates pending session run) :
    Simulates pending (items.foldl (receive decoder handler label) session)
      (items.foldl (Run.receive parse handler label) run) := by
  induction items generalizing session run with
  | nil => exact simulates
  | cons item rest ih => exact ih (receive_simulates handler label documented item simulates)

/-- The framing driver gives what the ledger's run gives. -/
theorem decodeFrames_eq_run (documented : Documented decoder pending parse) (initial : Handler)
    (items : List (Except String Bytes)) :
    decodeFrames decoder handler label initial items =
      Run.finish handler label
        (items.foldl (Run.receive parse handler label) (Run.start initial)) :=
  finish_simulates handler label
    (foldl_simulates handler label documented items (opened_simulates handler label documented initial))

end Simulation
end Routectl.Bedrock
