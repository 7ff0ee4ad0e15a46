import Routectl.Bedrock.Progress

/-! Streams made of frames, cut into chunks. What a bad frame costs depends on
where its bytes were cut. -/
namespace Routectl.Bedrock

variable {State Message Handler Chunk HandlerError : Type}

/-- A frame whose prelude is right; its body may not be. -/
structure IsFrame (frame : Bytes) : Prop where
  sized : 16 ≤ frame.length
  capped : frame.length ≤ maxFrameBytes
  length : advertisedLength frame = frame.length

/-- What a stream may end with: nothing, or the beginning of one more frame. -/
def Unfinished (tail : Bytes) : Prop := ∃ rest, rest ≠ [] ∧ IsFrame (tail ++ rest)

/-- A chunk that starts behind the prelude of a bad frame and runs past its end. -/
def Spills (parse : Bytes → Option Message) (already : Nat) (frames chunks : List Bytes) : Prop :=
  ∃ before chunk after earlier frame later,
    chunks = before ++ chunk :: after ∧ frames = earlier ++ frame :: later ∧ parse frame = none ∧
      earlier.flatten.length + 12 ≤ already + before.flatten.length ∧
      already + before.flatten.length < earlier.flatten.length + frame.length ∧
      earlier.flatten.length + frame.length < already + before.flatten.length + chunk.length

def awaiting (bytes : Bytes) : Ledger := ⟨bytes, decide (12 ≤ bytes.length)⟩

def feed (handler : FrameHandler Handler Message Chunk HandlerError)
    (output : Output Message Handler Chunk HandlerError) (messages : List Message) :
    Output Message Handler Chunk HandlerError :=
  messages.foldl (fun output message => if output.ended then output else output.hand handler message)
    output

/-- What the stream should give: the intact frames, in order, and at its end an
error unless it ended between two frames. -/
def expected (parse : Bytes → Option Message)
    (handler : FrameHandler Handler Message Chunk HandlerError) (label : FrameLabel)
    (initial : Handler) (frames : List Bytes) (tail : Bytes) :
    Output Message Handler Chunk HandlerError :=
  Run.finish handler label
    { ledger := awaiting tail,
      output := feed handler (Run.start initial).output (frames.filterMap parse) }

theorem feed_ended (handler : FrameHandler Handler Message Chunk HandlerError)
    {output : Output Message Handler Chunk HandlerError} (ended : output.ended = true)
    (messages : List Message) : feed handler output messages = output := by
  induction messages with
  | nil => rfl
  | cons message rest ih =>
    rw [feed, List.foldl_cons, if_pos ended]
    exact ih

theorem feed_append (handler : FrameHandler Handler Message Chunk HandlerError)
    (output : Output Message Handler Chunk HandlerError) (first second : List Message) :
    feed handler output (first ++ second) = feed handler (feed handler output first) second := by
  rw [feed, feed, feed, List.foldl_append]

section Prefix

theorem IsFrame.settled {bytes rest : Bytes} (frame : IsFrame (bytes ++ rest)) (more : rest ≠ []) :
    (awaiting bytes).Settled := by
  have shorter : bytes.length < (bytes ++ rest).length := by
    rw [List.length_append]
    have positive := List.length_pos_iff.mpr more
    omega
  have advertised (long : 4 ≤ bytes.length) :
      advertisedLength bytes = (bytes ++ rest).length := by
    rw [← frame.length, advertisedLength_append long]
  constructor
  · rfl
  · intro long
    have long : 12 ≤ bytes.length := long
    simp only [awaiting, advertised (by omega)]
    exact shorter
  · intro long
    simp only [awaiting, advertised long]
    exact frame.capped

/-- The bytes end before the first frame left does. -/
def Inside (bytes : Bytes) (left : List Bytes) : Prop :=
  ∀ frame more, left = frame :: more → bytes.length < frame.length

theorem Inside.settled {bytes rest tail : Bytes} {left : List Bytes} (inside : Inside bytes left)
    (framed : ∀ frame ∈ left, IsFrame frame) (unfinished : Unfinished tail)
    (stream : bytes ++ rest = left.flatten ++ tail) : (awaiting bytes).Settled := by
  cases left with
  | nil =>
    obtain ⟨more, nonempty, frame⟩ := unfinished
    rw [List.flatten_nil, List.nil_append] at stream
    rw [← stream, List.append_assoc] at frame
    apply frame.settled
    intro empty
    exact nonempty (List.append_eq_nil_iff.mp empty).2
  | cons frame more =>
    have shorter := inside frame more rfl
    rw [List.flatten_cons, List.append_assoc] at stream
    obtain ⟨missing, whole, -⟩ | ⟨extra, cut, -⟩ := List.append_eq_append_iff.mp stream
    · have isFrame := framed frame List.mem_cons_self
      rw [whole] at isFrame
      apply isFrame.settled
      intro none
      rw [whole, none, List.append_nil] at shorter
      exact absurd shorter (Nat.lt_irrefl _)
    · rw [cut, List.length_append] at shorter
      omega

/-- Any beginning of the stream is some whole frames and the beginning of the next. -/
theorem split_stream {bytes rest tail : Bytes} {frames : List Bytes}
    (stream : bytes ++ rest = frames.flatten ++ tail) :
    ∃ done left remaining, frames = done ++ left ∧ bytes = done.flatten ++ remaining ∧
      remaining ++ rest = left.flatten ++ tail ∧ Inside remaining left := by
  induction frames generalizing bytes with
  | nil => exact ⟨[], [], bytes, rfl, rfl, stream, nofun⟩
  | cons frame more ih =>
    rcases Nat.lt_or_ge bytes.length frame.length with short | long
    · refine ⟨[], frame :: more, bytes, rfl, rfl, stream, ?_⟩
      intro first others same
      cases same
      exact short
    · rw [List.flatten_cons, List.append_assoc] at stream
      have taken : bytes = frame ++ bytes.drop frame.length := by
        have front := congrArg (List.take frame.length) stream
        rw [List.take_append_of_le_length long, List.take_left] at front
        conv_lhs => rw [← List.take_append_drop frame.length bytes, front]
      rw [taken, List.append_assoc] at stream
      obtain ⟨done, left, remaining, split, there, after, inside⟩ :=
        ih (List.append_cancel_left stream)
      refine ⟨frame :: done, left, remaining, by rw [split]; rfl, ?_, after, inside⟩
      rw [List.flatten_cons, List.append_assoc, ← there]
      exact taken

end Prefix

section Turns
variable {parse : Bytes → Option Message} {frame : Bytes}

theorem frame_there (isFrame : IsFrame frame) (more : Bytes) :
    advertisedLength (frame ++ more) = frame.length := by
  have sized := isFrame.sized
  rw [advertisedLength_append (by omega), isFrame.length]

theorem turn_frame (isFrame : IsFrame frame) (more : Bytes) (prelude : Bool) :
    Ledger.turn parse ⟨frame ++ more, prelude⟩ =
      match parse frame with
      | some message => .complete message ⟨more, false⟩
      | none => .skipped ⟨if prelude then [] else more, false⟩ := by
  have sized := isFrame.sized
  have capped := isFrame.capped
  have advertised := frame_there isFrame more
  have length : (frame ++ more).length = frame.length + more.length := List.length_append
  simp only [Ledger.turn, advertised, length, List.take_left, List.drop_left, afterRefusal]
  rw [if_neg (by simp; omega), if_neg (by omega), if_neg (by omega)]
  cases parse frame with
  | some message => rfl
  | none =>
    have positive : 0 < frame.length := by omega
    cases prelude <;> simp [positive]

theorem turn_awaiting {bytes : Bytes} {prelude : Bool} (settled : (awaiting bytes).Settled) :
    Ledger.turn parse ⟨bytes, prelude⟩ = .waiting (awaiting bytes) := by
  rw [Ledger.turn, if_neg]
  · rcases Nat.lt_or_ge bytes.length 12 with short | long
    · rw [if_pos short, awaiting, decide_eq_false (by omega)]
    · have waits : bytes.length < advertisedLength bytes := settled.partial_ long
      rw [if_neg (by simpa using long), if_pos waits, awaiting, decide_eq_true long]
  · simp only [Bool.and_eq_true, decide_eq_true_eq, not_and, Nat.not_lt]
    intro long
    exact settled.capped long.2

end Turns

section Whole
variable {parse : Bytes → Option Message}
  {handler : FrameHandler Handler Message Chunk HandlerError} {label : FrameLabel}

/-- The run gave this output and, unless it has ended, waits with this ledger. -/
structure Reaches (run : Run Message Handler Chunk HandlerError) (ledger : Ledger)
    (given : Output Message Handler Chunk HandlerError) : Prop where
  output : run.output = given
  ledger : given.ended = false → run.ledger = ledger

/-- The whole frames of what is held are handed on, given that nothing follows a
bad one whose prelude was already taken. -/
theorem drain_frames {fuel : Nat} {done : List Bytes} {remaining : Bytes} {prelude : Bool}
    {output : Output Message Handler Chunk HandlerError}
    (framed : ∀ frame ∈ done, IsFrame frame) (settled : (awaiting remaining).Settled)
    (alone : prelude = true → ∀ frame more, done = frame :: more → parse frame = none →
      more.flatten ++ remaining = [])
    (live : output.ended = false) (enough : (done.flatten ++ remaining).length < fuel) :
    Reaches
      (Run.drain parse handler label fuel ⟨⟨done.flatten ++ remaining, prelude⟩, output⟩)
      (awaiting remaining) (feed handler output (done.filterMap parse)) := by
  induction done generalizing fuel prelude output with
  | nil =>
    cases fuel with
    | zero => cases enough
    | succ fuel =>
      rw [List.flatten_nil, List.nil_append]
      rw [Run.drain, turn_awaiting settled]
      exact ⟨rfl, fun _ => rfl⟩
  | cons frame more ih =>
    cases fuel with
    | zero => cases enough
    | succ fuel =>
      have isFrame := framed frame List.mem_cons_self
      have later : ∀ frame ∈ more, IsFrame frame := fun other mem =>
        framed other (List.mem_cons_of_mem _ mem)
      have sized := isFrame.sized
      simp only [List.flatten_cons, List.append_assoc, List.length_append] at enough ⊢
      rw [Run.drain, turn_frame isFrame]
      cases intact : parse frame with
      | none =>
        have kept : (if prelude then [] else more.flatten ++ remaining) =
            more.flatten ++ remaining := by
          cases prelude with
          | false => rfl
          | true => exact (alone rfl frame more rfl intact).symm
        simp only [kept, List.filterMap_cons, intact]
        apply ih later
        · intro broken
          cases broken
        · exact live
        · rw [List.length_append]
          omega
      | some message =>
        simp only [List.filterMap_cons, intact]
        have fed : feed handler output (message :: more.filterMap parse) =
            feed handler (output.hand handler message) (more.filterMap parse) := by
          rw [feed, List.foldl_cons, live]
          rfl
        rw [fed]
        split
        case isTrue ended =>
          rw [feed_ended handler ended]
          refine ⟨rfl, ?_⟩
          intro running
          cases running.symm.trans ended
        case isFalse running =>
          apply ih later
          · intro broken
            cases broken
          · simpa using running
          · rw [List.length_append]
            omega

theorem foldl_ended (items : List (Except String Bytes))
    {run : Run Message Handler Chunk HandlerError} (ended : run.output.ended = true) :
    items.foldl (Run.receive parse handler label) run = run := by
  induction items with
  | nil => rfl
  | cons item rest ih =>
    have unchanged : run.receive parse handler label item = run := by
      simp only [Run.receive, ended, if_true]
    rw [List.foldl_cons, unchanged]
    exact ih

theorem foldl_frames {chunks frames : List Bytes} {bytes tail : Bytes}
    {output : Output Message Handler Chunk HandlerError}
    (framed : ∀ frame ∈ frames, IsFrame frame) (unfinished : Unfinished tail)
    (inside : Inside bytes frames) (stream : bytes ++ chunks.flatten = frames.flatten ++ tail)
    (contained : ¬ Spills parse bytes.length frames chunks) (live : output.ended = false) :
    Reaches
      ((chunks.map .ok).foldl (Run.receive parse handler label) ⟨awaiting bytes, output⟩)
      (awaiting tail) (feed handler output (frames.filterMap parse)) := by
  induction chunks generalizing frames bytes output with
  | nil =>
    cases frames with
    | nil =>
      simp only [List.flatten_nil, List.append_nil, List.nil_append] at stream
      rw [stream]
      exact ⟨rfl, fun _ => rfl⟩
    | cons frame more =>
      have shorter := inside frame more rfl
      have lengths := congrArg List.length stream
      simp only [List.flatten_nil, List.append_nil, List.flatten_cons, List.length_append] at lengths
      omega
  | cons chunk rest ih =>
    rw [List.flatten_cons, ← List.append_assoc] at stream
    obtain ⟨done, left, remaining, split, there, after, within⟩ := split_stream stream
    have lengths : bytes.length + chunk.length = done.flatten.length + remaining.length := by
      rw [← List.length_append, there, List.length_append]
    have earlier : ∀ frame ∈ done, IsFrame frame := fun frame mem =>
      framed frame (by rw [split]; exact List.mem_append_left _ mem)
    have later : ∀ frame ∈ left, IsFrame frame := fun frame mem =>
      framed frame (by rw [split]; exact List.mem_append_right _ mem)
    have settled := within.settled later unfinished after
    have drained : Reaches
        (Run.receive parse handler label ⟨awaiting bytes, output⟩ (.ok chunk))
        (awaiting remaining) (feed handler output (done.filterMap parse)) := by
      simp only [Run.receive, live, Run.settle, Ledger.receive, awaiting, there]
      apply drain_frames earlier settled
      · intro flagged frame more same corrupted
        have taken := of_decide_eq_true flagged
        apply Classical.byContradiction
        intro followed
        apply contained
        refine ⟨[], chunk, rest, [], frame, more ++ left, rfl, by rw [split, same]; rfl, corrupted,
          ?_, ?_, ?_⟩
        · simpa using taken
        · simpa using inside frame (more ++ left) (by rw [split, same]; rfl)
        · have positive := List.length_pos_iff.mpr followed
          rw [same, List.flatten_cons, List.length_append] at lengths
          rw [List.length_append] at positive
          simp only [List.flatten_nil, List.length_nil]
          omega
      · exact live
      · exact Nat.lt_succ_self _
    rw [List.map_cons, List.foldl_cons, split, List.filterMap_append, feed_append]
    cases running : (feed handler output (done.filterMap parse)).ended with
    | true =>
      rw [foldl_ended _ (by rw [drained.output, running]), feed_ended handler running]
      refine ⟨drained.output, ?_⟩
      intro unended
      cases unended.symm.trans running
    | false =>
      have resumed : Run.receive parse handler label ⟨awaiting bytes, output⟩ (.ok chunk) =
          ⟨awaiting remaining, feed handler output (done.filterMap parse)⟩ := by
        rw [← drained.ledger running, ← drained.output]
      rw [resumed]
      apply ih later within after _ running
      rintro ⟨before, next, others, first, frame, last, cut, framing, corrupted, starts, short, past⟩
      apply contained
      refine ⟨chunk :: before, next, others, done ++ first, frame, last, by rw [cut]; rfl,
        by rw [split, framing, List.append_assoc], corrupted, ?_, ?_, ?_⟩ <;>
      simp only [List.flatten_cons, List.flatten_append, List.length_append] <;>
      omega

end Whole
end Routectl.Bedrock
