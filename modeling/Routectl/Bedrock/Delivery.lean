import Routectl.Bedrock.Cuts

/-! Which streams of frames reach the handler whole, however they are cut, and
what the driver keeps on any bytes. -/
namespace Routectl.Bedrock

variable {State Message Handler Chunk HandlerError : Type}

/-- No bad frame is followed by anything. -/
def BadLast (parse : Bytes → Option Message) (frames : List Bytes) (tail : Bytes) : Prop :=
  ∀ earlier frame later, frames = earlier ++ frame :: later → parse frame = none →
    later = [] ∧ tail = []

theorem BadLast.contained {parse : Bytes → Option Message} {frames chunks : List Bytes}
    {tail : Bytes} (last : BadLast parse frames tail)
    (stream : chunks.flatten = frames.flatten ++ tail) : ¬ Spills parse 0 frames chunks := by
  rintro ⟨before, chunk, after, earlier, frame, later, cut, framing, corrupted, starts, short, past⟩
  obtain ⟨none, ended⟩ := last earlier frame later framing corrupted
  have lengths := congrArg List.length stream
  simp only [cut, framing, none, ended, List.flatten_append, List.flatten_cons, List.flatten_nil,
    List.append_nil, List.length_append] at lengths
  omega

section Ends

/-- The stream ended with an error. -/
def Errs (output : Output Message Handler Chunk HandlerError) : Prop :=
  ∃ error, .error error ∈ output.yielded

def Accepts (handler : FrameHandler Handler Message Chunk HandlerError) : Prop :=
  ∀ state message, ∃ result, handler.onFrame state message = .ok result

variable {handler : FrameHandler Handler Message Chunk HandlerError} {label : FrameLabel}

/-- The frames handed to a handler that refuses none, and no error among its chunks. -/
theorem feed_accepts (accepts : Accepts handler) (messages : List Message)
    {output : Output Message Handler Chunk HandlerError} (live : output.ended = false)
    (clean : ¬ Errs output) :
    (feed handler output messages).handed = output.handed ++ messages ∧
      (feed handler output messages).ended = false ∧ ¬ Errs (feed handler output messages) := by
  induction messages generalizing output with
  | nil => exact ⟨(List.append_nil _).symm, live, clean⟩
  | cons message rest ih =>
    obtain ⟨⟨chunks, next⟩, accepted⟩ := accepts output.handler message
    have given : output.hand handler message =
        { output with handed := output.handed ++ [message], handler := next,
                      yielded := output.yielded ++ chunks.map .chunk } := by
      rw [Output.hand]
      simp only [accepted]
    have still : ¬ Errs (output.hand handler message) := by
      rw [given]
      rintro ⟨error, mem⟩
      rcases List.mem_append.mp mem with old | new
      · exact clean ⟨error, old⟩
      · obtain ⟨chunk, -, same⟩ := List.mem_map.mp new
        cases same
    have fed : feed handler output (message :: rest) =
        feed handler (output.hand handler message) rest := by
      rw [feed, List.foldl_cons, live]
      rfl
    rw [fed]
    have step := @ih (output.hand handler message) (by rw [given]; exact live) still
    rw [given, List.append_assoc] at step
    rw [given]
    exact step

theorem errs_fail (output : Output Message Handler Chunk HandlerError)
    (error : StreamError HandlerError) : Errs (output.fail error) :=
  ⟨error, List.mem_append_right _ List.mem_cons_self⟩

/-- A stream closed while something is held ends with one error more, and only then. -/
theorem finish_settled {run : Run Message Handler Chunk HandlerError}
    (live : run.output.ended = false) (settled : run.ledger.Settled) :
    (run.ledger.bytes ≠ [] → ∃ text, run.finish handler label = run.output.fail (.streaming text)) ∧
      (run.ledger.bytes = [] →
        run.finish handler label =
          { run.output with
            yielded := run.output.yielded ++ (handler.onEof run.output.handler).map .chunk,
            ended := true }) := by
  constructor
  · intro left
    simp only [Run.finish, live, Bool.false_eq_true, if_false]
    split
    case isTrue => exact ⟨_, rfl⟩
    case isFalse empty =>
      rcases settled.boundary.mpr left with buffered | prelude
      · exact absurd buffered empty
      · rw [if_pos prelude]
        exact ⟨_, rfl⟩
  · intro empty
    have nothing : ¬ (run.ledger.buffered ≠ 0 ∨ run.ledger.prelude = true) := by
      intro left
      exact settled.boundary.mp left empty
    simp only [not_or] at nothing
    simp only [Run.finish, live, Bool.false_eq_true, if_false]
    rw [if_neg nothing.1, if_neg nothing.2]

theorem errs_finish {run : Run Message Handler Chunk HandlerError}
    (live : run.output.ended = false) (clean : ¬ Errs run.output) (settled : run.ledger.Settled) :
    Errs (run.finish handler label) ↔ run.ledger.bytes ≠ [] := by
  obtain ⟨failing, closing⟩ := @finish_settled _ _ _ _ handler label run live settled
  by_cases empty : run.ledger.bytes = []
  · rw [closing empty]
    refine iff_of_false ?_ (fun left => left empty)
    rintro ⟨error, mem⟩
    rcases List.mem_append.mp mem with old | flushed
    · exact clean ⟨error, old⟩
    · obtain ⟨chunk, -, same⟩ := List.mem_map.mp flushed
      cases same
  · obtain ⟨text, failed⟩ := failing empty
    rw [failed]
    exact iff_of_true (errs_fail _ _) empty

theorem handed_finish (run : Run Message Handler Chunk HandlerError) :
    (run.finish handler label).handed = run.output.handed := by
  rw [Run.finish]
  repeat' split
  all_goals rfl

theorem start_clean (initial : Handler) :
    ¬ Errs (Run.start initial : Run Message Handler Chunk HandlerError).output := by
  rintro ⟨error, mem⟩
  cases mem

/-- What is expected of a stream: every intact frame handed on in order, and an
error exactly when it stopped inside a frame. -/
theorem expected_meaning {parse : Bytes → Option Message} (accepts : Accepts handler)
    (initial : Handler) (frames : List Bytes) {tail : Bytes} (unfinished : Unfinished tail) :
    (expected parse handler label initial frames tail).handed = frames.filterMap parse ∧
      (Errs (expected parse handler label initial frames tail) ↔ tail ≠ []) := by
  obtain ⟨handed, live, clean⟩ :=
    feed_accepts accepts (frames.filterMap parse) rfl (start_clean initial)
  obtain ⟨rest, more, frame⟩ := unfinished
  constructor
  · rw [expected, handed_finish]
    exact handed
  · exact @errs_finish _ _ _ _ handler label ⟨awaiting tail, _⟩ live clean (frame.settled more)

end Ends

section Delivered
variable {decoder : MessageFrameDecoder State Message} {pending : State → Bytes}
  {parse : Bytes → Option Message}

theorem decodeFrames_contained (documented : Documented decoder pending parse)
    (handler : FrameHandler Handler Message Chunk HandlerError) (label : FrameLabel)
    (initial : Handler) {frames chunks : List Bytes} {tail : Bytes}
    (framed : ∀ frame ∈ frames, IsFrame frame) (unfinished : Unfinished tail)
    (stream : chunks.flatten = frames.flatten ++ tail) (contained : ¬ Spills parse 0 frames chunks) :
    decodeFrames decoder handler label initial (chunks.map .ok) =
      expected parse handler label initial frames tail := by
  have inside : Inside [] frames := by
    intro frame more same
    have sized := (framed frame (by rw [same]; exact List.mem_cons_self)).sized
    rw [List.length_nil]
    omega
  have reaches := @foldl_frames _ _ _ _ parse handler label _ _ _ _ (Run.start initial).output
    framed unfinished inside stream contained rfl
  rw [decodeFrames_eq_run handler label documented, expected]
  have started : (Run.start initial : Run Message Handler Chunk HandlerError) =
      ⟨awaiting [], (Run.start initial).output⟩ := rfl
  rw [started]
  cases running : (feed handler (Run.start initial).output (frames.filterMap parse)).ended with
  | true => simp only [Run.finish, reaches.output, running, if_true]
  | false =>
    have same := reaches.ledger running
    have output := reaches.output
    simp only [Run.finish, same, output]

section Cost

/-- A handler that takes every frame and gives nothing. -/
def silent : FrameHandler Handler Message Chunk HandlerError where
  onFrame state _ := .ok ([], state)
  onEof _ := []

/-- A bad frame whose prelude was taken costs everything behind it in the chunk. -/
theorem receive_spilled {handler : FrameHandler Handler Message Chunk HandlerError}
    {label : FrameLabel} {frame : Bytes} (isFrame : IsFrame frame) (corrupted : parse frame = none)
    (more : Bytes) {output : Output Message Handler Chunk HandlerError}
    (live : output.ended = false) :
    Run.receive parse handler label ⟨awaiting (frame.take 12), output⟩
        (.ok (frame.drop 12 ++ more)) = ⟨awaiting [], output⟩ := by
  have sized := isFrame.sized
  have taken : (awaiting (frame.take 12)).prelude = true := by
    rw [awaiting]
    exact decide_eq_true (by rw [List.length_take]; omega)
  have joined : (awaiting (frame.take 12)).receive (frame.drop 12 ++ more) =
      ⟨frame ++ more, true⟩ := by
    rw [Ledger.receive, taken, ← List.append_assoc]
    simp only [awaiting, List.take_append_drop]
  have fuel : (frame ++ more).length + 1 = (frame ++ more).length - 1 + 1 + 1 := by
    rw [List.length_append]
    omega
  have emptied : (awaiting []).Settled := .empty
  simp only [Run.receive, live, Bool.false_eq_true, if_false, joined, Run.settle]
  rw [fuel, Run.drain, turn_frame isFrame, corrupted]
  simp only [if_true]
  rw [Run.drain, turn_awaiting emptied]

theorem accepts_silent :
    Accepts (silent : FrameHandler Handler Message Chunk HandlerError) := by
  intro state message
  exact ⟨([], state), rfl⟩

/-- A chunk that ends with a frame's prelude leaves just that prelude. -/
theorem receive_prelude {handler : FrameHandler Handler Message Chunk HandlerError}
    {label : FrameLabel} {earlier : List Bytes} {frame : Bytes}
    (before : ∀ other ∈ earlier, IsFrame other) (isFrame : IsFrame frame)
    {output : Output Message Handler Chunk HandlerError} (live : output.ended = false) :
    Reaches
      (Run.receive parse handler label ⟨awaiting [], output⟩ (.ok (earlier.flatten ++ frame.take 12)))
      (awaiting (frame.take 12)) (feed handler output (earlier.filterMap parse)) := by
  have sized := isFrame.sized
  have stopped : Unfinished (frame.take 12) := by
    refine ⟨frame.drop 12, ?_, ?_⟩
    · rw [ne_eq, List.drop_eq_nil_iff]
      omega
    · rw [List.take_append_drop]
      exact isFrame
  have inside : Inside [] earlier := by
    intro other more same
    have enough := (before other (by rw [same]; exact List.mem_cons_self)).sized
    rw [List.length_nil]
    omega
  refine @foldl_frames _ _ _ _ parse handler label [earlier.flatten ++ frame.take 12] earlier []
    (frame.take 12) output before stopped inside (by simp) ?_ live
  rintro ⟨start, chunk, after, first, other, last, cut, -, -, starts, -, -⟩
  cases start with
  | nil =>
    simp only [List.length_nil, List.flatten_nil, Nat.add_zero] at starts
    omega
  | cons head rest => cases rest <;> cases cut

theorem settled_byte (byte : UInt8) : (awaiting [byte]).Settled := by
  constructor
  · rfl
  · intro long
    exact absurd long (by simp [awaiting])
  · intro long
    exact absurd long (by simp [awaiting])

/-- A bad frame that something follows can be cut so that the end is told wrong. -/
theorem bad_cut (documented : Documented decoder pending parse) (label : FrameLabel)
    (initial : Handler) {earlier later : List Bytes} {frame tail : Bytes}
    (framed : ∀ other ∈ earlier ++ frame :: later, IsFrame other) (unfinished : Unfinished tail)
    (corrupted : parse frame = none) (followed : later.flatten ++ tail ≠ []) :
    ∃ chunks : List Bytes, chunks.flatten = (earlier ++ frame :: later).flatten ++ tail ∧
      decodeFrames decoder (silent : FrameHandler Handler Message Chunk HandlerError) label initial
          (chunks.map .ok) ≠
        expected parse silent label initial (earlier ++ frame :: later) tail := by
  have isFrame := framed frame (List.mem_append_right _ List.mem_cons_self)
  have before : ∀ other ∈ earlier, IsFrame other := fun other mem =>
    framed other (List.mem_append_left _ mem)
  have told := (@expected_meaning _ _ _ _ _ label parse
    (accepts_silent : Accepts (silent : FrameHandler Handler Message Chunk HandlerError)) initial
    (earlier ++ frame :: later) _ unfinished).2
  let reached : Output Message Handler Chunk HandlerError :=
    feed silent (Run.start initial).output (earlier.filterMap parse)
  obtain ⟨-, live, clean⟩ : reached.handed = _ ∧ reached.ended = false ∧ ¬ Errs reached :=
    feed_accepts accepts_silent (earlier.filterMap parse) rfl (start_clean initial)
  have first : Run.receive parse silent label (Run.start initial)
      (.ok (earlier.flatten ++ frame.take 12)) = ⟨awaiting (frame.take 12), reached⟩ := by
    have reaches := @receive_prelude _ _ _ _ parse silent label _ _ before isFrame
      (Run.start initial : Run Message Handler Chunk HandlerError).output rfl
    have waits := reaches.ledger live
    have gave : _ = reached := reaches.output
    rw [← waits, ← gave]
    rfl
  by_cases closed : tail = []
  · obtain ⟨more, byte, whole⟩ : ∃ more byte, later.flatten ++ tail = more ++ [byte] :=
      ⟨_, _, (List.dropLast_append_getLast followed).symm⟩
    refine ⟨[earlier.flatten ++ frame.take 12, frame.drop 12 ++ more, [byte]], ?_, ?_⟩
    · simp only [List.flatten_cons, List.flatten_nil, List.append_nil, List.flatten_append,
        List.append_assoc]
      rw [whole, ← List.append_assoc (frame.take 12), List.take_append_drop]
    · intro same
      have last : Run.receive parse silent label ⟨awaiting [], reached⟩ (.ok [byte]) =
          ⟨awaiting [byte], reached⟩ := by
        simp only [Run.receive, live, Bool.false_eq_true, if_false, Run.settle, awaiting,
          Ledger.receive, List.nil_append]
        rw [Run.drain, turn_awaiting (settled_byte byte)]
        rfl
      rw [decodeFrames_eq_run silent label documented, List.map_cons, List.map_cons, List.map_cons,
        List.map_nil, List.foldl_cons, first, List.foldl_cons,
        receive_spilled isFrame corrupted _ live, List.foldl_cons, last, List.foldl_nil] at same
      have errs := (@errs_finish _ _ _ _ silent label ⟨awaiting [byte], reached⟩ live clean
        (settled_byte byte)).mpr (List.cons_ne_nil _ _)
      rw [same] at errs
      exact told.mp errs closed
  · refine ⟨[earlier.flatten ++ frame.take 12, frame.drop 12 ++ (later.flatten ++ tail)], ?_, ?_⟩
    · simp only [List.flatten_cons, List.flatten_nil, List.append_nil, List.flatten_append,
        List.append_assoc]
      rw [← List.append_assoc (frame.take 12), List.take_append_drop]
    · intro same
      rw [decodeFrames_eq_run silent label documented, List.map_cons, List.map_cons, List.map_nil,
        List.foldl_cons, first, List.foldl_cons, receive_spilled isFrame corrupted _ live,
        List.foldl_nil] at same
      have quiet := (@errs_finish _ _ _ _ silent label ⟨awaiting [], reached⟩ live clean .empty)
      rw [same] at quiet
      exact quiet.mp (told.mpr closed) rfl

end Cost
end Delivered
end Routectl.Bedrock
