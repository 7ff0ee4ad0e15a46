import Routectl.Bedrock.Delivery

/-! What the framing driver promises: which streams of frames it delivers however
they are cut, and what it keeps and tells over any bytes. -/
namespace Routectl.Bedrock

variable {State Message Handler Chunk HandlerError : Type}

/-- A driver the loop may stand at, over any bytes. -/
inductive Stands (decoder : MessageFrameDecoder State Message) : Driver State → Prop where
  | opened : Stands decoder { buffer := [], decoder := decoder.new, smithyHasPreludeBuffered := false }
  | received (bytes : Bytes) {driver : Driver State} (before : Stands decoder driver) :
      Stands decoder { driver with buffer := driver.buffer ++ bytes }
  | completed {driver next : Driver State} {message : Message} (before : Stands decoder driver)
      (turned : iterate decoder driver = .complete message next) : Stands decoder next
  | waited {driver next : Driver State} (before : Stands decoder driver)
      (turned : iterate decoder driver = .waiting next) : Stands decoder next
  | skipped {driver next : Driver State} (before : Stands decoder driver)
      (turned : iterate decoder driver = .skipped next) : Stands decoder next

section Arbitrary
variable {decoder : MessageFrameDecoder State Message} {pending : State → Bytes}
  {parse : Bytes → Option Message} {driver next : Driver State} {ledger : Ledger}

theorem complete_follows (documented : Documented decoder pending parse)
    (mirrors : Mirrors pending ledger driver) {message : Message}
    (turned : iterate decoder driver = .complete message next) :
    ∃ after, Mirrors pending after next ∧ after.bytes.length < ledger.bytes.length := by
  have follows := iterate_follows documented mirrors
  rw [turned] at follows
  cases seen : ledger.turn parse with
  | complete handed after =>
    rw [seen] at follows
    exact ⟨after, follows.2, (Ledger.turn_complete documented.sized seen).2⟩
  | capped | waiting | skipped =>
    rw [seen] at follows
    cases follows

theorem skipped_follows (documented : Documented decoder pending parse)
    (mirrors : Mirrors pending ledger driver) (turned : iterate decoder driver = .skipped next) :
    ∃ after, Mirrors pending after next ∧ after.bytes.length < ledger.bytes.length := by
  have follows := iterate_follows documented mirrors
  rw [turned] at follows
  cases seen : ledger.turn parse with
  | skipped after =>
    rw [seen] at follows
    exact ⟨after, follows, (Ledger.turn_skipped seen).2⟩
  | capped | waiting | complete =>
    rw [seen] at follows
    cases follows

theorem waiting_follows (documented : Documented decoder pending parse)
    (mirrors : Mirrors pending ledger driver) (turned : iterate decoder driver = .waiting next) :
    ∃ after, Mirrors pending after next := by
  have follows := iterate_follows documented mirrors
  rw [turned] at follows
  cases seen : ledger.turn parse with
  | waiting after =>
    rw [seen] at follows
    exact ⟨after, follows⟩
  | capped | skipped | complete =>
    rw [seen] at follows
    cases follows

theorem Stands.mirrors (documented : Documented decoder pending parse)
    (stands : Stands decoder driver) : ∃ ledger, Mirrors pending ledger driver := by
  induction stands with
  | opened =>
    refine ⟨⟨[], false⟩, .inl ⟨rfl, documented.fresh⟩, ?_, rfl⟩
    rw [held, documented.fresh]
    rfl
  | received bytes _ ih =>
    obtain ⟨ledger, mirrors⟩ := ih
    exact ⟨_, mirrors.receive bytes⟩
  | completed _ turned ih =>
    obtain ⟨ledger, mirrors⟩ := ih
    obtain ⟨after, follows, -⟩ := complete_follows documented mirrors turned
    exact ⟨after, follows⟩
  | waited _ turned ih =>
    obtain ⟨ledger, mirrors⟩ := ih
    exact waiting_follows documented mirrors turned
  | skipped _ turned ih =>
    obtain ⟨ledger, mirrors⟩ := ih
    obtain ⟨after, follows, -⟩ := skipped_follows documented mirrors turned
    exact ⟨after, follows⟩

/-- A turn after which the loop goes on has consumed something. -/
theorem Stands.progress (documented : Documented decoder pending parse)
    (stands : Stands decoder driver) :
    (∀ message next, iterate decoder driver = .complete message next → turns next < turns driver) ∧
      ∀ next, iterate decoder driver = .skipped next → turns next < turns driver := by
  obtain ⟨ledger, mirrors⟩ := stands.mirrors documented
  constructor
  · intro message next turned
    obtain ⟨after, follows, shrinks⟩ := complete_follows documented mirrors turned
    rw [follows.fuel, mirrors.fuel]
    exact Nat.succ_lt_succ shrinks
  · intro next turned
    obtain ⟨after, follows, shrinks⟩ := skipped_follows documented mirrors turned
    rw [follows.fuel, mirrors.fuel]
    exact Nat.succ_lt_succ shrinks

/-- The loop stops by itself: more turns than it is given change nothing. -/
theorem Stands.stops (documented : Documented decoder pending parse)
    (handler : FrameHandler Handler Message Chunk HandlerError) (label : FrameLabel)
    (stands : Stands decoder driver) {fuel : Nat} (enough : turns driver ≤ fuel) (more : Nat)
    (output : Output Message Handler Chunk HandlerError) :
    drain decoder handler label (fuel + more) ⟨driver, output⟩ =
      drain decoder handler label fuel ⟨driver, output⟩ := by
  induction fuel generalizing driver output with
  | zero =>
    rw [turns] at enough
    omega
  | succ fuel ih =>
    obtain ⟨completes, skips⟩ := stands.progress documented
    simp only [Nat.succ_add, drain]
    cases turned : iterate decoder driver with
    | capped advertised => rfl
    | waiting next => rfl
    | skipped next =>
      have shrinks := skips next turned
      exact ih (stands.skipped turned) (by omega) output
    | complete message next =>
      have shrinks := completes message next turned
      simp only
      split
      · rfl
      · exact ih (stands.completed turned) (by omega) _

/-- What a stream still being read keeps. -/
theorem received_bounded (documented : Documented decoder pending parse)
    (handler : FrameHandler Handler Message Chunk HandlerError) (label : FrameLabel)
    (initial : Handler) (items : List (Except String Bytes))
    {session : Session State Message Handler Chunk HandlerError}
    (read : session = items.foldl (receive decoder handler label)
      (decodeBuffered decoder handler label (start decoder initial)))
    (live : session.output.ended = false) :
    (4 ≤ (held pending session.driver).length →
        advertisedLength (held pending session.driver) ≤ maxFrameBytes) ∧
      session.driver.buffer.length < maxFrameBytes := by
  have simulates := foldl_simulates handler label documented items
    (opened_simulates handler label documented initial)
  rw [← read] at simulates
  have rests := @Run.foldl_rests _ _ _ _ parse handler label documented.sized items _
    (Run.start_rests initial)
  rcases rests with ended | settled
  · rw [← simulates.output] at ended
    cases live.symm.trans ended
  · have bounded := settled.bounded
    have buffered := simulates.mirrors.buffered
    rw [Ledger.buffered] at buffered
    rw [simulates.mirrors.bytes]
    exact ⟨settled.capped, by omega⟩

end Arbitrary

theorem length_prelude {bytes : Bytes} (whole : ¬ bytes.length < 12) :
    (bytes.take 12).length = 12 :=
  List.length_take_of_le (Nat.not_lt.mp whole)

/-- A decoder that keeps the promises, over any reading of whole frames. -/
def bufferedDecoder (parse : Bytes → Option Message) :
    MessageFrameDecoder { bytes : Bytes // bytes = [] ∨ bytes.length = 12 } Message where
  new := ⟨[], .inl rfl⟩
  decodeFrame state buffer :=
    let bytes := state.val ++ buffer
    if short : bytes.length < 12 then (.incomplete, 0, state)
    else if bytes.length < advertisedLength bytes then
      (.incomplete, 12 - state.val.length,
        ⟨bytes.take 12, .inr (length_prelude short)⟩)
    else
      match parse (bytes.take (advertisedLength bytes)) with
      | some message => (.complete message, advertisedLength bytes - state.val.length, ⟨[], .inl rfl⟩)
      | none => (.error, 0, state)

theorem documented_buffered {parse : Bytes → Option Message}
    (sized : ∀ frame message, parse frame = some message → 16 ≤ frame.length) :
    Documented (bufferedDecoder parse) Subtype.val parse where
  fresh := rfl
  sized := sized
  short state buffer short := by
    refine ⟨state, ?_, rfl⟩
    simp only [bufferedDecoder]
    rw [dif_pos short]
  waits state buffer long unfinished := by
    refine ⟨⟨(state.val ++ buffer).take 12, .inr (by rw [List.length_take]; omega)⟩, ?_, rfl⟩
    simp only [bufferedDecoder]
    rw [dif_neg (Nat.not_lt.mpr long), if_pos unfinished]
  completes state buffer message long there intact := by
    refine ⟨⟨[], .inl rfl⟩, ?_, rfl⟩
    simp only [bufferedDecoder]
    rw [dif_neg (Nat.not_lt.mpr long), if_neg (Nat.not_lt.mpr there), intact]
  refuses state buffer long there corrupted := by
    refine ⟨0, state, ?_⟩
    simp only [bufferedDecoder]
    rw [dif_neg (Nat.not_lt.mpr long), if_neg (Nat.not_lt.mpr there), corrupted]

/-- The frame with no headers and no payload, and the same with a bad checksum. -/
def emptyFrame : Bytes := [0, 0, 0, 16, 0, 0, 0, 0, 5, 0xc2, 0x48, 0xeb, 0x7d, 0x98, 0xc8, 0xff]

def damagedFrame : Bytes := [0, 0, 0, 16, 0, 0, 0, 0, 5, 0xc2, 0x48, 0xeb, 0x7d, 0x98, 0xc8, 0xfe]

def parseEmpty (bytes : Bytes) : Option Unit := if bytes = emptyFrame then some () else none

theorem parseEmpty_sized (frame : Bytes) (message : Unit) (parsed : parseEmpty frame = some message) :
    16 ≤ frame.length := by
  rw [parseEmpty] at parsed
  split at parsed
  case isTrue same =>
    rw [same]
    exact Nat.le_refl 16
  case isFalse => cases parsed

theorem isFrame_damaged : IsFrame damagedFrame where
  sized := Nat.le_refl 16
  capped := by
    rw [maxFrameBytes]
    exact (by omega : 16 ≤ 8 * 1024 * 1024)
  length := rfl

theorem isFrame_empty : IsFrame emptyFrame where
  sized := Nat.le_refl 16
  capped := by
    rw [maxFrameBytes]
    exact (by omega : 16 ≤ 8 * 1024 * 1024)
  length := rfl

/-- Every cut of a stream of frames delivers it exactly when no bad frame is
followed by anything; a cut that lets no bad frame spill delivers any of them. Over
any bytes each repeated turn consumes, the cap holds, and what is left is told. -/
theorem frames_delivered_iff {decoder : MessageFrameDecoder State Message}
    {pending : State → Bytes} {parse : Bytes → Option Message}
    (documented : Documented decoder pending parse) (label : FrameLabel) (initial : Handler) :
    (∀ frames tail, (∀ frame ∈ frames, IsFrame frame) → Unfinished tail →
      ((∀ (handler : FrameHandler Handler Message Chunk HandlerError) (chunks : List Bytes),
          chunks.flatten = frames.flatten ++ tail →
            decodeFrames decoder handler label initial (chunks.map .ok) =
              expected parse handler label initial frames tail) ↔
        BadLast parse frames tail) ∧
      (∀ (handler : FrameHandler Handler Message Chunk HandlerError) (chunks : List Bytes),
        chunks.flatten = frames.flatten ++ tail → ¬ Spills parse 0 frames chunks →
          decodeFrames decoder handler label initial (chunks.map .ok) =
            expected parse handler label initial frames tail) ∧
      ∀ handler : FrameHandler Handler Message Chunk HandlerError, Accepts handler →
        (expected parse handler label initial frames tail).handed = frames.filterMap parse ∧
          (Errs (expected parse handler label initial frames tail) ↔ tail ≠ [])) ∧
    (∀ driver, Stands decoder driver →
      (∀ message next, iterate decoder driver = .complete message next →
        turns next < turns driver) ∧
      (∀ next, iterate decoder driver = .skipped next → turns next < turns driver) ∧
      ∀ (handler : FrameHandler Handler Message Chunk HandlerError) output more,
        drain decoder handler label (turns driver + more) ⟨driver, output⟩ =
          drain decoder handler label (turns driver) ⟨driver, output⟩) ∧
    ∀ (handler : FrameHandler Handler Message Chunk HandlerError) items session,
      session = items.foldl (receive decoder handler label)
          (decodeBuffered decoder handler label (start decoder initial)) →
        session.output.ended = false →
          ((4 ≤ (held pending session.driver).length →
              advertisedLength (held pending session.driver) ≤ maxFrameBytes) ∧
            session.driver.buffer.length < maxFrameBytes) ∧
          (session.driver.buffer ≠ [] ∨ session.driver.smithyHasPreludeBuffered = true →
            ∃ text, decodeFrames decoder handler label initial items =
              session.output.fail (.streaming text)) := by
  refine ⟨?_, ?_, ?_⟩
  · intro frames tail framed unfinished
    refine ⟨⟨?_, ?_⟩, ?_, ?_⟩
    · intro delivered earlier frame later framing corrupted
      apply Classical.byContradiction
      intro followed
      have more : later.flatten ++ tail ≠ [] := by
        intro nothing
        obtain ⟨empty, ended⟩ := List.append_eq_nil_iff.mp nothing
        apply followed
        refine ⟨?_, ended⟩
        cases later with
        | nil => rfl
        | cons next rest =>
          have sized := (framed next (by rw [framing]; simp)).sized
          rw [List.flatten_cons] at empty
          rw [(List.append_eq_nil_iff.mp empty).1] at sized
          cases sized
      rw [framing] at framed delivered
      obtain ⟨chunks, stream, differs⟩ :=
        @bad_cut _ _ Handler Chunk HandlerError _ _ _ documented label initial _ _ _ _ framed
          unfinished corrupted more
      exact differs (delivered silent chunks stream)
    · intro last handler chunks stream
      exact decodeFrames_contained documented handler label initial framed unfinished stream
        (last.contained stream)
    · intro handler chunks stream contained
      exact decodeFrames_contained documented handler label initial framed unfinished stream contained
    · intro handler accepts
      exact expected_meaning accepts initial frames unfinished
  · intro driver stands
    obtain ⟨completes, skips⟩ := stands.progress documented
    refine ⟨completes, skips, ?_⟩
    intro handler output more
    exact stands.stops documented handler label (Nat.le_refl _) more output
  · intro handler items session read live
    refine ⟨received_bounded documented handler label initial items read live, ?_⟩
    intro left
    rw [decodeFrames, ← read, finish, live]
    by_cases buffered : session.driver.buffer = []
    · rcases left with filled | flagged
      · exact absurd buffered filled
      · rw [if_neg Bool.false_ne_true, if_neg (not_not_intro buffered), if_pos flagged]
        exact ⟨_, rfl⟩
    · rw [if_neg Bool.false_ne_true, if_pos buffered]
      exact ⟨_, rfl⟩

/-- Two intact frames and a damaged one behind them, the first cut inside its prelude. -/
theorem frames_delivered_across_cut :
    decodeFrames (bufferedDecoder parseEmpty)
        (silent : FrameHandler Unit Unit Unit Unit) .invoke ()
        ([emptyFrame.take 5, emptyFrame.drop 5 ++ emptyFrame ++ damagedFrame].map .ok) =
      expected parseEmpty silent .invoke () [emptyFrame, emptyFrame, damagedFrame] [] ∧
    (expected parseEmpty (silent : FrameHandler Unit Unit Unit Unit) .invoke ()
      [emptyFrame, emptyFrame, damagedFrame] []).handed = [(), ()] := by
  have unfinished : Unfinished [] := ⟨emptyFrame, List.cons_ne_nil _ _, isFrame_empty⟩
  have framed : ∀ frame ∈ [emptyFrame, emptyFrame, damagedFrame], IsFrame frame := by
    intro frame mem
    simp only [List.mem_cons, List.not_mem_nil, or_false] at mem
    obtain rfl | rfl | rfl := mem
    · exact isFrame_empty
    · exact isFrame_empty
    · exact isFrame_damaged
  have last : BadLast parseEmpty [emptyFrame, emptyFrame, damagedFrame] [] := by
    intro earlier frame later framing corrupted
    match earlier with
    | [] =>
      cases framing
      cases corrupted
    | [_] =>
      cases framing
      cases corrupted
    | [_, _] =>
      cases framing
      exact ⟨rfl, rfl⟩
    | _ :: _ :: _ :: rest => cases rest <;> cases framing
  have delivered := ((frames_delivered_iff (documented_buffered parseEmpty_sized) .invoke ()).1
    [emptyFrame, emptyFrame, damagedFrame] [] framed unfinished).1.mpr last
      (silent : FrameHandler Unit Unit Unit Unit)
  exact ⟨delivered _ rfl, rfl⟩

/-- Behind a damaged frame cut after its prelude two intact frames are lost, and the
stream closes without an error. -/
theorem intact_frames_lost :
    Documented (bufferedDecoder parseEmpty) Subtype.val parseEmpty ∧
      (∀ frame ∈ [damagedFrame, emptyFrame, emptyFrame], IsFrame frame) ∧
      [damagedFrame, emptyFrame, emptyFrame].filterMap parseEmpty = [(), ()] ∧
      (decodeFrames (bufferedDecoder parseEmpty)
        (silent : FrameHandler Unit Unit Unit Unit) .invoke ()
        [.ok (damagedFrame.take 12), .ok (damagedFrame.drop 12 ++ emptyFrame ++ emptyFrame)]).handed =
          [] := by
  refine ⟨documented_buffered parseEmpty_sized, ?_, rfl, rfl⟩
  intro frame mem
  simp only [List.mem_cons, List.not_mem_nil, or_false] at mem
  rcases mem with rfl | rfl | rfl
  · exact isFrame_damaged
  · exact isFrame_empty
  · exact isFrame_empty

end Routectl.Bedrock
