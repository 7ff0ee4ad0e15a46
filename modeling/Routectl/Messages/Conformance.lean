import Routectl.Messages.Grammar

/-! Whole streams against the grammar: every stream keeps to it but the one whose held
finish is ended, by a usage chunk, while content that came after it is still open. -/
namespace Routectl.Messages
open Library Schema

/-- The client has been sent what the state says, and no more after the stop. -/
structure Rendering.Proper (rendering : Rendering) : Prop where
  bracketed : rendering.Bracketed
  fresh : rendering.state.started = false →
    rendering.events = [] ∧ rendering.state.finished = false
  framed : rendering.state.started = true → ∃ id model usage body,
    rendering.events = .messageStart id model usage :: body ++
        (if rendering.state.finished then [.messageStop] else []) ∧
      ∀ event ∈ body, event.inner = true
  drained : rendering.state.finished = true → rendering.state.opaqueIndexMap = ∅

/-- Inside the message: begun and not yet stopped. -/
structure Rendering.Within (rendering : Rendering) : Prop where
  proper : rendering.Proper
  begun : rendering.state.started = true
  running : rendering.state.finished = false

section Framing
variable {rendering next : Rendering}

theorem Rendering.Within.advances (within : rendering.Within) (advances : rendering.Advances next) :
    next.Within := by
  have begun := advances.started.trans within.begun
  have running := advances.finished.trans within.running
  refine ⟨⟨advances.bracketed within.proper.bracketed, ?_, ?_, ?_⟩, begun, running⟩
  · intro unstarted
    rw [begun] at unstarted
    cases unstarted
  · intro _
    obtain ⟨id, model, usage, body, shape, inner⟩ := within.proper.framed within.begun
    obtain ⟨more, extended, innerToo⟩ := advances.extended
    refine ⟨id, model, usage, body ++ more, ?_, ?_⟩
    · rw [extended, shape, within.running, running]
      simp
    · intro event member
      rcases List.mem_append.mp member with early | late
      · exact inner event early
      · exact innerToo event late
  · intro finished
    rw [running] at finished
    cases finished

theorem captureIdentity_proper (proper : rendering.Proper) (chunk : ChatChunk) :
    (rendering.captureIdentity chunk).Proper :=
  ⟨proper.bracketed, proper.fresh, proper.framed, proper.drained⟩

theorem ensureStarted_within (proper : rendering.Proper) (running : rendering.state.finished = false)
    (opening : Option OpeningUsage) : (rendering.ensureStarted opening).Within := by
  unfold Rendering.ensureStarted
  split
  case isTrue begun => exact ⟨proper, begun, running⟩
  case isFalse unstarted =>
    obtain ⟨empty, -⟩ := proper.fresh (Bool.not_eq_true _ ▸ unstarted)
    obtain ⟨id, model, usage, sent⟩ : ∃ id model usage, rendering.emitMessageStart opening =
        rendering.emit (.messageStart id model usage) := ⟨_, _, _, rfl⟩
    dsimp only
    rw [sent]
    refine ⟨⟨proper.bracketed.unmarked rfl, by simp, ?_, ?_⟩, rfl, running⟩
    · intro _
      refine ⟨id, model, usage, [], ?_, by simp⟩
      simp [Rendering.emit, empty, running]
    · intro finished
      exact proper.drained finished

/-- The stop ends the message where no replayed block is left. -/
theorem emitMessageStop_proper (within : rendering.Within)
    (drained : rendering.state.opaqueIndexMap = ∅) :
    rendering.emitMessageStop.Proper ∧ rendering.emitMessageStop.state.finished = true := by
  have running := within.running
  unfold Rendering.emitMessageStop
  rw [if_neg (by simp [running])]
  refine ⟨⟨within.proper.bracketed.unmarked rfl, ?_, ?_, fun _ => drained⟩, rfl⟩
  · intro unstarted
    exact absurd (within.begun.symm.trans unstarted) (by simp)
  · intro _
    obtain ⟨id, model, usage, body, shape, inner⟩ := within.proper.framed within.begun
    refine ⟨id, model, usage, body, ?_, inner⟩
    rw [running] at shape
    simp [Rendering.emit, shape]

theorem messageDelta_inner (finishReason matchedStopSequence : Option String)
    (usage : Option UsageDelta) :
    (messageDelta finishReason matchedStopSequence usage).mark = none ∧
      (messageDelta finishReason matchedStopSequence usage).inner = true := by
  cases matchedStopSequence <;> exact ⟨rfl, rfl⟩

theorem messageDelta_advances (rendering : Rendering) (finishReason matchedStopSequence : Option String)
    (usage : Option UsageDelta) :
    rendering.Advances (rendering.emit (messageDelta finishReason matchedStopSequence usage)) := by
  obtain ⟨unmarked, inner⟩ := messageDelta_inner finishReason matchedStopSequence usage
  exact unmarked_advances rendering unmarked inner

/-- Replayed blocks are drained, the message delta is sent and the message stopped. -/
theorem ending_proper (within : rendering.Within) (finishReason matchedStopSequence : Option String)
    (usage : Option UsageDelta) :
    ((rendering.closeLingeringOpaqueBlocks.emit
      (messageDelta finishReason matchedStopSequence usage)).emitMessageStop).Proper := by
  have drained := within.advances (closeLingering_advances rendering)
  have reported := drained.advances
    (messageDelta_advances _ finishReason matchedStopSequence usage)
  exact (emitMessageStop_proper reported (closeLingering_drained rendering)).1

theorem finish_proper (within : rendering.Within) (finishReason : String) (choice : ChunkChoice)
    (usage : Option UsageDelta) : (rendering.finish finishReason choice usage).Proper := by
  have closed := within.advances
    ((flushToolBlocks_advances rendering).trans (closeOpenBlock_advances _))
  unfold Rendering.finish
  dsimp only
  split
  · exact ending_proper closed _ _ _
  · split
    · exact closed.proper
    · exact ⟨closed.proper.bracketed, closed.proper.fresh, closed.proper.framed,
        closed.proper.drained⟩

theorem usageOnly_proper (within : rendering.Within) (usage : UsageDelta) :
    (rendering.usageOnly usage).Proper := by
  unfold Rendering.usageOnly
  split
  · dsimp only
    apply ending_proper
    exact ⟨⟨within.proper.bracketed, within.proper.fresh, within.proper.framed,
      within.proper.drained⟩, within.begun, within.running⟩
  · exact (within.advances (messageDelta_advances rendering none none (some usage))).proper

theorem renderChunk_proper (proper : rendering.Proper) {chunk : ChatChunk}
    (reads : ∀ event ∈ chunk.opaqueEvents, readable event)
    (rendered : rendering.renderChunk chunk = .ok next) : next.Proper := by
  unfold Rendering.renderChunk at rendered
  split at rendered
  case isTrue => exact Except.ok.inj rendered ▸ proper
  case isFalse unfinished =>
    have running := Bool.not_eq_true _ ▸ unfinished
    have started := ensureStarted_within (captureIdentity_proper proper chunk) running
      (chunk.upstreamMeta.bind UpstreamMeta.openingUsage)
    have replayed := started.advances (replayOpaqueEvents_advances _ reads)
    dsimp only at rendered
    split at rendered
    · rename_i choice _
      cases emitted : Rendering.emitDeltaEvents _ choice.delta with
      | error failure =>
        rw [emitted] at rendered
        cases rendered
      | ok delivered =>
        rw [emitted] at rendered
        have inside := replayed.advances (emitDeltaEvents_advances emitted)
        cases reason : choice.finishReason with
        | none =>
          simp only [reason] at rendered
          exact Except.ok.inj rendered ▸ inside.proper
        | some finishReason =>
          simp only [reason] at rendered
          exact Except.ok.inj rendered ▸ finish_proper inside finishReason choice chunk.usage
    · split at rendered
      · exact Except.ok.inj rendered ▸ usageOnly_proper replayed _
      · exact Except.ok.inj rendered ▸ replayed.proper

theorem renderEos_proper (proper : rendering.Proper) :
    (renderEos rendering).Proper ∧ (renderEos rendering).state.finished = true := by
  unfold renderEos
  split
  case isTrue finished => exact ⟨proper, finished⟩
  case isFalse unfinished =>
    have started := ensureStarted_within proper (Bool.not_eq_true _ ▸ unfinished) none
    have closed := started.advances
      ((flushToolBlocks_advances _).trans (closeOpenBlock_advances _))
    have drained := closed.advances (closeLingering_advances _)
    have empty := closeLingering_drained
      ((rendering.ensureStarted none).flushToolBlocks.closeOpenBlock)
    dsimp only
    split
    · refine emitMessageStop_proper (Rendering.Within.advances ?_ (messageDelta_advances _ _ _ none)) empty
      exact ⟨⟨drained.proper.bracketed, drained.proper.fresh, drained.proper.framed,
        drained.proper.drained⟩, drained.begun, drained.running⟩
    · exact emitMessageStop_proper drained empty

/-- An ended stream is in the grammar exactly when it left no canonical block open. -/
theorem conforms_iff_closed (proper : rendering.Proper) (finished : rendering.state.finished = true) :
    Conforms rendering.events ↔ rendering.state.openBlock = none := by
  have begun : rendering.state.started = true := by
    by_contra unstarted
    have unfinished := (proper.fresh (Bool.not_eq_true _ ▸ unstarted)).2
    rw [finished] at unfinished
    cases unfinished
  obtain ⟨id, model, usage, body, shape, inner⟩ := proper.framed begun
  obtain ⟨brackets, reached, -, holds⟩ := proper.bracketed
  rw [if_pos finished] at shape
  simp only [AnthropicStreamState.liveBlocks, proper.drained finished, AList.empty_entries,
    List.map_nil, List.append_nil] at holds
  have same : marks rendering.events = marks body := by
    rw [shape, marks_append]
    exact List.append_nil _
  rw [same] at reached
  constructor
  · rintro ⟨otherId, otherModel, otherUsage, other, split, -, final, run, balanced⟩
    rw [shape] at split
    have bodies : body = other := by
      have tails := (List.cons.inj split).2
      exact List.append_cancel_right tails
    rw [bodies] at reached
    obtain rfl := Option.some.inj (reached.symm.trans run)
    have empty := holds.live
    rw [balanced] at empty
    have gone := List.Perm.nil_eq empty
    cases held : rendering.state.openBlock with
    | none => rfl
    | some block => simp [held] at gone
  · intro closed
    refine ⟨id, model, usage, body, shape, inner, brackets, reached, ?_⟩
    have empty := holds.live
    simp only [closed, Option.toList_none, List.map_nil] at empty
    exact empty.eq_nil

end Framing

section Left

def opensOpaque (chunk : ChatChunk) : Bool :=
  chunk.opaqueEvents.any fun
    | .contentBlockStart .. => true
    | _ => false

/-- Whether a delta leaves a canonical block open: its last reasoning detail decides, or
else its text, or else what was open before. -/
def leavesOpen (held : Bool) (delta : ChunkDelta) : Bool :=
  delta.reasoningDetails.foldl (fun _ detail => decide (detail.kind ≠ .encrypted))
    (held || decide (delta.content.getD "" ≠ ""))

def openAfter (held : Bool) (chunk : ChatChunk) : Bool :=
  let replayed := held && !opensOpaque chunk
  match chunk.choices.head? with
  | some choice => if choice.finishReason.isSome then false else leavesOpen replayed choice.delta
  | none => replayed

def usageOnly (chunk : ChatChunk) : Bool := chunk.choices.isEmpty && chunk.usage.isSome

/-- Neither kind of chunk that ends a message whose finish is held. -/
def keepsHeld (chunk : ChatChunk) : Bool :=
  !usageOnly chunk && !(chunk.finishReason.isSome && chunk.usage.isSome)

/-- The first finish comes without usage, what follows it leaves a canonical block open,
and a usage chunk that starts no opaque block ends the message there. -/
def LeftOpen (chunks : List ChatChunk) : Prop :=
  ∃ before bare between usage after, chunks = before ++ bare :: between ++ usage :: after ∧
    (∀ chunk ∈ before, chunk.finishReason = none) ∧
    bare.finishReason.isSome = true ∧ bare.usage.isSome = false ∧
    (∀ chunk ∈ between, keepsHeld chunk = true) ∧
    usageOnly usage = true ∧ (between.foldl openAfter false && !opensOpaque usage) = true

end Left

/-- Where a stream stands: ended, holding a finish, with a canonical block open. -/
structure Standing where
  finished : Bool
  pending : Bool
  held : Bool
deriving Repr, DecidableEq

namespace Standing

def after (standing : Standing) (chunk : ChatChunk) : Standing :=
  if standing.finished then standing
  else if chunk.finishReason.isSome then
    if chunk.usage.isSome then ⟨true, standing.pending, false⟩ else ⟨false, true, false⟩
  else if usageOnly chunk then ⟨standing.pending, false, standing.held && !opensOpaque chunk⟩
  else ⟨false, standing.pending, openAfter standing.held chunk⟩

def LeftAt (standing : Standing) : Prop := standing.finished = true ∧ standing.held = true

theorem foldl_finished (chunks : List ChatChunk) {standing : Standing}
    (finished : standing.finished = true) : chunks.foldl after standing = standing := by
  induction chunks with
  | nil => rfl
  | cons chunk rest ih =>
    rw [List.foldl_cons, after, if_pos finished]
    exact ih

theorem openAfter_finish {chunk : ChatChunk} (finished : chunk.finishReason.isSome = true)
    (held : Bool) : openAfter held chunk = false := by
  unfold ChatChunk.finishReason at finished
  cases first : chunk.choices.head? with
  | none => simp [first] at finished
  | some choice =>
    simp only [first, Option.bind_some] at finished
    simp [openAfter, first, finished]

theorem finishReason_usageOnly {chunk : ChatChunk} (alone : usageOnly chunk = true) :
    chunk.finishReason = none := by
  obtain ⟨empty, -⟩ := Bool.and_eq_true_iff.mp alone
  simp [ChatChunk.finishReason, List.isEmpty_iff.mp empty]

/-- With a finish held, the chunks that keep it held only move what is open. -/
theorem after_held {chunk : ChatChunk} (kept : keepsHeld chunk = true) (held : Bool) :
    after ⟨false, true, held⟩ chunk = ⟨false, true, openAfter held chunk⟩ := by
  obtain ⟨notAlone, notBoth⟩ := Bool.and_eq_true_iff.mp kept
  have mixed : usageOnly chunk = false := by simpa using notAlone
  cases finished : chunk.finishReason.isSome with
  | false => simp [after, finished, mixed]
  | true =>
    have bare : chunk.usage.isSome = false := by simpa [finished] using notBoth
    simp [after, finished, bare, openAfter_finish finished]

theorem leftAt_held (chunks : List ChatChunk) (held : Bool) :
    (chunks.foldl after ⟨false, true, held⟩).LeftAt ↔
      ∃ between usage later, chunks = between ++ usage :: later ∧
        (∀ chunk ∈ between, keepsHeld chunk = true) ∧ usageOnly usage = true ∧
          (between.foldl openAfter held && !opensOpaque usage) = true := by
  induction chunks generalizing held with
  | nil =>
    constructor
    · intro left
      exact absurd left.1 (by simp)
    · rintro ⟨between, usage, later, split, -⟩
      exact absurd split (by simp)
  | cons chunk rest ih =>
    rw [List.foldl_cons]
    by_cases kept : keepsHeld chunk = true
    · rw [after_held kept, ih]
      constructor
      · rintro ⟨between, usage, later, rfl, keeps, alone, left⟩
        refine ⟨chunk :: between, usage, later, rfl, ?_, alone, left⟩
        exact List.forall_mem_cons.mpr ⟨kept, keeps⟩
      · rintro ⟨between, usage, later, split, keeps, alone, left⟩
        cases between with
        | nil =>
          obtain ⟨rfl, -⟩ := List.cons.inj split
          simp [keepsHeld, alone] at kept
        | cons first between =>
          obtain ⟨rfl, same⟩ := List.cons.inj split
          exact ⟨between, usage, later, same, (List.forall_mem_cons.mp keeps).2, alone, left⟩
    · have ended : (after ⟨false, true, held⟩ chunk).finished = true ∧
          ((after ⟨false, true, held⟩ chunk).held = true ↔
            usageOnly chunk = true ∧ (held && !opensOpaque chunk) = true) := by
        cases alone : usageOnly chunk with
        | true => simp [after, finishReason_usageOnly alone, alone]
        | false =>
          have both : chunk.finishReason.isSome = true ∧ chunk.usage.isSome = true := by
            simpa [keepsHeld, alone, Option.isSome_iff_ne_none] using kept
          simp [after, both.1, both.2]
      rw [foldl_finished rest ended.1]
      constructor
      · intro left
        obtain ⟨alone, stillOpen⟩ := ended.2.mp left.2
        exact ⟨[], chunk, rest, rfl, by simp, alone, stillOpen⟩
      · rintro ⟨between, usage, later, split, keeps, alone, left⟩
        cases between with
        | nil =>
          obtain ⟨rfl, -⟩ := List.cons.inj split
          exact ⟨ended.1, ended.2.mpr ⟨alone, left⟩⟩
        | cons first between =>
          obtain ⟨rfl, -⟩ := List.cons.inj split
          exact absurd (List.forall_mem_cons.mp keeps).1 kept

theorem leftAt_iff_leftOpen (chunks : List ChatChunk) (held : Bool) :
    (chunks.foldl after ⟨false, false, held⟩).LeftAt ↔ LeftOpen chunks := by
  induction chunks generalizing held with
  | nil =>
    constructor
    · intro left
      exact absurd left.1 (by simp)
    · rintro ⟨before, bare, between, usage, later, split, -⟩
      exact absurd split (by simp)
  | cons chunk rest ih =>
    rw [List.foldl_cons]
    cases finished : chunk.finishReason.isSome with
    | false =>
      have unfinished : chunk.finishReason = none := by simpa using finished
      have onward : ∃ heldNow, after ⟨false, false, held⟩ chunk = ⟨false, false, heldNow⟩ := by
        cases alone : usageOnly chunk <;> simp [after, finished, alone]
      obtain ⟨heldNow, same⟩ := onward
      rw [same, ih]
      constructor
      · rintro ⟨before, bare, between, usage, later, rfl, unheld, others⟩
        exact ⟨chunk :: before, bare, between, usage, later, rfl,
          List.forall_mem_cons.mpr ⟨unfinished, unheld⟩, others⟩
      · rintro ⟨before, bare, between, usage, later, split, unheld, ends, others⟩
        cases before with
        | nil =>
          obtain ⟨rfl, -⟩ := List.cons.inj split
          rw [finished] at ends
          cases ends
        | cons first before =>
          obtain ⟨rfl, tail⟩ := List.cons.inj split
          exact ⟨before, bare, between, usage, later, tail, (List.forall_mem_cons.mp unheld).2,
            ends, others⟩
    | true =>
      have single : ∀ before bare between usage later,
          chunk :: rest = before ++ bare :: between ++ usage :: later →
            (∀ chunk ∈ before, chunk.finishReason = none) →
              before = [] ∧ bare = chunk ∧ rest = between ++ usage :: later := by
        intro before bare between usage later split unheld
        cases before with
        | nil =>
          obtain ⟨rfl, tail⟩ := List.cons.inj split
          exact ⟨rfl, rfl, tail⟩
        | cons first before =>
          obtain ⟨rfl, -⟩ := List.cons.inj split
          rw [(List.forall_mem_cons.mp unheld).1] at finished
          cases finished
      cases inline : chunk.usage.isSome with
      | true =>
        have ended : after ⟨false, false, held⟩ chunk = ⟨true, false, false⟩ := by
          simp [after, finished, inline]
        rw [ended, foldl_finished rest rfl]
        constructor
        · intro left
          exact absurd left.2 (by simp)
        · rintro ⟨before, bare, between, usage, later, split, unheld, -, bareUsage, -⟩
          obtain ⟨-, rfl, -⟩ := single before bare between usage later split unheld
          rw [inline] at bareUsage
          cases bareUsage
      | false =>
        have begun : after ⟨false, false, held⟩ chunk = ⟨false, true, false⟩ := by
          simp [after, finished, inline]
        rw [begun, leftAt_held]
        constructor
        · rintro ⟨between, usage, later, rfl, keeps, alone, left⟩
          exact ⟨[], chunk, between, usage, later, rfl, by simp, finished, inline, keeps, alone, left⟩
        · rintro ⟨before, bare, between, usage, later, split, unheld, -, -, others⟩
          obtain ⟨-, -, tail⟩ := single before bare between usage later split unheld
          exact ⟨between, usage, later, tail, others⟩

end Standing

def AnthropicStreamState.standing (state : AnthropicStreamState) : Standing :=
  ⟨state.finished, state.pendingFinishReason.isSome, state.openBlock.isSome⟩

section Tracking
variable {rendering next : Rendering}

theorem emitText_held (rendering : Rendering) (text : String) :
    (rendering.emitText text).state.openBlock.isSome =
      (rendering.state.openBlock.isSome || decide (text ≠ "")) := by
  unfold Rendering.emitText
  split
  case isTrue empty => simp [empty]
  case isFalse given => simp [Rendering.emit, ensureBlock_opens, given]

theorem emitThinking_held (rendering : Rendering) (detail : ReasoningDetail)
    (signature : Option String) :
    (rendering.emitThinking detail signature).state.openBlock.isSome = true := by
  have opened := ensureBlock_opens rendering (.thinking (detail.index.getD 0))
  unfold Rendering.emitThinking
  generalize rendering.ensureBlock (.thinking (detail.index.getD 0)) = ensured at opened
  have texted := (emitThinkingDelta_openBlock ensured.2 ensured.1 detail.text).trans opened
  dsimp only
  split
  case h_1 => exact Option.isSome_of_eq_some texted
  case h_2 => exact Option.isSome_of_eq_some texted

theorem emitReasoningDetail_held (rendering : Rendering) (detail : ReasoningDetail) :
    (rendering.emitReasoningDetail detail).state.openBlock.isSome =
      decide (detail.kind ≠ .encrypted) := by
  unfold Rendering.emitReasoningDetail
  split
  case h_1 kind => simp [emitThinking_held, kind]
  case h_2 kind => simp [Rendering.emit, Rendering.allocate, closeOpenBlock_none, kind]
  case h_3 kind => simp [emitThinking_held, kind]
  case h_4 kind => simp [emitThinking_held, kind]

theorem emitReasoningDetails_held (details : List ReasoningDetail) (rendering : Rendering) :
    (details.foldl Rendering.emitReasoningDetail rendering).state.openBlock.isSome =
      details.foldl (fun _ detail => decide (detail.kind ≠ .encrypted))
        rendering.state.openBlock.isSome := by
  induction details generalizing rendering with
  | nil => rfl
  | cons detail rest ih => rw [List.foldl_cons, List.foldl_cons, ih, emitReasoningDetail_held]

theorem emitDeltaEvents_held {delta : ChunkDelta}
    (emitted : rendering.emitDeltaEvents delta = .ok next) :
    next.state.openBlock.isSome = leavesOpen rendering.state.openBlock.isSome delta := by
  unfold Rendering.emitDeltaEvents at emitted
  dsimp only at emitted
  obtain ⟨-, rfl⟩ := applyToolCalls_ok.mp emitted
  dsimp only
  rw [emitReasoningDetails_held, leavesOpen, emitText_held]

theorem replayOpaqueEvent_held (rendering : Rendering) (event : OpaqueSseEvent) :
    (rendering.replayOpaqueEvent event).state.openBlock.isSome =
      (rendering.state.openBlock.isSome && !(match event with
        | .contentBlockStart .. => true
        | _ => false)) := by
  unfold Rendering.replayOpaqueEvent
  split
  case h_1 =>
    have closed := closeOpenBlock_none rendering
    dsimp only
    split <;> split <;> simp [Rendering.emit, Rendering.allocate, closed]
  case h_2 =>
    split
    · simp
    · split <;> simp [Rendering.emit]
  case h_3 => split <;> simp [Rendering.emit]

theorem replayOpaqueEvents_held (events : List OpaqueSseEvent) (rendering : Rendering) :
    (rendering.replayOpaqueEvents events).state.openBlock.isSome =
      (rendering.state.openBlock.isSome && !(events.any fun
        | .contentBlockStart .. => true
        | _ => false)) := by
  unfold Rendering.replayOpaqueEvents
  induction events generalizing rendering with
  | nil => simp
  | cons event rest ih =>
    rw [List.foldl_cons, ih, replayOpaqueEvent_held, List.any_cons, Bool.not_or, Bool.and_assoc]

theorem ensureStarted_standing (rendering : Rendering) (opening : Option OpeningUsage) :
    (rendering.ensureStarted opening).state.standing = rendering.state.standing := by
  unfold Rendering.ensureStarted
  split <;> rfl

theorem closeLingering_standing (rendering : Rendering) :
    rendering.closeLingeringOpaqueBlocks.state.standing = rendering.state.standing := by
  unfold Rendering.closeLingeringOpaqueBlocks
  dsimp only
  rw [foldl_emit_stop]
  rfl

theorem emitMessageStop_standing (rendering : Rendering) :
    rendering.emitMessageStop.state.standing =
      ⟨true, rendering.state.pendingFinishReason.isSome, rendering.state.openBlock.isSome⟩ := by
  unfold Rendering.emitMessageStop
  split
  case isTrue finished => simp [AnthropicStreamState.standing, finished]
  case isFalse => rfl

theorem emitMessageStop_held (rendering : Rendering) :
    rendering.emitMessageStop.state.openBlock = rendering.state.openBlock := by
  unfold Rendering.emitMessageStop
  split <;> rfl

theorem finish_standing (running : rendering.state.finished = false) (finishReason : String)
    (choice : ChunkChoice) (usage : Option UsageDelta) :
    (rendering.finish finishReason choice usage).state.standing =
      if usage.isSome then ⟨true, rendering.state.pendingFinishReason.isSome, false⟩
      else ⟨false, true, false⟩ := by
  have advances := (flushToolBlocks_advances rendering).trans (closeOpenBlock_advances _)
  have closed := closeOpenBlock_none rendering.flushToolBlocks
  unfold Rendering.finish
  dsimp only
  generalize rendering.flushToolBlocks.closeOpenBlock = quiet at advances closed ⊢
  have finished := advances.finished.trans running
  cases usage with
  | some usage =>
    have drained := closeLingering_standing quiet
    simp only [AnthropicStreamState.standing, Standing.mk.injEq, closed, Option.isSome_none] at drained
    simp only [Option.isSome_some, if_true]
    rw [emitMessageStop_standing]
    simp [Rendering.emit, drained.2.1, drained.2.2, advances.pending]
  | none =>
    simp only [Option.isSome_none, Bool.false_eq_true, if_false]
    split
    case isTrue held => simp [AnthropicStreamState.standing, finished, held, closed]
    case isFalse => simp [AnthropicStreamState.standing, finished, closed]

theorem usageOnly_standing (running : rendering.state.finished = false) (usage : UsageDelta) :
    (rendering.usageOnly usage).state.standing =
      ⟨rendering.state.pendingFinishReason.isSome, false, rendering.state.openBlock.isSome⟩ := by
  unfold Rendering.usageOnly
  split
  case h_1 finishReason held =>
    dsimp only
    rw [emitMessageStop_standing]
    have drained := closeLingering_standing { rendering with
      state := { rendering.state with
        pendingFinishReason := none, pendingMatchedStopSequence := none } }
    simp only [AnthropicStreamState.standing, Standing.mk.injEq, Option.isSome_none] at drained
    simp [Rendering.emit, drained.2.1, drained.2.2, held]
  case h_2 unheld => simp [AnthropicStreamState.standing, Rendering.emit, running, unheld]

theorem Rendering.Advances.standing (advances : rendering.Advances next) {held : Bool}
    (opened : next.state.openBlock.isSome = held) :
    next.state.standing =
      ⟨rendering.state.finished, rendering.state.pendingFinishReason.isSome, held⟩ := by
  rw [AnthropicStreamState.standing, advances.finished, advances.pending, opened]

/-- The standing of a stream follows from its chunks alone. -/
theorem renderChunk_standing {chunk : ChatChunk}
    (reads : ∀ event ∈ chunk.opaqueEvents, readable event)
    (rendered : rendering.renderChunk chunk = .ok next) :
    next.state.standing = rendering.state.standing.after chunk := by
  unfold Rendering.renderChunk at rendered
  unfold Standing.after
  split at rendered
  case isTrue finished =>
    obtain rfl := Except.ok.inj rendered
    exact (if_pos finished).symm
  case isFalse unfinished =>
    rw [if_neg (show ¬ rendering.state.standing.finished = true from unfinished)]
    dsimp only at rendered
    have begun := ensureStarted_standing (rendering.captureIdentity chunk)
      (chunk.upstreamMeta.bind UpstreamMeta.openingUsage)
    generalize (rendering.captureIdentity chunk).ensureStarted
      (chunk.upstreamMeta.bind UpstreamMeta.openingUsage) = started at begun rendered
    have same : started.state.standing = rendering.state.standing := begun
    rw [← same]
    have running : started.state.finished = false := by
      have finished := congrArg Standing.finished same
      exact finished.trans (Bool.not_eq_true _ ▸ unfinished)
    have replaying := replayOpaqueEvents_advances started reads
    have replayedHeld := replayOpaqueEvents_held chunk.opaqueEvents started
    generalize started.replayOpaqueEvents chunk.opaqueEvents = replayed
      at replaying replayedHeld rendered
    have held : replayed.state.openBlock.isSome =
        (started.state.standing.held && !opensOpaque chunk) := replayedHeld
    have live : replayed.state.finished = false := replaying.finished.trans running
    split at rendered
    case h_1 choice first =>
      have mixed : usageOnly chunk = false := by
        cases choices : chunk.choices with
        | nil => simp [choices] at first
        | cons choice rest => simp [usageOnly, choices]
      have reason : chunk.finishReason = choice.finishReason := by
        simp [ChatChunk.finishReason, first]
      cases emitted : replayed.emitDeltaEvents choice.delta with
      | error failure =>
        rw [emitted] at rendered
        cases rendered
      | ok delivered =>
        rw [emitted] at rendered
        have delivering := replaying.trans (emitDeltaEvents_advances emitted)
        cases finished : choice.finishReason with
        | none =>
          simp only [finished] at rendered
          obtain rfl := Except.ok.inj rendered
          have opened := emitDeltaEvents_held emitted
          rw [held] at opened
          rw [delivering.standing opened, running]
          simp [reason, finished, mixed, openAfter, first, AnthropicStreamState.standing]
        | some finishReason =>
          simp only [finished] at rendered
          obtain rfl := Except.ok.inj rendered
          rw [finish_standing (delivering.finished.trans running), delivering.pending]
          simp [reason, finished, AnthropicStreamState.standing]
    case h_2 none =>
      have empty : chunk.choices = [] := List.head?_eq_none_iff.mp none
      have unfinishing : chunk.finishReason = Option.none := by
        simp [ChatChunk.finishReason, empty]
      split at rendered
      case h_1 usage given =>
        obtain rfl := Except.ok.inj rendered
        rw [usageOnly_standing live, replaying.pending, held]
        simp [unfinishing, usageOnly, empty, given, AnthropicStreamState.standing]
      case h_2 missing =>
        obtain rfl := Except.ok.inj rendered
        rw [replaying.standing held, running]
        simp [unfinishing, usageOnly, empty, missing, openAfter, AnthropicStreamState.standing]

theorem renderEos_standing (rendering : Rendering) :
    (renderEos rendering).state.openBlock.isSome =
      (rendering.state.finished && rendering.state.openBlock.isSome) := by
  unfold renderEos
  split
  case isTrue finished => simp [finished]
  case isFalse unfinished =>
    have closed := closeOpenBlock_none (rendering.ensureStarted none).flushToolBlocks
    have drained := closeLingering_standing
      (rendering.ensureStarted none).flushToolBlocks.closeOpenBlock
    have quiet := congrArg Standing.held drained
    dsimp only
    rw [AnthropicStreamState.standing, AnthropicStreamState.standing, closed] at quiet
    have unheld : (rendering.state.finished && rendering.state.openBlock.isSome) = false := by
      simp [unfinished]
    rw [unheld]
    split
    · rw [emitMessageStop_held]
      exact quiet
    · rw [emitMessageStop_held]
      exact quiet

/-- Its tool calls all have a place in the buffers. -/
def admitted (chunk : ChatChunk) : Prop :=
  ∀ choice ∈ chunk.choices.head?, ∀ toolCall ∈ choice.delta.toolCalls.getD [],
    toolCallIndex toolCall ≤ maxToolCallIndex

theorem renderChunk_total {chunk : ChatChunk} (inside : admitted chunk) (rendering : Rendering) :
    ∃ next, rendering.renderChunk chunk = .ok next := by
  unfold Rendering.renderChunk
  split
  · exact ⟨_, rfl⟩
  · dsimp only
    split
    · rename_i choice first
      have emitted : ∀ rendering : Rendering, ∃ delivered,
          rendering.emitDeltaEvents choice.delta = .ok delivered := by
        intro rendering
        exact ⟨_, applyToolCalls_ok.mpr ⟨inside choice first, rfl⟩⟩
      obtain ⟨delivered, same⟩ := emitted (((rendering.captureIdentity chunk).ensureStarted
        (chunk.upstreamMeta.bind UpstreamMeta.openingUsage)).replayOpaqueEvents chunk.opaqueEvents)
      rw [same]
      cases choice.finishReason with
      | none => exact ⟨_, rfl⟩
      | some finishReason => exact ⟨_, rfl⟩
    · split
      · exact ⟨_, rfl⟩
      · exact ⟨_, rfl⟩

theorem renderChunks_proper (proper : rendering.Proper) {chunks : List ChatChunk}
    (inside : ∀ chunk ∈ chunks, admitted chunk)
    (reads : ∀ chunk ∈ chunks, ∀ event ∈ chunk.opaqueEvents, readable event) :
    ∃ final, chunks.foldlM Rendering.renderChunk rendering = .ok final ∧ final.Proper ∧
      final.state.standing = chunks.foldl Standing.after rendering.state.standing := by
  induction chunks generalizing rendering with
  | nil => exact ⟨rendering, rfl, proper, rfl⟩
  | cons chunk rest ih =>
    have readsFirst := reads chunk (List.mem_cons_self ..)
    obtain ⟨next, rendered⟩ := renderChunk_total (inside chunk (List.mem_cons_self ..)) rendering
    obtain ⟨final, onward, kept, standing⟩ := ih (renderChunk_proper proper readsFirst rendered)
      (fun chunk member => inside chunk (List.mem_cons_of_mem _ member))
      (fun chunk member => reads chunk (List.mem_cons_of_mem _ member))
    refine ⟨final, ?_, kept, ?_⟩
    · rw [List.foldlM_cons, rendered]
      exact onward
    · rw [standing, renderChunk_standing readsFirst rendered, List.foldl_cons]

end Tracking

theorem newState_proper (ctx : StreamRequestContext) : Rendering.Proper ⟨newState ctx, []⟩ where
  bracketed := ⟨.initial, rfl, rfl, Brackets.initial_holds⟩
  fresh := fun _ => ⟨rfl, rfl⟩
  framed := by simp [newState]
  drained := by simp [newState]

/-- Every stream of admitted, readable chunks is rendered to its end, and what the client
got is in the grammar exactly when the held finish was not ended over an open block. -/
theorem stream_conforms_iff (ctx : StreamRequestContext) (early : Bool) {chunks : List ChatChunk}
    (inside : ∀ chunk ∈ chunks, admitted chunk)
    (reads : ∀ chunk ∈ chunks, ∀ event ∈ chunk.opaqueEvents, readable event) :
    ∃ events, renderStream ctx early chunks = .ok events ∧
      (Conforms events ↔ ¬ LeftOpen chunks) := by
  have opened : ∃ opened : Rendering,
      (if early then earlyFrame (newState ctx) else ⟨newState ctx, []⟩) = opened ∧
        opened.Proper ∧ opened.state.standing = ⟨false, false, false⟩ := by
    cases early with
    | false => exact ⟨_, rfl, newState_proper ctx, rfl⟩
    | true =>
      have started := ensureStarted_within (newState_proper ctx) rfl none
      exact ⟨_, rfl, started.proper, ensureStarted_standing ⟨newState ctx, []⟩ none⟩
  obtain ⟨opened, same, proper, standing⟩ := opened
  obtain ⟨rendered, onward, kept, standings⟩ := renderChunks_proper proper inside reads
  refine ⟨(renderEos rendered).events, ?_, ?_⟩
  · simp only [renderStream, same, onward]
    rfl
  · obtain ⟨ended, finished⟩ := renderEos_proper kept
    rw [conforms_iff_closed ended finished, ← Option.isNone_iff_eq_none, ← Option.not_isSome,
      renderEos_standing, ← Standing.leftAt_iff_leftOpen chunks false, ← standing, ← standings]
    cases ending : rendered.state.finished <;>
      simp [Standing.LeftAt, AnthropicStreamState.standing, ending]

section Streams

def textChunk (text : String) (finishReason : Option String) : ChatChunk :=
  { choices := [{ delta := { content := some text }, finishReason }] }

def usageChunk (promptTokens completionTokens : Nat) : ChatChunk :=
  { usage := some { promptTokens := some promptTokens, completionTokens := some completionTokens } }

def session : StreamRequestContext := ⟨0, "claude"⟩

/-- A finish with its usage in the chunk after it. -/
def trailingUsage : List ChatChunk :=
  [textChunk "hi" none, textChunk "" (some "stop"), usageChunk 3 1]

theorem trailing_usage_conforms :
    ∃ events, renderStream session true trailingUsage = .ok events ∧ Conforms events := by
  obtain ⟨events, rendered, conforms⟩ := @stream_conforms_iff session true trailingUsage
    (by simp [trailingUsage, admitted, textChunk, usageChunk])
    (by simp [trailingUsage, textChunk, usageChunk])
  refine ⟨events, rendered, conforms.mpr ?_⟩
  rw [← Standing.leftAt_iff_leftOpen trailingUsage false]
  intro left
  exact absurd left.2 (by decide)

/-- Text between the finish and its usage. -/
def lateText : List ChatChunk :=
  [textChunk "hi" none, textChunk "" (some "stop"), textChunk "late" none, usageChunk 3 1]

theorem late_text_unstopped :
    (∀ chunk ∈ lateText, admitted chunk ∧ ∀ event ∈ chunk.opaqueEvents, readable event) ∧
      ∃ events, renderStream session false lateText = .ok events ∧ ¬ Conforms events := by
  refine ⟨by simp [lateText, admitted, textChunk, usageChunk], _, rfl, ?_⟩
  rintro ⟨id, model, usage, body, shape, -, final, run, balanced⟩
  have bodies : body = [.contentBlockStart 0 .text, .contentBlockDelta 0 (.textDelta "hi"),
      .contentBlockStop 0, .contentBlockStart 1 .text, .contentBlockDelta 1 (.textDelta "late"),
      .messageDelta (some "end_turn") none (some ⟨3, 1, none, none, none⟩)] := by
    have tails := (List.cons.inj shape).2
    exact (List.append_cancel_right tails).symm
  subst bodies
  obtain rfl := Option.some.inj run
  cases balanced

end Streams
end Routectl.Messages
