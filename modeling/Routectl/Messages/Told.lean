import Routectl.Messages.Sent

/-! A whole stream as its client reads it: the pieces and the tool blocks of a list of
chunks, and that the renderer sends exactly these. -/
namespace Routectl.Messages
open Library Schema

/-- A finish reason and the sequence that was matched with it. -/
structure Stop where
  finishReason : String
  matchedStopSequence : Option String
deriving Repr, DecidableEq

/-- The reason and the sequence a client is given. -/
def Stop.wire (stop : Stop) : String × Option String :=
  match stop.matchedStopSequence with
  | some sequence => ("stop_sequence", some sequence)
  | none => (openaiFinishToAnthropicStop stop.finishReason, none)

def Stop.report (stop : Stop) (usage : Option UsageDelta) : Piece :=
  .report (some stop.wire.1) stop.wire.2 (usage.map wireUsage)

def AnthropicStreamState.held (state : AnthropicStreamState) : Option Stop :=
  state.pendingFinishReason.map fun finishReason =>
    ⟨finishReason, state.pendingMatchedStopSequence⟩

def choiceStop (choice : ChunkChoice) : Option Stop :=
  choice.finishReason.map fun finishReason => ⟨finishReason, choice.matchedStopSequence⟩

/-- What a client is told of these chunks while this finish is held. -/
def told : Option Stop → List ChatChunk → List Piece
  | held, [] => (held.map fun stop => stop.report none).toList
  | held, chunk :: rest =>
    match chunk.choices.head? with
    | some choice =>
      deltaPieces choice.delta ++
        match choiceStop choice, chunk.usage with
        | some stop, some usage => [stop.report (some usage)]
        | some stop, none => told (held.or (some stop)) rest
        | none, _ => told held rest
    | none =>
      match held, chunk.usage with
      | some stop, some usage => [stop.report (some usage)]
      | none, some usage => .report none none (some (wireUsage usage)) :: told none rest
      | held, none => told held rest

/-- Whether a chunk ends the message: a finish with its usage, or usage alone once a
finish is held. -/
def ends (held : Bool) (chunk : ChatChunk) : Bool :=
  chunk.usage.isSome && match chunk.choices.head? with
    | some choice => choice.finishReason.isSome
    | none => held

/-- The chunks up to the one that ends the message. -/
def upToStop : Bool → List ChatChunk → List ChatChunk
  | _, [] => []
  | held, chunk :: rest =>
    chunk :: if ends held chunk then [] else upToStop (held || chunk.finishReason.isSome) rest

/-- The tool blocks a client is sent of these chunks and of what is buffered. -/
def called : List ToolBlockState → Bool → List ChatChunk → List ToolBlockState
  | blocks, _, [] => blocks.filter named
  | blocks, held, chunk :: rest =>
    match chunk.choices.head? with
    | some choice =>
      let filled := (choice.delta.toolCalls.getD []).foldl bufferFragment blocks
      if choice.finishReason.isSome then
        filled.filter named ++ if chunk.usage.isSome then [] else called [] true rest
      else called filled held rest
    | none => if held && chunk.usage.isSome then [] else called blocks held rest

section Ending
variable {rendering next : Rendering}

theorem pieces_messageDelta (stop : Stop) (usage : Option UsageDelta) :
    pieces [messageDelta (some stop.finishReason) stop.matchedStopSequence usage] =
      [stop.report usage] := by
  obtain ⟨finishReason, matchedStopSequence⟩ := stop
  cases matchedStopSequence <;> rfl

theorem toolIndex_messageDelta (finishReason matchedStopSequence : Option String)
    (usage : Option UsageDelta) :
    (messageDelta finishReason matchedStopSequence usage).toolIndex = none := by
  cases matchedStopSequence <;> rfl

theorem emitMessageStop_sends (rendering : Rendering) :
    rendering.Sends rendering.emitMessageStop [] [] := by
  unfold Rendering.emitMessageStop
  split
  case isTrue => exact .refl rendering
  case isFalse =>
    exact ⟨⟨[.messageStop], rfl, rfl, rfl, by simp [MessageEvent.toolIndex, MessageEvent.toolStart,
      MessageEvent.toolInput]⟩, le_refl _⟩

theorem flushToolBlock_sends (rendering : Rendering) (block : ToolBlockState) :
    rendering.Sends (rendering.flushToolBlock block) [] [block] := by
  have closing := (closeOpenBlock_speaks rendering).sends
  unfold Rendering.flushToolBlock
  generalize rendering.closeOpenBlock = quiet at closing
  refine closing.trans (?_ : quiet.Sends _ [] [block])
  obtain ⟨id, name, partialJson⟩ := block
  dsimp only
  split
  case isTrue empty =>
    refine ⟨⟨[.contentBlockStart quiet.state.nextIndex (.toolUse id name)], rfl, rfl, ?_, ?_⟩,
      Nat.le_succ _⟩
    · rw [empty]
      rfl
    · intro event member index indexed
      obtain rfl := List.mem_singleton.mp member
      obtain rfl := Option.some.inj indexed
      exact ⟨le_refl _, Nat.lt_succ_self _⟩
  case isFalse given =>
    refine ⟨⟨[.contentBlockStart quiet.state.nextIndex (.toolUse id name),
      .contentBlockDelta quiet.state.nextIndex (.inputJsonDelta partialJson)],
      by simp [Rendering.emit, Rendering.allocate], rfl, ?_, ?_⟩, Nat.le_succ _⟩
    · simp [toolUses, MessageEvent.toolStart, inputJson, MessageEvent.inputAt,
        MessageEvent.toolInput]
    · intro event member index indexed
      have same : index = quiet.state.nextIndex := by
        rcases List.mem_cons.mp member with rfl | last
        · exact (Option.some.inj indexed).symm
        · obtain rfl := List.mem_singleton.mp last
          exact (Option.some.inj indexed).symm
      subst same
      exact ⟨le_refl _, Nat.lt_succ_self _⟩

/-- What a flush leaves alone. -/
theorem flushToolBlock_held (rendering : Rendering) (block : ToolBlockState) :
    (rendering.flushToolBlock block).state.toolBlocks = rendering.state.toolBlocks ∧
      (rendering.flushToolBlock block).state.held = rendering.state.held ∧
      (rendering.flushToolBlock block).state.finished = rendering.state.finished := by
  have closing := closeOpenBlock_speaks rendering
  have held : rendering.closeOpenBlock.state.held = rendering.state.held := by
    simp [AnthropicStreamState.held, closing.reason, closing.sequence]
  unfold Rendering.flushToolBlock
  dsimp only
  split
  · exact ⟨closing.toolBlocks, held, closing.finished⟩
  · exact ⟨closing.toolBlocks, held, closing.finished⟩

theorem flushToolBlocks_held (rendering : Rendering) :
    rendering.flushToolBlocks.state.toolBlocks = [] ∧
      rendering.flushToolBlocks.state.held = rendering.state.held ∧
      rendering.flushToolBlocks.state.finished = rendering.state.finished := by
  have flushed : ∀ (blocks : List ToolBlockState) (quiet : Rendering),
      (blocks.foldl Rendering.flushToolBlock quiet).state.toolBlocks = quiet.state.toolBlocks ∧
        (blocks.foldl Rendering.flushToolBlock quiet).state.held = quiet.state.held ∧
        (blocks.foldl Rendering.flushToolBlock quiet).state.finished = quiet.state.finished := by
    intro blocks
    induction blocks with
    | nil => exact fun quiet => ⟨rfl, rfl, rfl⟩
    | cons block rest ih =>
      intro quiet
      obtain ⟨buffers, held, finished⟩ := flushToolBlock_held quiet block
      obtain ⟨buffersLater, heldLater, finishedLater⟩ := ih (quiet.flushToolBlock block)
      exact ⟨buffersLater.trans buffers, heldLater.trans held, finishedLater.trans finished⟩
  exact flushed _ _

theorem flushToolBlocks_sends (rendering : Rendering) :
    rendering.Sends rendering.flushToolBlocks [] (rendering.state.toolBlocks.filter named) := by
  have emptied : rendering.Sends
      { rendering with state := { rendering.state with toolBlocks := [] } } [] [] :=
    ⟨⟨[], by simp, rfl, rfl, by simp⟩, le_refl _⟩
  have flushed : ∀ (blocks : List ToolBlockState) (quiet : Rendering),
      quiet.Sends (blocks.foldl Rendering.flushToolBlock quiet) [] blocks := by
    intro blocks
    induction blocks with
    | nil => exact fun quiet => .refl quiet
    | cons block rest ih => exact fun quiet => (flushToolBlock_sends quiet block).trans (ih _)
  exact emptied.trans (flushed _ _)

theorem Rendering.Speaks.held {sent : List Piece} (speaks : rendering.Speaks next sent) :
    next.state.held = rendering.state.held := by
  simp [AnthropicStreamState.held, speaks.reason, speaks.sequence]

/-- The replayed blocks drained, a stop reported and the message stopped. -/
theorem ending_sends (rendering : Rendering) (stop : Stop) (usage : Option UsageDelta) :
    rendering.Sends
      ((rendering.closeLingeringOpaqueBlocks.emit
        (messageDelta (some stop.finishReason) stop.matchedStopSequence usage)).emitMessageStop)
      [stop.report usage] [] := by
  have drained := closeLingering_speaks rendering
  have reported := drained.trans (emit_speaks _
    (messageDelta (some stop.finishReason) stop.matchedStopSequence usage)
    (toolIndex_messageDelta _ _ _))
  rw [pieces_messageDelta] at reported
  exact reported.sends.trans (emitMessageStop_sends _)

theorem emitMessageStop_finished (rendering : Rendering) :
    rendering.emitMessageStop.state.finished = true := by
  unfold Rendering.emitMessageStop
  split
  case isTrue finished => exact finished
  case isFalse => rfl

/-- The buffered calls are sent and the open block is closed. -/
theorem flushing_sends (rendering : Rendering) :
    rendering.Sends rendering.flushToolBlocks.closeOpenBlock []
        (rendering.state.toolBlocks.filter named) ∧
      rendering.flushToolBlocks.closeOpenBlock.state.toolBlocks = [] ∧
      rendering.flushToolBlocks.closeOpenBlock.state.held = rendering.state.held ∧
      rendering.flushToolBlocks.closeOpenBlock.state.finished = rendering.state.finished := by
  have closing := closeOpenBlock_speaks rendering.flushToolBlocks
  obtain ⟨buffers, held, finished⟩ := flushToolBlocks_held rendering
  refine ⟨?_, closing.toolBlocks.trans buffers, closing.held.trans held,
    closing.finished.trans finished⟩
  have sends := (flushToolBlocks_sends rendering).trans closing.sends
  simpa only [List.append_nil] using sends

theorem finish_sends_inline (rendering : Rendering) (finishReason : String) (choice : ChunkChoice)
    (usage : UsageDelta) :
    rendering.Sends (rendering.finish finishReason choice (some usage))
        [Stop.report ⟨finishReason, choice.matchedStopSequence⟩ (some usage)]
        (rendering.state.toolBlocks.filter named) ∧
      (rendering.finish finishReason choice (some usage)).state.finished = true := by
  obtain ⟨flushed, -⟩ := flushing_sends rendering
  have ended := flushed.trans (ending_sends rendering.flushToolBlocks.closeOpenBlock
    ⟨finishReason, choice.matchedStopSequence⟩ (some usage))
  simp only [List.append_nil] at ended
  exact ⟨ended, emitMessageStop_finished _⟩

theorem finish_sends_bare (rendering : Rendering) (finishReason : String) (choice : ChunkChoice) :
    rendering.Sends (rendering.finish finishReason choice none) []
        (rendering.state.toolBlocks.filter named) ∧
      (rendering.finish finishReason choice none).state.toolBlocks = [] ∧
      (rendering.finish finishReason choice none).state.held =
        rendering.state.held.or (some ⟨finishReason, choice.matchedStopSequence⟩) ∧
      (rendering.finish finishReason choice none).state.finished = rendering.state.finished := by
  obtain ⟨flushed, buffers, held, finished⟩ := flushing_sends rendering
  unfold Rendering.finish
  generalize rendering.flushToolBlocks.closeOpenBlock = quiet at flushed buffers held finished
  dsimp only
  rw [if_neg (by simp), ← held]
  cases reason : quiet.state.pendingFinishReason with
  | some first =>
    simp only [Option.isSome_some, if_true]
    exact ⟨flushed, buffers, by simp [AnthropicStreamState.held, reason], finished⟩
  | none =>
    simp only [Option.isSome_none, Bool.false_eq_true, if_false]
    refine ⟨?_, buffers, by simp [AnthropicStreamState.held, reason], finished⟩
    obtain ⟨more, extended, others⟩ := flushed.events
    exact ⟨⟨more, extended, others⟩, flushed.onward⟩

theorem usageOnly_sends_held {stop : Stop} (held : rendering.state.held = some stop)
    (usage : UsageDelta) :
    rendering.Sends (rendering.usageOnly usage) [stop.report (some usage)] [] ∧
      (rendering.usageOnly usage).state.finished = true := by
  unfold Rendering.usageOnly
  obtain ⟨finishReason, reason, same⟩ := Option.map_eq_some_iff.mp held
  subst same
  rw [reason]
  dsimp only
  have taken : rendering.Sends { rendering with
      state := { rendering.state with
        pendingFinishReason := none, pendingMatchedStopSequence := none } } [] [] :=
    ⟨⟨[], by simp, rfl, rfl, by simp⟩, le_refl _⟩
  exact ⟨taken.trans (ending_sends _ ⟨finishReason, rendering.state.pendingMatchedStopSequence⟩
    (some usage)), emitMessageStop_finished _⟩

theorem usageOnly_speaks_unheld (unheld : rendering.state.held = none) (usage : UsageDelta) :
    rendering.Speaks (rendering.usageOnly usage) [.report none none (some (wireUsage usage))] := by
  unfold Rendering.usageOnly
  rw [Option.map_eq_none_iff.mp unheld]
  exact emit_speaks rendering (messageDelta none none (some usage)) rfl

/-- The end reports a finish still held. -/
theorem renderEos_sends (running : rendering.state.finished = false) :
    rendering.Sends (renderEos rendering)
      (rendering.state.held.map fun stop => stop.report none).toList
      (rendering.state.toolBlocks.filter named) := by
  unfold renderEos
  rw [if_neg (by simp [running])]
  dsimp only
  have begun := ensureStarted_speaks rendering none
  obtain ⟨flushed, -, held, -⟩ := flushing_sends (rendering.ensureStarted none)
  rw [begun.toolBlocks] at flushed
  rw [begun.held] at held
  have closing := begun.sends.trans flushed
  generalize (rendering.ensureStarted none).flushToolBlocks.closeOpenBlock = quiet at closing held
  have draining := closeLingering_speaks quiet
  have drained := closing.trans draining.sends
  simp only [List.append_nil] at drained
  rw [← held, ← draining.held]
  generalize quiet.closeLingeringOpaqueBlocks = rested at drained
  cases reason : rested.state.pendingFinishReason with
  | none =>
    simp only [AnthropicStreamState.held, reason, Option.map_none, Option.toList_none]
    have stopped := drained.trans (emitMessageStop_sends rested)
    simpa only [List.append_nil, List.nil_append] using stopped
  | some finishReason =>
    simp only [AnthropicStreamState.held, reason, Option.map_some, Option.toList_some]
    have taken : rested.Sends { rested with
        state := { rested.state with
          pendingFinishReason := none, pendingMatchedStopSequence := none } } [] [] :=
      ⟨⟨[], by simp, rfl, rfl, by simp⟩, le_refl _⟩
    have reported := emit_speaks { rested with
        state := { rested.state with
          pendingFinishReason := none, pendingMatchedStopSequence := none } }
      (messageDelta (some finishReason) rested.state.pendingMatchedStopSequence none)
      (toolIndex_messageDelta _ _ _)
    rw [pieces_messageDelta ⟨finishReason, rested.state.pendingMatchedStopSequence⟩ none] at reported
    have stopped := drained.trans
      (taken.trans (reported.sends.trans (emitMessageStop_sends _)))
    simpa only [List.append_nil, List.nil_append] using stopped

theorem renderEos_finished (finished : rendering.state.finished = true) :
    renderEos rendering = rendering := if_pos finished

theorem renderChunks_finished (finished : rendering.state.finished = true) (chunks : List ChatChunk) :
    chunks.foldlM Rendering.renderChunk rendering = .ok rendering := by
  induction chunks with
  | nil => rfl
  | cons chunk rest ih =>
    have same : rendering.renderChunk chunk = .ok rendering := if_pos finished
    rw [List.foldlM_cons, same]
    exact ih

end Ending

section Runs
variable {rendering next final : Rendering} {chunk : ChatChunk} {chunks : List ChatChunk}

/-- A delta sends its pieces and buffers its tool calls. -/
theorem emitDeltaEvents_sends {delta : ChunkDelta}
    (emitted : rendering.emitDeltaEvents delta = .ok next) :
    rendering.Sends next (deltaPieces delta) [] ∧
      next.state.toolBlocks =
        (delta.toolCalls.getD []).foldl bufferFragment rendering.state.toolBlocks ∧
      next.state.held = rendering.state.held ∧
      next.state.finished = rendering.state.finished := by
  obtain ⟨spoken, speaks, rfl⟩ := emitDeltaEvents_speaks emitted
  exact ⟨⟨speaks.sends.events, speaks.onward⟩, rfl, speaks.held, speaks.finished⟩

/-- All that one chunk can do while the message runs. -/
theorem renderChunk_cases (running : rendering.state.finished = false)
    (rendered : rendering.renderChunk chunk = .ok next) :
    ∃ replayed, rendering.Speaks replayed [] ∧
      ((∃ choice delivered, chunk.choices.head? = some choice ∧
          replayed.emitDeltaEvents choice.delta = .ok delivered ∧
          ((choice.finishReason = none ∧ next = delivered) ∨
            ∃ finishReason, choice.finishReason = some finishReason ∧
              next = delivered.finish finishReason choice chunk.usage)) ∨
        (chunk.choices.head? = none ∧ ∃ usage, chunk.usage = some usage ∧
          next = replayed.usageOnly usage) ∨
        (chunk.choices.head? = none ∧ chunk.usage = none ∧ next = replayed)) := by
  have identified : rendering.Speaks (rendering.captureIdentity chunk) [] :=
    quiet_speaks (le_refl _) rfl rfl rfl rfl
  have begun := (identified.trans (ensureStarted_speaks _
    (chunk.upstreamMeta.bind UpstreamMeta.openingUsage))).trans
      (replayOpaqueEvents_speaks _ chunk.opaqueEvents)
  refine ⟨_, begun, ?_⟩
  unfold Rendering.renderChunk at rendered
  rw [if_neg (by simp [running])] at rendered
  dsimp only at rendered
  generalize ((rendering.captureIdentity chunk).ensureStarted
    (chunk.upstreamMeta.bind UpstreamMeta.openingUsage)).replayOpaqueEvents
      chunk.opaqueEvents = replayed at rendered ⊢
  cases choices : chunk.choices.head? with
  | some choice =>
    left
    rw [choices] at rendered
    cases emitted : replayed.emitDeltaEvents choice.delta with
    | error failure =>
      simp only [emitted] at rendered
      cases rendered
    | ok delivered =>
      simp only [emitted] at rendered
      refine ⟨choice, delivered, rfl, emitted, ?_⟩
      cases reason : choice.finishReason with
      | none =>
        simp only [reason] at rendered
        exact .inl ⟨rfl, (Except.ok.inj rendered).symm⟩
      | some finishReason =>
        simp only [reason] at rendered
        exact .inr ⟨finishReason, rfl, (Except.ok.inj rendered).symm⟩
  | none =>
    right
    rw [choices] at rendered
    cases given : chunk.usage with
    | some usage =>
      simp only [given] at rendered
      exact .inl ⟨rfl, usage, rfl, (Except.ok.inj rendered).symm⟩
    | none =>
      simp only [given] at rendered
      exact .inr ⟨rfl, rfl, (Except.ok.inj rendered).symm⟩

/-- An ended stream takes no more chunks. -/
theorem ended_told {sent : List Piece} {uses : List ToolBlockState}
    (sends : rendering.Sends next sent uses) (finished : next.state.finished = true)
    (onward : chunks.foldlM Rendering.renderChunk next = .ok final) :
    rendering.Sends (renderEos final) sent uses := by
  rw [renderChunks_finished finished] at onward
  obtain rfl := Except.ok.inj onward
  rwa [renderEos_finished finished]

/-- From any running state, a stream sends exactly what its chunks tell. -/
theorem renderChunks_told (running : rendering.state.finished = false)
    (rendered : chunks.foldlM Rendering.renderChunk rendering = .ok final) :
    rendering.Sends (renderEos final) (told rendering.state.held chunks)
      (called rendering.state.toolBlocks rendering.state.held.isSome chunks) := by
  induction chunks generalizing rendering with
  | nil =>
    obtain rfl := Except.ok.inj rendered
    exact renderEos_sends running
  | cons chunk rest ih =>
    rw [List.foldlM_cons] at rendered
    cases first : rendering.renderChunk chunk with
    | error failure =>
      rw [first] at rendered
      cases rendered
    | ok next =>
      rw [first] at rendered
      have onward : rest.foldlM Rendering.renderChunk next = .ok final := rendered
      obtain ⟨replayed, begun, step⟩ := renderChunk_cases running first
      have live := begun.finished.trans running
      rw [← begun.held, ← begun.toolBlocks]
      have goal : replayed.Sends (renderEos final) (told replayed.state.held (chunk :: rest))
          (called replayed.state.toolBlocks replayed.state.held.isSome (chunk :: rest)) := by
        rcases step with ⟨choice, delivered, choices, emitted, finish⟩ | ⟨choices, usage, given, rfl⟩ |
          ⟨choices, missing, rfl⟩
        · obtain ⟨sends, buffers, holding, unended⟩ := emitDeltaEvents_sends emitted
          have running := unended.trans live
          simp only [told, called, choices]
          rw [← buffers]
          rcases finish with ⟨reason, rfl⟩ | ⟨finishReason, reason, rfl⟩
          · have later := ih running onward
            rw [holding] at later
            have whole := sends.trans later
            simpa [choiceStop, reason] using whole
          · cases given : chunk.usage with
            | some usage =>
              rw [given] at onward
              obtain ⟨ended, finished⟩ := finish_sends_inline delivered finishReason choice usage
              have whole := sends.trans (ended_told ended finished onward)
              simpa [choiceStop, reason] using whole
            | none =>
              rw [given] at onward
              obtain ⟨flushed, emptied, held, finished⟩ :=
                finish_sends_bare delivered finishReason choice
              have later := ih (finished.trans running) onward
              rw [emptied, held, holding] at later
              have whole := sends.trans (flushed.trans later)
              simpa [choiceStop, reason] using whole
        · simp only [told, called, choices, given]
          cases held : replayed.state.held with
          | some stop =>
            obtain ⟨ended, finished⟩ := usageOnly_sends_held held usage
            exact ended_told ended finished onward
          | none =>
            have reported := usageOnly_speaks_unheld held usage
            have later := ih (reported.finished.trans live) onward
            rw [reported.held, held, reported.toolBlocks] at later
            exact reported.sends.trans later
        · have later := ih live onward
          simp only [told, called, choices, missing]
          simpa using later
      exact begun.sends.trans goal

/-- Where a chunk leaves the message. -/
theorem renderChunk_held (running : rendering.state.finished = false)
    (rendered : rendering.renderChunk chunk = .ok next) :
    next.state.finished = ends rendering.state.held.isSome chunk ∧
      (next.state.finished = false →
        next.state.held.isSome = (rendering.state.held.isSome || chunk.finishReason.isSome)) := by
  obtain ⟨replayed, begun, step⟩ := renderChunk_cases running rendered
  have live := begun.finished.trans running
  rw [← begun.held]
  rcases step with ⟨choice, delivered, choices, emitted, finish⟩ | ⟨choices, usage, given, rfl⟩ |
    ⟨choices, missing, rfl⟩
  · obtain ⟨-, -, holding, unended⟩ := emitDeltaEvents_sends emitted
    rw [← holding]
    have going := unended.trans live
    rcases finish with ⟨reason, rfl⟩ | ⟨finishReason, reason, rfl⟩
    · refine ⟨?_, fun _ => ?_⟩
      · simpa [ends, choices, reason] using going
      · simp [ChatChunk.finishReason, choices, reason]
    · cases given : chunk.usage with
      | some usage =>
        have ended := (finish_sends_inline delivered finishReason choice usage).2
        exact ⟨ended.trans (by simp [ends, choices, reason, given]),
          fun open_ => absurd (ended.symm.trans open_) (by simp)⟩
      | none =>
        obtain ⟨-, -, held, finished⟩ := finish_sends_bare delivered finishReason choice
        refine ⟨?_, fun _ => ?_⟩
        · rw [finished]
          simpa [ends, given] using going
        · rw [held]
          simp [ChatChunk.finishReason, choices, reason]
  · cases held : replayed.state.held with
    | some stop =>
      have ended := (usageOnly_sends_held held usage).2
      exact ⟨ended.trans (by simp [ends, choices, given]),
        fun open_ => absurd (ended.symm.trans open_) (by simp)⟩
    | none =>
      have reported := usageOnly_speaks_unheld held usage
      refine ⟨?_, fun _ => ?_⟩
      · simpa [ends, choices, given] using reported.finished.trans live
      · rw [reported.held, held]
        simp [ChatChunk.finishReason, choices]
  · exact ⟨by simpa [ends, missing] using live, fun _ => by simp [ChatChunk.finishReason, choices]⟩

/-- Chunks that are admitted up to the end are all rendered. -/
theorem renderChunks_total (running : rendering.state.finished = false)
    (inside : ∀ chunk ∈ upToStop rendering.state.held.isSome chunks, admitted chunk) :
    ∃ final, chunks.foldlM Rendering.renderChunk rendering = .ok final := by
  induction chunks generalizing rendering with
  | nil => exact ⟨rendering, rfl⟩
  | cons chunk rest ih =>
    obtain ⟨next, rendered⟩ := renderChunk_total (inside chunk (List.mem_cons_self ..)) rendering
    obtain ⟨finished, held⟩ := renderChunk_held running rendered
    have onward : ∃ final, rest.foldlM Rendering.renderChunk next = .ok final := by
      cases ending : next.state.finished with
      | true => exact ⟨next, renderChunks_finished ending rest⟩
      | false =>
        apply ih ending
        intro later member
        apply inside later
        rw [upToStop, ← finished, ending, ← held ending]
        exact List.mem_cons_of_mem _ member
    obtain ⟨final, same⟩ := onward
    exact ⟨final, by rw [List.foldlM_cons, rendered]; exact same⟩

/-- What a whole stream sends, from its first event to its last. -/
theorem renderStream_told {ctx : StreamRequestContext} {early : Bool} {chunks : List ChatChunk}
    (inside : ∀ chunk ∈ upToStop false chunks, admitted chunk) :
    ∃ events, renderStream ctx early chunks = .ok events ∧ pieces events = told none chunks ∧
      toolUses events = called [] false chunks := by
  have opened : ∃ opened : Rendering,
      (if early then earlyFrame (newState ctx) else ⟨newState ctx, []⟩) = opened ∧
        Rendering.Speaks ⟨newState ctx, []⟩ opened [] := by
    cases early with
    | false => exact ⟨_, rfl, .refl _⟩
    | true => exact ⟨_, rfl, ensureStarted_speaks _ none⟩
  obtain ⟨opened, same, begun⟩ := opened
  have running : opened.state.finished = false := begun.finished
  have held : opened.state.held = none := begun.held
  obtain ⟨final, rendered⟩ := @renderChunks_total opened chunks running (by rwa [held])
  have sends := begun.sends.trans (renderChunks_told running rendered)
  rw [held, begun.toolBlocks] at sends
  obtain ⟨more, events, read, used, -⟩ := sends.events
  refine ⟨(renderEos final).events, ?_, ?_, ?_⟩
  · simp only [renderStream, same, rendered]
    rfl
  · rw [events]
    exact read
  · rw [events]
    exact used

end Runs
end Routectl.Messages
