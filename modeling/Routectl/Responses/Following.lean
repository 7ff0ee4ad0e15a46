import Routectl.Responses.Drawing

/-! A whole stream: after every chunk the rendering follows what the chunks said, in its
drawing, in its buffered calls and in the usage it holds. -/
namespace Routectl.Responses
open Library Schema

section Asides

/-- What the drawing of items leaves as it is. -/
def ResponsesStreamState.aside (state : ResponsesStreamState) :
    Bool × Bool × List ToolCallBuffer × Option UsageDelta :=
  (state.started, state.finished, state.toolBuffers, state.pendingUsage)

variable (rendering : Rendering)

theorem closeOpenItem_aside : rendering.closeOpenItem.state.aside = rendering.state.aside := by
  unfold Rendering.closeOpenItem
  dsimp only
  split <;> rfl

theorem ensureTextItem_aside : rendering.ensureTextItem.2.state.aside = rendering.state.aside := by
  unfold Rendering.ensureTextItem
  split
  case h_1 => rfl
  case h_2 => exact closeOpenItem_aside rendering

theorem ensureReasoningItem_aside (id : Option String) :
    (rendering.ensureReasoningItem id).2.state.aside = rendering.state.aside := by
  unfold Rendering.ensureReasoningItem
  split
  case h_1 =>
    split
    case isTrue => rfl
    case isFalse => exact closeOpenItem_aside rendering
  case h_2 => exact closeOpenItem_aside rendering

theorem streamReasoningDetail_aside (outputIndex : Nat) (detail : ReasoningDetail) :
    (rendering.streamReasoningDetail outputIndex detail).state.aside = rendering.state.aside := by
  unfold Rendering.streamReasoningDetail Rendering.nextReasoningSummaryIndex
    Rendering.nextReasoningContentIndex
  cases rendering.state.openItem with
  | none => split <;> rfl
  | some item => cases item <;> split <;> rfl

theorem emitTextDelta_aside (text : String) :
    (rendering.emitTextDelta text).state.aside = rendering.state.aside :=
  ensureTextItem_aside rendering

theorem emitContent_aside (content : Option String) :
    (rendering.emitContent content).state.aside = rendering.state.aside := by
  unfold Rendering.emitContent
  split
  case h_1 text _ => exact emitTextDelta_aside rendering text
  case h_2 => rfl

theorem emitReasoningDetail_aside (detail : ReasoningDetail) :
    (rendering.emitReasoningDetail detail).state.aside = rendering.state.aside := by
  unfold Rendering.emitReasoningDetail
  dsimp only
  split
  case isTrue =>
    rw [streamReasoningDetail_aside, ensureReasoningItem_aside]
    rfl
  case isFalse => rfl

theorem emitReasoningDetails_aside (details : List ReasoningDetail) :
    (details.foldl Rendering.emitReasoningDetail rendering).state.aside =
      rendering.state.aside := by
  induction details generalizing rendering with
  | nil => rfl
  | cons detail rest ih => rw [List.foldl_cons, ih, emitReasoningDetail_aside]

end Asides

section Reading

/-- The fragments within the cap. -/
def withinCap (fragments : List Json) : List Json :=
  fragments.filter fun fragment => toolCallIndex fragment < maxToolCallIndex

def buffersOf (fragments : List Json) : List ToolCallBuffer :=
  (withinCap fragments).foldl (fillSlot toolCallIndex bufferToolCall {}) []

/-- A chunk without a choice is read for its usage, and so is one that finishes its
choice. -/
def readsUsage (chunk : ChatChunk) : Bool :=
  match chunk.choices.head? with
  | some choice => choice.finishReason.isSome
  | none => true

def readUsages (chunks : List ChatChunk) : List UsageDelta := usages (chunks.filter readsUsage)

theorem readUsages_snoc (chunks : List ChatChunk) (chunk : ChatChunk) :
    (readUsages (chunks ++ [chunk])).getLast? =
      if readsUsage chunk then chunk.usage.or (readUsages chunks).getLast?
      else (readUsages chunks).getLast? := by
  unfold readUsages
  rw [List.filter_append]
  split
  case isTrue reads =>
    rw [List.filter_cons_of_pos reads, List.filter_nil, usages_append]
    cases usage : chunk.usage <;> simp [usages, usage]
  case isFalse ignored => simp [ignored]

theorem withinCap_cons (fragment : Json) (rest : List Json) :
    withinCap (fragment :: rest) =
      if maxToolCallIndex ≤ toolCallIndex fragment then withinCap rest
      else fragment :: withinCap rest := by
  unfold withinCap
  rw [List.filter_cons]
  by_cases past : maxToolCallIndex ≤ toolCallIndex fragment
  · rw [if_pos past, if_neg (by simpa using past)]
  · rw [if_neg past, if_pos (by simpa using past)]

theorem bufferFragments (rendering : Rendering) (fragments : List Json) :
    fragments.foldl Rendering.bufferFragment rendering =
      { rendering with
        state := { rendering.state with
          toolBuffers := (withinCap fragments).foldl (fillSlot toolCallIndex bufferToolCall {})
            rendering.state.toolBuffers } } := by
  induction fragments generalizing rendering with
  | nil => rfl
  | cons fragment rest ih =>
    rw [List.foldl_cons, ih, withinCap_cons]
    by_cases past : maxToolCallIndex ≤ toolCallIndex fragment
    · have dropped : rendering.bufferFragment fragment = rendering := if_pos past
      rw [dropped, if_pos past]
    · rw [if_neg past, Rendering.bufferFragment, if_neg past]
      rfl

end Reading

/-- The rendering follows the chunks of a stream, after the head it was created with. -/
structure Follows (head : List Payload) (chunks : List ChatChunk) (rendering : Rendering) :
    Prop where
  started : rendering.state.started = true
  live : rendering.state.finished = false
  buffered : rendering.state.toolBuffers = buffersOf (fragments chunks)
  usage : rendering.state.pendingUsage = (readUsages chunks).getLast?
  draws : Draws head (outlineOf chunks) [] rendering

section Chunks
variable {head : List Payload} {chunks : List ChatChunk} {rendering : Rendering}

theorem emitDeltaEvents_draws {outline : Outline} (draws : Draws head outline [] rendering)
    {chunk : ChatChunk} {choice : ChunkChoice} (chosen : chunk.choices.head? = some choice) :
    Draws head (outline.extendAll (chunkTokens chunk)) []
      (rendering.emitDeltaEvents choice.delta) := by
  unfold Rendering.emitDeltaEvents
  dsimp only
  rw [bufferFragments]
  have tokens : chunkTokens chunk = (nonempty choice.delta.content).toList.map Token.said ++
      (choice.delta.reasoningDetails.filter fun detail => isResponsesFamily detail.format).map
        Token.thought := by
    rw [chunkTokens, chosen]
  have texted : Draws head
      (outline.extendAll ((nonempty choice.delta.content).toList.map Token.said)) []
      (rendering.emitContent choice.delta.content) := by
    unfold Rendering.emitContent
    cases nonempty choice.delta.content with
    | none => exact draws
    | some text => exact emitTextDelta_draws draws text
  have reasoned := emitReasoningDetails_draws texted choice.delta.reasoningDetails
  rw [tokens, Outline.extendAll, List.foldl_append]
  exact ⟨⟨reasoned.carried.events, reasoned.carried.count⟩, reasoned.counted, reasoned.held,
    reasoned.said, reasoned.seen⟩

theorem emitDeltaEvents_aside {chunk : ChatChunk} {choice : ChunkChoice}
    (chosen : chunk.choices.head? = some choice) :
    (rendering.emitDeltaEvents choice.delta).state.aside =
      (rendering.state.started, rendering.state.finished,
        (withinCap (fragments [chunk])).foldl (fillSlot toolCallIndex bufferToolCall {})
          rendering.state.toolBuffers, rendering.state.pendingUsage) := by
  have own : fragments [chunk] = choice.delta.toolCalls.getD [] := by
    simp [fragments, chosen]
  unfold Rendering.emitDeltaEvents
  dsimp only
  rw [bufferFragments, own]
  have reasoned := (emitReasoningDetails_aside _ choice.delta.reasoningDetails).trans
    (emitContent_aside rendering choice.delta.content)
  simp only [ResponsesStreamState.aside, Prod.mk.injEq] at reasoned ⊢
  obtain ⟨started, finished, buffers, usage⟩ := reasoned
  exact ⟨started, finished, by rw [buffers], usage⟩

theorem deliver_follows (follows : Follows head chunks rendering) (chunk : ChatChunk) :
    Follows head (chunks ++ [chunk]) (rendering.deliver chunk) := by
  have reads := readUsages_snoc chunks chunk
  have buffers : buffersOf (fragments (chunks ++ [chunk])) =
      (withinCap (fragments [chunk])).foldl (fillSlot toolCallIndex bufferToolCall {})
        rendering.state.toolBuffers := by
    rw [follows.buffered, fragments_append]
    simp [buffersOf, withinCap, List.filter_append, List.foldl_append]
  unfold Rendering.deliver
  cases chosen : chunk.choices.head? with
  | none =>
    have quiet : chunkTokens chunk = [] := by rw [chunkTokens, chosen]
    have empty : fragments [chunk] = [] := by simp [fragments, chosen]
    have read : readsUsage chunk = true := by rw [readsUsage, chosen]
    rw [if_pos read, ← follows.usage] at reads
    rw [empty] at buffers
    have draws := follows.draws
    refine ⟨follows.started, follows.live, buffers.symm, reads.symm, ?_⟩
    rw [outlineOf_snoc, quiet]
    exact ⟨⟨draws.carried.events, draws.carried.count⟩, draws.counted, draws.held, draws.said,
      draws.seen⟩
  | some choice =>
    have draws := emitDeltaEvents_draws follows.draws chosen
    have aside := @emitDeltaEvents_aside rendering chunk choice chosen
    rw [← outlineOf_snoc] at draws
    rw [← buffers] at aside
    simp only [ResponsesStreamState.aside, Prod.mk.injEq] at aside
    obtain ⟨started, finished, buffered, usage⟩ := aside
    dsimp only
    cases finishing : choice.finishReason with
    | none =>
      have ignored : readsUsage chunk = false := by simp [readsUsage, chosen, finishing]
      rw [if_neg (by simp [ignored]), ← follows.usage] at reads
      exact ⟨started.trans follows.started, finished.trans follows.live, buffered,
        usage.trans reads.symm, draws⟩
    | some finishReason =>
      have read : readsUsage chunk = true := by simp [readsUsage, chosen, finishing]
      rw [if_pos read, ← follows.usage, ← usage] at reads
      exact ⟨started.trans follows.started, finished.trans follows.live, buffered, reads.symm,
        ⟨draws.carried.events, draws.carried.count⟩, draws.counted, draws.held, draws.said,
        draws.seen⟩

theorem renderChunk_follows (follows : Follows head chunks rendering) (minted : String)
    (chunk : ChatChunk) : Follows head (chunks ++ [chunk]) (rendering.renderChunk minted chunk) := by
  have draws := follows.draws
  have identified : Follows head chunks (rendering.captureIdentity chunk) :=
    ⟨follows.started, follows.live, follows.buffered, follows.usage,
      ⟨draws.carried.events, draws.carried.count⟩, draws.counted, draws.held, draws.said,
      draws.seen⟩
  have created : (rendering.captureIdentity chunk).ensureCreated minted =
      rendering.captureIdentity chunk := if_pos identified.started
  unfold Rendering.renderChunk
  rw [if_neg (by simp [follows.live]), created]
  exact deliver_follows identified chunk

theorem renderChunks_follow (follows : Follows head chunks rendering) (minted : String)
    (more : List ChatChunk) :
    Follows head (chunks ++ more) (more.foldl
      (fun (rendering : Rendering) chunk => rendering.renderChunk minted chunk) rendering) := by
  induction more generalizing chunks rendering with
  | nil => simpa using follows
  | cons chunk rest ih =>
    rw [List.append_cons]
    exact ih (renderChunk_follows follows minted chunk)

/-- A stream is created once its identity is known, before anything is drawn. -/
theorem ensureCreated_follows (minted : String) (id model : Option String) :
    ∃ response, Follows [.created response, .inProgress response] []
      (Rendering.ensureCreated { state := { responseId := id, responseModel := model } } minted) :=
  ⟨_, rfl, rfl, rfl, rfl, ⟨rfl, rfl⟩, rfl, rfl, rfl, rfl⟩

/-- A stream as it is when its end comes follows all its chunks. -/
theorem renderStream_follows (minted : String) (chunks : List ChatChunk) :
    (renderChunks minted chunks).state.finished = false ∧
      ∃ response, Follows [.created response, .inProgress response] chunks
        ((renderChunks minted chunks).ensureCreated minted) := by
  cases chunks with
  | nil => exact ⟨rfl, ensureCreated_follows minted none none⟩
  | cons chunk rest =>
    obtain ⟨response, created⟩ := ensureCreated_follows minted
      (nonempty (some chunk.id)) (nonempty (some chunk.model))
    have follows := renderChunks_follow (deliver_follows created chunk) minted rest
    have rendered : renderChunks minted (chunk :: rest) = rest.foldl
        (fun (rendering : Rendering) chunk => rendering.renderChunk minted chunk)
        (Rendering.deliver (Rendering.ensureCreated
          { state := {
              responseId := nonempty (some chunk.id)
              responseModel := nonempty (some chunk.model) } } minted) chunk) := rfl
    rw [← rendered] at follows
    have created : (renderChunks minted (chunk :: rest)).ensureCreated minted =
        renderChunks minted (chunk :: rest) := if_pos follows.started
    rw [created]
    exact ⟨follows.live, response, follows⟩

end Chunks
end Routectl.Responses
