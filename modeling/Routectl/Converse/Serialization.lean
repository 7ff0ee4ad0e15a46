import Routectl.AnthropicApi.Collecting
import Routectl.Converse.Stream

/-! The frames a Converse answer is documented to come in, and what the reader collects of
each of its blocks. -/
namespace Routectl.Converse
open Library Schema
open Routectl.AnthropicApi (Adds makeRedactedThinkingDetail makeThinkingDetail numbered readInput
  SseState.toolDelta)
open Routectl.Bedrock (Bytes)

inductive ReasoningPiece where
  | text (text : String)
  | signature (signature : String)
deriving Repr, DecidableEq

namespace ReasoningPiece

def said : ReasoningPiece → Option String
  | .text heard => some heard
  | .signature _ => none

def given : ReasoningPiece → Option String
  | .text _ => none
  | .signature mark => some mark

def delta : ReasoningPiece → StreamDelta
  | .text heard => .reasoningContent { text := some heard }
  | .signature mark => .reasoningContent { signature := some mark }

end ReasoningPiece

def StreamDelta.input : StreamDelta → Option String
  | .toolUse input => some input
  | _ => none

/-- A block of an answer and the deltas it is cut into; only its signature comes whole. -/
inductive Cut (read : String → Option Json) :
    ConverseResponseContentBlock → List StreamDelta → Prop
  | text {text : String} {pieces : List String} (joined : String.join pieces = text) :
      Cut read (.text text) (pieces.map .text)
  | toolUse {toolUse : ConverseResponseToolUse} {pieces : List String}
      (written : readInput read (String.join pieces) = some toolUse.input) :
      Cut read (.toolUse toolUse) (pieces.map .toolUse)
  | reasoningText {reasoning : ConverseReasoningText} {pieces : List ReasoningPiece}
      (nonempty : reasoning.text ≠ "" ∨ reasoning.signature ≠ none)
      (joined : String.join (pieces.filterMap ReasoningPiece.said) = reasoning.text)
      (signed : pieces.filterMap ReasoningPiece.given = reasoning.signature.toList) :
      Cut read (.reasoningContent ⟨some reasoning, none⟩) (pieces.map ReasoningPiece.delta)
  | redactedContent (data : String) :
      Cut read (.reasoningContent ⟨none, some data⟩)
        [.reasoningContent { redactedContent := some data }]

structure CutBlock (read : String → Option Json) where
  block : ConverseResponseContentBlock
  deltas : List StreamDelta
  proper : Cut read block deltas

section Frames
variable {read : String → Option Json}

/-- Only a tool call has a start. -/
def startEvents (index : Nat) : ConverseResponseContentBlock → List ConverseEvent
  | .toolUse toolUse =>
    [.contentBlockStart index (some (.toolUse toolUse.toolUseId toolUse.name))]
  | _ => []

def CutBlock.events (cut : CutBlock read) (index : Nat) : List ConverseEvent :=
  startEvents index cut.block ++
    (cut.deltas.map (fun delta => .contentBlockDelta index (some delta)) ++
      [.contentBlockStop index])

def bodyEvents : Nat → List (CutBlock read) → List ConverseEvent
  | _, [] => []
  | index, cut :: rest => cut.events index ++ bodyEvents (index + 1) rest

def ConverseEvent.eventType : ConverseEvent → String
  | .messageStart _ => "messageStart"
  | .contentBlockStart _ _ => "contentBlockStart"
  | .contentBlockDelta _ _ => "contentBlockDelta"
  | .contentBlockStop _ => "contentBlockStop"
  | .messageStop _ _ => "messageStop"
  | .metadata _ => "metadata"

def Decoders.Read (decoders : Decoders) (payload : Bytes) : ConverseEvent → Prop
  | .messageStart role => decoders.messageStart payload = .ok role
  | .contentBlockStart index start => decoders.contentBlockStart payload = .ok (index, start)
  | .contentBlockDelta index delta => decoders.contentBlockDelta payload = .ok (index, delta)
  | .contentBlockStop index => decoders.contentBlockStop payload = .ok index
  | .messageStop stopReason additional =>
    decoders.messageStop payload = .ok (stopReason, additional)
  | .metadata usage => decoders.metadata payload = .ok usage

/-- A frame is typed as this event and its payload is read as it. -/
structure Carries (decoders : Decoders) (message : Message) (event : ConverseEvent) : Prop where
  typed : message.frameType = .event event.eventType
  read : decoders.Read message.payload event

/-- These frames are the answer as a stream, its blocks cut in this way; an index is held
in 32 bits. -/
structure Serializes (decoders : Decoders) (response : ConverseResponse)
    (cuts : List (CutBlock read)) (messages : List Message) : Prop where
  content : cuts.map CutBlock.block = response.content
  small : cuts.length ≤ 2 ^ 32
  framed : ∃ role, List.Forall₂ (Carries decoders) messages
    (.messageStart role :: (bodyEvents 0 cuts ++
      [.messageStop response.stopReason response.additionalModelResponseFields,
        .metadata response.usage]))

end Frames

section Handling
variable {decoders : Decoders} {uuid : Nat → String} {state : ConverseStreamState}

theorem readEvent_carried (providerId : String) {message : Message} {event : ConverseEvent}
    (carries : Carries decoders message event) :
    readEvent decoders providerId event.eventType message.payload = .ok (some event) := by
  obtain ⟨-, read⟩ := carries
  cases event <;>
    · dsimp only [Decoders.Read] at read
      simp [readEvent, ConverseEvent.eventType, read, parsePayload]

/-- Frames are handled as the events they carry. -/
theorem handleFrames_carried (providerId : String) {messages : List Message}
    {events : List ConverseEvent} (carried : List.Forall₂ (Carries decoders) messages events) :
    handleFrames decoders providerId uuid state messages = .ok (state.applyAll uuid events) := by
  induction carried generalizing state with
  | nil => rfl
  | cons carries rest ih =>
    have read := readEvent_carried providerId carries
    rw [handleFrames, handleConverseFrame, carries.typed]
    simp only [read, ih, ConverseStreamState.applyAll]

theorem applyAll_append (first second : List ConverseEvent) :
    state.applyAll uuid (first ++ second) =
      (((state.applyAll uuid first).1.applyAll uuid second).1,
        (state.applyAll uuid first).2 ++ ((state.applyAll uuid first).1.applyAll uuid second).2) := by
  induction first generalizing state with
  | nil => rfl
  | cons event rest ih =>
    simp only [List.cons_append, ConverseStreamState.applyAll, ih, List.append_assoc]

end Handling

section Blocks
variable {uuid : Nat → String} {state : ConverseStreamState} {index : Nat}

@[simp] theorem put_blocks (block : BlockState) :
    (state.put index block).blocks index = some block := Function.update_self ..

@[simp] theorem put_put (first second : BlockState) :
    (state.put index first).put index second = state.put index second := by
  simp [ConverseStreamState.put]

/-- A block put where there was none is taken away without a trace. -/
theorem removed_put (absent : state.blocks index = none) (block : BlockState) :
    { state.put index block with
      blocks := Function.update (state.put index block).blocks index none } = state := by
  have back : Function.update (state.put index block).blocks index none = state.blocks := by
    rw [ConverseStreamState.put, Function.update_idem, ← absent, Function.update_eq_self]
  rw [back]
  rfl

theorem removed_absent (absent : state.blocks index = none) :
    { state with blocks := Function.update state.blocks index none } = state := by
  have back : Function.update state.blocks index none = state.blocks := by
    rw [← absent, Function.update_eq_self]
  rw [back]

theorem adds_deltas (deltas : List ChunkDelta) :
    Adds (deltas.map deltaChunk) (String.join (deltas.map fun delta => delta.content.getD ""))
      (deltas.flatMap ChunkDelta.reasoningDetails)
      (deltas.flatMap fun delta => delta.toolCalls.getD []) := by
  constructor
  · simp [contents, deltaChunk, Function.comp_def]
  · simp [details, deltaChunk, List.flatMap_map]
  · simp [fragments, deltaChunk, List.flatMap_map]
  · simp [finishes, deltaChunk]
  · simp [usages, deltaChunk]

/-- Text deltas of a block that is open, or not yet. -/
theorem applyAll_texts (fresh : state.blocks index = some .text ∨ state.blocks index = none)
    (pieces : List String) :
    ∃ opened, state.applyAll uuid
        (pieces.map fun piece => .contentBlockDelta index (some (.text piece))) =
          (opened, pieces.map textChunk) ∧
      (opened = state ∨ opened = state.put index .text) := by
  induction pieces generalizing state with
  | nil => exact ⟨state, rfl, .inl rfl⟩
  | cons piece rest ih =>
    rcases fresh with opened | absent
    · obtain ⟨last, read, kept⟩ := ih (.inl opened)
      refine ⟨last, ?_, kept⟩
      simp only [List.map_cons, ConverseStreamState.applyAll, ConverseStreamState.apply,
        ConverseStreamState.handleBlockDelta, opened, read, List.singleton_append]
    · obtain ⟨last, read, kept⟩ := @ih (state.put index .text) (.inl (put_blocks _))
      refine ⟨last, ?_, ?_⟩
      · simp only [List.map_cons, ConverseStreamState.applyAll, ConverseStreamState.apply,
          ConverseStreamState.handleBlockDelta, absent, read, List.singleton_append]
      · rcases kept with same | again
        · exact .inr same
        · exact .inr (again.trans (put_put _ _))

theorem applyAll_inputs {id name : String} {callIndex : Nat}
    (opened : state.blocks index = some (.toolUse id name callIndex)) (pieces : List String) :
    state.applyAll uuid (pieces.map fun piece => .contentBlockDelta index (some (.toolUse piece))) =
      (state, pieces.map (toolDeltaChunk id name callIndex)) := by
  induction pieces with
  | nil => rfl
  | cons piece rest ih =>
    simp only [List.map_cons, ConverseStreamState.applyAll, ConverseStreamState.apply,
      ConverseStreamState.handleBlockDelta, opened, ih, List.singleton_append]

/-- A piece of a thought that is open. -/
theorem handleBlockDelta_piece {detailIndex : Nat} {accumulated detailId : String}
    {signature : Option String} (piece : ReasoningPiece) :
    (state.put index (.reasoning detailIndex accumulated signature detailId)).handleBlockDelta uuid
        index (some piece.delta) =
      (state.put index (.reasoning detailIndex (accumulated ++ piece.said.getD "")
          (piece.given.or signature) detailId),
        piece.said.toList.map reasoningTextChunk) := by
  cases piece with
  | text text =>
    simp [ReasoningPiece.delta, ReasoningPiece.said, ReasoningPiece.given,
      ConverseStreamState.handleBlockDelta, ConverseStreamState.openReasoning,
      ConverseStreamState.reasoningDelta, ConverseStreamState.hear]
  | signature given =>
    simp [ReasoningPiece.delta, ReasoningPiece.said, ReasoningPiece.given,
      ConverseStreamState.handleBlockDelta, ConverseStreamState.openReasoning,
      ConverseStreamState.reasoningDelta, ConverseStreamState.sign]

/-- The first piece of a thought opens it. -/
theorem handleBlockDelta_first (absent : state.blocks index = none) (piece : ReasoningPiece) :
    state.handleBlockDelta uuid index (some piece.delta) =
      ({ state with nextDetailIndex := bump state.nextDetailIndex }.put index
        (.reasoning state.nextDetailIndex "" none
          (uuid state.nextDetailIndex))).handleBlockDelta uuid index (some piece.delta) := by
  cases piece <;>
    simp [ReasoningPiece.delta, ConverseStreamState.handleBlockDelta,
      ConverseStreamState.openReasoning, absent]

theorem applyAll_pieces {detailIndex : Nat} {accumulated detailId : String}
    {signature : Option String} (pieces : List ReasoningPiece) :
    (state.put index (.reasoning detailIndex accumulated signature detailId)).applyAll uuid
        (pieces.map fun piece => .contentBlockDelta index (some piece.delta)) =
      (state.put index (.reasoning detailIndex
          (accumulated ++ String.join (pieces.filterMap ReasoningPiece.said))
          ((pieces.filterMap ReasoningPiece.given).getLast?.or signature) detailId),
        (pieces.filterMap ReasoningPiece.said).map reasoningTextChunk) := by
  induction pieces generalizing accumulated signature with
  | nil => simp [ConverseStreamState.applyAll]
  | cons piece rest ih =>
    simp only [List.map_cons, ConverseStreamState.applyAll, ConverseStreamState.apply,
      handleBlockDelta_piece, ih]
    cases piece with
    | text text =>
      simp [ReasoningPiece.said, ReasoningPiece.given, String.append_assoc, String.join_cons]
    | signature given =>
      cases last : (rest.filterMap ReasoningPiece.given).getLast? <;>
        simp [List.filterMap_cons, ReasoningPiece.said, ReasoningPiece.given, List.getLast?_cons,
          last]

end Blocks
end Routectl.Converse
