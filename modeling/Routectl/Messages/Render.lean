import Mathlib.Data.List.Sort
import Routectl.Library.KeyedMap
import Routectl.Schema.Chunk

/-! The renderer of canonical chunks as Messages events: one canonical block open at a
time, replayed opaque blocks beside it, tool calls buffered until a finish. -/
namespace Routectl.Messages
open Library Schema

inductive StartBlock where
  | text
  | thinking
  | redactedThinking (data : String)
  | toolUse (id name : String)
  | opaqueData (raw : String)
deriving Repr, DecidableEq

inductive BlockDelta where
  | textDelta (text : String)
  | thinkingDelta (thinking : String)
  | signatureDelta (signature : String)
  | inputJsonDelta (partialJson : String)
  | opaqueData (raw : String)
deriving Repr, DecidableEq

structure WireUsage where
  inputTokens : Nat
  outputTokens : Nat
  cacheCreationInputTokens : Option Nat
  cacheReadInputTokens : Option Nat
  cacheCreation : Option CacheCreation
deriving Repr, DecidableEq

/-- An event as it goes to the client; a start without an id is sent under a minted
one. -/
inductive MessageEvent where
  | messageStart (id : Option String) (model : String) (usage : WireUsage)
  | contentBlockStart (index : Nat) (block : StartBlock)
  | contentBlockDelta (index : Nat) (delta : BlockDelta)
  | contentBlockStop (index : Nat)
  | messageDelta (stopReason stopSequence : Option String) (usage : Option WireUsage)
  | messageStop
deriving Repr, DecidableEq

inductive OpenBlockKind where
  | text
  | thinking (detailIndex : Nat)
  | toolUse
deriving Repr, DecidableEq

structure ToolBlockState where
  id : String := ""
  name : String := ""
  partialJson : String := ""
deriving Repr, DecidableEq

structure AnthropicStreamState where
  started : Bool
  finished : Bool
  openBlock : Option (Nat × OpenBlockKind)
  nextIndex : Nat
  msgId : Option String
  msgModel : Option String
  toolBlocks : List ToolBlockState
  pendingFinishReason : Option String
  pendingMatchedStopSequence : Option String
  opaqueIndexMap : KeyedMap Nat Nat
  reqModel : Option String
  inputTokensEstimate : Nat

structure StreamRequestContext where
  inputTokensEstimate : Nat
  model : String

def newState (ctx : StreamRequestContext) : AnthropicStreamState :=
  { started := false
    finished := false
    openBlock := none
    nextIndex := 0
    msgId := none
    msgModel := none
    toolBlocks := []
    pendingFinishReason := none
    pendingMatchedStopSequence := none
    opaqueIndexMap := ∅
    reqModel := if ctx.model = "" then none else some ctx.model
    inputTokensEstimate := ctx.inputTokensEstimate }

inductive StreamingError where
  | toolCallIndex (index : Nat)
deriving Repr, DecidableEq

def maxToolCallIndex : Nat := 4096

def startBlock : OpenBlockKind → StartBlock
  | .text => .text
  | .thinking _ => .thinking
  | .toolUse => .toolUse "" ""

def encryptedDetailData (detail : ReasoningDetail) : String :=
  let blob := (((detail.payload.field "data").bind Json.asStr).or
    ((detail.payload.field "encrypted_content").bind Json.asStr)).getD ""
  if blob = "" || !isResponsesFamily detail.format then blob
  else wrap (detail.format.getD "") detail.id blob

def bufferToolCall (toolCall : Json) (block : ToolBlockState) : ToolBlockState :=
  { id := (toolCallId toolCall).getD block.id
    name := (toolCallName toolCall).getD block.name
    partialJson := block.partialJson ++ (toolCallArguments toolCall).getD "" }

/-- The buffers grow to hold an index. -/
def grown (blocks : List ToolBlockState) (callIndex : Nat) : List ToolBlockState :=
  blocks ++ List.replicate (callIndex + 1 - blocks.length) ({} : ToolBlockState)

def bufferFragment (blocks : List ToolBlockState) (toolCall : Json) : List ToolBlockState :=
  (grown blocks (toolCallIndex toolCall)).modify (toolCallIndex toolCall) (bufferToolCall toolCall)

def named (block : ToolBlockState) : Bool := block.id ≠ "" || block.name ≠ ""

def openaiFinishToAnthropicStop (finishReason : String) : String :=
  if finishReason = "stop" then "end_turn"
  else if finishReason = "length" then "max_tokens"
  else if finishReason = "tool_calls" then "tool_use"
  else if finishReason = "content_filter" then "refusal"
  else finishReason

def wireUsage (usage : UsageDelta) : WireUsage :=
  { inputTokens := usage.promptTokens.getD 0 - usage.cacheCreationInputTokens.getD 0 -
      usage.cacheReadInputTokens.getD 0
    outputTokens := usage.completionTokens.getD 0
    cacheCreationInputTokens := usage.cacheCreationInputTokens
    cacheReadInputTokens := usage.cacheReadInputTokens
    cacheCreation := usage.cacheCreation }

def messageDelta (finishReason matchedStopSequence : Option String) (usage : Option UsageDelta) :
    MessageEvent :=
  match matchedStopSequence with
  | some sequence => .messageDelta (some "stop_sequence") (some sequence) (usage.map wireUsage)
  | none =>
    .messageDelta (finishReason.map openaiFinishToAnthropicStop) none (usage.map wireUsage)

/-- The state with the events rendered so far. -/
structure Rendering where
  state : AnthropicStreamState
  events : List MessageEvent

namespace Rendering
variable (rendering : Rendering)

def emit (event : MessageEvent) : Rendering :=
  { rendering with events := rendering.events ++ [event] }

def emitMessageStart (opening : Option OpeningUsage) : Rendering :=
  let usage : WireUsage :=
    match opening with
    | none => ⟨rendering.state.inputTokensEstimate, 0, none, none, none⟩
    | some opening =>
      ⟨opening.inputTokens, 0, opening.cacheCreationInputTokens, opening.cacheReadInputTokens,
        opening.cacheCreation⟩
  rendering.emit (.messageStart rendering.state.msgId
    ((rendering.state.msgModel.or rendering.state.reqModel).getD "") usage)

def closeOpenBlock : Rendering :=
  match rendering.state.openBlock with
  | none => rendering
  | some (index, _) =>
    { rendering with state := { rendering.state with openBlock := none } }.emit
      (.contentBlockStop index)

/-- Take the next block index. -/
def allocate : Rendering :=
  { rendering with state := { rendering.state with nextIndex := rendering.state.nextIndex + 1 } }

/-- The index of the open block of this kind, and the rendering that has it open. -/
def ensureBlock (kind : OpenBlockKind) : Nat × Rendering :=
  let reopen :=
    let closed := rendering.closeOpenBlock
    let index := closed.state.nextIndex
    let opened := closed.allocate
    (index, { opened with state := { opened.state with openBlock := some (index, kind) } }.emit
      (.contentBlockStart index (startBlock kind)))
  match rendering.state.openBlock with
  | some (index, held) => if held = kind then (index, rendering) else reopen
  | none => reopen

/-- One upstream opaque event, sent on as the block data it came with. -/
def replayOpaqueEvent : OpaqueSseEvent → Rendering
  | .contentBlockStart upstreamIndex _ rawData =>
    let closed := rendering.closeOpenBlock
    let index := closed.state.nextIndex
    let orphan := closed.state.opaqueIndexMap.lookup upstreamIndex
    let allocated := closed.allocate
    let mapped : Rendering :=
      { allocated with
        state := { allocated.state with
          opaqueIndexMap := allocated.state.opaqueIndexMap.insert upstreamIndex index } }
    let stopped :=
      match orphan with
      | some old => mapped.emit (.contentBlockStop old)
      | none => mapped
    match String.fromUTF8? rawData with
    | some raw => stopped.emit (.contentBlockStart index (.opaqueData raw))
    | none => stopped
  | .contentBlockDelta upstreamIndex rawDelta =>
    match rendering.state.opaqueIndexMap.lookup upstreamIndex with
    | none => rendering
    | some index =>
      match String.fromUTF8? rawDelta with
      | some raw => rendering.emit (.contentBlockDelta index (.opaqueData raw))
      | none => rendering
  | .contentBlockStop upstreamIndex =>
    match rendering.state.opaqueIndexMap.lookup upstreamIndex with
    | none => rendering
    | some index =>
      { rendering with
        state := { rendering.state with
          opaqueIndexMap := rendering.state.opaqueIndexMap.erase upstreamIndex } }.emit
        (.contentBlockStop index)

def replayOpaqueEvents (events : List OpaqueSseEvent) : Rendering :=
  events.foldl replayOpaqueEvent rendering

/-- Close the replayed blocks still open, in the order of their upstream indices. -/
def closeLingeringOpaqueBlocks : Rendering :=
  let lingering :=
    (rendering.state.opaqueIndexMap.entries.map fun entry => (entry.1, entry.2)).insertionSort
      fun first second => first.1 ≤ second.1
  lingering.foldl (fun closing entry => closing.emit (.contentBlockStop entry.2))
    { rendering with state := { rendering.state with opaqueIndexMap := ∅ } }

def emitText (text : String) : Rendering :=
  if text = "" then rendering
  else
    let (index, opened) := rendering.ensureBlock .text
    opened.emit (.contentBlockDelta index (.textDelta text))

def emitThinkingDelta (index : Nat) (text : Option String) : Rendering :=
  match text with
  | some text =>
    if text = "" then rendering
    else rendering.emit (.contentBlockDelta index (.thinkingDelta text))
  | none => rendering

/-- The detail's text, and its signature where the kind carries one, in a thinking
block. -/
def emitThinking (detail : ReasoningDetail) (signature : Option String) : Rendering :=
  let opened := rendering.ensureBlock (.thinking (detail.index.getD 0))
  let texted := opened.2.emitThinkingDelta opened.1 detail.text
  match signature with
  | some signature => texted.emit (.contentBlockDelta opened.1 (.signatureDelta signature))
  | none => texted

def emitReasoningDetail (detail : ReasoningDetail) : Rendering :=
  match detail.kind with
  | .text =>
    rendering.emitThinking detail ((detail.payload.field "signature").bind Json.asStr)
  | .encrypted =>
    let closed := rendering.closeOpenBlock
    let index := closed.state.nextIndex
    (closed.allocate.emit
      (.contentBlockStart index (.redactedThinking (encryptedDetailData detail)))).emit
      (.contentBlockStop index)
  | .summary | .other _ => rendering.emitThinking detail none

def applyToolCallDelta (toolCall : Json) : Except StreamingError Rendering :=
  let callIndex := toolCallIndex toolCall
  if maxToolCallIndex < callIndex then .error (.toolCallIndex callIndex)
  else
    .ok { rendering with
      state := { rendering.state with
        toolBlocks := bufferFragment rendering.state.toolBlocks toolCall } }

def emitDeltaEvents (delta : ChunkDelta) : Except StreamingError Rendering :=
  let texted := rendering.emitText (delta.content.getD "")
  let reasoned := delta.reasoningDetails.foldl emitReasoningDetail texted
  (delta.toolCalls.getD []).foldlM applyToolCallDelta reasoned

def flushToolBlock (block : ToolBlockState) : Rendering :=
  let closed := rendering.closeOpenBlock
  let index := closed.state.nextIndex
  let opened := closed.allocate
  let started := { opened with
      state := { opened.state with openBlock := some (index, .toolUse) } }.emit
    (.contentBlockStart index (.toolUse block.id block.name))
  if block.partialJson = "" then started
  else started.emit (.contentBlockDelta index (.inputJsonDelta block.partialJson))

def flushToolBlocks : Rendering :=
  (rendering.state.toolBlocks.filter named).foldl flushToolBlock
    { rendering with state := { rendering.state with toolBlocks := [] } }

def emitMessageStop : Rendering :=
  if rendering.state.finished then rendering
  else { rendering with state := { rendering.state with finished := true } }.emit .messageStop

/-- The first id and model the stream names. -/
def captureIdentity (chunk : ChatChunk) : Rendering :=
  { rendering with
    state := { rendering.state with
      msgId := if chunk.id ≠ "" && rendering.state.msgId.isNone then some chunk.id
        else rendering.state.msgId
      msgModel := if chunk.model ≠ "" && rendering.state.msgModel.isNone then some chunk.model
        else rendering.state.msgModel } }

def ensureStarted (opening : Option OpeningUsage) : Rendering :=
  if rendering.state.started then rendering
  else
    let opened := rendering.emitMessageStart opening
    { opened with state := { opened.state with started := true } }

/-- A finish closes what is open; with usage it ends the message, without it the reason
is held for the usage chunk or the end. -/
def finish (finishReason : String) (choice : ChunkChoice) (usage : Option UsageDelta) : Rendering :=
  let closed := rendering.flushToolBlocks.closeOpenBlock
  if usage.isSome then
    (closed.closeLingeringOpaqueBlocks.emit
      (messageDelta (some finishReason) choice.matchedStopSequence usage)).emitMessageStop
  else if closed.state.pendingFinishReason.isSome then closed
  else
    { closed with
      state := { closed.state with
        pendingFinishReason := some finishReason
        pendingMatchedStopSequence := choice.matchedStopSequence } }

/-- Usage without a choice ends a message whose finish was held. -/
def usageOnly (usage : UsageDelta) : Rendering :=
  match rendering.state.pendingFinishReason with
  | some finishReason =>
    let taken : Rendering := { rendering with
      state := { rendering.state with
        pendingFinishReason := none, pendingMatchedStopSequence := none } }
    (taken.closeLingeringOpaqueBlocks.emit
      (messageDelta (some finishReason) rendering.state.pendingMatchedStopSequence
        (some usage))).emitMessageStop
  | none => rendering.emit (messageDelta none none (some usage))

def renderChunk (chunk : ChatChunk) : Except StreamingError Rendering :=
  if rendering.state.finished then .ok rendering
  else
    let opening := chunk.upstreamMeta.bind UpstreamMeta.openingUsage
    let started := (rendering.captureIdentity chunk).ensureStarted opening
    let replayed := started.replayOpaqueEvents chunk.opaqueEvents
    match chunk.choices.head? with
    | some choice => do
      let delivered ← replayed.emitDeltaEvents choice.delta
      match choice.finishReason with
      | some finishReason => pure (delivered.finish finishReason choice chunk.usage)
      | none => pure delivered
    | none =>
      match chunk.usage with
      | some usage => .ok (replayed.usageOnly usage)
      | none => .ok replayed

end Rendering

/-- The first body byte of a held response, before any chunk. -/
def earlyFrame (state : AnthropicStreamState) : Rendering := Rendering.ensureStarted ⟨state, []⟩ none

def renderEos (rendering : Rendering) : Rendering :=
  if rendering.state.finished then rendering
  else
    let closed := (rendering.ensureStarted none).flushToolBlocks.closeOpenBlock
    let drained := closed.closeLingeringOpaqueBlocks
    let reported :=
      match drained.state.pendingFinishReason with
      | some finishReason =>
        { drained with
          state := { drained.state with
            pendingFinishReason := none, pendingMatchedStopSequence := none } }.emit
          (messageDelta (some finishReason) drained.state.pendingMatchedStopSequence none)
      | none => drained
    reported.emitMessageStop

/-- A whole stream: the early frame where one was sent, every chunk, and the end. -/
def renderStream (ctx : StreamRequestContext) (early : Bool) (chunks : List ChatChunk) :
    Except StreamingError (List MessageEvent) := do
  let opened : Rendering := if early then earlyFrame (newState ctx) else ⟨newState ctx, []⟩
  let rendered ← chunks.foldlM Rendering.renderChunk opened
  return (renderEos rendered).events

end Routectl.Messages
