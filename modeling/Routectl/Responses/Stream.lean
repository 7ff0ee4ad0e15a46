import Routectl.Library.Buffers
import Routectl.Responses.Output

/-! The renderer of canonical chunks as Responses events. Items are opened and closed
around the deltas as their kind changes; tool calls are buffered until the end. -/
namespace Routectl.Responses
open Library Schema

inductive Payload where
  | created (response : ResponseBody)
  | inProgress (response : ResponseBody)
  | outputItemAdded (outputIndex : Nat) (item : OutputItem)
  | contentPartAdded (outputIndex contentIndex : Nat) (part : OutputBlock)
  | outputTextDelta (outputIndex contentIndex : Nat) (delta : String)
  | outputTextDone (outputIndex contentIndex : Nat) (text : String)
  | contentPartDone (outputIndex contentIndex : Nat) (part : OutputBlock)
  | reasoningSummaryTextDelta (outputIndex summaryIndex : Nat) (delta : String)
  | reasoningTextDelta (outputIndex contentIndex : Nat) (delta : String)
  | functionCallArgumentsDelta (outputIndex : Nat) (delta : String)
  | functionCallArgumentsDone (outputIndex : Nat) (arguments : String)
  | outputItemDone (outputIndex : Nat) (item : OutputItem)
  | completed (response : ResponseBody)
  | failed (response : ResponseBody)

structure SseEvent where
  sequenceNumber : Nat
  payload : Payload

inductive OpenOutputItem where
  | text (outputIndex : Nat)
  | reasoning (outputIndex : Nat) (detailId : Option String) (summaryIndex contentIndex : Nat)
deriving Repr, DecidableEq

structure ToolCallBuffer where
  id : String := ""
  name : String := ""
  arguments : String := ""
deriving Repr, DecidableEq

structure ResponsesStreamState where
  started : Bool := false
  finished : Bool := false
  sequenceNumber : Nat := 0
  nextOutputIndex : Nat := 0
  openItem : Option OpenOutputItem := none
  toolBuffers : List ToolCallBuffer := []
  responseId : Option String := none
  responseModel : Option String := none
  pendingFinishReason : Option String := none
  pendingUsage : Option UsageDelta := none
  textAccumulator : String := ""
  currentText : String := ""
  reasoningAccumulator : List ReasoningDetail := []

def maxToolCallIndex : Nat := 4096

def nonempty (text : Option String) : Option String := text.filter fun text => text ≠ ""

/-- An id or a name is overwritten by a later one that is not empty. -/
def bufferToolCall (toolCall : Json) (buffer : ToolCallBuffer) : ToolCallBuffer :=
  { id := (nonempty (toolCallId toolCall)).getD buffer.id
    name := (nonempty (toolCallName toolCall)).getD buffer.name
    arguments := buffer.arguments ++ (toolCallArguments toolCall).getD "" }

def named (buffer : ToolCallBuffer) : Bool := buffer.id ≠ "" || buffer.name ≠ ""

def toolCallValue (buffer : ToolCallBuffer) : Json :=
  .object [("id", .string buffer.id), ("type", .string "function"),
    ("function", .object [("name", .string buffer.name), ("arguments", .string buffer.arguments)])]

/-- The body of a reasoning item, from every accumulated detail of its id. -/
def reasoningDoneItem (detailId : Option String) (details : List ReasoningDetail) : OutputItem :=
  let own := details.filter fun detail => detail.id = detailId && isResponsesFamily detail.format
  reasoningItem detailId (own.foldl accumulateReasoningDetail {})

def usageFromDelta (usage : UsageDelta) : Usage :=
  { promptTokens := usage.promptTokens.getD 0
    completionTokens := usage.completionTokens.getD 0
    totalTokens := usage.totalTokens.getD 0
    reasoningTokens := usage.reasoningTokens
    cacheCreationInputTokens := usage.cacheCreationInputTokens
    cacheReadInputTokens := usage.cacheReadInputTokens
    cacheCreation := usage.cacheCreation
    serverToolUse := usage.serverToolUse }

/-- The state with the events rendered so far. -/
structure Rendering where
  state : ResponsesStreamState := {}
  events : List SseEvent := []

namespace Rendering
variable (rendering : Rendering)

def pushEvent (payload : Payload) : Rendering :=
  { state := { rendering.state with sequenceNumber := rendering.state.sequenceNumber + 1 }
    events := rendering.events ++ [⟨rendering.state.sequenceNumber, payload⟩] }

/-- The id every event of the response goes under; a missing one is minted. -/
def responseId (minted : String) : String := rendering.state.responseId.getD minted

def pinIdentity (minted : String) : Rendering :=
  { rendering with
    state := { rendering.state with responseId := some (rendering.responseId minted) } }

def responseSkeleton (minted status : String) (output : List OutputItem)
    (usage : Option UsageDelta) : ResponseBody :=
  { id := rendering.responseId minted
    model := rendering.state.responseModel.getD ""
    status
    output
    usage := usage.map fun usage => renderUsage (usageFromDelta usage) }

def ensureCreated (minted : String) : Rendering :=
  if rendering.state.started then rendering
  else
    let created := rendering.responseSkeleton minted "in_progress" [] none
    let started : Rendering :=
      { rendering with state := { rendering.state with started := true } }
    ((started.pinIdentity minted).pushEvent (.created created)).pushEvent (.inProgress created)

/-- Take the next output index, and hold an item open under it. -/
def allocate (opening : Nat → Option OpenOutputItem) : Rendering :=
  { rendering with
    state := { rendering.state with
      nextOutputIndex := rendering.state.nextOutputIndex + 1
      openItem := opening rendering.state.nextOutputIndex } }

def closeOpenItem : Rendering :=
  let closed : Rendering := { rendering with state := { rendering.state with openItem := none } }
  match rendering.state.openItem with
  | some (.text outputIndex) =>
    let text := rendering.state.currentText
    let taken : Rendering := { closed with state := { closed.state with currentText := "" } }
    ((taken.pushEvent (.outputTextDone outputIndex 0 text)).pushEvent
      (.contentPartDone outputIndex 0 (.outputText text))).pushEvent
        (.outputItemDone outputIndex (.message "completed" [.outputText text]))
  | some (.reasoning outputIndex detailId _ _) =>
    closed.pushEvent (.outputItemDone outputIndex
      (reasoningDoneItem detailId rendering.state.reasoningAccumulator))
  | none => rendering

def openTextItem : Rendering :=
  let closed := rendering.closeOpenItem
  let outputIndex := closed.state.nextOutputIndex
  let opened := closed.allocate fun outputIndex => some (.text outputIndex)
  (({ opened with state := { opened.state with currentText := "" } }.pushEvent
    (.outputItemAdded outputIndex (.message "in_progress" []))).pushEvent
      (.contentPartAdded outputIndex 0 (.outputText "")))

/-- The index of the message item that is open, and the rendering that has it open. -/
def ensureTextItem : Nat × Rendering :=
  match rendering.state.openItem with
  | some (.text outputIndex) => (outputIndex, rendering)
  | _ => (rendering.closeOpenItem.state.nextOutputIndex, rendering.openTextItem)

def emitTextDelta (text : String) : Rendering :=
  let ensured := rendering.ensureTextItem
  { ensured.2 with
    state := { ensured.2.state with
      textAccumulator := ensured.2.state.textAccumulator ++ text
      currentText := ensured.2.state.currentText ++ text } }.pushEvent
    (.outputTextDelta ensured.1 0 text)

def openReasoningItem (detailId : Option String) : Rendering :=
  let closed := rendering.closeOpenItem
  let outputIndex := closed.state.nextOutputIndex
  (closed.allocate fun outputIndex => some (.reasoning outputIndex detailId 0 0)).pushEvent
    (.outputItemAdded outputIndex (.reasoning detailId [] [] none))

def ensureReasoningItem (detailId : Option String) : Nat × Rendering :=
  match rendering.state.openItem with
  | some (.reasoning outputIndex openId _ _) =>
    if openId = detailId then (outputIndex, rendering)
    else (rendering.closeOpenItem.state.nextOutputIndex, rendering.openReasoningItem detailId)
  | _ => (rendering.closeOpenItem.state.nextOutputIndex, rendering.openReasoningItem detailId)

/-- The next part of the open reasoning item's summary. -/
def nextReasoningSummaryIndex : Nat × Rendering :=
  match rendering.state.openItem with
  | some (.reasoning outputIndex detailId summaryIndex contentIndex) =>
    (summaryIndex, { rendering with
      state := { rendering.state with
        openItem := some (.reasoning outputIndex detailId (summaryIndex + 1) contentIndex) } })
  | _ => (0, rendering)

/-- The next part of the open reasoning item's content. -/
def nextReasoningContentIndex : Nat × Rendering :=
  match rendering.state.openItem with
  | some (.reasoning outputIndex detailId summaryIndex contentIndex) =>
    (contentIndex, { rendering with
      state := { rendering.state with
        openItem := some (.reasoning outputIndex detailId summaryIndex (contentIndex + 1)) } })
  | _ => (0, rendering)

/-- The delta of a detail under its part index; a detail without text, or of another
kind, has none. -/
def streamReasoningDetail (outputIndex : Nat) (detail : ReasoningDetail) : Rendering :=
  match detail.kind, detail.text with
  | .summary, some text =>
    let (summaryIndex, counted) := rendering.nextReasoningSummaryIndex
    counted.pushEvent (.reasoningSummaryTextDelta outputIndex summaryIndex text)
  | .text, some text =>
    let (contentIndex, counted) := rendering.nextReasoningContentIndex
    counted.pushEvent (.reasoningTextDelta outputIndex contentIndex text)
  | _, _ => rendering

/-- Every detail is accumulated; only those of the family open an item. -/
def emitReasoningDetail (detail : ReasoningDetail) : Rendering :=
  let accumulated : Rendering :=
    { rendering with
      state := { rendering.state with
        reasoningAccumulator := rendering.state.reasoningAccumulator ++ [detail] } }
  if isResponsesFamily detail.format then
    let (outputIndex, ensured) := accumulated.ensureReasoningItem detail.id
    ensured.streamReasoningDetail outputIndex detail
  else accumulated

/-- A call whose index is past the cap is dropped. -/
def bufferFragment (toolCall : Json) : Rendering :=
  if maxToolCallIndex ≤ toolCallIndex toolCall then rendering
  else
    { rendering with
      state := { rendering.state with
        toolBuffers :=
          fillSlot toolCallIndex bufferToolCall {} rendering.state.toolBuffers toolCall } }

def emitContent (content : Option String) : Rendering :=
  match nonempty content with
  | some text => rendering.emitTextDelta text
  | none => rendering

def emitDeltaEvents (delta : ChunkDelta) : Rendering :=
  let texted := rendering.emitContent delta.content
  let reasoned := delta.reasoningDetails.foldl emitReasoningDetail texted
  (delta.toolCalls.getD []).foldl bufferFragment reasoned

/-- The first finish reason is kept; usage that comes with any of them is. -/
def stashFinish (finishReason : String) (usage : Option UsageDelta) : Rendering :=
  { rendering with
    state := { rendering.state with
      pendingFinishReason := rendering.state.pendingFinishReason.or (some finishReason)
      pendingUsage := usage.or rendering.state.pendingUsage } }

/-- The first id and model the stream names. -/
def captureIdentity (chunk : ChatChunk) : Rendering :=
  { rendering with
    state := { rendering.state with
      responseId := rendering.state.responseId.or (nonempty (some chunk.id))
      responseModel := rendering.state.responseModel.or (nonempty (some chunk.model)) } }

def deliver (chunk : ChatChunk) : Rendering :=
  match chunk.choices.head? with
  | some choice =>
    let emitted := rendering.emitDeltaEvents choice.delta
    match choice.finishReason with
    | some finishReason => emitted.stashFinish finishReason chunk.usage
    | none => emitted
  | none =>
    { rendering with
      state := { rendering.state with pendingUsage := chunk.usage.or rendering.state.pendingUsage } }

def renderChunk (minted : String) (chunk : ChatChunk) : Rendering :=
  if rendering.state.finished then rendering
  else ((rendering.captureIdentity chunk).ensureCreated minted).deliver chunk

def flushToolCall (buffer : ToolCallBuffer) : Rendering :=
  let closed := rendering.closeOpenItem
  let outputIndex := closed.state.nextOutputIndex
  let item := functionCallItem (toolCallValue buffer)
  let added := (closed.allocate fun _ => closed.state.openItem).pushEvent
    (.outputItemAdded outputIndex item)
  let argued :=
    if buffer.arguments = "" then added
    else added.pushEvent (.functionCallArgumentsDelta outputIndex buffer.arguments)
  (argued.pushEvent (.functionCallArgumentsDone outputIndex buffer.arguments)).pushEvent
    (.outputItemDone outputIndex item)

def flushToolCalls : Rendering :=
  (rendering.state.toolBuffers.filter named).foldl flushToolCall
    { rendering with state := { rendering.state with toolBuffers := [] } }

/-- The stream put back together as the answer that would have come whole. -/
def accumulatedResponse (minted : String) : ChatResponse :=
  let toolCalls := (rendering.state.toolBuffers.filter named).map toolCallValue
  { id := rendering.responseId minted
    model := rendering.state.responseModel.getD ""
    choices := [{
      message := {
        role := .assistant
        content := if rendering.state.textAccumulator = "" then .null
          else .text rendering.state.textAccumulator
        reasoningDetails := rendering.state.reasoningAccumulator
        toolCalls := if toolCalls.isEmpty then none else some toolCalls }
      finishReason := rendering.state.pendingFinishReason }] }

def completedOutput (minted : String) : List OutputItem :=
  (renderResponsesResponse (rendering.accumulatedResponse minted)).output

def terminalEvent (minted : String) (finishedOutput : List OutputItem) : Payload :=
  let (status, incompleteReason) := statusFromFinishReason rendering.state.pendingFinishReason
  let body := rendering.responseSkeleton minted status finishedOutput rendering.state.pendingUsage
  if status = "failed" then .failed { body with incompleteReason }
  else .completed { body with incompleteReason }

def renderEos (minted : String) : Rendering :=
  if rendering.state.finished then rendering
  else
    let closed := (rendering.ensureCreated minted).closeOpenItem
    let finishedOutput := closed.completedOutput minted
    let flushed := closed.flushToolCalls
    let ended := (flushed.pinIdentity minted).pushEvent (flushed.terminalEvent minted finishedOutput)
    { ended with state := { ended.state with finished := true } }

end Rendering

def renderChunks (minted : String) (chunks : List ChatChunk) : Rendering :=
  chunks.foldl (fun (rendering : Rendering) chunk => rendering.renderChunk minted chunk) {}

/-- A whole stream: every chunk, and the end. -/
def renderStream (minted : String) (chunks : List ChatChunk) : List SseEvent :=
  ((renderChunks minted chunks).renderEos minted).events

end Routectl.Responses
