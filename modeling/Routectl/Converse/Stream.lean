import Mathlib.Logic.Function.Basic
import Routectl.AnthropicApi.Stream
import Routectl.Converse.Types

/-! The reader of a Converse stream. A block of text or of reasoning is opened by its
first delta; only a tool call has a start of its own. -/
namespace Routectl.Converse
open Library Schema
open Routectl.AnthropicApi (makeRedactedThinkingDetail makeThinkingDetail mapStopReason SseState.toolDelta)
open Routectl.Bedrock (Bytes)

inductive BlockState where
  | text
  | toolUse (id name : String) (callIndex : Nat)
  | reasoning (detailIndex : Nat) (accumulated : String) (signature : Option String)
      (detailId : String)
deriving Repr, DecidableEq

structure ConverseStreamState where
  blocks : Nat → Option BlockState := fun _ => none
  nextCallIndex : Nat := 0
  nextDetailIndex : Nat := 0
  roleEmitted : Bool := false
  pendingStopReason : Option String := none
  pendingStopSequence : Option String := none
  endpointIsForeign : Bool := false

section Chunks

def deltaChunk (delta : ChunkDelta) : ChatChunk := { choices := [{ delta }] }

def roleChunk : ChatChunk := deltaChunk { role := some .assistant }

def textChunk (text : String) : ChatChunk := deltaChunk { content := some text }

def toolDeltaChunk (id name : String) (callIndex : Nat) (partialJson : String) : ChatChunk :=
  deltaChunk { toolCalls := some [SseState.toolDelta callIndex id name partialJson] }

/-- The thought as it is heard; its detail follows at the end of the block. -/
def reasoningTextChunk (thinking : String) : ChatChunk := deltaChunk { reasoning := some thinking }

def reasoningTerminalChunk (detailIndex : Nat) (detailId accumulated : String)
    (signature : Option String) : ChatChunk :=
  deltaChunk
    { reasoningDetails :=
        [makeThinkingDetail detailId detailIndex accumulated (signature.getD "")] }

def reasoningRedactedChunk (detailIndex : Nat) (detailId data : String) : ChatChunk :=
  deltaChunk { reasoningDetails := [makeRedactedThinkingDetail detailId detailIndex data] }

/-- The counts of the closing chunk; a stated total is kept as it is. -/
def usageDelta (usage : ConverseUsage) : UsageDelta :=
  let promptTokens := saturatingAdd
    (saturatingAdd usage.inputTokens (usage.cacheWriteInputTokens.getD 0))
    (usage.cacheReadInputTokens.getD 0)
  { promptTokens := some promptTokens
    completionTokens := some usage.outputTokens
    totalTokens :=
      some (usage.totalTokens.getD (saturatingAdd promptTokens usage.outputTokens))
    cacheCreationInputTokens := usage.cacheWriteInputTokens
    cacheReadInputTokens := usage.cacheReadInputTokens
    cacheCreation := usage.cacheDetails.map translateCacheDetails }

end Chunks

namespace ConverseStreamState
variable (uuid : Nat → String) (state : ConverseStreamState)

def put (index : Nat) (block : BlockState) : ConverseStreamState :=
  { state with blocks := Function.update state.blocks index (some block) }

/-- An unknown start, or none, leaves the kind of the block to its first delta. -/
def handleBlockStart (index : Nat) :
    Option StreamContentBlockStartPayload → ConverseStreamState
  | some (.toolUse toolUseId name) =>
    { state with nextCallIndex := bump state.nextCallIndex }.put index
      (.toolUse toolUseId name state.nextCallIndex)
  | some (.other _) => state.put index .text
  | none => state.put index .text

/-- A block of reasoning takes its index when it is opened. -/
def openReasoning (index : Nat) : ConverseStreamState :=
  match state.blocks index with
  | some (.reasoning _ _ _ _) => state
  | some (.toolUse _ _ _) => state
  | some .text | none =>
    { state with nextDetailIndex := bump state.nextDetailIndex }.put index
      (.reasoning state.nextDetailIndex "" none (uuid state.nextDetailIndex))

def hear (index : Nat) (text : String) : ConverseStreamState :=
  match state.blocks index with
  | some (.reasoning detailIndex accumulated signature detailId) =>
    state.put index (.reasoning detailIndex (accumulated ++ text) signature detailId)
  | _ => state

def sign (index : Nat) (signature : String) : ConverseStreamState :=
  match state.blocks index with
  | some (.reasoning detailIndex accumulated _ detailId) =>
    state.put index (.reasoning detailIndex accumulated (some signature) detailId)
  | _ => state

/-- What is withheld goes out at once, under an index of its own. -/
def reasoningDelta (index : Nat) (content : StreamReasoningDelta) :
    ConverseStreamState × List ChatChunk :=
  let heard :=
    match content.text with
    | some text => state.hear index text
    | none => state
  let signed :=
    match content.signature with
    | some signature => heard.sign index signature
    | none => heard
  let live := content.text.toList.map reasoningTextChunk
  match content.redactedContent with
  | some data =>
    ({ signed with nextDetailIndex := bump signed.nextDetailIndex },
      live ++ [reasoningRedactedChunk signed.nextDetailIndex (uuid signed.nextDetailIndex) data])
  | none => (signed, live)

def handleBlockDelta (index : Nat) : Option StreamDelta → ConverseStreamState × List ChatChunk
  | none => (state, [])
  | some (.text text) =>
    match state.blocks index with
    | some (.toolUse _ _ _) => (state, [])
    | some _ => (state, [textChunk text])
    | none => (state.put index .text, [textChunk text])
  | some (.toolUse input) =>
    match state.blocks index with
    | some (.toolUse id name callIndex) => (state, [toolDeltaChunk id name callIndex input])
    | _ => (state, [])
  | some (.reasoningContent content) =>
    match state.blocks index with
    | some (.toolUse _ _ _) => (state, [])
    | _ => (state.openReasoning uuid index).reasoningDelta uuid index content
  | some (.other _) => (state, [])

/-- A thought neither heard nor signed is left out. -/
def handleBlockStop (index : Nat) : ConverseStreamState × List ChatChunk :=
  let removed := { state with blocks := Function.update state.blocks index none }
  match state.blocks index with
  | some (.reasoning detailIndex accumulated signature detailId) =>
    if accumulated = "" ∧ signature = none then (removed, [])
    else (removed, [reasoningTerminalChunk detailIndex detailId accumulated signature])
  | _ => (removed, [])

def buildClosingChunk (usage : Option ConverseUsage) : ConverseStreamState × ChatChunk :=
  ({ state with pendingStopReason := none, pendingStopSequence := none },
    { choices := [{
        delta := {}
        finishReason := mapStopReason state.pendingStopReason
        matchedStopSequence := state.pendingStopSequence }]
      usage := usage.map usageDelta
      upstreamMeta := usage.map fun _ =>
        { usageInputSource := some .explicitFinal
          usageFromVendorEndpoint := some (!state.endpointIsForeign) } })

def apply : ConverseEvent → ConverseStreamState × List ChatChunk
  | .messageStart _ =>
    if state.roleEmitted then (state, []) else ({ state with roleEmitted := true }, [roleChunk])
  | .contentBlockStart index start => (state.handleBlockStart index start, [])
  | .contentBlockDelta index delta => state.handleBlockDelta uuid index delta
  | .contentBlockStop index => state.handleBlockStop index
  | .messageStop stopReason additionalFields =>
    ({ state with
        pendingStopSequence := liftStopSequence stopReason additionalFields
        pendingStopReason := stopReason }, [])
  | .metadata usage =>
    let (closed, chunk) := state.buildClosingChunk usage
    (closed, [chunk])

/-- Events one after the other. -/
def applyAll : ConverseStreamState → List ConverseEvent → ConverseStreamState × List ChatChunk
  | state, [] => (state, [])
  | state, event :: rest =>
    let (after, chunks) := state.apply uuid event
    let (final, more) := applyAll after rest
    (final, chunks ++ more)

end ConverseStreamState

/-- How the payload of each type is read as JSON of its shape, or why it is not. -/
structure Decoders where
  value : Bytes → Option Json
  messageStart : Bytes → Except String (Option String)
  contentBlockStart : Bytes → Except String (Nat × Option StreamContentBlockStartPayload)
  contentBlockDelta : Bytes → Except String (Nat × Option StreamDelta)
  contentBlockStop : Bytes → Except String Nat
  messageStop : Bytes → Except String (Option String × Option Json)
  metadata : Bytes → Except String (Option ConverseUsage)

section Frames
variable (decoders : Decoders) (providerId : String)

def parsePayload {Payload : Type} (label : String) (event : Payload → ConverseEvent) :
    Except String Payload → Except FrameFailure (Option ConverseEvent)
  | .ok payload => .ok (some (event payload))
  | .error reason =>
    .error (.streaming ("bedrock converse-stream " ++ label ++ " payload parse failed (provider=" ++
      providerId ++ "): " ++ reason))

/-- Exceptions that are wrongly framed as events. -/
def exceptionEvents : List String :=
  ["internalServerException", "modelStreamErrorException", "validationException",
    "throttlingException", "serviceUnavailableException", "accessDeniedException",
    "unauthorizedException"]

/-- The event of this type, none for a type that is unknown. -/
def readEvent (eventType : String) (payload : Bytes) : Except FrameFailure (Option ConverseEvent) :=
  if eventType = "messageStart" then
    parsePayload providerId eventType .messageStart (decoders.messageStart payload)
  else if eventType = "contentBlockStart" then
    parsePayload providerId eventType (fun read => .contentBlockStart read.1 read.2)
      (decoders.contentBlockStart payload)
  else if eventType = "contentBlockDelta" then
    parsePayload providerId eventType (fun read => .contentBlockDelta read.1 read.2)
      (decoders.contentBlockDelta payload)
  else if eventType = "contentBlockStop" then
    parsePayload providerId eventType .contentBlockStop (decoders.contentBlockStop payload)
  else if eventType = "messageStop" then
    parsePayload providerId eventType (fun read => .messageStop read.1 read.2)
      (decoders.messageStop payload)
  else if eventType = "metadata" then
    parsePayload providerId eventType .metadata (decoders.metadata payload)
  else if exceptionEvents.contains eventType then
    .error (exceptionError providerId eventType ((decoders.value payload).getD .null))
  else .ok none

/-- One frame of the stream. -/
def handleConverseFrame (uuid : Nat → String) (message : Message) (state : ConverseStreamState) :
    Except FrameFailure (ConverseStreamState × List ChatChunk) :=
  match message.frameType with
  | .exception name =>
    .error (exceptionError providerId name ((decoders.value message.payload).getD .null))
  | .untyped => .ok (state, [])
  | .event eventType =>
    match readEvent decoders providerId eventType message.payload with
    | .error failure => .error failure
    | .ok none => .ok (state, [])
    | .ok (some event) => .ok (state.apply uuid event)

/-- Frames up to the first that is refused. -/
def handleFrames (uuid : Nat → String) : ConverseStreamState → List Message →
    Except FrameFailure (ConverseStreamState × List ChatChunk)
  | state, [] => .ok (state, [])
  | state, message :: rest =>
    match handleConverseFrame decoders providerId uuid message state with
    | .error failure => .error failure
    | .ok (after, chunks) =>
      match handleFrames uuid after rest with
      | .error failure => .error failure
      | .ok (final, more) => .ok (final, chunks ++ more)

end Frames
end Routectl.Converse
