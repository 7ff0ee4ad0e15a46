import Routectl.Library.KeyedMap
import Routectl.ResponsesApi.Types

/-! The stream of the Responses API read event by event: the items that are open, by the
index they are sent under, and the chunks each event gives. -/
namespace Routectl.ResponsesApi
open Library Schema

inductive BlockState where
  | text
  | reasoning (itemId : String) (detailIndex : Nat) (encryptedContent : Option String)
  | toolUse (callId name : String) (callIndex : Nat)
deriving Repr, DecidableEq

structure ResponsesStreamState where
  authKind : AuthKind
  responseId : String := ""
  model : String := ""
  blocks : KeyedMap Nat BlockState := ∅
  nextCallIndex : Nat := 0
  nextDetailIndex : Nat := 0
  createdEmitted : Bool := false
  sawFunctionCall : Bool := false
  minted : Nat := 0

def maxOutputBlocks : Nat := 4096

def nonempty (text : Option String) : Option String := text.filter fun text => text ≠ ""

namespace ResponsesStreamState
variable (state : ResponsesStreamState) (uuid : Nat → String)

/-- A chunk of one delta that does not finish. -/
def deltaChunk (delta : ChunkDelta) : ChatChunk :=
  { id := state.responseId, model := state.model, choices := [{ delta }] }

/-- The id of the item, or one that is minted for this chunk. -/
def stableOrMintedId (itemId : String) : String × ResponsesStreamState :=
  if itemId = "" then (uuid state.minted, { state with minted := state.minted + 1 })
  else (itemId, state)

def reasoningChunk (kind : ReasoningDetailKind) (itemId : String) (detailIndex : Nat)
    (text : String) : ResponsesStreamState × List ChatChunk :=
  let (id, identified) := state.stableOrMintedId uuid itemId
  (identified, [state.deltaChunk
    { reasoning := some text
      reasoningDetails := [laneDetail state.authKind kind id detailIndex "text" text] }])

def reasoningSignatureChunk (itemId : String) (detailIndex : Nat) (signature : String) :
    ResponsesStreamState × List ChatChunk :=
  let (id, identified) := state.stableOrMintedId uuid itemId
  (identified, [state.deltaChunk
    { reasoningDetails :=
        [laneDetail state.authKind .encrypted id detailIndex "encrypted_content" signature] }])

def toolDelta (callIndex : Nat) (callId name partialJson : String) : Json :=
  .object [("index", .number (toString callIndex)), ("id", .string callId),
    ("type", .string "function"),
    ("function", .object [("name", .string name), ("arguments", .string partialJson)])]

def handleCreated (event : ResponsesStreamEvent) : ResponsesStreamState × List ChatChunk :=
  let named : ResponsesStreamState :=
    { state with
      responseId := ((event.response.bind (Json.field "id")).bind Json.asStr).getD state.responseId
      model := ((event.response.bind (Json.field "model")).bind Json.asStr).getD state.model }
  if named.createdEmitted then (named, [])
  else
    ({ named with createdEmitted := true }, [named.deltaChunk { role := some .assistant }])

def handleItemAdded (event : ResponsesStreamEvent) : ResponsesStreamState :=
  match event.outputIndex, event.item with
  | some index, some item =>
    let itemType := ((item.field "type").bind Json.asStr).getD ""
    let itemId := ((item.field "id").bind Json.asStr).getD ""
    let seen : ResponsesStreamState :=
      { state with sawFunctionCall := state.sawFunctionCall || itemType = "function_call" }
    if index ∉ seen.blocks ∧ maxOutputBlocks ≤ seen.blocks.entries.length then seen
    else if itemType = "message" then { seen with blocks := seen.blocks.insert index .text }
    else if itemType = "reasoning" then
      { seen with
        blocks := seen.blocks.insert index (.reasoning itemId seen.nextDetailIndex
          (nonempty ((item.field "encrypted_content").bind Json.asStr)))
        nextDetailIndex := seen.nextDetailIndex + 1 }
    else if itemType = "function_call" then
      { seen with
        blocks := seen.blocks.insert index (.toolUse
          (((item.field "call_id").bind Json.asStr).getD "")
          (((item.field "name").bind Json.asStr).getD "") seen.nextCallIndex)
        nextCallIndex := seen.nextCallIndex + 1 }
    else seen
  | _, _ => state

/-- The block an event with a delta is for. -/
def addressed (event : ResponsesStreamEvent) : Option (String × BlockState) :=
  event.delta.bind fun delta =>
    event.outputIndex.bind fun index => (state.blocks.lookup index).map fun block => (delta, block)

def handleTextDelta (event : ResponsesStreamEvent) : List ChatChunk :=
  match state.addressed event with
  | some (delta, .text) => [state.deltaChunk { content := some delta }]
  | _ => []

/-- A delta of a reasoning item's summary or text. -/
def handleReasoningDelta (kind : ReasoningDetailKind) (event : ResponsesStreamEvent) :
    ResponsesStreamState × List ChatChunk :=
  match state.addressed event with
  | some (delta, .reasoning itemId detailIndex _) =>
    state.reasoningChunk uuid kind itemId detailIndex delta
  | _ => (state, [])

def handleFunctionCallDelta (event : ResponsesStreamEvent) : List ChatChunk :=
  match state.addressed event with
  | some (delta, .toolUse callId name callIndex) =>
    [state.deltaChunk { toolCalls := some [toolDelta callIndex callId name delta] }]
  | _ => []

/-- An item that is done is forgotten; a reasoning item says its signature first. -/
def handleItemDone (event : ResponsesStreamEvent) : ResponsesStreamState × List ChatChunk :=
  match event.outputIndex with
  | none => (state, [])
  | some index =>
    let serverEncrypted :=
      nonempty ((event.item.bind (Json.field "encrypted_content")).bind Json.asStr)
    let (signed, chunks) :=
      match state.blocks.lookup index with
      | some (.reasoning itemId detailIndex encryptedContent) =>
        match serverEncrypted.or encryptedContent with
        | some signature => state.reasoningSignatureChunk uuid itemId detailIndex signature
        | none => (state, [])
      | _ => (state, [])
    ({ signed with blocks := signed.blocks.erase index }, chunks)

def isFunctionCall : ResponseOutputItem → Bool
  | .functionCall _ _ _ => true
  | _ => false

def usageDelta (usage : ResponsesUsage) : UsageDelta :=
  { promptTokens := some usage.inputTokens
    completionTokens := some usage.outputTokens
    totalTokens := some usage.totalTokens
    reasoningTokens := usage.reasoningTokens
    cacheReadInputTokens := usage.cachedTokens }

/-- The end of a stream; `decode` reads the body it carries, and one that cannot be read
is an empty body. -/
def handleCompleted (decode : Json → Option ResponsesResponse) (event : ResponsesStreamEvent) :
    Except UpstreamError (ResponsesStreamState × List ChatChunk) :=
  match event.response with
  | none => .error { message := "openai-responses: response.completed without response payload" }
  | some payload =>
    let response := (decode payload).getD {}
    let hasFunctionCall := response.output.any isFunctionCall || state.sawFunctionCall
    let named : ResponsesStreamState :=
      { state with
        responseId := if response.id = "" then state.responseId else response.id
        model := if response.model = "" then state.model else response.model }
    let usage := response.usage.map usageDelta
    .ok (named, [{
      id := named.responseId
      model := named.model
      choices := [{
        delta := {}
        finishReason := mapFinishReason response.status
          (response.incompleteDetails.bind IncompleteDetails.reason) hasFunctionCall }]
      usage
      upstreamMeta := usage.map fun _ => { usageInputSource := some .explicitFinal } }])

/-- A failure, under the message of its body or else of its kind. -/
def handleFailed (decode : Json → Option ResponsesResponse) (now : Nat) (otherwise : String)
    (event : ResponsesStreamEvent) : UpstreamError :=
  match event.response.bind decode with
  | some response => upstreamErrorFromFailed now response
  | none => { message := otherwise }

def parseEvent (decode : Json → Option ResponsesResponse) (now : Nat)
    (event : ResponsesStreamEvent) :
    Except UpstreamError (ResponsesStreamState × List ChatChunk) :=
  if event.kind = "response.created" then .ok (state.handleCreated event)
  else if event.kind = "response.in_progress" then .ok (state, [])
  else if event.kind = "response.output_item.added" then .ok (state.handleItemAdded event, [])
  else if event.kind = "response.output_text.delta" then .ok (state, state.handleTextDelta event)
  else if event.kind = "response.output_text.done" then .ok (state, [])
  else if event.kind = "response.reasoning_summary_text.delta" then
    .ok (state.handleReasoningDelta uuid .summary event)
  else if event.kind = "response.reasoning_text.delta" then
    .ok (state.handleReasoningDelta uuid .text event)
  else if event.kind = "response.reasoning_summary_part.added" then .ok (state, [])
  else if event.kind = "response.function_call_arguments.delta" then
    .ok (state, state.handleFunctionCallDelta event)
  else if event.kind = "response.function_call_arguments.done" then .ok (state, [])
  else if event.kind = "response.output_item.done" then .ok (state.handleItemDone uuid event)
  else if event.kind = "response.completed" then state.handleCompleted decode event
  else if event.kind = "response.incomplete" then state.handleCompleted decode event
  else if event.kind = "response.failed" then
    .error (handleFailed decode now "openai-responses: response.failed" event)
  else if event.kind = "response.cancelled" then
    .error (handleFailed decode now "openai-responses: response.cancelled" event)
  else .ok (state, [])

/-- The chunks of each event of a stream. -/
def parseEvents (decode : Json → Option ResponsesResponse) (now : Nat)
    (state : ResponsesStreamState) : List ResponsesStreamEvent →
      Except UpstreamError (ResponsesStreamState × List (List ChatChunk))
  | [] => .ok (state, [])
  | event :: rest =>
    match state.parseEvent uuid decode now event with
    | .error failure => .error failure
    | .ok (next, chunks) =>
      match parseEvents decode now next rest with
      | .error failure => .error failure
      | .ok (final, more) => .ok (final, chunks :: more)

end ResponsesStreamState
end Routectl.ResponsesApi
