import Routectl.Schema.Chunk

/-! The wire of the Messages API as its reader holds it: the blocks of a whole body, and
the events of a stream. -/
namespace Routectl.AnthropicApi
open Library Schema

inductive ContentBlock where
  | text (text : String) (citations : Option Json)
  | image (source : Json)
  | document (source : Json) (title : Option String) (citations : Option Json)
  | thinking (thinking signature : String)
  | redactedThinking (data : String)
  | toolUse (id name : String) (input : Json)
  | toolResult (toolUseId : String) (content : Json) (isError : Option Bool)
  | other (typeTag : String) (extras : List (String × Json))

structure AnthropicCacheCreation where
  ephemeral5mInputTokens : Option Nat
  ephemeral1hInputTokens : Option Nat

def AnthropicCacheCreation.canonical (creation : AnthropicCacheCreation) : CacheCreation :=
  ⟨creation.ephemeral5mInputTokens, creation.ephemeral1hInputTokens⟩

structure AnthropicUsage where
  inputTokens : Nat
  outputTokens : Nat
  cacheReadInputTokens : Option Nat := none
  cacheCreationInputTokens : Option Nat := none
  cacheCreation : Option AnthropicCacheCreation := none
  reasoningTokens : Option Nat := none
  serverToolUse : Option Json := none
  extras : List (String × Json) := []

structure AnthropicResponse where
  id : String
  model : String
  content : List ContentBlock
  stopReason : Option String := none
  stopSequence : Option String := none
  usage : Option AnthropicUsage := none
  extras : List (String × Json) := []

structure SseMessage where
  id : String
  model : String
  usage : Option AnthropicUsage := none

structure SseMessageDelta where
  stopReason : Option String := none
  stopSequence : Option String := none

structure SseDeltaUsage where
  inputTokens : Option Nat := none
  outputTokens : Option Nat := none
  cacheCreationInputTokens : Option Nat := none
  cacheReadInputTokens : Option Nat := none
  cacheCreation : Option AnthropicCacheCreation := none
  serverToolUse : Option Json := none

inductive SseContentBlockStart where
  | text (text : String)
  | thinking (thinking : String)
  | toolUse (id name : String)
  | redactedThinking (data : String)
  | other (value : Json)

inductive SseDelta where
  | textDelta (text : String)
  | thinkingDelta (thinking : String)
  | signatureDelta (signature : String)
  | inputJsonDelta (partialJson : String)
  | other (value : Json)

inductive SseEvent where
  | messageStart (message : SseMessage)
  | contentBlockStart (index : Nat) (contentBlock : SseContentBlockStart)
  | contentBlockDelta (index : Nat) (delta : SseDelta)
  | contentBlockStop (index : Nat)
  | messageDelta (delta : SseMessageDelta) (usage : Option SseDeltaUsage)
  | messageStop
  | ping
  | error (error : Json)
  | other (value : Json)

/-- The stop reason in the words of the canonical stream. -/
def mapStopReason (stopReason : Option String) : Option String :=
  stopReason.map fun reason =>
    if reason = "end_turn" then "stop"
    else if reason = "max_tokens" then "length"
    else if reason = "stop_sequence" then "stop"
    else if reason = "tool_use" then "tool_calls"
    else reason

def matchedStop (stopReason stopSequence : Option String) : Option String :=
  if stopReason = some "stop_sequence" then stopSequence else none

def anthropicFormat : String := "anthropic-claude-v1"

def makeThinkingDetail (id : String) (index : Nat) (text signature : String) : ReasoningDetail :=
  { kind := .text
    id := some id
    format := some anthropicFormat
    index := some index
    payload := .object [("signature", .string signature), ("text", .string text)] }

def makeRedactedThinkingDetail (id : String) (index : Nat) (data : String) : ReasoningDetail :=
  { kind := .encrypted
    id := some id
    format := some anthropicFormat
    index := some index
    payload := .object [("data", .string data)] }

def anthropicErrorTypeToStatus (errorType : String) : Nat :=
  if errorType = "overloaded_error" then 529
  else if errorType = "rate_limit_error" then 429
  else if errorType = "invalid_request_error" then 400
  else if errorType = "authentication_error" then 401
  else if errorType = "permission_error" then 403
  else if errorType = "not_found_error" then 404
  else 502

/-! The bounded capture of a block whose type is not known: its bytes are kept for the
client that can read them, up to a cap on each block. -/

def sanitizeMax : Nat := 256

def isPrintable (character : Char) : Bool := 0x20 ≤ character.toNat && character.toNat ≤ 0x7e

def sanitizeForLog (text : String) : String :=
  String.ofList ((text.toList.take sanitizeMax).map fun character =>
    if isPrintable character then character else '?')

def maxOpaqueDeltasPerBlock : Nat := 10000
def maxOpaqueBytesPerBlock : Nat := 256 * 1024
def maxTotalOpaqueBytesPerStream : Nat := 4 * 1024 * 1024
def maxOpaqueEventsPerStream : Nat := 40000

structure OpaqueCapture where
  upstreamIndex : Nat
  typeTag : String
  bytesSoFar : Nat := 0
  deltaCount : Nat := 0
  degraded : Bool := false
  startEmitted : Bool := false

namespace OpaqueCapture
variable (capture : OpaqueCapture)

def wouldOverflowBytes (add : Nat) : Bool := maxOpaqueBytesPerBlock < capture.bytesSoFar + add

/-- A value written out again as bytes. -/
def rawBytes (value : Json) : ByteArray := (String.ofList value.compact).toUTF8

def recordStart (value : Json) (out : List OpaqueSseEvent) :
    OpaqueCapture × List OpaqueSseEvent :=
  let rawData := rawBytes value
  if capture.wouldOverflowBytes rawData.size then ({ capture with degraded := true }, out)
  else
    ({ capture with bytesSoFar := capture.bytesSoFar + rawData.size, startEmitted := true },
      out ++ [.contentBlockStart capture.upstreamIndex capture.typeTag rawData])

def recordDelta (value : Json) (out : List OpaqueSseEvent) :
    OpaqueCapture × List OpaqueSseEvent :=
  let rawDelta := rawBytes value
  if capture.degraded then (capture, out)
  else if capture.wouldOverflowBytes rawDelta.size || maxOpaqueDeltasPerBlock < capture.deltaCount + 1
  then ({ capture with degraded := true }, out)
  else
    ({ capture with
        bytesSoFar := capture.bytesSoFar + rawDelta.size, deltaCount := capture.deltaCount + 1 },
      out ++ [.contentBlockDelta capture.upstreamIndex rawDelta])

/-- A stop is kept where its start was. -/
def recordStop (out : List OpaqueSseEvent) : List OpaqueSseEvent :=
  if capture.startEmitted then out ++ [.contentBlockStop capture.upstreamIndex] else out

end OpaqueCapture

/-- How many starts and deltas, and how many bytes of them, were just kept. -/
def opaqueGrowth (pushed : List OpaqueSseEvent) : Nat × Nat :=
  pushed.foldl (fun (events, bytes) event =>
    match event with
    | .contentBlockStart _ _ rawData => (events + 1, bytes + rawData.size)
    | .contentBlockDelta _ rawDelta => (events + 1, bytes + rawDelta.size)
    | .contentBlockStop _ => (events, bytes)) (0, 0)

/-! A whole body of the Messages API read into the canonical answer. -/

/-- What the walk over the blocks has gathered. -/
structure Walked where
  textParts : List String := []
  reasoningDetails : List ReasoningDetail := []
  toolCalls : List Json := []
  detailIndex : Nat := 0
  parts : List ContentPart := []

def toolCallOf (id name : String) (input : Json) : Json :=
  .object [("function", .object
      [("arguments", .string (String.ofList input.compact)), ("name", .string name)]),
    ("id", .string id), ("type", .string "function")]

/-- One block; `uuid` is the id minted for the detail of an index. -/
def Walked.block (uuid : Nat → String) (walked : Walked) : ContentBlock → Walked
  | .thinking thinking signature =>
    { walked with
      reasoningDetails := walked.reasoningDetails ++
        [{ kind := .text
           id := some (uuid walked.detailIndex)
           format := some anthropicFormat
           index := some walked.detailIndex
           payload := .object [("signature", .string signature), ("text", .string thinking)] }]
      detailIndex := walked.detailIndex + 1 }
  | .redactedThinking data =>
    { walked with
      reasoningDetails := walked.reasoningDetails ++
        [{ kind := .encrypted
           id := some (uuid walked.detailIndex)
           format := some anthropicFormat
           index := some walked.detailIndex
           payload := .object [("data", .string data)] }]
      detailIndex := walked.detailIndex + 1 }
  | .text text citations =>
    { walked with
      textParts := walked.textParts ++ [text]
      parts := walked.parts ++ [.known (.text text citations)] }
  | .toolUse id name input =>
    { walked with
      toolCalls := walked.toolCalls ++ [toolCallOf id name input]
      parts := walked.parts ++ [.known (.toolUse id name input)] }
  | .toolResult _ _ _ => walked
  | .image source => { walked with parts := walked.parts ++ [.known (.image source)] }
  | .document source title citations =>
    { walked with parts := walked.parts ++ [.known (.document source title citations)] }
  | .other typeTag extras => { walked with parts := walked.parts ++ [.other typeTag extras] }

def walkContentBlocks (uuid : Nat → String) (blocks : List ContentBlock) : Walked :=
  blocks.foldl (Walked.block uuid) {}

def isText : ContentPart → Bool
  | .known (.text _ _) => true
  | _ => false

/-- Parts that are all text are one text. -/
def selectMessageContent (text : String) (parts : List ContentPart) : MessageContent :=
  if parts.all isText then .text text else .parts parts

def sumPromptTokens (inputTokens cacheCreation cacheRead : Nat) : Nat :=
  saturatingAdd (saturatingAdd inputTokens cacheCreation) cacheRead

def translateUsage (usage : AnthropicUsage) : Usage :=
  let promptTokens := sumPromptTokens usage.inputTokens
    (usage.cacheCreationInputTokens.getD 0) (usage.cacheReadInputTokens.getD 0)
  { promptTokens
    completionTokens := usage.outputTokens
    totalTokens := saturatingAdd promptTokens usage.outputTokens
    reasoningTokens := usage.reasoningTokens
    cacheCreationInputTokens := usage.cacheCreationInputTokens
    cacheReadInputTokens := usage.cacheReadInputTokens
    cacheCreation := usage.cacheCreation.map AnthropicCacheCreation.canonical
    serverToolUse := usage.serverToolUse
    extras := usage.extras }

def normalize (uuid : Nat → String) (response : AnthropicResponse) : ChatResponse :=
  let walked := walkContentBlocks uuid response.content
  { id := response.id
    model := response.model
    choices := [{
      message := {
        role := .assistant
        content := selectMessageContent (String.join walked.textParts) walked.parts
        reasoningDetails := walked.reasoningDetails
        toolCalls := if walked.toolCalls.isEmpty then none else some walked.toolCalls }
      finishReason := mapStopReason response.stopReason
      matchedStopSequence := matchedStop response.stopReason response.stopSequence }]
    usage := response.usage.map translateUsage
    extras := response.extras }

end Routectl.AnthropicApi
