import Routectl.AnthropicApi.Types
import Routectl.Bedrock.Frame
import Routectl.ResponsesApi.Types

/-! The wire of the Converse operation as its two readers hold it: a whole body, and the
typed frames that a stream is made of. -/
namespace Routectl.Converse
open Library Schema
open Routectl.Bedrock (Bytes)

structure ConverseResponseToolUse where
  toolUseId : String
  name : String
  input : Json

structure ConverseReasoningText where
  text : String
  signature : Option String := none
deriving Repr, DecidableEq

/-- A block has one of the two. -/
structure ConverseReasoningContent where
  reasoningText : Option ConverseReasoningText := none
  redactedContent : Option String := none
deriving Repr, DecidableEq

inductive ConverseResponseContentBlock where
  | text (text : String)
  | toolUse (toolUse : ConverseResponseToolUse)
  | reasoningContent (reasoningContent : ConverseReasoningContent)
  | other (value : Json)

structure ConverseCacheDetail where
  inputTokens : Nat
  ttl : String
deriving Repr, DecidableEq

structure ConverseUsage where
  inputTokens : Nat := 0
  outputTokens : Nat := 0
  totalTokens : Option Nat := none
  cacheReadInputTokens : Option Nat := none
  cacheWriteInputTokens : Option Nat := none
  cacheDetails : Option (List ConverseCacheDetail) := none
deriving Repr, DecidableEq

structure ConverseResponse where
  content : List ConverseResponseContentBlock
  stopReason : Option String := none
  usage : Option ConverseUsage := none
  additionalModelResponseFields : Option Json := none

inductive StreamContentBlockStartPayload where
  | toolUse (toolUseId name : String)
  | other (value : Json)

/-- A frame of reasoning has one of the three. -/
structure StreamReasoningDelta where
  text : Option String := none
  signature : Option String := none
  redactedContent : Option String := none
deriving Repr, DecidableEq

inductive StreamDelta where
  | text (text : String)
  | toolUse (input : String)
  | reasoningContent (reasoningContent : StreamReasoningDelta)
  | other (value : Json)

/-- The payload that the type of a frame names. -/
inductive ConverseEvent where
  | messageStart (role : Option String)
  | contentBlockStart (index : Nat) (start : Option StreamContentBlockStartPayload)
  | contentBlockDelta (index : Nat) (delta : Option StreamDelta)
  | contentBlockStop (index : Nat)
  | messageStop (stopReason : Option String) (additionalModelResponseFields : Option Json)
  | metadata (usage : Option ConverseUsage)

inductive HeaderValue where
  | string (text : String)
  | other
deriving Repr, DecidableEq

structure Message where
  headers : List (String × HeaderValue)
  payload : Bytes

inductive FrameType where
  | event (name : String)
  | exception (name : String)
  | untyped
deriving Repr, DecidableEq

/-- The first header of this name that holds a text. -/
def Message.headerStr (message : Message) (name : String) : Option String :=
  message.headers.findSome? fun header =>
    match header with
    | (named, .string text) => if named = name then some text else none
    | (_, .other) => none

/-- A frame that names no message type is taken for an event. -/
def Message.frameType (message : Message) : FrameType :=
  let event :=
    match message.headerStr ":event-type" with
    | some name => FrameType.event name
    | none => .untyped
  match message.headerStr ":message-type" with
  | none => event
  | some messageType =>
    if messageType = "event" then event
    else .exception ((message.headerStr ":exception-type").getD messageType)

/-- What a refused frame ends the stream with. -/
inductive FrameFailure where
  | upstream (provider : String) (status : Nat) (body : String)
  | streaming (text : String)
deriving Repr, DecidableEq

def maxErrorBodyBytes : Nat := 64 * 1024

/-- Whole characters, as many as there is room for. -/
def takeBytes : Nat → List Char → List Char
  | _, [] => []
  | room, character :: rest =>
    if character.utf8Size ≤ room then character :: takeBytes (room - character.utf8Size) rest else []

def truncateOnCharBoundary (text : String) (max : Nat) : String :=
  String.ofList (takeBytes max text.toList)

def exceptionStatus (exceptionType : String) : Nat :=
  if exceptionType = "throttlingException" then 429
  else if exceptionType = "validationException" then 400
  else if exceptionType = "serviceUnavailableException" then 503
  else if exceptionType = "accessDeniedException" then 403
  else if exceptionType = "unauthorizedException" then 401
  else if exceptionType = "modelStreamErrorException" then 424
  else if exceptionType = "modelTimeoutException" then 408
  else 500

/-- `parsed` is the payload, null where it is no JSON. -/
def exceptionError (provider exceptionType : String) (parsed : Json) : FrameFailure :=
  let raw := (((parsed.field "message").or (parsed.field "Message")).bind Json.asStr).getD
    exceptionType
  .upstream provider (exceptionStatus exceptionType) (truncateOnCharBoundary raw maxErrorBodyBytes)

/-- The field is read only where the turn ended at a matched sequence. -/
def liftStopSequence (stopReason : Option String) (additionalFields : Option Json) : Option String :=
  if stopReason = some "stop_sequence" then
    (additionalFields.bind (Json.field "stop_sequence")).bind Json.asStr
  else none

/-- The tokens of one lifetime, where any entry is of it. -/
def ttlTokens (ttl : String) (details : List ConverseCacheDetail) : Option Nat :=
  details.foldl (fun told detail =>
    if detail.ttl = ttl then some (saturatingAdd (told.getD 0) detail.inputTokens) else told) none

def translateCacheDetails (details : List ConverseCacheDetail) : CacheCreation :=
  ⟨ttlTokens "5m" details, ttlTokens "1h" details⟩

/-- The next value of a 32-bit counter. -/
def bump (count : Nat) : Nat := (count + 1) % 2 ^ 32

/-! A whole Converse body as the canonical answer: its blocks walked in order. -/

open Routectl.AnthropicApi (anthropicFormat mapStopReason selectMessageContent sumPromptTokens
  toolCallOf)

structure Walked where
  textParts : List String := []
  reasoningDetails : List ReasoningDetail := []
  toolCalls : List Json := []
  detailIndex : Nat := 0
  parts : List ContentPart := []

def nullable : Option String → Json
  | some text => .string text
  | none => .null

/-- `uuid` is the id minted for the detail of an index. -/
def textDetail (uuid : Nat → String) (index : Nat) (reasoning : ConverseReasoningText) :
    ReasoningDetail :=
  { kind := .text
    id := some (uuid index)
    format := some anthropicFormat
    index := some index
    payload := .object
      [("signature", nullable reasoning.signature), ("text", .string reasoning.text)] }

def redactedDetail (uuid : Nat → String) (index : Nat) (data : String) : ReasoningDetail :=
  { kind := .encrypted
    id := some (uuid index)
    format := some anthropicFormat
    index := some index
    payload := .object [("data", .string data)] }

/-- The one key of an unknown block and what is under it. -/
def extractOtherTagAndExtras : Json → String × List (String × Json)
  | .object ((tag, .object extras) :: _) => (tag, extras)
  | .object ((tag, _) :: _) => (tag, [])
  | _ => ("unknown", [])

namespace Walked
variable (uuid : Nat → String) (walked : Walked)

def detail (detail : ReasoningDetail) : Walked :=
  { walked with
    reasoningDetails := walked.reasoningDetails ++ [detail]
    detailIndex := bump walked.detailIndex }

def reasoning (content : ConverseReasoningContent) : Walked :=
  let told :=
    match content.reasoningText with
    | some text => walked.detail (textDetail uuid walked.detailIndex text)
    | none => walked
  match content.redactedContent with
  | some data => told.detail (redactedDetail uuid told.detailIndex data)
  | none => told

def block : ConverseResponseContentBlock → Walked
  | .text text =>
    { walked with
      textParts := walked.textParts ++ [text]
      parts := walked.parts ++ [.known (.text text none)] }
  | .toolUse ⟨toolUseId, name, input⟩ =>
    { walked with
      toolCalls := walked.toolCalls ++ [toolCallOf toolUseId name input]
      parts := walked.parts ++ [.known (.toolUse toolUseId name input)] }
  | .reasoningContent content => walked.reasoning uuid content
  | .other value =>
    { walked with
      parts := walked.parts ++
        [.other (extractOtherTagAndExtras value).1 (extractOtherTagAndExtras value).2] }

end Walked

def walkContentBlocks (uuid : Nat → String) (blocks : List ConverseResponseContentBlock) : Walked :=
  blocks.foldl (Walked.block uuid) {}

/-- A stated total is kept, unless it is zero beside counts that are not. -/
def translateUsage (usage : ConverseUsage) : Usage :=
  let promptTokens := sumPromptTokens usage.inputTokens
    (usage.cacheWriteInputTokens.getD 0) (usage.cacheReadInputTokens.getD 0)
  ResponsesApi.deriveTotalIfAbsent
    { promptTokens
      completionTokens := usage.outputTokens
      totalTokens := usage.totalTokens.getD (saturatingAdd promptTokens usage.outputTokens)
      cacheCreationInputTokens := usage.cacheWriteInputTokens
      cacheReadInputTokens := usage.cacheReadInputTokens
      cacheCreation := usage.cacheDetails.map translateCacheDetails }

/-- The id of the answer is minted; the body names no model. -/
def translate (uuid : Nat → String) (mintedId : String) (response : ConverseResponse) :
    ChatResponse :=
  let walked := walkContentBlocks uuid response.content
  { id := mintedId
    model := ""
    choices := [{
      message := {
        role := .assistant
        content := selectMessageContent (String.join walked.textParts) walked.parts
        reasoningDetails := walked.reasoningDetails
        toolCalls := if walked.toolCalls.isEmpty then none else some walked.toolCalls }
      finishReason := mapStopReason response.stopReason
      matchedStopSequence :=
        liftStopSequence response.stopReason response.additionalModelResponseFields }]
    usage := response.usage.map translateUsage }

end Routectl.Converse
