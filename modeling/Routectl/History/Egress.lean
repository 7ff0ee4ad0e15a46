import Mathlib.Data.List.Sort
import Routectl.Filter.Strip
import Routectl.Library.JsonFields
import Routectl.Replay.Egress
import Routectl.Schema.Envelope

/-! A canonical history on its way to an Anthropic endpoint: the unsigned thinking is stripped,
then every turn becomes a wire message, and a run of tool turns becomes one. -/
namespace Routectl.History
open Library
open Routectl.Schema (Role ReasoningDetail ReasoningDetailKind)
open Routectl.Trim (CacheControl KnownContentPart ContentPart MessageContent)
open Routectl.Replay (NormalizeRequest sanitizeToolId)

structure Message where
  role : Role
  content : MessageContent
  reasoning : Option String := none
  reasoningDetails : List ReasoningDetail := []
  name : Option String := none
  toolCallId : Option String := none
  toolCalls : Option (List Json) := none
  refusal : Option String := none

inductive HistoryReasoning where
  | auto
  | strip
  | preserve
deriving Repr, DecidableEq

/-- Whether a system turn reaches the wire or was lifted into the request's own field. -/
inductive SystemTurnPolicy where
  | forward
  | lift
deriving Repr, DecidableEq

inductive ContentBlock where
  | text (text : String) (cacheControl : Option CacheControl) (citations : Option Json)
  | image (source : Json) (cacheControl : Option CacheControl)
  | document (source : Json) (cacheControl : Option CacheControl) (title : Option String)
      (citations : Option Json)
  | thinking (thinking signature : String) (cacheControl : Option CacheControl)
  | redactedThinking (data : String) (cacheControl : Option CacheControl)
  | toolUse (id name : String) (input : Json) (cacheControl : Option CacheControl)
  | toolResult (toolUseId : String) (content : Json) (cacheControl : Option CacheControl)
      (isError : Option Bool)
  | other (typeTag : String) (cacheControl : Option CacheControl) (extras : List (String × Json))

inductive AnthropicRole where
  | user
  | assistant
  | system
deriving Repr, DecidableEq

inductive AnthropicContent where
  | text (text : String)
  | blocks (blocks : List ContentBlock)

structure AnthropicMessage where
  role : AnthropicRole
  content : AnthropicContent

/-! ### Serialization -/

/-- A map keeps its keys in order. -/
def sortedObject (fields : List (String × Json)) : Json :=
  .object (fields.insertionSort fun first second => first.1 ≤ second.1)

def ContentBlock.fields : ContentBlock → List (String × Json) × Option CacheControl
  | .text body cacheControl citations =>
    ([("type", .string "text"), ("text", .string body)] ++ Trim.optional "citations" citations,
      cacheControl)
  | .image source cacheControl => ([("type", .string "image"), ("source", source)], cacheControl)
  | .document source cacheControl title citations =>
    ([("type", .string "document"), ("source", source)] ++
      Trim.optional "title" (title.map .string) ++ Trim.optional "citations" citations,
      cacheControl)
  | .thinking body signature cacheControl =>
    ([("type", .string "thinking"), ("thinking", .string body),
      ("signature", .string signature)], cacheControl)
  | .redactedThinking data cacheControl =>
    ([("type", .string "redacted_thinking"), ("data", .string data)], cacheControl)
  | .toolUse id name input cacheControl =>
    ([("type", .string "tool_use"), ("id", .string id), ("name", .string name), ("input", input)],
      cacheControl)
  | .toolResult toolUseId content cacheControl isError =>
    ([("type", .string "tool_result"), ("tool_use_id", .string toolUseId),
      ("content", content)] ++ Trim.optional "is_error" (isError.map .bool), cacheControl)
  | .other typeTag cacheControl extras =>
    (("type", .string typeTag) :: extras.filter fun entry => entry.1 ≠ "type", cacheControl)

/-- A marker takes the place of a field of its name. -/
def ContentBlock.toJson (block : ContentBlock) : Json :=
  let (fields, cacheControl) := block.fields
  match cacheControl with
  | none => sortedObject fields
  | some control =>
    sortedObject (("cache_control", control.toJson) ::
      fields.filter fun entry => entry.1 ≠ "cache_control")

/-! ### Sources of images and documents -/

def allowedImageMediaTypes : List String := ["image/png", "image/jpeg", "image/gif", "image/webp"]
def allowedDocumentMediaTypes : List String := ["application/pdf"]

/-- `str::split_once` at the first place the pattern stands. -/
def splitOnceAt (pattern : List Char) : List Char → Option (List Char × List Char)
  | [] => none
  | first :: rest =>
    if pattern.isPrefixOf (first :: rest) then some ([], (first :: rest).drop pattern.length)
    else (splitOnceAt pattern rest).map fun parts => (first :: parts.1, parts.2)

def stripPrefix (head text : List Char) : Option (List Char) :=
  if head.isPrefixOf text then some (text.drop head.length) else none

def toAsciiLowercase (text : List Char) : String := String.ofList (text.map Char.toLower)

/-- The media type and the payload of a base64 data URI. -/
def dataUri (url : String) : Option (String × String) := do
  let rest ← stripPrefix "data:".toList url.toList
  let (mediaTypeWithParams, payload) ← splitOnceAt ";base64,".toList rest
  let rawMediaType := mediaTypeWithParams.takeWhile fun character => character ≠ ';'
  pure (toAsciiLowercase rawMediaType, String.ofList payload)

def base64Source (mediaType payload : String) : Json :=
  sortedObject [("type", .string "base64"), ("media_type", .string mediaType),
    ("data", .string payload)]

def urlSource (url : String) : Json := sortedObject [("type", .string "url"), ("url", .string url)]

def parseImageUrlSource (url : String) : Json :=
  match dataUri url with
  | some (mediaType, payload) =>
    if allowedImageMediaTypes.contains mediaType && payload ≠ "" then base64Source mediaType payload
    else urlSource url
  | none => urlSource url

def parseFileDocumentSource (file : Json) : Option (Json × Option String) := do
  let fileData ← file.stringField "file_data"
  let (mediaType, payload) ← dataUri fileData
  if allowedDocumentMediaTypes.contains mediaType && payload ≠ "" then
    some (base64Source mediaType payload, file.stringField "filename")
  else none

/-! ### The strip -/

section Signatures
variable (decode : String → Option ByteArray)

def isELayerClaudeSignature (sig : String) : Bool :=
  sig.toList.head? = some 'E' && (decode sig).any fun bytes => bytes.data[0]? = some 0x12

/-- What follows a cache key counts, one layer of base64 or two. -/
def isClaudeShapedSignature (sig : String) : Bool :=
  let sig := ((splitOnce '#' sig.toList).map fun parts => String.ofList parts.2).getD sig
  match sig.toList.head? with
  | some 'E' => isELayerClaudeSignature decode sig
  | some 'R' =>
    match (decode sig).bind String.fromUTF8? with
    | some inner => isELayerClaudeSignature decode inner
    | none => false
  | _ => false

def isUnsignedThinkingPart : ContentPart → Bool
  | .known (.thinking _ signature) => !isClaudeShapedSignature decode (signature.getD "")
  | _ => false

def messageHasUnsignedThinking (message : Message) : Bool :=
  match message.content with
  | .parts parts => parts.any (isUnsignedThinkingPart decode)
  | _ => false

def anthropicFormat : String := "anthropic-claude-v1"

def isAnthropicEmittableDetail (detail : ReasoningDetail) : Bool :=
  match detail.kind with
  | .text =>
    detail.format = some anthropicFormat &&
      (detail.payload.stringField "signature").any fun signature => signature ≠ ""
  | .encrypted => detail.format = some anthropicFormat
  | .summary => false
  | .other _ => false

def messageHasEmittableReasoning (message : Message) : Bool :=
  message.reasoningDetails.any isAnthropicEmittableDetail

def hasToolCalls (message : Message) : Bool :=
  message.toolCalls.any fun calls => !calls.isEmpty

def keptParts (parts : List ContentPart) : List ContentPart :=
  parts.filter fun part => !isUnsignedThinkingPart decode part

/-- One turn of the rebuild, `last` the turn kept before it: what of it is kept, if anything. -/
def stripTurn (policy : SystemTurnPolicy) (last : Option Message) (message : Message) :
    Option Message :=
  match message.content with
  | .parts parts =>
    let kept := keptParts decode parts
    let precedesKeptSystemTurn :=
      policy = .forward && last.any fun before => before.role = .system
    if kept.isEmpty && !hasToolCalls message && !messageHasEmittableReasoning message &&
        !precedesKeptSystemTurn then none
    else some { message with content := .parts kept, refusal := none }
  | _ => some message

def stripTurns (policy : SystemTurnPolicy) (last : Option Message) : List Message → List Message
  | [] => []
  | message :: rest =>
    match stripTurn decode policy last message with
    | some kept => kept :: stripTurns policy (some kept) rest
    | none => stripTurns policy last rest

def answersNothing (message : Message) : Bool :=
  message.role = .tool && message.toolCallId.getD "" = ""

def unansweredError (provider : String) (index : Nat) : NormalizeRequest :=
  ⟨provider, "messages[" ++ toString index ++
    "] is a tool_result (Role::Tool) without tool_call_id; Anthropic requires the id of the " ++
    "tool_use this is answering"⟩

def normalizeReplayInvariants (provider : String) (messages : List Message)
    (historyReasoning : HistoryReasoning) (policy : SystemTurnPolicy) :
    Except NormalizeRequest (List Message) :=
  match messages.zipIdx.find? fun turn => answersNothing turn.1 with
  | some (_, index) => .error (unansweredError provider index)
  | none =>
    if historyReasoning = .preserve then .ok messages
    else if messages.any (messageHasUnsignedThinking decode) then
      .ok (stripTurns decode policy none messages)
    else .ok messages

end Signatures

/-! ### Parts and details as blocks -/

/-- A terminal host gets the blob, any other the envelope. -/
def wireData (terminalAnthropicHost : Bool) (data : String) : String :=
  if !terminalAnthropicHost then data
  else
    match Schema.unwrap data with
    | some (_, _, blob) => blob
    | none => data

section Blocks
variable (envelopes : Bool) (read : String → Option Json)

def translateKnownPart : KnownContentPart → ContentBlock
  | .text text citations cacheControl => .text text cacheControl citations
  | .image source cacheControl => .image source cacheControl
  | .imageUrl imageUrl cacheControl =>
    .image (parseImageUrlSource ((imageUrl.stringField "url").getD "")) cacheControl
  | .document source title citations cacheControl => .document source cacheControl title citations
  | .file file cacheControl =>
    match parseFileDocumentSource file with
    | some (source, title) => .document source cacheControl title none
    | none => .other "file" cacheControl [("file", file)]
  | .toolUse id name input cacheControl => .toolUse id name input cacheControl
  | .toolResult toolUseId content isError cacheControl =>
    .toolResult toolUseId content cacheControl isError
  | .thinking thinking signature => .thinking thinking (signature.getD "") none
  | .redactedThinking data => .redactedThinking (wireData envelopes data) none

def translateContentPart : ContentPart → ContentBlock
  | .known part => translateKnownPart envelopes part
  | .other typeTag cacheControl extras => .other typeTag cacheControl extras

def isToolUsePart : ContentPart → Bool
  | .known (.toolUse ..) => true
  | _ => false

def isTextPart : ContentPart → Bool
  | .known (.text ..) => true
  | _ => false

def lastToolUse (parts : List ContentPart) : Option Nat :=
  (parts.zipIdx.filter fun entry => isToolUsePart entry.1).getLast?.map Prod.snd

/-- No text goes out behind the last call. -/
def stripTextAfterToolUse (parts : List ContentPart) : List ContentPart :=
  match lastToolUse parts with
  | none => parts
  | some last =>
    (parts.zipIdx.filter fun entry => !(last < entry.2 && isTextPart entry.1)).map Prod.fst

/-- The block of a part, and the raw id where it is a call. -/
def translateAssistantContentPart (part : ContentPart) : ContentBlock × Option String :=
  match part with
  | .known (.toolUse id name input cacheControl) =>
    (.toolUse (sanitizeToolId id) name input cacheControl, some id)
  | other => (translateContentPart envelopes other, none)

def translateSimpleContent : MessageContent → AnthropicContent
  | .text text => .text text
  | .null => .text ""
  | .parts parts => .blocks (parts.map (translateContentPart envelopes))

def translateAssistantSimpleContent : MessageContent → AnthropicContent
  | .parts parts =>
    .blocks ((stripTextAfterToolUse parts).map fun part =>
      (translateAssistantContentPart envelopes part).1)
  | other => translateSimpleContent envelopes other

def emitReasoningBlock (detail : ReasoningDetail) : Option ContentBlock :=
  if !isAnthropicEmittableDetail detail then none
  else
    match detail.kind with
    | .text =>
      some (.thinking ((detail.payload.stringField "text").getD "")
        ((detail.payload.stringField "signature").getD "") none)
    | .encrypted =>
      some (.redactedThinking (wireData envelopes ((detail.payload.stringField "data").getD "")) none)
    | .summary => none
    | .other _ => none

def emitReasoningBlocks (details : List ReasoningDetail) : List ContentBlock :=
  (details.insertionSort fun first second => first.index.getD 0 ≤ second.index.getD 0).filterMap
    (emitReasoningBlock envelopes)

/-- The blocks of a message's own content, and the raw ids of the calls among them. -/
def appendAssistantMessageBlocks : MessageContent → List ContentBlock × List String
  | .text text => (if text = "" then [] else [.text text none none], [])
  | .null => ([], [])
  | .parts parts =>
    let cleaned := stripTextAfterToolUse parts
    (cleaned.map fun part => (translateAssistantContentPart envelopes part).1,
      cleaned.filterMap fun part => (translateAssistantContentPart envelopes part).2)

def rawCallId (call : Json) : String := (call.stringField "id").getD ""

def callInput (call : Json) : Json :=
  let raw := (((call.field "function").bind (Json.stringField "arguments"))).getD "\x7b\x7d"
  if raw = "" then .object []
  else (read raw).getD (.object [("_arguments", .string raw)])

def toolUseBlockOfCall (call : Json) : ContentBlock :=
  .toolUse (sanitizeToolId (rawCallId call))
    (((call.field "function").bind (Json.stringField "name")).getD "") (callInput read call) none

def emitToolUseBlocksFromCalls (toolCalls : List Json) (alreadyEmitted : List String) :
    List ContentBlock :=
  (toolCalls.filter fun call => !alreadyEmitted.contains (rawCallId call)).map
    (toolUseBlockOfCall read)

/-- Nothing to say goes out as one empty text. -/
def backstopEmptyBlocks : AnthropicContent → AnthropicContent
  | .blocks [] => .blocks [.text "" none none]
  | other => other

def buildAssistantContent (message : Message) : AnthropicContent :=
  if message.reasoningDetails.isEmpty && !hasToolCalls message then
    backstopEmptyBlocks (translateAssistantSimpleContent envelopes message.content)
  else
    let (blocks, emittedToolIds) := appendAssistantMessageBlocks envelopes message.content
    backstopEmptyBlocks (.blocks (emitReasoningBlocks envelopes message.reasoningDetails ++ blocks ++
      emitToolUseBlocksFromCalls read (message.toolCalls.getD []) emittedToolIds))

def ensureMinToolResultContent : Json → Json
  | .null => .string ""
  | .array [] => .string ""
  | content => content

def toolResultContent : MessageContent → Json
  | .text text => .string text
  | .parts parts =>
    .array (parts.map fun part => (translateContentPart envelopes part).toJson)
  | .null => .null

def buildToolResultBlock (message : Message) : ContentBlock :=
  .toolResult (sanitizeToolId (message.toolCallId.getD ""))
    (ensureMinToolResultContent (toolResultContent envelopes message.content)) none none

def buildToolMessage (run : List Message) : AnthropicMessage :=
  ⟨.user, .blocks (run.map (buildToolResultBlock envelopes))⟩

end Blocks

/-! ### Forwarded system turns -/

def billingPrefix : String := "x-anthropic-billing-header:"

def isBillingAttributionBlock (text : String) : Bool :=
  billingPrefix.toList.isPrefixOf (text.toList.dropWhile Oauth.isWhitespace)

def valueCarriesBillingText : Json → Bool
  | .string text => isBillingAttributionBlock text
  | .object fields => fields.any fun entry => entry.2.asStr.any isBillingAttributionBlock
  | _ => false

def isBillingAttributionPart : ContentPart → Bool
  | .known (.text text _ _) => isBillingAttributionBlock text
  | .known (.document source _ _ _) => valueCarriesBillingText source
  | .other _ _ extras => ((extras.lookup "text").bind Json.asStr).any isBillingAttributionBlock
  | _ => false

def isBlank (text : String) : Bool := (Filter.trim text.toList).isEmpty

def isBlankTextPart : ContentPart → Bool
  | .known (.text text _ _) => isBlank text
  | _ => false

def emptySystemTurnError (provider : String) (index : Nat) : NormalizeRequest :=
  ⟨provider, "messages[" ++ toString index ++
    "] is a Role::System turn with no content; Anthropic requires a forwarded system turn to " ++
    "carry at least one block"⟩

/-- What survives of a forwarded system turn; nothing where all of it is attribution. -/
def screenForwardedSystemContent (provider : String) (index : Nat) :
    MessageContent → Except NormalizeRequest (Option MessageContent)
  | .null => .error (emptySystemTurnError provider index)
  | .text text =>
    if isBillingAttributionBlock text then .ok none
    else if isBlank text then .error (emptySystemTurnError provider index)
    else .ok (some (.text text))
  | .parts parts =>
    if parts.isEmpty then .error (emptySystemTurnError provider index)
    else
      let kept := parts.filter fun part => !isBillingAttributionPart part
      if kept.isEmpty then .ok none
      else if kept.all isBlankTextPart then .error (emptySystemTurnError provider index)
      else .ok (some (.parts kept))

/-! ### The walk -/

/-- Every position the walk consumes is emitted or charged to one of the losses. -/
structure MessageLedger where
  consumed : Nat := 0
  toolTurnsConsumed : Nat := 0
  toolRunsEmitted : Nat := 0
  systemTurnsConsumedByLift : Nat := 0
  systemTurnsDroppedByBillingStrip : Nat := 0
deriving Repr, DecidableEq

def MessageLedger.expectedEmitted (ledger : MessageLedger) : Nat :=
  ledger.consumed - (ledger.toolTurnsConsumed - ledger.toolRunsEmitted) -
    ledger.systemTurnsConsumedByLift - ledger.systemTurnsDroppedByBillingStrip

def lostContentError (provider : String) (ledger : MessageLedger) (emitted : Nat) :
    NormalizeRequest :=
  ⟨provider, "message translation lost content: emitted " ++ toString emitted ++
    " wire messages, accounted for " ++ toString ledger.expectedEmitted ++ " (consumed " ++
    toString ledger.consumed ++ ", tool turns " ++ toString ledger.toolTurnsConsumed ++
    " folded into " ++ toString ledger.toolRunsEmitted ++ " messages, system turns " ++
    toString ledger.systemTurnsConsumedByLift ++ " consumed by the legacy lift and " ++
    toString ledger.systemTurnsDroppedByBillingStrip ++
    " dropped by the billing/attribution screen)"⟩

def MessageLedger.verify (ledger : MessageLedger) (provider : String) (emitted : Nat) :
    Except NormalizeRequest Unit :=
  if emitted = ledger.expectedEmitted then .ok ()
  else .error (lostContentError provider ledger emitted)

def isToolTurn (message : Message) : Bool := message.role = .tool

/-- The tool turns a history begins with, and what follows them. -/
def collectToolRun (messages : List Message) : List Message × List Message :=
  (messages.takeWhile isToolTurn, messages.dropWhile isToolTurn)

structure Walk where
  out : List AnthropicMessage := []
  ledger : MessageLedger := {}

section Walking
variable (provider : String) (policy : SystemTurnPolicy) (envelopes : Bool)
variable (read : String → Option Json)

def Walk.push (walk : Walk) (message : AnthropicMessage) : Walk :=
  { walk with out := walk.out ++ [message] }

/-- One round of the walk over a turn that no run folds. -/
def walkTurn (index : Nat) (message : Message) (walk : Walk) : Except NormalizeRequest Walk :=
  match message.role with
  | .system =>
    match policy with
    | .lift =>
      .ok { walk with
        ledger.systemTurnsConsumedByLift := walk.ledger.systemTurnsConsumedByLift + 1 }
    | .forward =>
      match screenForwardedSystemContent provider index message.content with
      | .error error => .error error
      | .ok (some content) => .ok (walk.push ⟨.system, translateSimpleContent envelopes content⟩)
      | .ok none =>
        .ok { walk with
          ledger.systemTurnsDroppedByBillingStrip :=
            walk.ledger.systemTurnsDroppedByBillingStrip + 1 }
  | .assistant =>
    .ok (walk.push ⟨.assistant, buildAssistantContent envelopes read message⟩)
  | _ => .ok (walk.push ⟨.user, translateSimpleContent envelopes message.content⟩)

def walkRun (run : List Message) (walk : Walk) : Walk :=
  { out := walk.out ++ [buildToolMessage envelopes run]
    ledger := { walk.ledger with
      toolTurnsConsumed := walk.ledger.toolTurnsConsumed + run.length
      toolRunsEmitted := walk.ledger.toolRunsEmitted + 1 } }

/-- The turns from `index` on; as many rounds as there are turns are enough. -/
def walkFrom : Nat → Nat → List Message → Walk → Except NormalizeRequest Walk
  | 0, _, _, walk => .ok walk
  | _ + 1, _, [], walk => .ok walk
  | rounds + 1, index, message :: rest, walk =>
    if isToolTurn message then
      let (run, left) := collectToolRun (message :: rest)
      walkFrom rounds (index + run.length) left (walkRun envelopes run walk)
    else
      match walkTurn provider policy envelopes read index message walk with
      | .error error => .error error
      | .ok walk => walkFrom rounds (index + 1) rest walk

def translateMessagesThreaded (messages : List Message) : Except NormalizeRequest Walk :=
  walkFrom provider policy envelopes read messages.length 0 messages
    { ledger := { consumed := messages.length } }

def translateMessages (messages : List Message) :
    Except NormalizeRequest (List AnthropicMessage) :=
  match translateMessagesThreaded provider policy envelopes read messages with
  | .error error => .error error
  | .ok walk =>
    match walk.ledger.verify provider walk.out.length with
    | .error error => .error error
    | .ok () => .ok walk.out

end Walking

end Routectl.History
