import Routectl.Library.KeyedMap
import Routectl.Schema.Chunk

/-! The Responses body of a whole answer: its output items, its status and its counts. -/
namespace Routectl.Responses
open Library Schema

inductive OutputBlock where
  | outputText (text : String)
  | refusal (refusal : String)
  | other (typeTag : String) (extras : List (String × Json))

inductive ReasoningBlock where
  | reasoningText (text : String)
  | reasoningEncrypted (encryptedContent : String)
deriving Repr, DecidableEq

inductive OutputItem where
  | message (status : String) (content : List OutputBlock)
  | reasoning (id : Option String) (summary : List String) (content : List ReasoningBlock)
      (encryptedContent : Option String)
  | functionCall (callId name arguments : String)

/-- A count without a value leaves its details out. -/
structure ResponseUsage where
  inputTokens : Nat
  cachedTokens : Option Nat
  outputTokens : Nat
  reasoningTokens : Option Nat
  totalTokens : Nat
deriving Repr, DecidableEq

structure ResponseBody where
  id : String
  model : String
  status : String
  output : List OutputItem
  usage : Option ResponseUsage := none
  incompleteReason : Option String := none

/-- The status of a finish reason, and why the answer is incomplete. -/
def statusFromFinishReason (finishReason : Option String) : String × Option String :=
  match finishReason with
  | some "length" => ("incomplete", some "max_output_tokens")
  | some "content_filter" => ("incomplete", some "content_filter")
  | some "error" => ("failed", none)
  | _ => ("completed", none)

def contentBlockFromPart : ContentPart → Option OutputBlock
  | .known (.text said _) => some (.outputText said)
  | .known _ => none
  | .other typeTag extras =>
    if typeTag = "refusal" then
      some (.refusal (((extras.lookup "refusal").bind Json.asStr).getD ""))
    else some (.other typeTag extras)

def buildContentBlocks : MessageContent → List OutputBlock
  | .text said => if said = "" then [] else [.outputText said]
  | .parts held => held.filterMap contentBlockFromPart
  | .null => []

def buildMessageItem (content : MessageContent) (refusal : Option String) : Option OutputItem :=
  let blocks := buildContentBlocks content ++ refusal.toList.map .refusal
  if blocks.isEmpty then none else some (.message "completed" blocks)

def functionCallItem (toolCall : Json) : OutputItem :=
  .functionCall ((toolCallId toolCall).getD "") ((toolCallName toolCall).getD "")
    ((toolCallArguments toolCall).getD "")

def buildFunctionCallItems (message : Message) : List OutputItem :=
  (message.toolCalls.getD []).map functionCallItem

/-- One reasoning item under construction. -/
structure ReasoningItemBuilder where
  summary : List String := []
  content : List ReasoningBlock := []
  encryptedContent : Option String := none

def encryptedContent (detail : ReasoningDetail) : Option String :=
  (detail.payload.field "encrypted_content").bind Json.asStr

/-- The first encrypted detail is the item's own; the others are blocks of its
content. -/
def accumulateReasoningDetail (group : ReasoningItemBuilder) (detail : ReasoningDetail) :
    ReasoningItemBuilder :=
  match detail.kind with
  | .summary => { group with summary := group.summary ++ detail.text.toList }
  | .text =>
    { group with content := group.content ++ detail.text.toList.map .reasoningText }
  | .encrypted =>
    match encryptedContent detail with
    | some signature =>
      if group.encryptedContent.isNone then { group with encryptedContent := some signature }
      else { group with content := group.content ++ [.reasoningEncrypted signature] }
    | none => group
  | .other _ => group

def reasoningItem (id : Option String) (group : ReasoningItemBuilder) : OutputItem :=
  .reasoning id group.summary group.content group.encryptedContent

/-- The groups met so far, and their ids in the order they were first seen. -/
structure ReasoningGroups where
  order : List (Option String) := []
  groups : KeyedMap (Option String) ReasoningItemBuilder := ∅

def ReasoningGroups.add (grouped : ReasoningGroups) (detail : ReasoningDetail) : ReasoningGroups :=
  if isResponsesFamily detail.format then
    let held := grouped.groups.lookup detail.id
    { order := if held.isSome then grouped.order else grouped.order ++ [detail.id]
      groups := grouped.groups.insert detail.id
        (accumulateReasoningDetail (held.getD {}) detail) }
  else grouped

def buildReasoningItems (details : List ReasoningDetail) : List OutputItem :=
  let grouped := details.foldl ReasoningGroups.add {}
  grouped.order.map fun id => reasoningItem id ((grouped.groups.lookup id).getD {})

def buildOutput (message : Message) : List OutputItem :=
  buildReasoningItems message.reasoningDetails ++
    (buildMessageItem message.content message.refusal).toList ++ buildFunctionCallItems message

def renderUsage (usage : Usage) : ResponseUsage :=
  { inputTokens := usage.promptTokens
    cachedTokens := usage.cacheReadInputTokens
    outputTokens := usage.completionTokens
    reasoningTokens := usage.reasoningTokens
    totalTokens := usage.totalTokens }

def renderResponsesResponse (response : ChatResponse) : ResponseBody :=
  let first := response.choices.head?
  let (status, incompleteReason) := statusFromFinishReason (first.bind Choice.finishReason)
  { id := response.id
    model := response.model
    status
    output := (first.map fun choice => buildOutput choice.message).getD []
    usage := response.usage.map renderUsage
    incompleteReason }

end Routectl.Responses
