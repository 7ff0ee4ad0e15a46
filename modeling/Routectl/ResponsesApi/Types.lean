import Routectl.Schema.Chunk

/-! The wire of the Responses API as its reader holds it: a whole body, and the flat event
that every line of a stream is read as. -/
namespace Routectl.ResponsesApi
open Library Schema

inductive AuthKind where
  | chatgptOauth
  | apiKey
  | bedrockMantle
deriving Repr, DecidableEq

/-- The format tag a lane stamps on the reasoning it produces. -/
def laneFormatTag : AuthKind → String
  | .chatgptOauth => codexOauth
  | .apiKey => openaiApikey
  | .bedrockMantle => bedrockMantle

inductive ResponsesOutputContent where
  | outputText (text : String)
  | refusal (refusal : String)
  | other
deriving Repr, DecidableEq

inductive ReasoningSummary where
  | summaryText (text : String)
  | other
deriving Repr, DecidableEq

inductive ReasoningContent where
  | reasoningText (text : String)
  | text (text : String)
  | reasoningEncrypted (encryptedContent : String)
  | other
deriving Repr, DecidableEq

inductive ResponseOutputItem where
  | message (content : List ResponsesOutputContent)
  | reasoning (id : String) (summary : List ReasoningSummary) (content : List ReasoningContent)
      (encryptedContent : Option String)
  | functionCall (callId name arguments : String)
  | other (raw : Json)

structure IncompleteDetails where
  reason : Option String := none
deriving Repr, DecidableEq

/-- A count that is absent is read as zero. -/
structure ResponsesUsage where
  inputTokens : Nat := 0
  inputTokensDetails : Option Json := none
  outputTokens : Nat := 0
  outputTokensDetails : Option Json := none
  totalTokens : Nat := 0

structure ResponsesResponse where
  id : String := ""
  status : Option String := none
  error : Option Json := none
  incompleteDetails : Option IncompleteDetails := none
  model : String := ""
  output : List ResponseOutputItem := []
  usage : Option ResponsesUsage := none

/-- Any event of a stream: its kind says which of the fields mean something. -/
structure ResponsesStreamEvent where
  kind : String
  item : Option Json := none
  outputIndex : Option Nat := none
  delta : Option String := none
  response : Option Json := none

/-- A count kept in its low 32 bits. -/
def truncated (count : Nat) : Nat := count % 2 ^ 32

def ResponsesUsage.cachedTokens (usage : ResponsesUsage) : Option Nat :=
  ((usage.inputTokensDetails.bind (Json.field "cached_tokens")).bind Json.asU64).map truncated

def ResponsesUsage.reasoningTokens (usage : ResponsesUsage) : Option Nat :=
  ((usage.outputTokensDetails.bind (Json.field "reasoning_tokens")).bind Json.asU64).map truncated

def mapFinishReason (status incompleteReason : Option String) (hasFunctionCall : Bool) :
    Option String :=
  status.map fun status =>
    if status = "completed" then if hasFunctionCall then "tool_calls" else "stop"
    else if status = "incomplete" then
      match incompleteReason with
      | some reason =>
        if reason = "max_output_tokens" then "length"
        else if reason = "content_filter" then "content_filter"
        else reason
      | none => "incomplete"
    else if status = "failed" || status = "cancelled" then "error"
    else status

structure UpstreamError where
  message : String
  retryAfter : Option Nat := none
deriving Repr, DecidableEq

/-- The wait a usage-limit error asks for, in seconds from `now`. -/
def codexResetHint (now : Nat) (error : Json) : Option Nat :=
  if (error.field "type").bind Json.asStr = some "usage_limit_reached" then
    ((error.field "resets_in_seconds").bind Json.asU64).or
      (((error.field "resets_at").bind Json.asU64).map fun resetsAt => resetsAt - now)
  else none

def upstreamErrorFromFailed (now : Nat) (body : ResponsesResponse) : UpstreamError :=
  { message := ((body.error.bind (Json.field "message")).bind Json.asStr).getD
      "openai-responses: response.status=failed"
    retryAfter := body.error.bind (codexResetHint now) }

/-- A reasoning detail of one lane. -/
def laneDetail (authKind : AuthKind) (kind : ReasoningDetailKind) (id : String) (index : Nat)
    (field text : String) : ReasoningDetail :=
  { kind
    id := some id
    format := some (laneFormatTag authKind)
    index := some index
    payload := .object [(field, .string text)] }

/-! A whole Responses body as the canonical answer: its output walked item by item. -/

structure Walked where
  textParts : List String := []
  reasoningDetails : List ReasoningDetail := []
  toolCalls : List Json := []
  parts : List ContentPart := []
  detailIndex : Nat := 0
  hasFunctionCall : Bool := false
  minted : Nat := 0

def splitOtherValue : Json → String × List (String × Json)
  | .object fields =>
    (((fields.lookup "type").bind Json.asStr).getD "unknown",
      fields.filter fun field => field.1 ≠ "type")
  | _ => ("unknown", [])

def toolCallOf (callId name arguments : String) : Json :=
  .object [("id", .string callId), ("type", .string "function"),
    ("function", .object [("name", .string name), ("arguments", .string arguments)])]

section Walking
variable (authKind : AuthKind) (uuid : Nat → String) (read : String → Option Json)

/-- One more detail, under the next index. -/
def Walked.detail (walked : Walked) (kind : ReasoningDetailKind) (id field text : String) : Walked :=
  { walked with
    reasoningDetails := walked.reasoningDetails ++
      [laneDetail authKind kind id walked.detailIndex field text]
    detailIndex := walked.detailIndex + 1 }

def Walked.content (walked : Walked) : ResponsesOutputContent → Walked
  | .outputText text =>
    { walked with
      textParts := walked.textParts ++ [text]
      parts := walked.parts ++ [.known (.text text none)] }
  | .refusal refusal =>
    { walked with parts := walked.parts ++ [.other "refusal" [("refusal", .string refusal)]] }
  | .other => walked

def Walked.summary (id : String) (walked : Walked) : ReasoningSummary → Walked
  | .summaryText text => walked.detail authKind .summary id "text" text
  | .other => walked

def Walked.reasoningContent (id : String) (walked : Walked) : ReasoningContent → Walked
  | .reasoningText text | .text text => walked.detail authKind .text id "text" text
  | .reasoningEncrypted encryptedContent =>
    walked.detail authKind .encrypted id "encrypted_content" encryptedContent
  | .other => walked

/-- The signature of an item is a detail of its own; an empty one is none. -/
def Walked.signature (id : String) (walked : Walked) (encryptedContent : Option String) : Walked :=
  match encryptedContent with
  | some signature =>
    if signature = "" then walked
    else walked.detail authKind .encrypted id "encrypted_content" signature
  | none => walked

def Walked.item (walked : Walked) : ResponseOutputItem → Walked
  | .message content => content.foldl Walked.content walked
  | .reasoning itemId summary content encryptedContent =>
    let id := if itemId = "" then uuid walked.minted else itemId
    let minted := if itemId = "" then walked.minted + 1 else walked.minted
    let summarised := summary.foldl (Walked.summary authKind id) { walked with minted }
    (content.foldl (Walked.reasoningContent authKind id) summarised).signature authKind id
      encryptedContent
  | .functionCall callId name arguments =>
    { walked with
      hasFunctionCall := true
      toolCalls := walked.toolCalls ++ [toolCallOf callId name arguments]
      parts := walked.parts ++
        [.known (.toolUse callId name ((read arguments).getD (.string arguments)))] }
  | .other raw =>
    let (typeTag, extras) := splitOtherValue raw
    { walked with parts := walked.parts ++ [.other typeTag extras] }

def walkOutput (output : List ResponseOutputItem) : Walked :=
  output.foldl (Walked.item authKind uuid read) {}

end Walking

def isText : ContentPart → Bool
  | .known (.text _ _) => true
  | _ => false

/-- Text alone is held flat. -/
def selectMessageContent (text : String) (parts : List ContentPart) : MessageContent :=
  if parts.all isText then .text text else .parts parts

/-- A total that is absent is the sum of the parts, where any part is known. -/
def deriveTotalIfAbsent (usage : Usage) : Usage :=
  if usage.totalTokens = 0 ∧ (0 < usage.promptTokens ∨ 0 < usage.completionTokens) then
    { usage with totalTokens := saturatingAdd usage.promptTokens usage.completionTokens }
  else usage

theorem deriveTotalIfAbsent_parts (usage : Usage) :
    (deriveTotalIfAbsent usage).promptTokens = usage.promptTokens ∧
      (deriveTotalIfAbsent usage).completionTokens = usage.completionTokens ∧
      (deriveTotalIfAbsent usage).reasoningTokens = usage.reasoningTokens ∧
      (deriveTotalIfAbsent usage).cacheReadInputTokens = usage.cacheReadInputTokens ∧
      (deriveTotalIfAbsent usage).cacheCreationInputTokens = usage.cacheCreationInputTokens ∧
      (deriveTotalIfAbsent usage).cacheCreation = usage.cacheCreation := by
  rw [deriveTotalIfAbsent]
  split <;> exact ⟨rfl, rfl, rfl, rfl, rfl, rfl⟩

/-- A total of zero is kept only beside counts of zero. -/
theorem deriveTotalIfAbsent_keeps_iff (usage : Usage) :
    usage.totalTokens = (deriveTotalIfAbsent usage).totalTokens ↔
      (usage.totalTokens = 0 → usage.promptTokens = 0 ∧ usage.completionTokens = 0) := by
  rw [deriveTotalIfAbsent]
  split
  case isTrue absent =>
    simp only [saturatingAdd]
    omega
  case isFalse stated =>
    refine iff_of_true rfl ?_
    omega

def translateUsage (usage : ResponsesUsage) : Usage :=
  deriveTotalIfAbsent
    { promptTokens := usage.inputTokens
      completionTokens := usage.outputTokens
      totalTokens := usage.totalTokens
      reasoningTokens := usage.reasoningTokens
      cacheReadInputTokens := usage.cachedTokens }

/-- A missing id is minted as `mintedId`. -/
def translate (authKind : AuthKind) (uuid : Nat → String) (read : String → Option Json)
    (mintedId : String) (body : ResponsesResponse) : ChatResponse :=
  let walked := walkOutput authKind uuid read body.output
  { id := if body.id = "" then mintedId else body.id
    model := body.model
    choices := [{
      message := {
        role := .assistant
        content := selectMessageContent (String.join walked.textParts) walked.parts
        reasoningDetails := walked.reasoningDetails
        toolCalls := if walked.toolCalls.isEmpty then none else some walked.toolCalls }
      finishReason := mapFinishReason body.status
        (body.incompleteDetails.bind IncompleteDetails.reason) walked.hasFunctionCall }]
    usage := body.usage.map translateUsage }

end Routectl.ResponsesApi
