import Routectl.Library.Json

/-! The canonical stream between an upstream reader and a client renderer: chunks of
deltas for one choice, with the counts and the reasoning they carry. -/
namespace Routectl.Schema
open Library

inductive Role where
  | system
  | user
  | assistant
  | tool
  | other (tag : String)
deriving Repr, DecidableEq

inductive ReasoningDetailKind where
  | summary
  | encrypted
  | text
  | other (tag : String)
deriving Repr, DecidableEq

/-- `payload` holds the fields of its kind: a text, a signature, an encrypted blob. -/
structure ReasoningDetail where
  kind : ReasoningDetailKind
  id : Option String
  format : Option String
  index : Option Nat
  payload : Json

structure CacheCreation where
  ephemeral5mInputTokens : Option Nat
  ephemeral1hInputTokens : Option Nat
deriving Repr, DecidableEq

structure UsageDelta where
  promptTokens : Option Nat := none
  completionTokens : Option Nat := none
  totalTokens : Option Nat := none
  reasoningTokens : Option Nat := none
  cacheCreationInputTokens : Option Nat := none
  cacheReadInputTokens : Option Nat := none
  cacheCreation : Option CacheCreation := none
  serverToolUse : Option Json := none

/-- An upstream block the canonical deltas have no room for, as the bytes it came in. -/
inductive OpaqueSseEvent where
  | contentBlockStart (upstreamIndex : Nat) (typeTag : String) (rawData : ByteArray)
  | contentBlockDelta (upstreamIndex : Nat) (rawDelta : ByteArray)
  | contentBlockStop (upstreamIndex : Nat)

structure OpeningUsage where
  inputTokens : Nat
  cacheCreationInputTokens : Option Nat
  cacheReadInputTokens : Option Nat
  cacheCreation : Option CacheCreation
  fromVendorEndpoint : Bool
deriving Repr, DecidableEq

inductive UsageInputSource where
  | explicitFinal
  | vendorOpening
  | proxyOpening
  | interimCarry
  | partialFinal
deriving Repr, DecidableEq

structure UpstreamMeta where
  openingUsage : Option OpeningUsage := none
  usageInputSource : Option UsageInputSource := none
  usageFromVendorEndpoint : Option Bool := none
deriving Repr, DecidableEq

structure ChunkDelta where
  role : Option Role := none
  content : Option String := none
  reasoning : Option String := none
  reasoningDetails : List ReasoningDetail := []
  toolCalls : Option (List Json) := none

structure ChunkChoice where
  index : Nat := 0
  delta : ChunkDelta
  finishReason : Option String := none
  matchedStopSequence : Option String := none

structure ChatChunk where
  id : String := ""
  model : String := ""
  choices : List ChunkChoice := []
  usage : Option UsageDelta := none
  opaqueEvents : List OpaqueSseEvent := []
  upstreamMeta : Option UpstreamMeta := none

def ReasoningDetail.text (detail : ReasoningDetail) : Option String :=
  (detail.payload.field "text").bind Json.asStr

def ChatChunk.finishReason (chunk : ChatChunk) : Option String :=
  chunk.choices.head?.bind ChunkChoice.finishReason

section ToolCalls

def toolCallIndex (toolCall : Json) : Nat := ((toolCall.field "index").bind Json.asU64).getD 0
def toolCallId (toolCall : Json) : Option String := (toolCall.field "id").bind Json.asStr

def toolCallName (toolCall : Json) : Option String :=
  ((toolCall.field "function").bind (Json.field "name")).bind Json.asStr

def toolCallArguments (toolCall : Json) : Option String :=
  ((toolCall.field "function").bind (Json.field "arguments")).bind Json.asStr

end ToolCalls

section Families

def openaiResponsesV1 : String := "openai-responses-v1"
def codexOauth : String := "codex-oauth"
def openaiApikey : String := "openai-apikey"
def bedrockMantle : String := "bedrock-mantle"

def responsesFamilyTags : List String :=
  [openaiResponsesV1, codexOauth, openaiApikey, bedrockMantle]

def isResponsesFamily (format : Option String) : Bool :=
  match format with
  | some tag => responsesFamilyTags.contains tag
  | none => false

def envelopeVersion : String := "rctl1"
def idAbsent : String := "-"

/-- A blob made self-describing; an id that reads as absent is written as none at all,
which no reader accepts. -/
def wrap (schemeTag : String) (id : Option String) (blob : String) : String :=
  let id :=
    match id with
    | some id => if id = idAbsent then "" else id
    | none => idAbsent
  envelopeVersion ++ "." ++ schemeTag ++ "." ++ id ++ "." ++ blob

end Families

/-! The canonical answer that comes back whole: one message, its stop and its counts.
Counts are held in 32 bits and sums saturate. -/

/-- `u32::saturating_add`. -/
def saturatingAdd (first second : Nat) : Nat := min (first + second) (2 ^ 32 - 1)

inductive KnownContentPart where
  | text (text : String) (citations : Option Json)
  | image (source : Json)
  | document (source : Json) (title : Option String) (citations : Option Json)
  | toolUse (id name : String) (input : Json)

inductive ContentPart where
  | known (part : KnownContentPart)
  | other (typeTag : String) (extras : List (String × Json))

inductive MessageContent where
  | text (text : String)
  | parts (parts : List ContentPart)
  | null

structure Message where
  role : Role
  content : MessageContent
  reasoning : Option String := none
  reasoningDetails : List ReasoningDetail := []
  toolCalls : Option (List Json) := none
  refusal : Option String := none

structure Usage where
  promptTokens : Nat
  completionTokens : Nat
  totalTokens : Nat
  reasoningTokens : Option Nat := none
  cacheCreationInputTokens : Option Nat := none
  cacheReadInputTokens : Option Nat := none
  cacheCreation : Option CacheCreation := none
  serverToolUse : Option Json := none
  extras : List (String × Json) := []

structure Choice where
  message : Message
  finishReason : Option String := none
  matchedStopSequence : Option String := none

structure ChatResponse where
  id : String
  model : String
  choices : List Choice
  usage : Option Usage := none
  extras : List (String × Json) := []

def ContentPart.text : ContentPart → Option String
  | .known (.text said _) => some said
  | _ => none

/-- The text of a message, whichever way its content is held. -/
def MessageContent.plainText : MessageContent → String
  | .text said => said
  | .parts held => String.join (held.filterMap ContentPart.text)
  | .null => ""

end Routectl.Schema
