import Routectl.ContextAnchor.Store
import Routectl.Library.JsonTree
import Routectl.Oauth.Refresh
import Routectl.Trim.Request

/-! The normalized stream of a request and its digests: the fields that shape the prompt, then
the messages, without the cache markers. -/
namespace Routectl.ContextAnchor
open Library
open Routectl.Trim (CacheControl KnownContentPart ContentPart MessageContent Message optional
  cacheField)

structure SystemBlock where
  kind : String := "text"
  text : String
  cacheControl : Option CacheControl := none
  citations : Option Json := none

inductive SystemContent where
  | text (text : String)
  | blocks (blocks : List SystemBlock)

structure CustomTool where
  name : String
  description : Option String := none
  inputSchema : Json
  cacheControl : Option CacheControl := none
  deferLoading : Option Bool := none
  strict : Option Bool := none
  typeTag : Option String := none

inductive ToolDef where
  | custom (tool : CustomTool)
  | other (value : Json)

structure ReasoningConfig where
  effort : Option String := none
  maxTokens : Option Nat := none
  exclude : Option Bool := none
  enabled : Option Bool := none

/-- The request's fields that shape its prompt. -/
structure ChatRequest where
  model : String
  messages : List Message
  system : Option SystemContent := none
  tools : Option (List ToolDef) := none
  toolChoice : Option Json := none
  responseFormat : Option Json := none
  reasoning : Option ReasoningConfig := none
  anthropicBeta : List String := []
  chatTemplateKwargs : Option Json := none
  providerExtras : Option Json := none

def streamVersion : List Char := "context-anchor/v1\n".toList
def billingPrefix : List Char := "x-anthropic-billing-header:".toList
def annotatedPassthroughBlocks : List String := ["server_tool_use"]
def toolResultBlocks : List String := ["text", "image", "document"]
def bytesPerTokenEstimate : Nat := 4

section Markers

def withoutCacheControl : Json → Json
  | .object fields => .object (fields.filter fun entry => entry.1 ≠ "cache_control")
  | other => other

def isToolResultBlock (block : Json) : Bool :=
  ((block.field "type").bind Json.asStr).any (toolResultBlocks.contains ·)

def knownCacheControl : KnownContentPart → Option CacheControl
  | .text _ _ control => control
  | .image _ control => control
  | .imageUrl _ control => control
  | .file _ control => control
  | .document _ _ _ control => control
  | .toolUse _ _ _ control => control
  | .toolResult _ _ _ control => control
  | .thinking _ _ => none
  | .redactedThinking _ => none

def partAnnotationIsStrippable : ContentPart → Bool
  | .known part => (knownCacheControl part).isSome
  | .other typeTag control _ => control.isSome && annotatedPassthroughBlocks.contains typeTag

def nestedResultMarker : ContentPart → Bool
  | .known (.toolResult _ (.array inner) _ _) =>
    inner.any fun block => isToolResultBlock block && (block.field "cache_control").isSome
  | _ => false

def carriesCacheMarker (message : Message) : Bool :=
  match message.content with
  | .parts parts => parts.any fun part => partAnnotationIsStrippable part || nestedResultMarker part
  | _ => false

def blockWithoutMarker (block : Json) : Json :=
  if isToolResultBlock block then withoutCacheControl block else block

def resultWithoutMarkers : Json → Json
  | .array inner => .array (inner.map blockWithoutMarker)
  | other => other

def knownWithoutMarkers : KnownContentPart → KnownContentPart
  | .text text citations _ => .text text citations none
  | .image source _ => .image source none
  | .imageUrl imageUrl _ => .imageUrl imageUrl none
  | .file file _ => .file file none
  | .document source title citations _ => .document source title citations none
  | .toolUse id name input _ => .toolUse id name input none
  | .toolResult toolUseId content isError _ =>
    .toolResult toolUseId (resultWithoutMarkers content) isError none
  | .thinking thinking signature => .thinking thinking signature
  | .redactedThinking data => .redactedThinking data

def partWithoutMarkers : ContentPart → ContentPart
  | .known part => .known (knownWithoutMarkers part)
  | .other typeTag control extras =>
    if annotatedPassthroughBlocks.contains typeTag then .other typeTag none extras
    else .other typeTag control extras

def withoutMarkers (message : Message) : Message :=
  match message.content with
  | .parts parts => { message with content := .parts (parts.map partWithoutMarkers) }
  | _ => message

end Markers

section StableFields

/-- The block as a map, its keys sorted. -/
def SystemBlock.toJson (block : SystemBlock) : Json :=
  .object (cacheField block.cacheControl ++ optional "citations" block.citations ++
    [("text", .string block.text), ("type", .string block.kind)])

def CustomTool.toJson (tool : CustomTool) : Json :=
  .object (cacheField tool.cacheControl ++
    optional "defer_loading" (tool.deferLoading.map .bool) ++
    optional "description" (tool.description.map .string) ++
    [("input_schema", tool.inputSchema), ("name", .string tool.name)] ++
    optional "strict" (tool.strict.map .bool) ++ optional "type" (tool.typeTag.map .string))

def ReasoningConfig.toJson (config : ReasoningConfig) : Json :=
  .object (optional "effort" (config.effort.map .string) ++
    optional "enabled" (config.enabled.map .bool) ++
    optional "exclude" (config.exclude.map .bool) ++
    optional "max_tokens" (config.maxTokens.map fun tokens => .number (toString tokens)))

def isBillingBlock (text : String) : Bool :=
  billingPrefix.isPrefixOf (text.toList.dropWhile Oauth.isWhitespace)

def systemBlockValue (block : SystemBlock) : Json := withoutCacheControl block.toJson

/-- Nothing where only billing blocks stand. -/
def systemValue : SystemContent → Option Json
  | .text text => if isBillingBlock text then none else some (.string text)
  | .blocks blocks =>
    let kept := (blocks.filter fun block => !isBillingBlock block.text).map systemBlockValue
    if kept.isEmpty then none else some (.array kept)

def toolValue : ToolDef → Json
  | .custom tool => withoutCacheControl tool.toJson
  | .other value => value

def orNull (value : Option Json) : Json := value.getD .null

/-- The fields as a map, its keys sorted. -/
def stableFields (req : ChatRequest) : Json :=
  .object
    [("anthropic_beta", .array (req.anthropicBeta.map .string)),
      ("chat_template_kwargs", orNull req.chatTemplateKwargs),
      ("model", .string req.model),
      ("provider_extras", orNull req.providerExtras),
      ("reasoning", orNull (req.reasoning.map ReasoningConfig.toJson)),
      ("response_format", orNull req.responseFormat),
      ("system", orNull (req.system.bind systemValue)),
      ("tool_choice", orNull req.toolChoice),
      ("tools", orNull (req.tools.map fun tools => .array (tools.map toolValue)))]

end StableFields

section Stream
variable (sha256 : List UInt8 → PrefixDigest)

/-- What has been fed, which the hasher hashes and the counter counts up to its ceiling. -/
structure HashSink where
  fed : List UInt8 := []
  bytes : Nat := 0

def HashSink.feed (sink : HashSink) (buffer : List UInt8) : HashSink where
  fed := sink.fed ++ buffer
  bytes := min (sink.bytes + buffer.length) (2 ^ 64 - 1)

def HashSink.finish (sink : HashSink) : PrefixDigest := sha256 sink.fed

def writeValue (sink : HashSink) (value : Json) : HashSink :=
  (sink.feed value.bytes).feed (Json.encoded ['\n'])

/-- A message without markers is written as it is, another without them. -/
def writeMessage (sink : HashSink) (message : Message) : HashSink :=
  if carriesCacheMarker message then writeValue sink (withoutMarkers message).toJson
  else writeValue sink message.toJson

def writeMessages (prefixLen : Option Nat) : List Message → Nat → HashSink →
    Option PrefixDigest → HashSink × Option PrefixDigest
  | [], _, sink, prefix_ => (sink, prefix_)
  | message :: rest, index, sink, prefix_ =>
    writeMessages prefixLen rest (index + 1) (writeMessage sink message)
      (if prefixLen = some index then some (sink.finish sha256) else prefix_)

structure Digests where
  full : Option PrefixDigest
  prefix_ : Option (Nat × PrefixDigest)
  normalizedBytes : Nat

def streamDigests (req : ChatRequest) (prefixLen : Option Nat) :
    PrefixDigest × Option PrefixDigest × Nat :=
  let opened := writeValue (HashSink.feed {} (Json.encoded streamVersion)) (stableFields req)
  let (sink, prefix_) := writeMessages sha256 prefixLen req.messages 0 opened none
  let full := sink.finish sha256
  (full, if prefixLen = some req.messages.length then some full else prefix_, sink.bytes)

def digestRequest (req : ChatRequest) (prefixLen : Option Nat) : Digests :=
  let prefixLen := prefixLen.filter (· ≤ req.messages.length)
  let (full, prefix_, normalizedBytes) := streamDigests sha256 req prefixLen
  { full := some full
    prefix_ := prefixLen.bind fun count => prefix_.map fun digest => (count, digest)
    normalizedBytes }

def RequestIdentity.measure (req : ChatRequest) (priorMessageCount : Option Nat) :
    RequestIdentity :=
  let digests := digestRequest sha256 req priorMessageCount
  { messageCount := req.messages.length
    digest := digests.full
    priorPrefix := digests.prefix_
    normalizedBytes := digests.normalizedBytes
    normalizedEstimate := digests.normalizedBytes / bytesPerTokenEstimate }

end Stream
end Routectl.ContextAnchor
