import Routectl.AnthropicApi.Types
import Routectl.Library.KeyedMap

/-! The stream of the Messages API read event by event: which block is open, what its
deltas belong to, and the chunk each event gives. -/
namespace Routectl.AnthropicApi
open Library Schema

inductive OpenBlockKind where
  | text (upstreamIndex : Nat)
  | thinking (upstreamIndex : Nat) (accumulated : String) (signature : Option String)
      (detailId : String) (detailIndex : Nat)
  | toolUse (upstreamIndex : Nat) (id name : String) (callIndex : Nat)
  | unknown (upstreamIndex : Nat) (typeTag : String)
deriving Repr, DecidableEq

def OpenBlockKind.upstreamIndex : OpenBlockKind → Nat
  | .text index | .thinking index _ _ _ _ | .toolUse index _ _ _ | .unknown index _ => index

/-- Text that a thinking block has heard; no other block takes any. -/
def OpenBlockKind.hear (heard : String) : OpenBlockKind → OpenBlockKind
  | .thinking index accumulated signature detailId detailIndex =>
    .thinking index (accumulated ++ heard) signature detailId detailIndex
  | block => block

def OpenBlockKind.sign (given : String) : OpenBlockKind → OpenBlockKind
  | .thinking index accumulated _ detailId detailIndex =>
    .thinking index accumulated (some given) detailId detailIndex
  | block => block

structure CapturedInputUsage where
  inputTokens : Nat
  cacheCreationInputTokens : Option Nat
  cacheReadInputTokens : Option Nat
  cacheCreation : Option CacheCreation
deriving Repr, DecidableEq

structure SseState where
  id : String := ""
  model : String := ""
  nextDetailIndex : Nat := 0
  nextCallIndex : Nat := 0
  openBlock : Option OpenBlockKind := none
  capturedInputUsage : Option CapturedInputUsage := none
  pendingOpaque : List OpaqueSseEvent := []
  currentCapture : Option OpaqueCapture := none
  opaqueBytesTotal : Nat := 0
  opaqueEventsTotal : Nat := 0
  opaqueStreamDegraded : Bool := false
  canonicalChunkEmitted : Bool := false
  roleEmitted : Bool := false
  completedThinking : List ReasoningDetail := []
  pendingCacheWrites : List (String × List ReasoningDetail) := []
  toolReverse : KeyedMap String String := ∅
  vendorOpening : Bool := false

/-- An in-band error, with the status its type would have had on a whole answer. -/
structure UpstreamError where
  status : Nat
  message : String
  errorType : String
deriving Repr, DecidableEq

def captureInput (usage : AnthropicUsage) : CapturedInputUsage :=
  { inputTokens := usage.inputTokens
    cacheCreationInputTokens := usage.cacheCreationInputTokens
    cacheReadInputTokens := usage.cacheReadInputTokens
    cacheCreation := usage.cacheCreation.map AnthropicCacheCreation.canonical }

section UsageMerge
variable (usage : Option SseDeltaUsage) (captured : Option CapturedInputUsage)

/-- Whether a delta reports input: any positive component says so. -/
def reportsInput : Bool :=
  usage.any fun usage =>
    [usage.inputTokens, usage.cacheCreationInputTokens, usage.cacheReadInputTokens].any
      fun count => count.any fun count => 0 < count

def positive (count : Option Nat) : Option Nat := count.filter fun count => 0 < count

def pickPlaceholder (delta opening : Option Nat) : Option Nat := (positive delta).or (positive opening)

def pickInput (delta opening : Option Nat) : Option Nat :=
  if reportsInput usage then delta.or (positive opening) else pickPlaceholder delta opening

def pickCacheCreation : Option Nat :=
  pickInput usage (usage.bind SseDeltaUsage.cacheCreationInputTokens)
    (captured.bind CapturedInputUsage.cacheCreationInputTokens)

def pickCacheRead : Option Nat :=
  pickInput usage (usage.bind SseDeltaUsage.cacheReadInputTokens)
    (captured.bind CapturedInputUsage.cacheReadInputTokens)

def pickRawInput : Option Nat :=
  pickInput usage (usage.bind SseDeltaUsage.inputTokens)
    (captured.map CapturedInputUsage.inputTokens)

/-- The whole prompt; nothing where no component is known. -/
def mergedPromptTokens : Option Nat :=
  match pickRawInput usage captured, pickCacheCreation usage captured,
    pickCacheRead usage captured with
  | none, none, none => none
  | input, creation, read =>
    some (saturatingAdd (saturatingAdd (input.getD 0) (creation.getD 0)) (read.getD 0))

def mergedCacheCreation : Option CacheCreation :=
  let deltaCreation := usage.bind SseDeltaUsage.cacheCreation
  let openingCreation := captured.bind CapturedInputUsage.cacheCreation
  let ephemeral5m := pickPlaceholder
    (deltaCreation.bind AnthropicCacheCreation.ephemeral5mInputTokens)
    (openingCreation.bind CacheCreation.ephemeral5mInputTokens)
  let ephemeral1h := pickPlaceholder
    (deltaCreation.bind AnthropicCacheCreation.ephemeral1hInputTokens)
    (openingCreation.bind CacheCreation.ephemeral1hInputTokens)
  if reportsInput usage && (usage.bind SseDeltaUsage.cacheCreationInputTokens).isSome then
    deltaCreation.map AnthropicCacheCreation.canonical
  else if ephemeral5m.isSome || ephemeral1h.isSome then some ⟨ephemeral5m, ephemeral1h⟩
  else none

def copiedFromOpening : Bool :=
  [(usage.bind SseDeltaUsage.inputTokens, pickRawInput usage captured),
    (usage.bind SseDeltaUsage.cacheCreationInputTokens, pickCacheCreation usage captured),
    (usage.bind SseDeltaUsage.cacheReadInputTokens, pickCacheRead usage captured)].any
    fun (reported, picked) => picked.isSome && !(reportsInput usage && reported.isSome)

def mergedTotal (promptTokens completionTokens : Option Nat) : Option Nat :=
  match promptTokens, completionTokens with
  | some prompt, some completion => some (saturatingAdd prompt completion)
  | some prompt, none => some prompt
  | none, some completion => some completion
  | none, none => none

/-- The counts of a closing delta, its input filled in from the opening. -/
def mergedUsage : Option UsageDelta :=
  if usage.isSome || captured.isSome then
    let promptTokens := mergedPromptTokens usage captured
    let completionTokens := usage.bind SseDeltaUsage.outputTokens
    some
      { promptTokens
        completionTokens
        totalTokens := mergedTotal promptTokens completionTokens
        cacheCreationInputTokens := pickCacheCreation usage captured
        cacheReadInputTokens := pickCacheRead usage captured
        cacheCreation := mergedCacheCreation usage captured
        serverToolUse := usage.bind SseDeltaUsage.serverToolUse }
  else none

def usageInputSource (vendorOpening : Bool) : Option UsageInputSource :=
  if usage.isSome || captured.isSome then
    (mergedPromptTokens usage captured).map fun _ =>
      if copiedFromOpening usage captured then
        if vendorOpening then .vendorOpening else .proxyOpening
      else if (usage.bind SseDeltaUsage.inputTokens).isSome then .explicitFinal
      else .partialFinal
  else none

end UsageMerge

namespace SseState
variable (state : SseState)

section Chunks

/-- A chunk of one delta that does not finish. -/
def deltaChunk (delta : ChunkDelta) : ChatChunk :=
  { id := state.id, model := state.model, choices := [{ delta }] }

def openingCarrier : Option UpstreamMeta :=
  state.capturedInputUsage.map fun captured =>
    { openingUsage := some
        { inputTokens := captured.inputTokens
          cacheCreationInputTokens := captured.cacheCreationInputTokens
          cacheReadInputTokens := captured.cacheReadInputTokens
          cacheCreation := captured.cacheCreation
          fromVendorEndpoint := state.vendorOpening } }

def roleChunk : ChatChunk :=
  { state.deltaChunk { role := some .assistant } with upstreamMeta := state.openingCarrier }

def makeTextChunk (text : String) : ChatChunk := state.deltaChunk { content := some text }

def makeThinkingStringChunk (thinking : String) : ChatChunk :=
  state.deltaChunk { reasoning := some thinking }

def makeDetailChunk (detail : ReasoningDetail) : ChatChunk :=
  state.deltaChunk { reasoningDetails := [detail] }

def toolDelta (callIndex : Nat) (id name partialJson : String) : Json :=
  .object [("function", .object [("arguments", .string partialJson), ("name", .string name)]),
    ("id", .string id), ("index", .number (toString callIndex)), ("type", .string "function")]

def makeToolDeltaChunk (partialJson : String) : ChatChunk :=
  let toolCallDelta :=
    match state.openBlock with
    | some (.toolUse _ id name callIndex) => toolDelta callIndex id name partialJson
    | _ => toolDelta 0 "" "" partialJson
  state.deltaChunk { toolCalls := some [toolCallDelta] }

def emptyCarrierChunk : ChatChunk := { id := state.id, model := state.model }

end Chunks

section Unknown

def noteOpaqueGrowth (growth : Nat × Nat) : SseState :=
  if state.opaqueStreamDegraded then state
  else
    { state with
      opaqueEventsTotal := state.opaqueEventsTotal + growth.1
      opaqueBytesTotal := state.opaqueBytesTotal + growth.2
      opaqueStreamDegraded :=
        maxTotalOpaqueBytesPerStream < state.opaqueBytesTotal + growth.2 ||
          maxOpaqueEventsPerStream < state.opaqueEventsTotal + growth.1 }

def openUnknownBlock (index : Nat) (value : Json) : SseState :=
  let typeTag := sanitizeForLog (((value.field "type").bind Json.asStr).getD "unknown")
  let opened := { state with openBlock := some (.unknown index typeTag) }
  if state.opaqueStreamDegraded then { opened with currentCapture := none }
  else
    let capture : OpaqueCapture := { upstreamIndex := index, typeTag }
    let recorded := capture.recordStart value state.pendingOpaque
    let captured :=
      { opened with currentCapture := some recorded.1, pendingOpaque := recorded.2 }
    captured.noteOpaqueGrowth (opaqueGrowth (recorded.2.drop state.pendingOpaque.length))

def rawDelta : SseDelta → Json
  | .other value => value
  | .textDelta text => .object [("text", .string text), ("type", .string "text_delta")]
  | .inputJsonDelta partialJson =>
    .object [("partial_json", .string partialJson), ("type", .string "input_json_delta")]
  | .thinkingDelta thinking =>
    .object [("thinking", .string thinking), ("type", .string "thinking_delta")]
  | .signatureDelta signature =>
    .object [("signature", .string signature), ("type", .string "signature_delta")]

def captureUnknownDelta (delta : SseDelta) : SseState :=
  if state.opaqueStreamDegraded then state
  else
    match state.currentCapture with
    | some capture =>
      let recorded := capture.recordDelta (rawDelta delta) state.pendingOpaque
      let captured :=
        { state with currentCapture := some recorded.1, pendingOpaque := recorded.2 }
      captured.noteOpaqueGrowth (opaqueGrowth (recorded.2.drop state.pendingOpaque.length))
    | none => state.noteOpaqueGrowth (0, 0)

end Unknown

/-- A delta or a stop belongs to the open block; with none open there is nothing to
check against. -/
def indexMatches (index : Nat) : Bool :=
  match state.openBlock with
  | none => true
  | some block => block.upstreamIndex = index

def reverseToolName (name : String) : String := (state.toolReverse.lookup name).getD name

/-- A block starts; `uuid` is the id minted for the detail of an index. -/
def openBlockStart (uuid : Nat → String) (index : Nat) :
    SseContentBlockStart → SseState × Option ChatChunk
  | .text _ => ({ state with openBlock := some (.text index) }, none)
  | .thinking _ =>
    ({ state with
        nextDetailIndex := state.nextDetailIndex + 1
        openBlock :=
          some (.thinking index "" none (uuid state.nextDetailIndex) state.nextDetailIndex) }, none)
  | .toolUse id name =>
    let named := state.reverseToolName name
    let opened : SseState := { state with
      nextCallIndex := state.nextCallIndex + 1
      openBlock := some (.toolUse index id named state.nextCallIndex) }
    (if id = "" then opened
      else
        { opened with
          pendingCacheWrites := state.pendingCacheWrites ++ [(id, state.completedThinking)]
          completedThinking := [] }, none)
  | .redactedThinking data =>
    let detail := makeRedactedThinkingDetail (uuid state.nextDetailIndex) state.nextDetailIndex data
    let counted : SseState := { state with
      nextDetailIndex := state.nextDetailIndex + 1
      completedThinking := state.completedThinking ++ [detail] }
    (counted, some (counted.makeDetailChunk detail))
  | .other value => (state.openUnknownBlock index value, none)

/-- A delta of a block whose type is known. -/
def applyDelta : SseDelta → SseState × Option ChatChunk
  | .textDelta text => (state, some (state.makeTextChunk text))
  | .thinkingDelta thinking =>
    ({ state with openBlock := state.openBlock.map (OpenBlockKind.hear thinking) },
      some (state.makeThinkingStringChunk thinking))
  | .signatureDelta signature =>
    ({ state with openBlock := state.openBlock.map (OpenBlockKind.sign signature) }, none)
  | .inputJsonDelta partialJson => (state, some (state.makeToolDeltaChunk partialJson))
  | .other _ => (state, none)

/-- A block stops: a thinking block gives its one detail, an unknown one its stop. -/
def closeBlock : SseState × Option ChatChunk :=
  let closed := { state with openBlock := none }
  match state.openBlock with
  | some (.thinking _ accumulated signature detailId detailIndex) =>
    if accumulated = "" && signature.isNone then (closed, none)
    else
      let detail := makeThinkingDetail detailId detailIndex accumulated (signature.getD "")
      ({ closed with completedThinking := state.completedThinking ++ [detail] },
        some (state.makeDetailChunk detail))
  | some (.unknown _ _) =>
    match state.currentCapture with
    | some capture =>
      ({ closed with currentCapture := none, pendingOpaque := capture.recordStop state.pendingOpaque },
        none)
    | none => (closed, none)
  | _ => (closed, none)

def startMessage (message : SseMessage) : SseState × Option ChatChunk :=
  let started := { state with
    id := message.id
    model := message.model
    capturedInputUsage := (message.usage.map captureInput).or state.capturedInputUsage }
  if state.roleEmitted then (started, none)
  else ({ started with roleEmitted := true }, some started.roleChunk)

/-- The closing delta; one that says nothing gives no chunk. -/
def messageDeltaChunk (delta : SseMessageDelta) (usage : Option SseDeltaUsage) : Option ChatChunk :=
  let finishReason := mapStopReason delta.stopReason
  let usageDelta := mergedUsage usage state.capturedInputUsage
  if finishReason.isNone && usageDelta.isNone then none
  else
    some
      { id := state.id
        model := state.model
        choices := [{
          delta := {}
          finishReason
          matchedStopSequence := matchedStop delta.stopReason delta.stopSequence }]
        usage := usageDelta
        upstreamMeta :=
          (usageInputSource usage state.capturedInputUsage state.vendorOpening).map fun source =>
            { usageInputSource := some source
              usageFromVendorEndpoint := some state.vendorOpening } }

def upstreamError (error : Json) : UpstreamError :=
  let errorType := ((error.field "type").bind Json.asStr).getD "api_error"
  let message :=
    ((error.field "message").bind Json.asStr).getD "upstream signaled error event mid-stream"
  ⟨anthropicErrorTypeToStatus errorType, errorType ++ ": " ++ message, errorType⟩

def dispatchEvent (uuid : Nat → String) :
    SseEvent → Except UpstreamError (SseState × Option ChatChunk)
  | .messageStart message => .ok (state.startMessage message)
  | .contentBlockStart index contentBlock => .ok (state.openBlockStart uuid index contentBlock)
  | .contentBlockDelta index delta =>
    if !state.indexMatches index then .ok (state, none)
    else
      match state.openBlock with
      | some (.unknown _ _) => .ok (state.captureUnknownDelta delta, none)
      | _ => .ok (state.applyDelta delta)
  | .contentBlockStop index =>
    if !state.indexMatches index then .ok (state, none) else .ok state.closeBlock
  | .messageDelta delta usage => .ok (state, state.messageDeltaChunk delta usage)
  | .messageStop =>
    .ok ({ state with completedThinking := [] },
      if state.pendingOpaque.isEmpty then none else some state.emptyCarrierChunk)
  | .ping => .ok (state, none)
  | .error error => .error (upstreamError error)
  | .other _ => .ok (state, none)

/-- One event; what was captured rides on the next chunk. -/
def applyEvent (uuid : Nat → String) (event : SseEvent) :
    Except UpstreamError (SseState × Option ChatChunk) :=
  match state.dispatchEvent uuid event with
  | .error failure => .error failure
  | .ok (next, none) => .ok (next, none)
  | .ok (next, some chunk) =>
    .ok ({ next with canonicalChunkEmitted := true, pendingOpaque := [] },
      some { chunk with opaqueEvents := next.pendingOpaque })

end SseState

/-- The chunks of a list of events. -/
def decode (uuid : Nat → String) :
    SseState → List SseEvent → Except UpstreamError (SseState × List ChatChunk)
  | state, [] => .ok (state, [])
  | state, event :: rest =>
    match state.applyEvent uuid event with
    | .error failure => .error failure
    | .ok (next, emitted) =>
      match decode uuid next rest with
      | .error failure => .error failure
      | .ok (final, chunks) => .ok (final, emitted.toList ++ chunks)

end Routectl.AnthropicApi
