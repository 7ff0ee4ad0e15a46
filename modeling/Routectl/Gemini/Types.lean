import Routectl.ResponsesApi.Types
import Routectl.Schema.Chunk

/-! The wire of Gemini's answers as its readers hold them: a whole body, and the partial
bodies that a stream is made of. -/
namespace Routectl.Gemini
open Library Schema

def geminiFormat : String := "gemini-v1"

/-- The arguments are an object, not its text. -/
structure ResponseFunctionCall where
  name : String
  args : Json

structure ResponsePart where
  text : Option String := none
  functionCall : Option ResponseFunctionCall := none
  thought : Option Bool := none
  thoughtSignature : Option String := none

structure Candidate where
  content : Option (List ResponsePart) := none
  finishReason : Option String := none

/-- A count that is absent is read as zero. -/
structure UsageMetadata where
  promptTokenCount : Nat := 0
  candidatesTokenCount : Nat := 0
  totalTokenCount : Nat := 0
  cachedContentTokenCount : Nat := 0
  thoughtsTokenCount : Nat := 0
deriving Repr, DecidableEq

structure PromptFeedback where
  blockReason : Option String := none
deriving Repr, DecidableEq

structure GenerateContentResponse where
  candidates : List Candidate := []
  usageMetadata : Option UsageMetadata := none
  modelVersion : Option String := none
  responseId : Option String := none
  promptFeedback : Option PromptFeedback := none

namespace GenerateContentResponse
variable (response : GenerateContentResponse)

/-- Candidates are taken by position, the first alone. -/
def candidate : Option Candidate := response.candidates.head?

def parts : List ResponsePart := (response.candidate.bind Candidate.content).getD []

/-- Why the prompt was blocked; an empty reason is none. -/
def blockReason : Option String :=
  (response.promptFeedback.bind PromptFeedback.blockReason).filter fun reason => reason ≠ ""

end GenerateContentResponse

namespace ResponsePart
variable (part : ResponsePart)

def isThought : Bool := part.thought = some true

/-- A signature on a call; an empty one is none. -/
def callSignature : Option String := part.thoughtSignature.filter fun signature => signature ≠ ""

end ResponsePart

/-- The canonical stop; a call says more than any reason. -/
def mapFinishReason (geminiReason : Option String) (hasToolCalls : Bool) : Option String :=
  if hasToolCalls then some "tool_calls"
  else
    match geminiReason with
    | none => some "stop"
    | some reason =>
      if reason = "MAX_TOKENS" then some "length"
      else if ["SAFETY", "RECITATION", "PROHIBITED_CONTENT", "BLOCKLIST", "SPII", "IMAGE_SAFETY",
          "LANGUAGE"].contains reason then some "content_filter"
      else some "stop"

def thoughtDetail (text : String) (signature : Option String) (index : Nat) : ReasoningDetail :=
  { kind := .text
    id := none
    format := some geminiFormat
    index := some index
    payload := .object (("text", .string text) ::
      (signature.map fun signature => ("thought_signature", Json.string signature)).toList) }

def functionField (call : ResponseFunctionCall) : String × Json :=
  ("function", .object [("name", .string call.name),
    ("arguments", .string (String.ofList call.args.compact))])

/-- The signature of a call, beside its other fields. -/
def signatureField (part : ResponsePart) : List (String × Json) :=
  (part.callSignature.map fun signature => ("thought_signature", Json.string signature)).toList

/-! A whole Gemini body as the canonical answer: the parts of its candidate walked in
order. -/

structure WalkedParts where
  text : String := ""
  toolCalls : List Json := []
  reasoningDetails : List ReasoningDetail := []

namespace WalkedParts
variable (callId : Nat → String) (walked : WalkedParts)

/-- Visible texts are set apart by a line break. -/
def say (text : String) : WalkedParts :=
  { walked with text := (if walked.text = "" then walked.text else walked.text ++ "\n") ++ text }

def think (text : String) (signature : Option String) : WalkedParts :=
  { walked with
    reasoningDetails := walked.reasoningDetails ++
      [thoughtDetail text signature (walked.reasoningDetails.length % 2 ^ 32)] }

/-- Each call is given an id of its own. -/
def call (part : ResponsePart) (function : ResponseFunctionCall) : WalkedParts :=
  { walked with
    toolCalls := walked.toolCalls ++
      [.object ([("id", .string (callId walked.toolCalls.length)), ("type", .string "function"),
        functionField function] ++ signatureField part)] }

def part (part : ResponsePart) : WalkedParts :=
  let told :=
    match part.text with
    | some text => if part.isThought then walked.think text part.thoughtSignature else walked.say text
    | none => walked
  match part.functionCall with
  | some function => told.call callId part function
  | none => told

end WalkedParts

def walkParts (callId : Nat → String) (parts : List ResponsePart) : WalkedParts :=
  parts.foldl (WalkedParts.part callId) {}

def translateUsage (usage : UsageMetadata) : Usage :=
  ResponsesApi.deriveTotalIfAbsent
    { promptTokens := usage.promptTokenCount
      completionTokens := usage.candidatesTokenCount
      totalTokens := usage.totalTokenCount
      reasoningTokens :=
        if 0 < usage.thoughtsTokenCount then some usage.thoughtsTokenCount else none
      cacheReadInputTokens :=
        if 0 < usage.cachedContentTokenCount then some usage.cachedContentTokenCount else none }

/-- Ids that the body has not are minted. -/
def translate (callId : Nat → String) (mintedId : String) (response : GenerateContentResponse) :
    ChatResponse :=
  let (walked, finishReason) : WalkedParts × Option String :=
    match response.candidate with
    | none => ({}, some (if response.blockReason.isSome then "content_filter" else "stop"))
    | some candidate =>
      let walked := walkParts callId response.parts
      (walked, mapFinishReason candidate.finishReason (!walked.toolCalls.isEmpty))
  { id := (response.responseId.filter fun id => id ≠ "").getD mintedId
    model := response.modelVersion.getD ""
    choices := [{
      message := {
        role := .assistant
        content := if walked.text = "" then .null else .text walked.text
        reasoningDetails := walked.reasoningDetails
        toolCalls := if walked.toolCalls.isEmpty then none else some walked.toolCalls }
      finishReason }]
    usage := response.usageMetadata.map translateUsage }

/-! The reader of a Gemini stream: every event is a partial body, and the first that says
why the turn ended gives the last chunk. -/

def maxOutputBlocks : Nat := 4096

structure GeminiStreamState where
  responseId : String := ""
  model : String := ""
  roleEmitted : Bool := false
  nextCallIndex : Nat := 0
  nextDetailIndex : Nat := 0
  sawFunctionCall : Bool := false
  terminalEmitted : Bool := false
  cachedUsage : Option UsageMetadata := none
  sawFinishReason : Bool := false

def usageDelta (usage : UsageMetadata) : UsageDelta :=
  { promptTokens := some usage.promptTokenCount
    completionTokens := some usage.candidatesTokenCount
    totalTokens := some usage.totalTokenCount
    reasoningTokens :=
      if 0 < usage.thoughtsTokenCount then some usage.thoughtsTokenCount else none
    cacheReadInputTokens :=
      if 0 < usage.cachedContentTokenCount then some usage.cachedContentTokenCount else none }

namespace GeminiStreamState
variable (state : GeminiStreamState)

def chunkWithDelta (delta : ChunkDelta) : ChatChunk :=
  { id := state.responseId, model := state.model, choices := [{ delta }] }

def roleChunk : ChatChunk := state.chunkWithDelta { role := some .assistant }

def textChunk (text : String) : ChatChunk := state.chunkWithDelta { content := some text }

def reasoningChunk (text : String) (signature : Option String) : ChatChunk :=
  state.chunkWithDelta
    { reasoning := some text, reasoningDetails := [thoughtDetail text signature state.nextDetailIndex] }

def toolChunk (part : ResponsePart) (call : ResponseFunctionCall) : ChatChunk :=
  state.chunkWithDelta
    { toolCalls := some [.object ([("index", .number (toString state.nextCallIndex)),
        ("id", .string ("call_" ++ toString state.nextCallIndex)), ("type", .string "function"),
        functionField call] ++ signatureField part)] }

def textPart (part : ResponsePart) : GeminiStreamState × List ChatChunk :=
  match part.text with
  | some text =>
    if part.isThought then
      ({ state with nextDetailIndex := (state.nextDetailIndex + 1) % 2 ^ 32 },
        [state.reasoningChunk text part.thoughtSignature])
    else if text ≠ "" then (state, [state.textChunk text])
    else (state, [])
  | none => (state, [])

/-- A call beyond the cap is seen but not given. -/
def callPart (part : ResponsePart) : GeminiStreamState × List ChatChunk :=
  match part.functionCall with
  | some call =>
    let seen := { state with sawFunctionCall := true }
    if maxOutputBlocks ≤ state.nextCallIndex then (seen, [])
    else ({ seen with nextCallIndex := state.nextCallIndex + 1 }, [seen.toolChunk part call])
  | none => (state, [])

def partChunks (part : ResponsePart) : GeminiStreamState × List ChatChunk :=
  let (told, texts) := state.textPart part
  let (called, calls) := told.callPart part
  (called, texts ++ calls)

def partsChunks : GeminiStreamState → List ResponsePart → GeminiStreamState × List ChatChunk
  | state, [] => (state, [])
  | state, part :: rest =>
    let (after, chunks) := state.partChunks part
    let (final, more) := partsChunks after rest
    (final, chunks ++ more)

/-- The last chunk, with the latest counts and where they came from. -/
def terminalChunk (finish : Option String) (usage : Option UsageMetadata) (ownUsage : Bool) :
    ChatChunk :=
  { id := state.responseId
    model := state.model
    choices := [{ delta := {}, finishReason := finish }]
    usage := usage.map usageDelta
    upstreamMeta := usage.map fun _ =>
      { usageInputSource := some (if ownUsage then .explicitFinal else .interimCarry) } }

/-- The ids an event names are kept. -/
def identify (event : GenerateContentResponse) : GeminiStreamState :=
  { state with
    responseId := (event.responseId.filter fun id => id ≠ "").getD state.responseId
    model := (event.modelVersion.filter fun model => model ≠ "").getD state.model }

def opening : GeminiStreamState × List ChatChunk :=
  if state.roleEmitted then (state, []) else ({ state with roleEmitted := true }, [state.roleChunk])

/-- The end of the turn, where the event has one. -/
def closing (event : GenerateContentResponse) : GeminiStreamState × List ChatChunk :=
  let proven :=
    { state with sawFinishReason := true, terminalEmitted := true, cachedUsage := none }
  match event.candidate.bind Candidate.finishReason with
  | some reason =>
    (proven, [state.terminalChunk (mapFinishReason (some reason) state.sawFunctionCall)
      state.cachedUsage event.usageMetadata.isSome])
  | none =>
    if event.candidate.isNone && event.blockReason.isSome then
      (proven, [state.terminalChunk (some "content_filter") state.cachedUsage
        event.usageMetadata.isSome])
    else (state, [])

def parseEvent (event : GenerateContentResponse) : GeminiStreamState × List ChatChunk :=
  let named := state.identify event
  if named.terminalEmitted then (named, [])
  else
    let (opened, role) := named.opening
    let (told, chunks) := opened.partsChunks event.parts
    let counted := { told with cachedUsage := event.usageMetadata.or told.cachedUsage }
    let (closed, last) := counted.closing event
    (closed, role ++ chunks ++ last)

/-- All chunks of a stream. -/
def chunksOf : GeminiStreamState → List GenerateContentResponse → List ChatChunk
  | _, [] => []
  | state, event :: rest =>
    let (after, chunks) := state.parseEvent event
    chunks ++ chunksOf after rest

end GeminiStreamState

end Routectl.Gemini
