import Routectl.Replay.Ingress
import Routectl.Replay.ToolIds

/-! Canonical messages as the items of a Responses request: an assistant message is told as
its reasoning, its text and its calls, and what was carried beside goes back in. -/
namespace Routectl.Replay
open Library Schema
open Routectl.ResponsesApi (AuthKind)

structure NormalizeRequest where
  provider : String
  message : String
deriving Repr, DecidableEq

inductive ReplayScheme where
  | codex
  | mantle
  | gray
deriving Repr, DecidableEq

inductive Replayability where
  | carry
  | strip
  | gray
deriving Repr, DecidableEq

def schemeOf (format : Option String) : ReplayScheme :=
  match format with
  | some tag =>
    if tag = codexOauth ∨ tag = openaiApikey then .codex
    else if tag = bedrockMantle then .mantle
    else .gray
  | none => .gray

def laneScheme : AuthKind → ReplayScheme
  | .chatgptOauth => .codex
  | .apiKey => .codex
  | .bedrockMantle => .mantle

def isReplayable (detail lane : ReplayScheme) : Replayability :=
  if detail = .gray ∨ lane = .gray then .gray
  else if detail = lane then .carry
  else .strip

inductive ResponsesContentItem where
  | inputText (text : String)
  | outputText (text : String)
  | inputImage (imageUrl : String) (detail : Option String)
  | inputFile (fileData fileId filename : Option String)
deriving Repr, DecidableEq

inductive ReasoningSummaryItem where
  | summaryText (text : String)
deriving Repr, DecidableEq

inductive ReasoningContentItem where
  | reasoningText (text : String)
  | reasoningEncrypted (encryptedContent : String)
deriving Repr, DecidableEq

inductive FunctionCallOutputContentItem where
  | inputText (text : String)
  | inputImage (imageUrl : String) (detail : Option String)
deriving Repr, DecidableEq

inductive FunctionCallOutputBody where
  | text (text : String)
  | items (items : List FunctionCallOutputContentItem)
deriving Repr, DecidableEq

inductive ResponseInputItem where
  | message (role : String) (content : List ResponsesContentItem)
  | reasoning (id : Option String) (summary : List ReasoningSummaryItem)
      (content : List ReasoningContentItem) (encryptedContent : String)
  | functionCall (callId name arguments : String)
  | functionCallOutput (callId : String) (output : FunctionCallOutputBody)
deriving Repr, DecidableEq

inductive ResponseInput where
  | item (item : ResponseInputItem)
  | passthrough (item : Json)

structure ReasoningGroup where
  summary : List ReasoningSummaryItem := []
  content : List ReasoningContentItem := []
  encryptedContent : Option String := none

/-- The groups by the order their ids arrived in. -/
abbrev ReasoningGroups := List (Option String × ReasoningGroup)

def payloadString (detail : ReasoningDetail) (name : String) : Option String :=
  stringField detail.payload name

/-- A second signature of one id goes among the contents. -/
def ReasoningGroup.add (group : ReasoningGroup) (detail : ReasoningDetail) : ReasoningGroup :=
  match detail.kind with
  | .summary =>
    match payloadString detail "text" with
    | some text => { group with summary := group.summary ++ [.summaryText text] }
    | none => group
  | .text =>
    match payloadString detail "text" with
    | some text => { group with content := group.content ++ [.reasoningText text] }
    | none => group
  | .encrypted =>
    match payloadString detail "encrypted_content" with
    | some sealed =>
      match group.encryptedContent with
      | none => { group with encryptedContent := some sealed }
      | some _ => { group with content := group.content ++ [.reasoningEncrypted sealed] }
    | none => group
  | .other _ => group

def bucket (groups : ReasoningGroups) (detail : ReasoningDetail) : ReasoningGroups :=
  match groups with
  | [] => [(detail.id, ReasoningGroup.add {} detail)]
  | (key, group) :: rest =>
    if key = detail.id then (key, group.add detail) :: rest
    else (key, group) :: bucket rest detail

section Translating
variable (provider : String) (authKind : AuthKind) (read : String → Option Json)

/-- A detail of this dialect that the lane does not refuse outright. -/
def participates (detail : ReasoningDetail) : Bool :=
  isResponsesFamily detail.format &&
    isReplayable (schemeOf detail.format) (laneScheme authKind) ≠ .strip

/-- A group without a signature cannot be replayed. -/
def groupItem (key : Option String) (group : ReasoningGroup) : Option ResponseInputItem :=
  let encryptedContent := group.encryptedContent.getD ""
  if encryptedContent = "" then none
  else some (.reasoning key group.summary group.content encryptedContent)

def liftReasoningDetails (details : List ReasoningDetail) : List ResponseInputItem :=
  ((details.filter (participates authKind)).foldl bucket []).filterMap fun (key, group) =>
    groupItem key group

def replayableReasoning : ResponseInputItem → Bool
  | .reasoning _ _ _ encryptedContent => encryptedContent ≠ ""
  | _ => true

def parseArgumentsString (raw : String) : Json :=
  if raw = "" then .object []
  else (read raw).getD (.object [("_arguments", .string raw)])

structure NormalizedToolCall where
  id : String
  name : String
  arguments : Json

def normalizeOne (index : Nat) (call : Json) : NormalizedToolCall :=
  let rawId := (stringField call "id").getD ""
  let function := call.field "function"
  { id := if rawId = "" then "call_" ++ toString index else sanitizeToolId rawId
    name := (function.bind fun function => stringField function "name").getD ""
    arguments :=
      match function.bind (Json.field "arguments") with
      | some (.string raw) => parseArgumentsString read raw
      | some (.object fields) => .object fields
      | _ => .object [] }

def normalizeToolCalls (toolCalls : List Json) : List NormalizedToolCall :=
  toolCalls.zipIdx.map fun (call, index) => normalizeOne read index call

def functionCallsOf (message : Message) : List ResponseInputItem :=
  (normalizeToolCalls read (message.toolCalls.getD [])).map fun call =>
    .functionCall call.id call.name (String.ofList call.arguments.compact)

def outputText : ContentPart → Option ResponsesContentItem
  | .text text => if text = "" then none else some (.outputText text)
  | _ => none

def assistantContent : MessageContent → List ResponsesContentItem
  | .text text => if text = "" then [] else [.outputText text]
  | .null => []
  | .parts parts => parts.filterMap outputText

/-- The reasoning, the text, then the calls. -/
def translateAssistantMessage (message : Message) : List ResponseInputItem :=
  let content := assistantContent message.content
  (liftReasoningDetails authKind message.reasoningDetails).filter replayableReasoning ++
    (if content = [] then [] else [.message "assistant" content]) ++
    functionCallsOf read message

def imageUrlOf (imageUrl : Json) (noUrl : String) :
    Except NormalizeRequest (String × Option String) :=
  match (stringField imageUrl "url").filter fun url => url ≠ "" with
  | some url => .ok (url, stringField imageUrl "detail")
  | none => .error ⟨provider, noUrl⟩

def userPart : ContentPart → Except NormalizeRequest (List ResponsesContentItem)
  | .text text => .ok (if text = "" then [] else [.inputText text])
  | .imageUrl imageUrl => do
    let (url, detail) ← imageUrlOf provider imageUrl
      "image_url content part on a user message has no usable url: image_url.url is absent or empty"
    pure [.inputImage url detail]
  | .other _ _ => .ok []

def buildUserContent : MessageContent → Except NormalizeRequest (List ResponsesContentItem)
  | .text text => .ok (if text = "" then [] else [.inputText text])
  | .null => .ok []
  | .parts parts => do
    let items ← parts.mapM (userPart provider)
    pure items.flatten

def translateUserMessage (role : String) (message : Message) :
    Except NormalizeRequest (List ResponseInputItem) := do
  let content ← buildUserContent provider message.content
  pure (if content = [] then [] else [.message role content])

def ContentPart.isImage : ContentPart → Bool
  | .imageUrl _ => true
  | _ => false

/-- Texts joined by line ends, the others left out. -/
def joinTexts (parts : List ContentPart) : String :=
  parts.foldl (fun buffer part =>
    match part with
    | .text text => (if buffer = "" then buffer else buffer ++ "\n") ++ text
    | _ => buffer) ""

def toolOutputPart : ContentPart → Except NormalizeRequest (List FunctionCallOutputContentItem)
  | .text text => .ok [.inputText text]
  | .imageUrl imageUrl => do
    let (url, detail) ← imageUrlOf provider imageUrl
      "image_url content part in a tool result has no usable url: image_url.url is absent or empty"
    pure [.inputImage url detail]
  | .other _ _ => .ok []

def buildToolOutputBody (parts : List ContentPart) :
    Except NormalizeRequest FunctionCallOutputBody :=
  if parts.any ContentPart.isImage then do
    let items ← parts.mapM (toolOutputPart provider)
    pure (.items items.flatten)
  else .ok (.text (joinTexts parts))

def translateToolMessage (message : Message) : Except NormalizeRequest (List ResponseInputItem) :=
  match message.toolCallId.filter fun id => id ≠ "" with
  | none =>
    .error ⟨provider, "tool message has no usable tool_call_id: the field is absent or empty " ++
      "(Role::Tool requires a non-empty tool_call_id for the Responses API " ++
      "function_call_output item)"⟩
  | some rawCallId => do
    let output ← match message.content with
      | .text text => .ok (.text text)
      | .null => .ok (.text "")
      | .parts parts => buildToolOutputBody provider parts
    pure [.functionCallOutput (sanitizeToolId rawCallId) output]

def translateMessage (message : Message) : Except NormalizeRequest (List ResponseInputItem) :=
  match message.role with
  | .system => .ok []
  | .user => translateUserMessage provider "user" message
  | .assistant => .ok (translateAssistantMessage authKind read message)
  | .tool => translateToolMessage provider message
  | .other tag => translateUserMessage provider tag message

def buildInput (messages : List Message) : Except NormalizeRequest (List ResponseInputItem) := do
  let items ← messages.mapM (translateMessage provider authKind read)
  pure items.flatten

end Translating

/-- What was carried beside goes in after as many items as it came after, or at the end. -/
def mergeFrom (index : Nat) : List ResponseInputItem → List ResponsesPassthroughItem →
    List ResponseInput
  | [], pending => pending.map fun kept => .passthrough kept.item
  | item :: rest, pending =>
    (pending.takeWhile fun kept => kept.modeledPrefix ≤ index).map
        (fun kept => .passthrough kept.item) ++
      .item item ::
        mergeFrom (index + 1) rest (pending.dropWhile fun kept => kept.modeledPrefix ≤ index)

def mergePassthrough (modeled : List ResponseInputItem)
    (passthrough : List ResponsesPassthroughItem) : List ResponseInput :=
  mergeFrom 0 modeled passthrough

def buildInputWithPassthrough (provider : String) (authKind : AuthKind)
    (read : String → Option Json) (messages : List Message)
    (passthrough : List ResponsesPassthroughItem) :
    Except NormalizeRequest (List ResponseInput) := do
  let modeled ← buildInput provider authKind read messages
  pure (mergePassthrough modeled passthrough)

/-- A request read and told again in its own dialect. -/
def replay (provider : String) (authKind : AuthKind) (read : String → Option Json)
    (input : Json) : Except NormalizeRequest (List ResponseInput) :=
  let parsed := buildMessages input
  buildInputWithPassthrough provider authKind read (liftSystemMessages parsed.messages)
    parsed.passthrough

end Routectl.Replay
