import Routectl.Replay.Egress
import Routectl.Schema.Envelope
import Routectl.Trim.Request

/-! Canonical messages of every ingress as the items of a Responses request: calls from either
surface of an assistant's turn, results from a user's turn or a tool's. -/
namespace Routectl.ResponsesInput
open Library
open Routectl.Schema (ReasoningDetail isResponsesFamily unwrap)
open Routectl.ResponsesApi (AuthKind)
open Routectl.Trim (KnownContentPart ContentPart MessageContent Role)
open Routectl.Replay (NormalizeRequest ResponsesContentItem FunctionCallOutputContentItem
  FunctionCallOutputBody ResponseInputItem sanitizeToolId stringField)

structure Message where
  role : Role
  content : MessageContent
  reasoningDetails : List ReasoningDetail := []
  toolCallId : Option String := none
  toolCalls : Option (List Json) := none

section Carriers
variable (provider : String)

def filledField (object : Json) (name : String) : Option String :=
  (stringField object name).filter (· ≠ "")

/-- The url of an image source; a kind that is not known has none. -/
def imageSource (source : Json) (noData noUrl : String) :
    Except NormalizeRequest (Option String) :=
  match (stringField source "type").getD "" with
  | "base64" =>
    match filledField source "data" with
    | none => .error ⟨provider, noData⟩
    | some data =>
      let mediaType := (stringField source "media_type").getD "application/octet-stream"
      .ok (some ("data:" ++ mediaType ++ ";base64," ++ data))
  | "url" =>
    match filledField source "url" with
    | none => .error ⟨provider, noUrl⟩
    | some url => .ok (some url)
  | _ => .ok none

def translateImageSource (source : Json) :
    Except NormalizeRequest (List ResponsesContentItem) := do
  let url ← imageSource provider source
    ("image content part on a user message has empty base64 payload: " ++
      "source.data is absent or empty")
    "image content part on a user message has no usable url: source.url is absent or empty"
  pure (url.map (ResponsesContentItem.inputImage · none)).toList

def translateToolImageSource (source : Json) :
    Except NormalizeRequest (List FunctionCallOutputContentItem) := do
  let url ← imageSource provider source
    "image content part in a tool result has empty base64 payload: source.data is absent or empty"
    "image content part in a tool result has no usable url: source.url is absent or empty"
  pure (url.map (FunctionCallOutputContentItem.inputImage · none)).toList

def imageUrlOf (imageUrl : Json) (noUrl : String) :
    Except NormalizeRequest (String × Option String) :=
  match filledField imageUrl "url" with
  | none => .error ⟨provider, noUrl⟩
  | some url => .ok (url, stringField imageUrl "detail")

def translateFilePart (file : Json) : Except NormalizeRequest ResponsesContentItem :=
  let fileData := filledField file "file_data"
  let fileId := filledField file "file_id"
  if fileData = none ∧ fileId = none then
    .error ⟨provider, "file content part on a user message has no usable carrier: " ++
      "file.file_data and file.file_id are both absent or empty"⟩
  else .ok (.inputFile fileData fileId (filledField file "filename"))

end Carriers

section Users
variable (provider : String)

/-- Tool results are lifted elsewhere, the other parts have no place here. -/
def userPart : ContentPart → Except NormalizeRequest (List ResponsesContentItem)
  | .known (.text text _ _) => .ok (if text = "" then [] else [.inputText text])
  | .known (.image source _) => translateImageSource provider source
  | .known (.imageUrl imageUrl _) => do
    let (url, detail) ← imageUrlOf provider imageUrl
      ("image_url content part on a user message has no usable url: " ++
        "image_url.url is absent or empty")
    pure [.inputImage url detail]
  | .known (.file file _) => do
    let item ← translateFilePart provider file
    pure [item]
  | _ => .ok []

def buildUserContent : MessageContent → Except NormalizeRequest (List ResponsesContentItem)
  | .text text => .ok (if text = "" then [] else [.inputText text])
  | .null => .ok []
  | .parts parts => do
    let items ← parts.mapM (userPart provider)
    pure items.flatten

def textBlock (block : Json) : Option String :=
  if stringField block "type" = some "text" then stringField block "text" else none

def joinLine (buffer text : String) : String :=
  (if buffer = "" then buffer else buffer ++ "\n") ++ text

/-- A text, or the texts of an array of text blocks, or else the JSON. -/
def toolResultToOutputBody (content : Json) : FunctionCallOutputBody :=
  match content with
  | .string text => .text text
  | .array blocks =>
    if blocks.all fun block => (textBlock block).isSome then
      .text ((blocks.filterMap textBlock).foldl joinLine "")
    else .text (String.ofList content.compact)
  | _ => .text (String.ofList content.compact)

def toolResult : ContentPart → Except NormalizeRequest (List ResponseInputItem)
  | .known (.toolResult toolUseId content _ _) =>
    if toolUseId = "" then
      .error ⟨provider, "tool_result block has an empty tool_use_id (a ToolResult part " ++
        "requires a non-empty tool_use_id for the Responses API function_call_output item)"⟩
    else .ok [.functionCallOutput (sanitizeToolId toolUseId) (toolResultToOutputBody content)]
  | _ => .ok []

def extractToolResults : MessageContent → Except NormalizeRequest (List ResponseInputItem)
  | .parts parts => do
    let outputs ← parts.mapM (toolResult provider)
    pure outputs.flatten
  | _ => .ok []

/-- The results, then the content under the role. -/
def translateUserMessage (role : String) (message : Message) :
    Except NormalizeRequest (List ResponseInputItem) := do
  let outputs ← extractToolResults provider message.content
  let content ← buildUserContent provider message.content
  pure (outputs ++ if content = [] then [] else [.message role content])

end Users

section Assistants
variable (authKind : AuthKind) (read : String → Option Json)

/-- The signature as far as the lane does not refuse its scheme. -/
def replayableSignature (signature format : Option String) : Option String :=
  if isResponsesFamily format &&
      Replay.isReplayable (Replay.schemeOf format) (Replay.laneScheme authKind) ≠ .strip then
    signature.filter (· ≠ "")
  else none

def decodeRedactedThinking (data : String) : Option ResponseInputItem :=
  (unwrap data).bind fun (claimedScheme, claimedId, blob) =>
    (replayableSignature authKind (some blob) (some claimedScheme)).map fun encryptedContent =>
      .reasoning claimedId [] [] encryptedContent

def translateThinkingPart (thinking : String) (signature format : Option String) :
    Option ResponseInputItem :=
  (replayableSignature authKind signature format).map fun encryptedContent =>
    .reasoning none (if thinking = "" then [] else [.summaryText thinking]) [] encryptedContent

def thinkingPart : ContentPart → Option ResponseInputItem
  | .known (.thinking thinking signature) =>
    translateThinkingPart authKind thinking signature none
  | .known (.redactedThinking data) => decodeRedactedThinking authKind data
  | _ => none

def outputText : ContentPart → Option ResponsesContentItem
  | .known (.text text _ _) => if text = "" then none else some (.outputText text)
  | _ => none

def toolUse : ContentPart → Option ResponseInputItem
  | .known (.toolUse id name input _) =>
    some (.functionCall (sanitizeToolId id) name (String.ofList input.compact))
  | _ => none

def contentParts : MessageContent → List ContentPart
  | .parts parts => parts
  | _ => []

def assistantContent : MessageContent → List ResponsesContentItem
  | .text text => if text = "" then [] else [.outputText text]
  | .null => []
  | .parts parts => parts.filterMap outputText

/-- No calls from the field where the parts hold one. -/
def functionCallsFromToolCalls (message : Message) : List ResponseInputItem :=
  if (contentParts message.content).any fun part => (toolUse part).isSome then []
  else
    (Replay.normalizeToolCalls read (message.toolCalls.getD [])).map fun call =>
      .functionCall call.id call.name (String.ofList call.arguments.compact)

/-- The reasoning, the text, then the calls. -/
def translateAssistantMessage (message : Message) : List ResponseInputItem :=
  let lifted := Replay.liftReasoningDetails authKind message.reasoningDetails
  let reasoning :=
    lifted ++ if lifted = [] then
      (contentParts message.content).filterMap (thinkingPart authKind) else []
  let content := assistantContent message.content
  reasoning.filter Replay.replayableReasoning ++
    (if content = [] then [] else [.message "assistant" content]) ++
    ((contentParts message.content).filterMap toolUse ++ functionCallsFromToolCalls read message)

end Assistants

section Tools
variable (provider : String)

def isImage : ContentPart → Bool
  | .known (.image _ _) => true
  | .known (.imageUrl _ _) => true
  | _ => false

def partText : ContentPart → Option String
  | .known (.text text _ _) => some text
  | _ => none

def toolOutputPart : ContentPart → Except NormalizeRequest (List FunctionCallOutputContentItem)
  | .known (.text text _ _) => .ok [.inputText text]
  | .known (.image source _) => translateToolImageSource provider source
  | .known (.imageUrl imageUrl _) => do
    let (url, detail) ← imageUrlOf provider imageUrl
      "image_url content part in a tool result has no usable url: image_url.url is absent or empty"
    pure [.inputImage url detail]
  | _ => .ok []

def buildToolOutputBody (parts : List ContentPart) :
    Except NormalizeRequest FunctionCallOutputBody :=
  if parts.any isImage then do
    let items ← parts.mapM (toolOutputPart provider)
    pure (.items items.flatten)
  else .ok (.text ((parts.filterMap partText).foldl joinLine ""))

def toolOutput : MessageContent → Except NormalizeRequest FunctionCallOutputBody
  | .text text => .ok (.text text)
  | .null => .ok (.text "")
  | .parts parts => buildToolOutputBody provider parts

def translateToolMessage (message : Message) : Except NormalizeRequest (List ResponseInputItem) :=
  match message.toolCallId.filter (· ≠ "") with
  | none =>
    .error ⟨provider, "tool message has no usable tool_call_id: the field is absent or empty " ++
      "(Role::Tool requires a non-empty tool_call_id for the Responses API " ++
      "function_call_output item)"⟩
  | some rawCallId => do
    let output ← toolOutput provider message.content
    pure [.functionCallOutput (sanitizeToolId rawCallId) output]

end Tools

section Input
variable (provider : String) (authKind : AuthKind) (read : String → Option Json)

def translateMessage (message : Message) : Except NormalizeRequest (List ResponseInputItem) :=
  match message.role with
  | .system => .ok []
  | .user => translateUserMessage provider "user" message
  | .assistant => .ok (translateAssistantMessage authKind read message)
  | .tool => translateToolMessage provider message
  | .other tag => translateUserMessage provider tag message

def buildInput (messages : List Message) : Except NormalizeRequest (List ResponseInputItem) := do
  let items ← messages.mapM (translateMessage provider authKind read)
  pure items.flatten

end Input
end Routectl.ResponsesInput
