import Routectl.ResponsesApi.Types

/-! The items of a Responses request as canonical messages: calls and reasoning fold into the
assistant message they follow, kinds that are not modeled are carried beside. -/
namespace Routectl.Replay
open Library Schema
open Routectl.ResponsesApi (toolCallOf)

/-- The canonical parts that this ingress builds. -/
inductive ContentPart where
  | text (text : String)
  | imageUrl (imageUrl : Json)
  | other (typeTag : String) (extras : List (String × Json))

inductive MessageContent where
  | text (text : String)
  | parts (parts : List ContentPart)
  | null

structure Message where
  role : Role
  content : MessageContent
  reasoningDetails : List ReasoningDetail := []
  toolCallId : Option String := none
  toolCalls : Option (List Json) := none

/-- An item kept verbatim, after how many modeled items it came. -/
structure ResponsesPassthroughItem where
  modeledPrefix : Nat
  item : Json

structure ParsedInput where
  messages : List Message := []
  passthrough : List ResponsesPassthroughItem := []
  additionalTools : List Json := []

def stringField (value : Json) (name : String) : Option String :=
  (value.field name).bind Json.asStr

def arrayField (value : Json) (name : String) : Option (List Json) :=
  match value.field name with
  | some (.array items) => some items
  | _ => none

def typeOf (value : Json) : String := (stringField value "type").getD ""

def parseRole (role : Option String) : Role :=
  match role with
  | some role =>
    if role = "assistant" then .assistant
    else if role = "system" ∨ role = "developer" then .system
    else .user
  | none => .user

def otherPartFromBlock (kind : String) (block : Json) : ContentPart :=
  let extras :=
    match block with
    | .object fields => fields.filter fun field => field.1 ≠ "type"
    | _ => []
  .other (if kind = "" then "unknown" else kind) extras

def parseContentBlock (block : Json) : Option ContentPart :=
  let kind := typeOf block
  if kind = "input_text" ∨ kind = "output_text" then
    some (.text ((stringField block "text").getD ""))
  else if kind = "input_image" then
    (stringField block "image_url").map fun url =>
      .imageUrl (.object (("url", .string url) ::
        ((stringField block "detail").map fun detail => ("detail", Json.string detail)).toList))
  else some (otherPartFromBlock kind block)

def collapseParts : List ContentPart → MessageContent
  | [] => .null
  | [.text text] => .text text
  | parts => .parts parts

def parseContentBlocks (blocks : List Json) : MessageContent :=
  collapseParts (blocks.filterMap parseContentBlock)

/-- A string, blocks, nothing, or any other value as the text it prints to. -/
def parseMessageContent (content : Option Json) : MessageContent :=
  match content with
  | none => .null
  | some .null => .null
  | some (.string text) => .text text
  | some (.array blocks) => parseContentBlocks blocks
  | some other => .text (String.ofList other.compact)

def pushMessageItem (messages : List Message) (item : Json) : List Message :=
  messages ++ [{
    role := parseRole (stringField item "role")
    content := parseMessageContent (item.field "content") }]

/-- A change of the assistant message that ends the conversation, or of a fresh one. -/
def onTrailingAssistant (messages : List Message) (change : Message → Message) : List Message :=
  match messages.getLast? with
  | some last =>
    if last.role = .assistant then messages.dropLast ++ [change last]
    else messages ++ [change { role := .assistant, content := .null }]
  | none => [change { role := .assistant, content := .null }]

def attachFunctionCall (messages : List Message) (item : Json) : List Message :=
  let callId := (((item.field "call_id").or (item.field "id")).bind Json.asStr).getD ""
  let name := (stringField item "name").getD ""
  let arguments := (stringField item "arguments").getD ""
  onTrailingAssistant messages fun last =>
    { last with toolCalls := some (last.toolCalls.getD [] ++ [toolCallOf callId name arguments]) }

def functionCallOutputMessage (item : Json) : Message :=
  let callId := (stringField item "call_id").getD ""
  { role := .tool
    content := parseMessageContent (item.field "output")
    toolCallId := if callId = "" then none else some callId }

def reasoningDetail (kind : ReasoningDetailKind) (id : Option String) (field text : String) :
    ReasoningDetail :=
  { kind, id, format := some openaiResponsesV1, index := none,
    payload := .object [(field, .string text)] }

def reasoningContentDetail (id : Option String) (entry : Json) : Option ReasoningDetail :=
  let kind := typeOf entry
  if kind = "reasoning_text" ∨ kind = "text" then
    (stringField entry "text").map (reasoningDetail .text id "text")
  else if kind = "reasoning_encrypted" then
    (stringField entry "encrypted_content").map (reasoningDetail .encrypted id "encrypted_content")
  else none

/-- The surfaces of a reasoning item, its own signature last. -/
def reasoningDetailsOf (item : Json) : List ReasoningDetail :=
  let id := stringField item "id"
  ((arrayField item "summary").getD []).filterMap (fun entry =>
      (stringField entry "text").map (reasoningDetail .summary id "text")) ++
    ((arrayField item "content").getD []).filterMap (reasoningContentDetail id) ++
    (((stringField item "encrypted_content").filter fun sealed => sealed ≠ "").map
      (reasoningDetail .encrypted id "encrypted_content")).toList

def attachReasoning (messages : List Message) (item : Json) : List Message :=
  let details := reasoningDetailsOf item
  if details.isEmpty then messages
  else
    onTrailingAssistant messages fun last =>
      { last with reasoningDetails := last.reasoningDetails ++ details }

inductive ItemKind where
  | message
  | functionCall
  | functionCallOutput
  | reasoning
  | other
deriving Repr, DecidableEq

/-- An object with a role and no kind is a message. -/
def itemKind (item : Json) : ItemKind :=
  let kind := typeOf item
  if kind = "message" then .message
  else if kind = "" ∧ (item.field "role").isSome then .message
  else if kind = "function_call" then .functionCall
  else if kind = "function_call_output" then .functionCallOutput
  else if kind = "reasoning" then .reasoning
  else .other

structure Parsing where
  parsed : ParsedInput := {}
  modeledPrefix : Nat := 0

/-- One more modeled item. -/
def Parsing.modeled (parsing : Parsing) (messages : List Message) : Parsing where
  parsed := { parsing.parsed with messages }
  modeledPrefix := parsing.modeledPrefix + 1

def parseItem (parsing : Parsing) (item : Json) : Parsing :=
  let messages := parsing.parsed.messages
  match itemKind item with
  | .message => parsing.modeled (pushMessageItem messages item)
  | .functionCall => parsing.modeled (attachFunctionCall messages item)
  | .functionCallOutput => parsing.modeled (messages ++ [functionCallOutputMessage item])
  | .reasoning => parsing.modeled (attachReasoning messages item)
  | .other =>
    { parsing with
      parsed := { parsing.parsed with
        passthrough := parsing.parsed.passthrough ++ [⟨parsing.modeledPrefix, item⟩]
        additionalTools := parsing.parsed.additionalTools ++
          if typeOf item = "additional_tools" then (arrayField item "tools").getD [] else [] } }

def buildMessagesFromItems (items : List Json) : ParsedInput :=
  (items.foldl parseItem {}).parsed

def buildMessages : Json → ParsedInput
  | .string text => { messages := [{ role := .user, content := .text text }] }
  | .array items => buildMessagesFromItems items
  | _ => {}

/-- The messages that stay when those of the system are lifted out. -/
def liftSystemMessages (messages : List Message) : List Message :=
  messages.filter fun message => message.role ≠ .system

end Routectl.Replay
