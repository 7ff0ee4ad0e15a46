import Routectl.Library.Json

/-! The canonical chat request as far as a trim reads it. Fields that only the
serializer reads are held as the JSON they serialize to. -/
namespace Routectl.Trim
open Library

structure CacheControl where
  kind : String
  ttl : Option String

inductive KnownContentPart where
  | text (text : String) (citations : Option Json) (cacheControl : Option CacheControl)
  | image (source : Json) (cacheControl : Option CacheControl)
  | imageUrl (imageUrl : Json) (cacheControl : Option CacheControl)
  | file (file : Json) (cacheControl : Option CacheControl)
  | document (source : Json) (title : Option String) (citations : Option Json)
      (cacheControl : Option CacheControl)
  | toolUse (id name : String) (input : Json) (cacheControl : Option CacheControl)
  | toolResult (toolUseId : String) (content : Json) (isError : Option Bool)
      (cacheControl : Option CacheControl)
  | thinking (thinking : String) (signature : Option String)
  | redactedThinking (data : String)

/-- `other` keeps an unrecognized block verbatim. -/
inductive ContentPart where
  | known (part : KnownContentPart)
  | other (typeTag : String) (cacheControl : Option CacheControl) (extras : List (String × Json))

inductive MessageContent where
  | text (text : String)
  | parts (parts : List ContentPart)
  | null

inductive Role where
  | system
  | user
  | assistant
  | tool
  | other (tag : String)

structure Message where
  role : Role
  content : MessageContent
  reasoning : Option String := none
  reasoningDetails : List Json := []
  name : Option String := none
  toolCallId : Option String := none
  toolCalls : Option (List Json) := none
  refusal : Option String := none

/-- `settings` are the request's other fields in the order they serialize. -/
structure ChatRequest where
  model : String
  messages : List Message
  settings : List (String × Json) := []

/-- An optional field is left out when absent. -/
def optional (name : String) (value : Option Json) : List (String × Json) :=
  value.toList.map fun present => (name, present)

def CacheControl.toJson (control : CacheControl) : Json :=
  .object (("type", .string control.kind) :: optional "ttl" (control.ttl.map .string))

def cacheField (control : Option CacheControl) : List (String × Json) :=
  optional "cache_control" (control.map CacheControl.toJson)

def KnownContentPart.fields : KnownContentPart → List (String × Json)
  | .text body citations control =>
    [("type", .string "text"), ("text", .string body)] ++ optional "citations" citations ++
      cacheField control
  | .image source control => [("type", .string "image"), ("source", source)] ++ cacheField control
  | .imageUrl nested control =>
    [("type", .string "image_url"), ("image_url", nested)] ++ cacheField control
  | .file nested control => [("type", .string "file"), ("file", nested)] ++ cacheField control
  | .document source title citations control =>
    [("type", .string "document"), ("source", source)] ++ optional "title" (title.map .string) ++
      optional "citations" citations ++ cacheField control
  | .toolUse id name input control =>
    [("type", .string "tool_use"), ("id", .string id), ("name", .string name), ("input", input)] ++
      cacheField control
  | .toolResult toolUseId content isError control =>
    [("type", .string "tool_result"), ("tool_use_id", .string toolUseId), ("content", content)] ++
      optional "is_error" (isError.map .bool) ++ cacheField control
  | .thinking body signature =>
    [("type", .string "thinking"), ("thinking", .string body)] ++
      optional "signature" (signature.map .string)
  | .redactedThinking data => [("type", .string "redacted_thinking"), ("data", .string data)]

def ContentPart.toJson : ContentPart → Json
  | .known part => .object part.fields
  | .other typeTag control extras =>
    .object (("type", .string typeTag) :: cacheField control ++ extras)

def MessageContent.toJson : MessageContent → Json
  | .text body => .string body
  | .parts blocks => .array (blocks.map ContentPart.toJson)
  | .null => .null

def Role.asWireStr : Role → String
  | .system => "system"
  | .user => "user"
  | .assistant => "assistant"
  | .tool => "tool"
  | .other tag => tag

def Message.toJson (message : Message) : Json :=
  .object
    ([("role", .string message.role.asWireStr), ("content", message.content.toJson)] ++
      optional "reasoning" (message.reasoning.map .string) ++
      (if message.reasoningDetails.isEmpty then []
        else [("reasoning_details", .array message.reasoningDetails)]) ++
      optional "name" (message.name.map .string) ++
      optional "tool_call_id" (message.toolCallId.map .string) ++
      optional "tool_calls" (message.toolCalls.map .array) ++
      optional "refusal" (message.refusal.map .string))

def ChatRequest.toJson (request : ChatRequest) : Json :=
  .object
    ([("model", .string request.model)] ++
      ("messages", .array (request.messages.map Message.toJson)) :: request.settings)

/-- The same conversation some turns later. -/
def ChatRequest.append (request : ChatRequest) (appended : List Message) : ChatRequest :=
  { request with messages := request.messages ++ appended }

/-- The request cut back to its first messages. -/
def ChatRequest.restrict (request : ChatRequest) (count : Nat) : ChatRequest :=
  { request with messages := request.messages.take count }

@[simp] theorem ChatRequest.messages_append (request : ChatRequest) (appended : List Message) :
    (request.append appended).messages = request.messages ++ appended := rfl

/-- Appended turns never shorten the serialized request. -/
theorem ChatRequest.byteLength_append (request : ChatRequest) (appended : List Message) :
    request.toJson.byteLength ≤ (request.append appended).toJson.byteLength := by
  apply Json.byteLength_object_field
  · rw [messages_append, List.map_append]
    exact Json.byteLength_array_append _ _
  · exact List.cons_ne_nil _ _

end Routectl.Trim
