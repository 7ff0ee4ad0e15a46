import Routectl.ResponsesApi.Stream
import Routectl.Schema.Collected

/-! The streams a whole body may come as: each item added, its texts cut into deltas, and
done, any number of items at a time; and which items the reader has room for. -/
namespace Routectl.ResponsesApi
open Library Schema

section Items

def ResponsesOutputContent.said : ResponsesOutputContent → Option String
  | .outputText text => some text
  | _ => none

def ReasoningSummary.said : ReasoningSummary → Option String
  | .summaryText text => some text
  | .other => none

def ReasoningContent.said : ReasoningContent → Option String
  | .reasoningText heard | .text heard => some heard
  | _ => none

def ReasoningContent.plain : ReasoningContent → Bool
  | .reasoningText _ => true
  | _ => false

namespace ResponseOutputItem

def text : ResponseOutputItem → String
  | .message content => String.join (content.filterMap ResponsesOutputContent.said)
  | _ => ""

def summaryText : ResponseOutputItem → String
  | .reasoning _ summary _ _ => String.join (summary.filterMap ReasoningSummary.said)
  | _ => ""

def reasoningText : ResponseOutputItem → String
  | .reasoning _ _ content _ => String.join (content.filterMap ReasoningContent.said)
  | _ => ""

def signature : ResponseOutputItem → Option String
  | .reasoning _ _ _ encryptedContent => nonempty encryptedContent
  | _ => none

def reasoningId : ResponseOutputItem → Option String
  | .reasoning id _ _ _ => some id
  | _ => none

def call : ResponseOutputItem → Option ToolCall
  | .functionCall callId name arguments => some ⟨callId, name, arguments⟩
  | _ => none

/-- A message of texts, a reasoning item of texts under an id of its own, or a call. -/
def plain : ResponseOutputItem → Prop
  | .message content => ∀ block ∈ content, block.said.isSome
  | .reasoning id summary content _ =>
    id ≠ "" ∧ (∀ part ∈ summary, part.said.isSome) ∧ ∀ part ∈ content, part.plain = true
  | .functionCall _ _ _ => True
  | .other _ => False

/-- An item that no delta and no signature tells of. -/
def silent (item : ResponseOutputItem) : Prop :=
  item.text = "" ∧ item.summaryText = "" ∧ item.reasoningText = "" ∧ item.signature = none

end ResponseOutputItem
end Items

section Kinds

def itemAdded : String := "response.output_item.added"
def itemDone : String := "response.output_item.done"
def outputTextDelta : String := "response.output_text.delta"
def summaryTextDelta : String := "response.reasoning_summary_text.delta"
def reasoningTextDelta : String := "response.reasoning_text.delta"
def argumentsDelta : String := "response.function_call_arguments.delta"

/-- The kinds that change nothing, those not known among them. -/
def idle (kind : String) : Prop :=
  kind ≠ "response.created" ∧ kind ≠ itemAdded ∧ kind ≠ itemDone ∧ kind ≠ outputTextDelta ∧
    kind ≠ summaryTextDelta ∧ kind ≠ reasoningTextDelta ∧ kind ≠ argumentsDelta ∧
    kind ≠ "response.completed" ∧ kind ≠ "response.incomplete" ∧ kind ≠ "response.failed" ∧
    kind ≠ "response.cancelled"

instance (kind : String) : Decidable (idle kind) := inferInstanceAs (Decidable (_ ∧ _))

end Kinds

section Writing

def strField (name : String) (json : Json) : Option String := (json.field name).bind Json.asStr

/-- The JSON of an item as far as a stream reads it before it is done. -/
def Names (item : ResponseOutputItem) (json : Json) : Prop :=
  match item with
  | .message _ => strField "type" json = some "message"
  | .reasoning id _ _ _ => strField "type" json = some "reasoning" ∧ strField "id" json = some id
  | .functionCall callId name _ =>
    strField "type" json = some "function_call" ∧ strField "call_id" json = some callId ∧
      strField "name" json = some name
  | .other _ => False

/-- The item is added; its signature may already be known. -/
def Starts (item : ResponseOutputItem) (event : ResponsesStreamEvent) : Prop :=
  event.kind = itemAdded ∧ ∃ json, event.item = some json ∧ Names item json ∧
    (nonempty (strField "encrypted_content" json) = none ∨
      nonempty (strField "encrypted_content" json) = item.signature)

def Speaks (item : ResponseOutputItem) (event : ResponsesStreamEvent) : Prop :=
  event.delta.isSome ∧
    match item with
    | .message _ => event.kind = outputTextDelta
    | .reasoning _ _ _ _ => event.kind = summaryTextDelta ∨ event.kind = reasoningTextDelta
    | .functionCall _ _ _ => event.kind = argumentsDelta
    | .other _ => False

/-- The item is done, in its final shape. -/
def Ends (item : ResponseOutputItem) (event : ResponsesStreamEvent) : Prop :=
  event.kind = itemDone ∧ ∃ json, event.item = some json ∧ Names item json ∧
    (item.reasoningId.isSome → nonempty (strField "encrypted_content" json) = item.signature)

/-- What the deltas of one kind say together. -/
def spelled (kind : String) (events : List ResponsesStreamEvent) : String :=
  String.join ((events.filter fun event => event.kind = kind).filterMap (·.delta))

/-- The events of one item. -/
structure Written (item : ResponseOutputItem) (events : List ResponsesStreamEvent) : Prop where
  bracketed : ∃ first deltas last, events = first :: (deltas ++ [last]) ∧ Starts item first ∧
    (∀ delta ∈ deltas, Speaks item delta) ∧ Ends item last
  text : spelled outputTextDelta events = item.text
  summary : spelled summaryTextDelta events = item.summaryText
  reasoning : spelled reasoningTextDelta events = item.reasoningText
  arguments : ∀ callId name arguments, item = .functionCall callId name arguments →
    spelled argumentsDelta events = arguments

/-- The events an index has among others. -/
def eventsAt (index : Nat) (events : List ResponsesStreamEvent) : List ResponsesStreamEvent :=
  events.filter fun event => ¬ idle event.kind ∧ event.outputIndex = some index

/-- A body of messages, reasoning and calls; an index is held in 32 bits. -/
structure Plain (body : ResponsesResponse) : Prop where
  items : ∀ item ∈ body.output, item.plain
  distinct : (body.output.filterMap ResponseOutputItem.reasoningId).Nodup
  small : body.output.length ≤ 2 ^ 32

/-- The events of the items of an output, any number of items at a time. -/
structure Interleaves (output : List ResponseOutputItem) (middle : List ResponsesStreamEvent) :
    Prop where
  indexed : ∀ event ∈ middle, ¬ idle event.kind → ∃ index, index < output.length ∧
    event.outputIndex = some index
  written : ∀ index item, output[index]? = some item → Written item (eventsAt index middle)

/-- These events are the body as a stream. -/
structure Serializes (decode : Json → Option ResponsesResponse) (body : ResponsesResponse)
    (created : ResponsesStreamEvent) (middle : List ResponsesStreamEvent)
    (terminal : ResponsesStreamEvent) : Prop where
  plain : Plain body
  opens : created.kind = "response.created"
  closes : terminal.kind = "response.completed" ∨ terminal.kind = "response.incomplete"
  carries : terminal.response.bind decode = some body
  interleaves : Interleaves body.output middle

end Writing

section Room

/-- The items that are open, and those that were ever taken, as they were added. -/
structure Held where
  live : List Nat := []
  taken : List Nat := []

/-- An item added while the cap is reached is not taken. -/
def Held.hear (held : Held) (event : ResponsesStreamEvent) : Held :=
  match event.outputIndex with
  | none => held
  | some index =>
    if event.kind = itemAdded then
      if maxOutputBlocks ≤ held.live.length then held
      else ⟨held.live ++ [index], held.taken ++ [index]⟩
    else if event.kind = itemDone then { held with live := held.live.erase index }
    else held

def heldAfter (events : List ResponsesStreamEvent) : Held := events.foldl Held.hear {}

/-- The items a reader takes of a stream, in the order they are added. -/
def takenOf (events : List ResponsesStreamEvent) : List Nat := (heldAfter events).taken

/-- The call of an index has a delta of its arguments. -/
def argued (events : List ResponsesStreamEvent) (index : Nat) : Bool :=
  events.any fun event => event.kind = argumentsDelta && event.outputIndex = some index

end Room
end Routectl.ResponsesApi
