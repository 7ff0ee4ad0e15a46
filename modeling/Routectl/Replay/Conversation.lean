import Routectl.Library.Turns
import Routectl.Replay.Egress

/-! What a Responses request says, item by item, whichever way its JSON holds it, and what is
read back out of a request that was told again. -/
namespace Routectl.Replay
open Library Schema
open Routectl.ResponsesApi (toolCallOf)

inductive ConversationItem where
  | message (role : String) (texts : List String)
  | reasoning (id : String) (summary : List ReasoningSummaryItem)
      (content : List ReasoningContentItem) (encryptedContent : String)
  | functionCall (callId name : String) (arguments : Json)
  | functionCallOutput (callId output : String)

section Reading
variable (read : String → Option Json)

def ReadsText (block : Json) (text : String) : Prop :=
  (typeOf block = "input_text" ∨ typeOf block = "output_text") ∧
    stringField block "text" = some text ∧ text ≠ ""

/-- A text, or at least one block of text, none of them empty. -/
def ReadsContent (content : Option Json) (texts : List String) : Prop :=
  (∃ text, content = some (.string text) ∧ text ≠ "" ∧ texts = [text]) ∨
    ∃ blocks, content = some (.array blocks) ∧ blocks ≠ [] ∧ List.Forall₂ ReadsText blocks texts

def ReadsSummary (entry : Json) : ReasoningSummaryItem → Prop
  | .summaryText text => typeOf entry = "summary_text" ∧ stringField entry "text" = some text

def ReadsReasoning (entry : Json) : ReasoningContentItem → Prop
  | .reasoningText text =>
    (typeOf entry = "reasoning_text" ∨ typeOf entry = "text") ∧
      stringField entry "text" = some text
  | .reasoningEncrypted encryptedContent =>
    typeOf entry = "reasoning_encrypted" ∧
      stringField entry "encrypted_content" = some encryptedContent

/-- An array of entries, or none at all. -/
def ReadsEntries {Entry : Type} (reads : Json → Entry → Prop) (value : Option Json)
    (entries : List Entry) : Prop :=
  ((value = none ∨ value = some .null) ∧ entries = []) ∨
    ∃ values, value = some (.array values) ∧ List.Forall₂ reads values entries

/-- The JSON of an item says so. -/
def Reads (item : Json) : ConversationItem → Prop
  | .message role texts =>
    itemKind item = .message ∧ (role = "user" ∨ role = "assistant") ∧
      stringField item "role" = some role ∧ ReadsContent (item.field "content") texts
  | .reasoning id summary content encryptedContent =>
    itemKind item = .reasoning ∧ stringField item "id" = some id ∧
      ReadsEntries ReadsSummary (item.field "summary") summary ∧
      ReadsEntries ReadsReasoning (item.field "content") content ∧
      stringField item "encrypted_content" = some encryptedContent ∧ encryptedContent ≠ ""
  | .functionCall callId name arguments =>
    itemKind item = .functionCall ∧ stringField item "call_id" = some callId ∧ callId ≠ "" ∧
      Verbatim callId ∧ stringField item "name" = some name ∧
      ∃ text, stringField item "arguments" = some text ∧ text ≠ "" ∧ read text = some arguments
  | .functionCallOutput callId output =>
    itemKind item = .functionCallOutput ∧ stringField item "call_id" = some callId ∧
      callId ≠ "" ∧ Verbatim callId ∧ item.field "output" = some (.string output)

/-- A request as the items it says and, beside them, those of a kind that is not modeled. -/
inductive Conversation : List Json → List ConversationItem → List Json → Prop
  | nil : Conversation [] [] []
  | modeled {item : Json} {said : ConversationItem} {items : List Json}
      {saids : List ConversationItem} {raws : List Json} (reads : Reads read item said)
      (rest : Conversation items saids raws) : Conversation (item :: items) (said :: saids) raws
  | unmodeled {item : Json} {items : List Json} {saids : List ConversationItem}
      {raws : List Json} (other : itemKind item = .other)
      (rest : Conversation items saids raws) : Conversation (item :: items) saids (item :: raws)

def ResponsesContentItem.text : ResponsesContentItem → Option String
  | .inputText text => some text
  | .outputText text => some text
  | .inputImage _ _ => none
  | .inputFile _ _ _ => none

/-- What an item of a request told again says, its arguments read as JSON. -/
def told : ResponseInputItem → Option ConversationItem
  | .message role content => (content.mapM ResponsesContentItem.text).map (.message role)
  | .reasoning id summary content encryptedContent =>
    id.map fun id => .reasoning id summary content encryptedContent
  | .functionCall callId name arguments => (read arguments).map (.functionCall callId name)
  | .functionCallOutput callId (.text output) => some (.functionCallOutput callId output)
  | .functionCallOutput _ (.items _) => none

def ResponseInput.modeled : ResponseInput → Option ResponseInputItem
  | .item said => some said
  | .passthrough _ => none

def ResponseInput.carried : ResponseInput → Option Json
  | .item _ => none
  | .passthrough raw => some raw

/-- The same items in the same order, and the unmodeled ones verbatim in theirs. -/
def Preserves (out : List ResponseInput) (saids : List ConversationItem) (raws : List Json) :
    Prop :=
  (out.filterMap ResponseInput.modeled).map (told read) = saids.map some ∧
    out.filterMap ResponseInput.carried = raws

end Reading

/-- An assistant's message heads a turn, its reasoning leads, its calls trail. -/
def place : ConversationItem → Place
  | .message role _ => if role = "assistant" then .head else .alone
  | .reasoning _ _ _ _ => .lead
  | .functionCall _ _ _ => .tail
  | .functionCallOutput _ _ => .alone

def ReasoningContentItem.isText : ReasoningContentItem → Bool
  | .reasoningText _ => true
  | .reasoningEncrypted _ => false

/-- Signatures among the contents of a reasoning item are its own, after all its texts. -/
def SealedLast : ConversationItem → Prop
  | .reasoning _ _ content encryptedContent =>
    ∀ entry ∈ content.dropWhile ReasoningContentItem.isText,
      entry = .reasoningEncrypted encryptedContent
  | _ => True

def reasoningIds (saids : List ConversationItem) : List String :=
  saids.filterMap fun said =>
    match said with
    | .reasoning id _ _ _ => some id
    | _ => none

section Merging

theorem mergeFrom_modeled (index : Nat) (items : List ResponseInputItem)
    (pending : List ResponsesPassthroughItem) :
    (mergeFrom index items pending).filterMap ResponseInput.modeled = items := by
  have passed : ∀ kept : List ResponsesPassthroughItem,
      (kept.map fun kept => ResponseInput.passthrough kept.item).filterMap
        ResponseInput.modeled = [] := by
    intro kept
    induction kept with
    | nil => rfl
    | cons first rest ih => exact ih
  induction items generalizing index pending with
  | nil => exact passed pending
  | cons item rest ih =>
    rw [mergeFrom, List.filterMap_append, passed, List.nil_append]
    exact congrArg (List.cons item) (ih (index + 1) _)

theorem mergeFrom_carried (index : Nat) (items : List ResponseInputItem)
    (pending : List ResponsesPassthroughItem) :
    (mergeFrom index items pending).filterMap ResponseInput.carried =
      pending.map fun kept => kept.item := by
  have passed : ∀ kept : List ResponsesPassthroughItem,
      (kept.map fun kept => ResponseInput.passthrough kept.item).filterMap
        ResponseInput.carried = kept.map fun kept => kept.item := by
    intro kept
    induction kept with
    | nil => rfl
    | cons first rest ih => exact congrArg _ ih
  induction items generalizing index pending with
  | nil => exact passed pending
  | cons item rest ih =>
    rw [mergeFrom, List.filterMap_append, passed, List.filterMap_cons_none rfl, ih,
      ← List.map_append, List.takeWhile_append_dropWhile]

end Merging

section Parsing
variable {read : String → Option Json}

theorem forall₂_filterMap {Value Entry Part : Type} {reads : Value → Entry → Prop}
    (parse : Value → Option Part) (part : Entry → Part)
    (parses : ∀ value entry, reads value entry → parse value = some (part entry))
    {values : List Value} {entries : List Entry} (all : List.Forall₂ reads values entries) :
    values.filterMap parse = entries.map part := by
  induction all with
  | nil => rfl
  | cons one _ ih => rw [List.filterMap_cons_some (parses _ _ one), ih, List.map_cons]

def summaryDetail (id : String) : ReasoningSummaryItem → ReasoningDetail
  | .summaryText text => reasoningDetail .summary (some id) "text" text

def contentDetail (id : String) : ReasoningContentItem → ReasoningDetail
  | .reasoningText text => reasoningDetail .text (some id) "text" text
  | .reasoningEncrypted encryptedContent =>
    reasoningDetail .encrypted (some id) "encrypted_content" encryptedContent

/-- The details that the reading of a reasoning item makes of it. -/
def detailsOf : ConversationItem → List ReasoningDetail
  | .reasoning id summary content encryptedContent =>
    summary.map (summaryDetail id) ++
      (content ++ [ReasoningContentItem.reasoningEncrypted encryptedContent]).map
        (contentDetail id)
  | _ => []

theorem readsEntries_array {Entry : Type} {reads : Json → Entry → Prop} {item : Json}
    {name : String} {entries : List Entry} (all : ReadsEntries reads (item.field name) entries) :
    List.Forall₂ reads ((arrayField item name).getD []) entries := by
  unfold arrayField
  rcases all with ⟨absent | null, rfl⟩ | ⟨values, found, reads⟩
  · rw [absent]
    exact .nil
  · rw [null]
    exact .nil
  · rw [found]
    exact reads

theorem summary_parses {id : String} {value : Json} {entry : ReasoningSummaryItem}
    (reads : ReadsSummary value entry) :
    (stringField value "text").map (reasoningDetail .summary (some id) "text") =
      some (summaryDetail id entry) := by
  obtain ⟨text⟩ := entry
  obtain ⟨_, found⟩ := reads
  rw [found]
  rfl

theorem content_parses {id : String} {value : Json} {entry : ReasoningContentItem}
    (reads : ReadsReasoning value entry) :
    reasoningContentDetail (some id) value = some (contentDetail id entry) := by
  unfold reasoningContentDetail
  dsimp only
  cases entry with
  | reasoningText text =>
    obtain ⟨kind, found⟩ := reads
    rw [if_pos kind, found]
    rfl
  | reasoningEncrypted encryptedContent =>
    obtain ⟨kind, found⟩ := reads
    rw [kind, if_neg (by decide), if_pos rfl, found]
    rfl

theorem reasoningDetailsOf_reads {item : Json} {id encryptedContent : String}
    {summary : List ReasoningSummaryItem} {content : List ReasoningContentItem}
    (reads : Reads read item (.reasoning id summary content encryptedContent)) :
    reasoningDetailsOf item = detailsOf (.reasoning id summary content encryptedContent) := by
  obtain ⟨_, named, summaries, contents, signed, nonempty⟩ := reads
  have summarized := forall₂_filterMap _ (summaryDetail id)
    (fun _ _ reads => summary_parses reads) (readsEntries_array summaries)
  have contained := forall₂_filterMap _ (contentDetail id)
    (fun _ _ reads => content_parses reads) (readsEntries_array contents)
  unfold reasoningDetailsOf
  dsimp only
  rw [named, summarized, contained, signed]
  simp [detailsOf, contentDetail, Option.filter, nonempty]

end Parsing
end Routectl.Replay
