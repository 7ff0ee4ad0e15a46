import Routectl.Responses.Stream

/-! One output item as the client receives it, from the event that adds it to the event
that is done with it; and a response of such items, one after another. -/
namespace Routectl.Responses
open Library Schema

inductive ReasoningDelta where
  | summary (summaryIndex : Nat) (delta : String)
  | text (contentIndex : Nat) (delta : String)
deriving Repr, DecidableEq

inductive StreamedItem where
  | message (deltas : List String)
  | reasoning (id : Option String) (deltas : List ReasoningDelta) (body : ReasoningItemBuilder)
  | functionCall (call : ToolCallBuffer)

def ReasoningDelta.payload (outputIndex : Nat) : ReasoningDelta → Payload
  | .summary summaryIndex delta => .reasoningSummaryTextDelta outputIndex summaryIndex delta
  | .text contentIndex delta => .reasoningTextDelta outputIndex contentIndex delta

def callItem (call : ToolCallBuffer) : OutputItem :=
  .functionCall call.id call.name call.arguments

namespace StreamedItem

def opening (outputIndex : Nat) : StreamedItem → List Payload
  | .message _ =>
    [.outputItemAdded outputIndex (.message "in_progress" []),
      .contentPartAdded outputIndex 0 (.outputText "")]
  | .reasoning id _ _ => [.outputItemAdded outputIndex (.reasoning id [] [] none)]
  | .functionCall call => [.outputItemAdded outputIndex (callItem call)]

def deltas (outputIndex : Nat) : StreamedItem → List Payload
  | .message deltas => deltas.map (.outputTextDelta outputIndex 0)
  | .reasoning _ deltas _ => deltas.map (ReasoningDelta.payload outputIndex)
  | .functionCall call =>
    if call.arguments = "" then [] else [.functionCallArgumentsDelta outputIndex call.arguments]

/-- The text that is done is the deltas of the item, put together. -/
def closing (outputIndex : Nat) : StreamedItem → List Payload
  | .message deltas =>
    let text := String.join deltas
    [.outputTextDone outputIndex 0 text, .contentPartDone outputIndex 0 (.outputText text),
      .outputItemDone outputIndex (.message "completed" [.outputText text])]
  | .reasoning id _ body => [.outputItemDone outputIndex (reasoningItem id body)]
  | .functionCall call =>
    [.functionCallArgumentsDone outputIndex call.arguments,
      .outputItemDone outputIndex (callItem call)]

def payloads (outputIndex : Nat) (item : StreamedItem) : List Payload :=
  item.opening outputIndex ++ item.deltas outputIndex ++ item.closing outputIndex

end StreamedItem

/-- Items one after another, each closed before the next is added, under consecutive
indices. -/
def bracketed (outputIndex : Nat) : List StreamedItem → List Payload
  | [] => []
  | item :: rest => item.payloads outputIndex ++ bracketed (outputIndex + 1) rest

theorem bracketed_append (outputIndex : Nat) (items more : List StreamedItem) :
    bracketed outputIndex (items ++ more) =
      bracketed outputIndex items ++ bracketed (outputIndex + items.length) more := by
  induction items generalizing outputIndex with
  | nil => simp [bracketed]
  | cons item rest ih =>
    simp only [List.cons_append, bracketed, ih, List.append_assoc, List.length_cons]
    congr 3
    omega

section Reporting

/-- What a detail has for a reasoning item to hold. -/
inductive ReasoningPart where
  | summary (text : String)
  | text (text : String)
  | encrypted (encryptedContent : String)
deriving Repr, DecidableEq

def reasoningPart (detail : ReasoningDetail) : Option ReasoningPart :=
  match detail.kind with
  | .summary => detail.text.map .summary
  | .text => detail.text.map .text
  | .encrypted => (encryptedContent detail).map .encrypted
  | .other _ => none

/-- The blob of an encrypted detail, under the name that either dialect has for it. -/
def encryptedBlob (detail : ReasoningDetail) : Option String :=
  (encryptedContent detail).or ((detail.payload.field "data").bind Json.asStr)

/-- What a detail brings, whether or not an item has it. -/
def carriedPart (detail : ReasoningDetail) : Option ReasoningPart :=
  match detail.kind with
  | .summary => detail.text.map .summary
  | .text => detail.text.map .text
  | .encrypted => (encryptedBlob detail).map .encrypted
  | .other _ => none

theorem carriedPart_read {detail : ReasoningDetail} {part : ReasoningPart}
    (read : reasoningPart detail = some part) : carriedPart detail = some part := by
  unfold reasoningPart at read
  unfold carriedPart
  cases kind : detail.kind with
  | summary => simpa only [kind] using read
  | text => simpa only [kind] using read
  | encrypted =>
    simp only [kind] at read
    obtain ⟨blob, held, rfl⟩ := Option.map_eq_some_iff.mp read
    simp only [encryptedBlob, held, Option.some_or, Option.map_some]
  | other tag =>
    simp only [kind] at read
    cases read

def ReasoningBlock.part : ReasoningBlock → ReasoningPart
  | .reasoningText text => .text text
  | .reasoningEncrypted encryptedContent => .encrypted encryptedContent

def ReasoningItemBuilder.parts (group : ReasoningItemBuilder) : List ReasoningPart :=
  group.summary.map ReasoningPart.summary ++ group.content.map ReasoningBlock.part ++
    group.encryptedContent.toList.map ReasoningPart.encrypted

/-- The parts of an output item that is a reasoning item, with its id. -/
def OutputItem.parts : OutputItem → List (Option String × ReasoningPart)
  | .reasoning id summary content encryptedContent =>
    (ReasoningItemBuilder.parts ⟨summary, content, encryptedContent⟩).map fun part => (id, part)
  | _ => []

/-- The item an event is done with. -/
def Payload.doneItem : Payload → Option OutputItem
  | .outputItemDone _ item => some item
  | _ => none

def OutputItem.call : OutputItem → Option ToolCallBuffer
  | .functionCall callId name arguments => some ⟨callId, name, arguments⟩
  | _ => none

/-- The response an event ends the stream with. -/
def Payload.terminal : Payload → Option ResponseBody
  | .completed response | .failed response => some response
  | _ => none

def StreamedItem.item : StreamedItem → OutputItem
  | .message deltas => .message "completed" [.outputText (String.join deltas)]
  | .reasoning id _ body => reasoningItem id body
  | .functionCall call => callItem call

theorem doneItem_payloads (outputIndex : Nat) (item : StreamedItem) :
    (item.payloads outputIndex).filterMap Payload.doneItem = [item.item] := by
  unfold StreamedItem.payloads
  rw [List.filterMap_append, List.filterMap_append]
  have opened : (item.opening outputIndex).filterMap Payload.doneItem = [] := by
    cases item <;> rfl
  have between : (item.deltas outputIndex).filterMap Payload.doneItem = [] := by
    cases item with
    | message deltas =>
      rw [List.filterMap_eq_nil_iff]
      intro payload member
      obtain ⟨delta, _, rfl⟩ := List.mem_map.mp member
      rfl
    | reasoning id deltas body =>
      rw [List.filterMap_eq_nil_iff]
      intro payload member
      obtain ⟨delta, _, rfl⟩ := List.mem_map.mp member
      cases delta <;> rfl
    | functionCall call =>
      dsimp only [StreamedItem.deltas]
      split <;> rfl
  have closed : (item.closing outputIndex).filterMap Payload.doneItem = [item.item] := by
    cases item <;> rfl
  rw [opened, between, closed, List.nil_append, List.nil_append]

/-- Every item of a response is done once. -/
theorem doneItem_bracketed (outputIndex : Nat) (items : List StreamedItem) :
    (bracketed outputIndex items).filterMap Payload.doneItem = items.map StreamedItem.item := by
  induction items generalizing outputIndex with
  | nil => rfl
  | cons item rest ih =>
    rw [bracketed, List.filterMap_append, doneItem_payloads, ih]
    rfl

theorem perm_to_end {Item : Type*} (front moved back : List Item) :
    (front ++ moved ++ back).Perm (front ++ back ++ moved) := by
  rw [List.append_assoc, List.append_assoc]
  exact List.perm_append_comm.append_left front

theorem accumulate_parts (group : ReasoningItemBuilder) (detail : ReasoningDetail) :
    (accumulateReasoningDetail group detail).parts.Perm
      (group.parts ++ (reasoningPart detail).toList) := by
  unfold accumulateReasoningDetail reasoningPart
  cases detail.kind with
  | summary =>
    cases detail.text with
    | none => simp [ReasoningItemBuilder.parts]
    | some text =>
      have moved := perm_to_end (group.summary.map ReasoningPart.summary)
        [ReasoningPart.summary text] (group.content.map ReasoningBlock.part ++
          group.encryptedContent.toList.map ReasoningPart.encrypted)
      simpa [ReasoningItemBuilder.parts] using moved
  | text =>
    cases detail.text with
    | none => simp [ReasoningItemBuilder.parts]
    | some text =>
      have moved := perm_to_end
        (group.summary.map ReasoningPart.summary ++ group.content.map ReasoningBlock.part)
        [ReasoningPart.text text] (group.encryptedContent.toList.map ReasoningPart.encrypted)
      simpa [ReasoningItemBuilder.parts, ReasoningBlock.part] using moved
  | encrypted =>
    cases encryptedContent detail with
    | none => simp
    | some signature =>
      dsimp only
      split
      case isTrue absent =>
        rw [Option.isNone_iff_eq_none] at absent
        simp [ReasoningItemBuilder.parts, absent]
      case isFalse =>
        have moved := perm_to_end
          (group.summary.map ReasoningPart.summary ++ group.content.map ReasoningBlock.part)
          [ReasoningPart.encrypted signature]
          (group.encryptedContent.toList.map ReasoningPart.encrypted)
        simpa [ReasoningItemBuilder.parts, ReasoningBlock.part] using moved
  | other tag => simp

/-- Details put together hold the part of each, in some order. -/
theorem accumulated_parts (details : List ReasoningDetail) (group : ReasoningItemBuilder) :
    (details.foldl accumulateReasoningDetail group).parts.Perm
      (group.parts ++ details.filterMap reasoningPart) := by
  induction details generalizing group with
  | nil => simp
  | cons detail rest ih =>
    have first := (accumulate_parts group detail).append_right (rest.filterMap reasoningPart)
    have parts : (detail :: rest).filterMap reasoningPart =
        (reasoningPart detail).toList ++ rest.filterMap reasoningPart := by
      cases part : reasoningPart detail <;> simp [part]
    rw [List.foldl_cons, parts, ← List.append_assoc]
    exact (ih (accumulateReasoningDetail group detail)).trans first

end Reporting
end Routectl.Responses
