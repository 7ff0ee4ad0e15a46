import Routectl.ResponsesApi.Types
import Routectl.ResponsesApi.Serialization
import Routectl.Schema.Collected

/-! A streamed body put together against the same body read whole: what the two are held
to, and what the whole one says. -/
namespace Routectl.ResponsesApi
open Library Schema

section Reading

/-- The text of a detail of this kind and this id. -/
def reasoningPart (kind : ReasoningDetailKind) (id : String) (detail : ReasoningDetail) :
    Option String :=
  if detail.kind = kind ∧ detail.id = some id then detail.text else none

def signaturePart (id : String) (detail : ReasoningDetail) : Option String :=
  if detail.kind = .encrypted ∧ detail.id = some id then strField "encrypted_content" detail.payload
  else none

def reasoningFor (kind : ReasoningDetailKind) (id : String) (details : List ReasoningDetail) :
    String :=
  String.join (details.filterMap (reasoningPart kind id))

def signaturesFor (id : String) (details : List ReasoningDetail) : List String :=
  details.filterMap (signaturePart id)

/-- The calls of some fragments, in the order of their indices. -/
def orderedCalls (fragments : List Json) : List ToolCall :=
  ((List.range ((fragments.map toolCallIndex).foldr max 0 + 1)).filter fun index =>
    index ∈ fragments.map toolCallIndex).map (gathered fragments)

/-- What the events under an index gave. -/
def chunksAt (index : Nat) (told : List (ResponsesStreamEvent × List ChatChunk)) : List ChatChunk :=
  (told.filter fun event => event.1.outputIndex = some index).flatMap Prod.snd

/-- The text of each item, in the order of the items. -/
def textInOrder (items : Nat) (told : List (ResponsesStreamEvent × List ChatChunk)) : String :=
  String.join ((List.range items).map fun index => contents (chunksAt index told))

/-- The same counts. -/
def SameCounts (first : Option UsageDelta) (second : Option Usage) : Prop :=
  first.bind UsageDelta.promptTokens = second.map Usage.promptTokens ∧
    first.bind UsageDelta.completionTokens = second.map Usage.completionTokens ∧
    first.bind UsageDelta.totalTokens = second.map Usage.totalTokens ∧
    first.bind UsageDelta.reasoningTokens = second.bind Usage.reasoningTokens ∧
    first.bind UsageDelta.cacheReadInputTokens = second.bind Usage.cacheReadInputTokens

/-- The events of a stream, with the chunks of each, come to this choice and these counts. -/
structure Matches (items : Nat) (told : List (ResponsesStreamEvent × List ChatChunk))
    (choice : Choice) (usage : Option Usage) : Prop where
  text : textInOrder items told = choice.message.content.plainText
  reasoning : ∀ kind id, reasoningFor kind id (details (told.flatMap Prod.snd)) =
    reasoningFor kind id choice.message.reasoningDetails
  signatures : ∀ id, signaturesFor id (details (told.flatMap Prod.snd)) =
    signaturesFor id choice.message.reasoningDetails
  calls : orderedCalls (fragments (told.flatMap Prod.snd)) =
    (choice.message.toolCalls.getD []).map readCall
  finish : (finishes (told.flatMap Prod.snd)).getLast?.map Prod.fst = choice.finishReason
  counts : SameCounts (usages (told.flatMap Prod.snd)).getLast? usage

/-- The stream is read to its end and comes to the one choice of the answer. -/
def Agrees (uuid : Nat → String) (decode : Json → Option ResponsesResponse) (now : Nat)
    (authKind : AuthKind) (items : Nat) (events : List ResponsesStreamEvent)
    (answer : ChatResponse) : Prop :=
  ∃ final chunks choice,
    ({ authKind } : ResponsesStreamState).parseEvents uuid decode now events = .ok (final, chunks) ∧
      answer.choices = [choice] ∧ Matches items (events.zip chunks) choice answer.usage

end Reading

section Details
variable (authKind : AuthKind) (kind other : ReasoningDetailKind) (id own : String) (index : Nat)
variable (text : String)

@[simp] theorem reasoningPart_lane :
    reasoningPart kind id (laneDetail authKind other own index "text" text) =
      if other = kind ∧ own = id then some text else none := by
  have heard : (laneDetail authKind other own index "text" text).text = some text := rfl
  simp only [reasoningPart, heard]
  simp [laneDetail]

@[simp] theorem reasoningPart_signature :
    reasoningPart kind id (laneDetail authKind other own index "encrypted_content" text) = none := by
  have unheard : (laneDetail authKind other own index "encrypted_content" text).text = none := rfl
  simp [reasoningPart, unheard]

@[simp] theorem signaturePart_lane :
    signaturePart id (laneDetail authKind other own index "text" text) = none := by
  have unsigned : strField "encrypted_content"
      (laneDetail authKind other own index "text" text).payload = none := rfl
  simp [signaturePart, unsigned]

@[simp] theorem signaturePart_signature :
    signaturePart id (laneDetail authKind .encrypted own index "encrypted_content" text) =
      if own = id then some text else none := by
  have signed : strField "encrypted_content"
      (laneDetail authKind .encrypted own index "encrypted_content" text).payload = some text := rfl
  simp only [signaturePart, signed]
  simp [laneDetail]

end Details

section Items

namespace ResponseOutputItem

def texts : ResponseOutputItem → List String
  | .message content => content.filterMap ResponsesOutputContent.said
  | _ => []

/-- The texts an item has of a kind. -/
def thoughts (kind : ReasoningDetailKind) (item : ResponseOutputItem) : List String :=
  match kind, item with
  | .summary, .reasoning _ summary _ _ => summary.filterMap ReasoningSummary.said
  | .text, .reasoning _ _ content _ => content.filterMap ReasoningContent.said
  | _, _ => []

def thoughtsUnder (kind : ReasoningDetailKind) (id : String) (item : ResponseOutputItem) :
    List String :=
  if item.reasoningId = some id then item.thoughts kind else []

def signaturesUnder (id : String) (item : ResponseOutputItem) : List String :=
  if item.reasoningId = some id then item.signature.toList else []

def calls : ResponseOutputItem → List Json
  | .functionCall callId name arguments => [toolCallOf callId name arguments]
  | _ => []

end ResponseOutputItem
end Items

section Whole
variable {authKind : AuthKind} {uuid : Nat → String} {read : String → Option Json}
variable {kind : ReasoningDetailKind} {id : String} {before after last : Walked}

/-- What a walk over more of the output adds. -/
structure Adds (kind : ReasoningDetailKind) (id : String) (before after : Walked)
    (texts thoughts signatures : List String) (calls : List Json) (called : Bool) : Prop where
  said : after.textParts = before.textParts ++ texts
  held : after.parts.filterMap ContentPart.text = before.parts.filterMap ContentPart.text ++ texts
  thought : after.reasoningDetails.filterMap (reasoningPart kind id) =
    before.reasoningDetails.filterMap (reasoningPart kind id) ++ thoughts
  signed : after.reasoningDetails.filterMap (signaturePart id) =
    before.reasoningDetails.filterMap (signaturePart id) ++ signatures
  call : after.toolCalls = before.toolCalls ++ calls
  calling : after.hasFunctionCall = (before.hasFunctionCall || called)

theorem Adds.nothing (walked : Walked) : Adds kind id walked walked [] [] [] [] false := by
  constructor <;> simp

theorem Adds.trans {texts moreTexts thoughts moreThoughts signatures moreSignatures : List String}
    {calls moreCalls : List Json} {called moreCalled : Bool}
    (first : Adds kind id before after texts thoughts signatures calls called)
    (second : Adds kind id after last moreTexts moreThoughts moreSignatures moreCalls moreCalled) :
    Adds kind id before last (texts ++ moreTexts) (thoughts ++ moreThoughts)
      (signatures ++ moreSignatures) (calls ++ moreCalls) (called || moreCalled) where
  said := by rw [second.said, first.said, List.append_assoc]
  held := by rw [second.held, first.held, List.append_assoc]
  thought := by rw [second.thought, first.thought, List.append_assoc]
  signed := by rw [second.signed, first.signed, List.append_assoc]
  call := by rw [second.call, first.call, List.append_assoc]
  calling := by rw [second.calling, first.calling, Bool.or_assoc]

/-- A walk adds what its steps add. -/
theorem Adds.walk {Part : Type*} {step : Walked → Part → Walked}
    {texts thoughts signatures : Part → List String} {calls : Part → List Json}
    {called : Part → Bool} {parts : List Part}
    (each : ∀ part ∈ parts, ∀ walked, Adds kind id walked (step walked part) (texts part)
      (thoughts part) (signatures part) (calls part) (called part)) (walked : Walked) :
    Adds kind id walked (parts.foldl step walked) (parts.flatMap texts) (parts.flatMap thoughts)
      (parts.flatMap signatures) (parts.flatMap calls) (parts.any called) := by
  induction parts generalizing walked with
  | nil => exact .nothing walked
  | cons part rest ih =>
    have later := ih fun other member => each other (List.mem_cons_of_mem _ member)
    exact (each part (List.mem_cons_self ..) walked).trans (later (step walked part))

theorem flatMap_toList {Part Value : Type*} (said : Part → Option Value) (parts : List Part) :
    (parts.flatMap fun part => (said part).toList) = parts.filterMap said :=
  (List.filterMap_eq_flatMap_toList said parts).symm

theorem flatMap_nothing {Part Value : Type*} (parts : List Part) :
    (parts.flatMap fun _ => ([] : List Value)) = [] :=
  List.flatMap_eq_nil_iff.mpr fun _ _ => rfl

theorem any_nothing {Part : Type*} (parts : List Part) : (parts.any fun _ => false) = false :=
  List.any_eq_false.mpr fun _ _ => Bool.false_ne_true

/-- Parts that add a thought each, under the id of their item. -/
theorem Adds.thinking {Part : Type*} {step : Walked → Part → Walked} {said : Part → Option String}
    {parts : List Part} {under : Prop} [Decidable under]
    (each : ∀ part ∈ parts, ∀ walked, Adds kind id walked (step walked part) []
      (if under then (said part).toList else []) [] [] false) (walked : Walked) :
    Adds kind id walked (parts.foldl step walked) []
      (if under then parts.filterMap said else []) [] [] false := by
  have walk := Adds.walk each walked
  by_cases holds : under
  · simpa [holds, flatMap_toList, flatMap_nothing, any_nothing] using walk
  · simpa [holds, flatMap_nothing, any_nothing] using walk

theorem adds_content (content : ResponsesOutputContent) (walked : Walked) :
    Adds kind id walked (walked.content content) content.said.toList [] [] [] false := by
  cases content <;> constructor <;>
    simp [Walked.content, ResponsesOutputContent.said, ContentPart.text]

theorem adds_detail (own : String) (other : ReasoningDetailKind) (text : String)
    (walked : Walked) :
    Adds kind id walked (walked.detail authKind other own "text" text) []
      (if other = kind ∧ own = id then [text] else []) [] [] false := by
  constructor
  case thought =>
    simp only [Walked.detail, List.filterMap_append, List.filterMap_cons, List.filterMap_nil,
      reasoningPart_lane]
    split <;> simp_all
  all_goals simp [Walked.detail]

theorem adds_signature (own : String) (encryptedContent : Option String) (walked : Walked) :
    Adds kind id walked (walked.signature authKind own encryptedContent) [] []
      (if own = id then (nonempty encryptedContent).toList else []) [] false := by
  cases encryptedContent with
  | none =>
    have unsigned : (if own = id then (nonempty none).toList else []) = [] := ite_self _
    rw [unsigned]
    exact .nothing walked
  | some signature =>
    unfold Walked.signature
    by_cases empty : signature = ""
    · have unsigned : (if own = id then (nonempty (some signature)).toList else []) = [] := by
        simp [nonempty, empty]
      rw [unsigned]
      simp only [if_pos empty]
      exact .nothing walked
    · have given : nonempty (some signature) = some signature := by simp [nonempty, empty]
      simp only [if_neg empty, given]
      constructor
      case signed =>
        simp only [Walked.detail, List.filterMap_append, List.filterMap_cons, List.filterMap_nil,
          signaturePart_signature]
        split <;> simp_all
      all_goals simp [Walked.detail]

theorem adds_summary (own : String) (part : ReasoningSummary) (walked : Walked) :
    Adds kind id walked (walked.summary authKind own part) []
      (if .summary = kind ∧ own = id then part.said.toList else []) [] [] false := by
  cases part with
  | summaryText text => exact adds_detail own .summary text walked
  | other =>
    rw [show ReasoningSummary.other.said.toList = [] from rfl, ite_self]
    exact .nothing walked

theorem adds_reasoningContent (own : String) {part : ReasoningContent} (plain : part.plain = true)
    (walked : Walked) :
    Adds kind id walked (walked.reasoningContent authKind own part) []
      (if .text = kind ∧ own = id then part.said.toList else []) [] [] false := by
  cases part with
  | reasoningText text => exact adds_detail own .text text walked
  | _ => cases plain

/-- A plain item adds its texts, its thoughts and its signature, or its call. -/
theorem adds_item {item : ResponseOutputItem} (plain : item.plain) (walked : Walked) :
    Adds kind id walked (walked.item authKind uuid read item) item.texts
      (item.thoughtsUnder kind id) (item.signaturesUnder id) item.calls
      (ResponsesStreamState.isFunctionCall item) := by
  cases item with
  | message content =>
    have adds := Adds.walk (fun part (_ : part ∈ content) walked =>
      @adds_content kind id part walked) walked
    rw [flatMap_toList, flatMap_nothing, flatMap_nothing, any_nothing] at adds
    exact adds
  | reasoning own summary content encryptedContent =>
    obtain ⟨named, -, plain⟩ := plain
    have summarised := Adds.thinking (fun part (_ : part ∈ summary) walked =>
      @adds_summary authKind kind id own part walked) walked
    have told := Adds.thinking (fun part member walked =>
      @adds_reasoningContent authKind kind id own part (plain part member) walked)
        (summary.foldl (Walked.summary authKind own) walked)
    have adds := (summarised.trans told).trans (@adds_signature authKind kind id own
      encryptedContent _)
    have thoughts : (if .summary = kind ∧ own = id then summary.filterMap ReasoningSummary.said
          else []) ++
        (if .text = kind ∧ own = id then content.filterMap ReasoningContent.said else []) ++ [] =
          ResponseOutputItem.thoughtsUnder kind id
            (.reasoning own summary content encryptedContent) := by
      unfold ResponseOutputItem.thoughtsUnder
      by_cases same : own = id
      · cases kind <;> simp [same, ResponseOutputItem.reasoningId, ResponseOutputItem.thoughts]
      · simp [same, ResponseOutputItem.reasoningId]
    have item : walked.item authKind uuid read
          (.reasoning own summary content encryptedContent) =
        (content.foldl (Walked.reasoningContent authKind own)
          (summary.foldl (Walked.summary authKind own) walked)).signature authKind own
            encryptedContent := by
      simp only [Walked.item, if_neg named]
    have signatures : (if own = id then (nonempty encryptedContent).toList else []) =
        ResponseOutputItem.signaturesUnder id
          (.reasoning own summary content encryptedContent) := by
      simp [ResponseOutputItem.signaturesUnder, ResponseOutputItem.reasoningId,
        ResponseOutputItem.signature]
    rw [thoughts, signatures] at adds
    rw [item]
    exact adds
  | functionCall callId name arguments =>
    constructor <;>
      simp [Walked.item, ResponseOutputItem.texts, ResponseOutputItem.thoughtsUnder,
        ResponseOutputItem.signaturesUnder, ResponseOutputItem.reasoningId,
        ResponseOutputItem.calls, ResponsesStreamState.isFunctionCall, ContentPart.text]
  | other raw => cases plain

theorem plainText_select {texts : List String} {parts : List ContentPart}
    (same : parts.filterMap ContentPart.text = texts) :
    (selectMessageContent (String.join texts) parts).plainText = String.join texts := by
  unfold selectMessageContent
  split
  case isTrue => rfl
  case isFalse => rw [MessageContent.plainText, same]

/-- What a plain body read whole comes to. -/
theorem translate_reads {body : ResponsesResponse} (plain : ∀ item ∈ body.output, item.plain)
    (authKind : AuthKind) (uuid : Nat → String) (read : String → Option Json) (mintedId : String) :
    ∃ choice, (translate authKind uuid read mintedId body).choices = [choice] ∧
      choice.message.content.plainText =
        String.join (body.output.flatMap ResponseOutputItem.texts) ∧
      (∀ kind id, choice.message.reasoningDetails.filterMap (reasoningPart kind id) =
        body.output.flatMap (ResponseOutputItem.thoughtsUnder kind id)) ∧
      (∀ id, choice.message.reasoningDetails.filterMap (signaturePart id) =
        body.output.flatMap (ResponseOutputItem.signaturesUnder id)) ∧
      choice.message.toolCalls.getD [] = body.output.flatMap ResponseOutputItem.calls ∧
      choice.finishReason = mapFinishReason body.status
        (body.incompleteDetails.bind IncompleteDetails.reason)
        (body.output.any ResponsesStreamState.isFunctionCall) := by
  have walk (kind : ReasoningDetailKind) (id : String) := Adds.walk
    (fun item member walked => @adds_item authKind uuid read kind id item (plain item member) walked)
    {}
  have first := walk .summary ""
  refine ⟨_, rfl, ?_, fun kind id => (walk kind id).thought, fun id => (walk .summary id).signed,
    ?_, ?_⟩
  · have texts := first.said
    rw [List.nil_append] at texts
    rw [← texts]
    exact plainText_select (first.held.trans texts.symm)
  · have calls := first.call
    rw [List.nil_append] at calls
    rw [← calls]
    dsimp only
    split
    case isTrue empty => exact (List.isEmpty_iff.mp empty).symm
    case isFalse => rfl
  · have called := first.calling
    rw [Bool.false_or] at called
    rw [← called]
    rfl

end Whole
end Routectl.ResponsesApi
