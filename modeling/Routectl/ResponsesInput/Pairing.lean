import Mathlib.Data.List.Pairwise
import Routectl.Library.Decimal
import Routectl.Library.Threading
import Routectl.ResponsesInput.Messages

/-! Which call an output of a Responses request answers: the ids of calls and results, raw and
as they are sent. -/
namespace Routectl.ResponsesInput
open Library
open Routectl.ResponsesApi (AuthKind)
open Routectl.Trim (KnownContentPart ContentPart MessageContent Role)
open Routectl.Replay (NormalizeRequest ResponseInputItem sanitizeToolId stringField
  FoldsToDigest)

/-- A call as its message holds it; `place` is its place in the field of calls. -/
structure Call where
  rawId : String
  place : Option Nat
  name : String
  arguments : String

def mintedId (place : Nat) : String := "call_" ++ toString place

/-- The id a call is sent under. -/
def Call.wireId (call : Call) : String :=
  match call.place with
  | some place => if call.rawId = "" then mintedId place else sanitizeToolId call.rawId
  | none => sanitizeToolId call.rawId

section Minted
variable {place : Nat} {id image : String}

theorem toList_mintedId (place : Nat) :
    (mintedId place).toList = "call_".toList ++ Nat.toDigits 10 place := by
  rw [mintedId, String.toList_append, Nat.toString_eq_repr, Nat.toList_repr]

theorem mintedId_injective {other : Nat} (same : mintedId place = mintedId other) :
    place = other := by
  have digits := congrArg String.toList same
  rw [toList_mintedId, toList_mintedId] at digits
  have printed := List.append_cancel_left digits
  apply Decimal.toString_injective
  rw [Nat.toString_eq_repr, Nat.toString_eq_repr]
  exact String.toList_inj.mp (by rw [Nat.toList_repr, Nat.toList_repr, printed])

theorem mintedId_ne_empty (place : Nat) : mintedId place ≠ "" := by
  intro same
  have digits := congrArg String.toList same
  rw [toList_mintedId] at digits
  cases digits

/-- An image is the id itself, or it starts as the escapes and the digests do. -/
theorem Image.itself_or_marked (sent : Replay.Image id image) :
    (image = id ∧ Replay.Verbatim id) ∨ image.toList.head? = some 'e' := by
  cases sent with
  | verbatim verbatim => exact Or.inl ⟨rfl, verbatim⟩
  | escaped short =>
    rw [String.toList_append]
    exact Or.inr rfl
  | digest body wire long =>
    rw [Replay.digestForm_toList]
    exact Or.inr rfl

theorem head_mintedId (place : Nat) : (mintedId place).toList.head? = some 'c' := by
  rw [toList_mintedId]
  rfl

theorem sanitizeToolId_eq_mintedId (same : sanitizeToolId id = mintedId place) :
    id = mintedId place ∧ Replay.Verbatim id := by
  rcases Image.itself_or_marked (Replay.sanitizeToolId_image id) with ⟨itself, verbatim⟩ | marked
  · exact ⟨itself.symm.trans same, verbatim⟩
  · rw [same, head_mintedId] at marked
    cases marked

theorem sanitizeToolId_eq_empty : sanitizeToolId id = "" ↔ id = "" := by
  constructor
  · intro same
    rcases Image.itself_or_marked (Replay.sanitizeToolId_image id) with ⟨itself, -⟩ | marked
    · exact itself.symm.trans same
    · rw [same] at marked
      cases marked
  · rintro rfl
    exact Replay.sanitizeToolId_verbatim ⟨by decide, by decide⟩

theorem wireText_digits {digits : List Char}
    (digit : ∀ character ∈ digits, character.isDigit = true) : Replay.WireText digits := by
  induction digits with
  | nil => exact ⟨[], rfl, rfl⟩
  | cons character rest ih =>
    obtain ⟨low, high⟩ := Decimal.isDigit_bounds (digit character (List.mem_cons_self ..))
    have same : Json.hexDigit (character.toNat - 48) = character := by
      rw [Json.hexDigit, if_pos (by omega), Nat.add_sub_cancel' low, Char.ofNat_toNat]
    have first : Replay.WireText [Json.hexDigit (character.toNat - 48)] :=
      Replay.wireText_hexDigit (by omega)
    rw [same] at first
    exact first.append (ih fun character member => digit character (List.mem_cons_of_mem _ member))

theorem isWireSafe_mintedId (place : Nat) : Replay.isWireSafe (mintedId place) = true := by
  have front : Replay.WireText "call_".toList := ⟨Replay.idBytes "call_", by decide, by decide⟩
  have wire : Replay.WireText (mintedId place).toList := by
    rw [toList_mintedId]
    exact front.append (wireText_digits (Decimal.canonical_toDigits place).digit)
  have allowed : (Replay.idBytes (mintedId place)).all Replay.isAllowedToolIdByte = true :=
    wire.all_allowed
  rw [Replay.isWireSafe, allowed, toList_mintedId]
  rfl

/-- A made-up id is sent as it is, one too long for the wire is folded. -/
theorem sanitizeToolId_mintedId (short : ¬ FoldsToDigest (mintedId place)) :
    sanitizeToolId (mintedId place) = mintedId place := by
  have safe := isWireSafe_mintedId place
  by_cases exceeds : Replay.maxToolIdLen < (Replay.idBytes (mintedId place)).length
  · refine absurd ⟨(mintedId place).toList, ?_⟩ short
    rw [sanitizeToolId, if_pos safe, if_pos exceeds]
  · exact Replay.sanitizeToolId_verbatim ⟨safe, Nat.not_lt.mp exceeds⟩

end Minted

section Surfaces
variable (read : String → Option Json)

def partCall : ContentPart → Option Call
  | .known (.toolUse id name input _) =>
    some { rawId := id, place := none, name, arguments := String.ofList input.compact }
  | _ => none

def entryCall (entry : Json) (place : Nat) : Call where
  rawId := (stringField entry "id").getD ""
  place := some place
  name := (Replay.normalizeOne read place entry).name
  arguments := String.ofList (Replay.normalizeOne read place entry).arguments.compact

def partCalls (message : Message) : List Call := (contentParts message.content).filterMap partCall

def fieldCalls (message : Message) : List Call :=
  (message.toolCalls.getD []).zipIdx.map fun (entry, place) => entryCall read entry place

def callsOf (message : Message) : List Call :=
  match message.role with
  | .assistant => partCalls message ++ fieldCalls read message
  | _ => []

def partResult : ContentPart → Option String
  | .known (.toolResult toolUseId _ _ _) => some toolUseId
  | _ => none

/-- The raw ids that a message answers. -/
def resultsOf (message : Message) : List String :=
  match message.role with
  | .user => (contentParts message.content).filterMap partResult
  | .other _ => (contentParts message.content).filterMap partResult
  | .tool => [message.toolCallId.getD ""]
  | _ => []

end Surfaces

section WireIds
variable {call : Call} {place : Nat}

theorem Call.wireId_minted (empty : call.rawId = "") (stands : call.place = some place) :
    call.wireId = mintedId place := by
  rw [Call.wireId, stands]
  exact if_pos empty

theorem Call.wireId_named (named : call.rawId ≠ "") :
    call.wireId = sanitizeToolId call.rawId := by
  unfold Call.wireId
  split
  · exact if_neg named
  · rfl

theorem Call.wireId_part (part : call.place = none) :
    call.wireId = sanitizeToolId call.rawId := by
  rw [Call.wireId, part]

/-- A call is without an id on the wire where it stands in a part without one. -/
theorem Call.wireId_eq_empty : call.wireId = "" ↔ call.rawId = "" ∧ call.place = none := by
  by_cases named : call.rawId = ""
  · cases stands : call.place with
    | none => simp [Call.wireId_part stands, sanitizeToolId_eq_empty]
    | some place => simp [Call.wireId_minted named stands, mintedId_ne_empty]
  · simp [Call.wireId_named named, sanitizeToolId_eq_empty, named]

end WireIds

def callOf : ResponseInputItem → Option (String × String × String)
  | .functionCall callId name arguments => some (callId, name, arguments)
  | _ => none

def outputOf : ResponseInputItem → Option String
  | .functionCallOutput callId _ => some callId
  | _ => none

section Turns
variable {provider : String} {authKind : AuthKind} {read : String → Option Json}
variable {message : Message} {items : List ResponseInputItem}

/-- An item that is neither a call nor an output. -/
def Silent (item : ResponseInputItem) : Prop := callOf item = none ∧ outputOf item = none

theorem filterMap_silent {Told : Type} {pick : ResponseInputItem → Option Told}
    (silent : ∀ item ∈ items, pick item = none) : items.filterMap pick = [] :=
  List.filterMap_eq_nil_iff.mpr silent

theorem silent_reasoning (message : Message) :
    let lifted := Replay.liftReasoningDetails authKind message.reasoningDetails
    ∀ item ∈ (lifted ++ if lifted = [] then
      (contentParts message.content).filterMap (thinkingPart authKind) else []).filter
        Replay.replayableReasoning, Silent item := by
  intro lifted item member
  rcases List.mem_append.mp (List.mem_filter.mp member).1 with first | second
  · obtain ⟨⟨key, group⟩, -, made⟩ := List.mem_filterMap.mp first
    dsimp only [Replay.groupItem] at made
    split at made
    · cases made
    · cases made
      exact ⟨rfl, rfl⟩
  · split at second
    · obtain ⟨part, -, made⟩ := List.mem_filterMap.mp second
      unfold thinkingPart at made
      split at made
      · obtain ⟨_, -, rfl⟩ := Option.map_eq_some_iff.mp made
        exact ⟨rfl, rfl⟩
      · obtain ⟨_, -, made⟩ := Option.bind_eq_some_iff.mp made
        obtain ⟨_, -, rfl⟩ := Option.map_eq_some_iff.mp made
        exact ⟨rfl, rfl⟩
      · cases made
    · cases second

/-- The triple a call is sent as. -/
def Call.sent (call : Call) : String × String × String := (call.wireId, call.name, call.arguments)

theorem toolUse_partCall (part : ContentPart) :
    (toolUse part).bind callOf = (partCall part).map Call.sent := by
  cases part with
  | other => rfl
  | known part => cases part <;> rfl

theorem outputOf_toolUse (part : ContentPart) : (toolUse part).bind outputOf = none := by
  cases part with
  | other => rfl
  | known part => cases part <;> rfl

theorem any_toolUse (parts : List ContentPart) :
    (parts.any fun part => (toolUse part).isSome) = false ↔ parts.filterMap partCall = [] := by
  have each (part : ContentPart) : (toolUse part).isSome = (partCall part).isSome := by
    cases part with
    | other => rfl
    | known part => cases part <;> rfl
  rw [List.any_eq_false, List.filterMap_eq_nil_iff]
  simp only [each, Bool.not_eq_true, Option.isSome_eq_false_iff, Option.isNone_iff_eq_none]

/-- The calls of an assistant's turn stand on one of its two surfaces. -/
def OneSurface (message : Message) : Prop :=
  partCalls message = [] ∨ message.toolCalls.getD [] = []

theorem functionCallsFromToolCalls_sent (one : OneSurface message) :
    (functionCallsFromToolCalls read message).filterMap callOf =
      (fieldCalls read message).map Call.sent := by
  have whole : ((Replay.normalizeToolCalls read (message.toolCalls.getD [])).map fun call =>
      ResponseInputItem.functionCall call.id call.name
        (String.ofList call.arguments.compact)).filterMap callOf =
          (fieldCalls read message).map Call.sent := by
    rw [Replay.normalizeToolCalls, List.map_map, List.filterMap_map, fieldCalls, List.map_map,
      ← List.filterMap_eq_map]
    rfl
  unfold functionCallsFromToolCalls
  split
  · rename_i held
    rcases one with empty | missing
    · have none_ := (any_toolUse _).mpr empty
      rw [held] at none_
      cases none_
    · rw [fieldCalls, missing]
      rfl
  · exact whole

theorem translateAssistantMessage_sent (one : OneSurface message) :
    (translateAssistantMessage authKind read message).filterMap callOf =
        (partCalls message ++ fieldCalls read message).map Call.sent ∧
      (translateAssistantMessage authKind read message).filterMap outputOf = [] := by
  have silent := @silent_reasoning authKind message
  have content : ∀ item ∈ (if assistantContent message.content = [] then []
      else [ResponseInputItem.message "assistant" (assistantContent message.content)]),
        Silent item := by
    intro item member
    split at member
    · cases member
    · rw [List.mem_singleton.mp member]
      exact ⟨rfl, rfl⟩
  have uses : ((contentParts message.content).filterMap toolUse).filterMap callOf =
      (partCalls message).map Call.sent := by
    rw [List.filterMap_filterMap, partCalls, List.map_filterMap]
    exact congrArg (List.filterMap · _) (funext toolUse_partCall)
  have unanswered : ((contentParts message.content).filterMap toolUse).filterMap outputOf =
      [] := by
    rw [List.filterMap_filterMap]
    exact List.filterMap_eq_nil_iff.mpr fun part _ => outputOf_toolUse part
  have quiet : (functionCallsFromToolCalls read message).filterMap outputOf = [] := by
    unfold functionCallsFromToolCalls
    split
    · rfl
    · refine filterMap_silent fun item member => ?_
      obtain ⟨call, -, rfl⟩ := List.mem_map.mp member
      rfl
  unfold translateAssistantMessage
  constructor
  · simp only [List.filterMap_append]
    rw [filterMap_silent fun item member => (silent item member).1,
      filterMap_silent fun item member => (content item member).1, uses,
      functionCallsFromToolCalls_sent one, List.map_append]
    rfl
  · simp only [List.filterMap_append]
    rw [filterMap_silent fun item member => (silent item member).2,
      filterMap_silent fun item member => (content item member).2, unanswered, quiet]
    rfl

/-- What one message sends of calls and outputs, each in its order. -/
structure Sent (calls : List Call) (results : List String) (items : List ResponseInputItem) :
    Prop where
  calls : items.filterMap callOf = calls.map Call.sent
  outputs : items.filterMap outputOf = results.map sanitizeToolId
  named : ∀ rawId ∈ results, rawId ≠ ""

theorem toolResult_sent {part : ContentPart} (made : toolResult provider part = .ok items) :
    Sent [] (partResult part).toList items := by
  cases part with
  | other =>
    cases made
    exact ⟨rfl, rfl, by simp [partResult]⟩
  | known part =>
    cases part with
    | toolResult toolUseId content isError control =>
      rw [toolResult] at made
      split at made
      case isTrue => cases made
      case isFalse named =>
        cases made
        refine ⟨rfl, rfl, ?_⟩
        intro rawId member
        rw [partResult, Option.toList_some, List.mem_singleton] at member
        rwa [member]
    | _ =>
      cases made
      exact ⟨rfl, rfl, by simp [partResult]⟩

theorem flatMap_toList {Source Target : Type} (pick : Source → Option Target)
    (sources : List Source) :
    (sources.flatMap fun source => (pick source).toList) = sources.filterMap pick := by
  induction sources with
  | nil => rfl
  | cons source rest ih =>
    rw [List.flatMap_cons, ih]
    cases picked : pick source with
    | none => rw [List.filterMap_cons_none picked]; rfl
    | some _ => rw [List.filterMap_cons_some picked]; rfl

theorem bind_ok {Made Next : Type} {first : Except NormalizeRequest Made}
    {next : Made → Except NormalizeRequest Next} {result : Next}
    (done : (first >>= next) = .ok result) : ∃ made, first = .ok made ∧ next made = .ok result := by
  cases first with
  | error failure => cases done
  | ok made => exact ⟨made, rfl, done⟩

theorem extractToolResults_sent {content : MessageContent}
    (made : extractToolResults provider content = .ok items) :
    Sent [] ((contentParts content).filterMap partResult) items := by
  cases content with
  | text text =>
    cases made
    exact ⟨rfl, rfl, nofun⟩
  | null =>
    cases made
    exact ⟨rfl, rfl, nofun⟩
  | parts parts =>
    obtain ⟨outputs, walked, done⟩ := bind_ok made
    cases done
    constructor
    · rw [mapM_filterMap (fun part _ made done => (toolResult_sent done).calls) walked]
      exact List.flatMap_eq_nil_iff.mpr fun _ _ => rfl
    · rw [mapM_filterMap (fun part _ made done => (toolResult_sent done).outputs) walked,
        ← List.map_flatMap, flatMap_toList]
      rfl
    · intro rawId member
      obtain ⟨part, inside, held⟩ := List.mem_filterMap.mp member
      obtain ⟨made, done⟩ := mapM_visited walked inside
      exact (toolResult_sent done).named rawId (by rw [held]; exact List.mem_singleton_self _)

theorem translateUserMessage_sent {role : String}
    (made : translateUserMessage provider role message = .ok items) :
    Sent [] ((contentParts message.content).filterMap partResult) items := by
  obtain ⟨outputs, extracted, made⟩ := bind_ok made
  obtain ⟨content, -, done⟩ := bind_ok made
  cases done
  have sent := extractToolResults_sent extracted
  have silent : ∀ item ∈ (if content = [] then []
      else [ResponseInputItem.message role content]), Silent item := by
    intro item member
    split at member
    · cases member
    · rw [List.mem_singleton.mp member]
      exact ⟨rfl, rfl⟩
  constructor
  · rw [List.filterMap_append, sent.calls,
      filterMap_silent fun item member => (silent item member).1]
    rfl
  · rw [List.filterMap_append, sent.outputs,
      filterMap_silent fun item member => (silent item member).2, List.append_nil]
  · exact sent.named

theorem translateToolMessage_sent (made : translateToolMessage provider message = .ok items) :
    Sent [] [message.toolCallId.getD ""] items := by
  unfold translateToolMessage at made
  split at made
  · cases made
  · rename_i rawCallId held
    obtain ⟨output, -, done⟩ := bind_ok made
    cases done
    obtain ⟨there, filled⟩ := Option.filter_eq_some_iff.mp held
    rw [there, Option.getD_some]
    refine ⟨rfl, rfl, ?_⟩
    intro rawId member
    rw [List.mem_singleton.mp member]
    simpa using filled

/-- One message of a conversation whose assistants keep to one surface. -/
theorem translateMessage_sent
    (one : message.role = .assistant → OneSurface message)
    (made : translateMessage provider authKind read message = .ok items) :
    Sent (callsOf read message) (resultsOf message) items := by
  obtain ⟨role, content, reasoningDetails, toolCallId, toolCalls⟩ := message
  cases role with
  | system =>
    cases made
    exact ⟨rfl, rfl, nofun⟩
  | user => exact translateUserMessage_sent made
  | assistant =>
    cases made
    obtain ⟨calls, outputs⟩ := translateAssistantMessage_sent (one rfl)
    exact ⟨calls, outputs, nofun⟩
  | tool => exact translateToolMessage_sent made
  | other tag => exact translateUserMessage_sent made

theorem buildInput_sent {messages : List Message}
    (one : ∀ message ∈ messages, message.role = .assistant → OneSurface message)
    (made : buildInput provider authKind read messages = .ok items) :
    Sent (messages.flatMap (callsOf read)) (messages.flatMap resultsOf) items := by
  obtain ⟨results, walked, done⟩ := bind_ok made
  cases done
  constructor
  · rw [mapM_filterMap (fun message member made done =>
      (translateMessage_sent (one message member) done).calls) walked, List.map_flatMap]
  · rw [mapM_filterMap (fun message member made done =>
      (translateMessage_sent (one message member) done).outputs) walked, List.map_flatMap]
  · intro rawId member
    obtain ⟨message, inside, named⟩ := List.mem_flatMap.mp member
    obtain ⟨made, done⟩ := mapM_visited walked inside
    exact (translateMessage_sent (one message inside) done).named rawId named

end Turns

section Pairing
variable {provider : String} {authKind : AuthKind} {read : String → Option Json}
variable {messages : List Message} {items : List ResponseInputItem}

/-- What the caller keeps to: one surface a turn, raw call ids told apart and short. -/
structure Kept (read : String → Option Json) (messages : List Message) : Prop where
  oneSurface : ∀ message ∈ messages, message.role = .assistant → OneSurface message
  distinct : (((messages.flatMap (callsOf read)).map Call.rawId).filter (· ≠ "")).Nodup
  short : ∀ call ∈ messages.flatMap (callsOf read), ¬ FoldsToDigest call.rawId

/-- One function call a call and one output a result, in order, and the ids pair them as the raw
ids do. -/
structure Paired (read : String → Option Json) (messages : List Message)
    (items : List ResponseInputItem) : Prop where
  calls : (items.filterMap callOf).map Prod.snd =
    (messages.flatMap (callsOf read)).map fun call : Call => (call.name, call.arguments)
  outputs : items.filterMap outputOf = (messages.flatMap resultsOf).map sanitizeToolId
  nonempty : ∀ sent ∈ items.filterMap callOf, sent.1 ≠ ""
  distinct : ((items.filterMap callOf).map Prod.fst).Nodup
  pairing : ∀ (place there : Nat) (sent : String × String × String) (call : Call)
      (output rawId : String),
    (items.filterMap callOf)[place]? = some sent →
    (messages.flatMap (callsOf read))[place]? = some call →
    (items.filterMap outputOf)[there]? = some output →
    (messages.flatMap resultsOf)[there]? = some rawId →
    (output = sent.1 ↔ rawId = call.rawId)

/-- No call in a part is without an id, and an id made up for a call in the field is no other
call's and no result's. -/
structure MintsApart (read : String → Option Json) (messages : List Message) : Prop where
  parts : ∀ call ∈ messages.flatMap (callsOf read), call.rawId = "" → call.place ≠ none
  places : (((messages.flatMap (callsOf read)).filter fun call => call.rawId = "").map
    Call.place).Nodup
  calls : ∀ call ∈ messages.flatMap (callsOf read), call.rawId = "" →
    ∀ place, call.place = some place →
      ∀ other ∈ messages.flatMap (callsOf read), other.rawId ≠ mintedId place
  results : ∀ call ∈ messages.flatMap (callsOf read), call.rawId = "" →
    ∀ place, call.place = some place →
      ∀ rawId ∈ messages.flatMap resultsOf, rawId = mintedId place → FoldsToDigest rawId

/-- The pairing as the raw calls and results have it. -/
structure WiresApart (calls : List Call) (results : List String) : Prop where
  nonempty : ∀ call ∈ calls, call.wireId ≠ ""
  distinct : (calls.map Call.wireId).Nodup
  pairing : ∀ call ∈ calls, ∀ rawId ∈ results,
    (sanitizeToolId rawId = call.wireId ↔ rawId = call.rawId)

theorem paired_iff_wiresApart
    (sent : Sent (messages.flatMap (callsOf read)) (messages.flatMap resultsOf) items) :
    Paired read messages items ↔
      WiresApart (messages.flatMap (callsOf read)) (messages.flatMap resultsOf) := by
  constructor
  · rintro ⟨-, -, nonempty, distinct, pairing⟩
    simp only [sent.calls, sent.outputs, List.getElem?_map] at nonempty distinct pairing
    constructor
    · intro call member
      exact nonempty call.sent (List.mem_map_of_mem member)
    · rwa [List.map_map] at distinct
    · intro call member rawId answered
      obtain ⟨place, stands⟩ := List.mem_iff_getElem?.mp member
      obtain ⟨there, given⟩ := List.mem_iff_getElem?.mp answered
      exact pairing place there call.sent call (sanitizeToolId rawId) rawId
        (congrArg (Option.map Call.sent) stands) stands
        (congrArg (Option.map sanitizeToolId) given) given
  · rintro ⟨nonempty, distinct, pairing⟩
    constructor
    · rw [sent.calls, List.map_map]
      rfl
    · exact sent.outputs
    · rw [sent.calls]
      exact List.forall_mem_map.mpr nonempty
    · rw [sent.calls, List.map_map]
      exact distinct
    · intro place there told call output rawId standing stands shown given
      rw [sent.calls, List.getElem?_map, stands] at standing
      rw [sent.outputs, List.getElem?_map, given] at shown
      cases standing
      cases shown
      exact pairing call (List.mem_of_getElem? stands) rawId (List.mem_of_getElem? given)

theorem eq_of_short {first second : String} (short : ¬ FoldsToDigest first)
    (same : sanitizeToolId second = sanitizeToolId first) : second = first := by
  have sent := Replay.sanitizeToolId_image first
  rw [← same] at sent
  rcases sent.shared (Replay.sanitizeToolId_image second) with equal | ⟨⟨body, folded⟩, -⟩
  · exact equal.symm
  · exact absurd ⟨body, same.symm.trans folded⟩ short

theorem minted_or_named (parts : ∀ call ∈ messages.flatMap (callsOf read), call.rawId = "" →
      call.place ≠ none) {call : Call} (member : call ∈ messages.flatMap (callsOf read)) :
    (∃ place, call.rawId = "" ∧ call.place = some place ∧ call.wireId = mintedId place) ∨
      (call.rawId ≠ "" ∧ call.wireId = sanitizeToolId call.rawId) := by
  by_cases named : call.rawId = ""
  · obtain ⟨place, stands⟩ := Option.ne_none_iff_exists'.mp (parts call member named)
    exact Or.inl ⟨place, named, stands, Call.wireId_minted named stands⟩
  · exact Or.inr ⟨named, Call.wireId_named named⟩

theorem MintsApart.wiresApart (kept : Kept read messages)
    (named : ∀ rawId ∈ messages.flatMap resultsOf, rawId ≠ "")
    (apart : MintsApart read messages) :
    WiresApart (messages.flatMap (callsOf read)) (messages.flatMap resultsOf) := by
  have namedApart := kept.distinct
  have mintedApart := apart.places
  rw [List.Nodup, List.pairwise_filter, List.pairwise_map] at namedApart
  rw [List.Nodup, List.pairwise_map, List.pairwise_filter] at mintedApart
  constructor
  · intro call member silent
    obtain ⟨empty, part⟩ := Call.wireId_eq_empty.mp silent
    exact apart.parts call member empty part
  · rw [List.Nodup, List.pairwise_map]
    refine List.Pairwise.imp_of_mem ?_ (namedApart.and mintedApart)
    rintro call other member also ⟨names, places⟩ same
    rcases minted_or_named apart.parts member with
      ⟨place, empty, stands, wire⟩ | ⟨filled, wire⟩
    · rcases minted_or_named apart.parts also with
        ⟨there, missing, standing, sent⟩ | ⟨_, sent⟩
      · rw [wire, sent] at same
        apply places (by simpa using empty) (by simpa using missing)
        rw [stands, standing, mintedId_injective same]
      · rw [wire, sent] at same
        exact apart.calls call member empty place stands other also
          (sanitizeToolId_eq_mintedId same.symm).1
    · rcases minted_or_named apart.parts also with
        ⟨there, missing, standing, sent⟩ | ⟨given, sent⟩
      · rw [wire, sent] at same
        exact apart.calls other also missing there standing call member
          (sanitizeToolId_eq_mintedId same).1
      · rw [wire, sent] at same
        exact names (by simpa using filled) (by simpa using given)
          (eq_of_short (kept.short other also) same)
  · intro call member rawId answered
    rcases minted_or_named apart.parts member with
      ⟨place, empty, stands, wire⟩ | ⟨filled, wire⟩
    · rw [wire, empty]
      refine iff_of_false ?_ (named rawId answered)
      intro same
      obtain ⟨itself, verbatim⟩ := sanitizeToolId_eq_mintedId same
      exact verbatim.unfolded
        (apart.results call member empty place stands rawId answered itself)
    · rw [wire]
      exact ⟨eq_of_short (kept.short call member), congrArg sanitizeToolId⟩

theorem WiresApart.mintsApart (kept : Kept read messages)
    (named : ∀ rawId ∈ messages.flatMap resultsOf, rawId ≠ "")
    (apart : WiresApart (messages.flatMap (callsOf read)) (messages.flatMap resultsOf)) :
    MintsApart read messages := by
  have distinct := apart.distinct
  rw [List.Nodup, List.pairwise_map] at distinct
  have different (first second : Call) (one : first ∈ messages.flatMap (callsOf read))
      (other : second ∈ messages.flatMap (callsOf read)) (raws : first.rawId ≠ second.rawId) :
      first.wireId ≠ second.wireId := by
    have symmetric : Std.Symm fun first second : Call => first.wireId ≠ second.wireId :=
      ⟨fun _ _ apart => apart.symm⟩
    exact distinct.forall one other (fun same => raws (congrArg Call.rawId same))
  constructor
  · intro call member empty part
    exact apart.nonempty call member (Call.wireId_eq_empty.mpr ⟨empty, part⟩)
  · rw [List.Nodup, List.pairwise_map, List.pairwise_filter]
    refine List.Pairwise.imp_of_mem ?_ distinct
    intro call other member also wires empty missing same
    simp only [decide_eq_true_eq] at empty missing
    cases stands : call.place with
    | none => exact apart.nonempty call member (Call.wireId_eq_empty.mpr ⟨empty, stands⟩)
    | some place =>
      apply wires
      rw [Call.wireId_minted empty stands, Call.wireId_minted missing (same ▸ stands)]
  · intro call member empty place stands other also minted
    have raws : call.rawId ≠ other.rawId := by
      rw [empty, minted]
      exact (mintedId_ne_empty place).symm
    apply different call other member also raws
    have filled : other.rawId ≠ "" := by
      rw [minted]
      exact mintedId_ne_empty place
    have short := kept.short other also
    rw [minted] at short
    rw [Call.wireId_minted empty stands, Call.wireId_named filled, minted,
      sanitizeToolId_mintedId short]
  · intro call member empty place stands rawId answered minted
    by_contra short
    have wire : sanitizeToolId rawId = call.wireId := by
      rw [minted] at short ⊢
      rw [Call.wireId_minted empty stands, sanitizeToolId_mintedId short]
    have same := (apart.pairing call member rawId answered).mp wire
    exact named rawId answered (same.trans empty)

/-- A request that is built keeps the pairing just where the made-up ids are apart. -/
theorem buildInput_paired (kept : Kept read messages)
    (made : buildInput provider authKind read messages = .ok items) :
    Paired read messages items ↔ MintsApart read messages := by
  have sent := buildInput_sent kept.oneSurface made
  rw [paired_iff_wiresApart sent]
  exact ⟨fun wires => wires.mintsApart kept sent.named,
    fun mints => mints.wiresApart kept sent.named⟩

end Pairing

section Collision

/-- An assistant's turn with one call in its field. -/
def fieldTurn (id : String) : Message where
  role := .assistant
  content := .null
  toolCalls := some [.object [("id", .string id)]]

def toolTurn (id : String) : Message where
  role := .tool
  content := .null
  toolCallId := some id

/-- A call without an id in one turn, the call `id` and its result in the next two. -/
def twoTurns (id : String) : List Message := [fieldTurn "", fieldTurn id, toolTurn id]

variable {id : String}

theorem callsOf_twoTurns (id : String) : (twoTurns id).flatMap (callsOf fun _ => none) =
    [⟨"", some 0, "", "{}"⟩, ⟨id, some 0, "", "{}"⟩] := rfl

theorem resultsOf_twoTurns (id : String) : (twoTurns id).flatMap resultsOf = [id] := rfl

theorem kept_twoTurns (verbatim : Replay.Verbatim id) (named : id ≠ "") :
    Kept (fun _ => none) (twoTurns id) := by
  constructor
  · intro message member _
    simp only [twoTurns, List.mem_cons, List.not_mem_nil, or_false] at member
    rcases member with rfl | rfl | rfl
    all_goals exact Or.inl rfl
  · rw [callsOf_twoTurns]
    simp [named]
  · rw [callsOf_twoTurns]
    intro call member
    simp only [List.mem_cons, List.not_mem_nil, or_false] at member
    rcases member with rfl | rfl
    · exact Replay.Verbatim.unfolded ⟨by decide, by decide⟩
    · exact verbatim.unfolded

/-- The made-up id of the first turn is the id of the call in the second, and the result in the
third answers both. -/
theorem minted_id_meets_a_given_one :
    ¬ ∀ (messages : List Message) (items : List ResponseInputItem),
      Kept (fun _ => none) messages →
      ((messages.flatMap (callsOf fun _ => none)).map Call.rawId).Nodup →
      (∀ call ∈ messages.flatMap (callsOf fun _ => none), call.place = none → call.rawId ≠ "") →
      buildInput "openai" .apiKey (fun _ => none) messages = .ok items →
        Paired (fun _ => none) messages items := by
  intro claimed
  have paired := claimed (twoTurns "call_0") _
    (kept_twoTurns ⟨by decide, by decide⟩ (by decide)) (by decide) (by decide) rfl
  exact absurd paired.distinct (by decide)

/-- A given id of another shape than the made-up ones keeps its result. -/
theorem given_id_keeps_its_result :
    ∃ items, buildInput "openai" .apiKey (fun _ => none) (twoTurns "toolu_1") = .ok items ∧
      Paired (fun _ => none) (twoTurns "toolu_1") items := by
  have other (place : Nat) : "toolu_1" ≠ mintedId place := by
    intro same
    have first := head_mintedId place
    rw [← same] at first
    cases first
  have kept := @kept_twoTurns "toolu_1" ⟨by decide, by decide⟩ (by decide)
  refine ⟨_, rfl, (@buildInput_paired "openai" .apiKey _ _ _ kept rfl).mpr ?_⟩
  constructor
  · decide
  · decide
  · intro call _ _ place _ second member
    rw [callsOf_twoTurns, List.mem_cons, List.mem_singleton] at member
    rcases member with rfl | rfl
    · exact (mintedId_ne_empty place).symm
    · exact other place
  · intro call _ _ place _ rawId answered minted
    rw [resultsOf_twoTurns, List.mem_singleton] at answered
    rw [answered] at minted
    exact absurd minted (other place)

end Collision
end Routectl.ResponsesInput
