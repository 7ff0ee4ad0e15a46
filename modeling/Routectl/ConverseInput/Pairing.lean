import Routectl.ConverseInput.Wire
import Routectl.History.Pairing
import Routectl.ResponsesInput.Pairing

/-! The calls and the answers of a history on the Converse wire: each once and in order, and an
answer in the message right behind its call's. -/
namespace Routectl.ConverseInput
open Library
open Routectl.Schema (Role ReasoningDetail)
open Routectl.Trim (KnownContentPart ContentPart MessageContent)
open Routectl.Replay (NormalizeRequest sanitizeToolId)
open Routectl.History (Message Side partId contentIds rawCallId)
open Routectl.ResponsesInput (mintedId)

def blockId : Side → ConverseContentBlock → Option String
  | .call, .toolUse toolUse => some toolUse.toolUseId
  | .answer, .toolResult toolResult => some toolResult.toolUseId
  | _, _ => none

def wireIds (side : Side) (out : List ConverseMessage) : List String :=
  out.flatMap fun wire => wire.content.filterMap (blockId side)

/-- The ids of the calls beside a turn's content; one without its own is named by its place. -/
def channelIds (message : Message) : List String :=
  (message.toolCalls.getD []).zipIdx.map fun (call, place) =>
    if rawCallId call = "" then mintedId place else sanitizeToolId (rawCallId call)

/-- The calls of an assistant turn: those of its content, and the others only where it has none. -/
def assistantCalls (message : Message) : List String :=
  let own := contentIds .call message.content
  own.map sanitizeToolId ++ if own = [] then channelIds message else []

/-- The ids under which a turn should reach the wire. -/
def turnIds : Side → Message → List String
  | side, message =>
    match message.role, side with
    | .system, _ => []
    | .tool, .call => []
    | .tool, .answer => [sanitizeToolId (message.toolCallId.getD "")]
    | .assistant, .call => assistantCalls message
    | _, side => (contentIds side message.content).map sanitizeToolId

section Turns
variable {side : Side} {provider : String} {read : String → Option Json}
variable {message : Message} {part : ContentPart} {blocks : List ConverseContentBlock}

theorem blockId_translated {block : ConverseContentBlock}
    (translated : translateContentPart provider part = .ok (some block)) :
    blockId side block = (partId side part).map sanitizeToolId := by
  cases part with
  | other typeTag control extras =>
    cases translated
    cases side <;> rfl
  | known part =>
    cases part with
    | image source control =>
      obtain ⟨image, rfl, -⟩ := translateImageSource_image translated
      cases side <;> rfl
    | imageUrl imageUrl control =>
      obtain ⟨image, rfl, -⟩ := translateImageUrl_image translated
      cases side <;> rfl
    | document source title citations control =>
      obtain ⟨document, rfl, -⟩ := translateDocument_document translated
      cases side <;> rfl
    | file file control =>
      simp only [translateContentPart, translateKnownPart] at translated
      split at translated
      · obtain ⟨document, rfl, -⟩ := translateDocument_document translated
        cases side <;> rfl
      · cases translated
    | toolResult toolUseId content isError control =>
      simp only [translateContentPart, translateKnownPart] at translated
      obtain ⟨results', results, same⟩ := bind_pure_ok translated
      obtain rfl := Option.some.inj same
      cases side <;> rfl
    | thinking thinking signature =>
      simp only [translateContentPart, translateKnownPart] at translated
      split at translated
      · cases translated
      · cases translated
        cases side <;> rfl
    | _ =>
      cases translated
      cases side <;> rfl

theorem partId_of_dropped (translated : translateContentPart provider part = .ok none) :
    partId side part = none := by
  cases part with
  | other => cases translated
  | known part =>
    cases part with
    | toolUse => cases translated
    | toolResult toolUseId content isError control =>
      simp only [translateContentPart, translateKnownPart] at translated
      obtain ⟨results', results, same⟩ := bind_pure_ok translated
      cases same
    | _ => cases side <;> rfl

theorem partBlocks_ids (made : partBlocks provider part = .ok blocks) :
    blocks.filterMap (blockId side) = ((partId side part).map sanitizeToolId).toList := by
  unfold partBlocks at made
  cases translated : translateContentPart provider part with
  | error failure =>
    rw [translated] at made
    cases made
  | ok outcome =>
    rw [translated] at made
    cases outcome with
    | none =>
      cases made
      rw [partId_of_dropped translated]
      rfl
    | some block =>
      cases made
      have marker : ∀ point, blockId side (.cachePoint point) = none := by
        intro point
        cases side <;> rfl
      cases Cache.partControl part with
      | none =>
        cases id : blockId side block <;> simp [id, ← blockId_translated translated]
      | some control =>
        cases id : blockId side block <;> simp [id, marker, ← blockId_translated translated]

theorem contentBlocksFromParts_ids {parts : List ContentPart}
    (made : contentBlocksFromParts provider parts = .ok blocks) :
    blocks.filterMap (blockId side) = (parts.filterMap (partId side)).map sanitizeToolId := by
  unfold contentBlocksFromParts at made
  obtain ⟨groups, walked, rfl⟩ := bind_pure_ok made
  rw [mapM_filterMap (fun part _ group visited => partBlocks_ids visited) walked,
    List.map_filterMap, List.filterMap_eq_flatMap_toList]

theorem stripped_ids {parts : List ContentPart}
    (made : contentBlocksFromParts provider (History.stripTextAfterToolUse parts) = .ok blocks) :
    blocks.filterMap (blockId side) = (parts.filterMap (partId side)).map sanitizeToolId := by
  rw [contentBlocksFromParts_ids made,
    History.stripTextAfterToolUse_filterMap fun held text => History.partId_text text]

theorem contentBlocksWithCacheControl_ids {content : MessageContent}
    (made : contentBlocksWithCacheControl provider content = .ok blocks) :
    blocks.filterMap (blockId side) = (contentIds side content).map sanitizeToolId := by
  cases content with
  | text text =>
    cases made
    cases side <;> rfl
  | null =>
    cases made
    rfl
  | parts parts => exact contentBlocksFromParts_ids made

theorem emitReasoningBlocksConverse_ids (details : List ReasoningDetail) :
    (emitReasoningBlocksConverse details).filterMap (blockId side) = [] := by
  apply List.filterMap_eq_nil_iff.mpr
  intro block member
  obtain ⟨detail, -, emitted⟩ := List.mem_filterMap.mp member
  unfold emitReasoningBlock at emitted
  split at emitted
  · split at emitted
    · cases emitted
    · dsimp only at emitted
      split at emitted
      · cases emitted
      · cases emitted
        cases side <;> rfl
  · split at emitted
    · cases emitted
    · cases emitted
      cases side <;> rfl
  · cases emitted
  · cases emitted

theorem spokenBlocks_ids (made : spokenBlocks provider message = .ok blocks) :
    blocks.filterMap (blockId side) = (contentIds side message.content).map sanitizeToolId := by
  unfold spokenBlocks at made
  split at made
  · split at made
    · rename_i parts content
      rw [stripped_ids made, content]
      rfl
    · exact contentBlocksWithCacheControl_ids made
  · cases appended : appendConverseContentBlocks provider message.content with
    | error failure =>
      rw [appended] at made
      cases made
    | ok content =>
      rw [appended] at made
      cases made
      rw [List.filterMap_append, emitReasoningBlocksConverse_ids, List.nil_append]
      cases held : message.content with
      | text text =>
        rw [held] at appended
        cases appended
        split
        · rfl
        · cases side <;> rfl
      | null =>
        rw [held] at appended
        cases appended
        rfl
      | parts parts =>
        rw [held] at appended
        exact stripped_ids appended

theorem messageContentHasToolUse_iff {content : MessageContent} :
    messageContentHasToolUse content = true ↔ contentIds .call content ≠ [] := by
  cases content with
  | text text => simp [messageContentHasToolUse, contentIds]
  | null => simp [messageContentHasToolUse, contentIds]
  | parts parts =>
    simp only [messageContentHasToolUse, contentIds, ne_eq, List.filterMap_eq_nil_iff,
      List.any_eq_true, not_forall]
    constructor
    · intro found
      obtain ⟨part, member, calls⟩ := found
      refine ⟨part, member, ?_⟩
      cases part with
      | other => cases calls
      | known part => cases part <;> first | exact Option.some_ne_none _ | cases calls
    · intro found
      obtain ⟨part, member, named⟩ := found
      refine ⟨part, member, ?_⟩
      cases part with
      | other => exact absurd rfl named
      | known part => cases part <;> first | rfl | exact absurd rfl named

theorem toolUseBlocksFromCalls_ids (side : Side) (message : Message) :
    (toolUseBlocksFromCalls read message).filterMap (blockId side) =
      match side with
      | .call => if contentIds .call message.content = [] then channelIds message else []
      | .answer => [] := by
  unfold toolUseBlocksFromCalls
  cases told : messageContentHasToolUse message.content with
  | true =>
    have own := messageContentHasToolUse_iff.mp told
    cases side <;> simp [own]
  | false =>
    have own : contentIds .call message.content = [] := by
      by_contra named
      rw [messageContentHasToolUse_iff.mpr named] at told
      cases told
    rw [if_neg Bool.false_ne_true]
    cases side with
    | answer =>
      apply List.filterMap_eq_nil_iff.mpr
      intro block member
      obtain ⟨call, -, rfl⟩ := List.mem_map.mp member
      rfl
    | call =>
      simp only [own, if_true, channelIds, Replay.normalizeToolCalls, List.map_map,
        List.filterMap_map]
      rw [← List.filterMap_eq_map]
      rfl

theorem buildAssistantContentBlocks_ids
    (made : buildAssistantContentBlocks provider read message = .ok blocks)
    (role : message.role = .assistant) :
    blocks.filterMap (blockId side) = turnIds side message := by
  unfold buildAssistantContentBlocks at made
  obtain ⟨said, spoken, rfl⟩ := bind_pure_ok made
  rw [List.filterMap_append, spokenBlocks_ids spoken, toolUseBlocksFromCalls_ids]
  cases side with
  | call => simp only [turnIds, role, assistantCalls]
  | answer => simp only [turnIds, role, List.append_nil]

theorem buildUserTurn_ids (made : buildUserTurn provider message = .ok blocks) :
    blocks.filterMap (blockId side) = (contentIds side message.content).map sanitizeToolId := by
  unfold buildUserTurn at made
  obtain ⟨said, content, rfl⟩ := bind_pure_ok made
  rw [← contentBlocksWithCacheControl_ids content]
  unfold ensureDocumentHasTextSibling
  split
  · cases side <;> rfl
  · rfl

theorem turnRun_ids {run : BlockRun} (made : turnRun provider read message = .ok run) :
    run.items.filterMap (blockId side) = turnIds side message := by
  unfold turnRun at made
  cases role : message.role with
  | system =>
    rw [role] at made
    cases made
    simp [turnIds, role]
  | user =>
    rw [role] at made
    obtain ⟨blocks, user, rfl⟩ := map_ok made
    rw [buildUserTurn_ids user]
    simp only [turnIds, role]
  | other tag =>
    rw [role] at made
    obtain ⟨blocks, user, rfl⟩ := map_ok made
    rw [buildUserTurn_ids user]
    simp only [turnIds, role]
  | assistant =>
    rw [role] at made
    obtain ⟨blocks, said, rfl⟩ := map_ok made
    exact buildAssistantContentBlocks_ids said role
  | tool =>
    rw [role] at made
    obtain ⟨toolMessage, built, rfl⟩ := map_ok made
    obtain ⟨content, -, rfl⟩ := buildToolMessage_ok built
    cases side <;> simp [turnIds, role, ConverseMessage.run, blockId]

/-- The role a turn goes out under. -/
theorem turnRun_key {run : BlockRun} (made : turnRun provider read message = .ok run) :
    run.key = if message.role = .assistant then .assistant else .user := by
  unfold turnRun at made
  cases role : message.role with
  | system =>
    rw [role] at made
    cases made
    rfl
  | user =>
    rw [role] at made
    obtain ⟨blocks, user, rfl⟩ := map_ok made
    rfl
  | other tag =>
    rw [role] at made
    obtain ⟨blocks, user, rfl⟩ := map_ok made
    rfl
  | assistant =>
    rw [role] at made
    obtain ⟨blocks, said, rfl⟩ := map_ok made
    rfl
  | tool =>
    rw [role] at made
    obtain ⟨toolMessage, built, rfl⟩ := map_ok made
    obtain ⟨content, -, rfl⟩ := buildToolMessage_ok built
    rfl

end Turns

section Histories
variable {provider : String} {read : String → Option Json} {messages : List Message}
variable {out : List ConverseMessage} {runs : List BlockRun}

theorem turns_ids (side : Side)
    (turns : List.Forall₂ (fun turn run => turnRun provider read turn = .ok run) messages runs) :
    (runs.flatMap KeyedRun.items).filterMap (blockId side) = messages.flatMap (turnIds side) := by
  induction turns with
  | nil => rfl
  | cons made _ ih =>
    rw [List.flatMap_cons, List.filterMap_append, ih, turnRun_ids made, List.flatMap_cons]

/-- What the wire holds of a history's ids, in its messages or out of them. -/
theorem wireIds_eq (side : Side) (out : List ConverseMessage) :
    wireIds side out =
      ((KeyedRun.told (out.map ConverseMessage.run)).map Prod.snd).filterMap (blockId side) := by
  rw [KeyedRun.map_snd_told]
  induction out with
  | nil => rfl
  | cons wire out ih =>
    have here : wireIds side (wire :: out) =
        wire.content.filterMap (blockId side) ++ wireIds side out := rfl
    rw [here, ih, List.map_cons, List.flatMap_cons, List.filterMap_append]
    rfl

/-- Every call and every answer reaches the wire where its turn stands, and no other does. -/
theorem ids_reach_the_wire (translated : translateMessages provider read messages = .ok out)
    (side : Side) : wireIds side out = messages.flatMap (turnIds side) := by
  obtain ⟨runs, turns, same⟩ := translateMessages_ok_iff.mp translated
  rw [wireIds_eq, same, KeyedRun.told_coalesce, KeyedRun.map_snd_told, turns_ids side turns]

theorem asked_ids_reach_the_wire :
    wireIds .call askedWire = askedHistory.flatMap (turnIds .call) ∧
      askedHistory.flatMap (turnIds .call) = ["call_1"] :=
  ⟨ids_reach_the_wire translate_askedHistory .call, rfl⟩

/-- A block of a turn stands somewhere in what the turn tells. -/
theorem told_of_id {side : Side} {message : Message} {run : BlockRun} {id : String}
    (made : turnRun provider read message = .ok run) (held : id ∈ turnIds side message) :
    ∃ before block after, run.items = before ++ block :: after ∧ blockId side block = some id := by
  rw [← turnRun_ids made] at held
  obtain ⟨block, member, named⟩ := List.mem_filterMap.mp held
  obtain ⟨before, after, parts⟩ := List.append_of_mem member
  exact ⟨before, block, after, parts, named⟩

theorem told_key {key : ConverseRole} (keyed : ∀ run ∈ runs, run.key = key) :
    ∀ entry ∈ KeyedRun.told runs, entry.1 = key := by
  intro entry member
  obtain ⟨run, there, inside⟩ := List.mem_flatMap.mp member
  obtain ⟨item, -, rfl⟩ := List.mem_map.mp inside
  exact keyed run there

/-- An answer with no assistant's turn since its call stands in the message behind the call's. -/
theorem answers_follow_their_calls {front between back : List Message} {asking answering : Message}
    {call answer : String}
    (translated : translateMessages provider read
      (front ++ asking :: (between ++ answering :: back)) = .ok out)
    (asks : asking.role = .assistant) (waits : ∀ turn ∈ between, turn.role ≠ .assistant)
    (answers : answering.role ≠ .assistant) (called : call ∈ turnIds .call asking)
    (answered : answer ∈ turnIds .answer answering) :
    ∃ before left right after, out = before ++ left :: right :: after ∧
      left.role = .assistant ∧ right.role = .user ∧
      call ∈ left.content.filterMap (blockId .call) ∧
      answer ∈ right.content.filterMap (blockId .answer) := by
  obtain ⟨runs, turns, same⟩ := translateMessages_ok_iff.mp translated
  obtain ⟨early, later, rfl, -, fromAsking⟩ := forall₂_append_left turns
  obtain ⟨said, later, spoken, behindAsking, rfl⟩ := List.forall₂_cons_left_iff.mp fromAsking
  obtain ⟨waited, later, rfl, waiting, fromAnswering⟩ := forall₂_append_left behindAsking
  obtain ⟨told, late, replying, -, rfl⟩ := List.forall₂_cons_left_iff.mp fromAnswering
  obtain ⟨ahead, calling, behind, callParts, callNamed⟩ := told_of_id spoken called
  obtain ⟨before, result, after, answerParts, answerNamed⟩ := told_of_id replying answered
  have asker : said.key = .assistant := by rw [turnRun_key spoken, if_pos asks]
  have answerer : told.key = .user := by rw [turnRun_key replying, if_neg answers]
  have users : ∀ run ∈ waited, run.key = ConverseRole.user := by
    intro run member
    obtain ⟨turn, there, made⟩ := mapM_made (mapM_ok_iff.mpr waiting) member
    rw [turnRun_key made, if_neg (waits turn there)]
  have whole : KeyedRun.told (out.map ConverseMessage.run) =
      (KeyedRun.told early ++ ahead.map fun block => (ConverseRole.assistant, block)) ++
        (.assistant, calling) :: (behind.map (fun block => (ConverseRole.assistant, block)) ++
          ((KeyedRun.told waited ++ before.map fun block => (ConverseRole.user, block)) ++
            (.user, result) :: (after.map (fun block => (ConverseRole.user, block)) ++
              KeyedRun.told late))) := by
    rw [same, KeyedRun.told_coalesce]
    simp [asker, answerer, callParts, answerParts]
  have coalesced : KeyedRun.Coalesced (out.map ConverseMessage.run) :=
    same ▸ KeyedRun.coalesce_coalesced _
  obtain ⟨front', left, right, back', parts, leftKey, rightKey, leftHolds, rightHolds⟩ :=
    coalesced.neighbours (by decide) (by simp) (by
      intro entry member
      obtain earlier | own := List.mem_append.mp member
      · exact told_key users entry earlier
      · obtain ⟨block, -, rfl⟩ := List.mem_map.mp own
        rfl) whole
  obtain ⟨first, onward, rfl, -, onwardMap⟩ := List.map_eq_append_iff.mp parts
  obtain ⟨asked, others, rfl, rfl, othersMap⟩ := List.map_eq_cons_iff.mp onwardMap
  obtain ⟨replied, rest, rfl, rfl, -⟩ := List.map_eq_cons_iff.mp othersMap
  exact ⟨first, asked, replied, rest, rfl, leftKey, rightKey,
    List.mem_filterMap.mpr ⟨calling, leftHolds, callNamed⟩,
    List.mem_filterMap.mpr ⟨result, rightHolds, answerNamed⟩⟩

theorem asked_answer_follows_its_call :
    ∃ before left right after, askedWire = before ++ left :: right :: after ∧
      left.role = .assistant ∧ right.role = .user ∧
      "call_1" ∈ left.content.filterMap (blockId .call) ∧
      "call_1" ∈ right.content.filterMap (blockId .answer) :=
  answers_follow_their_calls translate_askedHistory rfl (by simp) (by decide) (by decide) (by decide)

end Histories
end Routectl.ConverseInput
