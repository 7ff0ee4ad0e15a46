import Routectl.History.Replayed

/-! The calls and the answers of a history, read off the wire again. -/
namespace Routectl.History
open Library
open Routectl.Schema (Role ReasoningDetail)
open Routectl.Trim (ContentPart KnownContentPart MessageContent)
open Routectl.Replay (NormalizeRequest sanitizeToolId)

inductive Side where
  | call
  | answer
deriving Repr, DecidableEq

def partId : Side → ContentPart → Option String
  | .call, .known (.toolUse id _ _ _) => some id
  | .answer, .known (.toolResult id _ _ _) => some id
  | _, _ => none

def blockId : Side → ContentBlock → Option String
  | .call, .toolUse id _ _ _ => some id
  | .answer, .toolResult id _ _ _ => some id
  | _, _ => none

def AnthropicMessage.blocks (message : AnthropicMessage) : List ContentBlock :=
  match message.content with
  | .blocks blocks => blocks
  | .text _ => []

def contentIds (side : Side) : MessageContent → List String
  | .parts parts => parts.filterMap (partId side)
  | _ => []

/-- The ids of all calls or of all answers on the wire, in order. -/
def wireIds (side : Side) (out : List AnthropicMessage) : List String :=
  out.flatMap fun message => message.blocks.filterMap (blockId side)

def channelCallIds (message : Message) : List String :=
  (message.toolCalls.getD []).map rawCallId

/-- The raw ids of the calls of an assistant turn, one that stands on both channels once. -/
def spokenCallIds (message : Message) : List String :=
  let own := contentIds .call message.content
  own ++ (channelCallIds message).filter fun id => !own.contains id

def assistantIds : Side → Message → List String
  | .call, message => (spokenCallIds message).map sanitizeToolId
  | .answer, message => contentIds .answer message.content

def toolTurnIds : Side → Message → List String
  | .call, _ => []
  | .answer, message => [sanitizeToolId (message.toolCallId.getD "")]

/-- The ids under which a turn should reach the wire. -/
def turnIds (side : Side) (policy : SystemTurnPolicy) (message : Message) : List String :=
  match message.role with
  | .assistant => assistantIds side message
  | .tool => toolTurnIds side message
  | .system => if policy = .lift then [] else contentIds side message.content
  | _ => contentIds side message.content

section Turns
variable {side : Side} {envelopes : Bool} {read : String → Option Json}
variable {decode : String → Option ByteArray} {policy : SystemTurnPolicy}
variable {message kept : Message} {emitted : List AnthropicMessage}

/-! ### Parts and blocks -/

theorem blockId_translated (held : ContentPart) :
    blockId side (translateContentPart envelopes held) = partId side held := by
  cases held with
  | other => cases side <;> rfl
  | known known =>
    cases known with
    | file file cacheControl =>
      simp only [translateContentPart, translateKnownPart]
      cases parseFileDocumentSource file <;> cases side <;> rfl
    | _ => cases side <;> rfl

theorem blockId_reasoning {detail : ReasoningDetail} {held : ContentBlock}
    (emits : emitReasoningBlock envelopes detail = some held) : blockId side held = none := by
  unfold emitReasoningBlock at emits
  by_cases emittable : isAnthropicEmittableDetail detail = true
  · rw [if_neg (by simp [emittable])] at emits
    cases kind : detail.kind with
    | text =>
      rw [kind] at emits
      obtain rfl := Option.some.inj emits
      cases side <;> rfl
    | encrypted =>
      rw [kind] at emits
      obtain rfl := Option.some.inj emits
      cases side <;> rfl
    | summary =>
      rw [kind] at emits
      cases emits
    | other tag =>
      rw [kind] at emits
      cases emits
  · rw [if_pos (by simp [emittable])] at emits
    cases emits

theorem partId_text {held : ContentPart} (text : isTextPart held = true) : partId side held = none := by
  cases held with
  | other => cases text
  | known known =>
    cases known with
    | text => cases side <;> rfl
    | _ => cases text

theorem partId_thinking {held : ContentPart} (thinks : isUnsignedThinkingPart decode held = true) :
    partId side held = none := by
  cases held with
  | other => cases thinks
  | known known =>
    cases known with
    | thinking => cases side <;> rfl
    | _ => cases thinks

theorem partId_attribution {held : ContentPart} (billing : isBillingAttributionPart held = true) :
    partId side held = none := by
  cases held with
  | other => cases side <;> rfl
  | known known =>
    cases known with
    | text => cases side <;> rfl
    | document => cases side <;> rfl
    | _ => cases billing

/-- What a filter leaves out has no id. -/
theorem filterMap_filter_of_none {Item : Type} {items : List Item} {keep : Item → Bool}
    {id : Item → Option String} (none : ∀ item, keep item = false → id item = none) :
    (items.filter keep).filterMap id = items.filterMap id := by
  rw [List.filterMap_filter]
  congr 1
  funext item
  cases held : keep item with
  | true => rfl
  | false => rw [none item held]; rfl

theorem stripTextAfterToolUse_filterMap {id : ContentPart → Option String}
    (text : ∀ held, isTextPart held = true → id held = none) (parts : List ContentPart) :
    (stripTextAfterToolUse parts).filterMap id = parts.filterMap id := by
  unfold stripTextAfterToolUse
  cases lastToolUse parts with
  | none => rfl
  | some last =>
    dsimp only
    rw [List.filterMap_map, filterMap_filter_of_none]
    · rw [← List.filterMap_map, List.zipIdx_map_fst]
    · intro entry dropped
      apply text
      simp only [Bool.not_eq_false', Bool.and_eq_true] at dropped
      exact dropped.2

/-! ### Contents -/

theorem simpleContent_ids (role : AnthropicRole) (content : MessageContent) :
    (AnthropicMessage.blocks ⟨role, translateSimpleContent envelopes content⟩).filterMap
      (blockId side) = contentIds side content := by
  cases content with
  | text body => rfl
  | null => rfl
  | parts parts =>
    simp only [translateSimpleContent, AnthropicMessage.blocks, contentIds, List.filterMap_map]
    congr 1
    funext held
    exact blockId_translated held

theorem screened_ids {content screened : MessageContent} (survives : Screened content screened) :
    contentIds side screened = contentIds side content := by
  cases survives with
  | text body _ => rfl
  | parts parts =>
    apply filterMap_filter_of_none
    intro held dropped
    apply partId_attribution
    simpa using dropped

theorem withheld_ids {content : MessageContent} (withheld : Withheld content) :
    contentIds side content = [] := by
  cases withheld with
  | text body _ => rfl
  | parts parts attribution =>
    apply List.filterMap_eq_nil_iff.mpr
    intro held member
    exact partId_attribution (attribution held member)

theorem kept_ids (same : Kept decode message kept) :
    contentIds side kept.content = contentIds side message.content := by
  rw [same.content]
  cases message.content with
  | text body => rfl
  | null => rfl
  | parts parts =>
    apply filterMap_filter_of_none
    intro held dropped
    exact partId_thinking (by simpa using dropped)

theorem spent_ids (spent : Spent decode message) : contentIds side message.content = [] := by
  obtain ⟨parts, content, unsigned⟩ := spent.parts
  rw [content]
  apply List.filterMap_eq_nil_iff.mpr
  intro held member
  exact partId_thinking (unsigned held member)

/-! ### An assistant turn -/

def assistantWireId : Side → String → String
  | .call => sanitizeToolId
  | .answer => id

theorem assistantPart_id (held : ContentPart) :
    blockId side (translateAssistantContentPart envelopes held).1 =
      (partId side held).map (assistantWireId side) := by
  cases held with
  | other => cases side <;> rfl
  | known known =>
    cases known with
    | file file cacheControl =>
      simp only [translateAssistantContentPart, translateContentPart, translateKnownPart]
      cases parseFileDocumentSource file <;> cases side <;> rfl
    | _ => cases side <;> rfl

theorem assistantPart_rawId (held : ContentPart) :
    (translateAssistantContentPart envelopes held).2 = partId .call held := by
  cases held with
  | other => rfl
  | known known => cases known <;> rfl

theorem assistantParts_ids (parts : List ContentPart) :
    ((stripTextAfterToolUse parts).map fun held =>
      (translateAssistantContentPart envelopes held).1).filterMap (blockId side) =
      (contentIds side (.parts parts)).map (assistantWireId side) := by
  rw [List.filterMap_map, contentIds,
    ← stripTextAfterToolUse_filterMap fun held text => partId_text text, List.map_filterMap]
  congr 1
  funext held
  exact assistantPart_id held

theorem assistantSimpleContent_ids (content : MessageContent) :
    (AnthropicMessage.blocks ⟨.assistant, translateAssistantSimpleContent envelopes content⟩).filterMap
      (blockId side) = (contentIds side content).map (assistantWireId side) := by
  cases content with
  | text body => rfl
  | null => rfl
  | parts parts => exact assistantParts_ids parts

theorem appended_ids (content : MessageContent) :
    (appendAssistantMessageBlocks envelopes content).1.filterMap (blockId side) =
      (contentIds side content).map (assistantWireId side) := by
  cases content with
  | text body =>
    have none : contentIds side (.text body) = [] := rfl
    rw [appendAssistantMessageBlocks, none]
    by_cases empty : body = ""
    · rw [if_pos empty]
      rfl
    · rw [if_neg empty]
      cases side <;> rfl
  | null => rfl
  | parts parts => exact assistantParts_ids parts

theorem appended_rawIds (content : MessageContent) :
    (appendAssistantMessageBlocks envelopes content).2 = contentIds .call content := by
  cases content with
  | text body => rfl
  | null => rfl
  | parts parts =>
    simp only [appendAssistantMessageBlocks, contentIds]
    rw [← stripTextAfterToolUse_filterMap fun held text => partId_text text]
    congr 1
    funext held
    exact assistantPart_rawId held

theorem reasoning_ids (details : List ReasoningDetail) :
    (emitReasoningBlocks envelopes details).filterMap (blockId side) = [] := by
  simp only [emitReasoningBlocks, List.filterMap_filterMap, List.filterMap_eq_nil_iff]
  intro detail _
  cases emits : emitReasoningBlock envelopes detail with
  | none => rfl
  | some held => exact blockId_reasoning emits

theorem calls_ids (calls : List Json) (own : List String) :
    (emitToolUseBlocksFromCalls read calls own).filterMap (blockId .call) =
      ((calls.map rawCallId).filter fun id => !own.contains id).map sanitizeToolId := by
  rw [emitToolUseBlocksFromCalls, List.filterMap_map, List.filter_map, List.map_map,
    ← List.filterMap_eq_map]
  rfl

theorem calls_answer_nothing (calls : List Json) (own : List String) :
    (emitToolUseBlocksFromCalls read calls own).filterMap (blockId .answer) = [] := by
  rw [emitToolUseBlocksFromCalls, List.filterMap_map]
  exact List.filterMap_eq_nil_iff.mpr fun call _ => rfl

theorem backstop_ids (role : AnthropicRole) (content : AnthropicContent) :
    (AnthropicMessage.blocks ⟨role, backstopEmptyBlocks content⟩).filterMap (blockId side) =
      (AnthropicMessage.blocks ⟨role, content⟩).filterMap (blockId side) := by
  cases content with
  | text body => rfl
  | blocks blocks =>
    cases blocks with
    | nil => cases side <;> rfl
    | cons head tail => rfl

theorem assistant_ids (message : Message) :
    (AnthropicMessage.blocks ⟨.assistant, buildAssistantContent envelopes read message⟩).filterMap
      (blockId side) = assistantIds side message := by
  unfold buildAssistantContent
  by_cases plain : (message.reasoningDetails.isEmpty && !hasToolCalls message) = true
  · rw [if_pos plain, backstop_ids, assistantSimpleContent_ids]
    have calls := hasToolCalls_eq_false_iff.mp (by simpa using (Bool.and_eq_true_iff.mp plain).2)
    cases side with
    | call => simp [assistantIds, assistantWireId, spokenCallIds, channelCallIds, calls]
    | answer => simp [assistantIds, assistantWireId]
  · rw [if_neg plain]
    dsimp only
    rw [backstop_ids, AnthropicMessage.blocks, List.filterMap_append, List.filterMap_append,
      reasoning_ids, appended_ids, appended_rawIds, List.nil_append]
    cases side with
    | call =>
      rw [calls_ids, assistantIds, spokenCallIds, List.map_append]
      rfl
    | answer => simp [calls_answer_nothing, assistantIds, assistantWireId]

/-! ### A whole history -/

theorem TurnEmits.ids (emits : TurnEmits policy envelopes read message emitted) :
    wireIds side emitted = turnIds side policy message := by
  cases emits with
  | lifted role lift => simp [wireIds, turnIds, role, lift]
  | withheld role forward withheld => simp [wireIds, turnIds, role, forward, withheld_ids withheld]
  | forwarded screened role forward survives =>
    simp [wireIds, turnIds, role, forward, simpleContent_ids, screened_ids survives]
  | assistant role =>
    simp only [wireIds, List.flatMap_singleton, assistant_ids, turnIds, role]
  | plain system assistant tool =>
    simp only [wireIds, List.flatMap_singleton, simpleContent_ids]
    unfold turnIds
    cases role : message.role with
    | system => exact absurd role system
    | assistant => exact absurd role assistant
    | tool => exact absurd role tool
    | user => rfl
    | other tag => rfl

theorem run_ids {run : List Message} (tools : ∀ turn ∈ run, turn.role = .tool) :
    (buildToolMessage envelopes run).blocks.filterMap (blockId side) =
      run.flatMap (turnIds side policy) := by
  induction run with
  | nil => rfl
  | cons turn rest ih =>
    have tail := ih fun later member => tools later (List.mem_cons_of_mem _ member)
    have role := tools turn List.mem_cons_self
    simp only [buildToolMessage, AnthropicMessage.blocks] at tail
    simp only [buildToolMessage, AnthropicMessage.blocks, List.map_cons, List.filterMap_cons,
      List.flatMap_cons, turnIds, role]
    cases side with
    | call => exact tail
    | answer => exact congrArg (List.cons _) tail

theorem Walked.ids {messages : List Message} {out : List AnthropicMessage}
    (told : Walked policy envelopes read messages out) :
    wireIds side out = messages.flatMap (turnIds side policy) := by
  induction told with
  | nil => rfl
  | turn message rest emitted out plain emits told ih =>
    rw [List.flatMap_cons, ← emits.ids, ← ih]
    exact List.flatMap_append
  | run run left out nonempty tools ended told ih =>
    rw [List.flatMap_append, ← ih, ← run_ids tools]
    rfl

theorem turnIds_kept (same : Kept decode message kept) :
    turnIds side policy kept = turnIds side policy message := by
  unfold turnIds
  rw [same.role]
  have own : ∀ side, contentIds side kept.content = contentIds side message.content :=
    fun side => kept_ids same
  have spoken : assistantIds side kept = assistantIds side message := by
    cases side with
    | call => simp only [assistantIds, spokenCallIds, channelCallIds, own, same.toolCalls]
    | answer => simp only [assistantIds, own]
  have answered : toolTurnIds side kept = toolTurnIds side message := by
    cases side with
    | call => rfl
    | answer => rw [toolTurnIds, toolTurnIds, same.toolCallId]
  simp only [own, spoken, answered]

theorem turnIds_spent (spent : Spent decode message) (loses : side = .call ∨ message.role ≠ .tool) :
    turnIds side policy message = [] := by
  have own : ∀ side, contentIds side message.content = [] := fun side => spent_ids spent
  have spoken : assistantIds side message = [] := by
    cases side with
    | call => simp [assistantIds, spokenCallIds, channelCallIds, own, spent.calls]
    | answer => exact own .answer
  unfold turnIds
  cases role : message.role with
  | assistant => exact spoken
  | tool =>
    cases side with
    | call => rfl
    | answer => simp [role] at loses
  | system => simp [own]
  | user => exact own side
  | other tag => exact own side

theorem Pruned.ids {last : Option Message} {messages out : List Message}
    (pruned : Pruned decode policy last messages out)
    (loses : side = .call ∨ ∀ turn ∈ messages, turn.role = .tool → ¬ Spent decode turn) :
    out.flatMap (turnIds side policy) = messages.flatMap (turnIds side policy) := by
  induction pruned with
  | nil => rfl
  | kept last message kept rest out same earned tail ih =>
    rw [List.flatMap_cons, List.flatMap_cons, turnIds_kept same]
    rw [ih (loses.imp_right fun kept turn member => kept turn (List.mem_cons_of_mem _ member))]
  | dropped last message rest out spent free tail ih =>
    rw [List.flatMap_cons, turnIds_spent spent, List.nil_append]
    · exact ih (loses.imp_right fun kept turn member => kept turn (List.mem_cons_of_mem _ member))
    · exact loses.imp_right fun kept tool => kept message List.mem_cons_self tool spent

theorem replayed_ids {provider : String} {reasoning : HistoryReasoning}
    {messages normalized : List Message} {out : List AnthropicMessage}
    (strips : reasoning ≠ .preserve)
    (prepared : normalizeReplayInvariants decode provider messages reasoning policy =
      .ok normalized)
    (translated : translateMessages provider policy envelopes read normalized = .ok out)
    (loses : side = .call ∨ ∀ turn ∈ messages, turn.role = .tool → ¬ Spent decode turn) :
    wireIds side out = messages.flatMap (turnIds side policy) := by
  rw [(translateMessages_walked translated).ids]
  obtain ⟨-, ⟨rfl, -⟩ | ⟨pruned, -⟩⟩ := normalize_cases strips prepared
  · rfl
  · exact pruned.ids loses

theorem mem_spokenCallIds {id : String} : id ∈ spokenCallIds message ↔
    id ∈ contentIds .call message.content ∨ id ∈ channelCallIds message := by
  simp only [spokenCallIds, List.mem_append, List.mem_filter, List.contains_eq_mem,
    Bool.not_eq_true', decide_eq_false_iff_not]
  tauto

theorem spokenCallIds_nodup (own : (contentIds .call message.content).Nodup)
    (channel : (channelCallIds message).Nodup) : (spokenCallIds message).Nodup := by
  refine List.Nodup.append own (channel.filter _) ?_
  intro id held other
  simp only [List.mem_filter, List.contains_eq_mem, Bool.not_eq_true',
    decide_eq_false_iff_not] at other
  exact other.2 held

end Turns

/-! ### A replayed history -/

def decodeMarker (text : String) : Option ByteArray :=
  if text = "EgAA" then some ⟨#[18, 0, 0]⟩ else none

def unsignedThought : ContentPart := .known (.thinking "hm" none)
def readCall : Json :=
  .object [("id", .string "call_1"),
    ("function", .object [("name", .string "read"), ("arguments", .string "\x7b\x7d")])]
def listCall : Json :=
  .object [("id", .string "call_2"), ("function", .object [("name", .string "list")])]

/-- A thought that goes, a call on both channels and one on the second, their answers. -/
def replayedHistory : List Message :=
  [{ role := .user, content := .text "hello" },
   { role := .assistant
     content := .parts [unsignedThought, .known (.toolUse "call_1" "read" (.object []) none)]
     toolCalls := some [readCall, listCall] },
   { role := .tool, content := .text "read it", toolCallId := some "call_1" },
   { role := .tool, content := .parts [.known (.text "listed" none none)]
     toolCallId := some "call_2" },
   { role := .assistant, content := .parts [unsignedThought] }]

def preparedHistory : List Message := stripTurns decodeMarker .forward none replayedHistory

def readNothing (_ : String) : Option Json := none

def toldHistory : List AnthropicMessage :=
  [⟨.user, .text "hello"⟩,
   ⟨.assistant, buildAssistantContent false readNothing
     { role := .assistant
       content := .parts [.known (.toolUse "call_1" "read" (.object []) none)]
       toolCalls := some [readCall, listCall] }⟩,
   buildToolMessage false
     [{ role := .tool, content := .text "read it", toolCallId := some "call_1" },
      { role := .tool, content := .parts [.known (.text "listed" none none)]
        toolCallId := some "call_2" }]]

theorem normalize_replayedHistory : normalizeReplayInvariants decodeMarker "p" replayedHistory .auto
    .forward = .ok preparedHistory := rfl

theorem translate_preparedHistory :
    translateMessages "p" .forward false readNothing preparedHistory = .ok toldHistory := rfl

theorem replayedHistory_answers :
    ∀ turn ∈ replayedHistory, turn.role = .tool → ¬ Spent decodeMarker turn := by
  intro turn member tool spent
  simp only [replayedHistory, List.mem_cons, List.not_mem_nil, or_false] at member
  obtain ⟨parts, content, unsigned⟩ := spent.parts
  obtain rfl | rfl | rfl | rfl | rfl := member
  · cases tool
  · cases tool
  · cases content
  · obtain rfl := MessageContent.parts.inj content
    cases unsigned _ List.mem_cons_self
  · cases tool

/-- No call of a history is lost or told twice on its way to the wire: in order, every turn
brings the ids of its own calls, an assistant turn those of both its channels once each. -/
theorem calls_reach_the_wire {decode : String → Option ByteArray} {read : String → Option Json}
    {provider : String} {policy : SystemTurnPolicy} {envelopes : Bool}
    {reasoning : HistoryReasoning} {messages normalized : List Message}
    {out : List AnthropicMessage} (strips : reasoning ≠ .preserve)
    (prepared : normalizeReplayInvariants decode provider messages reasoning policy =
      .ok normalized)
    (translated : translateMessages provider policy envelopes read normalized = .ok out) :
    wireIds .call out = messages.flatMap (turnIds .call policy) ∧
    ∀ turn ∈ messages, turn.role = .assistant →
      turnIds .call policy turn = (spokenCallIds turn).map sanitizeToolId ∧
      (∀ id, id ∈ spokenCallIds turn ↔
        id ∈ contentIds .call turn.content ∨ id ∈ channelCallIds turn) ∧
      ((contentIds .call turn.content).Nodup → (channelCallIds turn).Nodup →
        (spokenCallIds turn).Nodup) := by
  refine ⟨replayed_ids strips prepared translated (Or.inl rfl), ?_⟩
  intro turn _ role
  refine ⟨?_, fun id => mem_spokenCallIds, spokenCallIds_nodup⟩
  rw [turnIds, role]
  rfl

theorem both_channels_tell_each_call_once :
    wireIds .call toldHistory = replayedHistory.flatMap (turnIds .call .forward) ∧
      replayedHistory.flatMap (turnIds .call .forward) = ["call_1", "call_2"] :=
  ⟨(calls_reach_the_wire (by decide) normalize_replayedHistory translate_preparedHistory).1, rfl⟩

/-- Every tool turn that says something is one answer on the wire, in order. -/
theorem answers_reach_the_wire {decode : String → Option ByteArray} {read : String → Option Json}
    {provider : String} {policy : SystemTurnPolicy} {envelopes : Bool}
    {reasoning : HistoryReasoning} {messages normalized : List Message}
    {out : List AnthropicMessage} (strips : reasoning ≠ .preserve)
    (answered : ∀ turn ∈ messages, turn.role = .tool → ¬ Spent decode turn)
    (prepared : normalizeReplayInvariants decode provider messages reasoning policy =
      .ok normalized)
    (translated : translateMessages provider policy envelopes read normalized = .ok out) :
    wireIds .answer out = messages.flatMap (turnIds .answer policy) ∧
    ∀ turn ∈ messages, turn.role = .tool →
      turnIds .answer policy turn = [sanitizeToolId (turn.toolCallId.getD "")] := by
  refine ⟨replayed_ids strips prepared translated (Or.inr answered), ?_⟩
  intro turn _ role
  rw [turnIds, role]
  rfl

theorem both_answers_reach_the_wire :
    wireIds .answer toldHistory = replayedHistory.flatMap (turnIds .answer .forward) ∧
      replayedHistory.flatMap (turnIds .answer .forward) = ["call_1", "call_2"] :=
  ⟨(answers_reach_the_wire (by decide) replayedHistory_answers normalize_replayedHistory
    translate_preparedHistory).1, rfl⟩

/-! ### Signatures -/

section Signatures
variable {decode : String → Option ByteArray} {envelopes : Bool} {read : String → Option Json}
variable {policy : SystemTurnPolicy} {message : Message} {held : ContentPart}

/-- Every thought among the blocks carries a signature of the right shape. -/
def Signed (decode : String → Option ByteArray) (blocks : List ContentBlock) : Prop :=
  ∀ body signature marker, ContentBlock.thinking body signature marker ∈ blocks →
    isClaudeShapedSignature decode signature = true

def SignedContent (decode : String → Option ByteArray) : MessageContent → Prop
  | .parts parts => ∀ part ∈ parts, isUnsignedThinkingPart decode part = false
  | _ => True

theorem translated_signed {body signature : String} {marker : Option Trim.CacheControl}
    (signed : isUnsignedThinkingPart decode held = false)
    (thinks : translateContentPart envelopes held = .thinking body signature marker) :
    isClaudeShapedSignature decode signature = true := by
  cases held with
  | other => cases thinks
  | known known =>
    cases known with
    | thinking thought sealed =>
      obtain ⟨-, rfl, -⟩ := ContentBlock.thinking.inj thinks
      simpa [isUnsignedThinkingPart] using signed
    | file file cacheControl =>
      simp only [translateContentPart, translateKnownPart] at thinks
      cases parsed : parseFileDocumentSource file with
      | none =>
        rw [parsed] at thinks
        cases thinks
      | some document =>
        rw [parsed] at thinks
        cases thinks
    | _ => cases thinks

theorem assistantPart_signed {body signature : String} {marker : Option Trim.CacheControl}
    (signed : isUnsignedThinkingPart decode held = false)
    (thinks : (translateAssistantContentPart envelopes held).1 = .thinking body signature marker) :
    isClaudeShapedSignature decode signature = true := by
  cases held with
  | other => cases thinks
  | known known =>
    cases known with
    | toolUse => cases thinks
    | _ => exact @translated_signed decode envelopes _ body signature marker signed thinks

theorem mem_stripTextAfterToolUse {parts : List ContentPart}
    (member : held ∈ stripTextAfterToolUse parts) : held ∈ parts := by
  unfold stripTextAfterToolUse at member
  cases last : lastToolUse parts with
  | none => rwa [last] at member
  | some last =>
    simp only [last, List.mem_map, List.mem_filter] at member
    obtain ⟨⟨part, index⟩, ⟨there, -⟩, rfl⟩ := member
    exact List.mem_of_getElem? (List.mk_mem_zipIdx_iff_getElem?.mp there)

theorem simpleContent_signed {content : MessageContent} (signed : SignedContent decode content)
    (role : AnthropicRole) :
    Signed decode (AnthropicMessage.blocks ⟨role, translateSimpleContent envelopes content⟩) := by
  intro body signature marker member
  cases content with
  | text => cases member
  | null => cases member
  | parts parts =>
    obtain ⟨part, there, same⟩ := List.mem_map.mp member
    exact translated_signed (signed part there) same

theorem assistantParts_signed {parts : List ContentPart}
    (signed : SignedContent decode (.parts parts)) :
    Signed decode ((stripTextAfterToolUse parts).map fun part =>
      (translateAssistantContentPart envelopes part).1) := by
  intro body signature marker member
  obtain ⟨part, there, same⟩ := List.mem_map.mp member
  exact assistantPart_signed (signed part (mem_stripTextAfterToolUse there)) same

theorem appended_signed {content : MessageContent} (signed : SignedContent decode content) :
    Signed decode (appendAssistantMessageBlocks envelopes content).1 := by
  cases content with
  | text text =>
    intro body signature marker member
    rw [appendAssistantMessageBlocks] at member
    by_cases empty : text = ""
    · rw [if_pos empty] at member
      cases member
    · rw [if_neg empty] at member
      cases List.mem_singleton.mp member
  | null =>
    intro body signature marker member
    cases member
  | parts parts => exact assistantParts_signed signed

theorem calls_signed (calls : List Json) (own : List String) :
    Signed decode (emitToolUseBlocksFromCalls read calls own) := by
  intro body signature marker member
  obtain ⟨call, -, same⟩ := List.mem_map.mp member
  cases same

theorem Signed.append {first second : List ContentBlock} (one : Signed decode first)
    (other : Signed decode second) : Signed decode (first ++ second) := by
  intro body signature marker member
  obtain here | there := List.mem_append.mp member
  · exact one body signature marker here
  · exact other body signature marker there

theorem screened_signed {content screened : MessageContent} (signed : SignedContent decode content)
    (survives : Screened content screened) : SignedContent decode screened := by
  cases survives with
  | text body _ => exact signed
  | parts parts => exact fun part member => signed part (List.mem_of_mem_filter member)

/-- What a wire message of a signed history may hold: the blocks of a turn's own details, only
in an assistant message, and signed blocks behind them. -/
structure Admissible (decode : String → Option ByteArray) (envelopes : Bool)
    (messages : List Message) (wire : AnthropicMessage) : Prop where
  filled : wire.role = .assistant → wire.content ≠ .blocks []
  blocks : ∃ details own, wire.blocks = emitReasoningBlocks envelopes details ++ own ∧
    Signed decode own ∧
    (details ≠ [] → wire.role = .assistant ∧ ∃ turn ∈ messages, turn.reasoningDetails = details)

theorem admissible_plain {messages : List Message} {wire : AnthropicMessage}
    (role : wire.role ≠ .assistant) (signed : Signed decode wire.blocks) :
    Admissible decode envelopes messages wire :=
  ⟨fun same => absurd same role, [], wire.blocks, rfl, signed, fun some => absurd rfl some⟩

theorem backstop_filled (content : AnthropicContent) : backstopEmptyBlocks content ≠ .blocks [] := by
  cases content with
  | text body => exact fun same => by cases same
  | blocks blocks =>
    cases blocks with
    | nil => exact fun same => by cases same
    | cons head tail => exact fun same => by cases same

theorem backstop_blocks (content : AnthropicContent) :
    (AnthropicMessage.blocks ⟨.assistant, backstopEmptyBlocks content⟩ =
      AnthropicMessage.blocks ⟨.assistant, content⟩) ∨
    (AnthropicMessage.blocks ⟨.assistant, content⟩ = [] ∧
      AnthropicMessage.blocks ⟨.assistant, backstopEmptyBlocks content⟩ = [.text "" none none]) := by
  cases content with
  | text body => exact Or.inl rfl
  | blocks blocks =>
    cases blocks with
    | nil => exact Or.inr ⟨rfl, rfl⟩
    | cons head tail => exact Or.inl rfl

/-- The backstop adds nothing to blocks that are there. -/
theorem backstop_admissible {messages : List Message} {content : AnthropicContent}
    {details : List ReasoningDetail} {own : List ContentBlock}
    (blocks : AnthropicMessage.blocks ⟨.assistant, content⟩ =
      emitReasoningBlocks envelopes details ++ own) (signed : Signed decode own)
    (told : details ≠ [] → ∃ turn ∈ messages, turn.reasoningDetails = details) :
    Admissible decode envelopes messages ⟨.assistant, backstopEmptyBlocks content⟩ := by
  refine ⟨fun _ => backstop_filled content, ?_⟩
  obtain same | ⟨-, filled⟩ := backstop_blocks content
  · exact ⟨details, own, same.trans blocks, signed, fun some => ⟨rfl, told some⟩⟩
  · refine ⟨[], [.text "" none none], filled, ?_, fun some => absurd rfl some⟩
    intro body signature marker member
    cases List.mem_singleton.mp member

theorem assistant_admissible {messages : List Message} (member : message ∈ messages)
    (signed : SignedContent decode message.content) :
    Admissible decode envelopes messages
      ⟨.assistant, buildAssistantContent envelopes read message⟩ := by
  unfold buildAssistantContent
  by_cases plain : (message.reasoningDetails.isEmpty && !hasToolCalls message) = true
  · rw [if_pos plain]
    refine @backstop_admissible decode envelopes messages _ [] _ rfl ?_ fun some => absurd rfl some
    cases content : message.content with
    | text body =>
      exact @simpleContent_signed decode envelopes (.text body) (content ▸ signed) .assistant
    | null => exact @simpleContent_signed decode envelopes .null (content ▸ signed) .assistant
    | parts parts => exact assistantParts_signed (content ▸ signed)
  · rw [if_neg plain]
    refine backstop_admissible (List.append_assoc _ _ _) ?_ fun _ => ⟨message, member, rfl⟩
    exact (appended_signed signed).append (calls_signed _ _)

theorem TurnEmits.admissible {messages : List Message} {emitted : List AnthropicMessage}
    (emits : TurnEmits policy envelopes read message emitted) (member : message ∈ messages)
    (signed : SignedContent decode message.content) :
    ∀ wire ∈ emitted, Admissible decode envelopes messages wire := by
  intro wire there
  cases emits with
  | lifted => cases there
  | withheld => cases there
  | forwarded screened role forward survives =>
    obtain rfl := List.mem_singleton.mp there
    exact admissible_plain (by simp) (simpleContent_signed (screened_signed signed survives) .system)
  | assistant role =>
    obtain rfl := List.mem_singleton.mp there
    exact assistant_admissible member signed
  | plain =>
    obtain rfl := List.mem_singleton.mp there
    exact admissible_plain (by simp) (simpleContent_signed signed .user)

theorem Walked.admissible {whole messages : List Message} {out : List AnthropicMessage}
    (told : Walked policy envelopes read messages out) (inside : ∀ turn ∈ messages, turn ∈ whole)
    (signed : ∀ turn ∈ messages, SignedContent decode turn.content) :
    ∀ wire ∈ out, Admissible decode envelopes whole wire := by
  induction told with
  | nil => exact fun wire there => by cases there
  | turn message rest emitted out plain emits told ih =>
    intro wire there
    obtain here | later := List.mem_append.mp there
    · exact emits.admissible (inside message List.mem_cons_self)
        (signed message List.mem_cons_self) wire here
    · exact ih (fun turn held => inside turn (List.mem_cons_of_mem _ held))
        (fun turn held => signed turn (List.mem_cons_of_mem _ held)) wire later
  | run run left out nonempty tools ended told ih =>
    intro wire there
    obtain rfl | later := List.mem_cons.mp there
    · apply admissible_plain (by simp [buildToolMessage])
      intro body signature marker member
      obtain ⟨turn, -, same⟩ := List.mem_map.mp member
      cases same
    · exact ih (fun turn held => inside turn (List.mem_append_right _ held))
        (fun turn held => signed turn (List.mem_append_right _ held)) wire later

end Signatures

end Routectl.History
