import Routectl.AnthropicApi.Collecting
import Routectl.AnthropicApi.Types

/-! The chunks of a streamed answer put together, against the same answer read whole. -/
namespace Routectl.AnthropicApi
open Library Schema

/-- The same detail, ids apart. -/
def SameDetail (first second : ReasoningDetail) : Prop :=
  first.kind = second.kind ∧ first.format = second.format ∧ first.index = second.index ∧
    first.payload = second.payload

/-- The same call: the arguments of the first are read as the JSON that the second has
written out. -/
def SameCall (read : String → Option Json) (first second : ToolCall) : Prop :=
  first.id = second.id ∧ first.name = second.name ∧
    ∃ input, readInput read first.arguments = some input ∧
      second.arguments = String.ofList input.compact

/-- The same counts, an absent one read as zero. -/
def SameCounts (first : Option UsageDelta) (second : Option Usage) : Prop :=
  (first.bind UsageDelta.promptTokens).getD 0 = (second.map Usage.promptTokens).getD 0 ∧
    (first.bind UsageDelta.completionTokens).getD 0 = (second.map Usage.completionTokens).getD 0 ∧
    (first.bind UsageDelta.cacheCreationInputTokens).getD 0 =
      (second.bind Usage.cacheCreationInputTokens).getD 0 ∧
    (first.bind UsageDelta.cacheReadInputTokens).getD 0 =
      (second.bind Usage.cacheReadInputTokens).getD 0

/-- The chunks come to this choice of an answer, under these counts. -/
structure Matches (read : String → Option Json) (chunks : List ChatChunk) (choice : Choice)
    (usage : Option Usage) : Prop where
  text : contents chunks = choice.message.content.plainText
  details : List.Forall₂ SameDetail (Schema.details chunks) choice.message.reasoningDetails
  calls : List.Forall₂ (SameCall read) (collectedCalls (fragments chunks))
    ((choice.message.toolCalls.getD []).map readCall)
  finish : (finishes chunks).getLast?.map Prod.fst = choice.finishReason
  matched : (finishes chunks).getLast?.bind Prod.snd = choice.matchedStopSequence
  counts : SameCounts (usages chunks).getLast? usage

/-- The chunks come to the one choice of an answer. -/
def Agrees (read : String → Option Json) (chunks : List ChatChunk) (answer : ChatResponse) : Prop :=
  ∃ choice, answer.choices = [choice] ∧ Matches read chunks choice answer.usage

section Whole
variable {uuid : Nat → String}

def ContentBlock.said : ContentBlock → Option String
  | .text content _ => some content
  | _ => none

def ContentBlock.detail (uuid : Nat → String) (index : Nat) : ContentBlock → Option ReasoningDetail
  | .thinking thought signature => some (makeThinkingDetail (uuid index) index thought signature)
  | .redactedThinking data => some (makeRedactedThinkingDetail (uuid index) index data)
  | _ => none

def ContentBlock.call : ContentBlock → Option Json
  | .toolUse id name input => some (toolCallOf id name input)
  | _ => none

/-- What a walk over blocks adds. -/
theorem walked_blocks (blocks : List ContentBlock) (walked : Walked) :
    (blocks.foldl (Walked.block uuid) walked).textParts =
        walked.textParts ++ blocks.filterMap ContentBlock.said ∧
      (blocks.foldl (Walked.block uuid) walked).reasoningDetails = walked.reasoningDetails ++
        numbered (ContentBlock.detail uuid) walked.detailIndex blocks ∧
      (blocks.foldl (Walked.block uuid) walked).toolCalls =
        walked.toolCalls ++ blocks.filterMap ContentBlock.call ∧
      (blocks.foldl (Walked.block uuid) walked).parts.filterMap ContentPart.text =
        walked.parts.filterMap ContentPart.text ++ blocks.filterMap ContentBlock.said := by
  induction blocks generalizing walked with
  | nil => simp [numbered]
  | cons block rest ih =>
    obtain ⟨texts, details, calls, parts⟩ := ih (walked.block uuid block)
    rw [List.foldl_cons, texts, details, calls, parts]
    cases block <;>
      simp [Walked.block, numbered, counted, List.filterMap_cons, ContentBlock.said,
        ContentBlock.detail, ContentBlock.call, ContentPart.text, makeThinkingDetail,
        makeRedactedThinkingDetail]

theorem plainText_select {texts : List String} {parts : List ContentPart}
    (same : parts.filterMap ContentPart.text = texts) :
    (selectMessageContent (String.join texts) parts).plainText = String.join texts := by
  unfold selectMessageContent
  split
  case isTrue => rfl
  case isFalse => rw [MessageContent.plainText, same]

/-- What a whole answer is read into. -/
theorem normalize_reads (uuid : Nat → String) (response : AnthropicResponse) :
    ∃ choice, (normalize uuid response).choices = [choice] ∧
      choice.message.content.plainText =
        String.join (response.content.filterMap ContentBlock.said) ∧
      choice.message.reasoningDetails =
        numbered (ContentBlock.detail uuid) 0 response.content ∧
      choice.message.toolCalls.getD [] = response.content.filterMap ContentBlock.call ∧
      choice.finishReason = mapStopReason response.stopReason ∧
      choice.matchedStopSequence = matchedStop response.stopReason response.stopSequence := by
  obtain ⟨texts, reasoning, calls, parts⟩ := @walked_blocks uuid response.content {}
  refine ⟨_, rfl, ?_, reasoning, ?_, rfl, rfl⟩
  · rw [← List.nil_append (response.content.filterMap ContentBlock.said), ← texts]
    exact plainText_select (parts.trans texts.symm)
  · rw [← List.nil_append (response.content.filterMap ContentBlock.call), ← calls]
    dsimp only
    split
    case isTrue empty => exact (List.isEmpty_iff.mp empty).symm
    case isFalse => rfl

end Whole

section Counts

theorem positive_getD (count : Option Nat) : (positive count).getD 0 = count.getD 0 := by
  cases count with
  | none => rfl
  | some count =>
    unfold positive
    rw [Option.filter_some]
    split
    · rfl
    · simp at *
      omega

theorem pickInput_getD {usage : Option SseDeltaUsage} {delta opening : Option Nat} {count : Nat}
    (opens : opening.getD 0 = count) (states : delta.getD 0 = count ∨ delta = none) :
    (pickInput usage delta opening).getD 0 = count := by
  have placeholder : (pickPlaceholder delta opening).getD 0 = count := by
    unfold pickPlaceholder
    rcases states with stated | missing
    · cases picked : positive delta with
      | some value =>
        have same := positive_getD delta
        rw [picked] at same
        exact same.trans stated
      | none => rw [Option.none_or, positive_getD, opens]
    · rw [missing]
      exact (positive_getD opening).trans opens
  unfold pickInput
  split
  case isTrue =>
    cases delta with
    | some value =>
      rcases states with stated | missing
      · exact stated
      · cases missing
    | none => exact (positive_getD opening).trans opens
  case isFalse => exact placeholder

theorem mergedPromptTokens_getD (usage : Option SseDeltaUsage)
    (captured : Option CapturedInputUsage) :
    (mergedPromptTokens usage captured).getD 0 = sumPromptTokens
      ((pickRawInput usage captured).getD 0) ((pickCacheCreation usage captured).getD 0)
      ((pickCacheRead usage captured).getD 0) := by
  unfold mergedPromptTokens
  split
  case h_1 input creation read => rw [input, creation, read]; rfl
  case h_2 => rfl

/-- Counts opened and closed in either way come to the counts of the whole answer. -/
theorem mergedUsage_counts {usage opening : Option AnthropicUsage} {closing : Option SseDeltaUsage}
    (opens : Opens usage opening) (closes : Closes usage closing) :
    SameCounts (mergedUsage closing (opening.map captureInput)) (usage.map translateUsage) := by
  cases usage with
  | none =>
    cases opening with
    | some => cases opens
    | none =>
      cases closing with
      | some => cases closes
      | none => exact ⟨rfl, rfl, rfl, rfl⟩
  | some usage =>
    cases opening with
    | none => cases opens
    | some opening =>
      cases closing with
      | none => cases closes
      | some closing =>
        obtain ⟨input, creation, read⟩ := opens
        obtain ⟨output, stated⟩ := closes
        have rawInput : (pickRawInput (some closing) (some (captureInput opening))).getD 0 =
            usage.inputTokens := by
          apply pickInput_getD
          · exact input
          · rcases stated with ⟨own, -, -⟩ | ⟨none, -, -⟩
            · exact .inl (by simp [own])
            · exact .inr none
        have cacheCreation : (pickCacheCreation (some closing) (some (captureInput opening))).getD 0 =
            usage.cacheCreationInputTokens.getD 0 := by
          apply pickInput_getD
          · exact creation
          · rcases stated with ⟨-, own, -⟩ | ⟨-, none, -⟩
            · exact .inl own
            · exact .inr none
        have cacheRead : (pickCacheRead (some closing) (some (captureInput opening))).getD 0 =
            usage.cacheReadInputTokens.getD 0 := by
          apply pickInput_getD
          · exact read
          · rcases stated with ⟨-, -, own⟩ | ⟨-, -, none⟩
            · exact .inl own
            · exact .inr none
        refine ⟨?_, ?_, cacheCreation, cacheRead⟩
        · have prompt := mergedPromptTokens_getD (some closing) (some (captureInput opening))
          rw [rawInput, cacheCreation, cacheRead] at prompt
          exact prompt
        · exact congrArg (fun count => Option.getD count 0) output

end Counts

section Numbering
variable {Item : Type*} {fragmentsOf : Nat → Item → Option (List Json)}
variable {callOf : Item → Option ToolCall} {items : List Item}

theorem toolDelta_index {callIndex : Nat} (small : callIndex < 2 ^ 64) (id name partialJson : String) :
    toolCallIndex (SseState.toolDelta callIndex id name partialJson) = callIndex := by
  have found : (SseState.toolDelta callIndex id name partialJson).field "index" =
      some (.number (toString callIndex)) := rfl
  rw [toolCallIndex, found, Option.bind_some, Json.asU64_toString small, Option.getD_some]

/-- The fragments of one call. -/
theorem collected_inputs {callIndex : Nat} (small : callIndex < 2 ^ 64) (id name : String)
    {inputs : List String} (given : inputs ≠ []) :
    collectedCalls (inputs.map (SseState.toolDelta callIndex id name)) =
      [⟨id, name, String.join inputs⟩] := by
  have indexed : (inputs.map (SseState.toolDelta callIndex id name)).map toolCallIndex =
      inputs.map fun _ => callIndex := by
    rw [List.map_map]
    exact List.map_congr_left fun partialJson _ => toolDelta_index small id name partialJson
  have once : (inputs.map fun _ => callIndex).eraseDups = [callIndex] := by
    cases inputs with
    | nil => exact absurd rfl given
    | cons first rest =>
      have others : (rest.map fun _ => callIndex).filter (fun index => !index == callIndex) = [] := by
        simp
      rw [List.map_cons, List.eraseDups_cons, others, List.eraseDups_nil]
  have own : (inputs.map (SseState.toolDelta callIndex id name)).filter
      (fun fragment => toolCallIndex fragment = callIndex) =
        inputs.map (SseState.toolDelta callIndex id name) := by
    apply List.filter_eq_self.mpr
    intro fragment member
    obtain ⟨partialJson, -, rfl⟩ := List.mem_map.mp member
    exact decide_eq_true (toolDelta_index small id name partialJson)
  rw [collectedCalls, indexed, once, List.map_singleton,
    gathered_given own given (fun _ => rfl) (fun _ => rfl) (fun _ => rfl)]

/-- An item is one call, its fragments under one index, or it is none. -/
def OneCall (fragmentsOf : Nat → Item → Option (List Json)) (callOf : Item → Option ToolCall)
    (item : Item) : Prop :=
  ((∀ callIndex, fragmentsOf callIndex item = none) ∧ callOf item = none) ∨
    ∃ id name inputs,
      (∀ callIndex, fragmentsOf callIndex item =
        some (inputs.map (SseState.toolDelta callIndex id name))) ∧
      callOf item = if inputs = [] then none else some ⟨id, name, String.join inputs⟩

theorem callIndex_le {callIndex : Nat} (each : ∀ item ∈ items, OneCall fragmentsOf callOf item)
    (small : callIndex + items.length ≤ 2 ^ 64) :
    ∀ fragment ∈ (numbered fragmentsOf callIndex items).flatten,
      callIndex ≤ toolCallIndex fragment := by
  induction items generalizing callIndex with
  | nil => simp [numbered]
  | cons item rest ih =>
    rw [List.length_cons] at small
    obtain ⟨first, others⟩ := List.forall_mem_cons.mp each
    intro fragment member
    rw [numbered, List.flatten_append, List.mem_append] at member
    rcases first with ⟨silent, -⟩ | ⟨id, name, inputs, given, -⟩
    · rw [silent] at member
      rcases member with own | later
      · cases own
      · exact @ih callIndex others (by omega) fragment later
    · rw [given] at member
      rcases member with own | later
      · have inside : fragment ∈ inputs.map (SseState.toolDelta callIndex id name) := by
          simpa using own
        obtain ⟨partialJson, -, rfl⟩ := List.mem_map.mp inside
        rw [toolDelta_index (by omega)]
      · have above := @ih (callIndex + 1) others (by omega) fragment later
        omega

/-- Numbered fragments come to one call for each item that had any. -/
theorem collected_numbered {callIndex : Nat}
    (each : ∀ item ∈ items, OneCall fragmentsOf callOf item)
    (small : callIndex + items.length ≤ 2 ^ 64) :
    collectedCalls (numbered fragmentsOf callIndex items).flatten = items.filterMap callOf := by
  induction items generalizing callIndex with
  | nil => rfl
  | cons item rest ih =>
    rw [List.length_cons] at small
    obtain ⟨first, others⟩ := List.forall_mem_cons.mp each
    rw [numbered, List.flatten_append, List.filterMap_cons]
    rcases first with ⟨silent, uncalled⟩ | ⟨id, name, inputs, given, called⟩
    · rw [silent, uncalled]
      exact @ih callIndex others (by omega)
    · rw [given, called]
      have apart : ∀ fragment ∈ inputs.map (SseState.toolDelta callIndex id name),
          ∀ other ∈ (numbered fragmentsOf (callIndex + 1) rest).flatten,
            toolCallIndex fragment ≠ toolCallIndex other := by
        intro fragment member other later
        obtain ⟨partialJson, -, rfl⟩ := List.mem_map.mp member
        have above := @callIndex_le Item fragmentsOf callOf rest (callIndex + 1) others (by omega)
          other later
        rw [toolDelta_index (by omega)]
        omega
      have joined := collectedCalls_append apart
      rw [@ih (callIndex + 1) others (by omega)] at joined
      have single : (some (inputs.map (SseState.toolDelta callIndex id name))).toList.flatten =
          inputs.map (SseState.toolDelta callIndex id name) := by simp
      rw [single]
      refine joined.trans ?_
      by_cases empty : inputs = []
      · rw [if_pos empty, empty]
        rfl
      · rw [if_neg empty, collected_inputs (by omega) id name empty]
        rfl

end Numbering

section Blocks
variable {read : String → Option Json} {uuid other : Nat → String}

/-- The last part of the signature is all of it. -/
def CutBlock.SignedWhole (cut : CutBlock read) : Prop :=
  match cut.block with
  | .thinking _ signature => cut.lastSigned.getD "" = signature
  | _ => True

/-- A call has a delta of its input. -/
def CutBlock.InputGiven (cut : CutBlock read) : Prop :=
  match cut.block with
  | .toolUse _ _ _ => cut.deltas ≠ []
  | _ => True

theorem sameDetail_thinking {id otherId : String} {index : Nat} {thinking signature whole : String} :
    SameDetail (makeThinkingDetail id index thinking signature)
      (makeThinkingDetail otherId index thinking whole) ↔ signature = whole := by
  constructor
  · rintro ⟨-, -, -, payload⟩
    simpa [makeThinkingDetail] using payload
  · rintro rfl
    exact ⟨rfl, rfl, rfl, rfl⟩

theorem joined_texts (cuts : List (CutBlock read)) :
    String.join (cuts.map CutBlock.text) =
      String.join ((cuts.map CutBlock.block).filterMap ContentBlock.said) := by
  induction cuts with
  | nil => rfl
  | cons cut rest ih =>
    obtain ⟨block, deltas, proper⟩ := cut
    rw [List.map_cons, String.join_cons, ih]
    cases proper with
    | text nonempty kinds joined => exact String.join_cons.symm
    | _ => exact String.empty_append

/-- The details agree where every signature came whole in its last part. -/
theorem sameDetails_iff (cuts : List (CutBlock read)) (index : Nat) :
    List.Forall₂ SameDetail (numbered (CutBlock.detail uuid) index cuts)
      (numbered (ContentBlock.detail other) index (cuts.map CutBlock.block)) ↔
      ∀ cut ∈ cuts, cut.SignedWhole := by
  induction cuts generalizing index with
  | nil => simp [numbered]
  | cons cut rest ih =>
    obtain ⟨block, deltas, proper⟩ := cut
    have later := ih (index + 1)
    have quiet := ih index
    cases proper with
    | text nonempty kinds joined =>
      simpa [numbered, counted, CutBlock.detail, ContentBlock.detail, CutBlock.SignedWhole]
        using quiet
    | thinking nonempty kinds joined signed =>
      simp [numbered, counted, CutBlock.detail, ContentBlock.detail, CutBlock.SignedWhole,
        sameDetail_thinking, later]
    | redactedThinking data =>
      have same : SameDetail (makeRedactedThinkingDetail (uuid index) index data)
          (makeRedactedThinkingDetail (other index) index data) := ⟨rfl, rfl, rfl, rfl⟩
      simp [numbered, counted, CutBlock.detail, ContentBlock.detail, CutBlock.SignedWhole, later,
        same]
    | toolUse kinds written =>
      simpa [numbered, counted, CutBlock.detail, ContentBlock.detail, CutBlock.SignedWhole]
        using quiet

/-- The call that the fragments of a cut come to, where there are any. -/
def CutBlock.call (cut : CutBlock read) : Option ToolCall :=
  match cut.block with
  | .toolUse id name _ =>
    if cut.deltas = [] then none
    else some ⟨id, name, String.join (cut.deltas.filterMap SseDelta.input)⟩
  | _ => none

theorem inputs_nil_iff {deltas : List SseDelta} (kinds : ∀ delta ∈ deltas, delta.input.isSome) :
    deltas.filterMap SseDelta.input = [] ↔ deltas = [] := by
  constructor
  · intro none
    cases deltas with
    | nil => rfl
    | cons delta rest =>
      have given := kinds delta (List.mem_cons_self ..)
      rw [List.filterMap_eq_nil_iff.mp none delta (List.mem_cons_self ..)] at given
      cases given
  · rintro rfl
    rfl

theorem callFragments_cases (cut : CutBlock read) :
    OneCall CutBlock.callFragments CutBlock.call cut := by
  obtain ⟨block, deltas, proper⟩ := cut
  cases proper with
  | @toolUse id name input _ kinds written =>
    exact .inr ⟨id, name, deltas.filterMap SseDelta.input, fun _ => rfl,
      by simp only [CutBlock.call, inputs_nil_iff kinds]⟩
  | _ => exact .inl ⟨fun _ => rfl, rfl⟩

/-- The fragments of all blocks come to one call for each block that had any. -/
theorem collected_fragments (cuts : List (CutBlock read)) (callIndex : Nat)
    (small : callIndex + cuts.length ≤ 2 ^ 64) :
    collectedCalls (numbered CutBlock.callFragments callIndex cuts).flatten =
      cuts.filterMap CutBlock.call :=
  collected_numbered (fun cut _ => callFragments_cases cut) small

/-- The calls agree where every call had a delta. -/
theorem sameCalls_iff (cuts : List (CutBlock read)) :
    List.Forall₂ (SameCall read) (cuts.filterMap CutBlock.call)
      (((cuts.map CutBlock.block).filterMap ContentBlock.call).map readCall) ↔
      ∀ cut ∈ cuts, cut.InputGiven := by
  have whole : ((cuts.map CutBlock.block).filterMap ContentBlock.call).map readCall =
      cuts.filterMap fun cut => cut.block.call.map readCall := by
    rw [List.filterMap_map, List.map_filterMap]
    rfl
  rw [whole, forall₂_filterMap_iff]
  · apply forall₂_congr
    rintro ⟨block, deltas, proper⟩ member
    cases proper with
    | toolUse kinds written =>
      by_cases empty : deltas = [] <;>
        simp [CutBlock.call, CutBlock.InputGiven, ContentBlock.call, empty]
    | _ => exact iff_of_true nofun trivial
  · rintro ⟨block, deltas, proper⟩ member
    cases proper with
    | @toolUse id name input _ kinds written =>
      refine .inr ⟨readCall (toolCallOf id name input), rfl, ?_⟩
      intro given called
      simp only [CutBlock.call] at called
      split at called
      · cases called
      · cases called
        exact ⟨rfl, rfl, input, written, rfl⟩
    | _ => exact .inl ⟨rfl, rfl⟩

end Blocks

section Streams
variable {read : String → Option Json} {uuid other : Nat → String}
variable {response : AnthropicResponse} {cuts : List (CutBlock read)} {events : List SseEvent}

theorem adds_role (state : SseState) : Adds [state.roleChunk] "" [] [] := by
  constructor <;> simp [contents, details, fragments, finishes, usages, SseState.roleChunk,
    SseState.deltaChunk]

/-- What the chunk of a closing delta says. -/
theorem closing_reads (state : SseState) (delta : SseMessageDelta) (usage : Option SseDeltaUsage) :
    contents (state.messageDeltaChunk delta usage).toList = "" ∧
      details (state.messageDeltaChunk delta usage).toList = [] ∧
      fragments (state.messageDeltaChunk delta usage).toList = [] ∧
      finishes (state.messageDeltaChunk delta usage).toList =
        ((mapStopReason delta.stopReason).map fun finishReason =>
          (finishReason, matchedStop delta.stopReason delta.stopSequence)).toList ∧
      usages (state.messageDeltaChunk delta usage).toList =
        (mergedUsage usage state.capturedInputUsage).toList := by
  unfold SseState.messageDeltaChunk
  cases mapStopReason delta.stopReason <;> cases mergedUsage usage state.capturedInputUsage <;>
    simp [contents, details, fragments, finishes, usages]

/-- The two events that end a stream. -/
theorem decode_closing {state : SseState} (empty : state.pendingOpaque = []) (delta : SseMessageDelta)
    (usage : Option SseDeltaUsage) :
    ∃ final, decode uuid state [.messageDelta delta usage, .messageStop] =
      .ok (final, (state.messageDeltaChunk delta usage).toList) := by
  have stopped : ∀ next : SseState, next.pendingOpaque = [] →
      next.applyEvent uuid .messageStop = .ok ({ next with completedThinking := [] }, none) := by
    intro next nothing
    apply applyEvent_silent
    rw [SseState.dispatchEvent, nothing]
    rfl
  have dispatched : state.dispatchEvent uuid (.messageDelta delta usage) =
      .ok (state, state.messageDeltaChunk delta usage) := rfl
  cases said : state.messageDeltaChunk delta usage with
  | none =>
    rw [said] at dispatched
    exact ⟨_, decode_cons (applyEvent_silent dispatched) (decode_cons (stopped state empty) rfl)⟩
  | some chunk =>
    have plain : chunk.opaqueEvents = [] := by
      unfold SseState.messageDeltaChunk at said
      dsimp only at said
      split at said
      · cases said
      · obtain rfl := Option.some.inj said
        rfl
    rw [said] at dispatched
    exact ⟨_, decode_cons (applyEvent_emitting dispatched empty plain)
      (decode_cons (stopped _ rfl) rfl)⟩

/-- A serialized answer, read to its end. -/
theorem decode_serialized (serialized : Serializes response cuts events) (uuid : Nat → String)
    (vendorOpening : Bool) :
    ∃ final chunks opening closing,
      decode uuid { vendorOpening := vendorOpening } events = .ok (final, chunks) ∧
      Opens response.usage opening ∧ Closes response.usage closing ∧
      contents chunks = String.join (cuts.map CutBlock.text) ∧
      details chunks = numbered (CutBlock.detail uuid) 0 cuts ∧
      fragments chunks = (numbered CutBlock.callFragments 0 cuts).flatten ∧
      finishes chunks = ((mapStopReason response.stopReason).map fun finishReason =>
        (finishReason, matchedStop response.stopReason response.stopSequence)).toList ∧
      usages chunks = (mergedUsage closing (opening.map captureInput)).toList := by
  obtain ⟨opening, closing, framed, opens, closes⟩ := serialized.framed
  let fresh : SseState := { vendorOpening := vendorOpening }
  let started : SseState := { fresh with
    id := response.id
    model := response.model
    capturedInputUsage := opening.map captureInput }
  have begun : fresh.applyEvent uuid (.messageStart ⟨response.id, response.model, opening⟩) =
      .ok ({ started with roleEmitted := true, canonicalChunkEmitted := true, pendingOpaque := [] },
        some started.roleChunk) := by
    have dispatched : fresh.dispatchEvent uuid (.messageStart ⟨response.id, response.model, opening⟩) =
        .ok ({ started with roleEmitted := true }, some started.roleChunk) := by
      cases opening <;> rfl
    exact applyEvent_emitting dispatched rfl rfl
  obtain ⟨rested, bodyChunks, body, adds, rests, passes⟩ := @reads_body read uuid
    { started with roleEmitted := true, canonicalChunkEmitted := true, pendingOpaque := [] }
    ⟨rfl, rfl, rfl⟩ cuts 0
  obtain ⟨text, reasoning, calls, finish, counts⟩ := closing_reads rested
    ⟨response.stopReason, response.stopSequence⟩ closing
  rw [passes.captured] at counts
  obtain ⟨final, ending⟩ := @decode_closing uuid rested rests.empty
    ⟨response.stopReason, response.stopSequence⟩ closing
  have whole := decode_cons begun (decode_append body ending)
  rw [← framed, decode_filter_ping] at whole
  have spoken := (adds_role started).append adds
  refine ⟨final, _, opening, closing, whole, opens, closes, ?_, ?_, ?_, ?_, ?_⟩
  · rw [Option.toList_some, ← List.append_assoc, contents_append, spoken.text, text]
    simp
  · rw [Option.toList_some, ← List.append_assoc, details_append, spoken.details, reasoning]
    simp [started, fresh]
  · rw [Option.toList_some, ← List.append_assoc, fragments_append, spoken.fragments, calls]
    simp [started, fresh]
  · rw [Option.toList_some, ← List.append_assoc, finishes_append, spoken.unfinished, finish]
    rfl
  · rw [Option.toList_some, ← List.append_assoc, usages_append, spoken.uncounted, counts]
    rfl

/-- A serialized answer comes to the same as the answer read whole exactly where every
call has a delta of its input and every signature came whole in its last part. -/
theorem stream_agrees_iff (serialized : Serializes response cuts events)
    (uuid other : Nat → String) (vendorOpening : Bool) :
    ∃ final chunks, decode uuid { vendorOpening := vendorOpening } events = .ok (final, chunks) ∧
      (Agrees read chunks (normalize other response) ↔
        ∀ cut ∈ cuts, cut.InputGiven ∧ cut.SignedWhole) := by
  obtain ⟨final, chunks, opening, closing, decoded, opens, closes, texts, reasoning, calls, finish,
    counts⟩ := decode_serialized serialized uuid vendorOpening
  refine ⟨final, chunks, decoded, ?_⟩
  obtain ⟨choice, single, text, details, toolCalls, finishReason, matched⟩ :=
    normalize_reads other response
  have sameDetails := @sameDetails_iff read uuid other cuts 0
  have sameCalls := sameCalls_iff cuts
  have small := serialized.small
  rw [serialized.content, ← details, ← reasoning] at sameDetails
  rw [serialized.content, ← toolCalls, ← @collected_fragments read cuts 0 (by omega), ← calls]
    at sameCalls
  constructor
  · rintro ⟨held, alone, agree⟩
    obtain rfl := List.singleton_inj.mp (single.symm.trans alone)
    exact fun cut member => ⟨sameCalls.mp agree.calls cut member,
      sameDetails.mp agree.details cut member⟩
  · intro whole
    refine ⟨choice, single, ?_⟩
    refine ⟨?_, sameDetails.mpr fun cut member => (whole cut member).2,
      sameCalls.mpr fun cut member => (whole cut member).1, ?_, ?_, ?_⟩
    · rw [texts, text, joined_texts, serialized.content]
    · rw [finish, finishReason]
      cases mapStopReason response.stopReason <;> rfl
    · rw [finish, matched]
      cases response.stopReason <;> rfl
    · have last : (mergedUsage closing (opening.map captureInput)).toList.getLast? =
          mergedUsage closing (opening.map captureInput) := by
        cases mergedUsage closing (opening.map captureInput) <;> rfl
      rw [counts, last]
      exact mergedUsage_counts opens closes

end Streams

section Answers

/-- A reader that knows one input. -/
def readQuery (text : String) : Option Json :=
  if text = "\x7b\"q\":1\x7d" then some (.object [("q", .number "1")]) else none

def queryAnswer : AnthropicResponse :=
  { id := "msg_1"
    model := "claude"
    content := [.thinking "so" "sig", .text "hello" none,
      .toolUse "call_1" "find" (.object [("q", .number "1")])]
    stopReason := some "tool_use"
    usage := some { inputTokens := 3, outputTokens := 5, cacheReadInputTokens := some 2 } }

def queryCuts : List (CutBlock readQuery) :=
  [⟨.thinking "so" "sig", [.thinkingDelta "s", .thinkingDelta "o", .signatureDelta "sig"],
      .thinking (.inl (by decide)) (by simp [SseDelta.thought, SseDelta.signed]) rfl rfl⟩,
    ⟨.text "hello" none, [.textDelta "he", .textDelta "llo"],
      .text (by decide) (by simp [SseDelta.said]) rfl⟩,
    ⟨.toolUse "call_1" "find" (.object [("q", .number "1")]),
      [.inputJsonDelta "\x7b\"q\":", .inputJsonDelta "1\x7d"],
      .toolUse (by simp [SseDelta.input]) rfl⟩]

/-- The answer streamed with a ping and only the output counts at its end. -/
def queryEvents : List SseEvent :=
  .messageStart ⟨"msg_1", "claude",
      some { inputTokens := 3, outputTokens := 1, cacheReadInputTokens := some 2 }⟩ ::
    .ping :: (bodyEvents 0 queryCuts ++
      [.messageDelta ⟨some "tool_use", none⟩ (some { outputTokens := some 5 }), .messageStop])

theorem query_serialized : Serializes queryAnswer queryCuts queryEvents where
  content := rfl
  small := by decide
  framed := ⟨some { inputTokens := 3, outputTokens := 1, cacheReadInputTokens := some 2 },
    some { outputTokens := some 5 }, rfl, ⟨rfl, rfl, rfl⟩, rfl, .inr ⟨rfl, rfl, rfl⟩⟩

theorem query_stream_agrees :
    ∃ final chunks, decode (fun _ => "id") { vendorOpening := true } queryEvents =
        .ok (final, chunks) ∧
      Agrees readQuery chunks (normalize (fun _ => "id") queryAnswer) := by
  obtain ⟨final, chunks, decoded, agrees⟩ :=
    stream_agrees_iff query_serialized (fun _ => "id") (fun _ => "id") true
  refine ⟨final, chunks, decoded, agrees.mpr ?_⟩
  simp only [queryCuts, List.forall_mem_cons]
  exact ⟨⟨trivial, rfl⟩, ⟨trivial, trivial⟩, ⟨List.cons_ne_nil _ _, trivial⟩, by simp⟩

/-- A call of no arguments, its input in no delta. -/
def emptyCall : CutBlock readQuery :=
  ⟨.toolUse "call_1" "list" (.object []), [], .toolUse (by simp) rfl⟩

def emptyCallAnswer : AnthropicResponse :=
  { id := "msg_1", model := "claude", content := [emptyCall.block], stopReason := some "tool_use" }

def emptyCallEvents : List SseEvent :=
  .messageStart ⟨"msg_1", "claude", none⟩ :: (bodyEvents 0 [emptyCall] ++
    [.messageDelta ⟨some "tool_use", none⟩ none, .messageStop])

theorem empty_call_lost :
    Serializes emptyCallAnswer [emptyCall] emptyCallEvents ∧
      ∃ final chunks, decode (fun _ => "id") {} emptyCallEvents = .ok (final, chunks) ∧
        ¬ Agrees readQuery chunks (normalize (fun _ => "id") emptyCallAnswer) := by
  refine ⟨⟨rfl, by decide, none, none, rfl, trivial, trivial⟩, _, _, rfl, ?_⟩
  rintro ⟨choice, single, agree⟩
  obtain rfl := List.singleton_inj.mp single
  exact absurd agree.calls.length_eq (by decide)

end Answers
end Routectl.AnthropicApi
