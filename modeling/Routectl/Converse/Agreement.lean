import Routectl.AnthropicApi.Agreement
import Routectl.Converse.Types
import Routectl.Converse.Serialization

/-! A Converse answer streamed in any documented frames against the same answer read
whole: where the two agree, and the three places they part. -/
namespace Routectl.Converse
open Library Schema
open Routectl.AnthropicApi (Adds OneCall SameCall collected_numbered counted
  makeRedactedThinkingDetail makeThinkingDetail mapStopReason numbered plainText_select readInput
  selectMessageContent toolCallOf SseState.toolDelta)
open Routectl.Bedrock (Bytes)

/-- A payload with a missing signature read as empty. -/
def readSignature : Json → Json
  | .object fields =>
    .object (fields.map fun (name, value) =>
      match name, value with
      | "signature", .null => (name, .string "")
      | _, _ => (name, value))
  | other => other

/-- The same detail, ids apart. -/
def SameDetail (first second : ReasoningDetail) : Prop :=
  first.kind = second.kind ∧ first.format = second.format ∧ first.index = second.index ∧
    readSignature first.payload = readSignature second.payload

/-- The same counts, the total among them. -/
def SameCounts (first : Option UsageDelta) (second : Option Usage) : Prop :=
  first.bind UsageDelta.promptTokens = second.map Usage.promptTokens ∧
    first.bind UsageDelta.completionTokens = second.map Usage.completionTokens ∧
    first.bind UsageDelta.totalTokens = second.map Usage.totalTokens ∧
    first.bind UsageDelta.cacheCreationInputTokens = second.bind Usage.cacheCreationInputTokens ∧
    first.bind UsageDelta.cacheReadInputTokens = second.bind Usage.cacheReadInputTokens ∧
    first.bind UsageDelta.cacheCreation = second.bind Usage.cacheCreation

/-- The chunks come to this choice of an answer, under these counts. -/
structure Matches (read : String → Option Json) (chunks : List ChatChunk) (choice : Choice)
    (usage : Option Usage) : Prop where
  text : contents chunks = choice.message.content.plainText
  details : List.Forall₂ SameDetail (Schema.details chunks) choice.message.reasoningDetails
  calls : List.Forall₂ (SameCall read) (collectedCalls (fragments chunks))
    ((choice.message.toolCalls.getD []).map readCall)
  finish : (finishes chunks).getLast?.map Prod.fst = choice.finishReason
  matched : (finishes chunks).getLast?.bind Prod.snd = choice.matchedStopSequence
  counts : SameCounts (usages chunks).getLast? usage

/-- The chunks come to the one choice of an answer. -/
def Agrees (read : String → Option Json) (chunks : List ChatChunk) (answer : ChatResponse) : Prop :=
  ∃ choice, answer.choices = [choice] ∧ Matches read chunks choice answer.usage

/-- A total of zero is stated of nothing alone. -/
def TotalStated (usage : ConverseUsage) : Prop :=
  usage.totalTokens = some 0 →
    usage.inputTokens = 0 ∧ usage.cacheWriteInputTokens.getD 0 = 0 ∧
      usage.cacheReadInputTokens.getD 0 = 0 ∧ usage.outputTokens = 0

namespace ConverseResponseContentBlock

def said : ConverseResponseContentBlock → Option String
  | .text told => some told
  | _ => none

def withheld : ConverseResponseContentBlock → Bool
  | .reasoningContent content => content.redactedContent.isSome
  | _ => false

def call : ConverseResponseContentBlock → Option Json
  | .toolUse ⟨toolUseId, name, input⟩ => some (toolCallOf toolUseId name input)
  | _ => none

def nextCall (callIndex : Nat) : ConverseResponseContentBlock → Nat
  | .toolUse _ => bump callIndex
  | _ => callIndex

/-- The detail that the stream gives of a block, and the index it goes on from: what is
withheld takes two, the first for a thought that never comes. -/
def streamed (uuid : Nat → String) (index : Nat) :
    ConverseResponseContentBlock → List ReasoningDetail × Nat
  | .reasoningContent ⟨some reasoning, _⟩ =>
    ([makeThinkingDetail (uuid index) index reasoning.text (reasoning.signature.getD "")],
      bump index)
  | .reasoningContent ⟨none, some data⟩ =>
    ([makeRedactedThinkingDetail (uuid (bump index)) (bump index) data], bump (bump index))
  | _ => ([], index)

/-- The details that the whole body gives of a block, and the index it goes on from. -/
def whole (uuid : Nat → String) (index : Nat) :
    ConverseResponseContentBlock → List ReasoningDetail × Nat
  | .reasoningContent ⟨some reasoning, some data⟩ =>
    ([textDetail uuid index reasoning, redactedDetail uuid (bump index) data], bump (bump index))
  | .reasoningContent ⟨some reasoning, none⟩ => ([textDetail uuid index reasoning], bump index)
  | .reasoningContent ⟨none, some data⟩ => ([redactedDetail uuid index data], bump index)
  | _ => ([], index)

end ConverseResponseContentBlock

/-- The details of all blocks, each numbered from where the one before it left off. -/
def detailsOver (give : Nat → ConverseResponseContentBlock → List ReasoningDetail × Nat) :
    Nat → List ConverseResponseContentBlock → List ReasoningDetail
  | _, [] => []
  | index, block :: rest => (give index block).1 ++ detailsOver give (give index block).2 rest

section Blocks
variable {read : String → Option Json} {uuid other : Nat → String} {state : ConverseStreamState}

def CutBlock.callFragments (callIndex : Nat) (cut : CutBlock read) : Option (List Json) :=
  match cut.block with
  | .toolUse toolUse =>
    some ((cut.deltas.filterMap StreamDelta.input).map
      (SseState.toolDelta callIndex toolUse.toolUseId toolUse.name))
  | _ => none

/-- The call that the fragments of a cut come to, where there are any. -/
def CutBlock.call (cut : CutBlock read) : Option ToolCall :=
  match cut.block with
  | .toolUse toolUse =>
    if cut.deltas.filterMap StreamDelta.input = [] then none
    else some ⟨toolUse.toolUseId, toolUse.name,
      String.join (cut.deltas.filterMap StreamDelta.input)⟩
  | _ => none

/-- A call has a delta of its input. -/
def CutBlock.InputGiven (cut : CutBlock read) : Prop :=
  match cut.block with
  | .toolUse _ => cut.deltas ≠ []
  | _ => True

theorem inputs_map (pieces : List String) :
    (pieces.map StreamDelta.toolUse).filterMap StreamDelta.input = pieces := by
  rw [List.filterMap_map]
  exact List.filterMap_some

theorem adds_texts (pieces : List String) :
    Adds (pieces.map textChunk) (String.join pieces) [] [] := by
  induction pieces with
  | nil => exact .nil
  | cons piece rest ih =>
    have adds := (adds_deltas [{ content := some piece }]).append ih
    rw [String.join_cons]
    exact adds

theorem adds_inputs (id name : String) (callIndex : Nat) (pieces : List String) :
    Adds (pieces.map (toolDeltaChunk id name callIndex)) "" []
      (pieces.map (SseState.toolDelta callIndex id name)) := by
  induction pieces with
  | nil => exact .nil
  | cons piece rest ih =>
    exact (adds_deltas
      [{ toolCalls := some [SseState.toolDelta callIndex id name piece] }]).append ih

theorem adds_thoughts (pieces : List String) : Adds (pieces.map reasoningTextChunk) "" [] [] := by
  induction pieces with
  | nil => exact .nil
  | cons piece rest ih => exact (adds_deltas [{ reasoning := some piece }]).append ih

variable (rests : ∀ index, state.blocks index = none)
include rests

/-- What the events of one block come to. -/
theorem reads_block (cut : CutBlock read) (index : Nat) :
    ∃ chunks, state.applyAll uuid (cut.events index) =
        ({ state with
            nextDetailIndex := (cut.block.streamed uuid state.nextDetailIndex).2
            nextCallIndex := cut.block.nextCall state.nextCallIndex }, chunks) ∧
      Adds chunks (cut.block.said.getD "") (cut.block.streamed uuid state.nextDetailIndex).1
        ((cut.callFragments state.nextCallIndex).getD []) := by
  obtain ⟨block, deltas, proper⟩ := cut
  cases proper with
  | @text text pieces joined =>
    obtain ⟨opened, read, left⟩ :=
      @applyAll_texts uuid state index (.inr (rests index)) pieces
    have stopped : opened.handleBlockStop index = (state, []) := by
      rcases left with same | put
      · rw [same, ConverseStreamState.handleBlockStop, rests index]
        simp only [removed_absent (rests index)]
      · rw [put, ConverseStreamState.handleBlockStop, put_blocks]
        simp only [removed_put (rests index)]
    refine ⟨pieces.map textChunk, ?_, ?_⟩
    · simp only [CutBlock.events, startEvents, List.nil_append, List.map_map, Function.comp_def,
        applyAll_append, read, ConverseStreamState.applyAll, ConverseStreamState.apply, stopped,
        List.append_nil]
      rfl
    · have adds := adds_texts pieces
      rw [joined] at adds
      exact adds
  | @toolUse toolUse pieces written =>
    have read := @applyAll_inputs uuid
      ({ state with nextCallIndex := bump state.nextCallIndex }.put index
        (.toolUse toolUse.toolUseId toolUse.name state.nextCallIndex)) index _ _ _
      (put_blocks _) pieces
    refine ⟨pieces.map (toolDeltaChunk toolUse.toolUseId toolUse.name state.nextCallIndex), ?_, ?_⟩
    · have stopped := @removed_put { state with nextCallIndex := bump state.nextCallIndex } index
        (rests index) (.toolUse toolUse.toolUseId toolUse.name state.nextCallIndex)
      simp only [CutBlock.events, startEvents, List.map_map, Function.comp_def, applyAll_append,
        ConverseStreamState.applyAll, ConverseStreamState.apply,
        ConverseStreamState.handleBlockStart, read, ConverseStreamState.handleBlockStop, put_blocks,
        stopped, List.append_nil, List.nil_append]
      rfl
    · simp only [CutBlock.callFragments, inputs_map, Option.getD_some]
      exact adds_inputs _ _ _ pieces
  | @reasoningText reasoning pieces nonempty joined signed =>
    cases pieces with
    | nil =>
      exfalso
      rcases nonempty with said | given
      · exact said joined.symm
      · exact given (Option.toList_eq_nil_iff.mp signed.symm)
    | cons piece rest =>
      have first := @handleBlockDelta_first uuid state index (rests index) piece
      have read := @applyAll_pieces uuid
        { state with nextDetailIndex := bump state.nextDetailIndex } index state.nextDetailIndex ""
        (uuid state.nextDetailIndex) none (piece :: rest)
      have last : ((piece :: rest).filterMap ReasoningPiece.given).getLast?.or none =
          reasoning.signature := by
        rw [signed]
        cases reasoning.signature <;> rfl
      rw [joined, last, String.empty_append] at read
      have opened : state.applyAll uuid
          ((piece :: rest).map fun piece => .contentBlockDelta index (some piece.delta)) =
            ({ state with nextDetailIndex := bump state.nextDetailIndex }.put index
              (.reasoning state.nextDetailIndex reasoning.text reasoning.signature
                (uuid state.nextDetailIndex)),
              ((piece :: rest).filterMap ReasoningPiece.said).map reasoningTextChunk) := by
        rw [← read]
        simp only [List.map_cons, ConverseStreamState.applyAll, ConverseStreamState.apply, first]
      have removed := @removed_put { state with nextDetailIndex := bump state.nextDetailIndex } index
        (rests index) (.reasoning state.nextDetailIndex reasoning.text reasoning.signature
          (uuid state.nextDetailIndex))
      have heard : ¬ (reasoning.text = "" ∧ reasoning.signature = none) := by
        rintro ⟨silent, unsigned⟩
        exact nonempty.elim (absurd silent) (absurd unsigned)
      refine ⟨((piece :: rest).filterMap ReasoningPiece.said).map reasoningTextChunk ++
        [reasoningTerminalChunk state.nextDetailIndex (uuid state.nextDetailIndex) reasoning.text
          reasoning.signature], ?_, ?_⟩
      · simp only [CutBlock.events, startEvents, List.nil_append, List.map_map, Function.comp_def,
          applyAll_append, opened, ConverseStreamState.applyAll, ConverseStreamState.apply,
          ConverseStreamState.handleBlockStop, put_blocks, if_neg heard, removed, List.append_nil]
        rfl
      · have adds := (adds_thoughts ((piece :: rest).filterMap ReasoningPiece.said)).append
          (adds_deltas [{ reasoningDetails := [makeThinkingDetail (uuid state.nextDetailIndex)
            state.nextDetailIndex reasoning.text (reasoning.signature.getD "")] }])
        exact adds
  | redactedContent data =>
    have removed := @removed_put { state with
        nextDetailIndex := bump (bump state.nextDetailIndex) } index
      (rests index) (.reasoning state.nextDetailIndex "" none (uuid state.nextDetailIndex))
    refine ⟨[reasoningRedactedChunk (bump state.nextDetailIndex)
      (uuid (bump state.nextDetailIndex)) data], ?_, ?_⟩
    · have opened : state.handleBlockDelta uuid index
          (some (.reasoningContent { redactedContent := some data })) =
            ({ state with nextDetailIndex := bump (bump state.nextDetailIndex) }.put index
              (.reasoning state.nextDetailIndex "" none (uuid state.nextDetailIndex)),
              [reasoningRedactedChunk (bump state.nextDetailIndex)
                (uuid (bump state.nextDetailIndex)) data]) := by
        simp only [ConverseStreamState.handleBlockDelta, rests index,
          ConverseStreamState.openReasoning, ConverseStreamState.reasoningDelta]
        rfl
      simp only [CutBlock.events, startEvents, List.nil_append, List.map_cons, List.map_nil,
        List.cons_append, ConverseStreamState.applyAll, ConverseStreamState.apply, opened,
        ConverseStreamState.handleBlockStop, put_blocks, and_self, if_true, removed]
      rfl
    · exact adds_deltas [{ reasoningDetails := [makeRedactedThinkingDetail
        (uuid (bump state.nextDetailIndex)) (bump state.nextDetailIndex) data] }]

omit rests in
theorem callFragments_cases (cut : CutBlock read) :
    OneCall CutBlock.callFragments CutBlock.call cut := by
  obtain ⟨block, deltas, proper⟩ := cut
  cases proper with
  | @toolUse toolUse pieces written =>
    exact .inr ⟨toolUse.toolUseId, toolUse.name,
      (pieces.map StreamDelta.toolUse).filterMap StreamDelta.input, fun _ => rfl, rfl⟩
  | _ => exact .inl ⟨fun _ => rfl, rfl⟩

omit rests in
theorem nextCall_of (cut : CutBlock read) (callCount : Nat) :
    cut.block.nextCall (callCount % 2 ^ 32) =
      counted (cut.callFragments callCount).isSome callCount % 2 ^ 32 := by
  obtain ⟨block, deltas, proper⟩ := cut
  cases proper with
  | toolUse written =>
    simp [ConverseResponseContentBlock.nextCall, CutBlock.callFragments, counted, bump, Nat.add_mod]
  | _ => rfl

/-- What the events of all blocks come to. -/
theorem reads_body (cuts : List (CutBlock read)) (index callCount : Nat)
    (reached : state.nextCallIndex = callCount % 2 ^ 32)
    (small : callCount + cuts.length ≤ 2 ^ 32) :
    ∃ chunks nextDetailIndex nextCallIndex, state.applyAll uuid (bodyEvents index cuts) =
        ({ state with nextDetailIndex, nextCallIndex }, chunks) ∧
      Adds chunks (String.join (cuts.map fun cut => cut.block.said.getD ""))
        (detailsOver (ConverseResponseContentBlock.streamed uuid) state.nextDetailIndex
          (cuts.map CutBlock.block))
        (numbered CutBlock.callFragments callCount cuts).flatten := by
  induction cuts generalizing state index callCount with
  | nil => exact ⟨[], state.nextDetailIndex, state.nextCallIndex, rfl, .nil⟩
  | cons cut rest ih =>
    rw [List.length_cons] at small
    obtain ⟨first, read, adds⟩ := @reads_block _ uuid state rests cut index
    have counts : counted (cut.callFragments callCount).isSome callCount ≤ callCount + 1 := by
      rw [counted]
      split <;> omega
    obtain ⟨later, nextDetailIndex, nextCallIndex, onward, more⟩ :=
      @ih { state with
          nextDetailIndex := (cut.block.streamed uuid state.nextDetailIndex).2
          nextCallIndex := cut.block.nextCall state.nextCallIndex } rests (index + 1)
        (counted (cut.callFragments callCount).isSome callCount)
        (by rw [reached]; exact nextCall_of cut callCount) (by omega)
    refine ⟨first ++ later, nextDetailIndex, nextCallIndex, ?_, ?_⟩
    · rw [bodyEvents, applyAll_append, read]
      dsimp only
      rw [onward]
    · have both := adds.append more
      rw [reached, Nat.mod_eq_of_lt (by omega)] at both
      have given : (cut.callFragments callCount).getD [] =
          (cut.callFragments callCount).toList.flatten := by
        cases cut.callFragments callCount <;> simp
      rw [given] at both
      rw [List.map_cons, String.join_cons, List.map_cons, detailsOver, numbered,
        List.flatten_append]
      exact both

end Blocks

section Whole
variable {read : String → Option Json} {uuid other : Nat → String}

/-- What a walk over blocks adds. -/
theorem walked_blocks (blocks : List ConverseResponseContentBlock) (walked : Walked) :
    (blocks.foldl (Walked.block uuid) walked).textParts =
        walked.textParts ++ blocks.filterMap ConverseResponseContentBlock.said ∧
      (blocks.foldl (Walked.block uuid) walked).reasoningDetails = walked.reasoningDetails ++
        detailsOver (ConverseResponseContentBlock.whole uuid) walked.detailIndex blocks ∧
      (blocks.foldl (Walked.block uuid) walked).toolCalls =
        walked.toolCalls ++ blocks.filterMap ConverseResponseContentBlock.call ∧
      (blocks.foldl (Walked.block uuid) walked).parts.filterMap ContentPart.text =
        walked.parts.filterMap ContentPart.text ++
          blocks.filterMap ConverseResponseContentBlock.said := by
  induction blocks generalizing walked with
  | nil => simp [detailsOver]
  | cons block rest ih =>
    obtain ⟨texts, details, calls, parts⟩ := ih (walked.block uuid block)
    rw [List.foldl_cons, texts, details, calls, parts]
    cases block with
    | reasoningContent content =>
      obtain ⟨reasoning, withheld⟩ := content
      cases reasoning <;> cases withheld <;>
        simp [Walked.block, Walked.reasoning, Walked.detail, detailsOver,
          ConverseResponseContentBlock.whole, List.filterMap_cons,
          ConverseResponseContentBlock.said, ConverseResponseContentBlock.call]
    | _ =>
      simp [Walked.block, detailsOver, ConverseResponseContentBlock.whole, List.filterMap_cons,
        ConverseResponseContentBlock.said, ConverseResponseContentBlock.call, ContentPart.text]

/-- What a whole answer is read into. -/
theorem translate_reads (uuid : Nat → String) (mintedId : String) (response : ConverseResponse) :
    ∃ choice, (translate uuid mintedId response).choices = [choice] ∧
      choice.message.content.plainText =
        String.join (response.content.filterMap ConverseResponseContentBlock.said) ∧
      choice.message.reasoningDetails =
        detailsOver (ConverseResponseContentBlock.whole uuid) 0 response.content ∧
      choice.message.toolCalls.getD [] =
        response.content.filterMap ConverseResponseContentBlock.call ∧
      choice.finishReason = mapStopReason response.stopReason ∧
      choice.matchedStopSequence =
        liftStopSequence response.stopReason response.additionalModelResponseFields := by
  obtain ⟨texts, reasoning, calls, parts⟩ := @walked_blocks uuid response.content {}
  refine ⟨_, rfl, ?_, reasoning, ?_, rfl, rfl⟩
  · rw [← List.nil_append (response.content.filterMap ConverseResponseContentBlock.said), ← texts]
    exact plainText_select (parts.trans texts.symm)
  · rw [← List.nil_append (response.content.filterMap ConverseResponseContentBlock.call), ← calls]
    dsimp only
    split
    case isTrue empty => exact (List.isEmpty_iff.mp empty).symm
    case isFalse => rfl

theorem joined_texts (blocks : List ConverseResponseContentBlock) :
    String.join (blocks.map fun block => block.said.getD "") =
      String.join (blocks.filterMap ConverseResponseContentBlock.said) := by
  induction blocks with
  | nil => rfl
  | cons block rest ih =>
    rw [List.map_cons, String.join_cons, ih, List.filterMap_cons]
    cases block.said with
    | none => exact String.empty_append
    | some told => exact String.join_cons.symm

theorem sameDetail_text (index : Nat) (reasoning : ConverseReasoningText) :
    SameDetail
      (makeThinkingDetail (uuid index) index reasoning.text (reasoning.signature.getD ""))
      (textDetail other index reasoning) := by
  refine ⟨rfl, rfl, rfl, ?_⟩
  obtain ⟨text, signature⟩ := reasoning
  cases signature <;> rfl

/-- The details agree where nothing is withheld. -/
theorem sameDetails_iff (cuts : List (CutBlock read)) {index : Nat} (small : index < 2 ^ 32) :
    List.Forall₂ SameDetail
        (detailsOver (ConverseResponseContentBlock.streamed uuid) index (cuts.map CutBlock.block))
        (detailsOver (ConverseResponseContentBlock.whole other) index
          (cuts.map CutBlock.block)) ↔
      ∀ cut ∈ cuts, cut.block.withheld = false := by
  induction cuts generalizing index with
  | nil => simp [detailsOver]
  | cons cut rest ih =>
    obtain ⟨block, deltas, proper⟩ := cut
    rw [List.forall_mem_cons, List.map_cons, detailsOver, detailsOver]
    cases proper with
    | @reasoningText reasoning pieces nonempty joined signed =>
      have later := @ih (bump index) (Nat.mod_lt _ (by decide))
      rw [← later]
      exact ⟨fun agree => ⟨rfl, (List.forall₂_cons.mp agree).2⟩,
        fun agree => List.forall₂_cons.mpr ⟨sameDetail_text index reasoning, agree.2⟩⟩
    | redactedContent data =>
      constructor
      · intro agree
        obtain ⟨⟨-, -, shifted, -⟩, -⟩ := List.forall₂_cons.mp agree
        have same : bump index = index := Option.some.inj shifted
        rw [bump] at same
        omega
      · rintro ⟨open_, -⟩
        cases open_
    | text joined =>
      rw [← ih small]
      exact ⟨fun agree => ⟨rfl, agree⟩, fun agree => agree.2⟩
    | toolUse written =>
      rw [← ih small]
      exact ⟨fun agree => ⟨rfl, agree⟩, fun agree => agree.2⟩

/-- The calls agree where every call had a delta. -/
theorem sameCalls_iff (cuts : List (CutBlock read)) :
    List.Forall₂ (SameCall read) (cuts.filterMap CutBlock.call)
      (((cuts.map CutBlock.block).filterMap ConverseResponseContentBlock.call).map readCall) ↔
      ∀ cut ∈ cuts, cut.InputGiven := by
  have whole : ((cuts.map CutBlock.block).filterMap ConverseResponseContentBlock.call).map readCall =
      cuts.filterMap fun cut => cut.block.call.map readCall := by
    rw [List.filterMap_map, List.map_filterMap]
    rfl
  rw [whole, forall₂_filterMap_iff]
  · apply forall₂_congr
    rintro ⟨block, deltas, proper⟩ member
    cases proper with
    | @toolUse toolUse pieces written =>
      cases pieces <;>
        simp [CutBlock.call, CutBlock.InputGiven, ConverseResponseContentBlock.call,
          StreamDelta.input]
    | _ => exact iff_of_true nofun trivial
  · rintro ⟨block, deltas, proper⟩ member
    cases proper with
    | @toolUse toolUse pieces written =>
      refine .inr ⟨readCall (toolCallOf toolUse.toolUseId toolUse.name toolUse.input), rfl, ?_⟩
      intro given called
      simp only [CutBlock.call, inputs_map] at called
      split at called
      · cases called
      · cases called
        exact ⟨rfl, rfl, toolUse.input, written, rfl⟩
    | _ => exact .inl ⟨rfl, rfl⟩

theorem sameCounts_iff (usage : Option ConverseUsage) :
    SameCounts (usage.map usageDelta) (usage.map translateUsage) ↔
      ∀ counted, usage = some counted → TotalStated counted := by
  cases usage with
  | none =>
    refine iff_of_true ⟨rfl, rfl, rfl, rfl, rfl, rfl⟩ ?_
    intro counted held
    cases held
  | some usage =>
    let prompt := saturatingAdd
      (saturatingAdd usage.inputTokens (usage.cacheWriteInputTokens.getD 0))
      (usage.cacheReadInputTokens.getD 0)
    let counted : Usage :=
      { promptTokens := prompt
        completionTokens := usage.outputTokens
        totalTokens := usage.totalTokens.getD (saturatingAdd prompt usage.outputTokens)
        cacheCreationInputTokens := usage.cacheWriteInputTokens
        cacheReadInputTokens := usage.cacheReadInputTokens
        cacheCreation := usage.cacheDetails.map translateCacheDetails }
    have nothing : prompt = 0 ↔ usage.inputTokens = 0 ∧ usage.cacheWriteInputTokens.getD 0 = 0 ∧
        usage.cacheReadInputTokens.getD 0 = 0 := by
      simp only [prompt, saturatingAdd]
      omega
    have kept := ResponsesApi.deriveTotalIfAbsent_keeps_iff counted
    have stated : (counted.totalTokens = 0 → counted.promptTokens = 0 ∧
        counted.completionTokens = 0) ↔ TotalStated usage := by
      simp only [counted, TotalStated, nothing, and_assoc]
      cases usage.totalTokens with
      | none =>
        refine iff_of_true ?_ (by simp)
        rw [Option.getD_none, saturatingAdd]
        omega
      | some total => rw [Option.getD_some, Option.some.injEq]
    obtain ⟨prompts, completion, -, cached, written, creation⟩ :=
      ResponsesApi.deriveTotalIfAbsent_parts counted
    simp only [Option.some.injEq, forall_eq', ← stated, ← kept]
    constructor
    · rintro ⟨-, -, total, -, -, -⟩
      exact Option.some.inj total
    · intro total
      exact ⟨congrArg some prompts.symm, congrArg some completion.symm, congrArg some total,
        written.symm, cached.symm, creation.symm⟩

end Whole
section Streams
variable {read : String → Option Json} {uuid other : Nat → String} {decoders : Decoders}
variable {response : ConverseResponse} {cuts : List (CutBlock read)} {messages : List Message}

/-- What the two frames that end a stream come to. -/
theorem closing_reads (state : ConverseStreamState) (stopReason : Option String)
    (additional : Option Json) (usage : Option ConverseUsage) :
    ∃ final chunk, state.applyAll uuid [.messageStop stopReason additional, .metadata usage] =
        (final, [chunk]) ∧
      contents [chunk] = "" ∧ details [chunk] = [] ∧ fragments [chunk] = [] ∧
      finishes [chunk] = ((mapStopReason stopReason).map fun finishReason =>
        (finishReason, liftStopSequence stopReason additional)).toList ∧
      usages [chunk] = (usage.map usageDelta).toList := by
  refine ⟨_, _, rfl, rfl, rfl, rfl, ?_, ?_⟩
  · cases stopReason <;> rfl
  · cases usage <;> rfl

/-- A serialized answer, handled to its end. -/
theorem frames_collected (serialized : Serializes decoders response cuts messages)
    (uuid : Nat → String) (providerId : String) (foreign : Bool) :
    ∃ final chunks,
      handleFrames decoders providerId uuid { endpointIsForeign := foreign } messages =
        .ok (final, chunks) ∧
      contents chunks = String.join (cuts.map fun cut => cut.block.said.getD "") ∧
      details chunks = detailsOver (ConverseResponseContentBlock.streamed uuid) 0
        (cuts.map CutBlock.block) ∧
      fragments chunks = (numbered CutBlock.callFragments 0 cuts).flatten ∧
      finishes chunks = ((mapStopReason response.stopReason).map fun finishReason =>
        (finishReason, liftStopSequence response.stopReason
          response.additionalModelResponseFields)).toList ∧
      usages chunks = (response.usage.map usageDelta).toList := by
  obtain ⟨role, framed⟩ := serialized.framed
  let fresh : ConverseStreamState := { endpointIsForeign := foreign }
  have small := serialized.small
  obtain ⟨body, nextDetailIndex, nextCallIndex, told, adds⟩ :=
    @reads_body read uuid { fresh with roleEmitted := true } (fun _ => rfl) cuts 0 0 rfl (by omega)
  obtain ⟨final, chunk, ended, text, detail, fragment, finish, usage⟩ := @closing_reads uuid
    { fresh with roleEmitted := true, nextDetailIndex, nextCallIndex } response.stopReason
    response.additionalModelResponseFields response.usage
  have opened : Adds [roleChunk] "" [] [] := adds_deltas [{ role := some .assistant }]
  have spoken := opened.append adds
  refine ⟨final, ([roleChunk] ++ body) ++ [chunk], ?_, ?_, ?_, ?_, ?_, ?_⟩
  · rw [handleFrames_carried providerId framed]
    have begun : fresh.apply uuid (.messageStart role) =
        ({ fresh with roleEmitted := true }, [roleChunk]) := rfl
    simp only [ConverseStreamState.applyAll, fresh] at begun ⊢
    rw [begun]
    dsimp only
    rw [applyAll_append, told]
    dsimp only
    rw [ended, List.append_assoc]
  · rw [contents_append, spoken.text, text, String.empty_append, String.append_empty]
  · rw [details_append, spoken.details, detail, List.nil_append, List.append_nil]
  · rw [fragments_append, spoken.fragments, fragment, List.nil_append, List.append_nil]
  · rw [finishes_append, spoken.unfinished, finish, List.nil_append]
  · rw [usages_append, spoken.uncounted, usage, List.nil_append]

/-- A streamed Converse answer comes to the same as the answer read whole exactly where
every call has a delta of its input, nothing is withheld and the total is stated. -/
theorem converse_agrees_iff (serialized : Serializes decoders response cuts messages)
    (uuid other : Nat → String) (providerId mintedId : String) (foreign : Bool) :
    ∃ final chunks,
      handleFrames decoders providerId uuid { endpointIsForeign := foreign } messages =
        .ok (final, chunks) ∧
      (Agrees read chunks (translate other mintedId response) ↔
        (∀ cut ∈ cuts, cut.InputGiven ∧ cut.block.withheld = false) ∧
          ∀ usage, response.usage = some usage → TotalStated usage) := by
  obtain ⟨final, chunks, handled, texts, reasoning, calls, finish, counts⟩ :=
    frames_collected serialized uuid providerId foreign
  refine ⟨final, chunks, handled, ?_⟩
  obtain ⟨choice, single, text, details, toolCalls, finishReason, matched⟩ :=
    translate_reads other mintedId response
  have small := serialized.small
  have sameDetails := @sameDetails_iff read uuid other cuts 0 (by decide)
  have sameCalls := sameCalls_iff cuts
  have sameCounts := sameCounts_iff response.usage
  have collected := @collected_numbered _ CutBlock.callFragments CutBlock.call cuts 0
    (fun cut _ => callFragments_cases cut) (by omega)
  have last : (usages chunks).getLast? = response.usage.map usageDelta := by
    rw [counts]
    cases response.usage <;> rfl
  have whole : (translate other mintedId response).usage = response.usage.map translateUsage := rfl
  rw [← reasoning, serialized.content, ← details] at sameDetails
  rw [serialized.content, ← toolCalls, ← collected, ← calls] at sameCalls
  rw [← last, ← whole] at sameCounts
  constructor
  · rintro ⟨held, alone, agree⟩
    obtain rfl := List.singleton_inj.mp (single.symm.trans alone)
    exact ⟨fun cut member => ⟨sameCalls.mp agree.calls cut member,
      sameDetails.mp agree.details cut member⟩, sameCounts.mp agree.counts⟩
  · rintro ⟨given, stated⟩
    refine ⟨choice, single, ?_, sameDetails.mpr fun cut member => (given cut member).2,
      sameCalls.mpr fun cut member => (given cut member).1, ?_, ?_, sameCounts.mpr stated⟩
    · have joined := joined_texts (cuts.map CutBlock.block)
      rw [List.map_map] at joined
      rw [texts, text, ← serialized.content]
      exact joined
    · rw [finish, finishReason]
      cases response.stopReason <;> rfl
    · rw [finish, matched, liftStopSequence]
      cases response.stopReason <;> rfl

end Streams

section Answers

def frame (eventType : String) (payload : Json) : Message where
  headers := [(":message-type", .string "event"), (":event-type", .string eventType)]
  payload := payload.bytes

def startPayload : Json := .object [("role", .string "assistant")]

def stopPayload (index : String) : Json := .object [("contentBlockIndex", .number index)]

/-- A delta of the block at an index. -/
def deltaPayload (index key : String) (value : Json) : Json :=
  .object [("contentBlockIndex", .number index), ("delta", .object [(key, value)])]

def callPayload (index : String) : Json :=
  .object [("contentBlockIndex", .number index), ("start", .object [("toolUse",
    .object [("name", .string "list"), ("toolUseId", .string "tu_1")])])]

def endPayload (stopReason : String) : Json := .object [("stopReason", .string stopReason)]

def usagePayload (total : String) : Json :=
  .object [("usage", .object [("inputTokens", .number "3"), ("outputTokens", .number "4"),
    ("totalTokens", .number total)])]

def countedUsage (total : Nat) : ConverseUsage :=
  { inputTokens := 3, outputTokens := 4, totalTokens := some total }

/-- A reader that knows the payloads of the one answer it is for. -/
def knows {Value : Type} (table : List (Json × Value)) (bytes : Bytes) : Except String Value :=
  match table.find? fun row => row.1.bytes = bytes with
  | some row => .ok row.2
  | none => .error "unknown"

/-- A reader of the one input. -/
def readPath (text : String) : Option Json :=
  if text = "\x7b\"path\":\"a\"\x7d" then some (.object [("path", .string "a")]) else none

def toldAnswer : ConverseResponse :=
  { content := [.reasoningContent ⟨some ⟨"so", some "sig"⟩, none⟩, .text "hello",
      .toolUse ⟨"tu_1", "list", .object [("path", .string "a")]⟩]
    stopReason := some "tool_use"
    usage := some (countedUsage 7) }

/-- A signed thought, a text and a call, each in two deltas or more. -/
def toldCuts : List (CutBlock readPath) :=
  [⟨.reasoningContent ⟨some ⟨"so", some "sig"⟩, none⟩,
      [.reasoningContent { text := some "s" }, .reasoningContent { text := some "o" },
        .reasoningContent { signature := some "sig" }],
      @Cut.reasoningText _ ⟨"so", some "sig"⟩ [.text "s", .text "o", .signature "sig"]
        (.inl (by decide)) rfl rfl⟩,
    ⟨.text "hello", [.text "he", .text "llo"], @Cut.text _ _ ["he", "llo"] rfl⟩,
    ⟨.toolUse ⟨"tu_1", "list", .object [("path", .string "a")]⟩,
      [.toolUse "\x7b\"path\":", .toolUse "\"a\"\x7d"],
      @Cut.toolUse _ ⟨"tu_1", "list", _⟩ ["\x7b\"path\":", "\"a\"\x7d"] rfl⟩]

def reasoningPayload (key value : String) : Json :=
  deltaPayload "0" "reasoningContent" (.object [(key, .string value)])

def toldDeltas : List (Json × Nat × Option StreamDelta) :=
  [(reasoningPayload "text" "s", 0, some (.reasoningContent { text := some "s" })),
    (reasoningPayload "text" "o", 0, some (.reasoningContent { text := some "o" })),
    (reasoningPayload "signature" "sig", 0, some (.reasoningContent { signature := some "sig" })),
    (deltaPayload "1" "text" (.string "he"), 1, some (.text "he")),
    (deltaPayload "1" "text" (.string "llo"), 1, some (.text "llo")),
    (deltaPayload "2" "toolUse" (.object [("input", .string "\x7b\"path\":")]), 2,
      some (.toolUse "\x7b\"path\":")),
    (deltaPayload "2" "toolUse" (.object [("input", .string "\"a\"\x7d")]), 2,
      some (.toolUse "\"a\"\x7d"))]

def toldDecoders : Decoders where
  value := fun _ => none
  messageStart := knows [(startPayload, some "assistant")]
  contentBlockStart := knows [(callPayload "2", 2, some (.toolUse "tu_1" "list"))]
  contentBlockDelta := knows toldDeltas
  contentBlockStop := knows [(stopPayload "0", 0), (stopPayload "1", 1), (stopPayload "2", 2)]
  messageStop := knows [(endPayload "tool_use", some "tool_use", none)]
  metadata := knows [(usagePayload "7", some (countedUsage 7))]

def deltaFrames (skipped count : Nat) : List Message :=
  ((toldDeltas.drop skipped).take count).map fun row => frame "contentBlockDelta" row.1

def toldFrames : List Message :=
  frame "messageStart" startPayload ::
    (deltaFrames 0 3 ++ frame "contentBlockStop" (stopPayload "0") ::
      (deltaFrames 3 2 ++ frame "contentBlockStop" (stopPayload "1") ::
        frame "contentBlockStart" (callPayload "2") ::
          (deltaFrames 5 2 ++ [frame "contentBlockStop" (stopPayload "2"),
            frame "messageStop" (endPayload "tool_use"), frame "metadata" (usagePayload "7")])))

theorem told_serialized : Serializes toldDecoders toldAnswer toldCuts toldFrames where
  content := rfl
  small := by decide
  framed := ⟨some "assistant",
    .cons ⟨rfl, rfl⟩ (.cons ⟨rfl, rfl⟩ (.cons ⟨rfl, rfl⟩ (.cons ⟨rfl, rfl⟩ (.cons ⟨rfl, rfl⟩
      (.cons ⟨rfl, rfl⟩ (.cons ⟨rfl, rfl⟩ (.cons ⟨rfl, rfl⟩ (.cons ⟨rfl, rfl⟩ (.cons ⟨rfl, rfl⟩
        (.cons ⟨rfl, rfl⟩ (.cons ⟨rfl, rfl⟩ (.cons ⟨rfl, rfl⟩ (.cons ⟨rfl, rfl⟩
          .nil)))))))))))))⟩

theorem converse_agrees_told :
    ∃ final chunks,
      handleFrames toldDecoders "bedrock" toString { endpointIsForeign := false } toldFrames =
        .ok (final, chunks) ∧
      Agrees readPath chunks (translate toString "id" toldAnswer) := by
  obtain ⟨final, chunks, handled, agrees⟩ :=
    converse_agrees_iff told_serialized toString toString "bedrock" "id" false
  refine ⟨final, chunks, handled, agrees.mpr ⟨?_, ?_⟩⟩
  · simp only [toldCuts, List.forall_mem_cons]
    exact ⟨⟨trivial, rfl⟩, ⟨trivial, rfl⟩, ⟨List.cons_ne_nil _ _, rfl⟩, by simp⟩
  · intro usage there
    cases there
    exact nofun

def redactedPayload : Json := reasoningPayload "redactedContent" "eHg="

/-- A thought withheld, a call of no arguments and a total of zero. -/
def withheldAnswer : ConverseResponse :=
  { content := [.reasoningContent ⟨none, some "eHg="⟩, .toolUse ⟨"tu_1", "list", .object []⟩]
    stopReason := some "end_turn"
    usage := some (countedUsage 0) }

def withheldCuts : List (CutBlock fun _ => none) :=
  [⟨.reasoningContent ⟨none, some "eHg="⟩, [.reasoningContent { redactedContent := some "eHg=" }],
      .redactedContent "eHg="⟩,
    ⟨.toolUse ⟨"tu_1", "list", .object []⟩, [],
      @Cut.toolUse _ ⟨"tu_1", "list", .object []⟩ [] rfl⟩]

def withheldDecoders : Decoders where
  value := fun _ => none
  messageStart := knows [(startPayload, some "assistant")]
  contentBlockStart := knows [(callPayload "1", 1, some (.toolUse "tu_1" "list"))]
  contentBlockDelta :=
    knows [(redactedPayload, 0, some (.reasoningContent { redactedContent := some "eHg=" }))]
  contentBlockStop := knows [(stopPayload "0", 0), (stopPayload "1", 1)]
  messageStop := knows [(endPayload "end_turn", some "end_turn", none)]
  metadata := knows [(usagePayload "0", some (countedUsage 0))]

def withheldFrames : List Message :=
  [frame "messageStart" startPayload, frame "contentBlockDelta" redactedPayload,
    frame "contentBlockStop" (stopPayload "0"), frame "contentBlockStart" (callPayload "1"),
    frame "contentBlockStop" (stopPayload "1"), frame "messageStop" (endPayload "end_turn"),
    frame "metadata" (usagePayload "0")]

theorem withheld_serialized :
    Serializes withheldDecoders withheldAnswer withheldCuts withheldFrames where
  content := rfl
  small := by decide
  framed := ⟨some "assistant",
    .cons ⟨rfl, rfl⟩ (.cons ⟨rfl, rfl⟩ (.cons ⟨rfl, rfl⟩ (.cons ⟨rfl, rfl⟩ (.cons ⟨rfl, rfl⟩
      (.cons ⟨rfl, rfl⟩ (.cons ⟨rfl, rfl⟩ .nil))))))⟩

/-- The withheld thought is numbered one too far, the call is lost and the total is zero. -/
theorem converse_differs :
    Serializes withheldDecoders withheldAnswer withheldCuts withheldFrames ∧
      ∃ final chunks,
        handleFrames withheldDecoders "bedrock" toString {} withheldFrames = .ok (final, chunks) ∧
        (details chunks).map ReasoningDetail.index = [some 1] ∧ fragments chunks = [] ∧
        (usages chunks).map UsageDelta.totalTokens = [some 0] ∧
        (translate toString "id" withheldAnswer).usage.map Usage.totalTokens = some 7 ∧
        ¬ Agrees (fun _ => none) chunks (translate toString "id" withheldAnswer) := by
  refine ⟨withheld_serialized, ?_⟩
  obtain ⟨final, chunks, handled, -, reasoning, calls, -, counts⟩ :=
    frames_collected withheld_serialized toString "bedrock" false
  refine ⟨final, chunks, handled, ?_, ?_, ?_, rfl, ?_⟩
  · rw [reasoning]
    rfl
  · rw [calls]
    rfl
  · rw [counts]
    rfl
  · rintro ⟨choice, single, agree⟩
    obtain rfl := List.singleton_inj.mp single
    have lost := agree.calls.length_eq
    rw [calls] at lost
    exact absurd lost (by decide)

end Answers
end Routectl.Converse
