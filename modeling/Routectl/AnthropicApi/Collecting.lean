import Routectl.AnthropicApi.Serialization

/-! What the reader collects of each block of a serialized answer. -/
namespace Routectl.AnthropicApi
open Library Schema

/-- Chunks that carry this text, these details and these fragments, and neither a finish
nor a count. -/
structure Adds (chunks : List ChatChunk) (text : String) (reasoning : List ReasoningDetail)
    (calls : List Json) : Prop where
  text : contents chunks = text
  details : Schema.details chunks = reasoning
  fragments : Schema.fragments chunks = calls
  unfinished : finishes chunks = []
  uncounted : usages chunks = []

/-- What no block touches. -/
structure Passes (before after : SseState) : Prop where
  captured : after.capturedInputUsage = before.capturedInputUsage
  toolReverse : after.toolReverse = before.toolReverse
  pendingOpaque : after.pendingOpaque = []
  vendorOpening : after.vendorOpening = before.vendorOpening

theorem Adds.nil : Adds [] "" [] [] := ⟨rfl, rfl, rfl, rfl, rfl⟩

theorem Adds.append {first second : List ChatChunk} {text more : String}
    {reasoning reasoningMore : List ReasoningDetail} {calls callsMore : List Json}
    (earlier : Adds first text reasoning calls) (later : Adds second more reasoningMore callsMore) :
    Adds (first ++ second) (text ++ more) (reasoning ++ reasoningMore) (calls ++ callsMore) where
  text := by rw [contents_append, earlier.text, later.text]
  details := by rw [details_append, earlier.details, later.details]
  fragments := by rw [fragments_append, earlier.fragments, later.fragments]
  unfinished := by rw [finishes_append, earlier.unfinished, later.unfinished]; rfl
  uncounted := by rw [usages_append, earlier.uncounted, later.uncounted]; rfl

theorem Passes.trans {first second third : SseState} (earlier : Passes first second)
    (later : Passes second third) : Passes first third :=
  ⟨later.captured.trans earlier.captured, later.toolReverse.trans earlier.toolReverse,
    later.pendingOpaque, later.vendorOpening.trans earlier.vendorOpening⟩

/-- A chunk of one delta adds what is in the delta. -/
theorem adds_delta (state : SseState) (delta : ChunkDelta) :
    Adds [state.deltaChunk delta] (delta.content.getD "") delta.reasoningDetails
      (delta.toolCalls.getD []) := by
  constructor <;>
    simp [contents, details, fragments, finishes, usages, SseState.deltaChunk]

section Deltas
variable {uuid : Nat → String} {state next : SseState} {block : OpenBlockKind}

/-- An open block after a delta. -/
def OpenBlockKind.after (block : OpenBlockKind) : SseDelta → OpenBlockKind
  | .thinkingDelta heard => block.hear heard
  | .signatureDelta given => block.sign given
  | _ => block

def OpenBlockKind.known : OpenBlockKind → Bool
  | .unknown _ _ => false
  | _ => true

/-- The fragment of a call that an input delta gives. -/
def OpenBlockKind.fragment (block : OpenBlockKind) (partialJson : String) : Json :=
  match block with
  | .toolUse _ id name callIndex => SseState.toolDelta callIndex id name partialJson
  | _ => SseState.toolDelta 0 "" "" partialJson

theorem fragment_after (block : OpenBlockKind) (delta : SseDelta) (partialJson : String) :
    (block.after delta).fragment partialJson = block.fragment partialJson := by
  cases delta <;> cases block <;> rfl

theorem known_after (block : OpenBlockKind) (delta : SseDelta) :
    (block.after delta).known = block.known := by
  cases delta <;> cases block <;> rfl

theorem upstreamIndex_after (block : OpenBlockKind) (delta : SseDelta) :
    (block.after delta).upstreamIndex = block.upstreamIndex := by
  cases delta <;> cases block <;> rfl

/-- With nothing captured, a chunk goes out as it was made. -/
theorem applyEvent_emitting {event : SseEvent} {chunk : ChatChunk}
    (dispatched : state.dispatchEvent uuid event = .ok (next, some chunk))
    (empty : next.pendingOpaque = []) (plain : chunk.opaqueEvents = []) :
    state.applyEvent uuid event =
      .ok ({ next with canonicalChunkEmitted := true, pendingOpaque := [] }, some chunk) := by
  unfold SseState.applyEvent
  rw [dispatched]
  simp only [empty]
  rw [← plain]

theorem applyEvent_silent {event : SseEvent}
    (dispatched : state.dispatchEvent uuid event = .ok (next, none)) :
    state.applyEvent uuid event = .ok (next, none) := by
  unfold SseState.applyEvent
  rw [dispatched]

/-- One delta of an open block. -/
theorem applyEvent_delta (opened : state.openBlock = some block) (known : block.known = true)
    (empty : state.pendingOpaque = []) (delta : SseDelta) :
    ∃ next emitted,
      state.applyEvent uuid (.contentBlockDelta block.upstreamIndex delta) = .ok (next, emitted) ∧
        Adds emitted.toList (delta.said.getD "") [] (delta.input.toList.map block.fragment) ∧
        Passes state next ∧ next.openBlock = some (block.after delta) ∧
        next.nextDetailIndex = state.nextDetailIndex ∧ next.nextCallIndex = state.nextCallIndex := by
  have matching : state.indexMatches block.upstreamIndex = true := by
    simp [SseState.indexMatches, opened]
  have applied : state.dispatchEvent uuid (.contentBlockDelta block.upstreamIndex delta) =
      .ok (state.applyDelta delta) := by
    simp only [SseState.dispatchEvent, matching, opened]
    cases block with
    | unknown => cases known
    | _ => rfl
  cases delta with
  | textDelta text =>
    exact ⟨_, _, applyEvent_emitting applied empty rfl, adds_delta state { content := some text },
      ⟨rfl, rfl, rfl, rfl⟩, opened, rfl, rfl⟩
  | thinkingDelta heard =>
    refine ⟨_, _, applyEvent_emitting applied empty rfl,
      adds_delta state { reasoning := some heard }, ⟨rfl, rfl, rfl, rfl⟩, ?_, rfl, rfl⟩
    simp [opened, OpenBlockKind.after]
  | signatureDelta given =>
    refine ⟨_, _, applyEvent_silent applied, .nil, ⟨rfl, rfl, empty, rfl⟩, ?_, rfl, rfl⟩
    simp [opened, OpenBlockKind.after]
  | inputJsonDelta partialJson =>
    have made : state.makeToolDeltaChunk partialJson =
        state.deltaChunk { toolCalls := some [block.fragment partialJson] } := by
      unfold SseState.makeToolDeltaChunk OpenBlockKind.fragment
      rw [opened]
      cases block <;> rfl
    refine ⟨_, _, applyEvent_emitting applied empty rfl, ?_, ⟨rfl, rfl, rfl, rfl⟩, opened, rfl, rfl⟩
    rw [made]
    exact adds_delta state { toolCalls := some [block.fragment partialJson] }
  | other value => exact ⟨_, _, applyEvent_silent applied, .nil, ⟨rfl, rfl, empty, rfl⟩, opened, rfl, rfl⟩

/-- All the deltas of a block. -/
theorem decode_deltas (opened : state.openBlock = some block) (known : block.known = true)
    (empty : state.pendingOpaque = []) (deltas : List SseDelta) :
    ∃ next chunks,
      decode uuid state (deltas.map (.contentBlockDelta block.upstreamIndex)) = .ok (next, chunks) ∧
        Adds chunks (String.join (deltas.filterMap SseDelta.said)) []
          ((deltas.filterMap SseDelta.input).map block.fragment) ∧
        Passes state next ∧ next.openBlock = some (deltas.foldl OpenBlockKind.after block) ∧
        next.nextDetailIndex = state.nextDetailIndex ∧ next.nextCallIndex = state.nextCallIndex := by
  induction deltas generalizing state block with
  | nil => exact ⟨state, [], rfl, .nil, ⟨rfl, rfl, empty, rfl⟩, opened, rfl, rfl⟩
  | cons delta rest ih =>
    obtain ⟨second, emitted, applied, adds, passes, reopened, sameDetail, sameCall⟩ :=
      @applyEvent_delta uuid state block opened known empty delta
    obtain ⟨final, chunks, onward, addsLater, passesLater, left, detailLater, callLater⟩ :=
      @ih second (block.after delta) reopened ((known_after block delta).trans known)
        passes.pendingOpaque
    rw [upstreamIndex_after] at onward
    refine ⟨final, emitted.toList ++ chunks, decode_cons applied onward, ?_,
      passes.trans passesLater, left, detailLater.trans sameDetail, callLater.trans sameCall⟩
    have both := adds.append addsLater
    have fragments : (block.after delta).fragment = block.fragment :=
      funext (fragment_after block delta)
    rw [fragments] at both
    cases said : delta.said <;> cases input : delta.input <;>
      simpa [said, input, String.join_cons] using both

end Deltas

section Blocks
variable {read : String → Option Json} {uuid : Nat → String} {state next : SseState}

def CutBlock.text (cut : CutBlock read) : String :=
  match cut.block with
  | .text said _ => said
  | _ => ""

/-- The last part of a signature, which the reader takes for all of it. -/
def CutBlock.lastSigned (cut : CutBlock read) : Option String :=
  (cut.deltas.filterMap SseDelta.signed).getLast?

def CutBlock.detail (uuid : Nat → String) (index : Nat) (cut : CutBlock read) :
    Option ReasoningDetail :=
  match cut.block with
  | .thinking thought _ =>
    some (makeThinkingDetail (uuid index) index thought (cut.lastSigned.getD ""))
  | .redactedThinking data => some (makeRedactedThinkingDetail (uuid index) index data)
  | _ => none

def CutBlock.callFragments (callIndex : Nat) (cut : CutBlock read) : Option (List Json) :=
  match cut.block with
  | .toolUse id name _ =>
    some ((cut.deltas.filterMap SseDelta.input).map (SseState.toolDelta callIndex id name))
  | _ => none

/-- Between two blocks nothing is open and nothing is captured. -/
structure Rests (state : SseState) : Prop where
  closed : state.openBlock = none
  empty : state.pendingOpaque = []
  plain : state.toolReverse = ∅

def counted (found : Bool) (count : Nat) : Nat := if found then count + 1 else count

theorem heard_thinking (index detailIndex : Nat) (accumulated detailId : String)
    (signature : Option String) (deltas : List SseDelta) :
    deltas.foldl OpenBlockKind.after (.thinking index accumulated signature detailId detailIndex) =
      .thinking index (accumulated ++ String.join (deltas.filterMap SseDelta.thought))
        ((deltas.filterMap SseDelta.signed).getLast?.or signature) detailId detailIndex := by
  induction deltas generalizing accumulated signature with
  | nil => simp [String.join_nil]
  | cons delta rest ih =>
    cases delta with
    | thinkingDelta heard =>
      simp [OpenBlockKind.after, OpenBlockKind.hear, ih, SseDelta.thought, SseDelta.signed,
        String.join_cons, String.append_assoc]
    | signatureDelta given =>
      simp only [List.foldl_cons, OpenBlockKind.after, OpenBlockKind.sign, ih,
        List.filterMap_cons, SseDelta.thought, SseDelta.signed]
      cases rest.filterMap SseDelta.signed <;> simp [List.getLast?_cons]
    | _ =>
      simp only [List.foldl_cons, OpenBlockKind.after, ih, List.filterMap_cons, SseDelta.thought,
        SseDelta.signed]

theorem unheard {deltas : List SseDelta} {block : OpenBlockKind}
    (quiet : ∀ delta ∈ deltas, delta.thought = none ∧ delta.signed = none) :
    deltas.foldl OpenBlockKind.after block = block := by
  induction deltas with
  | nil => rfl
  | cons delta rest ih =>
    have own := quiet delta (List.mem_cons_self ..)
    have same : block.after delta = block := by
      cases delta with
      | thinkingDelta => cases own.1
      | signatureDelta => cases own.2
      | _ => rfl
    rw [List.foldl_cons, same]
    exact ih fun other member => quiet other (List.mem_cons_of_mem _ member)

/-- A block that is started, filled and stopped. -/
theorem decode_opened {block : OpenBlockKind} {start : SseContentBlockStart} {index : Nat}
    {deltas : List SseDelta}
    (starts : state.openBlockStart uuid index start = (next, none))
    (opened : next.openBlock = some block) (known : block.known = true)
    (same : block.upstreamIndex = index) (empty : next.pendingOpaque = []) :
    ∃ filled chunks, decode uuid state (.contentBlockStart index start ::
        deltas.map (.contentBlockDelta index)) = .ok (filled, chunks) ∧
      Adds chunks (String.join (deltas.filterMap SseDelta.said)) []
        ((deltas.filterMap SseDelta.input).map block.fragment) ∧
      Passes next filled ∧ filled.openBlock = some (deltas.foldl OpenBlockKind.after block) ∧
      filled.nextDetailIndex = next.nextDetailIndex ∧
      filled.nextCallIndex = next.nextCallIndex := by
  subst same
  have started : state.applyEvent uuid (.contentBlockStart block.upstreamIndex start) =
      .ok (next, none) := applyEvent_silent (by rw [SseState.dispatchEvent, starts])
  obtain ⟨filled, chunks, decoded, adds, passes, left, detail, call⟩ :=
    @decode_deltas uuid next block opened known empty deltas
  exact ⟨filled, chunks, decode_cons started decoded, adds, passes, left, detail, call⟩

theorem of_said {delta : SseDelta} (said : delta.said.isSome) :
    delta.input = none ∧ delta.thought = none ∧ delta.signed = none := by
  cases delta with
  | textDelta => exact ⟨rfl, rfl, rfl⟩
  | _ => cases said

theorem of_input {delta : SseDelta} (input : delta.input.isSome) :
    delta.said = none ∧ delta.thought = none ∧ delta.signed = none := by
  cases delta with
  | inputJsonDelta => exact ⟨rfl, rfl, rfl⟩
  | _ => cases input

theorem of_thinking {delta : SseDelta} (kind : delta.thought.isSome ∨ delta.signed.isSome) :
    delta.said = none ∧ delta.input = none := by
  cases delta with
  | thinkingDelta => exact ⟨rfl, rfl⟩
  | signatureDelta => exact ⟨rfl, rfl⟩
  | _ => rcases kind with thought | signed <;> contradiction

theorem dispatch_stop {block : OpenBlockKind} (opened : state.openBlock = some block)
    {index : Nat} (same : block.upstreamIndex = index) :
    state.dispatchEvent uuid (.contentBlockStop index) = .ok state.closeBlock := by
  have matching : state.indexMatches index = true := by simp [SseState.indexMatches, opened, same]
  simp only [SseState.dispatchEvent, matching, Bool.not_true, Bool.false_eq_true, if_false]

/-- Events that leave the reader at rest after this text, detail and call. -/
structure Reads (uuid : Nat → String) (state final : SseState) (events : List SseEvent)
    (text : String) (detail : Option ReasoningDetail) (call : Option (List Json)) : Prop where
  decoded : ∃ chunks, decode uuid state events = .ok (final, chunks) ∧
    Adds chunks text detail.toList (call.getD [])
  rests : Rests final
  passes : Passes state final
  details : final.nextDetailIndex = counted detail.isSome state.nextDetailIndex
  calls : final.nextCallIndex = counted call.isSome state.nextCallIndex

theorem reads_text (rests : Rests state) {index : Nat} {deltas : List SseDelta} {text : String}
    (kinds : ∀ delta ∈ deltas, delta.said.isSome)
    (joined : String.join (deltas.filterMap SseDelta.said) = text) :
    ∃ final, Reads uuid state final (.contentBlockStart index (.text "") ::
      (deltas.map (.contentBlockDelta index) ++ [.contentBlockStop index])) text none none := by
  obtain ⟨filled, chunks, decoded, adds, passes, left, detail, call⟩ :=
    @decode_opened uuid state { state with openBlock := some (.text index) } (.text index)
      (.text "") index deltas rfl rfl rfl rfl rests.empty
  rw [unheard fun delta member => (of_said (kinds delta member)).2] at left
  have stopped : filled.dispatchEvent uuid (.contentBlockStop index) =
      .ok ({ filled with openBlock := none }, none) :=
    (dispatch_stop left rfl).trans (by rw [SseState.closeBlock, left])
  have silent : deltas.filterMap SseDelta.input = [] :=
    List.filterMap_eq_nil_iff.mpr fun delta member => (of_said (kinds delta member)).1
  rw [joined, silent] at adds
  refine ⟨{ filled with openBlock := none },
    ⟨chunks ++ [], decode_append decoded (decode_cons (applyEvent_silent stopped) rfl), ?_⟩,
    ⟨rfl, passes.pendingOpaque, passes.toolReverse.trans rests.plain⟩,
    ⟨passes.captured, passes.toolReverse, passes.pendingOpaque, passes.vendorOpening⟩, detail, call⟩
  rw [List.append_nil]
  exact adds

theorem reads_thinking (rests : Rests state) {index : Nat} {deltas : List SseDelta}
    {thinking signature : String} (nonempty : thinking ≠ "" ∨ signature ≠ "")
    (kinds : ∀ delta ∈ deltas, delta.thought.isSome ∨ delta.signed.isSome)
    (joined : String.join (deltas.filterMap SseDelta.thought) = thinking)
    (signed : String.join (deltas.filterMap SseDelta.signed) = signature) :
    ∃ final, Reads uuid state final (.contentBlockStart index (.thinking "") ::
      (deltas.map (.contentBlockDelta index) ++ [.contentBlockStop index])) ""
      (some (makeThinkingDetail (uuid state.nextDetailIndex) state.nextDetailIndex thinking
        ((deltas.filterMap SseDelta.signed).getLast?.getD ""))) none := by
  obtain ⟨filled, chunks, decoded, adds, passes, left, detail, call⟩ :=
    @decode_opened uuid state { state with
        nextDetailIndex := state.nextDetailIndex + 1
        openBlock := some (.thinking index "" none (uuid state.nextDetailIndex)
          state.nextDetailIndex) }
      (.thinking index "" none (uuid state.nextDetailIndex) state.nextDetailIndex)
      (.thinking "") index deltas rfl rfl rfl rfl rests.empty
  rw [heard_thinking, joined, String.empty_append, Option.or_none] at left
  have given : (thinking = "" && (deltas.filterMap SseDelta.signed).getLast?.isNone) = false := by
    by_contra both
    rw [Bool.not_eq_false, Bool.and_eq_true, decide_eq_true_eq, Option.isNone_iff_eq_none,
      List.getLast?_eq_none_iff] at both
    rw [both.2, String.join_nil] at signed
    rcases nonempty with thought | signature
    · exact thought both.1
    · exact signature signed.symm
  have silent : deltas.filterMap SseDelta.input = [] :=
    List.filterMap_eq_nil_iff.mpr fun delta member => (of_thinking (kinds delta member)).2
  have unsaid : deltas.filterMap SseDelta.said = [] :=
    List.filterMap_eq_nil_iff.mpr fun delta member => (of_thinking (kinds delta member)).1
  rw [silent, unsaid] at adds
  have stopped : filled.dispatchEvent uuid (.contentBlockStop index) =
      .ok ({ filled with
          openBlock := none
          completedThinking := filled.completedThinking ++
            [makeThinkingDetail (uuid state.nextDetailIndex) state.nextDetailIndex thinking
              ((deltas.filterMap SseDelta.signed).getLast?.getD "")] },
        some (filled.makeDetailChunk (makeThinkingDetail (uuid state.nextDetailIndex)
          state.nextDetailIndex thinking
          ((deltas.filterMap SseDelta.signed).getLast?.getD "")))) :=
    (dispatch_stop left rfl).trans (by
      rw [SseState.closeBlock, left]
      simp only [given, Bool.false_eq_true, if_false])
  refine ⟨_, ⟨_, decode_append decoded (decode_cons
    (applyEvent_emitting stopped passes.pendingOpaque rfl) rfl), ?_⟩,
    ⟨rfl, rfl, passes.toolReverse.trans rests.plain⟩,
    ⟨passes.captured, passes.toolReverse, rfl, passes.vendorOpening⟩, detail, call⟩
  exact adds.append (adds_delta filled _)

theorem reads_redactedThinking (rests : Rests state) (index : Nat) (data : String) :
    ∃ final, Reads uuid state final
      [.contentBlockStart index (.redactedThinking data), .contentBlockStop index] ""
      (some (makeRedactedThinkingDetail (uuid state.nextDetailIndex) state.nextDetailIndex data))
      none := by
  obtain ⟨closed, empty, plain⟩ := rests
  have stopped : ∀ next : SseState, next.openBlock = none →
      next.dispatchEvent uuid (.contentBlockStop index) =
        .ok ({ next with openBlock := none }, none) := by
    intro next none
    simp only [SseState.dispatchEvent, SseState.indexMatches, none, Bool.not_true,
      Bool.false_eq_true, if_false, SseState.closeBlock]
  refine ⟨_, ⟨_, decode_cons (applyEvent_emitting rfl empty rfl)
    (decode_cons (applyEvent_silent (stopped _ closed)) rfl), ?_⟩, ⟨rfl, rfl, plain⟩,
    ⟨rfl, rfl, rfl, rfl⟩, rfl, rfl⟩
  exact adds_delta _ _

theorem reads_toolUse (rests : Rests state) {index : Nat} {deltas : List SseDelta}
    (id name : String) (kinds : ∀ delta ∈ deltas, delta.input.isSome) :
    ∃ final, Reads uuid state final (.contentBlockStart index (.toolUse id name) ::
      (deltas.map (.contentBlockDelta index) ++ [.contentBlockStop index])) "" none
      (some ((deltas.filterMap SseDelta.input).map
        (SseState.toolDelta state.nextCallIndex id name))) := by
  have named : state.reverseToolName name = name := by
    simp [SseState.reverseToolName, rests.plain]
  obtain ⟨next, starts, opened, empty, passes, detail, call⟩ :
      ∃ next, state.openBlockStart uuid index (.toolUse id name) = (next, none) ∧
        next.openBlock = some (.toolUse index id name state.nextCallIndex) ∧
        next.pendingOpaque = [] ∧ Passes state next ∧
        next.nextDetailIndex = state.nextDetailIndex ∧
        next.nextCallIndex = state.nextCallIndex + 1 := by
    refine ⟨_, rfl, ?_⟩
    rw [named]
    split
    · exact ⟨rfl, rests.empty, ⟨rfl, rfl, rests.empty, rfl⟩, rfl, rfl⟩
    · exact ⟨rfl, rests.empty, ⟨rfl, rfl, rests.empty, rfl⟩, rfl, rfl⟩
  obtain ⟨filled, chunks, decoded, adds, onward, left, sameDetail, sameCall⟩ :=
    @decode_opened uuid state next (.toolUse index id name state.nextCallIndex)
      (.toolUse id name) index deltas starts opened rfl rfl empty
  rw [unheard fun delta member => (of_input (kinds delta member)).2] at left
  have stopped : filled.dispatchEvent uuid (.contentBlockStop index) =
      .ok ({ filled with openBlock := none }, none) :=
    (dispatch_stop left rfl).trans (by rw [SseState.closeBlock, left])
  have unsaid : deltas.filterMap SseDelta.said = [] :=
    List.filterMap_eq_nil_iff.mpr fun delta member => (of_input (kinds delta member)).1
  rw [unsaid] at adds
  have passed := passes.trans onward
  refine ⟨{ filled with openBlock := none },
    ⟨chunks ++ [], decode_append decoded (decode_cons (applyEvent_silent stopped) rfl), ?_⟩,
    ⟨rfl, passed.pendingOpaque, passed.toolReverse.trans rests.plain⟩,
    ⟨passed.captured, passed.toolReverse, passed.pendingOpaque, passed.vendorOpening⟩,
    sameDetail.trans detail, sameCall.trans call⟩
  rw [List.append_nil]
  exact adds

/-- Any block of an answer, from its start to its stop. -/
theorem reads_block (rests : Rests state) (cut : CutBlock read) (index : Nat) :
    ∃ final, Reads uuid state final (cut.events index) cut.text
      (cut.detail uuid state.nextDetailIndex) (cut.callFragments state.nextCallIndex) := by
  obtain ⟨block, deltas, proper⟩ := cut
  cases proper with
  | text nonempty kinds joined => exact reads_text rests kinds joined
  | thinking nonempty kinds joined signed => exact reads_thinking rests nonempty kinds joined signed
  | redactedThinking data => exact reads_redactedThinking rests index data
  | toolUse kinds written => exact reads_toolUse rests _ _ kinds

/-- The values of some items, numbered as they come. -/
def numbered {Item Value : Type*} (value : Nat → Item → Option Value) : Nat → List Item → List Value
  | _, [] => []
  | next, item :: rest =>
    (value next item).toList ++ numbered value (counted (value next item).isSome next) rest

/-- All the blocks of an answer. -/
theorem reads_body (rests : Rests state) (cuts : List (CutBlock read)) (index : Nat) :
    ∃ final chunks, decode uuid state (bodyEvents index cuts) = .ok (final, chunks) ∧
      Adds chunks (String.join (cuts.map CutBlock.text))
        (numbered (CutBlock.detail uuid) state.nextDetailIndex cuts)
        (numbered CutBlock.callFragments state.nextCallIndex cuts).flatten ∧
      Rests final ∧ Passes state final := by
  induction cuts generalizing state index with
  | nil => exact ⟨state, [], rfl, .nil, rests, ⟨rfl, rfl, rests.empty, rfl⟩⟩
  | cons cut rest ih =>
    obtain ⟨next, block⟩ := @reads_block read uuid state rests cut index
    obtain ⟨chunks, decoded, adds⟩ := block.decoded
    obtain ⟨final, more, onward, addsLater, restsLater, passesLater⟩ := ih block.rests (index + 1)
    refine ⟨final, chunks ++ more, decode_append decoded onward, ?_, restsLater,
      block.passes.trans passesLater⟩
    have whole := adds.append addsLater
    rw [block.details, block.calls] at whole
    simp only [List.map_cons, String.join_cons, numbered, List.flatten_append]
    cases call : cut.callFragments state.nextCallIndex <;> simpa [call] using whole

end Blocks
end Routectl.AnthropicApi
