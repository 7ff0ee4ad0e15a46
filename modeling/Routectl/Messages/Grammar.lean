import Routectl.Library.Brackets
import Routectl.Messages.Render

/-! The grammar of a Messages stream, and the steps of the renderer that keep to it: what
each appends, and which blocks it leaves open. -/
namespace Routectl.Messages
open Library Schema

inductive BlockKind where
  | text
  | thinking
  | redactedThinking
  | toolUse
  | opaqueData
deriving Repr, DecidableEq

/-- Replayed blocks may overlap others; canonical ones never overlap each other. -/
def BlockKind.canonical : BlockKind → Bool
  | .opaqueData => false
  | _ => true

def StartBlock.kind : StartBlock → BlockKind
  | .text => .text
  | .thinking => .thinking
  | .redactedThinking _ => .redactedThinking
  | .toolUse _ _ => .toolUse
  | .opaqueData _ => .opaqueData

def BlockDelta.kind : BlockDelta → BlockKind
  | .textDelta _ => .text
  | .thinkingDelta _ | .signatureDelta _ => .thinking
  | .inputJsonDelta _ => .toolUse
  | .opaqueData _ => .opaqueData

def OpenBlockKind.kind : OpenBlockKind → BlockKind
  | .text => .text
  | .thinking _ => .thinking
  | .toolUse => .toolUse

def MessageEvent.mark : MessageEvent → Option (Mark BlockKind)
  | .contentBlockStart index block => some (.opened index block.kind)
  | .contentBlockDelta index delta => some (.touched index delta.kind)
  | .contentBlockStop index => some (.closed index)
  | .messageStart .. | .messageDelta .. | .messageStop => none

/-- Neither the start nor the stop of the message. -/
def MessageEvent.inner : MessageEvent → Bool
  | .messageStart .. | .messageStop => false
  | _ => true

def marks (events : List MessageEvent) : List (Mark BlockKind) :=
  events.filterMap MessageEvent.mark

/-- One message start first, one message stop last, and between them blocks started under
0, 1, 2, …, each touched by deltas of its kind while it is open and stopped once, no two
canonical ones open together. -/
def Conforms (events : List MessageEvent) : Prop :=
  ∃ id model usage body,
    events = .messageStart id model usage :: body ++ [.messageStop] ∧
      (∀ event ∈ body, event.inner = true) ∧ Brackets.Balanced BlockKind.canonical (marks body)

def AnthropicStreamState.liveBlocks (state : AnthropicStreamState) : List (Σ _ : Nat, BlockKind) :=
  state.openBlock.toList.map (fun block => ⟨block.1, block.2.kind⟩) ++
    state.opaqueIndexMap.entries.map fun entry => ⟨entry.2, .opaqueData⟩

/-- The client has open what the renderer believes is open. -/
def Rendering.Bracketed (rendering : Rendering) : Prop :=
  ∃ brackets, (Brackets.machine BlockKind.canonical).run .initial (marks rendering.events) =
      some brackets ∧
    brackets.count = rendering.state.nextIndex ∧ brackets.Holds rendering.state.liveBlocks

/-- What a step inside the message may do. -/
structure Rendering.Advances (before after : Rendering) : Prop where
  extended : ∃ more, after.events = before.events ++ more ∧ ∀ event ∈ more, event.inner = true
  started : after.state.started = before.state.started
  finished : after.state.finished = before.state.finished
  pending : after.state.pendingFinishReason = before.state.pendingFinishReason
  bracketed : before.Bracketed → after.Bracketed

section Advancing
variable {first second third rendering : Rendering}

theorem Rendering.Advances.refl (rendering : Rendering) : rendering.Advances rendering :=
  ⟨⟨[], by simp, by simp⟩, rfl, rfl, rfl, id⟩

theorem Rendering.Advances.trans (earlier : first.Advances second) (later : second.Advances third) :
    first.Advances third := by
  obtain ⟨some, firstly, inner⟩ := earlier.extended
  obtain ⟨more, secondly, innerToo⟩ := later.extended
  constructor
  · refine ⟨some ++ more, by rw [secondly, firstly, List.append_assoc], ?_⟩
    intro event member
    rcases List.mem_append.mp member with early | late
    · exact inner event early
    · exact innerToo event late
  · exact later.started.trans earlier.started
  · exact later.finished.trans earlier.finished
  · exact later.pending.trans earlier.pending
  · exact fun bracketed => later.bracketed (earlier.bracketed bracketed)

theorem marks_append (events more : List MessageEvent) :
    marks (events ++ more) = marks events ++ marks more := List.filterMap_append

/-- A marked event moves the brackets on by its mark. -/
theorem brackets_emit {events : List MessageEvent} {event : MessageEvent} {mark : Mark BlockKind}
    {brackets next : Brackets BlockKind} (marked : event.mark = some mark)
    (reached : (Brackets.machine BlockKind.canonical).run .initial (marks events) = some brackets)
    (step : Brackets.step BlockKind.canonical brackets mark = some next) :
    (Brackets.machine BlockKind.canonical).run .initial (marks (events ++ [event])) = some next := by
  have single : marks [event] = [mark] := by simp [marks, marked]
  rw [marks_append, single]
  exact (Machine.run_append_eq_some _).mpr
    ⟨brackets, reached, (Machine.run_cons_eq_some _).mpr ⟨next, step, rfl⟩⟩

/-- An event outside the brackets leaves them as they are. -/
theorem Rendering.Bracketed.unmarked (bracketed : rendering.Bracketed) {event : MessageEvent}
    (unmarked : event.mark = none) : (rendering.emit event).Bracketed := by
  obtain ⟨brackets, reached, counted, holds⟩ := bracketed
  refine ⟨brackets, ?_, counted, holds⟩
  have silent : marks [event] = [] := by simp [marks, unmarked]
  rw [Rendering.emit, marks_append, silent, List.append_nil]
  exact reached

theorem closeOpenBlock_none (rendering : Rendering) :
    rendering.closeOpenBlock.state.openBlock = none := by
  unfold Rendering.closeOpenBlock
  split
  · assumption
  · rfl

theorem closeOpenBlock_advances (rendering : Rendering) :
    rendering.Advances rendering.closeOpenBlock := by
  unfold Rendering.closeOpenBlock
  split
  case h_1 => exact .refl rendering
  case h_2 index kind held =>
    refine ⟨⟨[.contentBlockStop index], rfl, by simp [MessageEvent.inner]⟩, rfl, rfl, rfl, ?_⟩
    rintro ⟨brackets, reached, counted, holds⟩
    simp only [AnthropicStreamState.liveBlocks, held, Option.toList_some, List.map_cons,
      List.map_nil, List.cons_append, List.nil_append] at holds
    obtain ⟨next, step, kept, fewer⟩ :=
      @Brackets.Holds.closed _ _ BlockKind.canonical _ _ _ _ holds
    exact ⟨next, brackets_emit rfl reached step, kept.trans counted, fewer⟩

/-- With no canonical block open, any kind may be started under the next index. -/
theorem Rendering.Bracketed.start (bracketed : rendering.Bracketed)
    (closed : rendering.state.openBlock = none) (block : StartBlock) :
    ∃ brackets, (Brackets.machine BlockKind.canonical).run .initial
        (marks (rendering.events ++ [.contentBlockStart rendering.state.nextIndex block])) =
          some brackets ∧
      brackets.count = rendering.state.nextIndex + 1 ∧
        brackets.Holds (⟨rendering.state.nextIndex, block.kind⟩ :: rendering.state.liveBlocks) := by
  obtain ⟨brackets, reached, counted, holds⟩ := bracketed
  have apart : BlockKind.canonical block.kind = true →
      ∀ held ∈ rendering.state.liveBlocks, BlockKind.canonical held.2 = false := by
    intro _ held member
    simp only [AnthropicStreamState.liveBlocks, closed, Option.toList_none, List.map_nil,
      List.nil_append] at member
    obtain ⟨entry, _, rfl⟩ := List.mem_map.mp member
    rfl
  obtain ⟨next, step, more, holdsNow⟩ := holds.opened block.kind apart
  rw [counted] at step more holdsNow
  exact ⟨next, brackets_emit rfl reached step, more, holdsNow⟩

theorem startBlock_kind (kind : OpenBlockKind) : (startBlock kind).kind = kind.kind := by
  cases kind <;> rfl

/-- A block started under the next index and left open. -/
theorem open_advances (closed : rendering.state.openBlock = none) {block : StartBlock}
    {kind : OpenBlockKind} (same : block.kind = kind.kind) :
    rendering.Advances
      ({ rendering.allocate with
        state := { rendering.allocate.state with
          openBlock := some (rendering.state.nextIndex, kind) } }.emit
        (.contentBlockStart rendering.state.nextIndex block)) := by
  refine ⟨⟨[_], rfl, by simp [MessageEvent.inner]⟩, rfl, rfl, rfl, ?_⟩
  intro bracketed
  obtain ⟨brackets, reached, counted, holds⟩ := bracketed.start closed block
  refine ⟨brackets, reached, counted, ?_⟩
  rw [same] at holds
  simp only [AnthropicStreamState.liveBlocks, closed, Option.toList_none, List.map_nil,
    List.nil_append] at holds
  exact holds

theorem ensureBlock_opens (rendering : Rendering) (kind : OpenBlockKind) :
    (rendering.ensureBlock kind).2.state.openBlock = some ((rendering.ensureBlock kind).1, kind) := by
  unfold Rendering.ensureBlock
  dsimp only
  split
  case h_1 index held found =>
    split
    case isTrue same => exact same ▸ found
    case isFalse => rfl
  case h_2 => rfl

theorem ensureBlock_advances (rendering : Rendering) (kind : OpenBlockKind) :
    rendering.Advances (rendering.ensureBlock kind).2 := by
  have reopened := (closeOpenBlock_advances rendering).trans
    (open_advances (closeOpenBlock_none rendering) (startBlock_kind kind))
  unfold Rendering.ensureBlock
  dsimp only
  split
  case h_1 =>
    split
    case isTrue => exact .refl rendering
    case isFalse => exact reopened
  case h_2 => exact reopened

theorem delta_advances {index : Nat} {kind : OpenBlockKind}
    (held : rendering.state.openBlock = some (index, kind)) {delta : BlockDelta}
    (same : delta.kind = kind.kind) :
    rendering.Advances (rendering.emit (.contentBlockDelta index delta)) := by
  refine ⟨⟨[_], rfl, by simp [MessageEvent.inner]⟩, rfl, rfl, rfl, ?_⟩
  rintro ⟨brackets, reached, counted, holds⟩
  refine ⟨brackets, brackets_emit rfl reached (holds.touched ?_), counted, holds⟩
  rw [same]
  simp [AnthropicStreamState.liveBlocks, held]

/-- A state change that moves no block is no event to the client. -/
theorem quiet_advances {state : AnthropicStreamState} (live : state.liveBlocks = rendering.state.liveBlocks)
    (counted : state.nextIndex = rendering.state.nextIndex)
    (started : state.started = rendering.state.started)
    (finished : state.finished = rendering.state.finished)
    (pending : state.pendingFinishReason = rendering.state.pendingFinishReason) :
    rendering.Advances { rendering with state } := by
  refine ⟨⟨[], by simp, by simp⟩, started, finished, pending, ?_⟩
  rintro ⟨brackets, reached, same, holds⟩
  exact ⟨brackets, reached, same.trans counted.symm, live ▸ holds⟩

theorem emitText_advances (rendering : Rendering) (text : String) :
    rendering.Advances (rendering.emitText text) := by
  unfold Rendering.emitText
  split
  case isTrue => exact .refl rendering
  case isFalse =>
    exact (ensureBlock_advances rendering .text).trans
      (delta_advances (ensureBlock_opens rendering .text) rfl)

theorem emitThinkingDelta_advances {index detailIndex : Nat}
    (held : rendering.state.openBlock = some (index, .thinking detailIndex)) (text : Option String) :
    rendering.Advances (rendering.emitThinkingDelta index text) := by
  unfold Rendering.emitThinkingDelta
  split
  case h_1 =>
    split
    case isTrue => exact .refl rendering
    case isFalse => exact delta_advances held rfl
  case h_2 => exact .refl rendering

theorem emitThinkingDelta_openBlock (rendering : Rendering) (index : Nat) (text : Option String) :
    (rendering.emitThinkingDelta index text).state.openBlock = rendering.state.openBlock := by
  unfold Rendering.emitThinkingDelta
  split
  case h_1 => split <;> rfl
  case h_2 => rfl

theorem emitThinking_advances (rendering : Rendering) (detail : ReasoningDetail)
    (signature : Option String) : rendering.Advances (rendering.emitThinking detail signature) := by
  have opened := ensureBlock_advances rendering (.thinking (detail.index.getD 0))
  have held := ensureBlock_opens rendering (.thinking (detail.index.getD 0))
  unfold Rendering.emitThinking
  generalize rendering.ensureBlock (.thinking (detail.index.getD 0)) = ensured at opened held
  have texted := opened.trans (emitThinkingDelta_advances held detail.text)
  have still := (emitThinkingDelta_openBlock ensured.2 ensured.1 detail.text).trans held
  dsimp only
  split
  case h_1 => exact texted.trans (delta_advances still rfl)
  case h_2 => exact texted

/-- A redacted block is started and stopped at once. -/
theorem redacted_advances (closed : rendering.state.openBlock = none) (data : String) :
    rendering.Advances ((rendering.allocate.emit
      (.contentBlockStart rendering.state.nextIndex (.redactedThinking data))).emit
        (.contentBlockStop rendering.state.nextIndex)) := by
  refine ⟨⟨[.contentBlockStart rendering.state.nextIndex (.redactedThinking data),
    .contentBlockStop rendering.state.nextIndex], by simp [Rendering.emit, Rendering.allocate],
    by simp [MessageEvent.inner]⟩, rfl, rfl, rfl, ?_⟩
  intro bracketed
  obtain ⟨brackets, reached, counted, holds⟩ := bracketed.start closed (.redactedThinking data)
  obtain ⟨next, step, kept, fewer⟩ := @Brackets.Holds.closed _ _ BlockKind.canonical _ _ _ _ holds
  exact ⟨next, brackets_emit rfl reached step, kept.trans counted, fewer⟩

theorem emitReasoningDetail_advances (rendering : Rendering) (detail : ReasoningDetail) :
    rendering.Advances (rendering.emitReasoningDetail detail) := by
  unfold Rendering.emitReasoningDetail
  split
  case h_1 => exact emitThinking_advances rendering detail _
  case h_2 =>
    exact (closeOpenBlock_advances rendering).trans
      (redacted_advances (closeOpenBlock_none rendering) _)
  case h_3 => exact emitThinking_advances rendering detail none
  case h_4 => exact emitThinking_advances rendering detail none

/-- Steps that advance, advance in sequence. -/
theorem foldl_advances {Item : Type*} {step : Rendering → Item → Rendering} {items : List Item}
    (advances : ∀ rendering, ∀ item ∈ items, Rendering.Advances rendering (step rendering item))
    (rendering : Rendering) : rendering.Advances (items.foldl step rendering) := by
  induction items generalizing rendering with
  | nil => exact .refl rendering
  | cons item rest ih =>
    have first := advances rendering item (List.mem_cons_self ..)
    exact first.trans (ih (fun rendering item member =>
      advances rendering item (List.mem_cons_of_mem _ member)) _)

theorem flushToolBlock_advances (rendering : Rendering) (block : ToolBlockState) :
    rendering.Advances (rendering.flushToolBlock block) := by
  have opened : rendering.Advances _ := (closeOpenBlock_advances rendering).trans
    (@open_advances _ (closeOpenBlock_none rendering) (.toolUse block.id block.name) .toolUse rfl)
  unfold Rendering.flushToolBlock
  dsimp only
  split
  · exact opened
  · exact opened.trans (delta_advances rfl rfl)

theorem flushToolBlocks_advances (rendering : Rendering) :
    rendering.Advances rendering.flushToolBlocks := by
  have emptied : rendering.Advances
      { rendering with state := { rendering.state with toolBlocks := [] } } :=
    quiet_advances rfl rfl rfl rfl rfl
  exact emptied.trans
    (foldl_advances (fun rendering block _ => flushToolBlock_advances rendering block) _)

/-- Fragments only fill the buffers, and are refused past the last index. -/
theorem applyToolCalls_ok {toolCalls : List Json} {next : Rendering} :
    toolCalls.foldlM Rendering.applyToolCallDelta rendering = .ok next ↔
      (∀ toolCall ∈ toolCalls, toolCallIndex toolCall ≤ maxToolCallIndex) ∧
        next = { rendering with
          state := { rendering.state with
            toolBlocks := toolCalls.foldl bufferFragment rendering.state.toolBlocks } } := by
  induction toolCalls generalizing rendering with
  | nil =>
    constructor
    · intro applied
      exact ⟨by simp, (Except.ok.inj applied).symm⟩
    · rintro ⟨-, rfl⟩
      rfl
  | cons toolCall rest ih =>
    rw [List.foldlM_cons, List.foldl_cons, List.forall_mem_cons]
    by_cases admitted : toolCallIndex toolCall ≤ maxToolCallIndex
    · have applied : rendering.applyToolCallDelta toolCall = .ok { rendering with
          state := { rendering.state with
            toolBlocks := bufferFragment rendering.state.toolBlocks toolCall } } :=
        if_neg (Nat.not_lt.mpr admitted)
      rw [applied, and_iff_right admitted]
      exact ih
    · have refused : rendering.applyToolCallDelta toolCall =
          .error (.toolCallIndex (toolCallIndex toolCall)) := if_pos (Nat.not_le.mp admitted)
      rw [refused]
      constructor
      · intro applied
        cases applied
      · rintro ⟨⟨inside, -⟩, -⟩
        exact absurd inside admitted

theorem applyToolCalls_advances {toolCalls : List Json} {next : Rendering}
    (applied : toolCalls.foldlM Rendering.applyToolCallDelta rendering = .ok next) :
    rendering.Advances next := by
  obtain ⟨-, rfl⟩ := applyToolCalls_ok.mp applied
  exact quiet_advances rfl rfl rfl rfl rfl

theorem emitDeltaEvents_advances {delta : ChunkDelta} {next : Rendering}
    (emitted : rendering.emitDeltaEvents delta = .ok next) : rendering.Advances next := by
  unfold Rendering.emitDeltaEvents at emitted
  dsimp only at emitted
  refine Rendering.Advances.trans ?_ (applyToolCalls_advances emitted)
  exact (emitText_advances rendering _).trans
    (foldl_advances (fun rendering detail _ => emitReasoningDetail_advances rendering detail) _)

/-- The bytes of an opaque event are text. -/
def readable : OpaqueSseEvent → Prop
  | .contentBlockStart _ _ rawData => (String.fromUTF8? rawData).isSome = true
  | .contentBlockDelta _ rawDelta => (String.fromUTF8? rawDelta).isSome = true
  | .contentBlockStop _ => True

/-- Stop the replayed block of an upstream index, and forget it. -/
theorem stopOpaque_advances {upstreamIndex index : Nat}
    (found : rendering.state.opaqueIndexMap.lookup upstreamIndex = some index) :
    rendering.Advances ({ rendering with
      state := { rendering.state with
        opaqueIndexMap := rendering.state.opaqueIndexMap.erase upstreamIndex } }.emit
          (.contentBlockStop index)) := by
  refine ⟨⟨[_], rfl, by simp [MessageEvent.inner]⟩, rfl, rfl, rfl, ?_⟩
  rintro ⟨brackets, reached, counted, holds⟩
  have live : rendering.state.liveBlocks.Perm (⟨index, .opaqueData⟩ ::
      { rendering.state with
        opaqueIndexMap := rendering.state.opaqueIndexMap.erase upstreamIndex }.liveBlocks) := by
    have entries := (KeyedMap.entries_perm_erase found).map
      fun entry => (⟨entry.2, .opaqueData⟩ : Σ _ : Nat, BlockKind)
    exact (entries.append_left _).trans List.perm_middle
  obtain ⟨next, step, kept, fewer⟩ :=
    @Brackets.Holds.closed _ _ BlockKind.canonical _ _ _ _ (holds.perm live)
  exact ⟨next, brackets_emit rfl reached step, kept.trans counted, fewer⟩

/-- Start a replayed block for an upstream index that has none. -/
theorem startOpaque_advances {upstreamIndex : Nat} (closed : rendering.state.openBlock = none)
    (missing : rendering.state.opaqueIndexMap.lookup upstreamIndex = none) (raw : String) :
    rendering.Advances ({ rendering with
      state := { rendering.state with
        nextIndex := rendering.state.nextIndex + 1
        opaqueIndexMap :=
          rendering.state.opaqueIndexMap.insert upstreamIndex rendering.state.nextIndex } }.emit
      (.contentBlockStart rendering.state.nextIndex (.opaqueData raw))) := by
  refine ⟨⟨[_], rfl, by simp [MessageEvent.inner]⟩, rfl, rfl, rfl, ?_⟩
  intro bracketed
  obtain ⟨brackets, reached, counted, holds⟩ := bracketed.start closed (.opaqueData raw)
  refine ⟨brackets, reached, counted, ?_⟩
  have inserted := AList.entries_insert_of_notMem (b := rendering.state.nextIndex)
    (AList.lookup_eq_none.mp missing)
  simp only [AnthropicStreamState.liveBlocks, closed, Option.toList_none, List.map_nil,
    List.nil_append] at holds
  simp only [AnthropicStreamState.liveBlocks, Rendering.emit, closed, Option.toList_none,
    List.map_nil, List.nil_append, inserted, List.map_cons]
  exact holds

theorem replayOpaqueEvent_advances (rendering : Rendering) {event : OpaqueSseEvent}
    (reads : readable event) : rendering.Advances (rendering.replayOpaqueEvent event) := by
  unfold Rendering.replayOpaqueEvent
  split
  case h_1 upstreamIndex typeTag rawData =>
    have closed := closeOpenBlock_none rendering
    have closing := closeOpenBlock_advances rendering
    generalize rendering.closeOpenBlock = quiet at closed closing
    obtain ⟨raw, text⟩ := Option.isSome_iff_exists.mp reads
    dsimp only
    rw [text]
    refine closing.trans ?_
    cases orphan : quiet.state.opaqueIndexMap.lookup upstreamIndex with
    | none => exact startOpaque_advances closed orphan raw
    | some old =>
      have stopped := stopOpaque_advances orphan
      have started := @startOpaque_advances ({ quiet with
        state := { quiet.state with
          opaqueIndexMap := quiet.state.opaqueIndexMap.erase upstreamIndex } }.emit
          (.contentBlockStop old)) upstreamIndex closed
        (AList.lookup_erase upstreamIndex quiet.state.opaqueIndexMap) raw
      have replaced := stopped.trans started
      simp only [Rendering.emit, KeyedMap.insert_erase_self] at replaced
      exact replaced
  case h_2 upstreamIndex rawDelta =>
    split
    · exact .refl rendering
    · rename_i index found
      obtain ⟨raw, text⟩ := Option.isSome_iff_exists.mp reads
      rw [text]
      refine ⟨⟨[_], rfl, by simp [MessageEvent.inner]⟩, rfl, rfl, rfl, ?_⟩
      rintro ⟨brackets, reached, counted, holds⟩
      refine ⟨brackets, brackets_emit rfl reached (holds.touched ?_), counted, holds⟩
      refine List.mem_append_right _ (List.mem_map.mpr ⟨⟨upstreamIndex, index⟩, ?_, rfl⟩)
      exact AList.mem_lookup_iff.mp found
  case h_3 upstreamIndex =>
    split
    · exact .refl rendering
    · rename_i index found
      exact stopOpaque_advances found

theorem replayOpaqueEvents_advances (rendering : Rendering) {events : List OpaqueSseEvent}
    (reads : ∀ event ∈ events, readable event) :
    rendering.Advances (rendering.replayOpaqueEvents events) :=
  foldl_advances (fun rendering event member =>
    replayOpaqueEvent_advances rendering (reads event member)) rendering

theorem foldl_emit_stop (entries : List (Nat × Nat)) (rendering : Rendering) :
    entries.foldl (fun closing entry => closing.emit (.contentBlockStop entry.2)) rendering =
      { rendering with
        events := rendering.events ++ entries.map fun entry => .contentBlockStop entry.2 } := by
  induction entries generalizing rendering with
  | nil => simp
  | cons entry rest ih =>
    rw [List.foldl_cons, ih]
    simp [Rendering.emit]

/-- Stopping replayed blocks one by one leaves the others open. -/
theorem brackets_drain (entries : List (Nat × Nat)) {kept : List (Σ _ : Nat, BlockKind)}
    {events : List MessageEvent} {brackets : Brackets BlockKind}
    (reached : (Brackets.machine BlockKind.canonical).run .initial (marks events) = some brackets)
    (holds : brackets.Holds ((entries.map fun entry => ⟨entry.2, .opaqueData⟩) ++ kept)) :
    ∃ final, (Brackets.machine BlockKind.canonical).run .initial
        (marks (events ++ entries.map fun entry => .contentBlockStop entry.2)) = some final ∧
      final.count = brackets.count ∧ final.Holds kept := by
  induction entries generalizing events brackets with
  | nil => exact ⟨brackets, by simpa using reached, rfl, holds⟩
  | cons entry rest ih =>
    obtain ⟨next, step, same, fewer⟩ :=
      @Brackets.Holds.closed _ _ BlockKind.canonical _ _ _ _ holds
    have stopped := @brackets_emit events (.contentBlockStop entry.2) _ _ _ rfl reached step
    obtain ⟨final, onward, counted, rested⟩ := ih stopped fewer
    refine ⟨final, ?_, counted.trans same, rested⟩
    rw [List.map_cons, List.append_cons]
    exact onward

theorem closeLingering_drained (rendering : Rendering) :
    rendering.closeLingeringOpaqueBlocks.state.opaqueIndexMap = ∅ := by
  unfold Rendering.closeLingeringOpaqueBlocks
  dsimp only
  rw [foldl_emit_stop]

theorem closeLingering_advances (rendering : Rendering) :
    rendering.Advances rendering.closeLingeringOpaqueBlocks := by
  unfold Rendering.closeLingeringOpaqueBlocks
  dsimp only
  rw [foldl_emit_stop]
  have sorted := List.perm_insertionSort (fun first second : Nat × Nat => first.1 ≤ second.1)
    (rendering.state.opaqueIndexMap.entries.map fun entry => (entry.1, entry.2))
  generalize List.insertionSort (fun first second : Nat × Nat => first.1 ≤ second.1)
    (rendering.state.opaqueIndexMap.entries.map fun entry => (entry.1, entry.2)) = lingering
    at sorted ⊢
  refine ⟨⟨_, rfl, ?_⟩, rfl, rfl, rfl, ?_⟩
  · intro event member
    obtain ⟨entry, _, rfl⟩ := List.mem_map.mp member
    rfl
  · rintro ⟨brackets, reached, counted, holds⟩
    have live : rendering.state.liveBlocks.Perm
        ((lingering.map fun entry => ⟨entry.2, .opaqueData⟩) ++
          rendering.state.openBlock.toList.map fun block => ⟨block.1, block.2.kind⟩) := by
      have entries := sorted.map
        fun entry : Nat × Nat => (⟨entry.2, .opaqueData⟩ : Σ _ : Nat, BlockKind)
      rw [List.map_map] at entries
      exact (entries.symm.append_left _).trans List.perm_append_comm
    obtain ⟨final, onward, same, kept⟩ := brackets_drain lingering reached (holds.perm live)
    refine ⟨final, onward, same.trans counted, ?_⟩
    simpa [AnthropicStreamState.liveBlocks] using kept

/-- An event outside the brackets and inside the message. -/
theorem unmarked_advances (rendering : Rendering) {event : MessageEvent}
    (unmarked : event.mark = none) (inner : event.inner = true) :
    rendering.Advances (rendering.emit event) :=
  ⟨⟨[event], rfl, by simpa using inner⟩, rfl, rfl, rfl, fun bracketed => bracketed.unmarked unmarked⟩

end Advancing
end Routectl.Messages
