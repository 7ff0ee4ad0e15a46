import Routectl.Messages.Conformance

/-! What a client reads off the events of a stream, and what each step of the renderer
adds to it. -/
namespace Routectl.Messages
open Library Schema

/-- One thing a client is told outside its tool calls. -/
inductive Piece where
  | text (text : String)
  | thinking (thinking : String)
  | redacted (data : String)
  | report (stopReason stopSequence : Option String) (usage : Option WireUsage)
deriving Repr, DecidableEq

def MessageEvent.piece : MessageEvent → Option Piece
  | .contentBlockDelta _ (.textDelta text) => some (.text text)
  | .contentBlockDelta _ (.thinkingDelta thinking) => some (.thinking thinking)
  | .contentBlockStart _ (.redactedThinking data) => some (.redacted data)
  | .messageDelta stopReason stopSequence usage => some (.report stopReason stopSequence usage)
  | _ => none

def pieces (events : List MessageEvent) : List Piece := events.filterMap MessageEvent.piece

def MessageEvent.toolStart : MessageEvent → Option (Nat × String × String)
  | .contentBlockStart index (.toolUse id name) => some (index, id, name)
  | _ => none

def MessageEvent.toolInput : MessageEvent → Option (Nat × String)
  | .contentBlockDelta index (.inputJsonDelta partialJson) => some (index, partialJson)
  | _ => none

/-- The index of the tool block an event starts or fills. -/
def MessageEvent.toolIndex (event : MessageEvent) : Option Nat :=
  (event.toolStart.map Prod.fst).or (event.toolInput.map Prod.fst)

def MessageEvent.inputAt (index : Nat) (event : MessageEvent) : Option String :=
  event.toolInput.bind fun input => if input.1 = index then some input.2 else none

/-- The input the tool block of an index is sent, delta after delta. -/
def inputJson (index : Nat) (events : List MessageEvent) : String :=
  String.join (events.filterMap (MessageEvent.inputAt index))

/-- The tool blocks a client is sent, each with the input that follows its start. -/
def toolUses : List MessageEvent → List ToolBlockState
  | [] => []
  | event :: rest =>
    match event.toolStart with
    | some (index, id, name) => ⟨id, name, inputJson index rest⟩ :: toolUses rest
    | none => toolUses rest

/-- A step sends these pieces and these tool blocks, under indices that were free. -/
structure Rendering.Sends (before after : Rendering) (sent : List Piece)
    (uses : List ToolBlockState) : Prop where
  events : ∃ more, after.events = before.events ++ more ∧ pieces more = sent ∧
    toolUses more = uses ∧ ∀ event ∈ more, ∀ index ∈ event.toolIndex,
      before.state.nextIndex ≤ index ∧ index < after.state.nextIndex
  onward : before.state.nextIndex ≤ after.state.nextIndex

/-- A step that sends these pieces and nothing of a tool block, and moves neither the
buffers nor what is held for the end. -/
structure Rendering.Speaks (before after : Rendering) (sent : List Piece) : Prop where
  events : ∃ more, after.events = before.events ++ more ∧ pieces more = sent ∧
    ∀ event ∈ more, event.toolIndex = none
  onward : before.state.nextIndex ≤ after.state.nextIndex
  toolBlocks : after.state.toolBlocks = before.state.toolBlocks
  reason : after.state.pendingFinishReason = before.state.pendingFinishReason
  sequence : after.state.pendingMatchedStopSequence = before.state.pendingMatchedStopSequence
  finished : after.state.finished = before.state.finished

section Reading

theorem inputAt_none {index : Nat} {event : MessageEvent}
    (other : ∀ taken ∈ event.toolIndex, index ≠ taken) : event.inputAt index = none := by
  cases input : event.toolInput with
  | none => simp [MessageEvent.inputAt, input]
  | some taken =>
    have indexed : taken.1 ∈ event.toolIndex := by
      have silent : event.toolStart = none := by
        unfold MessageEvent.toolInput at input
        split at input
        · rfl
        · cases input
      simp [MessageEvent.toolIndex, silent, input]
    simp [MessageEvent.inputAt, input, (other taken.1 indexed).symm]

theorem inputJson_append_apart {index : Nat} {events more : List MessageEvent}
    (apart : ∀ event ∈ more, ∀ taken ∈ event.toolIndex, index ≠ taken) :
    inputJson index (events ++ more) = inputJson index events := by
  have silent : more.filterMap (MessageEvent.inputAt index) = [] :=
    List.filterMap_eq_nil_iff.mpr fun event member => inputAt_none (apart event member)
  simp [inputJson, List.filterMap_append, silent]

theorem toolUses_append {events more : List MessageEvent}
    (apart : ∀ event ∈ events, ∀ index ∈ event.toolIndex,
      ∀ other ∈ more, ∀ taken ∈ other.toolIndex, index ≠ taken) :
    toolUses (events ++ more) = toolUses events ++ toolUses more := by
  induction events with
  | nil => rfl
  | cons event rest ih =>
    have later := ih fun event member => apart event (List.mem_cons_of_mem _ member)
    cases started : event.toolStart with
    | none => simp [toolUses, started, later]
    | some block =>
      obtain ⟨index, id, name⟩ := block
      have indexed : index ∈ event.toolIndex := by simp [MessageEvent.toolIndex, started]
      have own := apart event (List.mem_cons_self ..) index indexed
      simp [toolUses, started, later, @inputJson_append_apart index rest more own]

end Reading

section Sending
variable {first second third rendering : Rendering}

theorem Rendering.Sends.refl (rendering : Rendering) : rendering.Sends rendering [] [] :=
  ⟨⟨[], by simp, rfl, rfl, by simp⟩, le_refl _⟩

theorem Rendering.Sends.trans {sent sentLater : List Piece} {uses usesLater : List ToolBlockState}
    (earlier : first.Sends second sent uses) (later : second.Sends third sentLater usesLater) :
    first.Sends third (sent ++ sentLater) (uses ++ usesLater) := by
  obtain ⟨events, firstly, read, used, within⟩ := earlier.events
  obtain ⟨more, secondly, readLater, usedLater, withinLater⟩ := later.events
  refine ⟨⟨events ++ more, ?_, ?_, ?_, ?_⟩, le_trans earlier.onward later.onward⟩
  · rw [secondly, firstly, List.append_assoc]
  · rw [← read, ← readLater, pieces, List.filterMap_append]
    rfl
  · rw [← used, ← usedLater]
    apply toolUses_append
    intro event member index indexed other otherMember taken takenBy
    have below := (within event member index indexed).2
    have above := (withinLater other otherMember taken takenBy).1
    omega
  · intro event member index indexed
    have grewFirst := earlier.onward
    have grewLater := later.onward
    rcases List.mem_append.mp member with early | late
    · have inside := within event early index indexed
      omega
    · have inside := withinLater event late index indexed
      omega

theorem toolUses_plain {events : List MessageEvent}
    (plain : ∀ event ∈ events, event.toolIndex = none) : toolUses events = [] := by
  induction events with
  | nil => rfl
  | cons event rest ih =>
    have apart := plain event (List.mem_cons_self ..)
    have later := ih fun other member => plain other (List.mem_cons_of_mem _ member)
    cases started : event.toolStart with
    | none => simp [toolUses, started, later]
    | some block => simp [MessageEvent.toolIndex, started] at apart

theorem Rendering.Speaks.refl (rendering : Rendering) : rendering.Speaks rendering [] :=
  ⟨⟨[], by simp, rfl, by simp⟩, le_refl _, rfl, rfl, rfl, rfl⟩

theorem Rendering.Speaks.trans {sent sentLater : List Piece} (earlier : first.Speaks second sent)
    (later : second.Speaks third sentLater) : first.Speaks third (sent ++ sentLater) := by
  obtain ⟨events, firstly, read, plain⟩ := earlier.events
  obtain ⟨more, secondly, readLater, plainLater⟩ := later.events
  refine ⟨⟨events ++ more, ?_, ?_, ?_⟩, le_trans earlier.onward later.onward,
    later.toolBlocks.trans earlier.toolBlocks, later.reason.trans earlier.reason,
    later.sequence.trans earlier.sequence, later.finished.trans earlier.finished⟩
  · rw [secondly, firstly, List.append_assoc]
  · rw [← read, ← readLater, pieces, List.filterMap_append]
    rfl
  · intro event member
    rcases List.mem_append.mp member with early | late
    · exact plain event early
    · exact plainLater event late

theorem Rendering.Speaks.sends {sent : List Piece} (speaks : first.Speaks second sent) :
    first.Sends second sent [] := by
  obtain ⟨more, extended, read, plain⟩ := speaks.events
  refine ⟨⟨more, extended, read, toolUses_plain plain, ?_⟩, speaks.onward⟩
  intro event member index indexed
  rw [plain event member] at indexed
  cases indexed

theorem emit_speaks (rendering : Rendering) (event : MessageEvent) (plain : event.toolIndex = none) :
    rendering.Speaks (rendering.emit event) (pieces [event]) :=
  ⟨⟨[event], rfl, rfl, by simpa using plain⟩, le_refl _, rfl, rfl, rfl, rfl⟩

theorem quiet_speaks {state : AnthropicStreamState}
    (onward : rendering.state.nextIndex ≤ state.nextIndex)
    (toolBlocks : state.toolBlocks = rendering.state.toolBlocks)
    (reason : state.pendingFinishReason = rendering.state.pendingFinishReason)
    (sequence : state.pendingMatchedStopSequence = rendering.state.pendingMatchedStopSequence)
    (finished : state.finished = rendering.state.finished) :
    rendering.Speaks { rendering with state } [] :=
  ⟨⟨[], by simp, rfl, by simp⟩, onward, toolBlocks, reason, sequence, finished⟩

theorem closeOpenBlock_speaks (rendering : Rendering) :
    rendering.Speaks rendering.closeOpenBlock [] := by
  unfold Rendering.closeOpenBlock
  split
  case h_1 => exact .refl rendering
  case h_2 index kind held =>
    exact ⟨⟨[.contentBlockStop index], rfl, rfl, by simp; rfl⟩, le_refl _, rfl, rfl, rfl, rfl⟩

/-- No tool block is opened through `ensureBlock`. -/
theorem ensureBlock_speaks (rendering : Rendering) {kind : OpenBlockKind} (plain : kind ≠ .toolUse) :
    rendering.Speaks (rendering.ensureBlock kind).2 [] := by
  have opened : ∀ quiet : Rendering, quiet.Speaks
      ({ quiet.allocate with
        state := { quiet.allocate.state with openBlock := some (quiet.state.nextIndex, kind) } }.emit
        (.contentBlockStart quiet.state.nextIndex (startBlock kind))) [] := by
    intro quiet
    cases kind with
    | text => exact ⟨⟨[_], rfl, rfl, by simp; rfl⟩, Nat.le_succ _, rfl, rfl, rfl, rfl⟩
    | thinking index => exact ⟨⟨[_], rfl, rfl, by simp; rfl⟩, Nat.le_succ _, rfl, rfl, rfl, rfl⟩
    | toolUse => exact absurd rfl plain
  have reopened := (closeOpenBlock_speaks rendering).trans (opened rendering.closeOpenBlock)
  unfold Rendering.ensureBlock
  dsimp only
  split
  case h_1 =>
    split
    case isTrue => exact .refl rendering
    case isFalse => exact reopened
  case h_2 => exact reopened

def textPieces (text : String) : List Piece := if text = "" then [] else [.text text]

theorem emitText_speaks (rendering : Rendering) (text : String) :
    rendering.Speaks (rendering.emitText text) (textPieces text) := by
  unfold Rendering.emitText textPieces
  split
  case isTrue => exact .refl rendering
  case isFalse =>
    have opened := @ensureBlock_speaks rendering .text (by simp)
    exact opened.trans (emit_speaks _ (.contentBlockDelta _ (.textDelta text)) rfl)

def thinkingPieces (detail : ReasoningDetail) : List Piece :=
  if detail.text.getD "" = "" then [] else [.thinking (detail.text.getD "")]

theorem emitThinkingDelta_speaks (rendering : Rendering) (index : Nat) (detail : ReasoningDetail) :
    rendering.Speaks (rendering.emitThinkingDelta index detail.text) (thinkingPieces detail) := by
  unfold Rendering.emitThinkingDelta thinkingPieces
  cases detail.text with
  | none => exact .refl rendering
  | some text =>
    simp only [Option.getD_some]
    split
    case isTrue => exact .refl rendering
    case isFalse => exact emit_speaks rendering (.contentBlockDelta index (.thinkingDelta text)) rfl

theorem emitThinking_speaks (rendering : Rendering) (detail : ReasoningDetail)
    (signature : Option String) :
    rendering.Speaks (rendering.emitThinking detail signature) (thinkingPieces detail) := by
  have opened := @ensureBlock_speaks rendering (.thinking (detail.index.getD 0)) (by simp)
  unfold Rendering.emitThinking
  generalize rendering.ensureBlock (.thinking (detail.index.getD 0)) = ensured at opened
  have texted := opened.trans (emitThinkingDelta_speaks ensured.2 ensured.1 detail)
  dsimp only
  split
  case h_1 signature =>
    have signed := texted.trans
      (emit_speaks _ (.contentBlockDelta ensured.1 (.signatureDelta signature)) rfl)
    rw [← List.append_nil (thinkingPieces detail)]
    exact signed
  case h_2 => exact texted

def detailPieces (detail : ReasoningDetail) : List Piece :=
  match detail.kind with
  | .encrypted => [.redacted (encryptedDetailData detail)]
  | .text | .summary | .other _ => thinkingPieces detail

theorem emitReasoningDetail_speaks (rendering : Rendering) (detail : ReasoningDetail) :
    rendering.Speaks (rendering.emitReasoningDetail detail) (detailPieces detail) := by
  unfold Rendering.emitReasoningDetail detailPieces
  cases detail.kind with
  | text => exact emitThinking_speaks rendering detail _
  | summary => exact emitThinking_speaks rendering detail none
  | other tag => exact emitThinking_speaks rendering detail none
  | encrypted =>
    have redacted : rendering.closeOpenBlock.Speaks
        ((rendering.closeOpenBlock.allocate.emit (.contentBlockStart
          rendering.closeOpenBlock.state.nextIndex (.redactedThinking (encryptedDetailData detail)))).emit
          (.contentBlockStop rendering.closeOpenBlock.state.nextIndex))
        [.redacted (encryptedDetailData detail)] :=
      ⟨⟨[.contentBlockStart rendering.closeOpenBlock.state.nextIndex
            (.redactedThinking (encryptedDetailData detail)),
          .contentBlockStop rendering.closeOpenBlock.state.nextIndex],
          by simp [Rendering.emit, Rendering.allocate], rfl, by simp; exact ⟨rfl, rfl⟩⟩,
        Nat.le_succ _, rfl, rfl, rfl, rfl⟩
    exact (closeOpenBlock_speaks rendering).trans redacted

theorem foldl_speaks {Item : Type*} {step : Rendering → Item → Rendering} {sent : Item → List Piece}
    (speaks : ∀ rendering item, Rendering.Speaks rendering (step rendering item) (sent item))
    (items : List Item) (rendering : Rendering) :
    rendering.Speaks (items.foldl step rendering) (items.flatMap sent) := by
  induction items generalizing rendering with
  | nil => exact .refl rendering
  | cons item rest ih =>
    rw [List.flatMap_cons, List.foldl_cons]
    exact (speaks rendering item).trans (ih _)

theorem replayOpaqueEvent_speaks (rendering : Rendering) (event : OpaqueSseEvent) :
    rendering.Speaks (rendering.replayOpaqueEvent event) [] := by
  unfold Rendering.replayOpaqueEvent
  split
  case h_1 upstreamIndex typeTag rawData =>
    have closing := closeOpenBlock_speaks rendering
    generalize rendering.closeOpenBlock = quiet at closing
    refine closing.trans ?_
    dsimp only
    have mapped : quiet.Speaks { quiet.allocate with
        state := { quiet.allocate.state with
          opaqueIndexMap :=
            quiet.allocate.state.opaqueIndexMap.insert upstreamIndex quiet.state.nextIndex } } [] :=
      quiet_speaks (Nat.le_succ _) rfl rfl rfl rfl
    have started (after : Rendering) (stopped : quiet.Speaks after []) (raw : String) :
        quiet.Speaks (after.emit
          (.contentBlockStart quiet.state.nextIndex (.opaqueData raw))) [] :=
      stopped.trans (emit_speaks _ (.contentBlockStart quiet.state.nextIndex (.opaqueData raw)) rfl)
    cases quiet.state.opaqueIndexMap.lookup upstreamIndex with
    | some old =>
      have stopped := mapped.trans (emit_speaks _ (.contentBlockStop old) rfl)
      cases String.fromUTF8? rawData with
      | some raw => exact started _ stopped raw
      | none => exact stopped
    | none =>
      cases String.fromUTF8? rawData with
      | some raw => exact started _ mapped raw
      | none => exact mapped
  case h_2 upstreamIndex rawDelta =>
    split
    · exact .refl rendering
    · rename_i index found
      split
      · rename_i raw _
        exact emit_speaks rendering (.contentBlockDelta index (.opaqueData raw)) rfl
      · exact .refl rendering
  case h_3 upstreamIndex =>
    split
    · exact .refl rendering
    · rename_i index found
      have erased : rendering.Speaks { rendering with
          state := { rendering.state with
            opaqueIndexMap := rendering.state.opaqueIndexMap.erase upstreamIndex } } [] :=
        quiet_speaks (le_refl _) rfl rfl rfl rfl
      exact erased.trans (emit_speaks _ (.contentBlockStop index) rfl)

theorem replayOpaqueEvents_speaks (rendering : Rendering) (events : List OpaqueSseEvent) :
    rendering.Speaks (rendering.replayOpaqueEvents events) [] := by
  have replayed := foldl_speaks replayOpaqueEvent_speaks events rendering
  have silent : events.flatMap (fun _ => ([] : List Piece)) = [] :=
    List.flatMap_eq_nil_iff.mpr fun _ _ => rfl
  rwa [silent] at replayed

theorem closeLingering_speaks (rendering : Rendering) :
    rendering.Speaks rendering.closeLingeringOpaqueBlocks [] := by
  unfold Rendering.closeLingeringOpaqueBlocks
  dsimp only
  rw [foldl_emit_stop]
  refine ⟨⟨_, rfl, ?_, ?_⟩, le_refl _, rfl, rfl, rfl, rfl⟩
  · apply List.filterMap_eq_nil_iff.mpr
    intro event member
    obtain ⟨entry, _, rfl⟩ := List.mem_map.mp member
    rfl
  · intro event member
    obtain ⟨entry, _, rfl⟩ := List.mem_map.mp member
    rfl

theorem ensureStarted_speaks (rendering : Rendering) (opening : Option OpeningUsage) :
    rendering.Speaks (rendering.ensureStarted opening) [] := by
  unfold Rendering.ensureStarted
  split
  case isTrue => exact .refl rendering
  case isFalse =>
    exact ⟨⟨[_], rfl, rfl, by simp; rfl⟩, le_refl _, rfl, rfl, rfl, rfl⟩

def deltaPieces (delta : ChunkDelta) : List Piece :=
  textPieces (delta.content.getD "") ++ delta.reasoningDetails.flatMap detailPieces

/-- A delta is spoken at once, but for its tool calls, which are buffered. -/
theorem emitDeltaEvents_speaks {delta : ChunkDelta} {next : Rendering}
    (emitted : rendering.emitDeltaEvents delta = .ok next) :
    ∃ spoken, rendering.Speaks spoken (deltaPieces delta) ∧ next = { spoken with
      state := { spoken.state with
        toolBlocks := (delta.toolCalls.getD []).foldl bufferFragment
          rendering.state.toolBlocks } } := by
  have speaks := (emitText_speaks rendering (delta.content.getD "")).trans
    (foldl_speaks emitReasoningDetail_speaks delta.reasoningDetails _)
  obtain ⟨-, rfl⟩ := applyToolCalls_ok.mp emitted
  refine ⟨_, speaks, ?_⟩
  rw [speaks.toolBlocks]

end Sending
end Routectl.Messages
