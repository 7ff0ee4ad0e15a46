import Routectl.Responses.Following

/-! What a client is owed of a stream: one lifecycle of bracketed items, each detail and
each call in one of them, and the last usage at the end. -/
namespace Routectl.Responses
open Library Schema

section Owed

/-- What the fragments of an index say together: the last id and the last name that are
not empty, and all arguments. -/
def gatheredCall (fragments : List Json) (index : Nat) : ToolCallBuffer :=
  let own := fragments.filter fun fragment => toolCallIndex fragment = index
  { id := (own.filterMap fun fragment => nonempty (toolCallId fragment)).getLast?.getD ""
    name := (own.filterMap fun fragment => nonempty (toolCallName fragment)).getLast?.getD ""
    arguments := String.join (own.filterMap toolCallArguments) }

def reportedUsage (usage : UsageDelta) : ResponseUsage := renderUsage (usageFromDelta usage)

/-- The items a stream of events is done with. -/
def doneItems (events : List SseEvent) : List OutputItem :=
  events.filterMap fun event => event.payload.doneItem

structure Reported (chunks : List ChatChunk) (events : List SseEvent) : Prop where
  sequenced : events.map SseEvent.sequenceNumber = List.range events.length
  lifecycle : ∃ response items terminal,
    events.map SseEvent.payload =
      .created response :: .inProgress response :: bracketed 0 items ++ [terminal] ∧
    terminal.terminal.isSome = true
  reasoned : ((doneItems events).flatMap OutputItem.parts).Perm
    (((details chunks).filter fun detail => isResponsesFamily detail.format).filterMap owedPart)
  called : ∃ order : List Nat, order.Nodup ∧
    (doneItems events).filterMap OutputItem.call = order.map (gatheredCall (fragments chunks)) ∧
    ∀ index, index ∈ order ↔
      index < maxToolCallIndex ∧ named (gatheredCall (fragments chunks) index) = true
  used : ∀ usage, (usages chunks).getLast? = some usage →
    ∃ event response, events.getLast? = some event ∧ event.payload.terminal = some response ∧
      response.usage = some (reportedUsage usage)

/-- The last usage of the chunks that are read for it says what the last usage of all
says. -/
def UsageRead (chunks : List ChatChunk) : Prop :=
  (readUsages chunks).getLast?.map reportedUsage = (usages chunks).getLast?.map reportedUsage

end Owed

section Calls

theorem gatheredCall_snoc (fragments : List Json) (fragment : Json) (index : Nat) :
    gatheredCall (fragments ++ [fragment]) index =
      if toolCallIndex fragment = index then
        bufferToolCall fragment (gatheredCall fragments index)
      else gatheredCall fragments index := by
  split
  case isTrue own =>
    have kept : ([fragment].filter fun fragment => toolCallIndex fragment = index) = [fragment] := by
      simp [own]
    simp only [gatheredCall, List.filter_append, kept, last_filterMap_snoc, join_filterMap_snoc,
      bufferToolCall]
  case isFalse other =>
    have none : ([fragment].filter fun fragment => toolCallIndex fragment = index) = [] := by
      simp [other]
    simp [gatheredCall, List.filter_append, none]

theorem slotAt_gatheredCall (fragments : List Json) (index : Nat) :
    slotAt toolCallIndex bufferToolCall {} fragments index = gatheredCall fragments index := by
  induction fragments using List.reverseRecOn with
  | nil => rfl
  | append_singleton fragments fragment ih => rw [slotAt_snoc, ih, gatheredCall_snoc]

theorem gatheredCall_withinCap (fragments : List Json) (index : Nat) :
    gatheredCall (withinCap fragments) index =
      if index < maxToolCallIndex then gatheredCall fragments index else {} := by
  unfold gatheredCall withinCap
  rw [List.filter_filter]
  split
  case isTrue within =>
    have same : (fragments.filter fun fragment => decide (toolCallIndex fragment = index) &&
        decide (toolCallIndex fragment < maxToolCallIndex)) =
          fragments.filter fun fragment => toolCallIndex fragment = index := by
      apply List.filter_congr
      intro fragment _
      by_cases own : toolCallIndex fragment = index
      · simp [own, within]
      · simp [own]
    rw [same]
  case isFalse past =>
    have none : (fragments.filter fun fragment => decide (toolCallIndex fragment = index) &&
        decide (toolCallIndex fragment < maxToolCallIndex)) = [] := by
      rw [List.filter_eq_nil_iff]
      intro fragment _ passes
      simp only [Bool.and_eq_true, decide_eq_true_eq] at passes
      exact past (passes.1 ▸ passes.2)
    rw [none]
    rfl

/-- The calls that are flushed at the end of a stream. -/
def callsOf (chunks : List ChatChunk) : List ToolCallBuffer :=
  (buffersOf (fragments chunks)).filter named

theorem callsOf_order (chunks : List ChatChunk) :
    ∃ order : List Nat, order.Nodup ∧
      callsOf chunks = order.map (gatheredCall (fragments chunks)) ∧
      ∀ index, index ∈ order ↔
        index < maxToolCallIndex ∧ named (gatheredCall (fragments chunks) index) = true := by
  obtain ⟨order, once, sent, passes⟩ := filled_order toolCallIndex bufferToolCall
    ({} : ToolCallBuffer) named rfl (withinCap (fragments chunks))
  have gathers : slotAt toolCallIndex bufferToolCall {} (withinCap (fragments chunks)) =
      fun index => if index < maxToolCallIndex then gatheredCall (fragments chunks) index
        else {} := by
    funext index
    rw [slotAt_gatheredCall, gatheredCall_withinCap]
  rw [gathers] at sent passes
  have ordered (index : Nat) : index ∈ order ↔
      index < maxToolCallIndex ∧ named (gatheredCall (fragments chunks) index) = true := by
    rw [passes]
    by_cases within : index < maxToolCallIndex
    · simp [within]
    · simp [within, named]
  rw [callsOf, buffersOf, sent]
  refine ⟨order, once, ?_, ordered⟩
  apply List.map_congr_left
  intro index member
  exact if_pos ((ordered index).mp member).1

end Calls

section Ending

/-- Nothing is open, and the next item goes under `index`. -/
structure Rendering.Quiet (rendering : Rendering) (payloads : List Payload) (index : Nat) :
    Prop where
  carried : rendering.Carries payloads
  counted : rendering.state.nextOutputIndex = index
  held : rendering.state.openItem = none

variable {rendering : Rendering} {payloads : List Payload} {index : Nat}

theorem functionCallItem_value (call : ToolCallBuffer) :
    functionCallItem (toolCallValue call) = callItem call := rfl

theorem flushToolCall_quiet (quiet : rendering.Quiet payloads index) (call : ToolCallBuffer) :
    (rendering.flushToolCall call).Quiet
      (payloads ++ (StreamedItem.functionCall call).payloads index) (index + 1) ∧
    (rendering.flushToolCall call).state.pendingUsage = rendering.state.pendingUsage := by
  have still : rendering.closeOpenItem = rendering := by
    simp [Rendering.closeOpenItem, quiet.held]
  have allocated : (rendering.allocate fun _ => rendering.state.openItem).Carries payloads :=
    ⟨quiet.carried.events, quiet.carried.count⟩
  have sent := allocated.pushAll ((StreamedItem.functionCall call).payloads index)
  unfold Rendering.flushToolCall
  rw [still, functionCallItem_value]
  dsimp only
  rw [quiet.counted]
  unfold StreamedItem.payloads StreamedItem.deltas at sent ⊢
  dsimp only at sent ⊢
  split at sent
  case isTrue empty =>
    rw [if_pos empty, if_pos empty]
    exact ⟨⟨sent, congrArg (· + 1) quiet.counted, quiet.held⟩, rfl⟩
  case isFalse argued =>
    rw [if_neg argued, if_neg argued]
    exact ⟨⟨sent, congrArg (· + 1) quiet.counted, quiet.held⟩, rfl⟩

theorem flushToolCalls_quiet (quiet : rendering.Quiet payloads index)
    (calls : List ToolCallBuffer) :
    (calls.foldl Rendering.flushToolCall rendering).Carries
      (payloads ++ bracketed index (calls.map .functionCall)) ∧
    (calls.foldl Rendering.flushToolCall rendering).state.pendingUsage =
      rendering.state.pendingUsage := by
  induction calls generalizing rendering payloads index with
  | nil => simpa [bracketed] using quiet.carried
  | cons call rest ih =>
    obtain ⟨flushed, usage⟩ := flushToolCall_quiet quiet call
    obtain ⟨carried, kept⟩ := ih flushed
    rw [List.append_assoc] at carried
    exact ⟨carried, kept.trans usage⟩

theorem terminalEvent_terminal (rendering : Rendering) (minted : String)
    (output : List OutputItem) :
    ∃ response, (rendering.terminalEvent minted output).terminal = some response ∧
      response.usage = rendering.state.pendingUsage.map reportedUsage := by
  unfold Rendering.terminalEvent
  dsimp only
  split
  case isTrue => exact ⟨_, rfl, rfl⟩
  case isFalse => exact ⟨_, rfl, rfl⟩

/-- The items of a stream: those of its outline, and its calls. -/
def itemsOf (chunks : List ChatChunk) : List StreamedItem :=
  itemsFrom [] (outlineOf chunks).segments ++ (callsOf chunks).map .functionCall

/-- The end of a stream flushes the calls after whatever was drawn. -/
theorem flushToolCalls_events {head : List Payload} {chunks : List ChatChunk}
    (closed : Draws head (outlineOf chunks).close [] rendering)
    (buffered : rendering.state.toolBuffers = buffersOf (fragments chunks)) :
    rendering.flushToolCalls.Carries (head ++ bracketed 0 (itemsOf chunks)) ∧
      rendering.flushToolCalls.state.pendingUsage = rendering.state.pendingUsage := by
  have drawn : (outlineOf chunks).close.drawn =
      bracketed 0 (itemsFrom [] (outlineOf chunks).segments) := List.append_nil _
  have quiet : Rendering.Quiet
      { rendering with state := { rendering.state with toolBuffers := [] } }
      (head ++ bracketed 0 (itemsFrom [] (outlineOf chunks).segments))
      (itemsFrom [] (outlineOf chunks).segments).length := by
    refine ⟨⟨?_, ?_⟩, ?_, closed.held⟩
    · rw [← drawn]
      exact closed.carried.events
    · rw [← drawn]
      exact closed.carried.count
    · rw [itemsFrom_length, ← close_segments]
      exact closed.counted
  obtain ⟨carried, usage⟩ := flushToolCalls_quiet quiet (callsOf chunks)
  unfold Rendering.flushToolCalls
  rw [buffered]
  refine ⟨?_, usage⟩
  rw [itemsOf, bracketed_append, ← List.append_assoc, Nat.zero_add]
  exact carried

/-- The events of a stream. -/
theorem renderStream_events (minted : String) (chunks : List ChatChunk) :
    ∃ response terminal ending,
      renderStream minted chunks = numbered
        (.created response :: .inProgress response :: bracketed 0 (itemsOf chunks) ++ [terminal]) ∧
      terminal.terminal = some ending ∧
      ending.usage = (readUsages chunks).getLast?.map reportedUsage := by
  obtain ⟨live, response, follows⟩ := renderStream_follows minted chunks
  have closed := closeOpenItem_draws follows.draws (by simp)
  have aside := closeOpenItem_aside ((renderChunks minted chunks).ensureCreated minted)
  simp only [ResponsesStreamState.aside, Prod.mk.injEq] at aside
  obtain ⟨_, _, buffered, usage⟩ := aside
  rw [follows.buffered] at buffered
  rw [follows.usage] at usage
  unfold renderStream Rendering.renderEos
  rw [if_neg (by simp [live])]
  dsimp only
  generalize ((renderChunks minted chunks).ensureCreated minted).closeOpenItem = quiet at *
  obtain ⟨carried, kept⟩ := flushToolCalls_events closed buffered
  obtain ⟨ending, ends, counts⟩ :=
    terminalEvent_terminal quiet.flushToolCalls minted (quiet.completedOutput minted)
  rw [kept, usage] at counts
  have pinned : (quiet.flushToolCalls.pinIdentity minted).Carries _ :=
    ⟨carried.events, carried.count⟩
  exact ⟨response, _, ending, (pinned.pushEvent _).events, ends, counts⟩

end Ending

section Reports

theorem doneItems_numbered (payloads : List Payload) :
    doneItems (numbered payloads) = payloads.filterMap Payload.doneItem := by
  have projected := numbered_payloads payloads
  unfold doneItems
  conv_rhs => rw [← projected]
  rw [List.filterMap_map]
  rfl

/-- Every item of a stream is done once, in order. -/
theorem renderStream_doneItems (minted : String) (chunks : List ChatChunk) :
    doneItems (renderStream minted chunks) = (itemsOf chunks).map StreamedItem.item := by
  obtain ⟨response, terminal, ending, events, ends, _⟩ := renderStream_events minted chunks
  have notItem : terminal.doneItem = none := by
    cases terminal <;> first | rfl | cases ends
  have created : (Payload.created response).doneItem = none := rfl
  have inProgress : (Payload.inProgress response).doneItem = none := rfl
  rw [events, doneItems_numbered, List.cons_append, List.cons_append,
    List.filterMap_cons_none created, List.filterMap_cons_none inProgress, List.filterMap_append,
    doneItem_bracketed, List.filterMap_cons_none notItem, List.filterMap_nil, List.append_nil]

theorem itemsFrom_call (seen : List ReasoningDetail) (segments : List Segment) :
    ((itemsFrom seen segments).map StreamedItem.item).filterMap OutputItem.call = [] := by
  induction segments generalizing seen with
  | nil => rfl
  | cons segment rest ih => cases segment <;> exact ih _

theorem calls_parts (calls : List ToolCallBuffer) :
    (calls.map StreamedItem.functionCall).flatMap (fun streamed => streamed.item.parts) = [] := by
  simp [StreamedItem.item, callItem, OutputItem.parts]

theorem renderStream_called (minted : String) (chunks : List ChatChunk) :
    (doneItems (renderStream minted chunks)).filterMap OutputItem.call = callsOf chunks := by
  have own : ((callsOf chunks).map StreamedItem.functionCall |>.map StreamedItem.item).filterMap
      OutputItem.call = callsOf chunks := by
    rw [List.map_map, List.filterMap_map]
    exact List.filterMap_some
  rw [renderStream_doneItems, itemsOf, List.map_append, List.filterMap_append, itemsFrom_call, own,
    List.nil_append]

/-- The details of a stream are in one item each exactly where echoes make up for what is not
read. -/
theorem renderStream_reasoned (minted : String) (chunks : List ChatChunk) :
    ((doneItems (renderStream minted chunks)).flatMap OutputItem.parts).Perm
      (((details chunks).filter fun detail => isResponsesFamily detail.format).filterMap
        owedPart) ↔ (outlineOf chunks).EchoesUnread := by
  rw [renderStream_doneItems, ← itemsFrom_owed_iff, outlineOf_details, itemsOf, List.flatMap_map,
    List.flatMap_append, calls_parts, List.append_nil]

/-- The last event reports the last usage that was read. -/
theorem renderStream_used (minted : String) (chunks : List ChatChunk) :
    ∃ event response, (renderStream minted chunks).getLast? = some event ∧
      event.payload.terminal = some response ∧
      response.usage = (readUsages chunks).getLast?.map reportedUsage := by
  obtain ⟨response, terminal, ending, events, ends, counts⟩ := renderStream_events minted chunks
  rw [events]
  exact ⟨_, ending, numbered_getLast _ terminal, ends, counts⟩

/-- A stream is reported exactly where what is echoed makes up for what is not read and the last
usage is read. -/
theorem stream_reported_iff (minted : String) (chunks : List ChatChunk) :
    Reported chunks (renderStream minted chunks) ↔
      (outlineOf chunks).EchoesUnread ∧ UsageRead chunks := by
  have used := renderStream_used minted chunks
  constructor
  · intro reported
    refine ⟨(renderStream_reasoned minted chunks).mp reported.reasoned, ?_⟩
    unfold UsageRead
    cases last : (usages chunks).getLast? with
    | none =>
      have some : (readUsages chunks).Sublist (usages chunks) := List.filter_sublist.filterMap _
      rw [List.getLast?_eq_none_iff.mp last] at some
      rw [List.sublist_nil.mp some]
      rfl
    | some usage =>
      obtain ⟨event, response, final, ends, counts⟩ := reported.used usage last
      obtain ⟨other, ending, finalOther, endsOther, countsOther⟩ := used
      rw [final] at finalOther
      cases finalOther
      rw [ends] at endsOther
      cases endsOther
      exact countsOther.symm.trans counts
  · intro both
    obtain ⟨echoed, read⟩ := both
    obtain ⟨response, terminal, ending, events, ends, _⟩ := renderStream_events minted chunks
    obtain ⟨order, once, sent, passes⟩ := callsOf_order chunks
    refine ⟨?_, ⟨response, itemsOf chunks, terminal, ?_, ?_⟩,
      (renderStream_reasoned minted chunks).mpr echoed,
      ⟨order, once, (renderStream_called minted chunks).trans sent, passes⟩, ?_⟩
    · rw [events, numbered_sequence]
      simp [numbered]
    · rw [events, numbered_payloads]
    · rw [ends]
      rfl
    · intro usage last
      obtain ⟨event, answer, final, ended, counts⟩ := used
      refine ⟨event, answer, final, ended, counts.trans ?_⟩
      rw [read, last]
      rfl

/-- Reasoning that goes on under its id after some text. -/
def resumedReasoning : List ChatChunk :=
  let detail (text : String) : ReasoningDetail :=
    { kind := .summary, id := some "rs_1", format := some openaiResponsesV1, index := none,
      payload := .object [("text", .string text)] }
  [{ choices := [{ delta := { reasoningDetails := [detail "First"] } }] },
    { choices := [{ delta := { content := some "Hello" } }] },
    { choices := [{ delta := { reasoningDetails := [detail "then"] }, finishReason := some "stop" }] }]

/-- An encrypted detail with its blob under the other dialect's name. -/
def aliasedReasoning : List ChatChunk :=
  let detail : ReasoningDetail :=
    { kind := .encrypted, id := some "rs_1", format := some openaiResponsesV1, index := none,
      payload := .object [("data", .string "blob")] }
  [{ choices := [{ delta := { reasoningDetails := [detail] }, finishReason := some "stop" }] }]

/-- Usage that comes beside a delta, before the finish. -/
def usageBesideText : List ChatChunk :=
  [{ choices := [{ delta := { content := some "Hello" } }], usage := some { promptTokens := some 3 } },
    { choices := [{ delta := {}, finishReason := some "stop" }] }]

theorem resumed_reasoning_repeated :
    ¬ Reported resumedReasoning (renderStream "resp_1" resumedReasoning) ∧
      ¬ Reported aliasedReasoning (renderStream "resp_1" aliasedReasoning) ∧
      ¬ Reported usageBesideText (renderStream "resp_1" usageBesideText) := by
  refine ⟨?_, ?_, ?_⟩
  · intro reported
    have lengths := reported.reasoned.length_eq
    revert lengths
    decide
  · intro reported
    have lengths := reported.reasoned.length_eq
    revert lengths
    decide
  · intro reported
    obtain ⟨event, response, final, ends, counts⟩ := reported.used { promptTokens := some 3 } rfl
    have last : (renderStream "resp_1" usageBesideText).getLast?.bind
        (fun event => event.payload.terminal.map ResponseBody.usage) = some none := by rfl
    rw [final] at last
    simp [ends, counts] at last

end Reports
end Routectl.Responses
