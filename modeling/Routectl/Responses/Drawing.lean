import Routectl.Responses.Outline

/-! The renderer draws the outline of the stream: every closed segment as an item from
its first event to its last, and the growing one as far as its deltas. -/
namespace Routectl.Responses
open Library Schema

section Numbering

/-- Payloads as the events of a stream that starts with them. -/
def numbered (payloads : List Payload) : List SseEvent :=
  payloads.zipIdx.map fun entry => ⟨entry.2, entry.1⟩

structure Rendering.Carries (rendering : Rendering) (payloads : List Payload) : Prop where
  events : rendering.events = numbered payloads
  count : rendering.state.sequenceNumber = payloads.length

theorem Rendering.Carries.pushEvent {rendering : Rendering} {payloads : List Payload}
    (carries : rendering.Carries payloads) (payload : Payload) :
    (rendering.pushEvent payload).Carries (payloads ++ [payload]) where
  events := by
    simp [Rendering.pushEvent, carries.events, carries.count, numbered, List.zipIdx_append]
  count := by simp [Rendering.pushEvent, carries.count]

theorem Rendering.Carries.pushAll {rendering : Rendering} {payloads : List Payload}
    (carries : rendering.Carries payloads) (more : List Payload) :
    (more.foldl Rendering.pushEvent rendering).Carries (payloads ++ more) := by
  induction more generalizing rendering payloads with
  | nil => simpa using carries
  | cons payload rest ih =>
    rw [List.append_cons]
    exact ih (carries.pushEvent payload)

theorem numbered_sequence (payloads : List Payload) :
    (numbered payloads).map SseEvent.sequenceNumber = List.range payloads.length := by
  unfold numbered
  rw [List.map_map, List.range_eq_range']
  exact List.zipIdx_map_snd 0 payloads

theorem numbered_payloads (payloads : List Payload) :
    (numbered payloads).map SseEvent.payload = payloads := by
  unfold numbered
  rw [List.map_map]
  exact List.zipIdx_map_fst 0 payloads

theorem numbered_getLast (payloads : List Payload) (payload : Payload) :
    (numbered (payloads ++ [payload])).getLast? = some ⟨payloads.length, payload⟩ := by
  simp [numbered, List.zipIdx_append]

end Numbering

namespace Outline
variable (outline : Outline)

/-- The details of the closed segments. -/
def settled : List ReasoningDetail := outline.closed.flatMap Segment.details

/-- The growing segment, up to its last delta. -/
def begun : List Payload :=
  match outline.current with
  | some segment =>
    (segment.item outline.settled).opening outline.closed.length ++
      (segment.item outline.settled).deltas outline.closed.length
  | none => []

def drawn : List Payload := bracketed 0 (itemsFrom [] outline.closed) ++ outline.begun

def openItem : Option OpenOutputItem :=
  match outline.current with
  | some (.message _) => some (.text outline.closed.length)
  | some (.reasoning id details) =>
    some (.reasoning outline.closed.length id (details.1.filterMap summaryText).length
      (details.1.filterMap contentText).length)
  | none => none

def currentText : String :=
  match outline.current with
  | some (.message texts) => String.join texts
  | _ => ""

theorem drawn_close (closed : List Segment) (segment : Segment) :
    (Outline.close ⟨closed, some segment⟩).drawn =
      Outline.drawn ⟨closed, some segment⟩ ++
        (segment.item (Outline.settled ⟨closed, some segment⟩)).closing closed.length := by
  simp [drawn, begun, close, segments, settled, itemsFrom_snoc, bracketed_append, bracketed,
    itemsFrom_length, StreamedItem.payloads]

theorem drawn_begun (closed : List Segment) (segment : Segment) :
    Outline.drawn ⟨closed, some segment⟩ = Outline.drawn ⟨closed, none⟩ ++
      (segment.item (Outline.settled ⟨closed, none⟩)).opening closed.length ++
        (segment.item (Outline.settled ⟨closed, none⟩)).deltas closed.length := by
  simp [drawn, begun, settled]

theorem drawn_said (closed : List Segment) (texts : List String) (text : String) :
    Outline.drawn ⟨closed, some (.message (texts ++ [text]))⟩ =
      Outline.drawn ⟨closed, some (.message texts)⟩ ++
        [.outputTextDelta closed.length 0 text] := by
  simp [drawn, begun, Segment.item, StreamedItem.opening, StreamedItem.deltas]

theorem drawn_thought (closed : List Segment) {id : Option String}
    (details : { details : List ReasoningDetail // ∀ detail ∈ details, detail.id = id })
    (detail : ReasoningDetail) (own : detail.id = id) :
    Outline.drawn ⟨closed, some (.reasoning id (grown id details detail own))⟩ =
      Outline.drawn ⟨closed, some (.reasoning id details)⟩ ++
        (thoughtDelta details detail).toList.map (ReasoningDelta.payload closed.length) := by
  simp [drawn, begun, Segment.item, StreamedItem.opening, StreamedItem.deltas, grown,
    thoughtDeltas_snoc]

end Outline

/-- The rendering is the drawing of the outline under some head; `pending` are details
accumulated before their segment has grown. -/
structure Draws (head : List Payload) (outline : Outline) (pending : List ReasoningDetail)
    (rendering : Rendering) : Prop where
  carried : rendering.Carries (head ++ outline.drawn)
  counted : rendering.state.nextOutputIndex = outline.segments.length
  held : rendering.state.openItem = outline.openItem
  said : rendering.state.currentText = outline.currentText
  seen : (rendering.state.reasoningAccumulator.filter fun detail =>
    isResponsesFamily detail.format) = outline.details ++ pending

section Drawing
variable {head : List Payload} {outline : Outline} {pending : List ReasoningDetail}
variable {rendering : Rendering}

theorem reasoningDoneItem_seen {closed : List Segment} {id : Option String}
    {details : { details : List ReasoningDetail // ∀ detail ∈ details, detail.id = id }}
    {accumulated : List ReasoningDetail}
    (seen : (accumulated.filter fun detail => isResponsesFamily detail.format) =
      Outline.details ⟨closed, some (.reasoning id details)⟩ ++ pending)
    (apart : ∀ detail ∈ pending, detail.id ≠ id) :
    reasoningDoneItem id accumulated =
      (Segment.item (Outline.settled ⟨closed, some (.reasoning id details)⟩)
        (.reasoning id details)).item := by
  have foreign : (pending.filter fun detail => detail.id = id) = [] := by
    simpa using apart
  have own : (accumulated.filter fun detail =>
      detail.id = id && isResponsesFamily detail.format) =
        (closed.flatMap Segment.details ++ details).filter fun detail => detail.id = id := by
    rw [← List.filter_filter, seen, List.filter_append, foreign, List.append_nil]
    simp [Outline.details, Outline.segments, Segment.details]
  unfold reasoningDoneItem
  dsimp only
  rw [own]
  rfl

theorem closeOpenItem_draws (draws : Draws head outline pending rendering)
    (apart : ∀ id details, outline.current = some (.reasoning id details) →
      ∀ detail ∈ pending, detail.id ≠ id) :
    Draws head outline.close pending rendering.closeOpenItem := by
  obtain ⟨closed, current⟩ := outline
  have carried := draws.carried
  have counted := draws.counted
  match current with
  | none =>
    have still : rendering.closeOpenItem = rendering := by
      simp [Rendering.closeOpenItem, draws.held, Outline.openItem]
    have same : Outline.close ⟨closed, none⟩ = ⟨closed, none⟩ := by
      simp [Outline.close, Outline.segments]
    rw [still, same]
    exact draws
  | some (.message texts) =>
    have held : rendering.state.openItem = some (.text closed.length) := draws.held
    have said : rendering.state.currentText = String.join texts := draws.said
    unfold Rendering.closeOpenItem
    rw [held, said]
    refine ⟨?_, ?_, rfl, rfl, ?_⟩
    · have quiet : ({ rendering with
          state := { rendering.state with openItem := none, currentText := "" } } :
            Rendering).Carries _ := ⟨carried.events, carried.count⟩
      rw [Outline.drawn_close, ← List.append_assoc]
      exact quiet.pushAll ((Segment.item (Outline.settled _) (.message texts)).closing _)
    · rw [close_segments]
      exact counted
    · rw [close_details]
      exact draws.seen
  | some (.reasoning id details) =>
    have held := draws.held
    simp only [Outline.openItem] at held
    have body := reasoningDoneItem_seen draws.seen (apart id details rfl)
    unfold Rendering.closeOpenItem
    rw [held]
    dsimp only
    rw [body]
    refine ⟨?_, ?_, rfl, draws.said, ?_⟩
    · have quiet : ({ rendering with
          state := { rendering.state with openItem := none } } : Rendering).Carries _ :=
        ⟨carried.events, carried.count⟩
      rw [Outline.drawn_close, ← List.append_assoc]
      exact quiet.pushAll ((Segment.item (Outline.settled _) (.reasoning id details)).closing _)
    · rw [close_segments]
      exact counted
    · rw [close_details]
      exact draws.seen

/-- A segment is begun once its item is held open under the next index and its opening
is sent. -/
theorem begin_draws (closed : Draws head outline.close pending rendering) {next : Segment}
    (empty : next.details = [])
    (bare : (next.item (Outline.settled outline.close)).deltas outline.segments.length = [])
    {begun : Rendering} (carried : begun.Carries (head ++ outline.close.drawn ++
      (next.item (Outline.settled outline.close)).opening outline.segments.length))
    (counted : begun.state.nextOutputIndex = rendering.state.nextOutputIndex + 1)
    (held : begun.state.openItem = (outline.supersede next).openItem)
    (said : begun.state.currentText = (outline.supersede next).currentText)
    (seen : begun.state.reasoningAccumulator = rendering.state.reasoningAccumulator) :
    Draws head (outline.supersede next) pending begun where
  carried := by
    have drawn := Outline.drawn_begun outline.segments next
    have nothing : (next.item (Outline.settled ⟨outline.segments, none⟩)).deltas
        outline.segments.length = [] := bare
    rw [nothing, List.append_nil] at drawn
    unfold Outline.supersede
    rw [drawn, ← List.append_assoc]
    exact carried
  counted := by
    rw [counted, closed.counted, close_segments, supersede_segments, List.length_append]
    rfl
  held := held
  said := said
  seen := by
    rw [seen, closed.seen, close_details, supersede_details, empty, List.append_nil]

theorem openTextItem_draws (draws : Draws head outline [] rendering) :
    Draws head (outline.supersede (.message [])) [] rendering.openTextItem := by
  have closed := closeOpenItem_draws draws (by simp)
  have index : rendering.closeOpenItem.state.nextOutputIndex = outline.segments.length := by
    rw [closed.counted, close_segments]
  have still : Rendering.Carries
      { state := { (rendering.closeOpenItem.allocate fun outputIndex =>
            some (.text outputIndex)).state with currentText := "" }
        events := rendering.closeOpenItem.events } (head ++ outline.close.drawn) :=
    ⟨closed.carried.events, closed.carried.count⟩
  apply begin_draws closed rfl rfl
  · unfold Rendering.openTextItem
    dsimp only
    rw [index]
    exact still.pushAll ((Segment.item _ (.message [])).opening _)
  · rfl
  · exact congrArg (fun outputIndex => some (OpenOutputItem.text outputIndex)) index
  · rfl
  · rfl

theorem openReasoningItem_draws (draws : Draws head outline pending rendering)
    (id : Option String)
    (apart : ∀ openId details, outline.current = some (.reasoning openId details) →
      ∀ detail ∈ pending, detail.id ≠ openId) :
    Draws head (outline.supersede (.reasoning id ⟨[], by simp⟩)) pending
      (rendering.openReasoningItem id) := by
  have closed := closeOpenItem_draws draws apart
  have index : rendering.closeOpenItem.state.nextOutputIndex = outline.segments.length := by
    rw [closed.counted, close_segments]
  have still : (rendering.closeOpenItem.allocate fun outputIndex =>
      some (.reasoning outputIndex id 0 0)).Carries (head ++ outline.close.drawn) :=
    ⟨closed.carried.events, closed.carried.count⟩
  apply begin_draws closed rfl rfl
  · unfold Rendering.openReasoningItem
    dsimp only
    rw [index]
    exact still.pushEvent _
  · rfl
  · exact congrArg (fun outputIndex => some (OpenOutputItem.reasoning outputIndex id 0 0)) index
  · exact closed.said
  · rfl

theorem say_draws {closed : List Segment} {texts : List String}
    (draws : Draws head ⟨closed, some (.message texts)⟩ [] rendering) (text : String) :
    Draws head ⟨closed, some (.message (texts ++ [text]))⟩ []
      ({ rendering with
        state := { rendering.state with
          textAccumulator := rendering.state.textAccumulator ++ text
          currentText := rendering.state.currentText ++ text } }.pushEvent
        (.outputTextDelta closed.length 0 text)) where
  carried := by
    have still : Rendering.Carries { rendering with
        state := { rendering.state with
          textAccumulator := rendering.state.textAccumulator ++ text
          currentText := rendering.state.currentText ++ text } } _ :=
      ⟨draws.carried.events, draws.carried.count⟩
    rw [Outline.drawn_said, ← List.append_assoc]
    exact still.pushEvent _
  counted := draws.counted.trans (current_length closed _ _)
  held := draws.held
  said := by
    have said : rendering.state.currentText = String.join texts := draws.said
    have longer : Outline.currentText ⟨closed, some (.message (texts ++ [text]))⟩ =
        rendering.state.currentText ++ text := by
      simp [Outline.currentText, said, String.join_append]
    exact longer.symm
  seen := by
    have seen := draws.seen
    rw [current_details] at seen ⊢
    exact seen

theorem emitTextDelta_draws (draws : Draws head outline [] rendering) (text : String) :
    Draws head (outline.say text) [] (rendering.emitTextDelta text) := by
  have reopened := say_draws (openTextItem_draws draws) text
  have index : rendering.closeOpenItem.state.nextOutputIndex = outline.segments.length := by
    rw [(closeOpenItem_draws draws (by simp)).counted, close_segments]
  rw [← index] at reopened
  obtain ⟨closed, current⟩ := outline
  have held := draws.held
  unfold Rendering.emitTextDelta Rendering.ensureTextItem
  match current with
  | none =>
    simp only [Outline.openItem] at held
    rw [held]
    exact reopened
  | some (.message texts) =>
    simp only [Outline.openItem] at held
    rw [held]
    exact say_draws draws text
  | some (.reasoning id details) =>
    simp only [Outline.openItem] at held
    rw [held]
    exact reopened

section Thinking
variable {closed : List Segment} {id : Option String} {detail : ReasoningDetail}
variable {details : { details : List ReasoningDetail // ∀ detail ∈ details, detail.id = id }}

theorem seen_grown (own : detail.id = id)
    (draws : Draws head ⟨closed, some (.reasoning id details)⟩ [detail] rendering) :
    (rendering.state.reasoningAccumulator.filter fun detail => isResponsesFamily detail.format) =
      Outline.details ⟨closed, some (.reasoning id (grown id details detail own))⟩ ++ [] := by
  rw [draws.seen, current_details, current_details]
  simp [Segment.details, grown]

/-- A detail with a delta is drawn once the delta is sent and its part index taken. -/
theorem delta_draws (own : detail.id = id)
    (draws : Draws head ⟨closed, some (.reasoning id details)⟩ [detail] rendering)
    {delta : ReasoningDelta} (streamed : thoughtDelta details detail = some delta)
    {openItem : Option OpenOutputItem}
    (next : openItem =
      Outline.openItem ⟨closed, some (.reasoning id (grown id details detail own))⟩) :
    Draws head ⟨closed, some (.reasoning id (grown id details detail own))⟩ []
      ({ rendering with state := { rendering.state with openItem } }.pushEvent
        (delta.payload closed.length)) where
  carried := by
    have still : Rendering.Carries
        { rendering with state := { rendering.state with openItem } } _ :=
      ⟨draws.carried.events, draws.carried.count⟩
    rw [Outline.drawn_thought, streamed, ← List.append_assoc]
    exact still.pushEvent _
  counted := draws.counted.trans (current_length closed _ _)
  held := next
  said := draws.said
  seen := by
    have seen := seen_grown own draws
    exact seen

/-- A detail without a delta is drawn as it is accumulated. -/
theorem silent_draws (own : detail.id = id)
    (draws : Draws head ⟨closed, some (.reasoning id details)⟩ [detail] rendering)
    (summaries : summaryText detail = none) (contents : contentText detail = none) :
    Draws head ⟨closed, some (.reasoning id (grown id details detail own))⟩ [] rendering where
  carried := by
    have silent : thoughtDelta details detail = none := by
      simp [thoughtDelta, summaries, contents]
    rw [Outline.drawn_thought, silent]
    simpa using draws.carried
  counted := draws.counted.trans (current_length closed _ _)
  held := by
    rw [draws.held]
    simp [Outline.openItem, grown, summaries, contents]
  said := draws.said
  seen := seen_grown own draws

theorem streamReasoningDetail_draws (own : detail.id = id)
    (draws : Draws head ⟨closed, some (.reasoning id details)⟩ [detail] rendering) :
    Draws head ⟨closed, some (.reasoning id (grown id details detail own))⟩ []
      (rendering.streamReasoningDetail closed.length detail) := by
  have held : rendering.state.openItem = some (.reasoning closed.length id
    (details.1.filterMap summaryText).length (details.1.filterMap contentText).length) := draws.held
  unfold Rendering.streamReasoningDetail
  split
  case h_1 said kind text =>
    simp only [Rendering.nextReasoningSummaryIndex, held]
    apply @delta_draws _ _ _ _ _ _ own draws (.summary _ said)
    · simp [thoughtDelta, summaryText, contentText, kind, text]
    · simp [Outline.openItem, grown, summaryText, contentText, kind, text]
  case h_2 said kind text =>
    simp only [Rendering.nextReasoningContentIndex, held]
    apply @delta_draws _ _ _ _ _ _ own draws (.text _ said)
    · simp [thoughtDelta, summaryText, contentText, kind, text]
    · simp [Outline.openItem, grown, summaryText, contentText, kind, text]
  case h_3 noSummary noText =>
    apply silent_draws own draws
    · unfold summaryText
      split
      case isTrue kind => exact Option.eq_none_iff_forall_ne_some.mpr (noSummary · kind)
      case isFalse => rfl
    · unfold contentText
      split
      case isTrue kind => exact Option.eq_none_iff_forall_ne_some.mpr (noText · kind)
      case isFalse => rfl

end Thinking

theorem emitReasoningDetail_draws (draws : Draws head outline [] rendering)
    (detail : ReasoningDetail) (family : isResponsesFamily detail.format = true) :
    Draws head (outline.think detail) [] (rendering.emitReasoningDetail detail) := by
  have pending : Draws head outline [detail]
      { rendering with
        state := { rendering.state with
          reasoningAccumulator := rendering.state.reasoningAccumulator ++ [detail] } } := by
    refine ⟨⟨draws.carried.events, draws.carried.count⟩, draws.counted, draws.held, draws.said, ?_⟩
    simp [List.filter_append, family, draws.seen]
  unfold Rendering.emitReasoningDetail
  dsimp only
  rw [if_pos family]
  generalize ({ rendering with
    state := { rendering.state with
      reasoningAccumulator := rendering.state.reasoningAccumulator ++ [detail] } } : Rendering) =
    accumulated at pending
  have held := pending.held
  have reopened (apart : ∀ openId details, outline.current = some (.reasoning openId details) →
      ∀ other ∈ [detail], other.id ≠ openId) :
      Draws head
        (outline.supersede (.reasoning detail.id (grown detail.id ⟨[], by simp⟩ detail rfl))) []
        ((accumulated.openReasoningItem detail.id).streamReasoningDetail
          accumulated.closeOpenItem.state.nextOutputIndex detail) := by
    have index : accumulated.closeOpenItem.state.nextOutputIndex = outline.segments.length := by
      rw [(closeOpenItem_draws pending apart).counted, close_segments]
    rw [index]
    exact streamReasoningDetail_draws rfl (openReasoningItem_draws pending detail.id apart)
  unfold Rendering.ensureReasoningItem Outline.think
  obtain ⟨closed, current⟩ := outline
  match current with
  | none =>
    simp only [Outline.openItem] at held
    rw [held]
    exact reopened (by simp)
  | some (.message texts) =>
    simp only [Outline.openItem] at held
    rw [held]
    exact reopened (by simp)
  | some (.reasoning id details) =>
    simp only [Outline.openItem] at held
    rw [held]
    dsimp only
    by_cases own : detail.id = id
    · subst own
      rw [if_pos rfl, dif_pos rfl]
      exact streamReasoningDetail_draws rfl pending
    · rw [if_neg (Ne.symm own), dif_neg own]
      apply reopened
      rintro openId others ⟨⟩ other member
      rw [List.mem_singleton.mp member]
      exact own

/-- A detail of another family is accumulated and draws nothing. -/
theorem foreign_draws (draws : Draws head outline [] rendering) (detail : ReasoningDetail)
    (foreign : isResponsesFamily detail.format = false) :
    Draws head outline [] (rendering.emitReasoningDetail detail) := by
  unfold Rendering.emitReasoningDetail
  dsimp only
  rw [if_neg (Bool.eq_false_iff.mp foreign)]
  refine ⟨⟨draws.carried.events, draws.carried.count⟩, draws.counted, draws.held, draws.said, ?_⟩
  simp [List.filter_append, foreign, draws.seen]

theorem emitReasoningDetails_draws (draws : Draws head outline [] rendering)
    (details : List ReasoningDetail) :
    Draws head (outline.extendAll ((details.filter fun detail =>
      isResponsesFamily detail.format).map .thought)) []
        (details.foldl Rendering.emitReasoningDetail rendering) := by
  induction details generalizing outline rendering with
  | nil => exact draws
  | cons detail rest ih =>
    rw [List.foldl_cons, List.filter_cons]
    split
    case isTrue family => exact ih (emitReasoningDetail_draws draws detail family)
    case isFalse foreign => exact ih (foreign_draws draws detail (Bool.eq_false_iff.mpr foreign))

end Drawing
end Routectl.Responses
