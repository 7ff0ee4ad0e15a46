import Routectl.Library.Buffers
import Routectl.ResponsesApi.Agreement
import Routectl.ResponsesApi.Emitting

/-! A streamed body put together: its texts, its thoughts, its calls and its end, each from
the events of the items that are taken, and where this is the body read whole. -/
namespace Routectl.ResponsesApi
open Library Schema

section Events
variable {opened : ResponsesStreamState} {output : List ResponseOutputItem} {taken : List Nat}
variable {event : ResponsesStreamEvent} {kind : ReasoningDetailKind} {id : String}

/-- The item an event is heard for. -/
def heardItem (output : List ResponseOutputItem) (taken : List Nat) (event : ResponsesStreamEvent) :
    Option ResponseOutputItem :=
  event.outputIndex.bind fun index => if index ∈ taken then output[index]? else none

/-- The kind of the deltas that tell of reasoning. -/
def deltaKind : ReasoningDetailKind → Option String
  | .summary => some summaryTextDelta
  | .text => some reasoningTextDelta
  | _ => none

def isMessage : ResponseOutputItem → Bool
  | .message _ => true
  | _ => false

theorem emission_heard : emission opened output taken event =
    ((heardItem output taken event).bind fun item =>
      spoken opened output taken (event.outputIndex.getD 0) item event).toList.map
        opened.deltaChunk := by
  unfold emission heardItem
  cases event.outputIndex with
  | none => rfl
  | some index =>
    dsimp only [Option.bind_some, Option.getD_some]
    split
    case h_1 missing =>
      rw [missing, ite_self]
      rfl
    case h_2 item found =>
      split
      case isTrue => rw [found]; rfl
      case isFalse => rfl

section Deltas
variable (delta : Option ChunkDelta)

theorem contents_delta : contents (delta.toList.map opened.deltaChunk) =
    (delta.bind ChunkDelta.content).getD "" := by
  cases delta <;> simp [contents, ResponsesStreamState.deltaChunk, String.join_nil]

theorem details_delta : details (delta.toList.map opened.deltaChunk) =
    (delta.map ChunkDelta.reasoningDetails).getD [] := by
  cases delta <;> simp [details, ResponsesStreamState.deltaChunk]

theorem fragments_delta : fragments (delta.toList.map opened.deltaChunk) =
    (delta.bind ChunkDelta.toolCalls).getD [] := by
  cases delta <;> simp [fragments, ResponsesStreamState.deltaChunk]

theorem finishes_delta : finishes (delta.toList.map opened.deltaChunk) = [] := by
  cases delta <;> simp [finishes, ResponsesStreamState.deltaChunk]

theorem usages_delta : usages (delta.toList.map opened.deltaChunk) = [] := by
  cases delta <;> simp [usages, ResponsesStreamState.deltaChunk]

end Deltas

theorem reasoning_ne_summary : reasoningTextDelta ≠ summaryTextDelta := by decide
theorem done_ne_summary : itemDone ≠ summaryTextDelta := by decide
theorem done_ne_reasoning : itemDone ≠ reasoningTextDelta := by decide

theorem deltaKind_summary : deltaKind kind = some summaryTextDelta ↔ .summary = kind := by
  cases kind <;> simp [deltaKind, reasoning_ne_summary]

theorem deltaKind_reasoning : deltaKind kind = some reasoningTextDelta ↔ .text = kind := by
  cases kind <;> simp [deltaKind, reasoning_ne_summary.symm]

theorem deltaKind_other {word : String} (summary : word ≠ summaryTextDelta)
    (reasoning : word ≠ reasoningTextDelta) : deltaKind kind ≠ some word := by
  cases kind <;> simp [deltaKind, summary.symm, reasoning.symm]

section Lanes
variable (authKind : AuthKind) (other : ReasoningDetailKind) (own : String) (index : Nat)
variable (texts : List String)

theorem lanes_thoughts : (texts.map (laneDetail authKind other own index "text")).filterMap
    (reasoningPart kind id) = if own = id ∧ other = kind then texts else [] := by
  rw [List.filterMap_map]
  by_cases same : own = id ∧ other = kind
  · simp [same]
  · simp [same, and_comm]

theorem lanes_unsigned : (texts.map (laneDetail authKind other own index "text")).filterMap
    (signaturePart id) = [] := by
  simp

theorem signatures_unsaid :
    (texts.map (laneDetail authKind other own index "encrypted_content")).filterMap
      (reasoningPart kind id) = [] := by
  simp

theorem signatures_signed :
    (texts.map (laneDetail authKind .encrypted own index "encrypted_content")).filterMap
      (signaturePart id) = if own = id then texts else [] := by
  rw [List.filterMap_map]
  by_cases same : own = id
  · simp [same]
  · simp [same]

end Lanes

/-- What a reasoning item says at one event. -/
theorem spoken_reasoning {index : Nat} {own : String} {summary : List ReasoningSummary}
    {content : List ReasoningContent} {encryptedContent : Option String} :
    let item := ResponseOutputItem.reasoning own summary content encryptedContent
    let said := ((spoken opened output taken index item event).map
      ChunkDelta.reasoningDetails).getD []
    said.filterMap (reasoningPart kind id) =
        (if own = id ∧ deltaKind kind = some event.kind then event.delta.toList else []) ∧
      said.filterMap (signaturePart id) =
        (if own = id ∧ event.kind = itemDone then item.signature.toList else []) := by
  intro item said
  by_cases summarised : event.kind = summaryTextDelta
  · have spoke : said = event.delta.toList.map (laneDetail opened.authKind .summary own
        (rank output isReasoning taken index) "text") := by
      simp only [said, item, spoken, if_pos summarised]
      cases event.delta <;> rfl
    rw [spoke, summarised, lanes_thoughts, lanes_unsigned]
    simp only [deltaKind_summary, done_ne_summary.symm, and_false, if_false, and_self]
  · by_cases reasoned : event.kind = reasoningTextDelta
    · have spoke : said = event.delta.toList.map (laneDetail opened.authKind .text own
          (rank output isReasoning taken index) "text") := by
        simp only [said, item, spoken, if_neg summarised, if_pos reasoned]
        cases event.delta <;> rfl
      rw [spoke, reasoned, lanes_thoughts, lanes_unsigned]
      simp only [deltaKind_reasoning, done_ne_reasoning.symm, and_false, if_false, and_self]
    · have quiet : deltaKind kind ≠ some event.kind := deltaKind_other summarised reasoned
      simp only [quiet, and_false, if_false]
      by_cases done : event.kind = itemDone
      · have spoke : said = item.signature.toList.map (laneDetail opened.authKind .encrypted own
            (rank output isReasoning taken index) "encrypted_content") := by
          simp only [said, item, spoken, if_neg summarised, if_neg reasoned, if_pos done]
          cases ResponseOutputItem.signature (.reasoning own summary content encryptedContent) <;> rfl
        rw [spoke, signatures_unsaid, signatures_signed]
        simp only [done, and_true]
      · have spoke : said = [] := by
          simp only [said, item, spoken, if_neg summarised, if_neg reasoned, if_neg done]
          rfl
        simp [spoke, done]

/-- Other items tell of no reasoning. -/
theorem spoken_unreasoning {index : Nat} {item : ResponseOutputItem}
    (other : item.reasoningId = none) :
    ((spoken opened output taken index item event).map ChunkDelta.reasoningDetails).getD [] = [] := by
  cases item with
  | reasoning => cases other
  | message =>
    simp only [spoken]
    split <;> cases event.delta <;> rfl
  | functionCall =>
    simp only [spoken]
    split <;> cases event.delta <;> rfl
  | other => rfl

/-- What one event says of the thoughts under an id. -/
theorem emission_details :
    (details (emission opened output taken event)).filterMap (reasoningPart kind id) =
        (if (heardItem output taken event).bind ResponseOutputItem.reasoningId = some id ∧
          deltaKind kind = some event.kind then event.delta.toList else []) ∧
      (details (emission opened output taken event)).filterMap (signaturePart id) =
        if (heardItem output taken event).bind ResponseOutputItem.reasoningId = some id ∧
          event.kind = itemDone
        then ((heardItem output taken event).bind ResponseOutputItem.signature).toList else [] := by
  rw [emission_heard, details_delta]
  cases heardItem output taken event with
  | none => simp
  | some item =>
    simp only [Option.bind_some]
    cases item with
    | reasoning =>
      simp only [ResponseOutputItem.reasoningId, Option.some.injEq]
      exact spoken_reasoning
    | _ =>
      rw [spoken_unreasoning rfl]
      simp [ResponseOutputItem.reasoningId]

theorem emission_contents : contents (emission opened output taken event) =
    if (heardItem output taken event).any isMessage ∧ event.kind = outputTextDelta then
      event.delta.getD "" else "" := by
  rw [emission_heard, contents_delta]
  cases heardItem output taken event with
  | none => rfl
  | some item =>
    simp only [Option.bind_some, Option.any_some]
    cases item with
    | message =>
      simp only [spoken, isMessage, true_and]
      split <;> cases event.delta <;> rfl
    | reasoning =>
      simp only [spoken, isMessage, Bool.false_eq_true, false_and, if_false]
      split
      · cases event.delta <;> rfl
      · split
        · cases event.delta <;> rfl
        · split
          · cases ResponseOutputItem.signature _ <;> rfl
          · rfl
    | functionCall =>
      simp only [spoken, isMessage, Bool.false_eq_true, false_and, if_false]
      split <;> cases event.delta <;> rfl
    | other => rfl

/-- The fragments of one event are of its own call, under its place. -/
theorem emission_fragments : fragments (emission opened output taken event) =
    match heardItem output taken event with
    | some (.functionCall callId name _) =>
      if event.kind = argumentsDelta then
        event.delta.toList.map (ResponsesStreamState.toolDelta
          (rank output ResponsesStreamState.isFunctionCall taken (event.outputIndex.getD 0))
          callId name)
      else []
    | _ => [] := by
  rw [emission_heard, fragments_delta]
  cases heardItem output taken event with
  | none => rfl
  | some item =>
    simp only [Option.bind_some]
    cases item with
    | message =>
      simp only [spoken]
      split <;> cases event.delta <;> rfl
    | reasoning =>
      simp only [spoken]
      split
      · cases event.delta <;> rfl
      · split
        · cases event.delta <;> rfl
        · split
          · cases ResponseOutputItem.signature _ <;> rfl
          · rfl
    | functionCall =>
      simp only [spoken]
      split <;> cases event.delta <;> rfl
    | other => rfl

end Events

section Spelling
variable {middle : List ResponsesStreamEvent} {index : Nat}

theorem spelled_eq (kind : String) (events : List ResponsesStreamEvent) :
    spelled kind events = String.join (events.map fun event =>
      if event.kind = kind then event.delta.getD "" else "") := by
  induction events with
  | nil => rfl
  | cons event rest ih =>
    rw [List.map_cons, String.join_cons, ← ih]
    unfold spelled
    by_cases own : event.kind = kind
    · cases said : event.delta <;> simp [own, said, String.join_cons]
    · simp [own]

theorem spelled_eventsAt {kind : String} (busy : ¬ idle kind) (index : Nat)
    (events : List ResponsesStreamEvent) :
    spelled kind (eventsAt index events) =
      spelled kind (events.filter fun event => event.outputIndex = some index) := by
  unfold spelled eventsAt
  rw [List.filter_filter, List.filter_filter]
  congr 2
  apply List.filter_congr
  intro event _
  by_cases own : event.kind = kind
  · simp [own, busy]
  · simp [own]

theorem spelled_flatMap (kind : String) (events : List ResponsesStreamEvent) :
    spelled kind events = String.join ((events.filter fun event => event.kind = kind).flatMap
      fun event => event.delta.toList) := by
  rw [flatMap_toList]
  rfl

theorem flatMap_ite {Item Value : Type*} (keep : Item → Prop) [DecidablePred keep]
    (give : Item → List Value) (items : List Item) :
    (items.flatMap fun item => if keep item then give item else []) =
      (items.filter keep).flatMap give := by
  induction items with
  | nil => rfl
  | cons item rest ih =>
    rw [List.flatMap_cons, ih]
    by_cases kept : keep item
    · simp [kept]
    · simp [kept]

theorem join_blank {Item : Type*} (items : List Item) :
    String.join (items.map fun _ => "") = "" := by
  induction items with
  | nil => rfl
  | cons item rest ih => rw [List.map_cons, String.join_cons, ih]; rfl

theorem join_length_le {Item : Type*} {told whole : Item → String} {items : List Item}
    (part : ∀ item ∈ items, told item = whole item ∨ told item = "") :
    (String.join (items.map told)).length ≤ (String.join (items.map whole)).length := by
  induction items with
  | nil => exact Nat.le_refl _
  | cons item rest ih =>
    have later := ih fun other member => part other (List.mem_cons_of_mem _ member)
    rw [List.map_cons, List.map_cons, String.join_cons, String.join_cons, String.length_append,
      String.length_append]
    rcases part item (List.mem_cons_self ..) with whole | blank
    · rw [whole]
      omega
    · rw [blank, String.length_empty]
      omega

/-- Texts of which each is whole or left out are all of the text where none is left out. -/
theorem join_eq_iff {Item : Type*} {told whole : Item → String} {items : List Item}
    (part : ∀ item ∈ items, told item = whole item ∨ told item = "") :
    String.join (items.map told) = String.join (items.map whole) ↔
      ∀ item ∈ items, told item = whole item := by
  constructor
  · intro same
    induction items with
    | nil => simp
    | cons item rest ih =>
      have later : ∀ other ∈ rest, told other = whole other ∨ told other = "" :=
        fun other member => part other (List.mem_cons_of_mem _ member)
      rw [List.map_cons, List.map_cons, String.join_cons, String.join_cons] at same
      have own : told item = whole item := by
        rcases part item (List.mem_cons_self ..) with whole | blank
        · exact whole
        · have bound := join_length_le later
          have lengths := congrArg String.length same
          rw [String.length_append, String.length_append, blank, String.length_empty] at lengths
          have empty : (whole item).length = 0 := by omega
          rw [blank, String.length_eq_zero_iff.mp empty]
      rw [own, String.append_right_inj] at same
      exact List.forall_mem_cons.mpr ⟨own, ih later same⟩
  · intro same
    exact congrArg String.join (List.map_congr_left same)

end Spelling

section Items
variable {opened : ResponsesStreamState} {output : List ResponseOutputItem} {taken : List Nat}
variable {middle : List ResponsesStreamEvent} {index : Nat} {item : ResponseOutputItem}
variable {kind : ReasoningDetailKind} {id : String}

theorem heardItem_at {event : ResponsesStreamEvent} (found : output[index]? = some item)
    (at_ : event.outputIndex = some index) :
    heardItem output taken event = if index ∈ taken then some item else none := by
  rw [heardItem, at_, Option.bind_some, found]

theorem join_texts (item : ResponseOutputItem) : String.join item.texts = item.text := by
  cases item <;> rfl

/-- The text of an item is told where the item is taken. -/
theorem told_text (interleaves : Interleaves output middle) (found : output[index]? = some item) :
    contents ((middle.filter fun event => event.outputIndex = some index).flatMap
      (emission opened output taken)) = if index ∈ taken then item.text else "" := by
  have each : ∀ event ∈ middle.filter fun event => event.outputIndex = some index,
      contents (emission opened output taken event) =
        if index ∈ taken ∧ isMessage item = true ∧ event.kind = outputTextDelta then
          event.delta.getD ""
        else "" := by
    intro event member
    have at_ : event.outputIndex = some index := by simpa using (List.mem_filter.mp member).2
    rw [emission_contents, heardItem_at found at_]
    by_cases heard : index ∈ taken
    · rw [if_pos heard, Option.any_some]
      simp only [heard, true_and]
    · rw [if_neg heard, Option.any_none]
      simp only [heard, Bool.false_eq_true, false_and]
  rw [contents_flatMap, List.map_congr_left each]
  split
  case isTrue heard =>
    by_cases message : isMessage item = true
    · simp only [heard, message, true_and]
      rw [← spelled_eq, ← spelled_eventsAt (by decide) index middle]
      exact (interleaves.written index item found).text
    · simp only [message, Bool.false_eq_true, false_and, and_false, if_false]
      rw [join_blank]
      cases item with
      | message => exact absurd rfl message
      | _ => rfl
  case isFalse unheard =>
    simp only [unheard, false_and, if_false]
    exact join_blank _

/-- Items of one id are one item. -/
theorem filter_named (distinct : (output.filterMap ResponseOutputItem.reasoningId).Nodup)
    (member : item ∈ output) (named : item.reasoningId = some id) :
    (output.filter fun item => item.reasoningId = some id) = [item] := by
  induction output with
  | nil => cases member
  | cons first rest ih =>
    rw [List.filterMap_cons] at distinct
    by_cases own : first.reasoningId = some id
    · rw [own] at distinct
      dsimp only at distinct
      have absent : ∀ other ∈ rest, other.reasoningId ≠ some id := fun other inside same =>
        (List.nodup_cons.mp distinct).1 (List.mem_filterMap.mpr ⟨other, inside, same⟩)
      have alone : (rest.filter fun item => item.reasoningId = some id) = [] := by
        simpa using absent
      rcases List.mem_cons.mp member with rfl | inside
      · simp [own, alone]
      · exact absurd named (absent item inside)
    · have inside : item ∈ rest := by
        rcases List.mem_cons.mp member with rfl | inside
        · exact absurd named own
        · exact inside
      have later : (rest.filterMap ResponseOutputItem.reasoningId).Nodup := by
        cases named : first.reasoningId with
        | none =>
          rw [named] at distinct
          exact distinct
        | some other =>
          rw [named] at distinct
          exact (List.nodup_cons.mp distinct).2
      simp [own, ih later inside]

theorem index_named (distinct : (output.filterMap ResponseOutputItem.reasoningId).Nodup)
    {other : Nat} {second : ResponseOutputItem} (found : output[index]? = some item)
    (seen : output[other]? = some second) (named : item.reasoningId = some id)
    (same : second.reasoningId = some id) : other = index := by
  obtain ⟨inside, rfl⟩ := List.getElem?_eq_some_iff.mp found
  obtain ⟨within, rfl⟩ := List.getElem?_eq_some_iff.mp seen
  have apart := List.pairwise_iff_getElem.mp (List.pairwise_filterMap.mp distinct)
  rcases Nat.lt_trichotomy other index with earlier | equal | later
  · exact absurd rfl (apart other index within inside earlier id same id named)
  · exact equal
  · exact absurd rfl (apart index other inside within later id named id same)

/-- An event is heard under an id where it is of the taken item of that id. -/
theorem heard_named (distinct : (output.filterMap ResponseOutputItem.reasoningId).Nodup)
    (found : output[index]? = some item) (named : item.reasoningId = some id)
    (event : ResponsesStreamEvent) :
    (heardItem output taken event).bind ResponseOutputItem.reasoningId = some id ↔
      event.outputIndex = some index ∧ index ∈ taken := by
  constructor
  · intro heard
    unfold heardItem at heard
    cases at_ : event.outputIndex with
    | none =>
      rw [at_] at heard
      cases heard
    | some other =>
      rw [at_, Option.bind_some] at heard
      split at heard
      case isTrue taken =>
        obtain ⟨second, seen, same⟩ := Option.bind_eq_some_iff.mp heard
        obtain rfl := index_named distinct found seen named same
        exact ⟨rfl, taken⟩
      case isFalse => cases heard
  · rintro ⟨at_, taken⟩
    rw [heardItem_at found at_, if_pos taken, Option.bind_some, named]

theorem unheard_unnamed (unnamed : ∀ item ∈ output, item.reasoningId ≠ some id)
    (event : ResponsesStreamEvent) :
    (heardItem output taken event).bind ResponseOutputItem.reasoningId ≠ some id := by
  intro heard
  obtain ⟨item, held, named⟩ := Option.bind_eq_some_iff.mp heard
  obtain ⟨index, -, found⟩ := Option.bind_eq_some_iff.mp held
  split at found
  case isTrue => exact unnamed item (List.mem_of_getElem? found) named
  case isFalse => cases found

theorem told_details (middle : List ResponsesStreamEvent) :
    (details (middle.flatMap (emission opened output taken))).filterMap (reasoningPart kind id) =
        (middle.filter fun event =>
          (heardItem output taken event).bind ResponseOutputItem.reasoningId = some id ∧
            deltaKind kind = some event.kind).flatMap (fun event => event.delta.toList) ∧
      (details (middle.flatMap (emission opened output taken))).filterMap (signaturePart id) =
        (middle.filter fun event =>
          (heardItem output taken event).bind ResponseOutputItem.reasoningId = some id ∧
            event.kind = itemDone).flatMap fun event =>
              ((heardItem output taken event).bind ResponseOutputItem.signature).toList := by
  rw [details_flatMap, List.filterMap_flatMap, List.filterMap_flatMap, ← flatMap_ite, ← flatMap_ite]
  constructor
  · congr 1
    funext event
    exact emission_details.1
  · congr 1
    funext event
    exact (@emission_details opened output taken event .summary id).2

theorem spelled_thoughts (interleaves : Interleaves output middle)
    (found : output[index]? = some item) {word : String} (told : deltaKind kind = some word) :
    String.join ((middle.filter fun event => event.outputIndex = some index ∧
      event.kind = word).flatMap fun event => event.delta.toList) = String.join (item.thoughts kind) := by
  have written := interleaves.written index item found
  have sorted (busy : ¬ idle word) : String.join ((middle.filter fun event =>
      event.outputIndex = some index ∧ event.kind = word).flatMap fun event => event.delta.toList) =
        spelled word (eventsAt index middle) := by
    rw [spelled_eventsAt busy, spelled_flatMap, List.filter_filter]
    congr 2
    apply List.filter_congr
    intro event _
    simp [and_comm]
  cases kind with
  | summary =>
    obtain rfl := Option.some.inj told
    rw [sorted (by decide), written.summary]
    cases item <;> rfl
  | text =>
    obtain rfl := Option.some.inj told
    rw [sorted (by decide), written.reasoning]
    cases item <;> rfl
  | _ => cases told

/-- The thoughts under the id of an item are told where the item is taken. -/
theorem told_thoughts (interleaves : Interleaves output middle)
    (distinct : (output.filterMap ResponseOutputItem.reasoningId).Nodup)
    (found : output[index]? = some item) (named : item.reasoningId = some id) :
    reasoningFor kind id (details (middle.flatMap (emission opened output taken))) =
      if index ∈ taken then String.join (item.thoughts kind) else "" := by
  unfold reasoningFor
  rw [(told_details middle).1]
  simp only [heard_named distinct found named]
  split
  case isTrue heard =>
    simp only [heard, and_true]
    cases told : deltaKind kind with
    | some word =>
      have same : (fun event : ResponsesStreamEvent => decide (event.outputIndex = some index ∧
          some word = some event.kind)) = fun event => decide (event.outputIndex = some index ∧
            event.kind = word) := by
        funext event
        simp [eq_comm]
      rw [same, spelled_thoughts interleaves found told]
    | none =>
      have untold : item.thoughts kind = [] := by
        cases kind with
        | summary => cases told
        | text => cases told
        | _ => cases item <;> rfl
      simp [untold]
  case isFalse unheard =>
    simp only [unheard, and_false, false_and, decide_false, List.filter_false, List.flatMap_nil]
    rfl

theorem only_done {events : List ResponsesStreamEvent} (written : Written item events) :
    (events.filter fun event => event.kind = itemDone).length = 1 := by
  obtain ⟨first, deltas, last, rfl, starts, speaks, ends⟩ := written.bracketed
  have inner : (deltas.filter fun event => event.kind = itemDone) = [] := by
    simpa using fun delta member => (speaks_kind (speaks delta member)).2
  rw [List.filter_cons_of_neg (by simpa using starts_kind starts), List.filter_append, inner,
    List.filter_cons_of_pos (by simpa using ends.1)]
  rfl

theorem flatMap_const {Item Value : Type*} {items : List Item} (values : List Value)
    (single : items.length = 1) : (items.flatMap fun _ => values) = values := by
  obtain ⟨item, rfl⟩ := List.length_eq_one_iff.mp single
  simp

/-- The signature of an item is told where the item is taken. -/
theorem told_signatures (interleaves : Interleaves output middle)
    (distinct : (output.filterMap ResponseOutputItem.reasoningId).Nodup)
    (found : output[index]? = some item) (named : item.reasoningId = some id) :
    signaturesFor id (details (middle.flatMap (emission opened output taken))) =
      if index ∈ taken then item.signature.toList else [] := by
  unfold signaturesFor
  rw [(@told_details opened output taken .summary id middle).2]
  simp only [heard_named distinct found named]
  split
  case isTrue heard =>
    simp only [heard, and_true]
    have last : (middle.filter fun event => event.outputIndex = some index ∧
        event.kind = itemDone) =
          (eventsAt index middle).filter fun event => event.kind = itemDone := by
      have busy : ¬ idle itemDone := by decide
      unfold eventsAt
      rw [List.filter_filter]
      apply List.filter_congr
      intro event _
      by_cases done : event.kind = itemDone
      · simp [done, busy]
      · simp [done]
    have each : ∀ event ∈ middle.filter fun event => event.outputIndex = some index ∧
        event.kind = itemDone,
        ((heardItem output taken event).bind ResponseOutputItem.signature).toList =
          item.signature.toList := by
      intro event member
      have at_ : event.outputIndex = some index ∧ event.kind = itemDone := by
        simpa using (List.mem_filter.mp member).2
      rw [heardItem_at found at_.1, if_pos heard, Option.bind_some]
    rw [List.flatMap_congr each]
    apply flatMap_const
    rw [last]
    exact only_done (interleaves.written index item found)
  case isFalse unheard =>
    simp only [unheard, and_false, false_and, decide_false, List.filter_false, List.flatMap_nil]

theorem told_unnamed (unnamed : ∀ item ∈ output, item.reasoningId ≠ some id)
    (middle : List ResponsesStreamEvent) :
    reasoningFor kind id (details (middle.flatMap (emission opened output taken))) = "" ∧
      signaturesFor id (details (middle.flatMap (emission opened output taken))) = [] := by
  have told := @told_details opened output taken kind id middle
  simp only [unheard_unnamed unnamed, false_and, decide_false, List.filter_false,
    List.flatMap_nil] at told
  exact ⟨by rw [reasoningFor, told.1]; rfl, told.2⟩

theorem whole_under {Value : Type*} {give : ResponseOutputItem → List Value}
    (distinct : (output.filterMap ResponseOutputItem.reasoningId).Nodup)
    (found : output[index]? = some item) (named : item.reasoningId = some id) :
    (output.flatMap fun item => if item.reasoningId = some id then give item else []) =
      give item := by
  rw [flatMap_ite, filter_named distinct (List.mem_of_getElem? found) named]
  simp

theorem whole_unnamed {Value : Type*} {give : ResponseOutputItem → List Value}
    (unnamed : ∀ item ∈ output, item.reasoningId ≠ some id) :
    (output.flatMap fun item => if item.reasoningId = some id then give item else []) = [] := by
  rw [List.flatMap_eq_nil_iff]
  exact fun item member => if_neg (unnamed item member)

end Items

section Calls
variable {opened : ResponsesStreamState} {output : List ResponseOutputItem} {taken : List Nat}
variable {middle : List ResponsesStreamEvent} {index : Nat} {callId name arguments : String}

/-- The call with the deltas of its arguments left to be said. -/
def callPlaces (output : List ResponseOutputItem) (taken : List Nat) : List Nat :=
  takenWhere output ResponsesStreamState.isFunctionCall taken

theorem toolDelta_index {callIndex : Nat} (small : callIndex < 2 ^ 64)
    (callId name partialJson : String) :
    toolCallIndex (ResponsesStreamState.toolDelta callIndex callId name partialJson) =
      callIndex := by
  have found : (ResponsesStreamState.toolDelta callIndex callId name partialJson).field "index" =
      some (.number (toString callIndex)) := rfl
  rw [toolCallIndex, found, Option.bind_some, Json.asU64_toString small, Option.getD_some]

theorem mem_callPlaces : index ∈ callPlaces output taken ↔
    index ∈ taken ∧ ∃ callId name arguments,
      output[index]? = some (.functionCall callId name arguments) := by
  unfold callPlaces takenWhere
  rw [List.mem_filter]
  refine and_congr_right fun _ => ?_
  constructor
  · intro sort
    obtain ⟨item, found, call⟩ := (Option.any_eq_true _ _).mp sort
    cases item with
    | functionCall callId name arguments => exact ⟨callId, name, arguments, found⟩
    | _ => cases call
  · rintro ⟨callId, name, arguments, found⟩
    rw [found]
    rfl

/-- A fragment is of an event with a delta of a taken call. -/
theorem fragment_emitted {event : ResponsesStreamEvent} {fragment : Json}
    (member : fragment ∈ fragments (emission opened output taken event)) :
    ∃ index callId name delta, event.outputIndex = some index ∧
      index ∈ callPlaces output taken ∧ event.kind = argumentsDelta ∧ event.delta = some delta ∧
        fragment = ResponsesStreamState.toolDelta ((callPlaces output taken).idxOf index) callId
          name delta := by
  rw [emission_fragments] at member
  split at member
  case h_2 => cases member
  case h_1 callId name arguments heard =>
    split at member
    case isFalse => cases member
    case isTrue kind =>
      obtain ⟨index, at_, found⟩ := Option.bind_eq_some_iff.mp heard
      split at found
      case isFalse => cases found
      case isTrue inside =>
        obtain ⟨delta, said, rfl⟩ := List.mem_map.mp member
        rw [at_]
        exact ⟨index, callId, name, delta, rfl, mem_callPlaces.mpr ⟨inside, _, _, _, found⟩, kind,
          by simpa using said, rfl⟩

/-- The fragments of one call. -/
theorem own_fragments (small : (callPlaces output taken).length ≤ 2 ^ 64)
    (inside : index ∈ taken)
    (found : output[index]? = some (.functionCall callId name arguments)) :
    ((fragments (middle.flatMap (emission opened output taken))).filter fun fragment =>
      toolCallIndex fragment = (callPlaces output taken).idxOf index) =
        ((middle.filter fun event => event.outputIndex = some index ∧
          event.kind = argumentsDelta).flatMap fun event => event.delta.toList).map
            (ResponsesStreamState.toolDelta ((callPlaces output taken).idxOf index) callId name) := by
  have place : index ∈ callPlaces output taken := mem_callPlaces.mpr ⟨inside, _, _, _, found⟩
  have bound {other : Nat} (held : other ∈ callPlaces output taken) :
      (callPlaces output taken).idxOf other < 2 ^ 64 :=
    Nat.lt_of_lt_of_le (List.idxOf_lt_length_of_mem held) small
  rw [fragments_flatMap, List.filter_flatMap, List.map_flatMap, ← flatMap_ite]
  congr 1
  funext event
  by_cases at_ : event.outputIndex = some index
  · rw [emission_fragments, heardItem_at found at_, if_pos inside, at_]
    simp only [true_and, Option.getD_some]
    split
    case isTrue kind =>
      apply List.filter_eq_self.mpr
      intro fragment member
      obtain ⟨delta, -, rfl⟩ := List.mem_map.mp member
      exact decide_eq_true (toolDelta_index (bound place) _ _ _)
    case isFalse => rfl
  · simp only [at_, false_and, if_false]
    apply List.filter_eq_nil_iff.mpr
    intro fragment member same
    obtain ⟨other, callId, name, delta, own, held, -, -, rfl⟩ := fragment_emitted member
    have equal := of_decide_eq_true same
    rw [toolDelta_index (bound held)] at equal
    rw [(List.idxOf_inj held).mp equal] at own
    exact at_ own

theorem argued_said : (middle.filter fun event => event.outputIndex = some index ∧
      event.kind = argumentsDelta).flatMap (fun event => event.delta.toList) ≠ [] →
        argued middle index = true := by
  intro said
  obtain ⟨delta, member⟩ := List.exists_mem_of_ne_nil _ said
  obtain ⟨event, held, -⟩ := List.mem_flatMap.mp member
  obtain ⟨inside, own⟩ := List.mem_filter.mp held
  exact List.any_eq_true.mpr ⟨event, inside, by simpa [and_comm] using own⟩

/-- A delta of arguments says something. -/
theorem said_argued (interleaves : Interleaves output middle)
    (found : output[index]? = some (.functionCall callId name arguments))
    (given : argued middle index = true) :
    (middle.filter fun event => event.outputIndex = some index ∧
      event.kind = argumentsDelta).flatMap (fun event => event.delta.toList) ≠ [] := by
  obtain ⟨event, inside, own⟩ := List.any_eq_true.mp given
  have own : event.kind = argumentsDelta ∧ event.outputIndex = some index := by simpa using own
  obtain ⟨first, deltas, last, bracketed, starts, speaks, ends⟩ :=
    (interleaves.written index _ found).bracketed
  have busy : ¬ idle event.kind := by
    rw [own.1]
    decide
  have held : event ∈ eventsAt index middle := mem_eventsAt.mpr ⟨inside, busy, own.2⟩
  rw [bracketed] at held
  have speaking : Speaks (.functionCall callId name arguments) event := by
    rcases List.mem_cons.mp held with rfl | later
    · rw [starts.1] at own
      exact absurd own.1 (by decide)
    · rcases List.mem_append.mp later with delta | final
      · exact speaks event delta
      · obtain rfl := List.mem_singleton.mp final
        rw [ends.1] at own
        exact absurd own.1 (by decide)
  obtain ⟨delta, said⟩ := Option.isSome_iff_exists.mp speaking.1
  apply List.ne_nil_of_mem (a := delta)
  exact List.mem_flatMap.mpr ⟨event, List.mem_filter.mpr ⟨inside, by simpa using own.symm⟩,
    by simp [said]⟩

theorem range_filter {keep : Nat → Bool} {first second : Nat}
    (within : ∀ place, keep place = true → place < first)
    (inside : ∀ place, keep place = true → place < second) :
    (List.range first).filter keep = (List.range second).filter keep := by
  have longer : ∀ {short long : Nat}, short ≤ long → (∀ place, keep place = true → place < short) →
      (List.range long).filter keep = (List.range short).filter keep := by
    intro short long le within
    obtain ⟨more, rfl⟩ := Nat.exists_eq_add_of_le le
    have beyond : ((List.range more).map fun place => short + place).filter keep = [] := by
      apply List.filter_eq_nil_iff.mpr
      intro place member kept
      obtain ⟨extra, -, rfl⟩ := List.mem_map.mp member
      have small := within _ kept
      omega
    rw [List.range_add, List.filter_append, beyond, List.append_nil]
  rcases Nat.le_total first second with le | le
  · exact (longer le within).symm
  · exact longer le inside

theorem le_foldr_max {values : List Nat} {value : Nat} (member : value ∈ values) :
    value ≤ values.foldr max 0 := by
  induction values with
  | nil => cases member
  | cons first rest ih =>
    rw [List.foldr_cons]
    rcases List.mem_cons.mp member with rfl | later
    · exact Nat.le_max_left _ _
    · exact (ih later).trans (Nat.le_max_right _ _)

/-- A call has fragments under its place where it has a delta, and they say all of it. -/
theorem told_call (interleaves : Interleaves output middle)
    (small : (callPlaces output taken).length ≤ 2 ^ 64) (member : index ∈ callPlaces output taken) :
    let told := fragments (middle.flatMap (emission opened output taken))
    let place := (callPlaces output taken).idxOf index
    (place ∈ told.map toolCallIndex ↔ argued middle index = true) ∧
      (argued middle index = true →
        output[index]?.bind ResponseOutputItem.call = some (gathered told place)) := by
  intro told place
  obtain ⟨inside, callId, name, arguments, found⟩ := mem_callPlaces.mp member
  have own := @own_fragments opened output taken middle index callId name arguments small inside found
  have given := @said_argued output middle index callId name arguments interleaves found
  constructor
  · constructor
    · intro occurs
      apply argued_said
      obtain ⟨fragment, held, same⟩ := List.mem_map.mp occurs
      have kept : fragment ∈ told.filter fun fragment => toolCallIndex fragment = place :=
        List.mem_filter.mpr ⟨held, by simpa using same⟩
      rw [own] at kept
      exact fun none => by
        rw [none] at kept
        cases kept
    · intro argued
      obtain ⟨delta, said⟩ := List.exists_mem_of_ne_nil _ (given argued)
      have kept := List.mem_map_of_mem (f := ResponsesStreamState.toolDelta place callId name) said
      rw [← own] at kept
      obtain ⟨held, same⟩ := List.mem_filter.mp kept
      exact List.mem_map.mpr ⟨_, held, by simpa using same⟩
  · intro argued
    have written := (interleaves.written index _ found).arguments callId name arguments rfl
    rw [spelled_eventsAt (by decide), spelled_flatMap, List.filter_filter] at written
    have said : (middle.filter fun event => event.outputIndex = some index ∧
        event.kind = argumentsDelta) = middle.filter fun event =>
          decide (event.kind = argumentsDelta) && decide (event.outputIndex = some index) := by
      apply List.filter_congr
      intro event _
      simp [and_comm]
    rw [gathered_given own (given argued) (fun _ => rfl) (fun _ => rfl) (fun _ => rfl), said, written,
      found]
    rfl

/-- The calls are those taken that have a delta, as they were added. -/
theorem told_calls (interleaves : Interleaves output middle) (once : taken.Nodup)
    (small : (callPlaces output taken).length ≤ 2 ^ 64) :
    orderedCalls (fragments (middle.flatMap (emission opened output taken))) =
      ((callPlaces output taken).filter (argued middle)).filterMap fun index =>
        output[index]?.bind ResponseOutputItem.call := by
  have apart : (callPlaces output taken).Nodup := once.filter _
  have within : ∀ place, decide (place ∈ (fragments (middle.flatMap
      (emission opened output taken))).map toolCallIndex) = true →
        place < (callPlaces output taken).length := by
    intro place occurs
    obtain ⟨fragment, held, rfl⟩ := List.mem_map.mp (of_decide_eq_true occurs)
    rw [fragments_flatMap] at held
    obtain ⟨event, -, emitted⟩ := List.mem_flatMap.mp held
    obtain ⟨index, callId, name, delta, -, member, -, -, rfl⟩ := fragment_emitted emitted
    have bound := List.idxOf_lt_length_of_mem member
    rwa [toolDelta_index (Nat.lt_of_lt_of_le bound small)]
  unfold orderedCalls
  rw [range_filter (fun place occurs => Nat.lt_succ_of_le (le_foldr_max (of_decide_eq_true occurs)))
    within]
  conv_rhs => rw [eq_map_range_getD 0 (callPlaces output taken)]
  rw [List.filter_map, List.filterMap_map]
  have each : ∀ place ∈ List.range (callPlaces output taken).length,
      (callPlaces output taken)[place]?.getD 0 ∈ callPlaces output taken ∧
        (callPlaces output taken).idxOf ((callPlaces output taken)[place]?.getD 0) = place := by
    intro place member
    have inside := List.mem_range.mp member
    rw [List.getElem?_eq_getElem inside, Option.getD_some]
    exact ⟨List.getElem_mem inside, apart.idxOf_getElem place inside⟩
  have keeps : (List.range (callPlaces output taken).length).filter (fun place =>
      decide (place ∈ (fragments (middle.flatMap (emission opened output taken))).map
        toolCallIndex)) = (List.range (callPlaces output taken).length).filter
          (argued middle ∘ fun place => (callPlaces output taken)[place]?.getD 0) := by
    apply List.filter_congr
    intro place member
    obtain ⟨call, own⟩ := each place member
    have told := (@told_call opened output taken middle _ interleaves small call).1
    rw [own] at told
    exact Bool.eq_iff_iff.mpr (decide_eq_true_iff.trans told)
  rw [keeps, ← List.filterMap_eq_map]
  apply List.filterMap_congr
  intro place member
  obtain ⟨inside, given⟩ := List.mem_filter.mp member
  obtain ⟨call, own⟩ := each place inside
  have told := (@told_call opened output taken middle _ interleaves small call).2 given
  rw [own] at told
  exact told.symm

end Calls
end Routectl.ResponsesApi
