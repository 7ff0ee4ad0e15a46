import Routectl.ResponsesApi.Streamed

/-! Where a body that is streamed comes to what it comes to whole: where no item that says
something is left out, every call has a delta, and the total is given. -/
namespace Routectl.ResponsesApi
open Library Schema

section Framing
variable {uuid : Nat → String} {decode : Json → Option ResponsesResponse} {now : Nat}
variable {authKind : AuthKind} {body : ResponsesResponse}
variable {created terminal : ResponsesStreamEvent} {middle : List ResponsesStreamEvent}

theorem parseEvents_append {state second final : ResponsesStreamState}
    {events more : List ResponsesStreamEvent} {chunks later : List (List ChatChunk)}
    (first : state.parseEvents uuid decode now events = .ok (second, chunks))
    (next : second.parseEvents uuid decode now more = .ok (final, later)) :
    state.parseEvents uuid decode now (events ++ more) = .ok (final, chunks ++ later) := by
  induction events generalizing state chunks with
  | nil =>
    cases first
    exact next
  | cons event rest ih =>
    rw [List.cons_append, ResponsesStreamState.parseEvents]
    rw [ResponsesStreamState.parseEvents] at first
    cases parsed : state.parseEvent uuid decode now event with
    | error failure =>
      rw [parsed] at first
      cases first
    | ok reached =>
      rw [parsed] at first
      dsimp only at first ⊢
      cases onward : reached.1.parseEvents uuid decode now rest with
      | error failure =>
        rw [onward] at first
        cases first
      | ok ended =>
        rw [onward] at first
        cases first
        rw [ih onward]
        rfl

/-- The end of a stream that carries its body. -/
theorem parseEvent_terminal (state : ResponsesStreamState)
    (closes : terminal.kind = "response.completed" ∨ terminal.kind = "response.incomplete")
    (carries : terminal.response.bind decode = some body)
    (sawCall : state.sawFunctionCall = true →
      body.output.any ResponsesStreamState.isFunctionCall = true) :
    ∃ final last, state.parseEvent uuid decode now terminal = .ok (final, [last]) ∧
      last.choices = [{
        delta := {}
        finishReason := mapFinishReason body.status
          (body.incompleteDetails.bind IncompleteDetails.reason)
          (body.output.any ResponsesStreamState.isFunctionCall) }] ∧
      last.usage = body.usage.map ResponsesStreamState.usageDelta := by
  obtain ⟨payload, given, decoded⟩ := Option.bind_eq_some_iff.mp carries
  have completes : state.parseEvent uuid decode now terminal =
      state.handleCompleted decode terminal := by
    rcases closes with kind | kind <;> rw [ResponsesStreamState.parseEvent, kind] <;> rfl
  have saw : (body.output.any ResponsesStreamState.isFunctionCall || state.sawFunctionCall) =
      body.output.any ResponsesStreamState.isFunctionCall := by
    cases seen : state.sawFunctionCall with
    | false => exact Bool.or_false _
    | true => rw [sawCall seen, Bool.or_true]
  rw [completes, ResponsesStreamState.handleCompleted, given]
  dsimp only
  rw [decoded, Option.getD_some, saw]
  exact ⟨_, _, rfl, rfl, rfl⟩

/-- The state after a stream has begun. -/
def openedBy (authKind : AuthKind) (created : ResponsesStreamEvent) : ResponsesStreamState :=
  (({ authKind } : ResponsesStreamState).handleCreated created).1

/-- A stream as a whole: an opening, the chunks of its items, and its end. -/
theorem stream_reads (serializes : Serializes decode body created middle terminal)
    (authKind : AuthKind) (uuid : Nat → String) (now : Nat) :
    ∃ opened last final, ({ authKind } : ResponsesStreamState).parseEvents uuid decode now
        (created :: (middle ++ [terminal])) =
          .ok (final, [opened.deltaChunk { role := some .assistant }] ::
            (middle.map (emission opened body.output (takenOf middle)) ++ [[last]])) ∧
      last.choices = [{
        delta := {}
        finishReason := mapFinishReason body.status
          (body.incompleteDetails.bind IncompleteDetails.reason)
          (body.output.any ResponsesStreamState.isFunctionCall) }] ∧
      last.usage = body.usage.map ResponsesStreamState.usageDelta ∧ (takenOf middle).Nodup := by
  have started : ({ authKind } : ResponsesStreamState).parseEvent uuid decode now created =
      .ok (openedBy authKind created,
        [(openedBy authKind created).deltaChunk { role := some .assistant }]) := by
    rw [ResponsesStreamState.parseEvent, serializes.opens]
    rfl
  have tracks : Tracks (openedBy authKind created) body.output (takenOf ([] ++ middle))
      (heldAfter []) (openedBy authKind created) := by
    constructor
    case absent => exact fun index _ => rfl
    case present => simp [heldAfter]
    case sawCall =>
      intro seen
      cases seen
    all_goals first | rfl | exact List.nodup_nil
  obtain ⟨reached, told, tracked⟩ := @parseEvents_interleaved uuid decode now
    (openedBy authKind created) (openedBy authKind created) body.output [] middle
    serializes.plain.items serializes.interleaves tracks
  obtain ⟨final, last, ended, choices, usage⟩ := parseEvent_terminal reached serializes.closes
    serializes.carries tracked.sawCall
  refine ⟨openedBy authKind created, last, final, ?_, choices, usage, tracked.takenOnce⟩
  have finished : reached.parseEvents uuid decode now [terminal] = .ok (final, [[last]]) := by
    rw [ResponsesStreamState.parseEvents, ended]
    rfl
  have onward := parseEvents_append told finished
  rw [ResponsesStreamState.parseEvents, started]
  dsimp only
  rw [onward]
  rfl

end Framing

section Parts
variable {opened : ResponsesStreamState} {output : List ResponseOutputItem} {taken : List Nat}
variable {middle : List ResponsesStreamEvent}

theorem join_items (output : List ResponseOutputItem) :
    String.join (output.flatMap ResponseOutputItem.texts) =
      String.join ((List.range output.length).map fun index =>
        (output[index]?.map ResponseOutputItem.text).getD "") := by
  have items : ((List.range output.length).map fun index =>
      (output[index]?.map ResponseOutputItem.text).getD "") =
        output.map ResponseOutputItem.text := by
    apply List.ext_getElem
    · simp
    · intro index inside _
      simp at inside
      simp [inside]
  rw [items]
  clear items
  induction output with
  | nil => rfl
  | cons item rest ih =>
    rw [List.flatMap_cons, String.join_append, join_texts, List.map_cons, String.join_cons, ih]

/-- The text is all of it where no item with a text is left out. -/
theorem text_iff (interleaves : Interleaves output middle) :
    String.join ((List.range output.length).map fun index =>
        contents ((middle.filter fun event => event.outputIndex = some index).flatMap
          (emission opened output taken))) =
        String.join (output.flatMap ResponseOutputItem.texts) ↔
      ∀ index item, output[index]? = some item → index ∉ taken → item.text = "" := by
  rw [join_items, join_eq_iff]
  · constructor
    · intro whole index item found unheard
      have own := whole index (List.mem_range.mpr (List.getElem?_eq_some_iff.mp found).1)
      rw [told_text interleaves found, if_neg unheard, found] at own
      exact own.symm
    · intro silent index member
      have found := List.getElem?_eq_getElem (List.mem_range.mp member)
      rw [told_text interleaves found, found]
      split
      case isTrue => rfl
      case isFalse unheard => exact (silent index _ found unheard).symm
  · intro index member
    have found := List.getElem?_eq_getElem (List.mem_range.mp member)
    rw [told_text interleaves found, found]
    split
    case isTrue => exact .inl rfl
    case isFalse => exact .inr rfl

theorem join_thoughts (item : ResponseOutputItem) :
    String.join (item.thoughts .summary) = item.summaryText ∧
      String.join (item.thoughts .text) = item.reasoningText := by
  cases item <;> exact ⟨rfl, rfl⟩

/-- The thoughts are all told where no item with a thought is left out. -/
theorem reasoning_iff (interleaves : Interleaves output middle)
    (distinct : (output.filterMap ResponseOutputItem.reasoningId).Nodup) :
    (∀ kind id, reasoningFor kind id (details (middle.flatMap (emission opened output taken))) =
        String.join (output.flatMap (ResponseOutputItem.thoughtsUnder kind id))) ↔
      ∀ index item, output[index]? = some item → index ∉ taken →
        item.summaryText = "" ∧ item.reasoningText = "" := by
  constructor
  · intro whole index item found unheard
    cases named : item.reasoningId with
    | none =>
      cases item with
      | reasoning => cases named
      | _ => exact ⟨rfl, rfl⟩
    | some id =>
      have untold (kind : ReasoningDetailKind) : String.join (item.thoughts kind) = "" := by
        have own := whole kind id
        unfold ResponseOutputItem.thoughtsUnder at own
        rw [told_thoughts interleaves distinct found named, if_neg unheard,
          whole_under distinct found named] at own
        exact own.symm
      exact ⟨(join_thoughts item).1 ▸ untold .summary, (join_thoughts item).2 ▸ untold .text⟩
  · intro silent kind id
    unfold ResponseOutputItem.thoughtsUnder
    by_cases present : ∃ item ∈ output, item.reasoningId = some id
    · obtain ⟨item, member, named⟩ := present
      obtain ⟨index, found⟩ := List.mem_iff_getElem?.mp member
      rw [told_thoughts interleaves distinct found named, whole_under distinct found named]
      split
      case isTrue => rfl
      case isFalse unheard =>
        obtain ⟨summary, reasoning⟩ := silent index item found unheard
        cases kind with
        | summary => rw [(join_thoughts item).1, summary]
        | text => rw [(join_thoughts item).2, reasoning]
        | _ => cases item <;> rfl
    · have unnamed : ∀ item ∈ output, item.reasoningId ≠ some id :=
        fun item member named => present ⟨item, member, named⟩
      rw [(told_unnamed unnamed middle).1, whole_unnamed unnamed]
      rfl

theorem signatures_iff (interleaves : Interleaves output middle)
    (distinct : (output.filterMap ResponseOutputItem.reasoningId).Nodup) :
    (∀ id, signaturesFor id (details (middle.flatMap (emission opened output taken))) =
        output.flatMap (ResponseOutputItem.signaturesUnder id)) ↔
      ∀ index item, output[index]? = some item → index ∉ taken → item.signature = none := by
  constructor
  · intro whole index item found unheard
    cases named : item.reasoningId with
    | none =>
      cases item with
      | reasoning => cases named
      | _ => rfl
    | some id =>
      have own := whole id
      unfold ResponseOutputItem.signaturesUnder at own
      rw [told_signatures interleaves distinct found named, if_neg unheard,
        whole_under distinct found named] at own
      exact Option.toList_eq_nil_iff.mp own.symm
  · intro silent id
    unfold ResponseOutputItem.signaturesUnder
    by_cases present : ∃ item ∈ output, item.reasoningId = some id
    · obtain ⟨item, member, named⟩ := present
      obtain ⟨index, found⟩ := List.mem_iff_getElem?.mp member
      rw [told_signatures interleaves distinct found named, whole_under distinct found named]
      split
      case isTrue => rfl
      case isFalse unheard => rw [silent index item found unheard]; rfl
    · have unnamed : ∀ item ∈ output, item.reasoningId ≠ some id :=
        fun item member named => present ⟨item, member, named⟩
      rw [(@told_unnamed opened output taken .summary id unnamed middle).2, whole_unnamed unnamed]

theorem emission_unended (middle : List ResponsesStreamEvent) :
    finishes (middle.flatMap (emission opened output taken)) = [] ∧
      usages (middle.flatMap (emission opened output taken)) = [] := by
  rw [finishes_flatMap, usages_flatMap]
  constructor
  · exact List.flatMap_eq_nil_iff.mpr fun event _ => by rw [emission_heard, finishes_delta]
  · exact List.flatMap_eq_nil_iff.mpr fun event _ => by rw [emission_heard, usages_delta]

/-- The counts are the same where no total has to be made up. -/
theorem counts_iff (usage : Option ResponsesUsage) :
    SameCounts (usage.map ResponsesStreamState.usageDelta) (usage.map translateUsage) ↔
      ∀ counts, usage = some counts →
        counts.totalTokens ≠ 0 ∨ counts.inputTokens = 0 ∧ counts.outputTokens = 0 := by
  cases usage with
  | none =>
    constructor
    · exact fun _ counts none => nomatch none
    · exact fun _ => ⟨rfl, rfl, rfl, rfl, rfl⟩
  | some counts =>
    simp only [Option.some.injEq, forall_eq', Option.map_some]
    unfold translateUsage deriveTotalIfAbsent
    by_cases absent : counts.totalTokens = 0 ∧ (0 < counts.inputTokens ∨ 0 < counts.outputTokens)
    · rw [if_pos absent]
      constructor
      · rintro ⟨-, -, total, -⟩
        have sum : counts.totalTokens = saturatingAdd counts.inputTokens counts.outputTokens :=
          Option.some.inj total
        unfold saturatingAdd at sum
        omega
      · intro given
        omega
    · rw [if_neg absent]
      constructor
      · intro _
        omega
      · exact fun _ => ⟨rfl, rfl, rfl, rfl, rfl⟩

end Parts

section Whole
variable {decode : Json → Option ResponsesResponse} {body : ResponsesResponse}
variable {created terminal : ResponsesStreamEvent} {middle : List ResponsesStreamEvent}

/-- Nothing that the body says is left out of these events: an item beyond the room is
silent, the calls with a delta are all calls in their order, and a total is given. -/
structure Told (body : ResponsesResponse) (middle : List ResponsesStreamEvent) : Prop where
  heard : ∀ index item, body.output[index]? = some item → index ∉ takenOf middle → item.silent
  called : ((callPlaces body.output (takenOf middle)).filter (argued middle)).filterMap
      (fun index => body.output[index]?.bind ResponseOutputItem.call) =
    body.output.filterMap ResponseOutputItem.call
  totalled : ∀ usage, body.usage = some usage →
    usage.totalTokens ≠ 0 ∨ usage.inputTokens = 0 ∧ usage.outputTokens = 0

theorem takenOf_within {output : List ResponseOutputItem} (interleaves : Interleaves output middle)
    (once : (takenOf middle).Nodup) : (takenOf middle).length ≤ output.length := by
  have within : takenOf middle ⊆ List.range output.length := by
    intro index taken
    obtain ⟨event, member, kind, at_⟩ := added_of_taken taken
    obtain ⟨other, inside, same⟩ := interleaves.indexed event member (busy_added kind)
    rw [at_] at same
    rw [Option.some.inj same]
    exact List.mem_range.mpr inside
  have shorter := (once.subperm within).length_le
  rwa [List.length_range] at shorter

theorem whole_calls (output : List ResponseOutputItem) :
    (output.flatMap ResponseOutputItem.calls).map readCall =
      output.filterMap ResponseOutputItem.call := by
  induction output with
  | nil => rfl
  | cons item rest ih =>
    rw [List.flatMap_cons, List.map_append, ih, List.filterMap_cons]
    cases item <;> rfl

/-- The events of a stream with what they give. -/
def framed (first last : ChatChunk) (give : ResponsesStreamEvent → List ChatChunk)
    (created terminal : ResponsesStreamEvent) (middle : List ResponsesStreamEvent) :
    List (ResponsesStreamEvent × List ChatChunk) :=
  (created, [first]) :: (middle.map (fun event => (event, give event)) ++ [(terminal, [last])])

theorem zip_framed (first last : ChatChunk) (give : ResponsesStreamEvent → List ChatChunk)
    (created terminal : ResponsesStreamEvent) (middle : List ResponsesStreamEvent) :
    (created :: (middle ++ [terminal])).zip ([first] :: (middle.map give ++ [[last]])) =
      framed first last give created terminal middle := by
  have inner : middle.zip (middle.map give) = middle.map fun event => (event, give event) := by
    induction middle with
    | nil => rfl
    | cons event rest ih => rw [List.map_cons, List.zip_cons_cons, ih, List.map_cons]
  rw [List.zip_cons_cons, List.zip_append (by simp), inner]
  rfl

section Frames
variable {first last : ChatChunk} {give : ResponsesStreamEvent → List ChatChunk}

theorem framed_chunks : (framed first last give created terminal middle).flatMap Prod.snd =
    [first] ++ (middle.flatMap give ++ [last]) := by
  simp [framed, List.flatMap_map]

theorem framed_at (opens : contents [first] = "") (closes : contents [last] = "") (index : Nat) :
    contents (chunksAt index (framed first last give created terminal middle)) =
      contents ((middle.filter fun event => event.outputIndex = some index).flatMap give) := by
  have inner : ((middle.map fun event => (event, give event)).filter fun told =>
      told.1.outputIndex = some index) =
        (middle.filter fun event => event.outputIndex = some index).map fun event =>
          (event, give event) := by
    rw [List.filter_map]
    rfl
  unfold chunksAt framed
  rw [← List.singleton_append, List.filter_append, List.filter_append, inner, List.flatMap_append,
    List.flatMap_append, contents_append, contents_append, List.flatMap_map]
  have edge {event : ResponsesStreamEvent} {chunk : ChatChunk} (blank : contents [chunk] = "") :
      contents (([(event, [chunk])].filter fun told : ResponsesStreamEvent × List ChatChunk =>
        told.1.outputIndex = some index).flatMap Prod.snd) = "" := by
    by_cases own : event.outputIndex = some index
    · simpa [own] using blank
    · simp [own, contents, String.join_nil]
  rw [edge opens, edge closes, String.empty_append, String.append_empty]

/-- What the ends of a stream add: a finish and the counts. -/
theorem framed_reads {opened : ResponsesStreamState} {finishReason : Option String}
    (choices : last.choices = [{ delta := {}, finishReason }])
    (unfinished : finishes (middle.flatMap give) = []) (uncounted : usages (middle.flatMap give) = []) :
    let told := (framed (opened.deltaChunk { role := some .assistant }) last give created terminal
      middle).flatMap Prod.snd
    details told = details (middle.flatMap give) ∧
      fragments told = fragments (middle.flatMap give) ∧
      (finishes told).getLast?.map Prod.fst = finishReason ∧ (usages told).getLast? = last.usage := by
  intro told
  have chunks : told = [opened.deltaChunk { role := some .assistant }] ++
    (middle.flatMap give ++ [last]) := framed_chunks
  rw [chunks]
  refine ⟨?_, ?_, ?_, ?_⟩
  · rw [details_append, details_append]
    simp [details, ResponsesStreamState.deltaChunk, choices]
  · rw [fragments_append, fragments_append]
    simp [fragments, ResponsesStreamState.deltaChunk, choices]
  · rw [finishes_append, finishes_append, unfinished]
    cases finishReason <;> simp [finishes, ResponsesStreamState.deltaChunk, choices]
  · rw [usages_append, usages_append, uncounted]
    cases counted : last.usage <;> simp [usages, ResponsesStreamState.deltaChunk, counted]

end Frames

/-- A plain body streamed comes to what it comes to whole, exactly where it is told whole. -/
theorem streamed_iff_told (serializes : Serializes decode body created middle terminal)
    (authKind : AuthKind) (uuid mints : Nat → String) (now : Nat) (read : String → Option Json)
    (mintedId : String) :
    Agrees uuid decode now authKind body.output.length (created :: (middle ++ [terminal]))
        (translate authKind mints read mintedId body) ↔
      Told body middle := by
  obtain ⟨opened, last, final, parsed, choices, usage, once⟩ :=
    stream_reads serializes authKind uuid now
  obtain ⟨choice, single, text, thoughts, signatures, calls, finish⟩ :=
    translate_reads serializes.plain.items authKind mints read mintedId
  have small : (callPlaces body.output (takenOf middle)).length ≤ 2 ^ 64 := by
    have within := takenOf_within serializes.interleaves once
    have fewer := List.length_filter_le (fun index =>
      body.output[index]?.any ResponsesStreamState.isFunctionCall) (takenOf middle)
    have bound := serializes.plain.small
    unfold callPlaces takenWhere
    omega
  have opens : contents [opened.deltaChunk { role := some .assistant }] = "" := rfl
  have closes : contents [last] = "" := by
    rw [contents, List.map_singleton, choices]
    rfl
  have ended := @emission_unended opened body.output (takenOf middle) middle
  have reads := @framed_reads created terminal middle last
    (emission opened body.output (takenOf middle)) opened _ choices ended.1 ended.2
  have told : Agrees uuid decode now authKind body.output.length (created :: (middle ++ [terminal]))
        (translate authKind mints read mintedId body) ↔
      Matches body.output.length (framed (opened.deltaChunk { role := some .assistant }) last
        (emission opened body.output (takenOf middle)) created terminal middle) choice
          (body.usage.map translateUsage) := by
    constructor
    · rintro ⟨_, _, other, reached, same, matching⟩
      obtain ⟨rfl, rfl⟩ := Prod.mk.inj (Except.ok.inj (parsed.symm.trans reached))
      obtain ⟨rfl, -⟩ := List.cons.inj (single.symm.trans same)
      rw [zip_framed] at matching
      exact matching
    · intro matching
      refine ⟨final, _, choice, parsed, single, ?_⟩
      rw [zip_framed]
      exact matching
  have textual : textInOrder body.output.length (framed
      (opened.deltaChunk { role := some .assistant }) last
      (emission opened body.output (takenOf middle)) created terminal middle) =
        choice.message.content.plainText ↔
          ∀ index item, body.output[index]? = some item → index ∉ takenOf middle →
            item.text = "" := by
    rw [text, ← @text_iff opened body.output (takenOf middle) middle serializes.interleaves]
    unfold textInOrder
    simp only [framed_at opens closes]
  have reasoned := @reasoning_iff opened body.output (takenOf middle) middle
    serializes.interleaves serializes.plain.distinct
  have signed := @signatures_iff opened body.output (takenOf middle) middle
    serializes.interleaves serializes.plain.distinct
  have called := @told_calls opened body.output (takenOf middle) middle serializes.interleaves once
    small
  have counted := counts_iff body.usage
  simp only [← thoughts] at reasoned
  simp only [← signatures] at signed
  rw [told]
  constructor
  · intro matching
    have texts := textual.mp matching.text
    have summaries := reasoned.mp fun kind id => by
      rw [← reads.1]
      exact matching.reasoning kind id
    have seals := signed.mp fun id => by
      rw [← reads.1]
      exact matching.signatures id
    constructor
    case heard =>
      intro index item found unheard
      obtain ⟨summary, reasoning⟩ := summaries index item found unheard
      exact ⟨texts index item found unheard, summary, reasoning, seals index item found unheard⟩
    case called =>
      rw [← called, ← reads.2.1, matching.calls, calls, whole_calls]
    case totalled =>
      apply counted.mp
      rw [← usage, ← reads.2.2.2]
      exact matching.counts
  · intro whole
    constructor
    case text => exact textual.mpr fun index item found unheard =>
      (whole.heard index item found unheard).1
    case reasoning =>
      rw [reads.1]
      exact reasoned.mpr fun index item found unheard =>
        ⟨(whole.heard index item found unheard).2.1, (whole.heard index item found unheard).2.2.1⟩
    case signatures =>
      rw [reads.1]
      exact signed.mpr fun index item found unheard =>
        (whole.heard index item found unheard).2.2.2
    case calls => rw [reads.2.1, called, whole.called, calls, whole_calls]
    case finish => rw [reads.2.2.1, finish]
    case counts =>
      rw [reads.2.2.2, usage]
      exact counted.mpr whole.totalled

end Whole

section Streams

def itemEvent (kind : String) (index : Nat) (item : Json) : ResponsesStreamEvent :=
  { kind, outputIndex := some index, item := some item }

def deltaEvent (kind : String) (index : Nat) (delta : String) : ResponsesStreamEvent :=
  { kind, outputIndex := some index, delta := some delta }

def createdEvent : ResponsesStreamEvent :=
  { kind := "response.created", response := some (.object [("id", .string "resp_1")]) }

def completedEvent : ResponsesStreamEvent :=
  { kind := "response.completed", response := some (.object [("id", .string "resp_1")]) }

def messageJson : Json := .object [("type", .string "message"), ("id", .string "msg_1")]

def callJson (arguments : String) : Json :=
  .object [("type", .string "function_call"), ("call_id", .string "call_1"),
    ("name", .string "now"), ("arguments", .string arguments)]

/-- A text and a call. -/
def spokenBody : ResponsesResponse :=
  { id := "resp_1"
    status := some "completed"
    output := [.message [.outputText "hello"], .functionCall "call_1" "now" "\x7b\x7d"]
    usage := some { inputTokens := 3, outputTokens := 2, totalTokens := 5 } }

/-- The two items of the body at once, the call the first to end. -/
def spokenEvents : List ResponsesStreamEvent :=
  [itemEvent itemAdded 0 messageJson, deltaEvent outputTextDelta 0 "he",
    itemEvent itemAdded 1 (callJson ""), deltaEvent argumentsDelta 1 "\x7b",
    deltaEvent outputTextDelta 0 "llo", deltaEvent argumentsDelta 1 "\x7d",
    itemEvent itemDone 1 (callJson "\x7b\x7d"), itemEvent itemDone 0 messageJson]

theorem spoken_serialized :
    Serializes (fun _ => some spokenBody) spokenBody createdEvent spokenEvents completedEvent where
  plain := by
    constructor
    case items => simp [spokenBody, ResponseOutputItem.plain, ResponsesOutputContent.said]
    case distinct => exact List.nodup_nil
    case small => decide
  opens := rfl
  closes := .inl rfl
  carries := rfl
  interleaves := by
    constructor
    case indexed =>
      intro event member _
      simp only [spokenEvents, List.mem_cons, List.not_mem_nil, or_false] at member
      rcases member with rfl | rfl | rfl | rfl | rfl | rfl | rfl | rfl
      all_goals first | exact ⟨0, by decide, rfl⟩ | exact ⟨1, by decide, rfl⟩
    case written =>
      intro index item found
      cases index with
      | zero =>
        obtain rfl := Option.some.inj found
        have own : eventsAt 0 spokenEvents = [itemEvent itemAdded 0 messageJson,
            deltaEvent outputTextDelta 0 "he", deltaEvent outputTextDelta 0 "llo",
            itemEvent itemDone 0 messageJson] := rfl
        rw [own]
        refine ⟨⟨_, [deltaEvent outputTextDelta 0 "he", deltaEvent outputTextDelta 0 "llo"], _, rfl,
          ⟨rfl, messageJson, rfl, rfl, .inl rfl⟩, ?_, rfl, messageJson, rfl, rfl, ?_⟩,
          rfl, rfl, rfl, ?_⟩
        · simp [Speaks, deltaEvent]
        · intro reasons
          cases reasons
        · intro callId name arguments call
          cases call
      | succ index =>
        cases index with
        | zero =>
          obtain rfl := Option.some.inj found
          have own : eventsAt 1 spokenEvents = [itemEvent itemAdded 1 (callJson ""),
              deltaEvent argumentsDelta 1 "\x7b", deltaEvent argumentsDelta 1 "\x7d",
              itemEvent itemDone 1 (callJson "\x7b\x7d")] := rfl
          rw [own]
          refine ⟨⟨_, [deltaEvent argumentsDelta 1 "\x7b", deltaEvent argumentsDelta 1 "\x7d"], _, rfl,
            ⟨rfl, callJson "", rfl, ⟨rfl, rfl, rfl⟩, .inl rfl⟩, ?_, rfl, callJson "\x7b\x7d", rfl,
            ⟨rfl, rfl, rfl⟩, ?_⟩, rfl, rfl, rfl, ?_⟩
          · simp [Speaks, deltaEvent]
          · intro reasons
            cases reasons
          · intro callId name arguments call
            cases call
            rfl
        | succ index => cases found

theorem spoken_stream_agrees :
    Agrees (fun _ => "id") (fun _ => some spokenBody) 0 .apiKey 2
      (createdEvent :: (spokenEvents ++ [completedEvent]))
      (translate .apiKey (fun _ => "id") (fun _ => none) "minted" spokenBody) := by
  apply (streamed_iff_told spoken_serialized .apiKey (fun _ => "id") (fun _ => "id") 0
    (fun _ => none) "minted").mpr
  constructor
  case heard =>
    intro index item found unheard
    match index, found with
    | 0, _ => exact absurd (by decide) unheard
    | 1, _ => exact absurd (by decide) unheard
    | _ + 2, found => cases found
  case called => rfl
  case totalled =>
    rintro usage given
    cases given
    exact .inl (by decide)

/-- A call of no arguments. -/
def emptyCallBody : ResponsesResponse :=
  { id := "resp_1", status := some "completed", output := [.functionCall "call_1" "now" ""] }

/-- A call whose arguments come in no delta. -/
def emptyCallEvents : List ResponsesStreamEvent :=
  [itemEvent itemAdded 0 (callJson ""), itemEvent itemDone 0 (callJson "")]

def untotalledBody : ResponsesResponse :=
  { id := "resp_1"
    status := some "completed"
    usage := some { inputTokens := 3, outputTokens := 2 } }

theorem emptyCall_serialized :
    Serializes (fun _ => some emptyCallBody) emptyCallBody createdEvent emptyCallEvents
      completedEvent where
  plain := by
    constructor
    case items => simp [emptyCallBody, ResponseOutputItem.plain]
    case distinct => exact List.nodup_nil
    case small => decide
  opens := rfl
  closes := .inl rfl
  carries := rfl
  interleaves := by
    constructor
    case indexed =>
      intro event member _
      simp only [emptyCallEvents, List.mem_cons, List.not_mem_nil, or_false] at member
      rcases member with rfl | rfl
      all_goals exact ⟨0, by decide, rfl⟩
    case written =>
      intro index item found
      match index, found with
      | 0, found =>
        obtain rfl := Option.some.inj found
        have own : eventsAt 0 emptyCallEvents = emptyCallEvents := rfl
        rw [own]
        refine ⟨⟨_, [], _, rfl, ⟨rfl, callJson "", rfl, ⟨rfl, rfl, rfl⟩, .inl rfl⟩, ?_, rfl,
          callJson "", rfl, ⟨rfl, rfl, rfl⟩, ?_⟩, rfl, rfl, rfl, ?_⟩
        · exact fun delta none => nomatch none
        · exact fun reasons => nomatch reasons
        · intro callId name arguments call
          cases call
          rfl
      | _ + 1, found => cases found

theorem untotalled_serialized :
    Serializes (fun _ => some untotalledBody) untotalledBody createdEvent [] completedEvent where
  plain := ⟨by simp [untotalledBody], List.nodup_nil, by decide⟩
  opens := rfl
  closes := .inl rfl
  carries := rfl
  interleaves := ⟨by simp, fun index item found => nomatch found⟩

theorem empty_call_unsent :
    (Serializes (fun _ => some emptyCallBody) emptyCallBody createdEvent emptyCallEvents
        completedEvent ∧
      ¬ Agrees (fun _ => "id") (fun _ => some emptyCallBody) 0 .apiKey 1
        (createdEvent :: (emptyCallEvents ++ [completedEvent]))
        (translate .apiKey (fun _ => "id") (fun _ => none) "minted" emptyCallBody)) ∧
      Serializes (fun _ => some untotalledBody) untotalledBody createdEvent [] completedEvent ∧
      ¬ Agrees (fun _ => "id") (fun _ => some untotalledBody) 0 .apiKey 0
        (createdEvent :: ([] ++ [completedEvent]))
        (translate .apiKey (fun _ => "id") (fun _ => none) "minted" untotalledBody) := by
  refine ⟨⟨emptyCall_serialized, ?_⟩, untotalled_serialized, ?_⟩
  · rintro ⟨final, chunks, choice, parsed, single, matching⟩
    cases parsed
    obtain rfl := List.singleton_inj.mp single
    exact absurd (congrArg List.length matching.calls) (by decide)
  · rintro ⟨final, chunks, choice, parsed, single, matching⟩
    cases parsed
    have total := matching.counts.2.2.1
    exact absurd total (by decide)

end Streams
end Routectl.ResponsesApi
