import Routectl.Messages.Calls

/-! What a client reads of a stream is what its chunks carry up to the end of the
message. -/
namespace Routectl.Messages
open Library Schema

section Reading

/-- Everything but the reports. -/
def Piece.spoken : Piece → Bool
  | .report _ _ _ => false
  | _ => true

def Piece.saidText : Piece → Option String
  | .text said => some said
  | _ => none

def Piece.isReasoning : Piece → Bool
  | .thinking _ | .redacted _ => true
  | _ => false

def Piece.stop : Piece → Option (String × Option String)
  | .report (some stopReason) stopSequence _ => some (stopReason, stopSequence)
  | _ => none

def Piece.usage : Piece → Option WireUsage
  | .report _ _ usage => usage
  | _ => none

variable (events : List MessageEvent)

def textRead : String := String.join ((pieces events).filterMap Piece.saidText)
def reasoningRead : List Piece := (pieces events).filter Piece.isReasoning
def stopsRead : List (String × Option String) := (pieces events).filterMap Piece.stop
def usagesRead : List WireUsage := (pieces events).filterMap Piece.usage

end Reading

section Carried
variable (chunks : List ChatChunk)

def chunkStop (chunk : ChatChunk) : Option Stop := chunk.choices.head?.bind choiceStop

def stops : List Stop := chunks.filterMap chunkStop

/-- Each index is flushed once, and no fragment is left in its buffer. -/
def Undivided : Prop :=
  Apart (flushes [] false chunks) ∧
    (flushes [] false chunks).flatten = fragments (upToStop false chunks)

/-- No finish with its usage comes after a finish. -/
def FirstFinishStands : Prop :=
  chunks.Pairwise fun first later =>
    first.finishReason.isSome → later.finishReason.isSome → later.usage = none

def chunkPieces (chunk : ChatChunk) : List Piece :=
  (chunk.choices.head?.map fun choice => deltaPieces choice.delta).getD []

/-- The usage of a chunk, unless it comes with a choice that does not finish. -/
def countedUsage (chunk : ChatChunk) : Option WireUsage :=
  if chunk.choices = [] ∨ chunk.finishReason.isSome then chunk.usage.map wireUsage else none

/-- The report of one chunk while this finish is held. -/
def chunkReport (held : Option Stop) (chunk : ChatChunk) : Option Piece :=
  match chunk.choices.head? with
  | some choice =>
    (choiceStop choice).bind fun stop => chunk.usage.map fun usage => stop.report (some usage)
  | none =>
    chunk.usage.map fun usage =>
      match held with
      | some stop => stop.report (some usage)
      | none => .report none none (some (wireUsage usage))

end Carried

/-- The fragments of an index have one id. -/
def StableIds (fragments : List Json) : Prop :=
  ∀ first ∈ fragments, ∀ other ∈ fragments, toolCallIndex first = toolCallIndex other →
    ∀ id ∈ toolCallId first, ∀ otherId ∈ toolCallId other, id = otherId

/-- Each index with a last id or a last name is one block, with all its arguments; under
stable ids no index that had an id is missing. -/
def CallsWhole (fragments : List Json) (uses : List ToolBlockState) : Prop :=
  ∃ order : List Nat, order.Nodup ∧ uses = order.map (fun index => blockOf (gathered fragments index)) ∧
    (∀ index, index ∈ order ↔ named (blockOf (gathered fragments index)) = true) ∧
    (StableIds fragments → ∀ fragment ∈ fragments, ∀ id ∈ toolCallId fragment, id ≠ "" →
      toolCallIndex fragment ∈ order ∧ (gathered fragments (toolCallIndex fragment)).id = id)

section Telling

theorem isReasoning_of_detail {detail : ReasoningDetail} {piece : Piece}
    (said : piece ∈ detailPieces detail) : piece.isReasoning = true := by
  unfold detailPieces at said
  split at said
  case h_1 =>
    obtain rfl := List.mem_singleton.mp said
    rfl
  all_goals
    unfold thinkingPieces at said
    split at said
    case isTrue => cases said
    case isFalse =>
      obtain rfl := List.mem_singleton.mp said
      rfl

theorem isReasoning_of_details {details : List ReasoningDetail} {piece : Piece}
    (said : piece ∈ details.flatMap detailPieces) : piece.isReasoning = true := by
  obtain ⟨detail, -, member⟩ := List.mem_flatMap.mp said
  exact isReasoning_of_detail member

theorem eq_text_of_textPieces {text : String} {piece : Piece} (said : piece ∈ textPieces text) :
    piece = .text text := by
  unfold textPieces at said
  split at said
  case isTrue => cases said
  case isFalse => exact List.mem_singleton.mp said

theorem filter_spoken_deltaPieces (delta : ChunkDelta) :
    (deltaPieces delta).filter Piece.spoken = deltaPieces delta := by
  apply List.filter_eq_self.mpr
  intro piece member
  rcases List.mem_append.mp member with text | details
  · rw [eq_text_of_textPieces text]
    rfl
  · have reasoning := isReasoning_of_details details
    cases piece with
    | report => cases reasoning
    | _ => rfl

theorem said_deltaPieces (delta : ChunkDelta) :
    String.join ((deltaPieces delta).filterMap Piece.saidText) = delta.content.getD "" := by
  have silent : (delta.reasoningDetails.flatMap detailPieces).filterMap Piece.saidText = [] := by
    apply List.filterMap_eq_nil_iff.mpr
    intro piece member
    have reasoning := isReasoning_of_details member
    cases piece with
    | text => cases reasoning
    | _ => rfl
  rw [deltaPieces, List.filterMap_append, silent, List.append_nil]
  unfold textPieces
  split
  case isTrue empty => rw [empty]; rfl
  case isFalse => simp [Piece.saidText]

theorem filter_reasoning_deltaPieces (delta : ChunkDelta) :
    (deltaPieces delta).filter Piece.isReasoning = delta.reasoningDetails.flatMap detailPieces := by
  have silent : (textPieces (delta.content.getD "")).filter Piece.isReasoning = [] := by
    apply List.filter_eq_nil_iff.mpr
    intro piece member
    rw [eq_text_of_textPieces member]
    simp [Piece.isReasoning]
  rw [deltaPieces, List.filter_append, silent, List.nil_append]
  exact List.filter_eq_self.mpr fun piece member => isReasoning_of_details member

theorem stop_of_spoken (piece : Piece) (spoken : Piece.spoken piece = true) : piece.stop = none := by
  cases piece with
  | report => cases spoken
  | _ => rfl

theorem usage_of_spoken (piece : Piece) (spoken : Piece.spoken piece = true) :
    piece.usage = none := by
  cases piece with
  | report => cases spoken
  | _ => rfl

theorem chunkStop_isSome (chunk : ChatChunk) :
    (chunkStop chunk).isSome = chunk.finishReason.isSome := by
  unfold chunkStop ChatChunk.finishReason choiceStop
  cases chunk.choices.head? <;> simp

theorem told_cons (held : Option Stop) (chunk : ChatChunk) (rest : List ChatChunk) :
    told held (chunk :: rest) = chunkPieces chunk ++ ((chunkReport held chunk).toList ++
      if ends held.isSome chunk then [] else told (held.or (chunkStop chunk)) rest) := by
  cases choices : chunk.choices.head? with
  | some choice =>
    cases reason : choice.finishReason <;> cases given : chunk.usage <;>
      simp [told, ends, chunkPieces, chunkReport, chunkStop, choiceStop, choices, reason, given]
  | none =>
    cases held <;> cases given : chunk.usage <;>
      simp [told, ends, chunkPieces, chunkReport, chunkStop, choices, given]

theorem upToStop_or (held : Option Stop) (chunk : ChatChunk) (rest : List ChatChunk) :
    upToStop held.isSome (chunk :: rest) = chunk :: if ends held.isSome chunk then []
      else upToStop (held.or (chunkStop chunk)).isSome rest := by
  rw [upToStop, Option.isSome_or, chunkStop_isSome]

theorem filter_spoken_chunkPieces (chunk : ChatChunk) :
    (chunkPieces chunk).filter Piece.spoken = chunkPieces chunk := by
  unfold chunkPieces
  cases chunk.choices.head? with
  | none => rfl
  | some choice => exact filter_spoken_deltaPieces choice.delta

theorem filterMap_chunkPieces {Value : Type*} {read : Piece → Option Value}
    (silent : ∀ piece, Piece.spoken piece = true → read piece = none) (chunk : ChatChunk) :
    (chunkPieces chunk).filterMap read = [] := by
  apply List.filterMap_eq_nil_iff.mpr
  intro piece member
  rw [← filter_spoken_chunkPieces] at member
  exact silent piece (List.mem_filter.mp member).2

theorem filter_spoken_report (held : Option Stop) (chunk : ChatChunk) :
    (chunkReport held chunk).toList.filter Piece.spoken = [] := by
  unfold chunkReport
  cases chunk.choices.head? with
  | some choice =>
    cases reason : choice.finishReason <;> cases chunk.usage <;>
      simp [choiceStop, reason, Stop.report, Piece.spoken]
  | none => cases held <;> cases chunk.usage <;> rfl

/-- But for the reports, a client is told the deltas up to the end. -/
theorem told_spoken (held : Option Stop) (chunks : List ChatChunk) :
    (told held chunks).filter Piece.spoken = (upToStop held.isSome chunks).flatMap chunkPieces := by
  induction chunks generalizing held with
  | nil => cases held <;> rfl
  | cons chunk rest ih =>
    have later := ih (held.or (chunkStop chunk))
    rw [told_cons, upToStop_or, List.filter_append, List.filter_append, filter_spoken_chunkPieces,
      filter_spoken_report, List.nil_append, List.flatMap_cons]
    congr 1
    split
    case isTrue => rfl
    case isFalse => exact later

theorem stop_chunkReport (held : Option Stop) (chunk : ChatChunk) :
    (chunkReport held chunk).toList.filterMap Piece.stop =
      if ends held.isSome chunk then (((chunkStop chunk).or held).map Stop.wire).toList else [] := by
  unfold chunkReport ends chunkStop
  cases chunk.choices.head? with
  | some choice =>
    cases reason : choice.finishReason <;> cases chunk.usage <;> simp [choiceStop, reason]
    rfl
  | none => cases held <;> cases chunk.usage <;> rfl

theorem usage_chunkReport (held : Option Stop) (chunk : ChatChunk) :
    (chunkReport held chunk).toList.filterMap Piece.usage = (countedUsage chunk).toList := by
  unfold chunkReport countedUsage ChatChunk.finishReason
  cases choices : chunk.choices with
  | cons choice others =>
    cases reason : choice.finishReason <;> cases chunk.usage <;> simp [choiceStop, reason]
    rfl
  | nil => cases held <;> cases chunk.usage <;> rfl

theorem stops_head (chunk : ChatChunk) (rest : List ChatChunk) :
    (stops (chunk :: rest)).head? = (chunkStop chunk).or (stops rest).head? := by
  unfold stops
  rw [List.filterMap_cons]
  cases chunkStop chunk <;> rfl

/-- One stop is told: the one held, or else the first. -/
theorem told_stops {held : Option Stop} {chunks : List ChatChunk}
    (stands : FirstFinishStands (upToStop held.isSome chunks))
    (holds : held.isSome = true → ∀ later ∈ upToStop held.isSome chunks,
      later.finishReason.isSome → later.usage = none) :
    (told held chunks).filterMap Piece.stop =
      ((held.or (stops (upToStop held.isSome chunks)).head?).map Stop.wire).toList := by
  induction chunks generalizing held with
  | nil => cases held <;> rfl
  | cons chunk rest ih =>
    rw [upToStop_or] at stands holds ⊢
    rw [told_cons, List.filterMap_append, List.filterMap_append,
      filterMap_chunkPieces stop_of_spoken, stop_chunkReport, List.nil_append]
    cases ending : ends held.isSome chunk with
    | true =>
      have one : (chunkStop chunk).or held = held.or (chunkStop chunk) := by
        cases holding : held with
        | none => simp
        | some stop =>
          cases stopping : chunkStop chunk with
          | none => simp
          | some other =>
            have finishing : chunk.finishReason.isSome = true := by
              rw [← chunkStop_isSome, stopping]
              rfl
            have unused := holds (by simp [holding]) chunk (List.mem_cons_self ..) finishing
            simp [ends, unused] at ending
      simp [one, stops]
    | false =>
      simp only [ending, Bool.false_eq_true, if_false] at stands holds ⊢
      obtain ⟨first, later⟩ := List.pairwise_cons.mp stands
      rw [List.nil_append, stops_head, ← Option.or_assoc]
      apply ih later
      intro holding other member finishing
      rw [Option.isSome_or, Bool.or_eq_true] at holding
      rcases holding with earlier | now
      · exact holds earlier other (List.mem_cons_of_mem _ member) finishing
      · rw [chunkStop_isSome] at now
        exact first other member now finishing

/-- Every usage is told but those of choices that do not finish. -/
theorem told_usages (held : Option Stop) (chunks : List ChatChunk) :
    (told held chunks).filterMap Piece.usage =
      (upToStop held.isSome chunks).filterMap countedUsage := by
  induction chunks generalizing held with
  | nil => cases held <;> rfl
  | cons chunk rest ih =>
    have later := ih (held.or (chunkStop chunk))
    rw [told_cons, upToStop_or, List.filterMap_append, List.filterMap_append,
      filterMap_chunkPieces usage_of_spoken, usage_chunkReport, List.nil_append]
    have onward : (if ends held.isSome chunk then [] else
          told (held.or (chunkStop chunk)) rest).filterMap Piece.usage =
        (if ends held.isSome chunk then [] else
          upToStop (held.or (chunkStop chunk)).isSome rest).filterMap countedUsage := by
      split
      case isTrue => rfl
      case isFalse => exact later
    rw [onward, List.filterMap_cons]
    cases countedUsage chunk <;> rfl

end Telling

section Lossless

/-- The text a client reads is in what is spoken to it. -/
theorem said_spoken (sent : List Piece) :
    (sent.filter Piece.spoken).filterMap Piece.saidText = sent.filterMap Piece.saidText := by
  rw [List.filterMap_filter]
  apply List.filterMap_congr
  intro piece _
  cases piece <;> rfl

theorem reasoning_spoken (sent : List Piece) :
    (sent.filter Piece.spoken).filter Piece.isReasoning = sent.filter Piece.isReasoning := by
  rw [List.filter_filter]
  apply List.filter_congr
  intro piece _
  cases piece <;> rfl

theorem said_chunks (chunks : List ChatChunk) :
    String.join ((chunks.flatMap chunkPieces).filterMap Piece.saidText) = contents chunks := by
  induction chunks with
  | nil => rfl
  | cons chunk rest ih =>
    have said : String.join ((chunkPieces chunk).filterMap Piece.saidText) =
        (chunk.choices.head?.bind (·.delta.content)).getD "" := by
      unfold chunkPieces
      cases chunk.choices.head? with
      | none => rfl
      | some choice => exact said_deltaPieces choice.delta
    rw [List.flatMap_cons, List.filterMap_append, String.join_append, said, ih, contents, contents,
      List.map_cons, String.join_cons]

theorem reasoning_chunks (chunks : List ChatChunk) :
    (chunks.flatMap chunkPieces).filter Piece.isReasoning =
      (details chunks).flatMap detailPieces := by
  induction chunks with
  | nil => rfl
  | cons chunk rest ih =>
    have said : (chunkPieces chunk).filter Piece.isReasoning =
        ((chunk.choices.head?.map (·.delta.reasoningDetails)).getD []).flatMap detailPieces := by
      unfold chunkPieces
      cases chunk.choices.head? with
      | none => rfl
      | some choice => exact filter_reasoning_deltaPieces choice.delta
    rw [List.flatMap_cons, List.filter_append, said, ih, details, details, List.flatMap_cons,
      List.flatMap_append]

/-- Under stable ids an index keeps the id it once had. -/
theorem gathered_id {fragments : List Json} (stable : StableIds fragments) {fragment : Json}
    (member : fragment ∈ fragments) {id : String} (carried : id ∈ toolCallId fragment) :
    (gathered fragments (toolCallIndex fragment)).id = id := by
  have own : id ∈ (fragments.filter fun other =>
      toolCallIndex other = toolCallIndex fragment).filterMap toolCallId :=
    List.mem_filterMap.mpr ⟨fragment, List.mem_filter.mpr ⟨member, by simp⟩, carried⟩
  obtain ⟨last, found⟩ : ∃ last, ((fragments.filter fun other =>
      toolCallIndex other = toolCallIndex fragment).filterMap toolCallId).getLast? = some last :=
    Option.ne_none_iff_exists'.mp fun missing => by
      rw [List.getLast?_eq_none_iff.mp missing] at own
      cases own
  obtain ⟨other, inside, named⟩ := List.mem_filterMap.mp (List.mem_of_getLast? found)
  obtain ⟨otherMember, same⟩ := List.mem_filter.mp inside
  have agree := stable other otherMember fragment member (of_decide_eq_true same) last named id carried
  simp only [gathered, found, Option.getD_some]
  exact agree

theorem callsWhole_of_order {fragments : List Json} {uses : List ToolBlockState}
    {order : List Nat} (once : order.Nodup)
    (sent : uses = order.map fun index => blockOf (gathered fragments index))
    (ordered : ∀ index, index ∈ order ↔ named (blockOf (gathered fragments index)) = true) :
    CallsWhole fragments uses := by
  refine ⟨order, once, sent, ordered, ?_⟩
  intro stable fragment member id carried given
  have same := gathered_id stable member carried
  refine ⟨?_, same⟩
  rw [ordered, named, blockOf, same]
  simp [given]

theorem flushes_cons (buffered : List Json) (held : Bool) (chunk : ChatChunk)
    (rest : List ChatChunk) :
    flushes buffered held (chunk :: rest) =
      if chunk.finishReason.isSome then
        (buffered ++ fragments [chunk]) :: if ends held chunk then [] else flushes [] true rest
      else if ends held chunk then [] else flushes (buffered ++ fragments [chunk]) held rest := by
  cases choices : chunk.choices.head? with
  | some choice =>
    cases reason : choice.finishReason <;> cases given : chunk.usage <;>
      simp [flushes, ends, fragments, ChatChunk.finishReason, choices, reason, given]
  | none =>
    cases held <;> cases given : chunk.usage <;>
      simp [flushes, ends, fragments, ChatChunk.finishReason, choices, given]

theorem fragments_cons (chunk : ChatChunk) (rest : List ChatChunk) :
    fragments (chunk :: rest) = fragments [chunk] ++ fragments rest := by
  simp [fragments]

theorem flushes_silent {chunks : List ChatChunk}
    (silent : ∀ later ∈ upToStop true chunks, fragments [later] = []) :
    ∀ group ∈ flushes [] true chunks, group = [] := by
  induction chunks with
  | nil => simp [flushes]
  | cons chunk rest ih =>
    rw [upToStop, Bool.true_or] at silent
    rw [flushes_cons, silent chunk (List.mem_cons_self ..), List.append_nil]
    have later : ∀ group ∈ if ends true chunk then [] else flushes [] true rest, group = [] := by
      split
      case isTrue => simp
      case isFalse open_ =>
        rw [if_neg open_] at silent
        exact ih fun other member => silent other (List.mem_cons_of_mem _ member)
    split
    case isTrue => exact List.forall_mem_cons.mpr ⟨rfl, later⟩
    case isFalse => exact later

/-- A stream whose fragments all come by its first finish sends them in one flush. -/
theorem flushes_settled (buffered : List Json) {chunks : List ChatChunk}
    (settled : (upToStop false chunks).Pairwise fun first later =>
      first.finishReason.isSome → fragments [later] = []) :
    ∃ silent, flushes buffered false chunks =
        (buffered ++ fragments (upToStop false chunks)) :: silent ∧ ∀ group ∈ silent, group = [] := by
  induction chunks generalizing buffered with
  | nil => exact ⟨[], by simp [flushes, fragments, upToStop], by simp⟩
  | cons chunk rest ih =>
    rw [upToStop, Bool.false_or] at settled ⊢
    obtain ⟨first, later⟩ := List.pairwise_cons.mp settled
    rw [flushes_cons, fragments_cons chunk (if ends false chunk then [] else
      upToStop chunk.finishReason.isSome rest)]
    cases finishing : chunk.finishReason.isSome with
    | true =>
      rw [finishing] at first
      have none : fragments (if ends false chunk then [] else upToStop true rest) = [] :=
        List.flatMap_eq_nil_iff.mpr fun other member => by
          simpa [fragments] using first other member rfl
      refine ⟨if ends false chunk then [] else flushes [] true rest, by simp [none], ?_⟩
      split
      case isTrue => simp
      case isFalse open_ =>
        rw [if_neg open_] at first
        exact flushes_silent fun other member => first other member rfl
    | false =>
      have open_ : ends false chunk = false := by
        unfold ChatChunk.finishReason at finishing
        cases choices : chunk.choices.head? <;> simp_all [ends]
      rw [finishing, open_] at later
      obtain ⟨silent, flushed, empty⟩ := ih (buffered ++ fragments [chunk]) later
      exact ⟨silent, by simp [open_, flushed], empty⟩

theorem undivided_of_settled {chunks : List ChatChunk}
    (settled : (upToStop false chunks).Pairwise fun first later =>
      first.finishReason.isSome → fragments [later] = []) : Undivided chunks := by
  obtain ⟨silent, flushed, empty⟩ := flushes_settled [] settled
  rw [Undivided, flushed]
  constructor
  · have apart : Apart silent := by
      apply List.pairwise_of_forall_mem_list
      intro group member other _ fragment inside
      rw [empty group member] at inside
      cases inside
    refine List.pairwise_cons.mpr ⟨?_, apart⟩
    intro group member fragment _ other inside
    rw [empty group member] at inside
    cases inside
  · rw [List.flatten_cons, List.flatten_eq_nil_iff.mpr empty, List.nil_append, List.append_nil]

/-- The last usage that counts is the last of all when it does count. -/
theorem last_countedUsage {chunks : List ChatChunk} {chunk : ChatChunk}
    (last : (chunks.filter (·.usage.isSome)).getLast? = some chunk)
    (counts : chunk.choices = [] ∨ chunk.finishReason.isSome) :
    (chunks.filterMap countedUsage).getLast? = chunk.usage.map wireUsage := by
  have bearing : chunks.filterMap countedUsage =
      (chunks.filter (·.usage.isSome)).filterMap countedUsage := by
    rw [List.filterMap_filter]
    apply List.filterMap_congr
    intro other _
    cases given : other.usage <;> simp [countedUsage, given]
  obtain ⟨earlier, split⟩ := List.getLast?_eq_some_iff.mp last
  have bears : chunk.usage.isSome = true :=
    (List.mem_filter.mp (List.mem_of_getLast? last)).2
  obtain ⟨usage, given⟩ := Option.isSome_iff_exists.mp bears
  have counted : countedUsage chunk = some (wireUsage usage) := by
    simp [countedUsage, counts, given]
  rw [bearing, split, List.filterMap_append, List.filterMap_cons_some counted]
  simp [given]

/-- A stream tells its client all that its chunks carry up to the end of the message. -/
theorem stream_loses_nothing (ctx : StreamRequestContext) (early : Bool) {chunks : List ChatChunk}
    (inside : ∀ chunk ∈ upToStop false chunks, admitted chunk) :
    ∃ events, renderStream ctx early chunks = .ok events ∧
      textRead events = contents (upToStop false chunks) ∧
      reasoningRead events = (details (upToStop false chunks)).flatMap detailPieces ∧
      (Undivided chunks → CallsWhole (fragments (upToStop false chunks)) (toolUses events)) ∧
      (FirstFinishStands (upToStop false chunks) →
        stopsRead events = ((stops (upToStop false chunks)).head?.map Stop.wire).toList) ∧
      ∀ chunk, ((upToStop false chunks).filter (·.usage.isSome)).getLast? = some chunk →
        chunk.choices = [] ∨ chunk.finishReason.isSome →
          (usagesRead events).getLast? = chunk.usage.map wireUsage := by
  obtain ⟨events, rendered, read, used⟩ := @renderStream_told ctx early chunks inside
  refine ⟨events, rendered, ?_, ?_, ?_, ?_, ?_⟩
  · rw [textRead, read, ← said_spoken, told_spoken]
    exact said_chunks _
  · rw [reasoningRead, read, ← reasoning_spoken, told_spoken]
    exact reasoning_chunks _
  · rintro ⟨apart, whole⟩
    obtain ⟨order, once, sent, ordered⟩ := flushed_order apart
    rw [whole] at sent ordered
    refine callsWhole_of_order once ?_ ordered
    rw [used, ← sent]
    exact called_flushes [] false chunks
  · intro stands
    rw [stopsRead, read]
    exact @told_stops none chunks stands (by simp)
  · intro chunk last counts
    rw [usagesRead, read, told_usages]
    exact last_countedUsage last counts

section Streams

/-- The fragments of two calls, one of them cut in two. -/
def callFragments : List Json :=
  [.object [("index", .number "0"), ("id", .string "call_a"),
    ("function", .object [("name", .string "find"), ("arguments", .string "[1,")])],
  .object [("index", .number "1"), ("id", .string "call_b"),
    ("function", .object [("name", .string "list")])],
  .object [("index", .number "0"), ("function", .object [("arguments", .string "2]")])]]

/-- Text, two calls, a finish, and its usage in the chunk after it. -/
def callStream : List ChatChunk :=
  [textChunk "hi" none,
    { choices := [{ delta := { toolCalls := some callFragments } }] },
    textChunk "" (some "tool_calls"), usageChunk 3 1]

theorem call_stream_whole :
    ∃ events, renderStream session true callStream = .ok events ∧ textRead events = "hi" ∧
      CallsWhole callFragments (toolUses events) ∧ stopsRead events = [("tool_use", none)] ∧
      (usagesRead events).getLast? = some ⟨3, 1, none, none, none⟩ := by
  obtain ⟨events, rendered, text, -, calls, stops, usages⟩ :=
    @stream_loses_nothing session true callStream
      (by simp [callStream, upToStop, ends, admitted, textChunk, usageChunk]; decide)
  have kept : upToStop false callStream = callStream := rfl
  refine ⟨events, rendered, text.trans (by decide), calls ?_, (stops ?_).trans (by decide), ?_⟩
  · apply undivided_of_settled
    rw [kept]
    simp [callStream, ChatChunk.finishReason, textChunk, usageChunk, fragments]
  · rw [FirstFinishStands, kept]
    simp [callStream, ChatChunk.finishReason, textChunk, usageChunk]
  · exact usages (usageChunk 3 1) rfl (.inl rfl)

/-- Text after a finish that came with its usage. -/
def straggler : List ChatChunk :=
  [textChunk "hi" none,
    { textChunk "" (some "stop") with usage := (usageChunk 3 1).usage }, textChunk "late" none]

theorem straggler_dropped :
    ∃ events, renderStream session false straggler = .ok events ∧
      textRead events ≠ contents straggler :=
  ⟨_, rfl, by decide⟩

end Streams
end Lossless
end Routectl.Messages
