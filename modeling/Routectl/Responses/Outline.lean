import Routectl.Responses.Lifecycle
import Routectl.Schema.Collected

/-! What a stream says, as the items it should become: a message for each run of texts,
and a reasoning item for each run of details under one id. -/
namespace Routectl.Responses
open Library Schema

inductive Token where
  | said (text : String)
  | thought (detail : ReasoningDetail)

def chunkTokens (chunk : ChatChunk) : List Token :=
  match chunk.choices.head? with
  | some choice =>
    (nonempty choice.delta.content).toList.map .said ++
      (choice.delta.reasoningDetails.filter fun detail => isResponsesFamily detail.format).map
        .thought
  | none => []

/-- A run of texts, or of details that share an id. -/
inductive Segment where
  | message (texts : List String)
  | reasoning (id : Option String)
      (details : { details : List ReasoningDetail // ∀ detail ∈ details, detail.id = id })

/-- What an item has of a detail, under its id. -/
def reportedPart (detail : ReasoningDetail) : Option (Option String × ReasoningPart) :=
  (reasoningPart detail).map fun part => (detail.id, part)

/-- What a client is owed of a detail. -/
def owedPart (detail : ReasoningDetail) : Option (Option String × ReasoningPart) :=
  (carriedPart detail).map fun part => (detail.id, part)

/-- What a client is owed of a detail that no item has anything of: a blob under the name of
the other dialect alone. -/
def unreadPart (detail : ReasoningDetail) : Option (Option String × ReasoningPart) :=
  if (reasoningPart detail).isSome then none else owedPart detail

theorem owedParts_split (details : List ReasoningDetail) :
    (details.filterMap owedPart).Perm
      (details.filterMap reportedPart ++ details.filterMap unreadPart) := by
  induction details with
  | nil => exact .refl _
  | cons detail rest ih =>
    cases read : reasoningPart detail with
    | none =>
      have reported : reportedPart detail = none := by rw [reportedPart, read, Option.map_none]
      have unread : unreadPart detail = owedPart detail := by simp [unreadPart, read]
      rw [List.filterMap_cons_none reported]
      cases owed : owedPart detail with
      | none => rwa [List.filterMap_cons_none owed, List.filterMap_cons_none (unread.trans owed)]
      | some part =>
        rw [List.filterMap_cons_some owed, List.filterMap_cons_some (unread.trans owed)]
        exact (ih.cons part).trans List.perm_middle.symm
    | some part =>
      have reported : reportedPart detail = some (detail.id, part) := by
        rw [reportedPart, read, Option.map_some]
      have owed : owedPart detail = some (detail.id, part) := by
        rw [owedPart, carriedPart_read read, Option.map_some]
      have unread : unreadPart detail = none := by simp [unreadPart, read]
      rw [List.filterMap_cons_some reported, List.filterMap_cons_some owed,
        List.filterMap_cons_none unread]
      exact ih.cons _

namespace Segment

def details : Segment → List ReasoningDetail
  | .message _ => []
  | .reasoning _ details => details

def parts (segment : Segment) : List (Option String × ReasoningPart) :=
  segment.details.filterMap reportedPart

/-- The id a reasoning segment is under, which may itself be absent. -/
def thread : Segment → Option (Option String)
  | .message _ => none
  | .reasoning id _ => some id

end Segment

def grown (id : Option String)
    (details : { details : List ReasoningDetail // ∀ detail ∈ details, detail.id = id })
    (detail : ReasoningDetail) (own : detail.id = id) :
    { details : List ReasoningDetail // ∀ detail ∈ details, detail.id = id } :=
  ⟨details.1 ++ [detail], by
    intro held member
    rcases List.mem_append.mp member with earlier | last
    · exact details.2 held earlier
    · rw [List.mem_singleton.mp last]
      exact own⟩

/-- The segments that are complete, and the one still growing. -/
structure Outline where
  closed : List Segment := []
  current : Option Segment := none

namespace Outline
variable (outline : Outline)

def segments : List Segment := outline.closed ++ outline.current.toList

def close : Outline := ⟨outline.segments, none⟩

def supersede (next : Segment) : Outline := ⟨outline.segments, some next⟩

def say (text : String) : Outline :=
  match outline.current with
  | some (.message texts) => ⟨outline.closed, some (.message (texts ++ [text]))⟩
  | _ => outline.supersede (.message [text])

def think (detail : ReasoningDetail) : Outline :=
  let fresh := outline.supersede (.reasoning detail.id (grown detail.id ⟨[], by simp⟩ detail rfl))
  match outline.current with
  | some (.reasoning id details) =>
    if own : detail.id = id then
      ⟨outline.closed, some (.reasoning id (grown id details detail own))⟩
    else fresh
  | _ => fresh

def extend (token : Token) : Outline :=
  match token with
  | .said text => outline.say text
  | .thought detail => outline.think detail

def extendAll (tokens : List Token) : Outline := tokens.foldl extend outline

def details : List ReasoningDetail := outline.segments.flatMap Segment.details

end Outline

def outlineOf (chunks : List ChatChunk) : Outline :=
  Outline.extendAll {} (chunks.flatMap chunkTokens)

theorem outlineOf_snoc (chunks : List ChatChunk) (chunk : ChatChunk) :
    outlineOf (chunks ++ [chunk]) = (outlineOf chunks).extendAll (chunkTokens chunk) := by
  simp [outlineOf, Outline.extendAll, List.flatMap_append, List.foldl_append]

section Details
variable (outline : Outline)

theorem close_segments : outline.close.segments = outline.segments := by
  simp [Outline.close, Outline.segments]

theorem supersede_segments (next : Segment) :
    (outline.supersede next).segments = outline.segments ++ [next] := rfl

theorem supersede_details (next : Segment) :
    (outline.supersede next).details = outline.details ++ next.details := by
  simp [Outline.details, supersede_segments]

theorem close_details : outline.close.details = outline.details := by
  simp [Outline.details, Outline.close, Outline.segments]

theorem current_length (closed : List Segment) (segment other : Segment) :
    (Outline.segments ⟨closed, some segment⟩).length =
      (Outline.segments ⟨closed, some other⟩).length := by
  simp [Outline.segments]

theorem current_details (closed : List Segment) (segment : Segment) :
    Outline.details ⟨closed, some segment⟩ =
      closed.flatMap Segment.details ++ segment.details := by
  simp [Outline.details, Outline.segments]

theorem say_details (text : String) : (outline.say text).details = outline.details := by
  obtain ⟨closed, current⟩ := outline
  match current with
  | none => simp [Outline.say, Outline.details, Outline.segments, Outline.supersede,
      Segment.details]
  | some (.message texts) => simp [Outline.say, Outline.details, Outline.segments, Segment.details]
  | some (.reasoning id details) => simp [Outline.say, Outline.details, Outline.segments,
      Outline.supersede, Segment.details]

theorem think_details (detail : ReasoningDetail) :
    (outline.think detail).details = outline.details ++ [detail] := by
  obtain ⟨closed, current⟩ := outline
  match current with
  | none => simp [Outline.think, Outline.details, Outline.segments, Outline.supersede,
      Segment.details, grown]
  | some (.message texts) => simp [Outline.think, Outline.details, Outline.segments,
      Outline.supersede, Segment.details, grown]
  | some (.reasoning id details) =>
    unfold Outline.think
    dsimp only
    split
    case isTrue own => simp [Outline.details, Outline.segments, Segment.details, grown]
    case isFalse other => simp [Outline.details, Outline.segments, Outline.supersede,
      Segment.details, grown]

end Details

section Items

def summaryText (detail : ReasoningDetail) : Option String :=
  if detail.kind = .summary then detail.text else none

def contentText (detail : ReasoningDetail) : Option String :=
  if detail.kind = .text then detail.text else none

/-- The delta a detail is streamed as, after the earlier details of its item. -/
def thoughtDelta (earlier : List ReasoningDetail) (detail : ReasoningDetail) :
    Option ReasoningDelta :=
  ((summaryText detail).map (.summary (earlier.filterMap summaryText).length)).or
    ((contentText detail).map (.text (earlier.filterMap contentText).length))

def thoughtDeltas (earlier : List ReasoningDetail) : List ReasoningDetail → List ReasoningDelta
  | [] => []
  | detail :: rest =>
    (thoughtDelta earlier detail).toList ++ thoughtDeltas (earlier ++ [detail]) rest

theorem thoughtDeltas_snoc (earlier details : List ReasoningDetail) (detail : ReasoningDetail) :
    thoughtDeltas earlier (details ++ [detail]) =
      thoughtDeltas earlier details ++ (thoughtDelta (earlier ++ details) detail).toList := by
  induction details generalizing earlier with
  | nil => simp [thoughtDeltas]
  | cons first rest ih => simp [thoughtDeltas, ih]

/-- The item a segment is sent as when `seen` are the details before it: a reasoning item
is done with every detail of its id seen so far. -/
def Segment.item (seen : List ReasoningDetail) : Segment → StreamedItem
  | .message texts => .message texts
  | .reasoning id details =>
    .reasoning id (thoughtDeltas [] details)
      (((seen ++ details).filter fun detail => detail.id = id).foldl accumulateReasoningDetail {})

def itemsFrom (seen : List ReasoningDetail) : List Segment → List StreamedItem
  | [] => []
  | segment :: rest => segment.item seen :: itemsFrom (seen ++ segment.details) rest

theorem itemsFrom_snoc (seen : List ReasoningDetail) (segments : List Segment)
    (segment : Segment) :
    itemsFrom seen (segments ++ [segment]) =
      itemsFrom seen segments ++ [segment.item (seen ++ segments.flatMap Segment.details)] := by
  induction segments generalizing seen with
  | nil => simp [itemsFrom]
  | cons first rest ih => simp [itemsFrom, ih]

theorem itemsFrom_length (seen : List ReasoningDetail) (segments : List Segment) :
    (itemsFrom seen segments).length = segments.length := by
  induction segments generalizing seen with
  | nil => rfl
  | cons first rest ih => simp [itemsFrom, ih]

/-- What a reasoning item holds of details before its own. -/
def Segment.echo (seen : List ReasoningDetail) : Segment → List (Option String × ReasoningPart)
  | .message _ => []
  | .reasoning id _ => (seen.filter fun detail => detail.id = id).filterMap reportedPart

def echoes (seen : List ReasoningDetail) : List Segment → List (Option String × ReasoningPart)
  | [] => []
  | segment :: rest => segment.echo seen ++ echoes (seen ++ segment.details) rest

/-- Details of one id, tagged with it. -/
theorem reportedParts_own {id : Option String} {details : List ReasoningDetail}
    (own : ∀ detail ∈ details, detail.id = id) :
    details.filterMap reportedPart =
      (details.filterMap reasoningPart).map fun part => (id, part) := by
  rw [List.map_filterMap]
  apply List.filterMap_congr
  intro detail member
  rw [reportedPart, own detail member]

theorem item_parts (seen : List ReasoningDetail) (segment : Segment) :
    (segment.item seen).item.parts.Perm (segment.parts ++ segment.echo seen) := by
  cases segment with
  | message texts => exact .refl _
  | reasoning id details =>
    have all : ((seen ++ details).filter fun detail => detail.id = id) =
        (seen.filter fun detail => detail.id = id) ++ details := by
      rw [List.filter_append]
      congr 1
      exact List.filter_eq_self.mpr fun detail member => decide_eq_true (details.2 detail member)
    have own : ∀ detail ∈ (seen ++ details).filter fun detail => detail.id = id,
        detail.id = id := fun detail member => of_decide_eq_true (List.mem_filter.mp member).2
    have held := (accumulated_parts ((seen ++ details).filter fun detail => detail.id = id) {}).map
      fun part => (id, part)
    refine held.trans ?_
    have tagged := reportedParts_own own
    rw [all] at tagged ⊢
    rw [List.filterMap_append] at tagged
    have empty : ({} : ReasoningItemBuilder).parts = [] := rfl
    rw [empty, List.nil_append, ← tagged]
    exact List.perm_append_comm

/-- The items report what the segments have, and the echoes beside it. -/
theorem itemsFrom_parts (seen : List ReasoningDetail) (segments : List Segment) :
    ((itemsFrom seen segments).flatMap fun streamed => streamed.item.parts).Perm
      (segments.flatMap Segment.parts ++ echoes seen segments) := by
  induction segments generalizing seen with
  | nil => exact .refl _
  | cons segment rest ih =>
    have first := item_parts seen segment
    have later := ih (seen ++ segment.details)
    have both := first.append later
    refine both.trans ?_
    have moved := (perm_to_end segment.parts (segment.echo seen) (rest.flatMap Segment.parts)).append_right
      (echoes (seen ++ segment.details) rest)
    simpa [echoes] using moved

/-- Nothing is echoed by a later segment: the segments that share an id come one after
another only where the earlier ones have nothing to report. -/
def Unechoed (segments : List Segment) : Prop :=
  segments.Pairwise fun earlier later => earlier.thread = later.thread → earlier.parts = []

theorem echo_append (segment : Segment) (seen more : List ReasoningDetail) :
    segment.echo (seen ++ more) = segment.echo seen ++ segment.echo more := by
  cases segment <;> simp [Segment.echo]

theorem echo_details (earlier later : Segment) :
    later.echo earlier.details = [] ↔ (earlier.thread = later.thread → earlier.parts = []) := by
  cases earlier with
  | message texts => cases later <;> simp [Segment.echo, Segment.details, Segment.parts]
  | reasoning id details =>
    cases later with
    | message texts => simp [Segment.echo, Segment.thread]
    | reasoning other others =>
      by_cases same : id = other
      · subst same
        have all : (details.1.filter fun detail => detail.id = id) = details.1 :=
          List.filter_eq_self.mpr fun detail member => decide_eq_true (details.2 detail member)
        simp only [Segment.echo, Segment.details, Segment.parts, Segment.thread, forall_const]
        rw [all]
      · have none : (details.1.filter fun detail => detail.id = other) = [] := by
          rw [List.filter_eq_nil_iff]
          intro detail member
          rw [details.2 detail member]
          simpa using same
        simp only [Segment.echo, Segment.details, Segment.thread, Option.some.injEq]
        rw [none]
        exact ⟨fun _ equal => absurd equal same, fun _ => rfl⟩

theorem echoes_nil_iff (seen : List ReasoningDetail) (segments : List Segment) :
    echoes seen segments = [] ↔
      (∀ segment ∈ segments, segment.echo seen = []) ∧ Unechoed segments := by
  induction segments generalizing seen with
  | nil => simp [echoes, Unechoed]
  | cons segment rest ih =>
    have headed : Unechoed (segment :: rest) ↔
        (∀ later ∈ rest, segment.thread = later.thread → segment.parts = []) ∧ Unechoed rest :=
      List.pairwise_cons
    rw [echoes, List.append_eq_nil_iff, ih, headed, List.forall_mem_cons]
    have split : (∀ later ∈ rest, later.echo (seen ++ segment.details) = []) ↔
        (∀ later ∈ rest, later.echo seen = []) ∧
          ∀ later ∈ rest, segment.thread = later.thread → segment.parts = [] := by
      rw [← forall₂_and]
      apply forall₂_congr
      intro later _
      rw [echo_append, List.append_eq_nil_iff, echo_details]
    rw [split]
    tauto

theorem echoes_nil_iff_unechoed (segments : List Segment) :
    echoes [] segments = [] ↔ Unechoed segments := by
  have unseen : ∀ segment ∈ segments, segment.echo [] = [] := by
    intro segment _
    cases segment <;> rfl
  rw [echoes_nil_iff]
  exact ⟨And.right, fun unechoed => ⟨unseen, unechoed⟩⟩

theorem segments_parts (segments : List Segment) :
    segments.flatMap Segment.parts = (segments.flatMap Segment.details).filterMap reportedPart := by
  induction segments with
  | nil => rfl
  | cons segment rest ih =>
    rw [List.flatMap_cons, List.flatMap_cons, List.filterMap_append, ih]
    rfl

/-- What is echoed makes up for what is not read, part for part; there is neither where no id
comes back and every blob has the name it is read under. -/
def Outline.EchoesUnread (outline : Outline) : Prop :=
  (echoes [] outline.segments).Perm (outline.details.filterMap unreadPart)

theorem echoesUnread_iff_unechoed {outline : Outline}
    (read : outline.details.filterMap unreadPart = []) :
    outline.EchoesUnread ↔ Unechoed outline.segments := by
  rw [Outline.EchoesUnread, read, List.perm_nil, echoes_nil_iff_unechoed]

/-- The items report what is owed exactly where echoes make up for what is not read. -/
theorem itemsFrom_owed_iff (outline : Outline) :
    ((itemsFrom [] outline.segments).flatMap fun streamed => streamed.item.parts).Perm
      (outline.details.filterMap owedPart) ↔ outline.EchoesUnread := by
  have held := itemsFrom_parts [] outline.segments
  have owed := owedParts_split outline.details
  rw [segments_parts] at held
  constructor
  · intro reported
    exact (List.perm_append_left_iff _).mp ((held.symm.trans reported).trans owed)
  · intro echoed
    exact (held.trans (echoed.append_left _)).trans owed.symm

end Items

section Chunks

def Token.detail : Token → Option ReasoningDetail
  | .said _ => none
  | .thought detail => some detail

theorem extendAll_details (tokens : List Token) (outline : Outline) :
    (outline.extendAll tokens).details = outline.details ++ tokens.filterMap Token.detail := by
  unfold Outline.extendAll
  induction tokens generalizing outline with
  | nil => simp
  | cons token rest ih =>
    rw [List.foldl_cons, ih]
    cases token with
    | said text =>
      have kept : (outline.extend (.said text)).details = outline.details :=
        say_details outline text
      simp [kept, Token.detail, List.filterMap_cons]
    | thought detail =>
      have grew : (outline.extend (.thought detail)).details = outline.details ++ [detail] :=
        think_details outline detail
      simp [grew, Token.detail]

/-- The outline has every detail of the family, in order. -/
theorem outlineOf_details (chunks : List ChatChunk) :
    (outlineOf chunks).details =
      (details chunks).filter fun detail => isResponsesFamily detail.format := by
  rw [outlineOf, extendAll_details]
  have none : (({} : Outline).details) = [] := rfl
  rw [none, List.nil_append, details, List.filterMap_flatMap, List.filter_flatMap]
  apply List.flatMap_congr
  intro chunk _
  unfold chunkTokens
  cases chunk.choices.head? with
  | none => rfl
  | some choice =>
    have texts : ((nonempty choice.delta.content).toList.map Token.said).filterMap Token.detail =
        [] := by
      rw [List.filterMap_map, List.filterMap_eq_nil_iff]
      intro text _
      rfl
    have thoughts (held : List ReasoningDetail) :
        (held.map Token.thought).filterMap Token.detail = held := by
      rw [List.filterMap_map]
      exact List.filterMap_some
    rw [List.filterMap_append, texts, thoughts]
    rfl

end Chunks
end Routectl.Responses
