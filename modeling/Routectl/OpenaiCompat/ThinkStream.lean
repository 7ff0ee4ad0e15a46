import Routectl.OpenaiCompat.ThinkTags

/-! The stream of a dialect that thinks in tags: chunks split by one accumulator, and the flush
of what it holds back at the end. -/
namespace Routectl.OpenaiCompat
open Library Schema

section Reading

def choiceIndex (choice : Json) : Nat :=
  ((choice.field "index").bind Json.asU64).getD 0 % 2 ^ 32

def choiceFinish (choice : Json) : Option String :=
  (choice.field "finish_reason").bind Json.asStr

def deltaField (name : String) (choice : Json) : Option Json :=
  (choice.field "delta").bind (Json.field name)

def deltaContent (choice : Json) : String :=
  ((deltaField "content" choice).bind Json.asStr).getD ""

def roleOf (tag : String) : Role :=
  match tag with
  | "system" => .system
  | "user" => .user
  | "assistant" => .assistant
  | "tool" => .tool
  | other => .other other

def deltaRole (choice : Json) : Option Role :=
  ((deltaField "role" choice).bind Json.asStr).map roleOf

def deltaToolCalls (choice : Json) : Option (List Json) :=
  match deltaField "tool_calls" choice with
  | some (.array calls) => some calls
  | _ => none

def rawThinkTagFormat : String := "raw-think-tag-v1"

def buildReasoningDetail (id : String) (text : List Char) (index : Nat) : ReasoningDetail where
  kind := .text
  id := some id
  format := some rawThinkTagFormat
  index := some index
  payload := .object [("text", .string (String.ofList text))]

def shown (text : List Char) : Option String :=
  if text = [] then none else some (String.ofList text)

end Reading

section Processing
variable (freshId : Nat → String) (chunkUsage : Json → Option UsageDelta)

namespace ThinkTagAccumulator

def processChoice (accumulator : ThinkTagAccumulator) (choice : Json) :
    ChunkChoice × ThinkTagAccumulator :=
  let (split, next) := accumulator.takeDelta (deltaContent choice).toList
  let details :=
    if split.inside = [] then []
    else
      [buildReasoningDetail (freshId accumulator.chunkIndex) split.inside accumulator.chunkIndex]
  ({ index := choiceIndex choice
     finishReason := choiceFinish choice
     delta :=
      { role := deltaRole choice
        toolCalls := deltaToolCalls choice
        content := shown split.outside
        reasoning := shown split.inside
        reasoningDetails := details } }, next)

def processChoices (accumulator : ThinkTagAccumulator) :
    List Json → List ChunkChoice × ThinkTagAccumulator
  | [] => ([], accumulator)
  | choice :: rest =>
    let (made, next) := accumulator.processChoice freshId choice
    let (others, final) := processChoices next rest
    (made :: others, final)

/-- A decoded event that is no error; one without choices makes no chunk. -/
def process (accumulator : ThinkTagAccumulator) (value : Json) :
    Option ChatChunk × ThinkTagAccumulator :=
  match value.field "choices" with
  | some (.array choices) =>
    let (made, next) := accumulator.processChoices freshId choices
    let usage := chunkUsage value
    (some
      { id := ((value.field "id").bind Json.asStr).getD "chunk"
        model := ((value.field "model").bind Json.asStr).getD ""
        choices := made
        usage
        upstreamMeta :=
          if usage.any fun usage => usage.promptTokens.isSome then
            some { usageInputSource := some .explicitFinal }
          else none }, next)
  | _ => (none, accumulator)

def processAll (accumulator : ThinkTagAccumulator) :
    List Json → List ChatChunk × ThinkTagAccumulator
  | [] => ([], accumulator)
  | value :: rest =>
    let (made, next) := accumulator.process freshId chunkUsage value
    let (others, final) := processAll next rest
    (made.toList ++ others, final)

end ThinkTagAccumulator

/-- What is held back goes to the first choice. -/
def flushPendingChunk (text : List Char) : ChatChunk where
  choices := [{ index := 0, delta := { content := some (String.ofList text) } }]

def thinkStream (values : List Json) : List ChatChunk :=
  let (chunks, final) := ThinkTagAccumulator.processAll freshId chunkUsage {} values
  chunks ++ (final.takePending.1.map flushPendingChunk).toList

end Processing

section Seen
variable {freshId : Nat → String} {chunkUsage : Json → Option UsageDelta}
variable {keep : Nat → Bool} {accumulator : ThinkTagAccumulator}

/-- A text of the deltas of the choices kept, in the order it arrives. -/
def gathered (read : ChunkDelta → Option String) (keep : Nat → Bool) (chunks : List ChatChunk) :
    List Char :=
  chunks.flatMap fun chunk => (chunk.choices.filter fun choice => keep choice.index).flatMap
    fun choice => ((read choice.delta).getD "").toList

/-- What the choices kept show and reason. -/
def seen (keep : Nat → Bool) (chunks : List ChatChunk) : Split where
  outside := gathered ChunkDelta.content keep chunks
  inside := gathered ChunkDelta.reasoning keep chunks

def valueDeltas (value : Json) : List (Nat × List Char) :=
  match value.field "choices" with
  | some (.array choices) =>
    choices.map fun choice => (choiceIndex choice, (deltaContent choice).toList)
  | _ => []

/-- An event of one delta. -/
def deltaEvent (index : Nat) (text : List Char) : Json :=
  .object [("choices", .array [.object [("index", .number (toString index)),
    ("delta", .object [("content", .string (String.ofList text))])]])]

theorem valueDeltas_deltaEvent {index : Nat} (small : index < 2 ^ 32) (text : List Char) :
    valueDeltas (deltaEvent index text) = [(index, text)] := by
  have held : choiceIndex (.object [("index", .number (toString index)),
      ("delta", .object [("content", .string (String.ofList text))])]) = index := by
    have read : Json.asU64 (.number (toString index)) = some index :=
      Json.asU64_toString (by omega)
    rw [choiceIndex]
    show ((Json.asU64 (.number (toString index))).getD 0) % 2 ^ 32 = index
    rw [read, Option.getD_some, Nat.mod_eq_of_lt small]
  show [(choiceIndex _, (String.ofList text).toList)] = _
  rw [held, String.toList_ofList]

theorem toList_shown (text : List Char) : ((shown text).getD "").toList = text := by
  unfold shown
  split
  · rename_i empty
    rw [empty]
    rfl
  · rw [Option.getD_some, String.toList_ofList]

theorem splitDeltas_append (first second : List (Nat × List Char)) :
    accumulator.splitDeltas (first ++ second) =
      ((accumulator.splitDeltas first).1 ++
          ((accumulator.splitDeltas first).2.splitDeltas second).1,
        ((accumulator.splitDeltas first).2.splitDeltas second).2) := by
  induction first generalizing accumulator with
  | nil => rfl
  | cons delta rest ih =>
    simp only [List.cons_append, ThinkTagAccumulator.splitDeltas, ih]

def keptTotal (keep : Nat → Bool) (splits : List (Nat × Split)) (place : ThinkState) :
    List Char :=
  total (splits.filter fun split => keep split.1) place

theorem keptTotal_append (first second : List (Nat × Split)) (place : ThinkState) :
    keptTotal keep (first ++ second) place =
      keptTotal keep first place ++ keptTotal keep second place := by
  rw [keptTotal, List.filter_append, total, List.flatMap_append]
  rfl

theorem keptTotal_cons (index : Nat) (split : Split) (rest : List (Nat × Split))
    (place : ThinkState) :
    keptTotal keep ((index, split) :: rest) place =
      (if keep index then split.at_ place else []) ++ keptTotal keep rest place := by
  rw [keptTotal, List.filter_cons]
  split
  · rfl
  · rfl

/-- A text of the choices kept of one event. -/
def chosen (read : ChunkDelta → Option String) (keep : Nat → Bool)
    (choices : List ChunkChoice) : List Char :=
  (choices.filter fun choice => keep choice.index).flatMap
    fun choice => ((read choice.delta).getD "").toList

theorem chosen_cons (read : ChunkDelta → Option String) (choice : ChunkChoice)
    (rest : List ChunkChoice) :
    chosen read keep (choice :: rest) =
      (if keep choice.index then ((read choice.delta).getD "").toList else []) ++
        chosen read keep rest := by
  rw [chosen, List.filter_cons]
  split
  · rfl
  · rfl

/-- The choices of one event against their deltas. -/
theorem processChoices_seen (choices : List Json) :
    let made := accumulator.processChoices freshId choices
    let split := accumulator.splitDeltas
      (choices.map fun choice => (choiceIndex choice, (deltaContent choice).toList))
    made.2 = split.2 ∧ chosen ChunkDelta.content keep made.1 = keptTotal keep split.1 .outside ∧
      chosen ChunkDelta.reasoning keep made.1 = keptTotal keep split.1 .inside := by
  induction choices generalizing accumulator with
  | nil => exact ⟨rfl, rfl, rfl⟩
  | cons choice rest ih =>
    obtain ⟨same, outsides, insides⟩ :=
      @ih (accumulator.takeDelta (deltaContent choice).toList).2
    have walked : accumulator.processChoices freshId (choice :: rest) =
        ((accumulator.processChoice freshId choice).1 ::
            ((accumulator.takeDelta (deltaContent choice).toList).2.processChoices freshId rest).1,
          ((accumulator.takeDelta (deltaContent choice).toList).2.processChoices freshId
            rest).2) := rfl
    have split : accumulator.splitDeltas ((choice :: rest).map fun choice =>
        (choiceIndex choice, (deltaContent choice).toList)) =
        ((choiceIndex choice, (accumulator.takeDelta (deltaContent choice).toList).1) ::
            ((accumulator.takeDelta (deltaContent choice).toList).2.splitDeltas
              (rest.map fun choice => (choiceIndex choice, (deltaContent choice).toList))).1,
          ((accumulator.takeDelta (deltaContent choice).toList).2.splitDeltas
            (rest.map fun choice => (choiceIndex choice, (deltaContent choice).toList))).2) := rfl
    have content : (accumulator.processChoice freshId choice).1.delta.content =
        shown (accumulator.takeDelta (deltaContent choice).toList).1.outside := rfl
    have reasoning : (accumulator.processChoice freshId choice).1.delta.reasoning =
        shown (accumulator.takeDelta (deltaContent choice).toList).1.inside := rfl
    have index : (accumulator.processChoice freshId choice).1.index = choiceIndex choice := rfl
    dsimp only
    rw [walked, split]
    refine ⟨same, ?_, ?_⟩
    · rw [chosen_cons, keptTotal_cons, outsides, index, content, toList_shown]
      rfl
    · rw [chosen_cons, keptTotal_cons, insides, index, reasoning, toList_shown]
      rfl

theorem process_seen (value : Json) :
    let made := accumulator.process freshId chunkUsage value
    let split := accumulator.splitDeltas (valueDeltas value)
    made.2 = split.2 ∧
      gathered ChunkDelta.content keep made.1.toList = keptTotal keep split.1 .outside ∧
      gathered ChunkDelta.reasoning keep made.1.toList = keptTotal keep split.1 .inside := by
  unfold ThinkTagAccumulator.process valueDeltas
  split
  · rename_i choices held
    obtain ⟨same, outsides, insides⟩ :=
      @processChoices_seen freshId keep accumulator choices
    have one (read : ChunkDelta → Option String) (chunk : ChatChunk) :
        gathered read keep [chunk] = chosen read keep chunk.choices := by
      rw [gathered, List.flatMap_singleton]
      rfl
    refine ⟨same, ?_, ?_⟩
    · rw [← outsides]
      exact one _ _
    · rw [← insides]
      exact one _ _
  · exact ⟨rfl, rfl, rfl⟩

theorem processAll_seen (values : List Json) :
    let made := accumulator.processAll freshId chunkUsage values
    let split := accumulator.splitDeltas (values.flatMap valueDeltas)
    made.2 = split.2 ∧
      gathered ChunkDelta.content keep made.1 = keptTotal keep split.1 .outside ∧
      gathered ChunkDelta.reasoning keep made.1 = keptTotal keep split.1 .inside := by
  induction values generalizing accumulator with
  | nil => exact ⟨rfl, rfl, rfl⟩
  | cons value rest ih =>
    obtain ⟨step, outside, inside⟩ :=
      @process_seen freshId chunkUsage keep accumulator value
    obtain ⟨same, outsides, insides⟩ :=
      @ih (accumulator.splitDeltas (valueDeltas value)).2
    have walked : accumulator.processAll freshId chunkUsage (value :: rest) =
        ((accumulator.process freshId chunkUsage value).1.toList ++
            ((accumulator.splitDeltas (valueDeltas value)).2.processAll freshId chunkUsage rest).1,
          ((accumulator.splitDeltas (valueDeltas value)).2.processAll freshId chunkUsage
            rest).2) := by
      rw [← step]
      rfl
    dsimp only
    rw [walked, List.flatMap_cons, splitDeltas_append]
    refine ⟨same, ?_, ?_⟩
    · rw [keptTotal_append, ← outside, ← outsides, gathered, List.flatMap_append]
      rfl
    · rw [keptTotal_append, ← inside, ← insides, gathered, List.flatMap_append]
      rfl

/-- The split of the choices kept, where the flush is the first choice's. -/
def keptSplit (keep : Nat → Bool) (deltas : List (Nat × List Char)) : Split :=
  let (splits, final) := ThinkTagAccumulator.splitDeltas {} deltas
  { outside := keptTotal keep splits .outside ++ if keep 0 then final.pending else []
    inside := keptTotal keep splits .inside }

theorem flush_seen :
    gathered ChunkDelta.content keep
        (accumulator.takePending.1.map flushPendingChunk).toList =
          (if keep 0 then accumulator.pending else []) ∧
      gathered ChunkDelta.reasoning keep
        (accumulator.takePending.1.map flushPendingChunk).toList = [] := by
  unfold ThinkTagAccumulator.takePending
  split
  · rename_i empty
    rw [empty]
    exact ⟨(ite_self _).symm, rfl⟩
  · simp only [Option.map_some, Option.toList_some, gathered, List.flatMap_singleton,
      flushPendingChunk, List.filter_singleton]
    cases keep 0 with
    | true => simp
    | false => exact ⟨rfl, rfl⟩

theorem seen_thinkStream (values : List Json) :
    seen keep (thinkStream freshId chunkUsage values) =
      keptSplit keep (values.flatMap valueDeltas) := by
  obtain ⟨same, outsides, insides⟩ := @processAll_seen freshId chunkUsage keep {} values
  unfold thinkStream keptSplit
  generalize ThinkTagAccumulator.splitDeltas {} _ = split at same outsides insides ⊢
  generalize ThinkTagAccumulator.processAll freshId chunkUsage {} values = made at *
  obtain ⟨chunks, final⟩ := made
  obtain ⟨splits, last⟩ := split
  dsimp only at same outsides insides ⊢
  subst same
  obtain ⟨flush, silent⟩ := @flush_seen keep final
  rw [seen, Split.mk.injEq]
  refine ⟨?_, ?_⟩
  · rw [← outsides, ← flush, gathered, List.flatMap_append]
    rfl
  · rw [← insides, gathered, List.flatMap_append]
    exact (congrArg (_ ++ ·) silent).trans (List.append_nil _)

theorem keptSplit_all (deltas : List (Nat × List Char)) :
    keptSplit (fun _ => true) deltas = wholeSplit deltas := by
  have every (splits : List (Nat × Split)) (place : ThinkState) :
      keptTotal (fun _ => true) splits place = total splits place := by
    rw [keptTotal, List.filter_eq_self.mpr fun _ _ => rfl]
  unfold keptSplit wholeSplit
  simp only [every, if_true]

end Seen

section Choices
variable {accumulator own : ThinkTagAccumulator} {index current : Nat}
variable {deltas : List (Nat × List Char)}

/-- Outside of reasoning and with nothing held back. -/
def ThinkTagAccumulator.AtRest (accumulator : ThinkTagAccumulator) : Prop :=
  accumulator.state = .outside ∧ accumulator.pending = []

/-- The stream turns from one choice to another at rest only; a delta without text is no
turn. -/
def TurnsAtRest (accumulator : ThinkTagAccumulator) (current : Nat) :
    List (Nat × List Char) → Prop
  | [] => True
  | (choice, text) :: rest =>
    if text = [] then TurnsAtRest (accumulator.takeDelta text).2 current rest
    else (choice = current ∨ accumulator.AtRest) ∧
      TurnsAtRest (accumulator.takeDelta text).2 choice rest

/-- The choice the stream has turned to. -/
def turned (current : Nat) : List (Nat × List Char) → Nat
  | [] => current
  | (choice, text) :: rest => turned (if text = [] then current else choice) rest

def stateAfter (deltas : List (Nat × List Char)) : ThinkTagAccumulator :=
  (ThinkTagAccumulator.splitDeltas {} deltas).2

/-- The flush, which goes to the first choice, has nothing of another. -/
def FlushesOwn (deltas : List (Nat × List Char)) : Prop :=
  turned 0 deltas = 0 ∨ (stateAfter deltas).pending = []

def ofChoice (index : Nat) (deltas : List (Nat × List Char)) : List (Nat × List Char) :=
  deltas.filter fun delta => delta.1 = index

/-- Two accumulators that split alike. -/
def Alike (one two : ThinkTagAccumulator) : Prop :=
  one.state = two.state ∧ one.pending = two.pending

theorem Alike.takeDelta {one two : ThinkTagAccumulator} (alike : Alike one two)
    (text : List Char) :
    (one.takeDelta text).1 = (two.takeDelta text).1 ∧
      Alike (one.takeDelta text).2 (two.takeDelta text).2 := by
  obtain ⟨state, count, pending⟩ := one
  obtain ⟨also, counted, held⟩ := two
  obtain ⟨same, equal⟩ := alike
  dsimp only at same equal
  subst same equal
  have counts (accumulator : ThinkTagAccumulator) :
      Alike (accumulator.takeDelta text).2 (accumulator.splitThinkTags text).2 := by
    unfold ThinkTagAccumulator.takeDelta
    dsimp only
    split
    · exact ⟨rfl, rfl⟩
    · exact ⟨rfl, rfl⟩
  have first := counts { state, chunkIndex := count, pending }
  have second := counts { state, chunkIndex := counted, pending }
  exact ⟨rfl, first.1.trans second.1.symm, first.2.trans second.2.symm⟩

/-- A delta without text is split into nothing. -/
theorem takeDelta_nil (begun : thinkTags.Partial accumulator.state accumulator.pending) :
    (∀ place, (accumulator.takeDelta []).1.at_ place = []) ∧
      Alike (accumulator.takeDelta []).2 accumulator := by
  have splits := takeDelta_splits begun []
  have moved := splits.moved begun
  obtain ⟨state, begins, here, elsewhere, -⟩ := splits
  have pending : (accumulator.takeDelta []).2.pending = accumulator.pending := by
    rcases moved with same | empty
    · exact same
    · have none_ : _ ++ (accumulator.takeDelta []).2.pending = [] ++ accumulator.pending := here
      rw [show accumulator.pending = [] from empty] at none_ ⊢
      exact (List.append_eq_nil_iff.mp none_).2
  refine ⟨?_, state, pending⟩
  intro place
  by_cases same : place = (accumulator.takeDelta []).2.state
  · rw [same]
    have kept : _ ++ (accumulator.takeDelta []).2.pending = [] ++ accumulator.pending := here
    rw [pending] at kept
    exact List.append_cancel_right kept
  · exact elsewhere place same

theorem Alike.symm {one two : ThinkTagAccumulator} (alike : Alike one two) : Alike two one :=
  ⟨alike.1.symm, alike.2.symm⟩

theorem Alike.trans {one two three : ThinkTagAccumulator} (first : Alike one two)
    (second : Alike two three) : Alike one three :=
  ⟨first.1.trans second.1, first.2.trans second.2⟩

theorem ThinkTagAccumulator.AtRest.alike {one two : ThinkTagAccumulator} (first : one.AtRest)
    (second : two.AtRest) : Alike one two :=
  ⟨first.1.trans second.1.symm, first.2.trans second.2.symm⟩

theorem ThinkTagAccumulator.AtRest.of_alike {one two : ThinkTagAccumulator} (rest : one.AtRest)
    (alike : Alike two one) : two.AtRest :=
  ⟨alike.1.trans rest.1, alike.2.trans rest.2⟩

theorem keptTotal_ofChoice_cons (choice index : Nat) (split : Split)
    (rest : List (Nat × Split)) (place : ThinkState) :
    keptTotal (· = index) ((choice, split) :: rest) place =
      (if choice = index then split.at_ place else []) ++ keptTotal (· = index) rest place := by
  rw [keptTotal_cons]
  simp only [decide_eq_true_eq]

/-- A choice's deltas are split in the stream as they are alone, and leave behind what the
stream holds where it has turned to that choice. -/
theorem splitDeltas_ofChoice
    (begun : thinkTags.Partial accumulator.state accumulator.pending)
    (follows : current = index → Alike own accumulator)
    (waits : current ≠ index → own.AtRest) (turns : TurnsAtRest accumulator current deltas) :
    (∀ place, keptTotal (· = index) (accumulator.splitDeltas deltas).1 place =
        total (own.splitDeltas (ofChoice index deltas)).1 place) ∧
      (turned current deltas = index → Alike (own.splitDeltas (ofChoice index deltas)).2
        (accumulator.splitDeltas deltas).2) ∧
      (turned current deltas ≠ index → (own.splitDeltas (ofChoice index deltas)).2.AtRest) := by
  induction deltas generalizing accumulator own current with
  | nil => exact ⟨fun _ => rfl, follows, waits⟩
  | cons delta rest ih =>
    obtain ⟨choice, text⟩ := delta
    have next := (takeDelta_splits begun text).begins
    have walked : accumulator.splitDeltas ((choice, text) :: rest) =
        ((choice, (accumulator.takeDelta text).1) ::
            ((accumulator.takeDelta text).2.splitDeltas rest).1,
          ((accumulator.takeDelta text).2.splitDeltas rest).2) := rfl
    rw [walked, turned]
    simp only [keptTotal_ofChoice_cons]
    rw [TurnsAtRest] at turns
    have ownBegun : thinkTags.Partial own.state own.pending := by
      by_cases here : current = index
      · rw [(follows here).1, (follows here).2]
        exact begun
      · rw [(waits here).2]
        exact Delimiters.partial_nil
    by_cases mine : choice = index
    · have kept : ofChoice index ((choice, text) :: rest) =
          (choice, text) :: ofChoice index rest := List.filter_cons_of_pos (decide_eq_true mine)
      have taken : own.splitDeltas ((choice, text) :: ofChoice index rest) =
          ((choice, (own.takeDelta text).1) ::
              ((own.takeDelta text).2.splitDeltas (ofChoice index rest)).1,
            ((own.takeDelta text).2.splitDeltas (ofChoice index rest)).2) := rfl
      rw [kept, taken]
      by_cases empty : text = []
      · subst empty
        rw [if_pos rfl] at turns ⊢
        obtain ⟨nothing, idle⟩ := takeDelta_nil begun
        obtain ⟨neither, still⟩ := takeDelta_nil ownBegun
        obtain ⟨totals, left⟩ := ih next
          (fun here => still.trans ((follows here).trans idle.symm))
          (fun here => (waits here).of_alike still) turns
        refine ⟨?_, left⟩
        intro place
        rw [if_pos mine, nothing, totals]
        show _ = (own.takeDelta []).1.at_ place ++ _
        rw [neither]
        rfl
      · rw [if_neg empty] at turns ⊢
        have alike : Alike own accumulator := by
          by_cases here : current = index
          · exact follows here
          · rcases turns.1 with same | resting
            · exact absurd (same.symm.trans mine) here
            · exact (waits here).alike resting
        obtain ⟨same, after⟩ := alike.takeDelta text
        obtain ⟨totals, left⟩ := ih next (fun _ => after) (fun other => absurd mine other) turns.2
        refine ⟨?_, left⟩
        intro place
        rw [if_pos mine, totals, ← same]
        rfl
    · have passed : ofChoice index ((choice, text) :: rest) = ofChoice index rest :=
        List.filter_cons_of_neg (by simpa using mine)
      simp only [passed, if_neg mine, List.nil_append]
      by_cases empty : text = []
      · subst empty
        rw [if_pos rfl] at turns ⊢
        have idle := (takeDelta_nil begun).2
        exact ih next (fun here => (follows here).trans idle.symm) waits turns
      · rw [if_neg empty] at turns ⊢
        refine ih next (fun here => absurd here mine) (fun _ => ?_) turns.2
        by_cases here : current = index
        · rcases turns.1 with same | resting
          · exact absurd (same.trans here) mine
          · exact resting.of_alike (follows here)
        · exact waits here

/-- The split of a choice's deltas, of which the flush has its own only where it is the first. -/
theorem keptSplit_ofChoice (index : Nat) (turns : TurnsAtRest {} 0 deltas) :
    ∃ shown reasoned, keptSplit (· = index) deltas =
        ⟨shown ++ if index = 0 then (stateAfter deltas).pending else [], reasoned⟩ ∧
      wholeSplit (ofChoice index deltas) =
        ⟨shown ++ if turned 0 deltas = index then (stateAfter deltas).pending else [], reasoned⟩ := by
  obtain ⟨totals, held, idle⟩ := @splitDeltas_ofChoice {} {} index 0 deltas
    Delimiters.partial_nil (fun _ => ⟨rfl, rfl⟩) (fun _ => ⟨rfl, rfl⟩) turns
  have left : (ThinkTagAccumulator.splitDeltas {} (ofChoice index deltas)).2.pending =
      if turned 0 deltas = index then (stateAfter deltas).pending else [] := by
    split
    case isTrue here => exact (held here).2
    case isFalse elsewhere => exact (idle elsewhere).2
  refine ⟨total (ThinkTagAccumulator.splitDeltas {} (ofChoice index deltas)).1 .outside,
    total (ThinkTagAccumulator.splitDeltas {} (ofChoice index deltas)).1 .inside, ?_, ?_⟩
  · unfold keptSplit stateAfter
    dsimp only
    rw [totals, totals]
    simp only [decide_eq_true_eq, @eq_comm Nat index 0]
  · unfold wholeSplit
    dsimp only
    rw [left]

/-- Of a stream that turns at rest each choice is split as its deltas alone are, exactly where
the flush has nothing of a later one. -/
theorem keptSplit_ofChoice_iff (turns : TurnsAtRest {} 0 deltas) :
    (∀ index, keptSplit (· = index) deltas = wholeSplit (ofChoice index deltas)) ↔
      FlushesOwn deltas := by
  constructor
  · intro agree
    by_contra stray
    obtain ⟨later, held⟩ := not_or.mp stray
    obtain ⟨shown, reasoned, split, alone⟩ := keptSplit_ofChoice (turned 0 deltas) turns
    rw [agree, alone, if_pos rfl, if_neg later, List.append_nil, Split.mk.injEq] at split
    exact held (List.append_right_eq_self.mp split.1)
  · intro own index
    obtain ⟨shown, reasoned, split, alone⟩ := keptSplit_ofChoice index turns
    rw [split, alone]
    rcases own with first | empty
    · simp only [first, eq_comm]
    · simp only [empty, ite_self]

theorem turnsAtRest_append {more : List (Nat × List Char)} :
    TurnsAtRest accumulator current (deltas ++ more) ↔ TurnsAtRest accumulator current deltas ∧
      TurnsAtRest (accumulator.splitDeltas deltas).2 (turned current deltas) more := by
  induction deltas generalizing accumulator current with
  | nil => simp [TurnsAtRest, turned, ThinkTagAccumulator.splitDeltas]
  | cons delta rest ih =>
    obtain ⟨choice, text⟩ := delta
    rw [List.cons_append, TurnsAtRest, TurnsAtRest, turned]
    by_cases empty : text = []
    · rw [if_pos empty, if_pos empty, if_pos empty, ih]
      rfl
    · rw [if_neg empty, if_neg empty, if_neg empty, ih, and_assoc]
      rfl

/-- A character of no tag breaks off what is held back. -/
theorem takeDelta_plain (begun : thinkTags.Partial accumulator.state accumulator.pending) :
    (accumulator.takeDelta ['x']).2.state = accumulator.state ∧
      (accumulator.takeDelta ['x']).2.pending = [] ∧
      ∀ place, (accumulator.takeDelta ['x']).1.at_ place =
        Delimiters.only accumulator.state (accumulator.pending ++ ['x']) place := by
  have foreign : ∀ state, 'x' ∉ thinkTags.tag state := by
    intro state
    cases state <;> decide
  have broken : ¬ accumulator.pending ++ ['x'] <+: thinkTags.tag accumulator.state :=
    fun begins => foreign _ (begins.subset (List.mem_append_right _ List.mem_cons_self))
  have read : thinkTags.read accumulator.state accumulator.pending ['x'] =
      ((accumulator.state, []),
        Delimiters.only accumulator.state (accumulator.pending ++ ['x'])) := by
    have taken : thinkTags.step accumulator.state accumulator.pending 'x' =
        ((accumulator.state, []), accumulator.pending ++ ['x']) := by
      have plain : 'x' ≠ thinkTags.first := by decide
      have short : accumulator.pending ++ ['x'] ≠ thinkTags.tag accumulator.state :=
        fun whole => broken (whole ▸ List.prefix_refl _)
      rw [Delimiters.step, if_neg short, if_neg broken, if_neg plain]
    simp only [Delimiters.read, taken, List.append_nil]
  have splits := takeDelta_splits begun ['x']
  rw [read] at splits
  obtain ⟨state, begins, here, elsewhere, -⟩ := splits
  dsimp only at state here elsewhere
  have pending : (accumulator.takeDelta ['x']).2.pending = [] := by
    rw [state, List.append_nil, Delimiters.only_self] at here
    rcases List.eq_nil_or_concat (accumulator.takeDelta ['x']).2.pending with none | ending
    · exact none
    · obtain ⟨front, last, split⟩ := ending
      rw [split, List.concat_eq_append] at begins here
      rw [← List.append_assoc] at here
      obtain rfl := (List.cons.inj (List.append_inj' here rfl).2).1
      exact absurd (begins.1.subset (List.mem_append_right _ List.mem_cons_self)) (foreign _)
  refine ⟨state, pending, fun place => ?_⟩
  by_cases same : place = accumulator.state
  · rw [pending, state, List.append_nil, List.append_nil] at here
    rw [same, here]
  · exact elsewhere place (state.symm ▸ same)

theorem stateAfter_begun (deltas : List (Nat × List Char)) :
    thinkTags.Partial (stateAfter deltas).state (stateAfter deltas).pending := by
  have walks : ∀ (deltas : List (Nat × List Char)) {accumulator : ThinkTagAccumulator},
      thinkTags.Partial accumulator.state accumulator.pending →
        thinkTags.Partial (accumulator.splitDeltas deltas).2.state
          (accumulator.splitDeltas deltas).2.pending := by
    intro deltas
    induction deltas with
    | nil => exact id
    | cons delta rest ih => exact fun begun => ih (takeDelta_splits begun delta.2).begins
  exact walks deltas Delimiters.partial_nil

/-- What is shown of a stream that ends in a plain character. -/
theorem keptSplit_plain (keep : Nat → Bool) (deltas : List (Nat × List Char)) (choice : Nat) :
    (keptSplit keep (deltas ++ [(choice, ['x'])])).outside =
      keptTotal keep (ThinkTagAccumulator.splitDeltas {} deltas).1 .outside ++
        if keep choice then Delimiters.only (stateAfter deltas).state
          ((stateAfter deltas).pending ++ ['x']) .outside else [] := by
  obtain ⟨-, pending, shown⟩ := takeDelta_plain (stateAfter_begun deltas)
  have walked : ThinkTagAccumulator.splitDeltas {} (deltas ++ [(choice, ['x'])]) =
      ((ThinkTagAccumulator.splitDeltas {} deltas).1 ++
          [(choice, ((stateAfter deltas).takeDelta ['x']).1)],
        ((stateAfter deltas).takeDelta ['x']).2) := splitDeltas_append ..
  unfold keptSplit
  rw [walked]
  dsimp only
  rw [pending, ite_self, List.append_nil, keptTotal_append, keptTotal_cons, shown]
  exact congrArg (_ ++ ·) (List.append_nil _)

/-- A turn is safe whatever the other choice brings exactly at rest: a plain character of it is
split as its own nowhere else. -/
theorem turn_safe_iff (turns : TurnsAtRest {} 0 deltas) {choice : Nat}
    (other : choice ≠ turned 0 deltas) :
    (∀ index, keptSplit (· = index) (deltas ++ [(choice, ['x'])]) =
        wholeSplit (ofChoice index (deltas ++ [(choice, ['x'])]))) ↔
      (stateAfter deltas).AtRest := by
  constructor
  · intro agree
    have own : ofChoice choice (deltas ++ [(choice, ['x'])]) =
        ofChoice choice deltas ++ [(choice, ['x'])] := by
      have kept : ofChoice choice [(choice, ['x'])] = [(choice, ['x'])] :=
        List.filter_cons_of_pos (decide_eq_true rfl)
      rw [ofChoice, List.filter_append]
      exact congrArg (_ ++ ·) kept
    obtain ⟨totals, -, idle⟩ := @splitDeltas_ofChoice {} {} choice 0 deltas
      Delimiters.partial_nil (fun _ => ⟨rfl, rfl⟩) (fun _ => ⟨rfl, rfl⟩) turns
    obtain ⟨outside, nothing⟩ := idle (Ne.symm other)
    have shown := congrArg Split.outside (agree choice)
    have all : keptTotal (fun _ => true)
        (ThinkTagAccumulator.splitDeltas {} (ofChoice choice deltas)).1 .outside =
          total (ThinkTagAccumulator.splitDeltas {} (ofChoice choice deltas)).1 .outside := by
      rw [keptTotal, List.filter_eq_self.mpr fun _ _ => rfl]
    rw [own, ← keptSplit_all, keptSplit_plain, keptSplit_plain, totals, all,
      List.append_cancel_left_eq, if_pos (decide_eq_true rfl), if_pos rfl, stateAfter, stateAfter,
      outside, nothing, Delimiters.only_self] at shown
    cases state : (stateAfter deltas).state with
    | outside =>
      rw [stateAfter] at state
      rw [state, Delimiters.only_self] at shown
      exact ⟨state, List.append_cancel_right (shown.trans (List.nil_append _).symm)⟩
    | inside =>
      rw [stateAfter] at state
      rw [state, Delimiters.only_ne (by decide)] at shown
      cases shown
  · intro rest
    refine (keptSplit_ofChoice_iff (turnsAtRest_append.mpr ⟨turns, ?_⟩)).mpr (.inr ?_)
    · exact ⟨.inr rest, trivial⟩
    · have walked : stateAfter (deltas ++ [(choice, ['x'])]) =
          ((stateAfter deltas).takeDelta ['x']).2 := congrArg Prod.snd (splitDeltas_append ..)
      rw [walked]
      exact (takeDelta_plain (stateAfter_begun deltas)).2.1

end Choices

section Agreement
variable (freshId : Nat → String) (chunkUsage : Json → Option UsageDelta)

theorem seen_deltaEvent (index : Nat) (text : List Char) :
    seen (fun _ => true) (thinkStream freshId chunkUsage [deltaEvent index text]) =
      wholeSplit [(index, text)] := by
  rw [seen_thinkStream, keptSplit_all]
  have deltas : valueDeltas (deltaEvent index text) =
      [(choiceIndex _, (String.ofList text).toList)] := rfl
  rw [List.flatMap_singleton, deltas, String.toList_ofList]
  rfl

/-- The deltas of one choice of a stream, alone. -/
def alone (index : Nat) (values : List Json) : List Json :=
  (ofChoice index (values.flatMap valueDeltas)).map fun delta => deltaEvent index delta.2

theorem wholeSplit_relabelled (label : Nat) (deltas : List (Nat × List Char)) :
    wholeSplit (deltas.map fun delta => (label, delta.2)) = wholeSplit deltas := by
  have walks : ∀ (deltas : List (Nat × List Char)) (accumulator : ThinkTagAccumulator),
      (∀ place, total (accumulator.splitDeltas (deltas.map fun delta => (label, delta.2))).1 place =
          total (accumulator.splitDeltas deltas).1 place) ∧
        (accumulator.splitDeltas (deltas.map fun delta => (label, delta.2))).2 =
          (accumulator.splitDeltas deltas).2 := by
    intro deltas
    induction deltas with
    | nil => exact fun accumulator => ⟨fun _ => rfl, rfl⟩
    | cons delta rest ih =>
      intro accumulator
      obtain ⟨totals, final⟩ := ih (accumulator.takeDelta delta.2).2
      exact ⟨fun place => congrArg (_ ++ ·) (totals place), final⟩
  obtain ⟨totals, final⟩ := walks deltas {}
  unfold wholeSplit
  dsimp only
  rw [totals, totals, final]

theorem seen_alone (index : Nat) (values : List Json) :
    seen (fun _ => true) (thinkStream freshId chunkUsage (alone index values)) =
      wholeSplit (ofChoice index (values.flatMap valueDeltas)) := by
  rw [seen_thinkStream, keptSplit_all, alone, List.flatMap_map]
  have labelled : ∀ delta : Nat × List Char, valueDeltas (deltaEvent index delta.2) =
      [(((Json.asU64 (.number (toString index))).getD 0) % 2 ^ 32, delta.2)] := by
    intro delta
    show [(((Json.asU64 (.number (toString index))).getD 0) % 2 ^ 32,
      (String.ofList delta.2).toList)] = _
    rw [String.toList_ofList]
  rw [List.flatMap_congr fun delta _ => labelled delta, ← List.map_eq_flatMap,
    wholeSplit_relabelled]

/-- Cutting one choice's text makes no difference exactly where nothing in the text rejoins. Of
several choices that take turns at rest, each is split as its own deltas exactly where the flush
has nothing of a later one, and as its text where its own cut makes no difference; and a turn is
safe whatever it brings exactly at rest. -/
theorem think_split_agrees :
    (∀ text : List Char,
      (∀ index values, (∀ delta ∈ values.flatMap valueDeltas, delta.1 = index) →
        textOf (values.flatMap valueDeltas) = text →
        seen (fun _ => true) (thinkStream freshId chunkUsage values) =
          seen (fun _ => true) (thinkStream freshId chunkUsage [deltaEvent index text])) ↔
        ¬ Rejoins text) ∧
    (∀ values, TurnsAtRest {} 0 (values.flatMap valueDeltas) →
      ((∀ index, seen (· = index) (thinkStream freshId chunkUsage values) =
          seen (fun _ => true) (thinkStream freshId chunkUsage (alone index values))) ↔
        FlushesOwn (values.flatMap valueDeltas)) ∧
      (FlushesOwn (values.flatMap valueDeltas) → ∀ index,
        ¬ Rejoins (textOf (ofChoice index (values.flatMap valueDeltas))) →
          seen (· = index) (thinkStream freshId chunkUsage values) =
            seen (fun _ => true) (thinkStream freshId chunkUsage
              [deltaEvent index (textOf (ofChoice index (values.flatMap valueDeltas)))])) ∧
      ∀ choice, choice < 2 ^ 32 → choice ≠ turned 0 (values.flatMap valueDeltas) →
        ((∀ index, seen (· = index)
            (thinkStream freshId chunkUsage (values ++ [deltaEvent choice ['x']])) =
              seen (fun _ => true) (thinkStream freshId chunkUsage
                (alone index (values ++ [deltaEvent choice ['x']])))) ↔
          (stateAfter (values.flatMap valueDeltas)).AtRest)) := by
  refine ⟨?_, ?_⟩
  · intro text
    simp only [seen_deltaEvent]
    simp only [seen_thinkStream, keptSplit_all]
    constructor
    · intro agree
      rw [← cuts_agree_iff 0]
      intro deltas one cut
      have events : (deltas.map fun delta => deltaEvent delta.1 delta.2).flatMap valueDeltas =
          deltas := by
        rw [List.flatMap_map]
        have each : ∀ delta ∈ deltas, valueDeltas (deltaEvent delta.1 delta.2) = [delta] :=
          fun delta member => valueDeltas_deltaEvent (by rw [one delta member]; decide) _
        rw [List.flatMap_congr each, List.flatMap_singleton']
      have outcome := agree 0 (deltas.map fun delta => deltaEvent delta.1 delta.2)
      rw [events] at outcome
      exact outcome one cut
    · intro apart index values one cut
      exact (cuts_agree_iff index text).mpr apart _ one cut
  · intro values turns
    simp only [seen_alone, seen_deltaEvent]
    simp only [seen_thinkStream]
    refine ⟨keptSplit_ofChoice_iff turns, ?_, ?_⟩
    · intro own index apart
      rw [(keptSplit_ofChoice_iff turns).mpr own index, wholeSplit_eq_readSplit apart]
      have whole : textOf [(index, textOf (ofChoice index (values.flatMap valueDeltas)))] =
          textOf (ofChoice index (values.flatMap valueDeltas)) := List.flatMap_singleton ..
      rw [wholeSplit_eq_readSplit (whole.symm ▸ apart), whole]
    · intro choice small other
      rw [List.flatMap_append, List.flatMap_singleton, valueDeltas_deltaEvent small]
      exact turn_safe_iff turns other

end Agreement

/-- A tag spelt around a tag, cut after the inner one, is taken for one; and what one choice
opens, another is read in. -/
theorem think_split_differs :
    seen (fun _ => true) (thinkStream (fun _ => "id") (fun _ => none)
        [deltaEvent 0 "<th<think></think>".toList, deltaEvent 0 "ink>x".toList]) ≠
      seen (fun _ => true) (thinkStream (fun _ => "id") (fun _ => none)
        [deltaEvent 0 "<th<think></think>ink>x".toList]) ∧
    seen (· = 1) (thinkStream (fun _ => "id") (fun _ => none)
        [deltaEvent 0 "<think>".toList, deltaEvent 1 "a".toList]) ≠
      seen (fun _ => true) (thinkStream (fun _ => "id") (fun _ => none)
        [deltaEvent 1 "a".toList]) := by
  rw [seen_deltaEvent, seen_deltaEvent]
  simp only [seen_thinkStream, keptSplit_all, List.flatMap_cons, List.flatMap_nil]
  rw [valueDeltas_deltaEvent (by decide), valueDeltas_deltaEvent (by decide),
    valueDeltas_deltaEvent (by decide), valueDeltas_deltaEvent (by decide)]
  decide

end Routectl.OpenaiCompat
