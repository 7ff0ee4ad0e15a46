import Routectl.ResponsesApi.Collecting

/-! The chunk of each event, told from the event and its own item: a run over items at any
interleaving gives these chunks and no others. -/
namespace Routectl.ResponsesApi
open Library Schema

section Ranks
variable {output : List ResponseOutputItem} {passes : ResponseOutputItem → Bool}

def isReasoning (item : ResponseOutputItem) : Bool := item.reasoningId.isSome

/-- The taken items of a sort, as they were added. -/
def takenWhere (output : List ResponseOutputItem) (passes : ResponseOutputItem → Bool)
    (taken : List Nat) : List Nat :=
  taken.filter fun index => output[index]?.any passes

/-- The place of a taken item among those of its sort. -/
def rank (output : List ResponseOutputItem) (passes : ResponseOutputItem → Bool) (taken : List Nat)
    (index : Nat) : Nat :=
  (takenWhere output passes taken).idxOf index

theorem takenWhere_snoc (taken : List Nat) (index : Nat) {item : ResponseOutputItem}
    (found : output[index]? = some item) :
    (takenWhere output passes (taken ++ [index])).length =
      (takenWhere output passes taken).length + if passes item then 1 else 0 := by
  unfold takenWhere
  rw [List.filter_append, List.length_append]
  by_cases sort : passes item = true
  · simp [found, sort]
  · simp [found, sort]

theorem rank_new {held taken : List Nat} {index : Nat} {item : ResponseOutputItem}
    (grown : held ++ [index] <+: taken) (fresh : index ∉ held)
    (found : output[index]? = some item) (sort : passes item = true) :
    rank output passes taken index = (takenWhere output passes held).length := by
  obtain ⟨later, rfl⟩ := grown
  have unseen : index ∉ takenWhere output passes held :=
    fun member => fresh (List.mem_filter.mp member).1
  have own : takenWhere output passes [index] = [index] := by simp [takenWhere, found, sort]
  have split : takenWhere output passes (held ++ [index] ++ later) =
      takenWhere output passes held ++ (index :: takenWhere output passes later) := by
    have parts : takenWhere output passes (held ++ [index] ++ later) =
        takenWhere output passes held ++ takenWhere output passes [index] ++
          takenWhere output passes later := by
      simp only [takenWhere, List.filter_append]
    rw [parts, own, List.append_assoc]
    rfl
  rw [rank, split, List.idxOf_append, if_neg unseen, List.idxOf_cons_self, Nat.zero_add]

end Ranks

section Emission
variable (opened : ResponsesStreamState) (output : List ResponseOutputItem) (taken : List Nat)

def reasoningDelta (kind : ReasoningDetailKind) (id : String) (detailIndex : Nat) (text : String) :
    ChunkDelta :=
  { reasoning := some text
    reasoningDetails := [laneDetail opened.authKind kind id detailIndex "text" text] }

def signatureDelta (id : String) (detailIndex : Nat) (signature : String) : ChunkDelta :=
  { reasoningDetails :=
      [laneDetail opened.authKind .encrypted id detailIndex "encrypted_content" signature] }

def argumentDelta (callIndex : Nat) (callId name partialJson : String) : ChunkDelta :=
  { toolCalls := some [ResponsesStreamState.toolDelta callIndex callId name partialJson] }

/-- What an event says of the item it is under. -/
def spoken (index : Nat) (item : ResponseOutputItem) (event : ResponsesStreamEvent) :
    Option ChunkDelta :=
  match item with
  | .message _ =>
    if event.kind = outputTextDelta then event.delta.map fun delta => { content := some delta }
    else none
  | .reasoning id _ _ _ =>
    let detailIndex := rank output isReasoning taken index
    if event.kind = summaryTextDelta then
      event.delta.map (reasoningDelta opened .summary id detailIndex)
    else if event.kind = reasoningTextDelta then
      event.delta.map (reasoningDelta opened .text id detailIndex)
    else if event.kind = itemDone then item.signature.map (signatureDelta opened id detailIndex)
    else none
  | .functionCall callId name _ =>
    if event.kind = argumentsDelta then
      event.delta.map (argumentDelta
        (rank output ResponsesStreamState.isFunctionCall taken index) callId name)
    else none
  | .other _ => none

def emission (event : ResponsesStreamEvent) : List ChatChunk :=
  match event.outputIndex with
  | none => []
  | some index =>
    match output[index]? with
    | none => []
    | some item =>
      if index ∈ taken then
        (spoken opened output taken index item event).toList.map opened.deltaChunk
      else []

theorem spoken_unsaid {index : Nat} {item : ResponseOutputItem} {event : ResponsesStreamEvent}
    (text : event.kind ≠ outputTextDelta) (summary : event.kind ≠ summaryTextDelta)
    (reasoning : event.kind ≠ reasoningTextDelta) (arguments : event.kind ≠ argumentsDelta)
    (done : event.kind ≠ itemDone) : spoken opened output taken index item event = none := by
  cases item with
  | message => exact if_neg text
  | reasoning => simp only [spoken, if_neg summary, if_neg reasoning, if_neg done]
  | functionCall => exact if_neg arguments
  | other => rfl

theorem emission_unsaid {event : ResponsesStreamEvent}
    (text : event.kind ≠ outputTextDelta) (summary : event.kind ≠ summaryTextDelta)
    (reasoning : event.kind ≠ reasoningTextDelta) (arguments : event.kind ≠ argumentsDelta)
    (done : event.kind ≠ itemDone) : emission opened output taken event = [] := by
  unfold emission
  split
  case h_1 => rfl
  case h_2 =>
    split
    case h_1 => rfl
    case h_2 =>
      rw [spoken_unsaid opened output taken text summary reasoning arguments done]
      split <;> rfl

theorem emission_added {event : ResponsesStreamEvent} (kind : event.kind = itemAdded) :
    emission opened output taken event = [] := by
  apply emission_unsaid <;> rw [kind] <;> decide

end Emission

section Tracking
variable {uuid : Nat → String} {decode : Json → Option ResponsesResponse} {now : Nat}
variable {opened state : ResponsesStreamState} {output : List ResponseOutputItem} {taken : List Nat}
variable {seen rest : List ResponsesStreamEvent} {event : ResponsesStreamEvent} {index : Nat}

/-- A block is of its item, under these places. -/
def Fits (item : ResponseOutputItem) (callPlace detailPlace : Nat) : BlockState → Prop
  | .text => ∃ content, item = .message content
  | .reasoning itemId detailIndex early =>
    (∃ summary content encryptedContent,
      item = .reasoning itemId summary content encryptedContent) ∧
      detailIndex = detailPlace ∧ (early = none ∨ early = item.signature)
  | .toolUse callId name callIndex =>
    (∃ arguments, item = .functionCall callId name arguments) ∧ callIndex = callPlace

/-- A block is of its item, under the place the item has among those of its sort. -/
def Holds (output : List ResponseOutputItem) (taken : List Nat) (index : Nat)
    (item : ResponseOutputItem) : BlockState → Prop :=
  Fits item (rank output ResponsesStreamState.isFunctionCall taken index)
    (rank output isReasoning taken index)

/-- What the reader holds after some events. -/
structure Tracks (opened : ResponsesStreamState) (output : List ResponseOutputItem)
    (taken : List Nat) (held : Held) (state : ResponsesStreamState) : Prop where
  responseId : state.responseId = opened.responseId
  model : state.model = opened.model
  authKind : state.authKind = opened.authKind
  absent : ∀ index, index ∉ held.live → state.blocks.lookup index = none
  present : ∀ index ∈ held.live, ∃ item block, output[index]? = some item ∧
    state.blocks.lookup index = some block ∧ Holds output taken index item block
  once : held.live.Nodup
  takenOnce : held.taken.Nodup
  calls : state.nextCallIndex =
    (takenWhere output ResponsesStreamState.isFunctionCall held.taken).length
  details : state.nextDetailIndex = (takenWhere output isReasoning held.taken).length
  sawCall : state.sawFunctionCall = true → output.any ResponsesStreamState.isFunctionCall = true

theorem Tracks.room {held : Held} (tracks : Tracks opened output taken held state) :
    state.blocks.entries.length = held.live.length := by
  rw [← KeyedMap.card_keys, ← List.toFinset_card_of_nodup tracks.once]
  congr 1
  ext index
  rw [List.mem_toFinset, List.mem_toFinset, KeyedMap.mem_keys_iff]
  constructor
  · intro resident
    by_contra closed
    exact resident (tracks.absent index closed)
  · intro live
    obtain ⟨_, block, _, found, _⟩ := tracks.present index live
    rw [found]
    exact Option.some_ne_none block

theorem Tracks.deltaChunk {held : Held} (tracks : Tracks opened output taken held state)
    (delta : ChunkDelta) : state.deltaChunk delta = opened.deltaChunk delta := by
  unfold ResponsesStreamState.deltaChunk
  rw [tracks.responseId, tracks.model]

theorem parseEvent_idle (quiet : idle event.kind) :
    state.parseEvent uuid decode now event = .ok (state, []) := by
  obtain ⟨created, added, done, text, summary, reasoning, arguments, completed, incomplete, failed,
    cancelled⟩ := quiet
  unfold itemAdded itemDone outputTextDelta summaryTextDelta reasoningTextDelta argumentsDelta at *
  simp only [ResponsesStreamState.parseEvent, if_neg created, if_neg added, if_neg done,
    if_neg text, if_neg summary, if_neg reasoning, if_neg arguments, if_neg completed,
    if_neg incomplete, if_neg failed, if_neg cancelled, ite_self]

theorem parseEvent_added (kind : event.kind = itemAdded) :
    state.parseEvent uuid decode now event = .ok (state.handleItemAdded event, []) := by
  unfold ResponsesStreamState.parseEvent
  rw [kind]
  rfl

theorem parseEvent_done (kind : event.kind = itemDone) :
    state.parseEvent uuid decode now event = .ok (state.handleItemDone uuid event) := by
  unfold ResponsesStreamState.parseEvent
  rw [kind]
  rfl

theorem parseEvent_text (kind : event.kind = outputTextDelta) :
    state.parseEvent uuid decode now event = .ok (state, state.handleTextDelta event) := by
  unfold ResponsesStreamState.parseEvent
  rw [kind]
  rfl

theorem parseEvent_summary (kind : event.kind = summaryTextDelta) :
    state.parseEvent uuid decode now event =
      .ok (state.handleReasoningDelta uuid .summary event) := by
  unfold ResponsesStreamState.parseEvent
  rw [kind]
  rfl

theorem parseEvent_reasoning (kind : event.kind = reasoningTextDelta) :
    state.parseEvent uuid decode now event = .ok (state.handleReasoningDelta uuid .text event) := by
  unfold ResponsesStreamState.parseEvent
  rw [kind]
  rfl

theorem parseEvent_arguments (kind : event.kind = argumentsDelta) :
    state.parseEvent uuid decode now event = .ok (state, state.handleFunctionCallDelta event) := by
  unfold ResponsesStreamState.parseEvent
  rw [kind]
  rfl

/-- A block that is opened for an item. -/
theorem Tracks.take {held : Held} {next : ResponsesStreamState} {item : ResponseOutputItem}
    {block : BlockState} (tracks : Tracks opened output taken held state)
    (closed : index ∉ held.live) (fresh : index ∉ held.taken)
    (found : output[index]? = some item) (holds : Holds output taken index item block)
    (same : next.responseId = state.responseId ∧ next.model = state.model ∧
      next.authKind = state.authKind)
    (blocks : next.blocks = state.blocks.insert index block)
    (calls : next.nextCallIndex =
      state.nextCallIndex + if ResponsesStreamState.isFunctionCall item then 1 else 0)
    (details : next.nextDetailIndex = state.nextDetailIndex + if isReasoning item then 1 else 0)
    (sawCall : next.sawFunctionCall = true →
      output.any ResponsesStreamState.isFunctionCall = true) :
    Tracks opened output taken ⟨held.live ++ [index], held.taken ++ [index]⟩ next where
  responseId := same.1.trans tracks.responseId
  model := same.2.1.trans tracks.model
  authKind := same.2.2.trans tracks.authKind
  absent := by
    intro other outside
    rw [List.mem_append, List.mem_singleton, not_or] at outside
    rw [blocks, AList.lookup_insert_ne outside.2]
    exact tracks.absent other outside.1
  present := by
    intro other inside
    rw [blocks]
    by_cases own : other = index
    · subst own
      exact ⟨item, block, found, AList.lookup_insert _, holds⟩
    · rw [AList.lookup_insert_ne own]
      rcases List.mem_append.mp inside with earlier | newest
      · exact tracks.present other earlier
      · exact absurd (List.mem_singleton.mp newest) own
  once := by simpa only [List.concat_eq_append] using tracks.once.concat closed
  takenOnce := by simpa only [List.concat_eq_append] using tracks.takenOnce.concat fresh
  calls := by rw [calls, tracks.calls, takenWhere_snoc _ _ found]
  details := by rw [details, tracks.details, takenWhere_snoc _ _ found]
  sawCall := sawCall

/-- What is read of an item that is added: it is left out where there is no room. -/
theorem handleItemAdded_reads {item : ResponseOutputItem} (at_ : event.outputIndex = some index)
    (starts : Starts item event) (missing : index ∉ state.blocks) :
    ∃ sawCall, (sawCall = true → state.sawFunctionCall = true ∨
        ResponsesStreamState.isFunctionCall item = true) ∧
      if maxOutputBlocks ≤ state.blocks.entries.length then
        state.handleItemAdded event = { state with sawFunctionCall := sawCall }
      else ∃ block, Fits item state.nextCallIndex state.nextDetailIndex block ∧
        state.handleItemAdded event =
          { state with
            sawFunctionCall := sawCall
            blocks := state.blocks.insert index block
            nextCallIndex := state.nextCallIndex +
              if ResponsesStreamState.isFunctionCall item then 1 else 0
            nextDetailIndex := state.nextDetailIndex + if isReasoning item then 1 else 0 } := by
  obtain ⟨kind, json, given, names, early⟩ := starts
  unfold ResponsesStreamState.handleItemAdded
  rw [at_, given]
  dsimp only
  simp only [missing, not_false_eq_true, true_and]
  unfold strField at early
  refine ⟨state.sawFunctionCall || ((json.field "type").bind Json.asStr).getD "" = "function_call",
    ?_, ?_⟩
  · intro saw
    rcases Bool.or_eq_true _ _ ▸ saw with before | call
    · exact .inl before
    · refine .inr ?_
      cases item with
      | message =>
        have type : (json.field "type").bind Json.asStr = some "message" := names
        simp [type] at call
      | reasoning =>
        have type : (json.field "type").bind Json.asStr = some "reasoning" := names.1
        simp [type] at call
      | functionCall => rfl
      | other => cases names
  · split
    case isTrue => rfl
    case isFalse =>
      cases item with
      | message content =>
        have type : (json.field "type").bind Json.asStr = some "message" := names
        refine ⟨.text, ⟨content, rfl⟩, ?_⟩
        simp [type, ResponsesStreamState.isFunctionCall, isReasoning, ResponseOutputItem.reasoningId]
      | reasoning id summary content encryptedContent =>
        obtain ⟨type, named⟩ := names
        unfold strField at type named
        refine ⟨.reasoning id state.nextDetailIndex _,
          ⟨⟨summary, content, encryptedContent, rfl⟩, rfl, early⟩, ?_⟩
        simp [type, named, ResponsesStreamState.isFunctionCall, isReasoning,
          ResponseOutputItem.reasoningId]
      | functionCall callId name arguments =>
        obtain ⟨type, identified, named⟩ := names
        unfold strField at type identified named
        refine ⟨.toolUse callId name state.nextCallIndex, ⟨⟨arguments, rfl⟩, rfl⟩, ?_⟩
        simp [type, identified, named, ResponsesStreamState.isFunctionCall, isReasoning,
          ResponseOutputItem.reasoningId]
      | other raw => cases names

theorem tracks_starts {item : ResponseOutputItem}
    (tracks : Tracks opened output taken (heldAfter seen) state)
    (grown : takenOf (seen ++ [event]) <+: taken) (found : output[index]? = some item)
    (at_ : event.outputIndex = some index) (starts : Starts item event)
    (fresh : index ∉ takenOf seen) :
    Tracks opened output taken (heldAfter (seen ++ [event])) (state.handleItemAdded event) := by
  have closed : index ∉ (heldAfter seen).live := fun live => fresh (live_taken seen index live)
  have missing : index ∉ state.blocks := AList.lookup_eq_none.mp (tracks.absent index closed)
  obtain ⟨sawCall, saw, reads⟩ := handleItemAdded_reads at_ starts missing
  have sawOwn : sawCall = true → output.any ResponsesStreamState.isFunctionCall = true := by
    intro called
    rcases saw called with before | own
    · exact tracks.sawCall before
    · exact List.any_eq_true.mpr ⟨item, List.mem_of_getElem? found, own⟩
  unfold takenOf at grown fresh
  rw [heldAfter_snoc] at grown ⊢
  unfold Held.hear at grown ⊢
  rw [at_] at grown ⊢
  dsimp only at grown ⊢
  rw [if_pos starts.1] at grown ⊢
  rw [tracks.room] at reads
  split
  case isTrue full =>
    rw [if_pos full] at reads
    rw [reads]
    exact { tracks with sawCall := sawOwn }
  case isFalse room =>
    rw [if_neg room] at reads grown
    obtain ⟨block, fits, reads⟩ := reads
    have holds : Holds output taken index item block := by
      unfold Holds
      cases block with
      | text => exact fits
      | reasoning itemId detailIndex early =>
        obtain ⟨own, place, early⟩ := fits
        refine ⟨own, ?_, early⟩
        obtain ⟨summary, content, encryptedContent, rfl⟩ := own
        rw [place, tracks.details, rank_new grown fresh found rfl]
      | toolUse callId name callIndex =>
        obtain ⟨own, place⟩ := fits
        refine ⟨own, ?_⟩
        obtain ⟨arguments, rfl⟩ := own
        rw [place, tracks.calls, rank_new grown fresh found rfl]
    rw [reads]
    exact tracks.take closed fresh found holds ⟨rfl, rfl, rfl⟩ rfl rfl rfl sawOwn

theorem Tracks.release {held : Held} (tracks : Tracks opened output taken held state)
    (index : Nat) :
    Tracks opened output taken { held with live := held.live.erase index }
      { state with blocks := state.blocks.erase index } where
  responseId := tracks.responseId
  model := tracks.model
  authKind := tracks.authKind
  absent := by
    intro other outside
    by_cases own : other = index
    · rw [own]
      exact AList.lookup_erase index state.blocks
    · rw [AList.lookup_erase_ne own]
      exact tracks.absent other fun live => outside ((List.mem_erase_of_ne own).mpr live)
  present := by
    intro other inside
    obtain ⟨different, live⟩ := tracks.once.mem_erase_iff.mp inside
    rw [AList.lookup_erase_ne different]
    exact tracks.present other live
  once := tracks.once.erase index
  takenOnce := tracks.takenOnce
  calls := tracks.calls
  details := tracks.details
  sawCall := tracks.sawCall

theorem addressed_missing (at_ : event.outputIndex = some index)
    (missing : state.blocks.lookup index = none) : state.addressed event = none := by
  unfold ResponsesStreamState.addressed
  cases event.delta with
  | none => rfl
  | some delta => simp [at_, missing]

theorem addressed_found {block : BlockState} {delta : String} (said : event.delta = some delta)
    (at_ : event.outputIndex = some index) (found : state.blocks.lookup index = some block) :
    state.addressed event = some (delta, block) := by
  simp [ResponsesStreamState.addressed, said, at_, found]

/-- A delta of an item that is not open says nothing. -/
theorem parseEvent_unheard {item : ResponseOutputItem} (speaks : Speaks item event)
    (at_ : event.outputIndex = some index) (missing : state.blocks.lookup index = none) :
    state.parseEvent uuid decode now event = .ok (state, []) := by
  have unaddressed := addressed_missing at_ missing
  obtain ⟨-, kind⟩ := speaks
  cases item with
  | message => rw [parseEvent_text kind, ResponsesStreamState.handleTextDelta, unaddressed]
  | reasoning =>
    rcases kind with kind | kind
    · rw [parseEvent_summary kind, ResponsesStreamState.handleReasoningDelta, unaddressed]
    · rw [parseEvent_reasoning kind, ResponsesStreamState.handleReasoningDelta, unaddressed]
  | functionCall =>
    rw [parseEvent_arguments kind, ResponsesStreamState.handleFunctionCallDelta, unaddressed]
  | other => cases kind

theorem reasoningChunk_named {held : Held} (tracks : Tracks opened output taken held state)
    (kind : ReasoningDetailKind) {id : String} (named : id ≠ "") (detailIndex : Nat)
    (delta : String) :
    state.reasoningChunk uuid kind id detailIndex delta =
      (state, [opened.deltaChunk (reasoningDelta opened kind id detailIndex delta)]) := by
  unfold ResponsesStreamState.reasoningChunk ResponsesStreamState.stableOrMintedId
  rw [if_neg named]
  dsimp only
  rw [tracks.deltaChunk, tracks.authKind]
  rfl

/-- A delta of an open item. -/
theorem parseEvent_speaks {held : Held} {item : ResponseOutputItem} {block : BlockState}
    (tracks : Tracks opened output taken held state) (speaks : Speaks item event)
    (plain : item.plain) (at_ : event.outputIndex = some index)
    (found : state.blocks.lookup index = some block) (holds : Holds output taken index item block) :
    state.parseEvent uuid decode now event =
      .ok (state, (spoken opened output taken index item event).toList.map opened.deltaChunk) := by
  obtain ⟨given, kind⟩ := speaks
  obtain ⟨delta, said⟩ := Option.isSome_iff_exists.mp given
  have addressed := addressed_found said at_ found
  cases block with
  | text =>
    obtain ⟨content, rfl⟩ := holds
    rw [parseEvent_text kind, ResponsesStreamState.handleTextDelta, addressed]
    simp only [spoken, if_pos kind, said]
    rw [tracks.deltaChunk]
    rfl
  | reasoning itemId detailIndex early =>
    obtain ⟨⟨summary, content, encryptedContent, rfl⟩, rfl, -⟩ := holds
    have named : itemId ≠ "" := plain.1
    rcases kind with kind | kind
    · rw [parseEvent_summary kind, ResponsesStreamState.handleReasoningDelta, addressed]
      simp only [spoken, if_pos kind, said]
      rw [reasoningChunk_named tracks .summary named]
      rfl
    · have other : event.kind ≠ summaryTextDelta := by
        rw [kind]
        decide
      rw [parseEvent_reasoning kind, ResponsesStreamState.handleReasoningDelta, addressed]
      simp only [spoken, if_neg other, if_pos kind, said]
      rw [reasoningChunk_named tracks .text named]
      rfl
  | toolUse callId name callIndex =>
    obtain ⟨⟨arguments, rfl⟩, rfl⟩ := holds
    rw [parseEvent_arguments kind, ResponsesStreamState.handleFunctionCallDelta, addressed]
    simp only [spoken, if_pos kind, said]
    rw [tracks.deltaChunk]
    rfl

theorem parseEvent_ended {item : ResponseOutputItem} (ends : Ends item event)
    (at_ : event.outputIndex = some index) (missing : state.blocks.lookup index = none) :
    state.parseEvent uuid decode now event =
      .ok ({ state with blocks := state.blocks.erase index }, []) := by
  rw [parseEvent_done ends.1, ResponsesStreamState.handleItemDone, at_]
  dsimp only
  rw [missing]

/-- The end of an open item. -/
theorem parseEvent_ends {held : Held} {item : ResponseOutputItem} {block : BlockState}
    (tracks : Tracks opened output taken held state) (ends : Ends item event)
    (plain : item.plain) (at_ : event.outputIndex = some index)
    (found : state.blocks.lookup index = some block) (holds : Holds output taken index item block) :
    state.parseEvent uuid decode now event =
      .ok ({ state with blocks := state.blocks.erase index },
        (spoken opened output taken index item event).toList.map opened.deltaChunk) := by
  obtain ⟨kind, json, given, -, sealed⟩ := ends
  rw [parseEvent_done kind, ResponsesStreamState.handleItemDone, at_]
  dsimp only
  rw [found]
  cases block with
  | text =>
    obtain ⟨content, rfl⟩ := holds
    have other : event.kind ≠ outputTextDelta := by
      rw [kind]
      decide
    simp only [spoken, if_neg other]
    rfl
  | reasoning itemId detailIndex early =>
    obtain ⟨⟨summary, content, encryptedContent, rfl⟩, rfl, known⟩ := holds
    have named : itemId ≠ "" := plain.1
    have unsummarised : event.kind ≠ summaryTextDelta := by
      rw [kind]
      decide
    have unsaid : event.kind ≠ reasoningTextDelta := by
      rw [kind]
      decide
    have signed : (nonempty ((event.item.bind (Json.field "encrypted_content")).bind
        Json.asStr)).or early =
          ResponseOutputItem.signature (.reasoning itemId summary content encryptedContent) := by
      have final := sealed rfl
      unfold strField at final
      rw [given, Option.bind_some, final]
      rcases known with none | same
      · rw [none, Option.or_none]
      · rw [same, Option.or_self]
    simp only [spoken, if_neg unsummarised, if_neg unsaid, if_pos kind, signed]
    cases ResponseOutputItem.signature (.reasoning itemId summary content encryptedContent) with
    | none => rfl
    | some signature =>
      simp only [ResponsesStreamState.reasoningSignatureChunk,
        ResponsesStreamState.stableOrMintedId, if_neg named]
      rw [tracks.deltaChunk, tracks.authKind]
      rfl
  | toolUse callId name callIndex =>
    obtain ⟨⟨arguments, rfl⟩, rfl⟩ := holds
    have other : event.kind ≠ argumentsDelta := by
      rw [kind]
      decide
    simp only [spoken, if_neg other]
    rfl

theorem emission_at {item : ResponseOutputItem} (at_ : event.outputIndex = some index)
    (found : output[index]? = some item) :
    emission opened output taken event =
      if index ∈ taken then
        (spoken opened output taken index item event).toList.map opened.deltaChunk
      else [] := by
  simp only [emission, at_, found]

theorem tracks_goesOn {item : ResponseOutputItem}
    (tracks : Tracks opened output taken (heldAfter seen) state) (plain : item.plain)
    (found : output[index]? = some item) (at_ : event.outputIndex = some index)
    (goesOn : Speaks item event ∨ Ends item event)
    (open_ : index ∈ (heldAfter seen).live ↔ index ∈ taken) :
    ∃ next, state.parseEvent uuid decode now event =
        .ok (next, emission opened output taken event) ∧
      Tracks opened output taken (heldAfter (seen ++ [event])) next := by
  rw [heldAfter_snoc, emission_at at_ found]
  rcases goesOn with speaks | ends
  · have kind := speaks_kind speaks
    rw [hear_elsewhere kind.1 kind.2]
    split
    case isTrue heard =>
      obtain ⟨own, block, same, resident, holds⟩ := tracks.present index (open_.mpr heard)
      obtain rfl := Option.some.inj (found.symm.trans same)
      exact ⟨state, parseEvent_speaks tracks speaks plain at_ resident holds, tracks⟩
    case isFalse unheard =>
      have missing := tracks.absent index fun live => unheard (open_.mp live)
      exact ⟨state, parseEvent_unheard speaks at_ missing, tracks⟩
  · have erased : (heldAfter seen).hear event =
        { heldAfter seen with live := (heldAfter seen).live.erase index } := by
      unfold Held.hear
      rw [at_]
      dsimp only
      rw [if_neg (ends_kind ends), if_pos ends.1]
    rw [erased]
    split
    case isTrue heard =>
      obtain ⟨own, block, same, resident, holds⟩ := tracks.present index (open_.mpr heard)
      obtain rfl := Option.some.inj (found.symm.trans same)
      exact ⟨_, parseEvent_ends tracks ends plain at_ resident holds, tracks.release index⟩
    case isFalse unheard =>
      have missing := tracks.absent index fun live => unheard (open_.mp live)
      exact ⟨_, parseEvent_ended ends at_ missing, tracks.release index⟩

end Tracking

section Running
variable {uuid : Nat → String} {decode : Json → Option ResponsesResponse} {now : Nat}
variable {opened state : ResponsesStreamState} {output : List ResponseOutputItem}
variable {middle seen rest : List ResponsesStreamEvent}

theorem tracks_step {event : ResponsesStreamEvent} (plain : ∀ item ∈ output, item.plain)
    (interleaves : Interleaves output (seen ++ event :: rest))
    (tracks : Tracks opened output (takenOf (seen ++ event :: rest)) (heldAfter seen) state) :
    ∃ next, state.parseEvent uuid decode now event =
        .ok (next, emission opened output (takenOf (seen ++ event :: rest)) event) ∧
      Tracks opened output (takenOf (seen ++ event :: rest)) (heldAfter (seen ++ [event])) next := by
  by_cases quiet : idle event.kind
  · have ⟨_, added, done, text, summary, reasoning, arguments, _⟩ := quiet
    refine ⟨state, ?_, ?_⟩
    · rw [parseEvent_idle quiet, emission_unsaid _ _ _ text summary reasoning arguments done]
    · rw [heldAfter_snoc, hear_elsewhere added done]
      exact tracks
  · obtain ⟨index, inside, at_⟩ := interleaves.indexed event (by simp) quiet
    have found : output[index]? = some output[index] := List.getElem?_eq_getElem inside
    have role := role_of_split (interleaves.written index _ found) quiet at_
    cases role with
    | starts starts fresh once =>
      refine ⟨state.handleItemAdded event, ?_, ?_⟩
      · rw [parseEvent_added starts.1, emission_added _ _ _ starts.1]
      · apply tracks_starts tracks _ found at_ starts (fresh_of_starts fresh)
        have grown := takenOf_append (seen ++ [event]) rest
        rwa [List.append_assoc] at grown
    | goesOn goesOn added open_ once =>
      have other : event.kind ≠ itemAdded := by
        rcases goesOn with speaks | ends
        · exact (speaks_kind speaks).1
        · exact ends_kind ends
      exact tracks_goesOn tracks (plain _ (List.getElem_mem inside)) found at_ goesOn (live_iff_taken other open_ once)

/-- A run over items at any interleaving gives the chunk of each event. -/
theorem parseEvents_interleaved (plain : ∀ item ∈ output, item.plain)
    (interleaves : Interleaves output (seen ++ rest))
    (tracks : Tracks opened output (takenOf (seen ++ rest)) (heldAfter seen) state) :
    ∃ final, state.parseEvents uuid decode now rest =
        .ok (final, rest.map (emission opened output (takenOf (seen ++ rest)))) ∧
      Tracks opened output (takenOf (seen ++ rest)) (heldAfter (seen ++ rest)) final := by
  induction rest generalizing seen state with
  | nil =>
    rw [List.append_nil] at tracks ⊢
    exact ⟨state, rfl, tracks⟩
  | cons event rest ih =>
    obtain ⟨next, parsed, onward⟩ :=
      @tracks_step uuid decode now opened state output seen rest event plain interleaves tracks
    have regroup : seen ++ event :: rest = (seen ++ [event]) ++ rest := by simp
    rw [regroup] at interleaves onward parsed ⊢
    obtain ⟨final, later, ended⟩ := @ih next (seen ++ [event]) interleaves onward
    refine ⟨final, ?_, ended⟩
    rw [ResponsesStreamState.parseEvents, parsed]
    dsimp only
    rw [later]
    rfl

end Running
end Routectl.ResponsesApi
