import Routectl.Gemini.Collecting

/-! A Gemini answer streamed in any number of events against the same answer read whole:
where the two agree, and the two places they may part. -/
namespace Routectl.Gemini
open Library Schema

/-- What two calls are compared by: name, arguments and signature. -/
def callFacts (call : Json) : Option String × Option String × Option String :=
  (toolCallName call, toolCallArguments call, (call.field "thought_signature").bind Json.asStr)

/-- The same counts. -/
def SameCounts (first : Option UsageDelta) (second : Option Usage) : Prop :=
  first.bind UsageDelta.promptTokens = second.map Usage.promptTokens ∧
    first.bind UsageDelta.completionTokens = second.map Usage.completionTokens ∧
    first.bind UsageDelta.totalTokens = second.map Usage.totalTokens ∧
    first.bind UsageDelta.reasoningTokens = second.bind Usage.reasoningTokens ∧
    first.bind UsageDelta.cacheReadInputTokens = second.bind Usage.cacheReadInputTokens

/-- The chunks come to this choice of an answer, under these counts. -/
structure Matches (chunks : List ChatChunk) (choice : Choice) (usage : Option Usage) : Prop where
  text : contents chunks = choice.message.content.plainText
  details : Schema.details chunks = choice.message.reasoningDetails
  calls : (fragments chunks).map callFacts = (choice.message.toolCalls.getD []).map callFacts
  indices : (fragments chunks).map toolCallIndex = List.range (fragments chunks).length
  finish : (finishes chunks).map (fun finish => some finish.1) = [choice.finishReason]
  counts : SameCounts (usages chunks).getLast? usage
  role : roles chunks = [.assistant]

/-- The chunks come to the one choice of an answer. -/
def Agrees (chunks : List ChatChunk) (answer : ChatResponse) : Prop :=
  ∃ choice, answer.choices = [choice] ∧ Matches chunks choice answer.usage

/-- An event that does not end the turn. -/
def Goes (event : GenerateContentResponse) : Prop :=
  event.candidate.bind Candidate.finishReason = none ∧
    (event.candidate.isSome = true ∨ event.blockReason = none)

/-- The two say alike why the turn ended: a candidate with a reason, or a blocked prompt. -/
def EndsAlike (last response : GenerateContentResponse) : Prop :=
  (∃ reason, last.candidate.bind Candidate.finishReason = some reason ∧
      response.candidate.bind Candidate.finishReason = some reason) ∨
    (last.candidate = none ∧ last.blockReason.isSome = true) ∧
      response.candidate = none ∧ response.blockReason.isSome = true

/-- The events give the answer's parts in order and whole, the last of them its end, and the
last count reported by then is the answer's. -/
structure Spreads (response : GenerateContentResponse) (earlier : List GenerateContentResponse)
    (last : GenerateContentResponse) : Prop where
  goes : ∀ event ∈ earlier, Goes event
  parts : earlier.flatMap GenerateContentResponse.parts ++ last.parts = response.parts
  ends : EndsAlike last response
  usage : ((earlier ++ [last]).filterMap GenerateContentResponse.usageMetadata).getLast? =
    response.usageMetadata

/-- At most one visible text, those that come empty before it apart. -/
def OneText (parts : List ResponsePart) : Prop :=
  ((texts parts).dropWhile fun text => text = "").length ≤ 1

/-- The total is stated, or there is nothing to add up. -/
def TotalStated (usage : UsageMetadata) : Prop :=
  usage.totalTokenCount ≠ 0 ∨ usage.promptTokenCount = 0 ∧ usage.candidatesTokenCount = 0

section Streaming
variable {state : GeminiStreamState}

theorem chunksOf_ended {state : GeminiStreamState} (ended : state.terminalEmitted = true)
    (events : List GenerateContentResponse) : state.chunksOf events = [] := by
  induction events generalizing state with
  | nil => rfl
  | cons event rest ih =>
    have named : (state.identify event).terminalEmitted = true := ended
    have parsed : state.parseEvent event = (state.identify event, []) := by
      rw [GeminiStreamState.parseEvent]
      simp only [named, if_true]
    rw [GeminiStreamState.chunksOf, parsed]
    exact ih named

/-- The canonical stop that the end of an answer is read as. -/
def stopOf (event : GenerateContentResponse) (called : Bool) : Option String :=
  match event.candidate.bind Candidate.finishReason with
  | some reason => mapFinishReason (some reason) called
  | none => if event.candidate.isNone && event.blockReason.isSome then some "content_filter" else none

/-- What the chunks of a whole stream come to. -/
structure Comes (chunks : List ChatChunk) (named : List Role) (text : String)
    (reasoning : List ReasoningDetail) (called : List Json) (finish : String)
    (usage : Option UsageMetadata) : Prop where
  text : contents chunks = text
  details : Schema.details chunks = reasoning
  fragments : Schema.fragments chunks = called
  finish : finishes chunks = [(finish, none)]
  usages : Schema.usages chunks = (usage.map usageDelta).toList
  roles : roles chunks = named

theorem Adds.comes {first second : List ChatChunk} {text more finish : String}
    {reasoning reasoningMore : List ReasoningDetail} {called calledMore : List Json}
    {named : List Role} {usage : Option UsageMetadata} (adds : Adds first text reasoning called)
    (comes : Comes second named more reasoningMore calledMore finish usage) :
    Comes (first ++ second) named (text ++ more) (reasoning ++ reasoningMore)
      (called ++ calledMore) finish usage where
  text := by rw [contents_append, adds.text, comes.text]
  details := by rw [details_append, adds.details, comes.details]
  fragments := by rw [fragments_append, adds.fragments, comes.fragments]
  finish := by rw [finishes_append, adds.unfinished, comes.finish]; rfl
  usages := by rw [usages_append, adds.uncounted, comes.usages]; rfl
  roles := by rw [roles_append, adds.unnamed, comes.roles]; rfl

theorem terminal_comes (state : GeminiStreamState) (finish : String) (usage : Option UsageMetadata)
    (ownUsage : Bool) :
    Comes [state.terminalChunk (some finish) usage ownUsage] [] "" [] [] finish usage := by
  constructor <;>
    cases usage <;>
    simp [contents, details, fragments, finishes, usages, roles, GeminiStreamState.terminalChunk]

theorem opening_comes {chunks : List ChatChunk} {text finish : String}
    {reasoning : List ReasoningDetail} {called : List Json} {usage : Option UsageMetadata}
    (state : GeminiStreamState) (comes : Comes chunks [] text reasoning called finish usage) :
    Comes (state.opening.2 ++ chunks) (if state.roleEmitted then [] else [.assistant]) text reasoning
      called finish usage := by
  rw [GeminiStreamState.opening]
  cases state.roleEmitted with
  | true => exact comes
  | false =>
    obtain ⟨told, details, fragments, finishes, usages, roles⟩ := comes
    refine ⟨?_, ?_, ?_, ?_, ?_, ?_⟩
    · rw [← told]
      exact (contents_append _ chunks).trans (String.empty_append)
    · exact details
    · exact fragments
    · exact finishes
    · exact usages
    · exact (roles_append _ chunks).trans (congrArg _ roles)

variable {before : List ResponsePart} {event : GenerateContentResponse}

theorem Reading.opened (reading : Reading before state) (event : GenerateContentResponse) :
    Reading before (state.identify event).opening.1 ∧
      (state.identify event).opening.1.roleEmitted = true ∧
      (state.identify event).opening.1.cachedUsage = state.cachedUsage := by
  rw [GeminiStreamState.opening]
  split
  case isTrue emitted =>
    exact ⟨⟨reading.details, reading.called, reading.saw, reading.live⟩, emitted, rfl⟩
  case isFalse => exact ⟨⟨reading.details, reading.called, reading.saw, reading.live⟩, rfl, rfl⟩

/-- What an event gives before its end is looked at. -/
def told (state : GeminiStreamState) (event : GenerateContentResponse) :
    GeminiStreamState × List ChatChunk :=
  let (told, chunks) := (state.identify event).opening.1.partsChunks event.parts
  ({ told with cachedUsage := event.usageMetadata.or told.cachedUsage }, chunks)

theorem parseEvent_live (live : state.terminalEmitted = false) (event : GenerateContentResponse) :
    state.parseEvent event =
      (((told state event).1.closing event).1,
        (state.identify event).opening.2 ++
          ((told state event).2 ++ ((told state event).1.closing event).2)) := by
  have named : (state.identify event).terminalEmitted = false := live
  rw [GeminiStreamState.parseEvent]
  simp only [named, Bool.false_eq_true, if_false, List.append_assoc, told]

theorem told_adds (reading : Reading before state) (event : GenerateContentResponse)
    (room : (calls (before ++ event.parts)).length ≤ maxOutputBlocks) :
    Adds (told state event).2 (String.join (texts event.parts))
        (detailsFrom (thoughts before).length (thoughts event.parts))
        (streamedFrom (calls before).length (calls event.parts)) ∧
      Reading (before ++ event.parts) (told state event).1 ∧
      (told state event).1.roleEmitted = true ∧
      (told state event).1.cachedUsage = event.usageMetadata.or state.cachedUsage := by
  obtain ⟨opened, emitted, cached⟩ := reading.opened event
  obtain ⟨adds, reads, keeps⟩ := parts_add event.parts opened room
  refine ⟨adds, ⟨reads.details, reads.called, reads.saw, reads.live⟩, ?_, ?_⟩
  · exact keeps.role.trans emitted
  · exact congrArg event.usageMetadata.or (keeps.usage.trans cached)

theorem closing_goes (state : GeminiStreamState) (goes : Goes event) :
    state.closing event = (state, []) := by
  obtain ⟨unfinished, unblocked⟩ := goes
  rw [GeminiStreamState.closing, unfinished]
  rcases unblocked with there | none
  · simp [Option.isNone_eq_false_iff.mpr there]
  · simp [none]

theorem closing_ends (state : GeminiStreamState) {finish : String}
    (ends : stopOf event state.sawFunctionCall = some finish) :
    (state.closing event).1.terminalEmitted = true ∧
      Comes (state.closing event).2 [] "" [] [] finish state.cachedUsage := by
  rw [stopOf] at ends
  rw [GeminiStreamState.closing]
  cases reason : event.candidate.bind Candidate.finishReason with
  | some reason =>
    simp only [reason] at ends ⊢
    rw [ends]
    exact ⟨trivial, terminal_comes state finish _ _⟩
  | none =>
    simp only [reason] at ends ⊢
    split at ends
    case isTrue blocked =>
      rw [if_pos blocked]
      cases ends
      exact ⟨rfl, terminal_comes state _ _ _⟩
    case isFalse => cases ends

/-- A live stream up to its end, whatever trails behind it. -/
theorem stream_comes {earlier trailing : List GenerateContentResponse}
    {last : GenerateContentResponse} {finish : String} (reading : Reading before state)
    (goes : ∀ event ∈ earlier, Goes event)
    (room : (calls (before ++ (earlier.flatMap GenerateContentResponse.parts ++ last.parts))).length ≤
      maxOutputBlocks)
    (ends : stopOf last
      (!(calls (before ++ (earlier.flatMap GenerateContentResponse.parts ++ last.parts))).isEmpty) =
        some finish) :
    Comes (state.chunksOf (earlier ++ last :: trailing))
      (if state.roleEmitted then [] else [.assistant])
      (String.join (texts (earlier.flatMap GenerateContentResponse.parts ++ last.parts)))
      (detailsFrom (thoughts before).length
        (thoughts (earlier.flatMap GenerateContentResponse.parts ++ last.parts)))
      (streamedFrom (calls before).length
        (calls (earlier.flatMap GenerateContentResponse.parts ++ last.parts)))
      finish
      (((earlier ++ [last]).filterMap GenerateContentResponse.usageMetadata).getLast?.or
        state.cachedUsage) := by
  induction earlier generalizing before state with
  | nil =>
    simp only [List.flatMap_nil, List.nil_append] at room ends ⊢
    obtain ⟨adds, reads, -, cached⟩ := told_adds reading last room
    rw [← reads.saw] at ends
    obtain ⟨ended, comes⟩ := closing_ends (told state last).1 ends
    rw [GeminiStreamState.chunksOf, parseEvent_live reading.live]
    simp only [chunksOf_ended ended, List.append_nil]
    have whole := opening_comes (state.identify last) (adds.comes comes)
    rw [String.append_empty, List.append_nil, List.append_nil, cached] at whole
    have usage : ([last].filterMap GenerateContentResponse.usageMetadata).getLast? =
        last.usageMetadata := by
      cases counted : last.usageMetadata <;> simp [counted]
    rw [usage]
    exact whole
  | cons event rest ih =>
    have going := goes event List.mem_cons_self
    simp only [List.flatMap_cons, List.append_assoc] at room ends ⊢
    have first : (calls (before ++ event.parts)).length ≤ maxOutputBlocks := by
      rw [← List.append_assoc, calls_append, List.length_append] at room
      omega
    obtain ⟨adds, reads, emitted, cached⟩ := told_adds reading event first
    rw [← List.append_assoc] at room ends
    have comes := ih reads (fun other mem => goes other (List.mem_cons_of_mem _ mem)) room ends
    rw [emitted] at comes
    have whole := opening_comes (state.identify event) (adds.comes comes)
    rw [List.cons_append, GeminiStreamState.chunksOf, parseEvent_live reading.live,
      closing_goes _ going]
    simp only [List.append_nil, List.append_assoc]
    rw [texts_append, thoughts_append, calls_append, String.join_append, detailsFrom_append,
      streamedFrom_append]
    rw [thoughts_append, calls_append, List.length_append, List.length_append, cached] at whole
    have usage : ((event :: (rest ++ [last])).filterMap
          GenerateContentResponse.usageMetadata).getLast?.or state.cachedUsage =
        ((rest ++ [last]).filterMap GenerateContentResponse.usageMetadata).getLast?.or
          (event.usageMetadata.or state.cachedUsage) := by
      cases counted : event.usageMetadata with
      | none => simp [counted]
      | some usage =>
        rw [List.filterMap_cons_some counted, List.getLast?_cons]
        cases ((rest ++ [last]).filterMap GenerateContentResponse.usageMetadata).getLast? <;> simp
    rw [List.cons_append, usage]
    exact whole

end Streaming

section Texts

def joinLine (told text : String) : String := (if told = "" then told else told ++ "\n") ++ text

theorem joinLines_empties (texts : List String) :
    joinLines texts = joinLines (texts.dropWhile fun text => text = "") ∧
      String.join texts = String.join (texts.dropWhile fun text => text = "") := by
  induction texts with
  | nil => exact ⟨rfl, rfl⟩
  | cons text rest ih =>
    by_cases empty : text = ""
    · subst empty
      rw [List.dropWhile_cons_of_pos (by simp)]
      refine ⟨?_, ?_⟩
      · rw [← ih.1]
        rfl
      · rw [← ih.2, String.join_cons, String.empty_append]
    · rw [List.dropWhile_cons_of_neg (by simpa using empty)]
      exact ⟨rfl, rfl⟩

theorem joinLine_length (texts : List String) {told : String} (said : told ≠ "") :
    (texts.foldl joinLine told).length = told.length + (String.join texts).length + texts.length := by
  induction texts generalizing told with
  | nil => rfl
  | cons text rest ih =>
    have grown : joinLine told text = told ++ "\n" ++ text := by
      rw [joinLine, if_neg said]
    have still : joinLine told text ≠ "" := by
      intro empty
      have length := congrArg String.length (grown.symm.trans empty)
      rw [String.length_append, String.length_append] at length
      have line : "\n".length = 1 := rfl
      have none : "".length = 0 := rfl
      omega
    have line : "\n".length = 1 := rfl
    rw [List.foldl_cons, ih still, grown, String.length_append, String.length_append,
      String.join_cons, String.length_append, List.length_cons, line]
    omega

/-- The joined lines are the bare texts exactly where nothing is set apart. -/
theorem joinLines_eq_iff (texts : List String) :
    joinLines texts = String.join texts ↔
      (texts.dropWhile fun text => text = "").length ≤ 1 := by
  obtain ⟨lines, bare⟩ := joinLines_empties texts
  rw [lines, bare]
  have first := List.head?_dropWhile_not (fun text : String => decide (text = "")) texts
  cases kept : texts.dropWhile fun text => text = "" with
  | nil => exact iff_of_true rfl (Nat.zero_le _)
  | cons text rest =>
    rw [kept] at first
    have said : text ≠ "" := by
      intro empty
      rw [List.head?_cons, empty] at first
      cases first
    have length := joinLine_length rest said
    have start : joinLines (text :: rest) = rest.foldl joinLine text := by
      rw [joinLines, List.foldl_cons, if_pos rfl, String.empty_append]
      rfl
    constructor
    · intro same
      rw [start] at same
      rw [same, String.join_cons, String.length_append] at length
      rw [List.length_cons]
      omega
    · intro short
      rw [List.length_cons] at short
      have none : rest = [] := List.length_eq_zero_iff.mp (by omega)
      rw [start, none, String.join_cons]
      exact String.append_empty.symm

end Texts

section Whole
variable (callId : Nat → String)

theorem streamedCall_facts (call : (ResponsePart × ResponseFunctionCall) × Nat) :
    callFacts (streamedCall call) = callFacts (wholeCall callId call) := by
  obtain ⟨⟨part, function⟩, index⟩ := call
  cases signed : part.callSignature with
  | none =>
    simp only [streamedCall, wholeCall, signatureField, signed]
    rfl
  | some signature =>
    simp only [streamedCall, wholeCall, signatureField, signed]
    rfl

theorem streamedCall_index {call : (ResponsePart × ResponseFunctionCall) × Nat}
    (small : call.2 < maxOutputBlocks) : toolCallIndex (streamedCall call) = call.2 := by
  have index : (streamedCall call).field "index" = some (.number (toString call.2)) := rfl
  rw [maxOutputBlocks] at small
  rw [toolCallIndex, index, Option.bind_some, Json.asU64_toString (by omega)]
  rfl

theorem streamedFrom_indices {called : List (ResponsePart × ResponseFunctionCall)}
    (room : called.length ≤ maxOutputBlocks) :
    (streamedFrom 0 called).map toolCallIndex = List.range (streamedFrom 0 called).length := by
  rw [streamedFrom, List.length_map, List.length_zipIdx, List.map_map]
  have same : called.zipIdx.map (toolCallIndex ∘ streamedCall) = called.zipIdx.map Prod.snd := by
    apply List.map_congr_left
    intro call mem
    have below := List.snd_lt_of_mem_zipIdx mem
    exact streamedCall_index (by omega)
  rw [same, List.zipIdx_map_snd, List.range_eq_range']

theorem sameCounts_iff (usage : Option UsageMetadata) :
    SameCounts (usage.map usageDelta) (usage.map translateUsage) ↔
      ∀ counted, usage = some counted → TotalStated counted := by
  cases usage with
  | none => exact iff_of_true ⟨rfl, rfl, rfl, rfl, rfl⟩ nofun
  | some usage =>
    simp only [Option.some.injEq, forall_eq']
    have counts : SameCounts (some (usageDelta usage)) (some (translateUsage usage)) ↔
        usage.totalTokenCount = (translateUsage usage).totalTokens := by
      obtain ⟨prompt, completion, reasoning, cached, -, -⟩ :=
        ResponsesApi.deriveTotalIfAbsent_parts
          { promptTokens := usage.promptTokenCount
            completionTokens := usage.candidatesTokenCount
            totalTokens := usage.totalTokenCount
            reasoningTokens := (usageDelta usage).reasoningTokens
            cacheReadInputTokens := (usageDelta usage).cacheReadInputTokens }
      constructor
      · rintro ⟨-, -, total, -, -⟩
        exact Option.some.inj total
      · intro total
        exact ⟨congrArg some prompt.symm, congrArg some completion.symm, congrArg some total,
          reasoning.symm, cached.symm⟩
    have kept := ResponsesApi.deriveTotalIfAbsent_keeps_iff
      { promptTokens := usage.promptTokenCount
        completionTokens := usage.candidatesTokenCount
        totalTokens := usage.totalTokenCount
        reasoningTokens := (usageDelta usage).reasoningTokens
        cacheReadInputTokens := (usageDelta usage).cacheReadInputTokens }
    rw [Option.map_some, Option.map_some, counts, TotalStated]
    refine kept.trans ?_
    dsimp only
    omega

/-- What a whole answer is read as. -/
theorem translate_reads (mintedId : String) {response : GenerateContentResponse} {finish : String}
    (ends : stopOf response (!(calls response.parts).isEmpty) = some finish) :
    ∃ choice, (translate callId mintedId response).choices = [choice] ∧
      choice.message.content.plainText = joinLines (texts response.parts) ∧
      choice.message.reasoningDetails = detailsFrom 0 (thoughts response.parts) ∧
      choice.message.toolCalls.getD [] = (calls response.parts).zipIdx.map (wholeCall callId) ∧
      choice.finishReason = some finish := by
  have plain (text : String) :
      (if text = "" then MessageContent.null else .text text).plainText = text := by
    by_cases empty : text = ""
    · rw [if_pos empty, empty]
      rfl
    · rw [if_neg empty]
      rfl
  have called (listed : List Json) :
      (if listed.isEmpty = true then none else some listed).getD [] = listed := by
    cases listed <;> rfl
  rw [stopOf] at ends
  cases there : response.candidate with
  | none =>
    have empty : response.parts = [] := by
      rw [GenerateContentResponse.parts, there]
      rfl
    simp only [there, Option.bind_none, Option.isNone_none, Bool.true_and] at ends
    have blocked : response.blockReason.isSome = true := by
      by_contra unblocked
      rw [if_neg unblocked] at ends
      cases ends
    rw [if_pos blocked] at ends
    simp only [translate, there, empty, blocked, if_true]
    exact ⟨_, rfl, rfl, rfl, rfl, ends⟩
  | some candidate =>
    obtain ⟨text, details, toolCalls⟩ := walkParts_fields callId response.parts
    have sameCalls : (walkParts callId response.parts).toolCalls.isEmpty =
        (calls response.parts).isEmpty := by
      rw [toolCalls]
      cases calls response.parts <;> rfl
    simp only [translate, there]
    refine ⟨_, rfl, ?_, details, ?_, ?_⟩
    · rw [plain]
      exact text
    · rw [called]
      exact toolCalls
    · rw [sameCalls]
      simp only [there, Option.bind_some] at ends
      cases reason : candidate.finishReason with
      | some reason =>
        rw [reason] at ends
        exact ends
      | none =>
        rw [reason] at ends
        simp at ends

theorem stopOf_alike {last response : GenerateContentResponse} (ends : EndsAlike last response)
    (called : Bool) : ∃ finish, stopOf last called = some finish ∧ stopOf response called = some finish := by
  rcases ends with ⟨reason, final, whole⟩ | ⟨⟨absent, blocked⟩, none, reason⟩
  · have mapped : ∃ finish, mapFinishReason (some reason) called = some finish := by
      rw [mapFinishReason]
      repeat' split
      all_goals exact ⟨_, rfl⟩
    obtain ⟨finish, mapped⟩ := mapped
    refine ⟨finish, ?_, ?_⟩
    · rw [stopOf, final]
      exact mapped
    · rw [stopOf, whole]
      exact mapped
  · refine ⟨"content_filter", ?_, ?_⟩
    · simp [stopOf, absent, blocked]
    · simp [stopOf, none, reason]

/-- Streaming a Gemini answer agrees with reading it whole exactly where it has at most one
visible text and its total is stated. -/
theorem streaming_agrees_iff {response last : GenerateContentResponse}
    {earlier trailing : List GenerateContentResponse} (spreads : Spreads response earlier last)
    (room : (calls response.parts).length < maxOutputBlocks) (mintedId : String) :
    Agrees (GeminiStreamState.chunksOf {} (earlier ++ last :: trailing))
        (translate callId mintedId response) ↔
      OneText response.parts ∧ ∀ usage, response.usageMetadata = some usage → TotalStated usage := by
  obtain ⟨finish, ends, whole⟩ := stopOf_alike spreads.ends (!(calls response.parts).isEmpty)
  have started : Reading [] {} := ⟨rfl, rfl, rfl, rfl⟩
  have comes := @stream_comes {} [] earlier trailing last finish started spreads.goes
    (by rw [spreads.parts]; exact Nat.le_of_lt room) (by rw [spreads.parts]; exact ends)
  rw [spreads.parts, spreads.usage, Option.or_none] at comes
  obtain ⟨choice, choices, text, details, toolCalls, stop⟩ :=
    translate_reads callId mintedId whole
  have usage : (translate callId mintedId response).usage =
      response.usageMetadata.map translateUsage := by
    rw [translate]
  have counted : (usages (GeminiStreamState.chunksOf {} (earlier ++ last :: trailing))).getLast? =
      response.usageMetadata.map usageDelta := by
    rw [comes.usages]
    cases response.usageMetadata <;> rfl
  have texts : contents (GeminiStreamState.chunksOf {} (earlier ++ last :: trailing)) =
      choice.message.content.plainText ↔ OneText response.parts := by
    rw [comes.text, text, OneText, ← joinLines_eq_iff]
    exact eq_comm
  have counts := sameCounts_iff response.usageMetadata
  rw [← counted, ← usage] at counts
  constructor
  · rintro ⟨other, listed, matched⟩
    obtain rfl : other = choice := by
      rw [choices] at listed
      exact (List.cons.inj listed).1.symm
    exact ⟨texts.mp matched.text, counts.mp matched.counts⟩
  · rintro ⟨one, stated⟩
    refine ⟨choice, choices, texts.mpr one, ?_, ?_, ?_, ?_, counts.mpr stated, comes.roles⟩
    · rw [comes.details, details]
      rfl
    · rw [comes.fragments, toolCalls, streamedFrom, List.map_map, List.map_map]
      apply List.map_congr_left
      intro call _
      exact streamedCall_facts callId call
    · rw [comes.fragments]
      exact streamedFrom_indices (Nat.le_of_lt room)
    · rw [comes.finish, stop]
      rfl

/-- One visible text after a thought, over two events, with the total stated. -/
def thoughtPart : ResponsePart := { text := some "weigh it", thought := some true }

def plainPart (text : String) : ResponsePart := { text := some text }

def answerOf (parts : List ResponsePart) (total : Nat) : GenerateContentResponse where
  candidates := [{ content := some parts, finishReason := some "STOP" }]
  usageMetadata :=
    some { promptTokenCount := 3, candidatesTokenCount := 4, totalTokenCount := total }

def partOf (parts : List ResponsePart) : GenerateContentResponse where
  candidates := [{ content := some parts }]

theorem answer_spreads (first second : List ResponsePart) (total : Nat) :
    Spreads (answerOf (first ++ second) total) [partOf first] (answerOf second total) where
  goes := by
    intro event mem
    rw [List.mem_singleton.mp mem]
    exact ⟨rfl, .inl rfl⟩
  parts := by
    rw [List.flatMap_cons, List.flatMap_nil, List.append_nil]
    rfl
  ends := .inl ⟨"STOP", rfl, rfl⟩
  usage := rfl

theorem streaming_agrees_single :
    Agrees (GeminiStreamState.chunksOf {}
        ([partOf [thoughtPart]] ++ answerOf [plainPart "yes"] 7 :: []))
      (translate toString "id" (answerOf ([thoughtPart] ++ [plainPart "yes"]) 7)) := by
  apply (streaming_agrees_iff toString (answer_spreads [thoughtPart] [plainPart "yes"] 7)
    (by decide) "id").mpr
  refine ⟨Nat.le_refl 1, ?_⟩
  intro usage there
  cases there
  exact .inl (by decide)

/-- Two visible texts, and a total left out, told apart by the two readers. -/
theorem streaming_differs :
    (Spreads (answerOf ([plainPart "a"] ++ [plainPart "b"]) 7) [partOf [plainPart "a"]]
        (answerOf [plainPart "b"] 7) ∧
      contents (GeminiStreamState.chunksOf {}
        ([partOf [plainPart "a"]] ++ answerOf [plainPart "b"] 7 :: [])) = "ab" ∧
      ((translate toString "id" (answerOf ([plainPart "a"] ++ [plainPart "b"]) 7)).choices.map
        fun choice => choice.message.content.plainText) = ["a\nb"]) ∧
    Spreads (answerOf ([] ++ [plainPart "a"]) 0) [partOf []] (answerOf [plainPart "a"] 0) ∧
      ((usages (GeminiStreamState.chunksOf {}
        ([partOf []] ++ answerOf [plainPart "a"] 0 :: []))).map UsageDelta.totalTokens) = [some 0] ∧
      (translate toString "id" (answerOf ([] ++ [plainPart "a"]) 0)).usage.map Usage.totalTokens =
        some 7 :=
  ⟨⟨answer_spreads _ _ _, rfl, rfl⟩, answer_spreads _ _ _, rfl, rfl⟩

end Whole
end Routectl.Gemini
