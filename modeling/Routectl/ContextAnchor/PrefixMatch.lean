import Mathlib.Data.Set.Function
import Routectl.ContextAnchor.Digest
import Routectl.Library.JsonText

/-! What a matching prefix digest says: the request extends the history that was hashed. -/
namespace Routectl.ContextAnchor
open Library
open Routectl.Trim (CacheControl KnownContentPart ContentPart MessageContent Message optional
  cacheField)

section Unmarked
variable {message : Message} {block : Json} {part : ContentPart}

theorem withoutCacheControl_unmarked (unmarked : block.field "cache_control" = none) :
    withoutCacheControl block = block := by
  cases block with
  | object fields =>
    have kept : fields.filter (fun entry => entry.1 ≠ "cache_control") = fields := by
      rw [List.filter_eq_self]
      intro entry member
      have missing : fields.lookup "cache_control" = none := unmarked
      rw [List.lookup_eq_none_iff] at missing
      have other : "cache_control" ≠ entry.1 := by
        simpa using missing entry member
      simpa using other.symm
    exact congrArg Json.object kept
  | _ => rfl

theorem resultWithoutMarkers_unmarked {toolUseId : String} {content : Json}
    {isError : Option Bool} {control : Option CacheControl}
    (plain : nestedResultMarker (.known (.toolResult toolUseId content isError control)) = false) :
    resultWithoutMarkers content = content := by
  cases content with
  | array inner =>
    refine congrArg Json.array ((List.map_congr_left fun block member => ?_).trans
      (List.map_id' inner))
    rw [nestedResultMarker, List.any_eq_false] at plain
    have unmarked := plain block member
    unfold blockWithoutMarker
    split
    case isTrue typed =>
      apply withoutCacheControl_unmarked
      simpa [typed] using unmarked
    case isFalse => rfl
  | _ => rfl

/-- The fast path writes what the other would. -/
theorem partWithoutMarkers_unmarked (strippable : partAnnotationIsStrippable part = false)
    (nested : nestedResultMarker part = false) : partWithoutMarkers part = part := by
  cases part with
  | known known =>
    have unmarked : knownCacheControl known = none := by
      simpa [partAnnotationIsStrippable] using strippable
    refine congrArg ContentPart.known ?_
    cases known
    case toolResult =>
      cases unmarked
      rw [knownWithoutMarkers, resultWithoutMarkers_unmarked nested]
    all_goals first | rfl | (cases unmarked; rfl)
  | other typeTag control extras =>
    rw [partWithoutMarkers]
    split
    case isTrue annotated =>
      rw [partAnnotationIsStrippable, annotated, Bool.and_true] at strippable
      rw [Option.isSome_eq_false_iff.mp strippable |> Option.isNone_iff_eq_none.mp]
    case isFalse => rfl

theorem withoutMarkers_unmarked (unmarked : carriesCacheMarker message = false) :
    withoutMarkers message = message := by
  obtain ⟨role, content, reasoning, reasoningDetails, name, toolCallId, toolCalls, refusal⟩ :=
    message
  cases content with
  | parts parts =>
    have same : parts.map partWithoutMarkers = parts := by
      refine (List.map_congr_left fun part member => ?_).trans (List.map_id' parts)
      simp only [carriesCacheMarker, List.any_eq_false, Bool.or_eq_true, not_or,
        Bool.not_eq_true] at unmarked
      exact partWithoutMarkers_unmarked (unmarked part member).1 (unmarked part member).2
    simp only [withoutMarkers, same]
  | _ => rfl

end Unmarked

section Streams
variable {sha256 : List UInt8 → PrefixDigest} {req : ChatRequest} {sink : HashSink}
variable {message : Message} {messages : List Message}

def lineOf (value : Json) : List Char := value.compact ++ ['\n']

def messageLine (message : Message) : List Char := lineOf (withoutMarkers message).toJson

/-- The normalized text of the fields and the first `count` messages. -/
def streamText (req : ChatRequest) (count : Nat) : List Char :=
  streamVersion ++ lineOf (stableFields req) ++ (req.messages.take count).flatMap messageLine

def stream (req : ChatRequest) (count : Nat) : List UInt8 := Json.encoded (streamText req count)

theorem fed_writeValue (sink : HashSink) (value : Json) :
    (writeValue sink value).fed = sink.fed ++ Json.encoded (lineOf value) := by
  rw [lineOf, Json.encoded_append, ← List.append_assoc]
  rfl

/-- Both paths write the message without its markers. -/
theorem writeMessage_eq (sink : HashSink) (message : Message) :
    writeMessage sink message = writeValue sink (withoutMarkers message).toJson := by
  unfold writeMessage
  split
  case isTrue => rfl
  case isFalse plain => rw [withoutMarkers_unmarked (by simpa using plain)]

theorem fed_writeMessage (sink : HashSink) (message : Message) :
    (writeMessage sink message).fed = sink.fed ++ Json.encoded (messageLine message) := by
  rw [writeMessage_eq, fed_writeValue, messageLine]

theorem fed_writeMessages (prefixLen : Option Nat) (messages : List Message) (index : Nat)
    (sink : HashSink) (prefix_ : Option PrefixDigest) :
    (writeMessages sha256 prefixLen messages index sink prefix_).1.fed =
      sink.fed ++ Json.encoded (messages.flatMap messageLine) := by
  induction messages generalizing index sink prefix_ with
  | nil => exact (List.append_nil _).symm
  | cons message rest ih =>
    rw [writeMessages, ih, fed_writeMessage, List.flatMap_cons, Json.encoded_append,
      List.append_assoc]

/-- The prefix digest is taken when the walk has passed as many messages. -/
theorem prefix_writeMessages (place index : Nat) (sink : HashSink)
    (prefix_ : Option PrefixDigest) :
    (writeMessages sha256 (some place) messages index sink prefix_).2 =
      if index ≤ place ∧ place < index + messages.length then
        some (sha256 (sink.fed ++
          Json.encoded ((messages.take (place - index)).flatMap messageLine)))
      else prefix_ := by
  induction messages generalizing index sink prefix_ with
  | nil =>
    rw [if_neg]
    · rfl
    · simp only [List.length_nil]
      omega
  | cons message rest ih =>
    rw [writeMessages, ih, List.length_cons]
    by_cases here : place = index
    · subst here
      rw [if_neg (by omega), if_pos rfl, if_pos (by omega), Nat.sub_self]
      rw [List.take_zero, List.flatMap_nil]
      exact congrArg (fun fed => some (sha256 fed)) (List.append_nil _).symm
    · rw [if_neg fun same => here (Option.some.inj same)]
      by_cases later : index + 1 ≤ place ∧ place < index + 1 + rest.length
      · rw [if_pos later, if_pos (by omega), fed_writeMessage]
        obtain ⟨count, rfl⟩ := Nat.exists_eq_add_of_le later.1
        rw [show index + 1 + count - (index + 1) = count by omega,
          show index + 1 + count - index = count + 1 by omega, List.take_succ_cons,
          List.flatMap_cons, Json.encoded_append, List.append_assoc]
      · rw [if_neg later, if_neg (by omega)]

def opened (req : ChatRequest) : HashSink :=
  writeValue (HashSink.feed {} (Json.encoded streamVersion)) (stableFields req)

theorem fed_opened (req : ChatRequest) :
    (opened req).fed = Json.encoded (streamVersion ++ lineOf (stableFields req)) := by
  rw [opened, fed_writeValue, Json.encoded_append]
  rfl

theorem stream_eq (req : ChatRequest) (count : Nat) :
    stream req count =
      (opened req).fed ++ Json.encoded ((req.messages.take count).flatMap messageLine) := by
  rw [fed_opened, ← Json.encoded_append]
  rfl

theorem streamDigests_full (req : ChatRequest) (prefixLen : Option Nat) :
    (streamDigests sha256 req prefixLen).1 = sha256 (stream req req.messages.length) := by
  rw [stream_eq, List.take_length,
    ← @fed_writeMessages sha256 prefixLen req.messages 0 (opened req) none]
  rfl

theorem streamDigests_prefix (req : ChatRequest) {count : Nat}
    (held : count ≤ req.messages.length) :
    (streamDigests sha256 req (some count)).2.1 = some (sha256 (stream req count)) := by
  have walked := @prefix_writeMessages sha256 req.messages count 0 (opened req) none
  rw [Nat.sub_zero, ← stream_eq, Nat.zero_add] at walked
  by_cases whole : count = req.messages.length
  · subst whole
    refine (if_pos rfl).trans (congrArg some ?_)
    exact streamDigests_full req (some req.messages.length)
  · rw [if_pos ⟨Nat.zero_le count, Nat.lt_of_le_of_ne held whole⟩] at walked
    exact (if_neg fun same => whole (Option.some.inj same)).trans walked

theorem measure_digest (req : ChatRequest) (prior : Option Nat) :
    (RequestIdentity.measure sha256 req prior).digest =
      some (sha256 (stream req req.messages.length)) :=
  congrArg some (streamDigests_full req _)

theorem measure_priorPrefix (req : ChatRequest) (count : Nat) :
    (RequestIdentity.measure sha256 req (some count)).priorPrefix =
      if count ≤ req.messages.length then some (count, sha256 (stream req count)) else none := by
  have asked : (RequestIdentity.measure sha256 req (some count)).priorPrefix =
      ((some count).filter (· ≤ req.messages.length)).bind fun place =>
        (streamDigests sha256 req ((some count).filter (· ≤ req.messages.length))).2.1.map
          fun digest => (place, digest) := rfl
  rw [asked]
  by_cases held : count ≤ req.messages.length
  · rw [Option.filter_some_pos (by simpa using held), if_pos held, Option.bind_some,
      streamDigests_prefix req held]
    rfl
  · rw [Option.filter_some_neg (by simpa using held), if_neg held]
    rfl

/-- Requests whose normalized values are the same are measured the same. -/
theorem writeMessages_congr {others : List Message} (prefixLen : Option Nat) (index : Nat)
    (sink : HashSink) (prefix_ : Option PrefixDigest)
    (same : messages.map (fun message => (withoutMarkers message).toJson) =
      others.map fun message => (withoutMarkers message).toJson) :
    writeMessages sha256 prefixLen messages index sink prefix_ =
      writeMessages sha256 prefixLen others index sink prefix_ := by
  induction messages generalizing others index sink prefix_ with
  | nil =>
    cases others with
    | nil => rfl
    | cons => cases same
  | cons message rest ih =>
    cases others with
    | nil => cases same
    | cons other others =>
      have head : (withoutMarkers message).toJson = (withoutMarkers other).toJson :=
        (List.cons.inj same).1
      rw [writeMessages, writeMessages, writeMessage_eq, writeMessage_eq, head]
      exact ih _ _ _ (List.cons.inj same).2

theorem measure_congr {first second : ChatRequest} (prior : Option Nat)
    (fields : stableFields first = stableFields second)
    (same : first.messages.map (fun message => (withoutMarkers message).toJson) =
      second.messages.map fun message => (withoutMarkers message).toJson) :
    RequestIdentity.measure sha256 first prior = RequestIdentity.measure sha256 second prior := by
  have counts := congrArg List.length same
  rw [List.length_map, List.length_map] at counts
  have walked (prefixLen : Option Nat) :
      streamDigests sha256 first prefixLen = streamDigests sha256 second prefixLen := by
    unfold streamDigests
    dsimp only
    rw [fields, counts, writeMessages_congr prefixLen 0 _ none same]
  unfold RequestIdentity.measure digestRequest
  dsimp only
  rw [counts, walked]

end Streams

section Remarking

def SystemContent.withoutMarkers : SystemContent → SystemContent
  | .text body => .text body
  | .blocks held => .blocks (held.map fun block => { block with cacheControl := none })

def ToolDef.withoutMarkers : ToolDef → ToolDef
  | .custom tool => .custom { tool with cacheControl := none }
  | .other value => .other value

/-- The request without the markers at the positions that are recognized. -/
def ChatRequest.withoutMarkers (req : ChatRequest) : ChatRequest :=
  { req with
    messages := req.messages.map ContextAnchor.withoutMarkers
    system := req.system.map SystemContent.withoutMarkers
    tools := req.tools.map (·.map ToolDef.withoutMarkers) }

theorem withoutCacheControl_cacheField (control : Option CacheControl)
    (fields : List (String × Json)) :
    withoutCacheControl (.object (cacheField control ++ fields)) =
      withoutCacheControl (.object fields) := by
  cases control with
  | none => rfl
  | some control => rfl

theorem systemBlockValue_unmarked (block : SystemBlock) :
    systemBlockValue { block with cacheControl := none } = systemBlockValue block := by
  unfold systemBlockValue SystemBlock.toJson
  rw [List.append_assoc, List.append_assoc, withoutCacheControl_cacheField,
    withoutCacheControl_cacheField]

theorem toolValue_unmarked (tool : ToolDef) : toolValue tool.withoutMarkers = toolValue tool := by
  cases tool with
  | custom tool =>
    unfold ToolDef.withoutMarkers toolValue CustomTool.toJson
    simp only [List.append_assoc, withoutCacheControl_cacheField]
  | other value => rfl

theorem systemValue_unmarked (system : SystemContent) :
    systemValue system.withoutMarkers = systemValue system := by
  cases system with
  | text text => rfl
  | blocks blocks =>
    unfold SystemContent.withoutMarkers systemValue
    dsimp only
    rw [List.filter_map, List.map_map]
    have same : (systemBlockValue ∘ fun block : SystemBlock =>
        { block with cacheControl := none }) = systemBlockValue :=
      funext systemBlockValue_unmarked
    rw [same]
    rfl

theorem stableFields_unmarked (req : ChatRequest) :
    stableFields req.withoutMarkers = stableFields req := by
  have systems : req.withoutMarkers.system.bind systemValue = req.system.bind systemValue := by
    cases held : req.system with
    | none => simp [ChatRequest.withoutMarkers, held]
    | some system => simp [ChatRequest.withoutMarkers, held, systemValue_unmarked]
  have tools : (req.withoutMarkers.tools.map fun tools => Json.array (tools.map toolValue)) =
      req.tools.map fun tools => Json.array (tools.map toolValue) := by
    cases held : req.tools with
    | none => simp [ChatRequest.withoutMarkers, held]
    | some tools =>
      simp [ChatRequest.withoutMarkers, held, Function.comp_def, toolValue_unmarked]
  unfold stableFields
  rw [systems, tools]
  rfl

theorem withoutCacheControl_twice (block : Json) :
    withoutCacheControl (withoutCacheControl block) = withoutCacheControl block := by
  cases block with
  | object fields =>
    refine congrArg Json.object (List.filter_eq_self.mpr fun entry member => ?_)
    exact (List.mem_filter.mp member).2
  | _ => rfl

theorem lookup_filter_ne {fields : List (String × Json)} {name other : String}
    (different : other ≠ name) :
    (fields.filter fun entry => entry.1 ≠ name).lookup other = fields.lookup other := by
  induction fields with
  | nil => rfl
  | cons entry rest ih =>
    obtain ⟨key, value⟩ := entry
    by_cases removed : key = name
    · subst removed
      rw [List.filter_cons_of_neg (by simp), ih, List.lookup_cons, beq_eq_false_iff_ne.mpr different]
    · rw [List.filter_cons_of_pos (by simpa using removed), List.lookup_cons, List.lookup_cons, ih]

theorem isToolResultBlock_unmarked (block : Json) :
    isToolResultBlock (withoutCacheControl block) = isToolResultBlock block := by
  cases block with
  | object fields =>
    have typed : (withoutCacheControl (.object fields)).field "type" =
        (Json.object fields).field "type" := lookup_filter_ne (by decide)
    rw [isToolResultBlock, isToolResultBlock, typed]
  | _ => rfl

theorem blockWithoutMarker_twice (block : Json) :
    blockWithoutMarker (blockWithoutMarker block) = blockWithoutMarker block := by
  by_cases typed : isToolResultBlock block = true
  · have stripped : blockWithoutMarker block = withoutCacheControl block := if_pos typed
    rw [stripped, blockWithoutMarker, isToolResultBlock_unmarked, if_pos typed,
      withoutCacheControl_twice]
  · have kept : blockWithoutMarker block = block := if_neg typed
    rw [kept, kept]

theorem resultWithoutMarkers_twice (content : Json) :
    resultWithoutMarkers (resultWithoutMarkers content) = resultWithoutMarkers content := by
  cases content with
  | array inner =>
    unfold resultWithoutMarkers
    dsimp only
    rw [List.map_map]
    exact congrArg Json.array (List.map_congr_left fun block _ => blockWithoutMarker_twice block)
  | _ => rfl

theorem partWithoutMarkers_twice (part : ContentPart) :
    partWithoutMarkers (partWithoutMarkers part) = partWithoutMarkers part := by
  cases part with
  | known known =>
    refine congrArg ContentPart.known ?_
    cases known
    case toolResult toolUseId content isError control =>
      simp only [knownWithoutMarkers, resultWithoutMarkers_twice]
    all_goals rfl
  | other typeTag control extras =>
    by_cases annotated : annotatedPassthroughBlocks.contains typeTag = true
    · rw [partWithoutMarkers, if_pos annotated, partWithoutMarkers, if_pos annotated]
    · rw [partWithoutMarkers, if_neg annotated, partWithoutMarkers, if_neg annotated]

theorem withoutMarkers_twice (message : Message) :
    withoutMarkers (withoutMarkers message) = withoutMarkers message := by
  obtain ⟨role, content, reasoning, reasoningDetails, name, toolCallId, toolCalls, refusal⟩ :=
    message
  cases content with
  | parts parts =>
    have same : (parts.map partWithoutMarkers).map partWithoutMarkers =
        parts.map partWithoutMarkers := by
      rw [List.map_map]
      exact List.map_congr_left fun part _ => partWithoutMarkers_twice part
    simp only [withoutMarkers, same]
  | _ => rfl

/-- Where the markers stand, or whether they do, changes nothing that is measured. -/
theorem measure_withoutMarkers {sha256 : List UInt8 → PrefixDigest} (req : ChatRequest)
    (prior : Option Nat) :
    RequestIdentity.measure sha256 req.withoutMarkers prior =
      RequestIdentity.measure sha256 req prior := by
  apply measure_congr prior (stableFields_unmarked req)
  rw [ChatRequest.withoutMarkers, List.map_map]
  refine List.map_congr_left fun message _ => ?_
  exact congrArg Message.toJson (withoutMarkers_twice message)

end Remarking

section Extending
variable {sha256 : List UInt8 → PrefixDigest}

/-- A request whose numbers are written as numbers. -/
structure NumericRequest extends ChatRequest where
  fieldsNumeric : (stableFields toChatRequest).numeric = true
  messagesNumeric : ∀ message ∈ messages, (withoutMarkers message).toJson.numeric = true

/-- The fields that shape the prompt agree, an absent value being null. -/
structure Agreeing (first second : ChatRequest) : Prop where
  model : first.model = second.model
  system : first.system.bind systemValue = second.system.bind systemValue
  tools : first.tools.map (·.map toolValue) = second.tools.map (·.map toolValue)
  toolChoice : orNull first.toolChoice = orNull second.toolChoice
  responseFormat : orNull first.responseFormat = orNull second.responseFormat
  reasoning : first.reasoning.map ReasoningConfig.toJson =
    second.reasoning.map ReasoningConfig.toJson
  anthropicBeta : first.anthropicBeta = second.anthropicBeta
  chatTemplateKwargs : orNull first.chatTemplateKwargs = orNull second.chatTemplateKwargs
  providerExtras : orNull first.providerExtras = orNull second.providerExtras

theorem orNull_injective {first second : Option Json} (present : first ≠ some .null)
    (presentToo : second ≠ some .null) (same : orNull first = orNull second) : first = second := by
  cases first with
  | none =>
    cases second with
    | none => rfl
    | some value =>
      have null : Json.null = value := same
      exact absurd (congrArg some null.symm) presentToo
  | some value =>
    cases second with
    | none =>
      have null : value = Json.null := same
      exact absurd (congrArg some null) present
    | some other => exact congrArg some same

theorem systemValue_ne_null (system : Option SystemContent) :
    system.bind systemValue ≠ some .null := by
  cases system with
  | none => exact nofun
  | some system =>
    cases system with
    | text body =>
      simp only [Option.bind_some, systemValue]
      split <;> exact nofun
    | blocks blocks =>
      simp only [Option.bind_some, systemValue]
      split <;> exact nofun

theorem stableFields_eq_iff (first second : ChatRequest) :
    stableFields first = stableFields second ↔ Agreeing first second := by
  constructor
  · intro same
    have fields := Json.object.inj same
    simp only [List.cons.injEq, Prod.mk.injEq, true_and, and_true, Json.array.injEq,
      Json.string.injEq] at fields
    obtain ⟨betas, kwargs, model, extras, reasoning, format, system, choice, tools⟩ := fields
    constructor
    · exact model
    · exact orNull_injective (systemValue_ne_null _) (systemValue_ne_null _) system
    · have held := orNull_injective (by simp) (by simp) tools
      apply Option.map_injective (fun _ _ => Json.array.inj)
      rw [Option.map_map, Option.map_map]
      exact held
    · exact choice
    · exact format
    · exact orNull_injective (by simp [ReasoningConfig.toJson]) (by simp [ReasoningConfig.toJson])
        reasoning
    · exact List.map_injective_iff.mpr (fun _ _ => Json.string.inj) betas
    · exact kwargs
    · exact extras
  · intro agreeing
    obtain ⟨model, system, tools, choice, format, reasoning, betas, kwargs, extras⟩ := agreeing
    have arrays : (first.tools.map fun tools => Json.array (tools.map toolValue)) =
        second.tools.map fun tools => Json.array (tools.map toolValue) := by
      have held := congrArg (Option.map Json.array) tools
      rwa [Option.map_map, Option.map_map] at held
    unfold stableFields
    rw [model, system, arrays, choice, format, reasoning, betas, kwargs, extras]

theorem lineOf_cancel {first second : Json} {rest more : List Char}
    (plain : first.numeric = true) (plainToo : second.numeric = true)
    (same : lineOf first ++ rest = lineOf second ++ more) : first = second ∧ rest = more := by
  rw [lineOf, lineOf, List.append_assoc, List.append_assoc] at same
  obtain ⟨values, tails⟩ := Json.compact_told first plain second _ _ plainToo
    (Json.stops_cons rest (by decide)) (Json.stops_cons more (by decide)) same
  exact ⟨values, (List.cons.inj tails).2⟩

/-- As many lines on both sides are the same values line by line. -/
theorem lines_injective {values others : List Json}
    (plain : ∀ value ∈ values, value.numeric = true)
    (plainToo : ∀ value ∈ others, value.numeric = true) (counts : values.length = others.length)
    (same : values.flatMap lineOf = others.flatMap lineOf) : values = others := by
  induction values generalizing others with
  | nil => exact (List.length_eq_zero_iff.mp counts.symm).symm
  | cons value rest ih =>
    cases others with
    | nil => cases counts
    | cons other others =>
      rw [List.flatMap_cons, List.flatMap_cons] at same
      obtain ⟨rfl, tails⟩ := lineOf_cancel (plain value List.mem_cons_self)
        (plainToo other List.mem_cons_self) same
      have later := ih (fun item member => plain item (List.mem_cons_of_mem value member))
        (fun item member => plainToo item (List.mem_cons_of_mem value member))
        (Nat.succ.inj counts) tails
      rw [later]

def normalized (messages : List Message) : List Json :=
  messages.map fun message => (withoutMarkers message).toJson

theorem flatMap_messageLine (messages : List Message) :
    messages.flatMap messageLine = (normalized messages).flatMap lineOf := by
  rw [normalized, List.flatMap_map]
  rfl

theorem NumericRequest.normalized_numeric (req : NumericRequest) (count : Nat) :
    ∀ value ∈ normalized (req.messages.take count), value.numeric = true := by
  intro value member
  obtain ⟨message, inside, rfl⟩ := List.mem_map.mp member
  exact req.messagesNumeric message (List.mem_of_mem_take inside)

/-- A stream of so many messages is read back into its fields and its messages. -/
theorem stream_injective (first second : NumericRequest) {count : Nat}
    (held : count ≤ first.messages.length) (heldToo : count ≤ second.messages.length)
    (same : stream first.toChatRequest count = stream second.toChatRequest count) :
    stableFields first.toChatRequest = stableFields second.toChatRequest ∧
      normalized (first.messages.take count) = normalized (second.messages.take count) := by
  have texts := Json.encoded_injective same
  rw [streamText, streamText, List.append_assoc, List.append_assoc] at texts
  obtain ⟨fields, tails⟩ := lineOf_cancel first.fieldsNumeric second.fieldsNumeric
    (List.append_cancel_left texts)
  refine ⟨fields, ?_⟩
  rw [flatMap_messageLine, flatMap_messageLine] at tails
  apply lines_injective (first.normalized_numeric count) (second.normalized_numeric count) _ tails
  simp only [normalized, List.length_map, List.length_take]
  omega

/-- The second request starts with the first's history and shapes its prompt the same way. -/
structure Extends (first second : ChatRequest) : Prop where
  longer : first.messages.length ≤ second.messages.length
  fields : Agreeing first second
  history : (second.messages.take first.messages.length).map
      (fun message => (withoutMarkers message).toJson.compact) =
    first.messages.map fun message => (withoutMarkers message).toJson.compact

/-- The two streams that are compared do not share a digest without being the same. -/
def CollisionFree (sha256 : List UInt8 → PrefixDigest) (first second : ChatRequest)
    (count : Nat) : Prop :=
  Set.InjOn sha256 {stream first count, stream second count}

theorem normalized_compact {messages others : List Message}
    (plain : ∀ value ∈ normalized messages, value.numeric = true)
    (plainToo : ∀ value ∈ normalized others, value.numeric = true) :
    messages.map (fun message => (withoutMarkers message).toJson.compact) =
        others.map (fun message => (withoutMarkers message).toJson.compact) ↔
      normalized messages = normalized others := by
  have texts (held : List Message) : held.map
      (fun message => (withoutMarkers message).toJson.compact) =
        (normalized held).map Json.compact := by
    rw [normalized, List.map_map]
    rfl
  rw [texts, texts]
  constructor
  · intro same
    have counts := congrArg List.length same
    have lines := congrArg (List.flatMap (· ++ ['\n'])) same
    rw [List.length_map, List.length_map] at counts
    rw [List.flatMap_map, List.flatMap_map] at lines
    exact lines_injective plain plainToo counts lines
  · exact congrArg (List.map Json.compact)

theorem stream_congr {first second : ChatRequest} {count : Nat}
    (fields : stableFields first = stableFields second)
    (same : normalized (first.messages.take count) = normalized (second.messages.take count)) :
    stream first count = stream second count := by
  rw [stream, stream, streamText, streamText, fields, flatMap_messageLine, flatMap_messageLine,
    same]

/-- The digest of a prefix matches just where the request extends the history, and no marker at
a recognized position changes what is measured. -/
theorem prefix_matches_iff_extends (sha256 : List UInt8 → PrefixDigest)
    (first second : NumericRequest) (prior : Option Nat) :
    (CollisionFree sha256 first.toChatRequest second.toChatRequest first.messages.length →
      ((RequestIdentity.measure sha256 second.toChatRequest
          (some first.messages.length)).priorPrefix =
        (RequestIdentity.measure sha256 first.toChatRequest prior).digest.map
          (fun digest => (first.messages.length, digest)) ↔
      Extends first.toChatRequest second.toChatRequest)) ∧
    (first.toChatRequest.withoutMarkers = second.toChatRequest.withoutMarkers →
      RequestIdentity.measure sha256 first.toChatRequest prior =
        RequestIdentity.measure sha256 second.toChatRequest prior) := by
  constructor
  · intro collisionFree
    rw [measure_priorPrefix, measure_digest, Option.map_some]
    have plain := first.normalized_numeric first.messages.length
    have plainToo := second.normalized_numeric first.messages.length
    rw [List.take_length] at plain
    by_cases longer : first.messages.length ≤ second.messages.length
    · rw [if_pos longer]
      constructor
      · intro matched
        have digests := (Prod.mk.inj (Option.some.inj matched)).2
        have streams := collisionFree (Or.inr rfl) (Or.inl rfl) digests
        obtain ⟨fields, history⟩ := stream_injective first second le_rfl longer streams.symm
        rw [List.take_length] at history
        exact ⟨longer, (stableFields_eq_iff _ _).mp fields,
          (normalized_compact plainToo plain).mpr history.symm⟩
      · intro extended
        have history := (normalized_compact plainToo plain).mp extended.history
        have fields := (stableFields_eq_iff _ _).mpr extended.fields
        have streams := @stream_congr second.toChatRequest first.toChatRequest
          first.messages.length fields.symm (by rw [List.take_length]; exact history)
        rw [streams]
    · rw [if_neg longer]
      exact iff_of_false nofun fun extended => longer extended.longer
  · intro unmarked
    rw [← measure_withoutMarkers, unmarked, measure_withoutMarkers]

end Extending

section Turns

def spoken (control : Option CacheControl) : Message where
  role := .user
  content := .parts [.known (.text "hi" none control)]

def opening : NumericRequest where
  model := "m"
  messages := [spoken none]
  fieldsNumeric := by decide
  messagesNumeric := by decide

/-- The next turn, its history marked and an answer after it. -/
def following : NumericRequest where
  model := "m"
  messages := [spoken (some ⟨"ephemeral", none⟩), { role := .assistant, content := .text "yes" }]
  fieldsNumeric := by decide
  messagesNumeric := by decide

/-- The digest of the opening's stream, none of any other. -/
def openingDigest : PrefixDigest :=
  ⟨[244, 21, 250, 52, 31, 66, 239, 85, 124, 239, 216, 246, 10, 6, 97, 184,
    98, 35, 115, 195, 26, 106, 50, 238, 252, 7, 81, 102, 175, 151, 76, 234], rfl⟩

def openingSha256 (bytes : List UInt8) : PrefixDigest :=
  if bytes = stream opening.toChatRequest 1 then openingDigest else List.Vector.replicate 32 0

theorem opening_is_extended :
    (RequestIdentity.measure openingSha256 following.toChatRequest (some 1)).priorPrefix =
      (RequestIdentity.measure openingSha256 opening.toChatRequest none).digest.map
        fun digest => (1, digest) := by
  have streams : stream following.toChatRequest 1 = stream opening.toChatRequest 1 := rfl
  apply ((prefix_matches_iff_extends openingSha256 opening following none).1 ?_).mpr
  · refine ⟨by decide, ?_, rfl⟩
    constructor
    all_goals rfl
  · intro bytes member others also _
    rw [show opening.messages.length = 1 from rfl, streams] at member also
    rw [Set.pair_eq_singleton] at member also
    exact Eq.trans member also.symm

/-- A text and a block that is not modelled, each with the marker it is given. -/
def searched (spoken found : Option CacheControl) : ChatRequest where
  model := "m"
  messages := [{
    role := .user
    content := .parts [.known (.text "hi" none spoken), .other "web_search" found []] }]

/-- A marker that moves to a block that is not modelled changes the digest. -/
theorem passthrough_marker_is_hashed :
    ¬ ∃ sha256 : List UInt8 → PrefixDigest,
      CollisionFree sha256 (searched (some ⟨"ephemeral", none⟩) none)
          (searched none (some ⟨"ephemeral", none⟩)) 1 ∧
        (RequestIdentity.measure sha256 (searched (some ⟨"ephemeral", none⟩) none) none).digest =
          (RequestIdentity.measure sha256
            (searched none (some ⟨"ephemeral", none⟩)) none).digest := by
  rintro ⟨sha256, collisionFree, same⟩
  rw [measure_digest, measure_digest] at same
  have streams := collisionFree (Or.inl rfl) (Or.inr rfl) (Option.some.inj same)
  have texts := Json.encoded_injective streams
  exact absurd (congrArg List.length texts) (by decide +kernel)

end Turns

end Routectl.ContextAnchor
