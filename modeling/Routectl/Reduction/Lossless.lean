import Routectl.Reduction.Tail

/-! What the minifier makes of a request: the tail's JSON texts are stripped and nothing
else changes, the ledger counts every target, and a second pass finds nothing to do. -/
namespace Routectl.Reduction
open Library JsonTokens
open Trim (ChatRequest ContentPart KnownContentPart Message MessageContent)

section Rewriting
variable {Value : Type} [BEq Value] (fromStr : String → Option Value)

/-- What a target is rewritten to, if it is rewritten. -/
def minifiedTarget : Json → Option Json
  | .string s => (minifyJsonWhitespace fromStr s).map .string
  | _ => none

def rewritten (target : Json) : Json := (minifiedTarget fromStr target).getD target

def minifiedPart : ContentPart → ContentPart
  | .known (.toolResult toolUseId content isError control) =>
    .known (.toolResult toolUseId (rewritten fromStr content) isError control)
  | .known (.toolUse id name input control) =>
    .known (.toolUse id name (rewritten fromStr input) control)
  | other => other

def minifiedCall (call : Json) : Json :=
  (((toolCallArguments call).bind (minifiedTarget fromStr)).map (writeArguments call)).getD call

def minifiedContent : MessageContent → MessageContent
  | .parts parts => .parts (parts.map (minifiedPart fromStr))
  | other => other

/-- The message with its targets minified. -/
def minifiedMessage (message : Message) : Message :=
  { message with
    content := minifiedContent fromStr message.content
    toolCalls := message.toolCalls.map (List.map (minifiedCall fromStr)) }

end Rewriting

section Plan
variable {Value : Type} [BEq Value] (fromStr : String → Option Value)

def outcomeOf : Json → StringMinifyOutcome
  | .string s => classifyJsonString fromStr s
  | _ => .skipped

/-- The bytes of a text target. -/
def targetLen : Json → Nat
  | .string s => s.utf8ByteSize
  | _ => 0

def writeFor (ordinal : Nat) (target : Json) : List (Nat × StringMinifyOutcome) :=
  match outcomeOf fromStr target with
  | .compressed minified => [(ordinal, .compressed minified)]
  | _ => []

def writesFrom : Nat → List Json → List (Nat × StringMinifyOutcome)
  | _, [] => []
  | ordinal, target :: rest => writeFor fromStr ordinal target ++ writesFrom (ordinal + 1) rest

def countTarget (counts : DeltaCounts) (target : Json) : DeltaCounts :=
  counts.countOutcome (outcomeOf fromStr target) (targetLen target)

theorem classify_eq (plan : MinifyPlan) (target : Json) :
    plan.classify fromStr target =
      { counts := countTarget fromStr plan.counts target
        writes := plan.writes ++ writeFor fromStr plan.seen target
        seen := plan.seen + 1 } := by
  cases target with
  | string s =>
    simp only [MinifyPlan.classify, countTarget, writeFor, outcomeOf, targetLen]
    cases classifyJsonString fromStr s
    all_goals simp
  | _ => simp [MinifyPlan.classify, countTarget, writeFor, outcomeOf, targetLen]

theorem foldl_classify (targets : List Json) (plan : MinifyPlan) :
    targets.foldl (MinifyPlan.classify fromStr) plan =
      { counts := targets.foldl (countTarget fromStr) plan.counts
        writes := plan.writes ++ writesFrom fromStr plan.seen targets
        seen := plan.seen + targets.length } := by
  induction targets generalizing plan with
  | nil => simp [writesFrom]
  | cons target rest ih =>
    rw [List.foldl_cons, ih, classify_eq, List.foldl_cons, writesFrom]
    simp only [List.append_assoc, List.length_cons, Nat.add_assoc, Nat.add_comm 1]

theorem scanMessageTargets_eq (message : Message) (plan : MinifyPlan) :
    scanMessageTargets fromStr message plan =
      (messageTargets message).foldl (MinifyPlan.classify fromStr) plan := by
  rw [scanMessageTargets, messageTargets, List.foldl_append]
  cases message.content <;> cases message.toolCalls <;> rfl

/-- The scan plans the tail's targets in order, whichever messages hold them. -/
theorem scanTail_eq (messages : List Message) :
    scanTail fromStr messages =
      { counts := (messages.flatMap messageTargets).foldl (countTarget fromStr) {}
        writes := writesFrom fromStr 0 (messages.flatMap messageTargets)
        seen := (messages.flatMap messageTargets).length } := by
  have scan : (fun plan message => scanMessageTargets fromStr message plan) =
      fun plan message => (messageTargets message).foldl (MinifyPlan.classify fromStr) plan :=
    funext fun plan => funext fun message => scanMessageTargets_eq fromStr message plan
  rw [scanTail, scan, ← List.foldl_flatMap, foldl_classify]
  simp

end Plan

section Following
variable {Value : Type} [BEq Value] {fromStr : String → Option Value}

theorem minifiedTarget_eq (target : Json) :
    minifiedTarget fromStr target = applyOutcome (outcomeOf fromStr target) := by
  cases target with
  | string s =>
    rw [minifiedTarget, minifyJsonWhitespace, outcomeOf]
    cases classifyJsonString fromStr s
    all_goals rfl
  | _ => rfl

theorem writesFrom_ordinal {ordinal : Nat} {targets : List Json}
    {write : Nat × StringMinifyOutcome} (planned : write ∈ writesFrom fromStr ordinal targets) :
    ordinal ≤ write.1 := by
  induction targets generalizing ordinal with
  | nil => cases planned
  | cons target rest ih =>
    rcases List.mem_append.mp planned with own | later
    case inl =>
      rw [writeFor] at own
      split at own
      · obtain rfl := List.mem_singleton.mp own
        exact le_rfl
      · cases own
    case inr => exact Nat.le_of_succ_le (ih later)

/-- At the ordinal of a target the plan holds the target's own outcome or nothing. -/
theorem applyNext_writesFrom (ordinal : Nat) (target : Json) (more : List Json) :
    PlanApplier.applyNext ⟨writesFrom fromStr ordinal (target :: more), ordinal⟩ =
      (minifiedTarget fromStr target, ⟨writesFrom fromStr (ordinal + 1) more, ordinal + 1⟩) := by
  rw [minifiedTarget_eq, writesFrom, writeFor]
  cases outcomeOf fromStr target with
  | compressed minified => simp [PlanApplier.applyNext]
  | skipped | rejected =>
    simp only [List.nil_append, PlanApplier.applyNext, applyOutcome]
    cases planned : writesFrom fromStr (ordinal + 1) more with
    | nil => rfl
    | cons write rest =>
      have later : ordinal + 1 ≤ write.1 :=
        writesFrom_ordinal (planned ▸ List.mem_cons_self)
      dsimp only
      rw [if_neg (by omega)]

/-- The walk rewrites an item as the plan for its targets says, and leaves the applier at
the plan for what comes after. -/
def Follows {Item : Type} (fromStr : String → Option Value) (targets : Item → List Json)
    (rewrite : Item → Item) (visit : Item → PlanApplier → Item × PlanApplier) : Prop :=
  ∀ item ordinal more, visit item ⟨writesFrom fromStr ordinal (targets item ++ more), ordinal⟩ =
    (rewrite item, ⟨writesFrom fromStr (ordinal + (targets item).length) more,
      ordinal + (targets item).length⟩)

theorem Follows.all {Item : Type} {targets : Item → List Json} {rewrite : Item → Item}
    {visit : Item → PlanApplier → Item × PlanApplier}
    (follows : Follows fromStr targets rewrite visit) :
    Follows fromStr (List.flatMap targets) (List.map rewrite) (visitAll visit) := by
  intro items
  induction items with
  | nil => exact fun _ _ => rfl
  | cons item rest ih =>
    intro ordinal more
    rw [List.flatMap_cons, List.append_assoc, visitAll, follows item]
    dsimp only
    rw [ih, List.length_append, Nat.add_assoc]
    rfl

theorem minifyPart_follows :
    Follows fromStr (fun part => (knownPartTarget part).toList) (minifiedPart fromStr)
      minifyPart := by
  intro part ordinal more
  cases part with
  | other => rfl
  | known part =>
    cases part with
    | toolResult toolUseId content isError control =>
      simp only [knownPartTarget, Option.toList_some, List.singleton_append, minifyPart,
        applyNext_writesFrom]
      rfl
    | toolUse id name input control =>
      simp only [knownPartTarget, Option.toList_some, List.singleton_append, minifyPart,
        applyNext_writesFrom]
      rfl
    | _ => rfl

theorem minifyCall_follows :
    Follows fromStr (fun call => (toolCallArguments call).toList) (minifiedCall fromStr)
      minifyCall := by
  intro call ordinal more
  simp only [minifyCall, minifiedCall]
  cases toolCallArguments call with
  | none => rfl
  | some arguments =>
    simp only [Option.toList_some, List.singleton_append, applyNext_writesFrom]
    rfl

theorem messageTargets_eq (message : Message) :
    messageTargets message =
      (match message.content with
        | .parts parts => parts.flatMap fun part => (knownPartTarget part).toList
        | _ => []) ++
      (message.toolCalls.getD []).flatMap fun call => (toolCallArguments call).toList := by
  rw [messageTargets]
  cases message.content
  all_goals simp only [contentTargets, List.filterMap_eq_flatMap_toList]

theorem minifyMessageTargets_follows :
    Follows fromStr messageTargets (minifiedMessage fromStr) minifyMessageTargets := by
  intro message ordinal more
  have parts := (@minifyPart_follows Value _ fromStr).all
  have calls := (@minifyCall_follows Value _ fromStr).all
  rw [messageTargets_eq, minifyMessageTargets, minifiedMessage]
  cases content : message.content with
  | parts blocks =>
    cases held : message.toolCalls with
    | none => simp [parts blocks, minifiedContent]
    | some toolCalls =>
      simp [parts blocks, calls toolCalls, minifiedContent, Nat.add_assoc]
  | text | null =>
    cases held : message.toolCalls with
    | none => simp [minifiedContent]
    | some toolCalls => simp [calls toolCalls, minifiedContent]

theorem writesFrom_eq_nil_iff {ordinal : Nat} {targets : List Json} :
    writesFrom fromStr ordinal targets = [] ↔
      ∀ target ∈ targets, minifiedTarget fromStr target = none := by
  induction targets generalizing ordinal with
  | nil => simp [writesFrom]
  | cons target rest ih =>
    rw [writesFrom, List.append_eq_nil_iff, ih, List.forall_mem_cons, minifiedTarget_eq, writeFor]
    cases outcomeOf fromStr target
    all_goals simp [applyOutcome]

theorem minifiedPart_self {part : ContentPart}
    (still : ∀ target, knownPartTarget part = some target → minifiedTarget fromStr target = none) :
    minifiedPart fromStr part = part := by
  cases part with
  | other => rfl
  | known part =>
    cases part with
    | toolResult => rw [minifiedPart, rewritten, still _ rfl, Option.getD_none]
    | toolUse => rw [minifiedPart, rewritten, still _ rfl, Option.getD_none]
    | _ => rfl

theorem minifiedCall_self {call : Json}
    (still : ∀ target, toolCallArguments call = some target →
      minifiedTarget fromStr target = none) : minifiedCall fromStr call = call := by
  rw [minifiedCall]
  cases held : toolCallArguments call with
  | none => rfl
  | some arguments => rw [Option.bind_some, still arguments held, Option.map_none, Option.getD_none]

/-- A message with nothing to strip is left as it is. -/
theorem minifiedMessage_self {message : Message}
    (still : ∀ target ∈ messageTargets message, minifiedTarget fromStr target = none) :
    minifiedMessage fromStr message = message := by
  have content : minifiedContent fromStr message.content = message.content := by
    cases held : message.content with
    | parts parts =>
      rw [minifiedContent]
      apply congrArg
      refine (List.map_congr_left fun part member => ?_).trans (List.map_id parts)
      apply minifiedPart_self
      intro target met
      apply still
      rw [messageTargets, held]
      exact List.mem_append_left _ (List.mem_filterMap.mpr ⟨part, member, met⟩)
    | _ => rfl
  have calls : message.toolCalls.map (List.map (minifiedCall fromStr)) = message.toolCalls := by
    cases held : message.toolCalls with
    | none => rfl
    | some toolCalls =>
      refine congrArg some ((List.map_congr_left fun call member => ?_).trans (List.map_id _))
      apply minifiedCall_self
      intro target met
      apply still
      rw [messageTargets, held]
      exact List.mem_append_right _ (List.mem_filterMap.mpr ⟨call, member, met⟩)
  rw [minifiedMessage, content, calls]

theorem visitTail_eq (messages : List Message) :
    (visitAll minifyMessageTargets messages
        { remaining := writesFrom fromStr 0 (messages.flatMap messageTargets) }).1 =
      messages.map (minifiedMessage fromStr) := by
  have walk := (@minifyMessageTargets_follows Value _ fromStr).all messages 0 []
  rw [List.append_nil] at walk
  rw [walk]

/-- The tail with its targets minified, the rest of the request as it was. -/
theorem applyJsonMinify_eq (req : ChatRequest) :
    (applyJsonMinify fromStr req).2 =
      match mutableSuffixStart req with
      | none => req
      | some start =>
        { req with
          messages := req.messages.take start ++
            (req.messages.drop start).map (minifiedMessage fromStr) } := by
  rw [applyJsonMinify]
  cases mutableSuffixStart req with
  | none => rfl
  | some start =>
    simp only [scanTail_eq]
    by_cases idle : (writesFrom fromStr 0
        ((req.messages.drop start).flatMap messageTargets)).isEmpty = true
    · rw [if_pos idle]
      have still := writesFrom_eq_nil_iff.mp (List.isEmpty_iff.mp idle)
      have same : (req.messages.drop start).map (minifiedMessage fromStr) =
          req.messages.drop start := by
        refine (List.map_congr_left fun message member => ?_).trans (List.map_id _)
        apply minifiedMessage_self
        intro target held
        exact still target (List.mem_flatMap.mpr ⟨message, member, held⟩)
      dsimp only
      rw [same, List.take_append_drop]
    · rw [if_neg idle]
      dsimp only
      rw [visitTail_eq]

end Following

section Again
variable {Value : Type} [BEq Value] {fromStr : String → Option Value}

theorem minifiedTarget_rewritten [ReflBEq Value] (reads : ReadsJson fromStr) (target : Json) :
    minifiedTarget fromStr (rewritten fromStr target) = none := by
  rw [rewritten]
  cases changed : minifiedTarget fromStr target with
  | none => exact changed
  | some written =>
    cases target with
    | string s =>
      cases accepted : fromStr s with
      | none =>
        rw [minifiedTarget, minifyJsonWhitespace, classify_unread accepted] at changed
        cases changed
      | some value =>
        rw [minifiedTarget, minify_read reads accepted] at changed
        split at changed
        case isTrue => cases changed
        case isFalse =>
          obtain rfl : Json.string (stripped s) = written := Option.some.inj changed
          rw [Option.getD_some, minifiedTarget, (minified_read reads accepted).2.2]
          rfl
    | _ => cases changed

theorem toolCallArguments_minifiedCall (call : Json) :
    toolCallArguments (minifiedCall fromStr call) =
      (toolCallArguments call).map (rewritten fromStr) := by
  rw [minifiedCall]
  cases held : toolCallArguments call with
  | none => exact held
  | some arguments =>
    rw [Option.bind_some, Option.map_some, rewritten]
    cases minifiedTarget fromStr arguments with
    | none => exact held
    | some written =>
      obtain ⟨function, named, own⟩ := Option.bind_eq_some_iff.mp held
      have present : function.field "arguments" ≠ none := own ▸ Option.some_ne_none _
      have called : call.field "function" ≠ none := named ▸ Option.some_ne_none _
      rw [Option.map_some, Option.getD_some, writeArguments, named, toolCallArguments,
        Json.field_setField_self called, Option.bind_some, Json.field_setField_self present]
      rfl

theorem knownPartTarget_minifiedPart (part : ContentPart) :
    knownPartTarget (minifiedPart fromStr part) =
      (knownPartTarget part).map (rewritten fromStr) := by
  cases part with
  | other => rfl
  | known part => cases part <;> rfl

/-- The targets of the minified message are the message's, minified. -/
theorem messageTargets_minifiedMessage (message : Message) :
    messageTargets (minifiedMessage fromStr message) =
      (messageTargets message).map (rewritten fromStr) := by
  have content : contentTargets (minifiedContent fromStr message.content) =
      (contentTargets message.content).map (rewritten fromStr) := by
    cases message.content with
    | parts parts =>
      simp only [minifiedContent, contentTargets, List.filterMap_map, Function.comp_def,
        knownPartTarget_minifiedPart, List.map_filterMap]
    | _ => rfl
  rw [messageTargets, messageTargets, minifiedMessage, List.map_append, content]
  cases message.toolCalls with
  | none => rfl
  | some toolCalls =>
    simp only [Option.map_some, Option.getD_some, List.filterMap_map, Function.comp_def,
      toolCallArguments_minifiedCall, List.map_filterMap]

theorem partControl_minifiedPart (part : ContentPart) :
    Cache.partControl (minifiedPart fromStr part) = Cache.partControl part := by
  cases part with
  | other => rfl
  | known part => cases part <;> rfl

theorem messageControls_minifiedMessage (message : Message) :
    Cache.messageControls (minifiedMessage fromStr message) = Cache.messageControls message := by
  rw [Cache.messageControls, Cache.messageControls, minifiedMessage]
  cases message.content with
  | parts parts =>
    simp only [minifiedContent, List.filterMap_map, Function.comp_def, partControl_minifiedPart]
  | _ => rfl

theorem messageHasCallerMarker_minified (message : Message) :
    messageHasCallerMarker (minifiedMessage fromStr message) = messageHasCallerMarker message := by
  rw [messageHasCallerMarker, messageHasCallerMarker, minifiedMessage]
  cases message.content with
  | parts parts =>
    simp only [minifiedContent, List.any_map, Function.comp_def, partControl_minifiedPart]
  | _ => rfl

/-- The boundary depends on which messages carry a marker, and on nothing else of them. -/
theorem lastFrozen_eq (messages : List Message) :
    lastFrozen messages =
      (((messages.map messageHasCallerMarker).zipIdx.filter Prod.fst).map Prod.snd).getLast? := by
  simp only [lastFrozen, List.zipIdx_map, List.filter_map, List.map_map]
  rfl

theorem mutableSuffixStart_lt {req : ChatRequest} {start : Nat}
    (boundary : mutableSuffixStart req = some start) : start < req.messages.length := by
  rw [mutableSuffixStart] at boundary
  split_ifs at boundary with empty
  cases frozen : lastFrozen req.messages with
  | none =>
    rw [frozen] at boundary
    obtain rfl : 0 = start := Option.some.inj boundary
    exact List.length_pos_of_ne_nil fun none => empty (List.isEmpty_iff.mpr none)
  | some i =>
    rw [frozen] at boundary
    dsimp only at boundary
    split_ifs at boundary with last
    obtain rfl : i + 1 = start := Option.some.inj boundary
    exact Nat.lt_of_not_le last

theorem mutableSuffixStart_minified (req : ChatRequest) (count : Nat) :
    mutableSuffixStart { req with
        messages := req.messages.take count ++
          (req.messages.drop count).map (minifiedMessage fromStr) } = mutableSuffixStart req := by
  have marks : (req.messages.take count ++
      (req.messages.drop count).map (minifiedMessage fromStr)).map messageHasCallerMarker =
        req.messages.map messageHasCallerMarker := by
    rw [List.map_append, List.map_map]
    simp only [Function.comp_def, messageHasCallerMarker_minified]
    rw [← List.map_append, List.take_append_drop]
  have length := congrArg List.length marks
  rw [List.length_map, List.length_map] at length
  have empty : (req.messages.take count ++
      (req.messages.drop count).map (minifiedMessage fromStr)).isEmpty = req.messages.isEmpty := by
    rw [Bool.eq_iff_iff, List.isEmpty_iff_length_eq_zero, List.isEmpty_iff_length_eq_zero, length]
  simp only [mutableSuffixStart, empty, lastFrozen_eq, marks, length]

/-- A second pass finds nothing to do. -/
theorem second_pass [ReflBEq Value] (reads : ReadsJson fromStr) (req : ChatRequest) :
    (applyJsonMinify fromStr (applyJsonMinify fromStr req).2).2 =
      (applyJsonMinify fromStr req).2 := by
  rw [applyJsonMinify_eq req]
  cases boundary : mutableSuffixStart req with
  | none =>
    dsimp only
    rw [applyJsonMinify_eq, boundary]
  | some start =>
    dsimp only
    have again (message : Message) :
        minifiedMessage fromStr (minifiedMessage fromStr message) =
          minifiedMessage fromStr message := by
      apply minifiedMessage_self
      intro target held
      rw [messageTargets_minifiedMessage] at held
      obtain ⟨before, _, rfl⟩ := List.mem_map.mp held
      exact minifiedTarget_rewritten reads before
    have before : (req.messages.take start).length = start :=
      List.length_take_of_le (Nat.le_of_lt (mutableSuffixStart_lt boundary))
    rw [applyJsonMinify_eq, mutableSuffixStart_minified, boundary]
    dsimp only
    rw [List.take_left' before, List.drop_left' before, List.map_map]
    simp only [Function.comp_def, again]

end Again
section Boundary

theorem marked_le_lastFrozen {messages : List Message} {i j : Nat} {message : Message}
    (frozen : lastFrozen messages = some i) (held : messages[j]? = some message)
    (marked : messageHasCallerMarker message = true) : j ≤ i := by
  rw [lastFrozen] at frozen
  have listed : j ∈ (messages.zipIdx.filter fun entry =>
      messageHasCallerMarker entry.1).map Prod.snd := by
    apply List.mem_map.mpr
    refine ⟨(message, j), List.mem_filter.mpr ⟨?_, marked⟩, rfl⟩
    exact List.mem_zipIdx_iff_getElem?.mpr held
  have ordered : ((messages.zipIdx.filter fun entry =>
      messageHasCallerMarker entry.1).map Prod.snd).Pairwise (· < ·) := by
    apply List.Pairwise.sublist (List.filter_sublist.map Prod.snd)
    rw [List.zipIdx_map_snd]
    exact List.pairwise_lt_range'
  obtain ⟨before, split⟩ := List.getLast?_eq_some_iff.mp frozen
  rw [split] at listed ordered
  rcases List.mem_append.mp listed with earlier | last
  case inl =>
    exact Nat.le_of_lt ((List.pairwise_append.mp ordered).2.2 j earlier i List.mem_cons_self)
  case inr => exact Nat.le_of_eq (List.mem_singleton.mp last)

/-- No message that carries a marker of the caller's is in the mutable tail. -/
theorem tail_unmarked {req : ChatRequest} {start : Nat}
    (boundary : mutableSuffixStart req = some start) :
    ∀ message ∈ req.messages.drop start, messageHasCallerMarker message = false := by
  intro message member
  by_contra marked
  rw [Bool.not_eq_false] at marked
  obtain ⟨offset, held⟩ := List.mem_iff_getElem?.mp member
  rw [List.getElem?_drop] at held
  rw [mutableSuffixStart] at boundary
  split_ifs at boundary
  cases frozen : lastFrozen req.messages with
  | none =>
    rw [lastFrozen, List.getLast?_eq_none_iff, List.map_eq_nil_iff] at frozen
    have listed : (message, start + offset) ∈ req.messages.zipIdx :=
      List.mem_zipIdx_iff_getElem?.mpr held
    exact absurd marked (List.filter_eq_nil_iff.mp frozen _ listed)
  | some i =>
    rw [frozen] at boundary
    dsimp only at boundary
    split_ifs at boundary
    obtain rfl : i + 1 = start := Option.some.inj boundary
    have late := marked_le_lastFrozen frozen held marked
    omega

end Boundary

section Ledger
variable {Value : Type} [BEq Value] {fromStr : String → Option Value}

def DeltaCounts.total (counts : DeltaCounts) : Nat :=
  counts.stringsMinified + counts.stringsSkipped + counts.stringsRejected

/-- The bytes of some targets together. -/
def totalLen (targets : List Json) : Nat := (targets.map targetLen).sum

theorem compressed_shorter {s minified : String}
    (compressed : classifyJsonString fromStr s = .compressed minified) :
    minified.utf8ByteSize < s.utf8ByteSize := by
  rw [classifyJsonString] at compressed
  split at compressed
  · cases compressed
  · rw [stripInsignificantWhitespace_eq] at compressed
    dsimp only at compressed
    split at compressed
    case isTrue => cases compressed
    case isFalse shorter =>
      rw [acceptIfLossless] at compressed
      split at compressed
      · cases compressed
      · split at compressed
        · cases compressed
        · obtain rfl := StringMinifyOutcome.compressed.inj compressed
          exact Nat.lt_of_not_le shorter

theorem countTarget_total (counts : DeltaCounts) (target : Json) :
    (countTarget fromStr counts target).total = counts.total + 1 := by
  rw [countTarget]
  cases outcomeOf fromStr target
  all_goals
    simp only [DeltaCounts.countOutcome, DeltaCounts.total]
    omega

theorem countTarget_rejected [ReflBEq Value] (reads : ReadsJson fromStr) (counts : DeltaCounts)
    (target : Json) :
    (countTarget fromStr counts target).stringsRejected = counts.stringsRejected := by
  have accepted : outcomeOf fromStr target ≠ .rejected := by
    cases target with
    | string s => exact classify_never_rejects reads s
    | _ => simp [outcomeOf]
  rw [countTarget]
  cases outcome : outcomeOf fromStr target with
  | rejected => exact absurd outcome accepted
  | _ => rfl

theorem countTarget_bytesSaved (counts : DeltaCounts) (target : Json) :
    (countTarget fromStr counts target).bytesSaved + targetLen (rewritten fromStr target) =
      counts.bytesSaved + targetLen target := by
  rw [countTarget, rewritten, minifiedTarget_eq]
  cases outcome : outcomeOf fromStr target with
  | compressed minified =>
    cases target with
    | string s =>
      have shorter := compressed_shorter outcome
      simp only [DeltaCounts.countOutcome, applyOutcome, Option.getD_some, targetLen]
      omega
    | _ => cases outcome
  | _ => rfl

/-- Every target is counted once, none as rejected, and what the compacted ones lost is
what was saved. -/
theorem ledger [ReflBEq Value] (reads : ReadsJson fromStr) (targets : List Json)
    (counts : DeltaCounts) :
    (targets.foldl (countTarget fromStr) counts).total = counts.total + targets.length ∧
      (targets.foldl (countTarget fromStr) counts).stringsRejected = counts.stringsRejected ∧
      (targets.foldl (countTarget fromStr) counts).bytesSaved +
          totalLen (targets.map (rewritten fromStr)) = counts.bytesSaved + totalLen targets := by
  induction targets generalizing counts with
  | nil => exact ⟨rfl, rfl, rfl⟩
  | cons target rest ih =>
    obtain ⟨total, rejected, saved⟩ := ih (countTarget fromStr counts target)
    have step := @countTarget_bytesSaved Value _ fromStr counts target
    rw [List.foldl_cons]
    refine ⟨?_, ?_, ?_⟩
    · rw [total, countTarget_total, List.length_cons]
      omega
    · rw [rejected, countTarget_rejected reads]
    · simp only [totalLen, List.map_cons, List.sum_cons] at saved ⊢
      omega

end Ledger
section Requests
variable {Value : Type} [BEq Value] {fromStr : String → Option Value}

def tailTargets (req : ChatRequest) (start : Nat) : List Json :=
  (req.messages.drop start).flatMap messageTargets

def ReductionOutcome.delta? : ReductionOutcome → Option ReductionDelta
  | .noMutableTail => none
  | .nothingToStrip delta => some delta
  | .applied delta => some delta

theorem applyJsonMinify_delta {req : ChatRequest} {start : Nat}
    (boundary : mutableSuffixStart req = some start) :
    (applyJsonMinify fromStr req).1.delta? =
      some ((tailTargets req start).foldl (countTarget fromStr) {}).intoDelta := by
  rw [applyJsonMinify, boundary]
  dsimp only
  rw [scanTail_eq, tailTargets]
  split
  all_goals rfl

/-- The tail of the minified request holds the targets of the tail, minified. -/
theorem tailTargets_minified {req : ChatRequest} {start : Nat}
    (boundary : mutableSuffixStart req = some start) :
    tailTargets (applyJsonMinify fromStr req).2 start =
      (tailTargets req start).map (rewritten fromStr) := by
  have before : (req.messages.take start).length = start :=
    List.length_take_of_le (Nat.le_of_lt (mutableSuffixStart_lt boundary))
  rw [applyJsonMinify_eq, boundary, tailTargets, tailTargets]
  dsimp only
  rw [List.drop_left' before, List.flatMap_map, List.map_flatMap]
  simp only [messageTargets_minifiedMessage]

/-- A text the parser reads loses its whitespace and keeps its tokens; of a request only the
JSON texts of the mutable tail change, each is counted, and a second pass changes nothing. -/
theorem tail_minified_losslessly [ReflBEq Value] (reads : ReadsJson fromStr) :
    (∀ s value, fromStr s = some value →
      (minifyJsonWhitespace fromStr s = none ↔ compact s = true) ∧
      ∀ t, minifyJsonWhitespace fromStr s = some t →
        (∃ parsed, tokens s = some parsed ∧ tokens t = some parsed) ∧
        minifyJsonWhitespace fromStr t = none) ∧
    (∀ s, fromStr s = none → minifyJsonWhitespace fromStr s = none) ∧
    ∀ req : ChatRequest,
      (mutableSuffixStart req = none → applyJsonMinify fromStr req = (.noMutableTail, req)) ∧
      (∀ start, mutableSuffixStart req = some start →
        (applyJsonMinify fromStr req).2 =
          { req with
            messages := req.messages.take start ++
              (req.messages.drop start).map (minifiedMessage fromStr) } ∧
        ∃ delta, (applyJsonMinify fromStr req).1.delta? = some delta ∧
          delta.stringsMinified + delta.stringsSkipped + delta.stringsRejected =
            (tailTargets req start).length ∧
          delta.stringsRejected = 0 ∧
          delta.bytesSaved + totalLen (tailTargets (applyJsonMinify fromStr req).2 start) =
            totalLen (tailTargets req start)) ∧
      (applyJsonMinify fromStr (applyJsonMinify fromStr req).2).2 =
        (applyJsonMinify fromStr req).2 := by
  refine ⟨?_, ?_, ?_⟩
  · intro s value accepted
    have form := minify_read reads accepted
    obtain ⟨same, _, settled⟩ := minified_read reads accepted
    obtain ⟨parsed, lexed, _⟩ := reads.document accepted
    by_cases small : compact s = true
    · rw [form, if_pos small]
      exact ⟨iff_of_true rfl small, fun _ changed => by cases changed⟩
    · rw [form, if_neg small]
      refine ⟨iff_of_false (Option.some_ne_none _) small, ?_⟩
      intro t changed
      obtain rfl : stripped s = t := Option.some.inj changed
      exact ⟨⟨parsed, lexed, same.trans lexed⟩, settled⟩
  · intro s unread
    rw [minifyJsonWhitespace, classify_unread unread]
  · intro req
    refine ⟨?_, ?_, second_pass reads req⟩
    · intro frozen
      rw [applyJsonMinify, frozen]
    · intro start boundary
      obtain ⟨total, rejected, saved⟩ := ledger reads (tailTargets req start) {}
      refine ⟨?_, _, applyJsonMinify_delta boundary, total.trans (Nat.zero_add _), rejected, ?_⟩
      · rw [applyJsonMinify_eq, boundary]
      · rw [tailTargets_minified boundary]
        exact saved.trans (Nat.zero_add _)

/-- A parser that reads one list only. -/
def readsOneList (text : String) : Option String :=
  if tokens text = some [.punct '[', .word ['1'], .punct ']'] then some "one" else none

theorem readsOneList_readsJson : ReadsJson readsOneList := by
  constructor
  · intro text value accepted
    rw [readsOneList] at accepted
    split at accepted
    case isTrue lexed =>
      refine ⟨_, lexed, .array (.lastItem (.word (.inr (.inr (.inr ?_)))))⟩
      exact ⟨[], ['1'], [], [], rfl, .inl rfl, ⟨digits_of_all (by simp) rfl, .inr (by simp)⟩, .inl rfl,
        .inl rfl⟩
    case isFalse => cases accepted
  · intro text value other accepted same
    rw [readsOneList, same]
    exact accepted

def spacedRequest : ChatRequest :=
  { model := "m"
    messages :=
      [{ role := .user, content := .parts [.known (.toolResult "t" (.string "[ 1 ]") none none)] }] }

theorem spaced_list_is_minified :
    minifyJsonWhitespace readsOneList "[ 1 ]" ≠ none ∧
      ∃ delta, (applyJsonMinify readsOneList spacedRequest).1.delta? = some delta ∧
        delta.stringsRejected = 0 := by
  obtain ⟨texts, _, requests⟩ := tail_minified_losslessly readsOneList_readsJson
  constructor
  · intro unchanged
    have small := (texts "[ 1 ]" "one" (by decide)).1.mp unchanged
    exact absurd small (by decide)
  · obtain ⟨_, delta, ledger, _, rejected, _⟩ := (requests spacedRequest).2.1 0 (by decide)
    exact ⟨delta, ledger, rejected⟩

/-- A document whose number the parser refuses keeps its whitespace. -/
theorem refused_document_keeps_whitespace :
    ¬ ∀ s, Document s → (minifyJsonWhitespace readsOneList s = none ↔ compact s = true) := by
  intro stated
  have document : Document "[ 1e400 ]" := by
    refine ⟨[.punct '[', .word "1e400".toList, .punct ']'], by decide,
      .array (.lastItem (.word (.inr (.inr (.inr ?_)))))⟩
    exact ⟨[], ['1'], [], "e400".toList, by simp, .inl rfl,
      ⟨digits_of_all (by simp) rfl, .inr (by simp)⟩, .inl rfl,
      .inr ⟨'e', [], "400".toList, .inl rfl, .inl rfl, digits_of_all (by simp) rfl, by simp⟩⟩
  have unread : readsOneList "[ 1e400 ]" = none := by decide
  have unchanged : minifyJsonWhitespace readsOneList "[ 1e400 ]" = none := by
    rw [minifyJsonWhitespace, classify_unread unread]
  exact absurd ((stated "[ 1e400 ]" document).mp unchanged) (by decide)

end Requests
end Routectl.Reduction
