import Routectl.Attempt.Placement

/-! What placement does to an attempt: the markers go where the plan chose, or nothing moves,
and what is reported is what happened. -/
namespace Routectl.Attempt
open Library
open Routectl.Trim (CacheControl Message)
open Routectl.ContextAnchor (SystemBlock SystemContent CustomTool ToolDef)
open Routectl.Cache (Breakpoint messageControls)

section LastPosition
variable {Item : Type}

theorem rposition_eq_none_iff {test : Item → Bool} {items : List Item} :
    rposition test items = none ↔ ∀ item ∈ items, test item = false := by
  induction items with
  | nil => simp [rposition]
  | cons item rest ih =>
    cases later : rposition test rest with
    | none =>
      have none := ih.mp later
      cases passes : test item with
      | true => simp [rposition, later, passes]
      | false => simpa [rposition, later, passes] using none
    | some index =>
      have some : ¬ ∀ item ∈ rest, test item = false := fun none => by simp [ih.mpr none] at later
      simp only [rposition, later, reduceCtorEq, List.mem_cons, forall_eq_or_imp, false_iff]
      exact fun none => some none.2

theorem rposition_splits {test : Item → Bool} {items : List Item} {index : Nat}
    (found : rposition test items = some index) :
    ∃ before item after, items = before ++ item :: after ∧ before.length = index ∧
      test item = true ∧ ∀ other ∈ after, test other = false := by
  induction items generalizing index with
  | nil => cases found
  | cons item rest ih =>
    cases later : rposition test rest with
    | none =>
      have none := rposition_eq_none_iff.mp later
      cases passes : test item with
      | true =>
        obtain rfl : 0 = index := by simpa [rposition, later, passes] using found
        exact ⟨[], item, rest, rfl, rfl, passes, none⟩
      | false => simp [rposition, later, passes] at found
    | some inner =>
      obtain rfl : inner + 1 = index := by simpa [rposition, later] using found
      obtain ⟨before, chosen, after, rfl, counted, passes, none⟩ := ih later
      exact ⟨item :: before, chosen, after, rfl, by simp [counted], passes, none⟩

/-- A filter that spares every passing item either leaves all before the last one in place, or
brings something else to its index. -/
theorem rposition_filter {test keep : Item → Bool} {items : List Item} {index : Nat}
    (spares : ∀ item, test item = true → keep item = true)
    (found : rposition test items = some index) {item : Item}
    (still : (items.filter keep)[index]? = some item) (passes : test item = true) :
    (items.filter keep).take (index + 1) = items.take (index + 1) := by
  obtain ⟨before, chosen, after, rfl, rfl, chosenPasses, none⟩ := rposition_splits found
  have filtered : (before ++ chosen :: after).filter keep =
      before.filter keep ++ chosen :: after.filter keep := by
    simp [List.filter_append, spares chosen chosenPasses]
  rw [filtered] at still ⊢
  by_cases all : before.filter keep = before
  · simp [all, List.take_append]
  · have fewer : (before.filter keep).length < before.length := by
      apply Nat.lt_of_le_of_ne (List.length_filter_le keep before)
      intro same
      exact all (List.filter_sublist.eq_of_length same)
    have behind : item ∈ after := by
      rw [List.getElem?_append_right (by omega)] at still
      obtain ⟨steps, counted⟩ : ∃ steps, before.length - (before.filter keep).length = steps + 1 :=
        ⟨before.length - (before.filter keep).length - 1, by omega⟩
      rw [counted, List.getElem?_cons_succ] at still
      exact (List.mem_filter.mp (List.mem_of_getElem? still)).1
    simp [none item behind] at passes

end LastPosition

section Derivation
variable {Value : Type} [BEq Value] (fromStr : String → Option Value)

/-- An attempt reached from the original by stripping and tail minification. -/
inductive Derived (original : ChatRequest) : ChatRequest → Prop where
  | original : Derived original original
  | strip {attempt : ChatRequest} (ctx : StripContext) :
      Derived original attempt → Derived original (attempt.apply ctx).2
  | minify {attempt : ChatRequest} :
      Derived original attempt → Derived original (attempt.minified fromStr)

/-- What no derivation undoes: the system prompt, the custom tools in order, and the absence
of markers. -/
structure Reshaped (original attempt : ChatRequest) : Prop where
  system : attempt.system = original.system
  tools : ∃ keep : ToolDef → Bool, (∀ tool, isCustom tool = true → keep tool = true) ∧
    attempt.toolList = original.toolList.filter keep
  unmarked : original.cacheBreakpoints = [] → attempt.cacheBreakpoints = []

theorem Reshaped.refl (req : ChatRequest) : Reshaped req req where
  system := rfl
  tools := ⟨fun _ => true, by simp⟩
  unmarked := id

theorem Reshaped.trans {first second third : ChatRequest} (earlier : Reshaped first second)
    (later : Reshaped second third) : Reshaped first third where
  system := later.system.trans earlier.system
  tools := by
    obtain ⟨keep, spares, kept⟩ := earlier.tools
    obtain ⟨keepToo, sparesToo, keptToo⟩ := later.tools
    refine ⟨fun tool => keep tool && keepToo tool, ?_, ?_⟩
    · intro tool custom
      simp [spares tool custom, sparesToo tool custom]
    · rw [keptToo, kept, List.filter_filter]
      congr 1
      funext tool
      exact Bool.and_comm _ _
  unmarked := later.unmarked ∘ earlier.unmarked

theorem cacheBreakpoints_eq_nil_iff (req : ChatRequest) :
    req.cacheBreakpoints = [] ↔
      (∀ tool ∈ req.toolList, toolControl tool = none) ∧
      (∀ block ∈ systemBlocks req.system, block.cacheControl = none) ∧
      (req.messages.flatMap messageControls) = [] ∧ req.cacheControl = none := by
  simp [ChatRequest.cacheBreakpoints, ChatRequest.toolList, List.filterMap_eq_nil_iff]

theorem isCustom_unnamed {plans : List StripPlan} {tool : ToolDef}
    (custom : isCustom tool = true) : namesTool plans tool = false := by
  cases tool with
  | custom tool => simp [namesTool, toolMatchesType]
  | other value => cases custom

theorem reshaped_without (req : ChatRequest) (plans : List StripPlan) :
    Reshaped req (req.without plans) where
  system := rfl
  tools := ⟨fun tool => !namesTool plans tool,
    fun tool custom => by simp [isCustom_unnamed custom], req.toolList_without plans⟩
  unmarked := by
    intro unmarked
    obtain ⟨tools, system, messages, topLevel⟩ := (cacheBreakpoints_eq_nil_iff req).mp unmarked
    apply (cacheBreakpoints_eq_nil_iff (req.without plans)).mpr
    refine ⟨?_, system, messages, topLevel⟩
    intro tool held
    rw [ChatRequest.toolList_without] at held
    exact tools tool (List.mem_filter.mp held).1

theorem reshaped_apply (req : ChatRequest) (ctx : StripContext) :
    Reshaped req (req.apply ctx).2 := by
  cases req.intercepted ctx with
  | nothing _ applied => rw [applied]; exact Reshaped.refl req
  | forbidden _ _ applied => rw [applied]; exact Reshaped.refl req
  | hazard _ _ _ _ applied => rw [applied]; exact Reshaped.refl req
  | stripped _ _ applied => rw [applied]; exact reshaped_without req _

theorem messageControls_minified (req : ChatRequest) :
    (req.minified fromStr).messages.flatMap messageControls =
      req.messages.flatMap messageControls := by
  unfold ChatRequest.minified
  rw [Reduction.applyJsonMinify_eq]
  cases Reduction.mutableSuffixStart req.reducible with
  | none => rfl
  | some start =>
    have whole : req.messages.flatMap messageControls =
        (req.messages.take start).flatMap messageControls ++
          (req.messages.drop start).flatMap messageControls := by
      rw [← List.flatMap_append, List.take_append_drop]
    simp only [ChatRequest.reducible, List.flatMap_append, List.flatMap_map,
      Reduction.messageControls_minifiedMessage, whole]

theorem reshaped_minified (req : ChatRequest) : Reshaped req (req.minified fromStr) where
  system := rfl
  tools := ⟨fun _ => true, fun _ _ => rfl, by simp [ChatRequest.minified, ChatRequest.toolList]⟩
  unmarked := by
    intro unmarked
    obtain ⟨tools, system, messages, topLevel⟩ := (cacheBreakpoints_eq_nil_iff req).mp unmarked
    apply (cacheBreakpoints_eq_nil_iff (req.minified fromStr)).mpr
    exact ⟨tools, system, (messageControls_minified fromStr req).trans messages, topLevel⟩

variable {fromStr}

theorem Derived.reshaped {original attempt : ChatRequest}
    (derived : Derived fromStr original attempt) : Reshaped original attempt := by
  induction derived with
  | original => exact Reshaped.refl original
  | strip ctx _ ih => exact ih.trans (reshaped_apply _ ctx)
  | minify _ ih => exact ih.trans (reshaped_minified fromStr _)

end Derivation

section Marking

/-- The marker in a slot of the request. -/
def slotControl (req : ChatRequest) : FrontSlot → Option CacheControl
  | .lastSystemBlock blockIndex =>
    (systemBlocks req.system)[blockIndex]?.bind SystemBlock.cacheControl
  | .lastCustomTool toolIndex => req.toolList[toolIndex]?.bind toolControl

/-- The attempt with a marker on the very element the plan chose in the original. -/
inductive FrontMarked (original attempt : ChatRequest) : ChatRequest → Prop where
  | system {blocks : List SystemBlock} {block : SystemBlock} {index : Nat} :
      frontBreakpointSlot original = some (.lastSystemBlock index) →
      original.system = some (.blocks blocks) → attempt.system = some (.blocks blocks) →
      blocks[index]? = some block →
      FrontMarked original attempt { attempt with
        system := some (.blocks
          (blocks.set index { block with cacheControl := some ephemeral5m })) }
  | tool {tools : List ToolDef} {tool : CustomTool} {index : Nat} :
      frontBreakpointSlot original = some (.lastCustomTool index) →
      original.toolList[index]? = some (.custom tool) →
      attempt.tools = some tools → tools.take (index + 1) = original.toolList.take (index + 1) →
      FrontMarked original attempt { attempt with
        tools := some (tools.set index
          (.custom { tool with cacheControl := some ephemeral5m })) }

theorem frontBreakpointSlot_tool {req : ChatRequest} {index : Nat}
    (slot : frontBreakpointSlot req = some (.lastCustomTool index)) :
    rposition isCustom req.toolList = some index := by
  unfold frontBreakpointSlot at slot
  cases system : req.system.bind eligibleSystemBlockIndex with
  | some blockIndex => simp [system] at slot
  | none =>
    cases tools : req.tools with
    | none => simp [system, tools] at slot
    | some tools => simpa [system, tools, ChatRequest.toolList] using slot

theorem placeFrontMarker_marks {original attempt candidate : ChatRequest} {slot : FrontSlot}
    (reshaped : Reshaped original attempt) (chosen : frontBreakpointSlot original = some slot)
    (placed : placeFrontMarker attempt slot = some candidate) :
    FrontMarked original attempt candidate ∧ slotControl candidate slot = some ephemeral5m ∧
      candidate.cacheControl = attempt.cacheControl := by
  cases slot with
  | lastSystemBlock index =>
    cases system : attempt.system with
    | none => simp [placeFrontMarker, system] at placed
    | some content =>
      cases content with
      | text text => simp [placeFrontMarker, system] at placed
      | blocks blocks =>
        cases held : blocks[index]? with
        | none => simp [placeFrontMarker, system, held] at placed
        | some block =>
          cases eligible : systemBlockIsWireEligible block with
          | false => simp [placeFrontMarker, system, held, eligible] at placed
          | true =>
            obtain rfl := by simpa [placeFrontMarker, system, held, eligible] using placed
            have within : index < blocks.length := (List.getElem?_eq_some_iff.mp held).1
            refine ⟨.system chosen (reshaped.system ▸ system) system held, ?_, rfl⟩
            simp [slotControl, systemBlocks, within]
  | lastCustomTool index =>
    cases present : attempt.tools with
    | none => simp [placeFrontMarker, present] at placed
    | some tools =>
      cases held : tools[index]? with
      | none => simp [placeFrontMarker, present, held] at placed
      | some element =>
        cases element with
        | other value => simp [placeFrontMarker, present, held] at placed
        | custom tool =>
          obtain rfl := by simpa [placeFrontMarker, present, held] using placed
          have within : index < tools.length := (List.getElem?_eq_some_iff.mp held).1
          obtain ⟨keep, spares, kept⟩ := reshaped.tools
          have listed : attempt.toolList = tools := by simp [ChatRequest.toolList, present]
          have first := rposition_filter spares (frontBreakpointSlot_tool chosen)
            (by rw [← kept, listed]; exact held) rfl
          rw [← kept, listed] at first
          have same : original.toolList[index]? = some (.custom tool) := by
            have here := congrArg (fun list => list[index]?) first
            simp only [List.getElem?_take, Nat.lt_succ_self, if_true] at here
            exact here.symm.trans held
          refine ⟨.tool chosen same present first, ?_, rfl⟩
          simp [slotControl, ChatRequest.toolList, within, toolControl]

theorem slotControl_unmarked {req : ChatRequest} (unmarked : req.cacheBreakpoints = [])
    (slot : FrontSlot) : slotControl req slot = none := by
  obtain ⟨tools, system, _, _⟩ := (cacheBreakpoints_eq_nil_iff req).mp unmarked
  cases slot with
  | lastSystemBlock index =>
    simp only [slotControl, Option.bind_eq_none_iff]
    exact fun block held => system block (List.mem_of_getElem? held)
  | lastCustomTool index =>
    simp only [slotControl, Option.bind_eq_none_iff]
    exact fun tool held => tools tool (List.mem_of_getElem? held)

/-- Placement moved the markers it reports and nothing else. -/
structure Placed (original attempt : ChatRequest) (decision : CacheDecision)
    (result : ChatRequest) : Prop where
  change : result = attempt ∨ ∃ candidate,
    (candidate = attempt ∨ FrontMarked original attempt candidate) ∧
    (result = candidate ∨ result = { candidate with cacheControl := some ephemeral5m })
  valid : result ≠ attempt → result.validateSource = .ok ()
  front : decision.front = .emitted ↔ ∃ slot, frontBreakpointSlot original = some slot ∧
    slotControl result slot = some ephemeral5m ∧ slotControl attempt slot ≠ some ephemeral5m
  terminal : decision.terminal = .emitted ↔
    result.cacheControl = some ephemeral5m ∧ attempt.cacheControl ≠ some ephemeral5m
  caller : original.cacheBreakpoints ≠ [] ∨ attempt.cacheBreakpoints ≠ [] → result = attempt

theorem placed_nothing (original attempt : ChatRequest) {decision : CacheDecision}
    (front : decision.front ≠ .emitted) (terminal : decision.terminal ≠ .emitted) :
    Placed original attempt decision attempt where
  change := .inl rfl
  valid := fun changed => (changed rfl).elim
  front := by
    constructor
    · exact fun emitted => (front emitted).elim
    · rintro ⟨slot, _, present, absent⟩
      exact (absent present).elim
  terminal := by
    constructor
    · exact fun emitted => (terminal emitted).elim
    · rintro ⟨present, absent⟩
      exact (absent present).elim
  caller := fun _ => rfl

theorem capSkip_ne_emitted (decision : CacheInjection) : capSkip decision ≠ .emitted := by
  cases decision <;> simp [capSkip]

theorem rollbackSkip_ne_emitted (decision : CacheInjection) :
    rollbackSkip decision ≠ .emitted := by
  cases decision <;> simp [rollbackSkip]

theorem intended_eq_zero_iff (decision : CacheInjection) :
    intended decision = 0 ↔ decision ≠ .emitted := by
  unfold intended
  split <;> simp_all

/-- What the front marker came to on the candidate. -/
structure FrontPlaced (original attempt : ChatRequest)
    (placed : ChatRequest × CacheInjection) : Prop where
  emitted : placed.2 = .emitted → ∃ slot, frontBreakpointSlot original = some slot ∧
    FrontMarked original attempt placed.1 ∧ slotControl placed.1 slot = some ephemeral5m
  skipped : placed.2 ≠ .emitted → placed.1 = attempt
  topLevel : placed.1.cacheControl = attempt.cacheControl

theorem placeFront_placed {original attempt : ChatRequest} (reshaped : Reshaped original attempt)
    {plan : AutoCacheRequestPlan} (planned : plan.frontSlot = frontBreakpointSlot original)
    (gates : CacheTargetGates) :
    FrontPlaced original attempt (placeFront attempt plan (frontDecision plan gates)) := by
  have skip : ∀ reason : CacheInjection, reason ≠ .emitted →
      FrontPlaced original attempt (attempt, reason) :=
    fun reason skipped => ⟨fun emitted => (skipped emitted).elim, fun _ => rfl, rfl⟩
  by_cases emits : frontDecision plan gates = .emitted
  · cases slotted : plan.frontSlot with
    | none =>
      unfold frontDecision at emits
      simp only [slotted, Option.isNone_none, if_true] at emits
      repeat' split at emits
      all_goals cases emits
    | some slot =>
      have chosen : frontBreakpointSlot original = some slot := planned.symm.trans slotted
      cases placed : placeFrontMarker attempt slot with
      | none =>
        simp only [placeFront, emits, slotted, placed]
        exact skip _ (by simp)
      | some candidate =>
        simp only [placeFront, emits, slotted, placed]
        obtain ⟨marked, present, topLevel⟩ := placeFrontMarker_marks reshaped chosen placed
        exact ⟨fun _ => ⟨slot, chosen, marked, present⟩, fun skipped => (skipped rfl).elim, topLevel⟩
  · have nothing : placeFront attempt plan (frontDecision plan gates) =
        (attempt, frontDecision plan gates) := by
      unfold placeFront
      split
      · rename_i emitted _
        exact (emits emitted).elim
      · rfl
    rw [nothing]
    exact skip _ emits

theorem sharedSkipReason_ne_emitted {plan : AutoCacheRequestPlan} {reason : CacheInjection}
    (skips : sharedSkipReason plan = some reason) : reason ≠ .emitted := by
  unfold sharedSkipReason at skips
  repeat' split at skips
  all_goals cases skips
  all_goals simp

theorem build_hasCallerBreakpoints (scanVolatile : ChatRequest → Bool) (original : ChatRequest)
    (globalAutoEmitEnabled : Bool) :
    (AutoCacheRequestPlan.build scanVolatile original
      globalAutoEmitEnabled).hasCallerBreakpoints = false ↔ original.cacheBreakpoints = [] := by
  simp [AutoCacheRequestPlan.build]

/-- The candidate with the terminal marker where it is meant. -/
def withTerminal (candidate : ChatRequest) (terminal : CacheInjection) : ChatRequest :=
  if terminal = .emitted then { candidate with cacheControl := some ephemeral5m } else candidate

theorem slotControl_withTerminal (candidate : ChatRequest) (terminal : CacheInjection)
    (slot : FrontSlot) :
    slotControl (withTerminal candidate terminal) slot = slotControl candidate slot := by
  unfold withTerminal
  split
  · cases slot <;> rfl
  · rfl

theorem placed_committed {original attempt candidate : ChatRequest}
    {front terminal : CacheInjection}
    (placed : FrontPlaced original attempt (candidate, front))
    (unmarked : original.cacheBreakpoints = []) (attemptUnmarked : attempt.cacheBreakpoints = [])
    (validated : (withTerminal candidate terminal).validateSource = .ok ()) :
    Placed original attempt ⟨front, terminal⟩ (withTerminal candidate terminal) where
  change := by
    right
    refine ⟨candidate, ?_, ?_⟩
    · by_cases emitted : front = .emitted
      · obtain ⟨_, _, marked, _⟩ := placed.emitted emitted
        exact .inr marked
      · exact .inl (placed.skipped emitted)
    · unfold withTerminal
      split
      · exact .inr rfl
      · exact .inl rfl
  valid := fun _ => validated
  front := by
    simp only [slotControl_withTerminal]
    constructor
    · intro emitted
      obtain ⟨slot, chosen, _, present⟩ := placed.emitted emitted
      exact ⟨slot, chosen, present, by simp [slotControl_unmarked attemptUnmarked]⟩
    · rintro ⟨slot, _, present, absent⟩
      by_contra skipped
      rw [show candidate = attempt from placed.skipped skipped] at present
      exact absent present
  terminal := by
    have topLevel : candidate.cacheControl = none :=
      (placed.topLevel).trans ((cacheBreakpoints_eq_nil_iff attempt).mp attemptUnmarked).2.2.2
    have free : attempt.cacheControl = none :=
      ((cacheBreakpoints_eq_nil_iff attempt).mp attemptUnmarked).2.2.2
    unfold withTerminal
    split
    · rename_i emitted
      simp [emitted, free]
    · rename_i skipped
      simp [skipped, topLevel]
  caller := by
    rintro (marked | marked)
    · exact (marked unmarked).elim
    · exact (marked attemptUnmarked).elim

theorem applyAutoCachePlacement_placed {original attempt : ChatRequest}
    (reshaped : Reshaped original attempt) {plan : AutoCacheRequestPlan}
    (planned : plan.frontSlot = frontBreakpointSlot original)
    (callers : plan.hasCallerBreakpoints = false ↔ original.cacheBreakpoints = [])
    (gates : CacheTargetGates) (kSuppressed : Bool) :
    Placed original attempt (applyAutoCachePlacement attempt plan gates kSuppressed).1
      (applyAutoCachePlacement attempt plan gates kSuppressed).2 := by
  unfold applyAutoCachePlacement
  cases shared : sharedSkipReason plan with
  | some reason =>
    have skipped := sharedSkipReason_ne_emitted shared
    exact placed_nothing original attempt skipped skipped
  | none =>
    have noCallers : plan.hasCallerBreakpoints = false := by
      cases held : plan.hasCallerBreakpoints with
      | false => rfl
      | true => simp [sharedSkipReason, held] at shared
    have unmarked := callers.mp noCallers
    have attemptUnmarked := reshaped.unmarked unmarked
    have front := placeFront_placed reshaped planned gates
    dsimp only
    split
    · exact placed_nothing original attempt (by simp) (by simp)
    · split
      · rename_i idle
        obtain ⟨frontIdle, terminalIdle⟩ := Nat.add_eq_zero_iff.mp idle
        exact placed_nothing original attempt ((intended_eq_zero_iff _).mp frontIdle)
          ((intended_eq_zero_iff _).mp terminalIdle)
      · split
        · exact placed_nothing original attempt (capSkip_ne_emitted _) (capSkip_ne_emitted _)
        · generalize placeFront attempt plan (frontDecision plan gates) = placed at front ⊢
          obtain ⟨candidate, decided⟩ := placed
          generalize terminalDecision plan gates = terminal
          dsimp only
          split
          · rename_i idle
            exact placed_nothing original attempt idle.1 idle.2
          · split
            · rename_i validated
              exact placed_committed front unmarked attemptUnmarked validated
            · exact placed_nothing original attempt (rollbackSkip_ne_emitted _)
                (rollbackSkip_ne_emitted _)

variable {Value : Type} [BEq Value]

/-- Auto-cache placement on every attempt derived from a request, under every gate. -/
theorem placement_transactional (fromStr : String → Option Value)
    (scanVolatile : ChatRequest → Bool) (globalAutoEmitEnabled : Bool)
    {original attempt : ChatRequest} (derived : Derived fromStr original attempt)
    (gates : CacheTargetGates) (kSuppressed : Bool) :
    let plan := AutoCacheRequestPlan.build scanVolatile original globalAutoEmitEnabled
    let placed := applyAutoCachePlacement attempt plan gates kSuppressed
    Placed original attempt placed.1 placed.2 :=
  applyAutoCachePlacement_placed derived.reshaped rfl
    (build_hasCallerBreakpoints scanVolatile original globalAutoEmitEnabled) gates kSuppressed

def advised : ChatRequest :=
  { model := "claude"
    tools := some [.custom { name := "search", inputSchema := .object [] },
      .other (.object [("type", .string "advisor_20260301")])] }

def advisedAttempt : ChatRequest := (advised.apply { keys := ["advisor"] }).2

def openGates : CacheTargetGates := ⟨some ⟨true⟩, true, true, true⟩

theorem advised_attempt_is_marked :
    let placed := applyAutoCachePlacement advisedAttempt
      (AutoCacheRequestPlan.build (fun _ => false) advised true) openGates false
    Placed advised advisedAttempt placed.1 placed.2 ∧ placed.1 = ⟨.emitted, .emitted⟩ := by
  constructor
  · exact placement_transactional (fun _ => (none : Option Nat)) (fun _ => false) true
      (.strip { keys := ["advisor"] } .original) openGates false
  · decide +kernel

end Marking
end Routectl.Attempt
