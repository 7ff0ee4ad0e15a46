import Routectl.Attempt.Stripped
import Routectl.Reduction.Lossless

/-! The auto-cache markers: the plan made of the original request, and their placement on an
attempt derived from it, whole or not at all. -/
namespace Routectl.Attempt
open Library
open Routectl.Trim (CacheControl Message)
open Routectl.ContextAnchor (SystemBlock SystemContent CustomTool ToolDef)
open Routectl.Cache (Breakpoint BreakpointPosition maxBreakpoints messageControls)
open Routectl.Oauth (isWhitespace)

section Slots

inductive FrontSlot where
  | lastSystemBlock (blockIndex : Nat)
  | lastCustomTool (toolIndex : Nat)
deriving Repr, DecidableEq

def systemBlockIsWireEligible (block : SystemBlock) : Bool :=
  block.text.toList.any fun character => !isWhitespace character

def isCustom : ToolDef → Bool
  | .custom _ => true
  | .other _ => false

/-- The index of the last item that passes, counted from the front. -/
def rposition {Item : Type} (test : Item → Bool) : List Item → Option Nat
  | [] => none
  | item :: rest =>
    match rposition test rest with
    | some index => some (index + 1)
    | none => if test item then some 0 else none

def eligibleSystemBlockIndex : SystemContent → Option Nat
  | .text _ => none
  | .blocks blocks => rposition systemBlockIsWireEligible blocks

def frontBreakpointSlot (req : ChatRequest) : Option FrontSlot :=
  match req.system.bind eligibleSystemBlockIndex with
  | some blockIndex => some (.lastSystemBlock blockIndex)
  | none => (req.tools.bind (rposition isCustom)).map .lastCustomTool

end Slots

section Planning

structure AutoCacheRequestPlan where
  hasCallerBreakpoints : Bool
  callerBreakpointCount : Nat
  volatileHighVeto : Bool
  globalAutoEmitEnabled : Bool
  frontSlot : Option FrontSlot

/-- `scanVolatile` is whether the scan of the request's prefix vetoes caching it. -/
def AutoCacheRequestPlan.build (scanVolatile : ChatRequest → Bool) (req : ChatRequest)
    (globalAutoEmitEnabled : Bool) : AutoCacheRequestPlan where
  hasCallerBreakpoints := !(req.cacheBreakpoints.map Breakpoint.position).isEmpty
  callerBreakpointCount := (req.cacheBreakpoints.map Breakpoint.position).length
  volatileHighVeto := scanVolatile req
  globalAutoEmitEnabled := globalAutoEmitEnabled
  frontSlot := frontBreakpointSlot req

inductive CacheInjection where
  | emitted
  | skippedGlobalDisabled
  | skippedProviderDisabled
  | skippedNoCapability
  | skippedCallerSupplied
  | skippedKBelowBreakEven
  | skippedVolatileHigh
  | skippedBreakpointCap
  | skippedNoPlacementRegion
  | validationRolledBack
deriving Repr, DecidableEq

structure CacheDecision where
  front : CacheInjection
  terminal : CacheInjection
deriving Repr, DecidableEq

structure CacheCapability where
  supportsTopLevelCacheControl : Bool

structure CacheTargetGates where
  capability : Option CacheCapability
  terminalEnabled : Bool
  frontSupported : Bool
  frontEnabled : Bool

end Planning

section Placing

def ephemeral5m : CacheControl := ⟨"ephemeral", some "5m"⟩

def sharedSkipReason (plan : AutoCacheRequestPlan) : Option CacheInjection :=
  if plan.hasCallerBreakpoints then some .skippedCallerSupplied
  else if !plan.globalAutoEmitEnabled then some .skippedGlobalDisabled
  else none

def capSkip : CacheInjection → CacheInjection
  | .emitted => .skippedBreakpointCap
  | other => other

def rollbackSkip : CacheInjection → CacheInjection
  | .emitted => .validationRolledBack
  | other => other

/-- The request with the marker in its slot, none where the slot is not what it was. -/
def placeFrontMarker (req : ChatRequest) : FrontSlot → Option ChatRequest
  | .lastSystemBlock blockIndex =>
    match req.system with
    | some (.blocks blocks) =>
      match blocks[blockIndex]? with
      | some block =>
        if systemBlockIsWireEligible block then
          some { req with
            system := some (.blocks
              (blocks.set blockIndex { block with cacheControl := some ephemeral5m })) }
        else none
      | none => none
    | _ => none
  | .lastCustomTool toolIndex =>
    match req.tools with
    | some tools =>
      match tools[toolIndex]? with
      | some (.custom tool) =>
        some { req with
          tools := some (tools.set toolIndex
            (.custom { tool with cacheControl := some ephemeral5m })) }
      | _ => none
    | none => none

def frontDecision (plan : AutoCacheRequestPlan) (gates : CacheTargetGates) : CacheInjection :=
  if !gates.frontEnabled then .skippedProviderDisabled
  else if !gates.frontSupported then .skippedNoCapability
  else if plan.volatileHighVeto then .skippedVolatileHigh
  else if plan.frontSlot.isNone then .skippedNoPlacementRegion
  else .emitted

def terminalDecision (plan : AutoCacheRequestPlan) (gates : CacheTargetGates) : CacheInjection :=
  if !gates.terminalEnabled then .skippedProviderDisabled
  else if !gates.capability.any CacheCapability.supportsTopLevelCacheControl then
    .skippedNoCapability
  else if plan.volatileHighVeto then .skippedVolatileHigh
  else .emitted

def intended (decision : CacheInjection) : Nat := if decision = .emitted then 1 else 0

/-- The candidate with its front marker, and what became of that marker. -/
def placeFront (attempt : ChatRequest) (plan : AutoCacheRequestPlan) (front : CacheInjection) :
    ChatRequest × CacheInjection :=
  match front, plan.frontSlot with
  | .emitted, some slot =>
    match placeFrontMarker attempt slot with
    | some candidate => (candidate, .emitted)
    | none => (attempt, .skippedNoPlacementRegion)
  | _, _ => (attempt, front)

def applyAutoCachePlacement (attempt : ChatRequest) (plan : AutoCacheRequestPlan)
    (gates : CacheTargetGates) (kSuppressed : Bool) : CacheDecision × ChatRequest :=
  match sharedSkipReason plan with
  | some reason => (⟨reason, reason⟩, attempt)
  | none =>
    if kSuppressed then (⟨.skippedKBelowBreakEven, .skippedKBelowBreakEven⟩, attempt)
    else
      let front := frontDecision plan gates
      let terminal := terminalDecision plan gates
      let markers := intended front + intended terminal
      if markers = 0 then (⟨front, terminal⟩, attempt)
      else if maxBreakpoints < min (plan.callerBreakpointCount + markers) (2 ^ 64 - 1) then
        (⟨capSkip front, capSkip terminal⟩, attempt)
      else
        let (candidate, front) := placeFront attempt plan front
        let candidate :=
          if terminal = .emitted then { candidate with cacheControl := some ephemeral5m }
          else candidate
        if front ≠ .emitted ∧ terminal ≠ .emitted then (⟨front, terminal⟩, attempt)
        else
          match candidate.validateSource with
          | .ok () => (⟨front, terminal⟩, candidate)
          | .error _ => (⟨rollbackSkip front, rollbackSkip terminal⟩, attempt)

end Placing
end Routectl.Attempt
