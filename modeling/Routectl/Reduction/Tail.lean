import Routectl.Cache.Breakpoints
import Routectl.Library.JsonFields
import Routectl.Reduction.Minify

/-! The minifier over a request's mutable tail: a scan that plans the writes, and a walk
that applies the plan to the same targets in the same order. -/
namespace Routectl.Reduction
open Library JsonTokens
open Cache (partControl)
open Trim (ChatRequest ContentPart KnownContentPart Message MessageContent)

section Boundary

def messageHasCallerMarker (message : Message) : Bool :=
  match message.content with
  | .parts parts => parts.any fun part => (partControl part).isSome
  | _ => false

def lastFrozen (messages : List Message) : Option Nat :=
  ((messages.zipIdx.filter fun entry => messageHasCallerMarker entry.1).map Prod.snd).getLast?

/-- The first message after the last one that carries a marker of the caller's. -/
def mutableSuffixStart (req : ChatRequest) : Option Nat :=
  if req.messages.isEmpty then none
  else if (req.settings.lookup "cache_control").isSome then none
  else
    match lastFrozen req.messages with
    | none => some 0
    | some i => if i + 1 ≥ req.messages.length then none else some (i + 1)

end Boundary

section Targets

/-- The arguments of a tool call, where it is shaped well enough to have some. -/
def toolCallArguments (call : Json) : Option Json :=
  (call.field "function").bind (Json.field "arguments")

def knownPartTarget : ContentPart → Option Json
  | .known (.toolResult _ content _ _) => some content
  | .known (.toolUse _ _ input _) => some input
  | _ => none

def contentTargets : MessageContent → List Json
  | .parts parts => parts.filterMap knownPartTarget
  | _ => []

/-- The targets of a message in the order they are met. -/
def messageTargets (message : Message) : List Json :=
  contentTargets message.content ++ (message.toolCalls.getD []).filterMap toolCallArguments

end Targets

section Scan

structure DeltaCounts where
  stringsMinified : Nat := 0
  stringsSkipped : Nat := 0
  stringsRejected : Nat := 0
  bytesSaved : Nat := 0
deriving DecidableEq

def DeltaCounts.countOutcome (counts : DeltaCounts) (outcome : StringMinifyOutcome)
    (originalLen : Nat) : DeltaCounts :=
  match outcome with
  | .compressed minified =>
    { counts with
      bytesSaved := counts.bytesSaved + (originalLen - minified.utf8ByteSize)
      stringsMinified := counts.stringsMinified + 1 }
  | .skipped => { counts with stringsSkipped := counts.stringsSkipped + 1 }
  | .rejected => { counts with stringsRejected := counts.stringsRejected + 1 }

structure ReductionDelta where
  stringsMinified : Nat
  stringsSkipped : Nat
  stringsRejected : Nat
  bytesSaved : Nat
  estTokensSaved : Nat
deriving DecidableEq

def bytesPerTokenEstimate : Nat := 4

def DeltaCounts.intoDelta (counts : DeltaCounts) : ReductionDelta :=
  { stringsMinified := counts.stringsMinified
    stringsSkipped := counts.stringsSkipped
    stringsRejected := counts.stringsRejected
    bytesSaved := counts.bytesSaved
    estTokensSaved := counts.bytesSaved / bytesPerTokenEstimate }

/-- The tallies, and the compressed outcomes by the ordinal of their target. -/
structure MinifyPlan where
  counts : DeltaCounts := {}
  writes : List (Nat × StringMinifyOutcome) := []
  seen : Nat := 0

variable {Value : Type} [BEq Value] (fromStr : String → Option Value)

def MinifyPlan.classify (plan : MinifyPlan) (target : Json) : MinifyPlan :=
  match target with
  | .string s =>
    let outcome := classifyJsonString fromStr s
    { counts := plan.counts.countOutcome outcome s.utf8ByteSize
      writes :=
        match outcome with
        | .compressed _ => plan.writes ++ [(plan.seen, outcome)]
        | _ => plan.writes
      seen := plan.seen + 1 }
  | _ => { plan with counts := plan.counts.countOutcome .skipped 0, seen := plan.seen + 1 }

def scanMessageTargets (message : Message) (plan : MinifyPlan) : MinifyPlan :=
  let plan :=
    match message.content with
    | .parts parts => (parts.filterMap knownPartTarget).foldl (MinifyPlan.classify fromStr) plan
    | _ => plan
  match message.toolCalls with
  | some toolCalls =>
    (toolCalls.filterMap toolCallArguments).foldl (MinifyPlan.classify fromStr) plan
  | none => plan

end Scan

section Walk

structure PlanApplier where
  remaining : List (Nat × StringMinifyOutcome)
  seen : Nat := 0

/-- What is written onto a target, if anything is. -/
def applyOutcome : StringMinifyOutcome → Option Json
  | .compressed minified => some (.string minified)
  | _ => none

def PlanApplier.applyNext (applier : PlanApplier) : Option Json × PlanApplier :=
  match applier.remaining with
  | [] => (none, { applier with seen := applier.seen + 1 })
  | (i, outcome) :: rest =>
    if i = applier.seen then (applyOutcome outcome, { remaining := rest, seen := applier.seen + 1 })
    else (none, { applier with seen := applier.seen + 1 })

/-- Visit the items in order, the applier carried along. -/
def visitAll {Item : Type} (visit : Item → PlanApplier → Item × PlanApplier) :
    List Item → PlanApplier → List Item × PlanApplier
  | [], applier => ([], applier)
  | item :: rest, applier =>
    let (visited, next) := visit item applier
    let (others, final) := visitAll visit rest next
    (visited :: others, final)

def minifyPart (part : ContentPart) (applier : PlanApplier) : ContentPart × PlanApplier :=
  match part with
  | .known (.toolResult toolUseId content isError control) =>
    let (written, next) := applier.applyNext
    (.known (.toolResult toolUseId (written.getD content) isError control), next)
  | .known (.toolUse id name input control) =>
    let (written, next) := applier.applyNext
    (.known (.toolUse id name (written.getD input) control), next)
  | other => (other, applier)

def writeArguments (call : Json) (value : Json) : Json :=
  match call.field "function" with
  | some function => call.setField "function" (function.setField "arguments" value)
  | none => call

def minifyCall (call : Json) (applier : PlanApplier) : Json × PlanApplier :=
  match toolCallArguments call with
  | none => (call, applier)
  | some _ =>
    let (written, next) := applier.applyNext
    ((written.map (writeArguments call)).getD call, next)

def minifyMessageTargets (message : Message) (applier : PlanApplier) : Message × PlanApplier :=
  let (content, applier) :=
    match message.content with
    | .parts parts =>
      let (parts, applier) := visitAll minifyPart parts applier
      (MessageContent.parts parts, applier)
    | other => (other, applier)
  match message.toolCalls with
  | some toolCalls =>
    let (toolCalls, applier) := visitAll minifyCall toolCalls applier
    ({ message with content, toolCalls := some toolCalls }, applier)
  | none => ({ message with content }, applier)

inductive ReductionOutcome where
  | noMutableTail
  | nothingToStrip (delta : ReductionDelta)
  | applied (delta : ReductionDelta)
deriving DecidableEq

variable {Value : Type} [BEq Value] (fromStr : String → Option Value)

def scanTail (messages : List Message) : MinifyPlan :=
  messages.foldl (fun plan message => scanMessageTargets fromStr message plan) {}

def applyJsonMinify (req : ChatRequest) : ReductionOutcome × ChatRequest :=
  match mutableSuffixStart req with
  | none => (.noMutableTail, req)
  | some start =>
    let plan := scanTail fromStr (req.messages.drop start)
    let delta := plan.counts.intoDelta
    if plan.writes.isEmpty then (.nothingToStrip delta, req)
    else
      let (tail, _) :=
        visitAll minifyMessageTargets (req.messages.drop start) { remaining := plan.writes }
      (.applied delta, { req with messages := req.messages.take start ++ tail })

end Walk
end Routectl.Reduction
