import Routectl.Dispatch.Failure
import Routectl.Library.Transition

/-! The fallback walk of one request, complete and streaming, as the steps it takes between
its await points. The gates of all state keys are shared with other tasks. -/
namespace Routectl.Dispatch
open Library Routectl.Gate

inductive Surface where
  | complete
  | stream
deriving Repr, DecidableEq

/-- One chain entry; `model` is the identity of the resolved model its seats share. -/
structure DispatchTarget where
  providerName : String
  stateKey : String
  model : Nat
  hasProvider : Bool
  useForwardedCredential : Bool
  classOverrides : List (Nat × FailureClass)
deriving Repr, DecidableEq

/-- The request-scoped inputs of a walk. -/
structure Session where
  policy : RetryPolicy
  model : String
  maxTokens : Option Nat
  forwardedBearer : Bool
  disableFallbacks : Bool

def Session.isProbe (session : Session) : Bool := isProbeRequest session.maxTokens session.policy

inductive StripDecision where
  | proceed
  | strictReject (error : Error)
  | routeAway (error : Error)
deriving Repr, DecidableEq

/-- What request shaping leaves for one target: the strip decision, and which of the
replay, field and canary plans it holds. -/
structure Preparation where
  strip : StripDecision
  replayPlan : Bool
  fieldPlan : Bool
  fieldCanary : Bool
deriving Repr, DecidableEq

/-- What a failed attempt is read as: its native class, and whether the rejection names a
field the plan can drop, or the field the canary restored. -/
structure FailureFacts where
  nativeClass : FailureClass
  namesField : Bool
  namesCanary : Bool
deriving Repr, DecidableEq

inductive Reply where
  | ok
  | failed (error : Error) (facts : FailureFacts)
deriving Repr, DecidableEq

/-- The locals of one chain entry. -/
structure Entry where
  target : DispatchTarget
  attemptsMade : Nat
  skipReplayBackoff : Bool
  authRetryAttempted : Bool
  replayPlan : Bool
  replayRepairAttempted : Bool
  fieldPlan : Bool
  fieldRepairAttempted : Bool
  fieldCanary : Bool
  canaryRepairAttempted : Bool
  probeGuard : Bool
  wasHalfOpenProbe : Bool
deriving Repr, DecidableEq

inductive Point where
  | gating
  | sleeping
  | calling
  | refreshing (error : Error)
deriving Repr, DecidableEq

inductive Outcome where
  | served
  | failed (error : Error)
  | exhausted (error : Error)
deriving Repr, DecidableEq

inductive Phase where
  | between
  | inside (entry : Entry) (point : Point)
  | finished (outcome : Outcome)
  | dropped
deriving Repr, DecidableEq

inductive WalkEvent where
  | entered
  | skipped (error : Error)
  | consulted (key : String) (claimed : Bool)
  | attempted
  | failed (provider : String) (error : Error)
  | repaired
  | settled (key : String)
  | hopped
  | ended
  | cancelled
deriving Repr, DecidableEq

/-- The walk between two steps; its trace is newest first. -/
structure Walk where
  gates : KeyedMap String ProviderState
  rest : List DispatchTarget
  lastErr : Option Error
  repairBudget : RepairBudget
  phase : Phase
  trace : List WalkEvent

def Walk.start (gates : KeyedMap String ProviderState) (chain : List DispatchTarget) : Walk :=
  { gates, rest := chain, lastErr := none, repairBudget := .perRequest, phase := .between,
    trace := [] }

inductive Label where
  | enter (preparation : Preparation)
  | gate (now : Nat)
  | wake
  | reply (now : Nat) (reply : Reply)
  | refreshed (refusal : Option Error)
  | cancel
  | others (key : String) (change : ProviderState → ProviderState)

namespace Walk
variable (session : Session) (walk : Walk) (entry : Entry)

def note (event : WalkEvent) : Walk := { walk with trace := event :: walk.trace }

/-- One settlement of the gate under `key`. -/
def settle (key : String) (change : ProviderState → ProviderState) : Walk :=
  { walk with
    gates := KeyedMap.modify key change walk.gates, trace := .settled key :: walk.trace }

def releaseProbeSlot (key : String) : Walk := walk.settle key ProviderState.releaseProbeSlot

def finish (outcome : Outcome) : Walk :=
  { walk with phase := .finished outcome, trace := .ended :: walk.trace }

/-- The chain loop is left. -/
def exhaust : Walk := walk.finish (.exhausted (walk.lastErr.getD (.unknownAlias session.model)))

def hop : Walk := { walk with phase := .between, trace := .hopped :: walk.trace }

/-- `break 'chain` under disabled fallbacks, `continue 'chain` otherwise. -/
def passOn : Walk := if session.disableFallbacks then walk.exhaust session else walk.hop

/-- Back to the gate of the same entry, the guard disarmed. -/
def regate (error : Error) : Walk :=
  { walk with
    lastErr := some error, phase := .inside { entry with probeGuard := false } .gating }

def hopWith (error : Error) : Walk := { walk with lastErr := some error }.hop

def call : Walk :=
  { walk with phase := .inside entry .calling, trace := .attempted :: walk.trace }

end Walk

section Entering
variable (session : Session)

def missingForwardedBearer : Error :=
  .validation ("forwarded target has no captured client bearer to authenticate this request " ++
    "(reason=missing_forwarded_bearer)")

def Entry.new (target : DispatchTarget) (preparation : Preparation) : Entry :=
  { target, attemptsMade := 0, skipReplayBackoff := false, authRetryAttempted := false,
    replayPlan := preparation.replayPlan, replayRepairAttempted := false,
    fieldPlan := preparation.fieldPlan, fieldRepairAttempted := false,
    fieldCanary := preparation.fieldCanary, canaryRepairAttempted := false, probeGuard := false,
    wasHalfOpenProbe := false }

/-- The head of the chain loop. -/
def enter (walk : Walk) (preparation : Preparation) : Walk :=
  match walk.rest with
  | [] => walk.exhaust session
  | target :: later =>
    let walk := { walk with rest := later, trace := .entered :: walk.trace }
    if !target.hasProvider then
      let missing := Error.unknownProvider target.providerName
      ({ walk with lastErr := some missing }.note (.skipped missing)).passOn session
    else if target.useForwardedCredential && !session.forwardedBearer then
      walk.finish (.failed missingForwardedBearer)
    else
      match preparation.strip with
      | .strictReject error => walk.finish (.failed error)
      | .routeAway error =>
        ({ walk with lastErr := some error }.note (.skipped error)).passOn session
      | .proceed => { walk with phase := .inside (.new target preparation) .gating }

/-- The gate let the attempt through, and the guard has read the half-open bit. -/
def admitted (surface : Surface) (walk : Walk) (entry : Entry) (halfOpen : Bool) : Walk :=
  let guarded := { entry with probeGuard := halfOpen, wasHalfOpenProbe := halfOpen }
  match surface with
  | .stream => walk.call guarded
  | .complete =>
    let started := { guarded with skipReplayBackoff := false }
    if 0 < entry.attemptsMade && !entry.skipReplayBackoff then
      { walk with phase := .inside started .sleeping }
    else walk.call started

/-- A gate refusal keeps the first error. -/
def refused (walk : Walk) (entry : Entry) (body : String) : Walk :=
  { walk with
    lastErr := walk.lastErr.or (some (.plain entry.target.providerName 0 body)) }.passOn session

/-- `gate_check`, and the guard built right after it. -/
def gate (surface : Surface) (walk : Walk) (entry : Entry) (now : Nat) : Walk :=
  let key := entry.target.stateKey
  match walk.gates.lookup key with
  | none => admitted surface (walk.note (.consulted key false)) entry false
  | some state =>
    let (state, admission) := state.tryDispatchAdmitting now
    let walk :=
      { walk with
        gates := walk.gates.insert key state,
        trace := .consulted key admission.claimedHalfOpen :: walk.trace }
    match admission.decision with
    | .allow => admitted surface walk entry state.halfOpenInFlight
    | .rateLimited => refused session walk entry "local rpm_limit exceeded"
    | .circuitOpen => refused session walk entry "circuit breaker open"

end Entering

section Replying
variable (session : Session) (walk : Walk) (entry : Entry)

def nextIsSiblingSeat : Bool :=
  walk.rest.head?.any fun next => next.model = entry.target.model

/-- A probe that met a rate limit: on to a sibling seat, or out. -/
def probeFastFail (error : Error) : Walk :=
  let released := walk.releaseProbeSlot entry.target.stateKey
  if !session.disableFallbacks && nextIsSiblingSeat walk entry then released.hopWith error
  else released.finish (.failed error)

def replayRepair (failure : FailureClass) (error : Error) : Walk :=
  let released :=
    { walk with repairBudget := walk.repairBudget.spent }.note .repaired
      |>.releaseProbeSlot entry.target.stateKey
  released.regate
    { entry with replayRepairAttempted := true, skipReplayBackoff := true }
    ((replayRejectionBodyFree error failure entry.target.providerName).getD error)

def fieldRepair (error : Error) : Walk :=
  let released :=
    { walk with repairBudget := walk.repairBudget.spent }.note .repaired
      |>.releaseProbeSlot entry.target.stateKey
  released.regate { entry with fieldRepairAttempted := true, skipReplayBackoff := true } error

def canaryRetry (error : Error) : Walk :=
  (walk.releaseProbeSlot entry.target.stateKey).regate
    { entry with canaryRepairAttempted := true, skipReplayBackoff := true } error

/-- The tail of both error arms: hop, or give the error to the client. -/
def settleRoute (debits doFallback : Bool) (error : Error) : Walk :=
  let key := entry.target.stateKey
  if session.disableFallbacks then (walk.releaseProbeSlot key).finish (.failed error)
  else if doFallback then
    (if debits then walk else walk.releaseProbeSlot key).hopWith error
  else (walk.releaseProbeSlot key).finish (.failed error)

/-- The complete arm behind the repairs: health, then retry, fallback or refusal. -/
def completeSettle (now : Nat) (failure : FailureClass) (error : Error) : Walk :=
  let key := entry.target.stateKey
  let error := (replayRejectionBodyFree error failure entry.target.providerName).getD error
  let doFallback := shouldFallback error failure session.policy session.isProbe
  if session.isProbe && (probeFastFailStatus error).isSome then
    probeFastFail session walk entry error
  else
    let resetHint := rateLimitResetHint error session.policy
    let parks := resetHint.any fun hint => !session.isProbe && inloopRetryAfterCap < hint
    let debits := classDebits failure
    let walk :=
      if !debits then walk
      else if parks then
        walk.settle key fun state => state.forceOpen now (resetHint.getD 0)
      else
        walk.settle key fun state =>
          (state.recordFailure now (lastOutcomeFromFailureClass failure)).1
    let canRetryHere :=
      entry.attemptsMade < session.policy.hardRetryCap &&
        shouldRetrySameProvider error failure session.policy entry.attemptsMade session.isProbe &&
        !(debits && parks)
    if !session.disableFallbacks && canRetryHere then
      (walk.releaseProbeSlot key).regate entry error
    else settleRoute session walk entry debits doFallback error

/-- The streaming arm behind the repairs; a stream never retries on policy. -/
def streamSettle (now : Nat) (failure : FailureClass) (error : Error) : Walk :=
  let key := entry.target.stateKey
  let error := (replayRejectionBodyFree error failure entry.target.providerName).getD error
  let doFallback := shouldFallback error failure session.policy session.isProbe
  if session.isProbe && (probeFastFailStatus error).isSome then
    probeFastFail session walk entry error
  else
    let debits := classDebits failure
    let walk :=
      if !debits then walk
      else
        match (rateLimitResetHint error session.policy).filter fun _ => !session.isProbe with
        | some hint => walk.settle key fun state => state.forceOpen now hint
        | none =>
          walk.settle key fun state =>
            (state.recordFailure now (lastOutcomeFromFailureClass failure)).1
    settleRoute session walk entry debits doFallback error

/-- A failed attempt of either walk, the repairs in the order they are tried. -/
def errorArm (surface : Surface) (now : Nat) (error : Error) (facts : FailureFacts) : Walk :=
  let failure :=
    applyRemap facts.nativeClass (upstreamStatusForRemap error) entry.target.classOverrides
  let walk := walk.note (.failed entry.target.providerName error)
  if entry.target.useForwardedCredential && (forwardedTerminalStatus error).isSome then
    (walk.releaseProbeSlot entry.target.stateKey).finish (.failed error)
  else if !entry.authRetryAttempted && upstreamStatus error = some 401 then
    { walk with phase := .inside { entry with authRetryAttempted := true } (.refreshing error) }
  else if !entry.replayRepairAttempted && entry.replayPlan && isReplayRejectionClass failure &&
      walk.repairBudget.canDraw then
    replayRepair walk entry failure error
  else if !entry.fieldRepairAttempted && entry.fieldPlan && facts.namesField &&
      walk.repairBudget.canDraw then
    fieldRepair walk entry error
  else
    match surface with
    | .complete =>
      if !entry.canaryRepairAttempted && entry.fieldCanary && facts.namesCanary then
        canaryRetry walk entry error
      else completeSettle session walk entry now failure error
    | .stream => streamSettle session walk entry now failure error

/-- A success: a stream closes the breaker only for the probe it was admitted as. -/
def successArm (surface : Surface) (now : Nat) : Walk :=
  let key := entry.target.stateKey
  match surface with
  | .complete => (walk.settle key fun state => state.recordSuccess now).finish .served
  | .stream =>
    if entry.wasHalfOpenProbe then
      (walk.settle key fun state => state.recordSuccess now).finish .served
    else walk.finish .served

def replied (surface : Surface) (now : Nat) (reply : Reply) : Walk :=
  let counted := { entry with attemptsMade := entry.attemptsMade + 1 }
  match reply with
  | .ok => successArm walk counted surface now
  | .failed error facts => errorArm session walk counted surface now error facts

/-- The credential was refreshed, or its identity is dead. -/
def refreshed (error : Error) (refusal : Option Error) : Walk :=
  let released := walk.releaseProbeSlot entry.target.stateKey
  match refusal with
  | some refusal => released.finish (.failed refusal)
  | none => released.regate entry error

/-- The request future is dropped, and its guard with it. -/
def cancelled : Walk :=
  let freed := if entry.probeGuard then walk.releaseProbeSlot entry.target.stateKey else walk
  { freed with phase := .dropped, trace := .cancelled :: freed.trace }

end Replying

/-- One step of the walk, or of another task on a gate. -/
def step (surface : Surface) (session : Session) (walk : Walk) (label : Label) : Option Walk :=
  match walk.phase, label with
  | .between, .enter preparation => some (enter session walk preparation)
  | .inside entry .gating, .gate now => some (gate session surface walk entry now)
  | .inside entry .sleeping, .wake => some (walk.call entry)
  | .inside entry .calling, .reply now reply => some (replied session walk entry surface now reply)
  | .inside entry (.refreshing error), .refreshed refusal =>
    some (refreshed walk entry error refusal)
  | .inside entry .sleeping, .cancel => some (cancelled walk entry)
  | .inside entry .calling, .cancel => some (cancelled walk entry)
  | .inside entry (.refreshing _), .cancel => some (cancelled walk entry)
  | _, .others key change => some { walk with gates := KeyedMap.modify key change walk.gates }
  | _, _ => none

def machine (surface : Surface) (session : Session) : Machine Walk Label := ⟨step surface session⟩

end Routectl.Dispatch
