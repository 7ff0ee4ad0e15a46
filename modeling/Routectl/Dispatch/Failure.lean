import Routectl.Filter.Strip
import Routectl.Gate.ProviderState
import Routectl.Library.KeyedMap

/-! What an upstream failure is classified as, and what the retry policy makes of its
class. Durations are nanoseconds. -/
namespace Routectl.Dispatch
open Library Routectl.Gate

inductive Error where
  | upstream (provider : String) (status : Nat) (body : String) (retryAfter : Option Nat)
      (upstreamType upstreamCode upstreamRequestId : Option String)
  | normalizeRequest (provider detail : String)
  | normalizeResponse (provider detail : String)
  | unknownProvider (provider : String)
  | unknownAlias (name : String)
  | auth (detail : String)
  | config (detail : String)
  | internal (detail : String)
  | validation (detail : String)
  | streaming (detail : String)
  | notImplemented (provider detail : String)
  | io (detail : String)
  | json (detail : String)
deriving Repr, DecidableEq

inductive FailureClass where
  | rateLimited
  | auth
  | badRequest
  | contentPolicy
  | contextWindow
  | serverError
  | timeout
  | networkError
  | overloaded
  | featureUnsupported (capability : String)
  | unknown
deriving Repr, DecidableEq

/-- The classes an operator can name. -/
inductive ConfigFailureClass where
  | rateLimited
  | auth
  | badRequest
  | contentPolicy
  | contextWindow
  | serverError
  | timeout
  | networkError
  | overloaded
  | featureUnsupported
deriving Repr, DecidableEq

def ConfigFailureClass.fromFailureClass : FailureClass → Option ConfigFailureClass
  | .rateLimited => some .rateLimited
  | .auth => some .auth
  | .badRequest => some .badRequest
  | .contentPolicy => some .contentPolicy
  | .contextWindow => some .contextWindow
  | .serverError => some .serverError
  | .timeout => some .timeout
  | .networkError => some .networkError
  | .overloaded => some .overloaded
  | .featureUnsupported _ => some .featureUnsupported
  | .unknown => none

def lastOutcomeFromFailureClass : FailureClass → LastOutcome
  | .rateLimited => .rateLimited
  | .timeout => .timeout
  | .networkError => .transportError
  | .auth | .badRequest | .contentPolicy | .contextWindow | .featureUnsupported _ => .http4xx
  | .serverError | .overloaded | .unknown => .http5xx

structure ClassPolicy where
  retry : Option Nat
  fallback : Option Bool
deriving Repr, DecidableEq

structure RetryPolicy where
  maxAttempts : Nat
  retryOn429 : Option Nat
  retryOn5xx : Option Nat
  retryOnNetwork : Option Nat
  classes : KeyedMap ConfigFailureClass ClassPolicy
  maxHonoredRetryAfterMs : Option Nat
  probeMaxTokens : Nat

def defaultMaxHonoredRetryAfterMs : Nat := 3600000

namespace RetryPolicy
variable (policy : RetryPolicy)

def hardRetryCap : Nat :=
  max (max (max (max (max policy.maxAttempts (policy.retryOn429.getD 0))
    (policy.retryOn5xx.getD 0)) (policy.retryOnNetwork.getD 0))
    ((policy.classes.entries.filterMap fun entry => entry.2.retry).foldl max 0)) 1

def maxHonoredRetryAfter : Nat :=
  policy.maxHonoredRetryAfterMs.getD defaultMaxHonoredRetryAfterMs * nanosPerMilli

def bakedClassDefaults : FailureClass → Nat × Bool
  | .rateLimited => (policy.retryOn429.getD policy.maxAttempts, true)
  | .serverError | .overloaded => (policy.retryOn5xx.getD policy.maxAttempts, true)
  | .timeout | .networkError => (policy.retryOnNetwork.getD policy.maxAttempts, true)
  | .auth | .badRequest | .contentPolicy | .contextWindow | .featureUnsupported _ => (0, true)
  | .unknown => (0, false)

/-- The retry cap and the fallback verdict of a class, the operator's overlay on top. -/
def resolvedClass (failure : FailureClass) : Nat × Bool :=
  let (retryCap, fallback) := policy.bakedClassDefaults failure
  match (ConfigFailureClass.fromFailureClass failure).bind fun named =>
    policy.classes.lookup named with
  | some overlay => (overlay.retry.getD retryCap, overlay.fallback.getD fallback)
  | none => (retryCap, fallback)

end RetryPolicy

def upstreamStatus : Error → Option Nat
  | .upstream _ status _ _ _ _ _ => some status
  | _ => none

def upstreamType : Error → Option String
  | .upstream _ _ _ _ type _ _ => type
  | _ => none

def upstreamCode : Error → Option String
  | .upstream _ _ _ _ _ code _ => code
  | _ => none

/-- `Error::upstream`. -/
def Error.plain (provider : String) (status : Nat) (body : String) : Error :=
  .upstream provider status body none none none none

def isReplayRejectionClass : FailureClass → Bool
  | .featureUnsupported capability => capability = Filter.reasoningReplay
  | _ => false

/-- The error with its body dropped, its status and classifier tokens kept. -/
def bodyFree (error : Error) (provider : String) : Error :=
  .upstream provider ((upstreamStatus error).getD 0) "" none (upstreamType error)
    (upstreamCode error) none

/-- Only a replay rejection is rebuilt without its body. -/
def replayRejectionBodyFree (error : Error) (failure : FailureClass) (provider : String) :
    Option Error :=
  if isReplayRejectionClass failure then some (bodyFree error provider) else none

def probeFastFailStatus (error : Error) : Option Nat :=
  (upstreamStatus error).filter fun status => status = 429 || status = 529

def forwardedTerminalStatus (error : Error) : Option Nat :=
  (upstreamStatus error).filter fun status => status = 401 || status = 403 || status = 429

def rateLimitResetHint (error : Error) (policy : RetryPolicy) : Option Nat :=
  match error with
  | .upstream _ _ _ (some hint) _ _ _ =>
    (some (min hint policy.maxHonoredRetryAfter)).filter fun hint => hint ≠ 0
  | _ => none

def upstreamStatusForRemap (error : Error) : Option Nat :=
  (upstreamStatus error).filter fun status => 400 ≤ status && status ≤ 599

/-- The operator's class for this status, in place of the native one. -/
def applyRemap (native : FailureClass) (status : Option Nat)
    (overrides : List (Nat × FailureClass)) : FailureClass :=
  match status.bind fun status => overrides.find? fun override => override.1 = status with
  | some (_, failure) => failure
  | none => native

/-- Only a transient health failure counts against the breaker. -/
def classDebits : FailureClass → Bool
  | .rateLimited | .serverError | .timeout | .networkError | .overloaded => true
  | _ => false

def shouldFallback (error : Error) (failure : FailureClass) (policy : RetryPolicy)
    (isProbe : Bool) : Bool :=
  if isProbe && (probeFastFailStatus error).isSome then false
  else
    match error with
    | .unknownProvider _ => true
    | _ => (policy.resolvedClass failure).2

def shouldRetrySameProvider (error : Error) (failure : FailureClass) (policy : RetryPolicy)
    (attemptsMade : Nat) (isProbe : Bool) : Bool :=
  if isProbe && (probeFastFailStatus error).isSome then false
  else attemptsMade < (policy.resolvedClass failure).1

def isProbeRequest (maxTokens : Option Nat) (policy : RetryPolicy) : Bool :=
  0 < policy.probeMaxTokens && maxTokens.any fun tokens => tokens ≤ policy.probeMaxTokens

def repairsPerRequest : Nat := 2

/-- The repairs one client request may still spend. -/
structure RepairBudget where
  remaining : Nat
deriving Repr, DecidableEq

namespace RepairBudget

def perRequest : RepairBudget := { remaining := repairsPerRequest }

def canDraw (budget : RepairBudget) : Bool := 0 < budget.remaining

def spent (budget : RepairBudget) : RepairBudget := { remaining := budget.remaining - 1 }

end RepairBudget

def inloopRetryAfterCap : Nat := 5000000000

end Routectl.Dispatch
