import Routectl.Dispatch.Failure
import Routectl.Library.Json
import Routectl.Oauth.Refresh

/-! The class of an upstream failure: the status picks the policy row, a token of the provider
family or a proven replay rejection only the class within it. -/
namespace Routectl.Dispatch
open Library
open Routectl.Oauth (isWhitespace)

/-- Which signal decided the class. -/
inductive MatchedBy where
  | variant
  | status
  | upstreamType
deriving Repr, DecidableEq

structure ClassifiedFailure where
  failure : FailureClass
  matchedBy : MatchedBy
deriving Repr, DecidableEq

def byVariant (failure : FailureClass) : ClassifiedFailure := ⟨failure, .variant⟩
def byStatus (failure : FailureClass) : ClassifiedFailure := ⟨failure, .status⟩
def byType (failure : FailureClass) : ClassifiedFailure := ⟨failure, .upstreamType⟩

/-! ### The tokens of the provider families -/

structure FamilyTokens where
  contentPolicy : List String
  contextWindow : List String
  overloaded : List String
  featureUnsupported : List String

namespace FamilyTokens

def anthropic : FamilyTokens where
  contentPolicy := []
  contextWindow := []
  overloaded := ["overloaded_error"]
  featureUnsupported := []

def openai : FamilyTokens where
  contentPolicy := ["content_policy_violation", "content_filter", "invalid_prompt"]
  contextWindow := ["context_length_exceeded", "context_window_exceeded"]
  overloaded := []
  featureUnsupported :=
    ["unsupported_parameter", "unsupported_value", "unsupported_country_region_territory"]

def bedrock : FamilyTokens where
  contentPolicy := ["content_filtered", "guardrail_intervened", "invalid_prompt"]
  contextWindow := ["model_context_window_exceeded", "context_window_exceeded"]
  overloaded := ["overloaded_error"]
  featureUnsupported := []

/-- The table of a provider whose kind is absent or unknown. -/
def union : FamilyTokens where
  contentPolicy := ["content_policy_violation", "content_filter", "invalid_prompt",
    "content_filtered", "guardrail_intervened"]
  contextWindow :=
    ["context_length_exceeded", "context_window_exceeded", "model_context_window_exceeded"]
  overloaded := ["overloaded_error"]
  featureUnsupported :=
    ["unsupported_parameter", "unsupported_value", "unsupported_country_region_territory"]

def familyFor (kind : Option String) : FamilyTokens :=
  if kind = some "anthropic-api" then anthropic
  else if kind = some "openai-compat" then openai
  else if kind = some "bedrock" then bedrock
  else union

end FamilyTokens

/-- The type where the set has it, else the code. -/
def matchedToken (type code : Option String) (set : List String) : Option String :=
  match type.filter fun token => token ∈ set with
  | some token => some token
  | none => code.filter fun token => token ∈ set

def tokenIn (type code : Option String) (set : List String) : Bool :=
  (matchedToken type code set).isSome

/-- A client error, in the class its token lifts it to. -/
def badRequestRow (type code : Option String) (table : FamilyTokens) : ClassifiedFailure :=
  if tokenIn type code table.contentPolicy then byType .contentPolicy
  else if tokenIn type code table.contextWindow then byType .contextWindow
  else
    match matchedToken type code table.featureUnsupported with
    | some capability => byType (.featureUnsupported capability)
    | none => byStatus .badRequest

/-! ### Proven replay rejections -/

/-- How a body is read: its JSON, where it is any, and its letters in lower case. -/
structure BodyReader where
  fromStr : String → Option Json
  toLowercase : String → String

/-- How many reasoning artifacts of unestablished replay an attempt carried. -/
structure ReplayAttempt where
  grayArtifacts : Nat
deriving Repr, DecidableEq

def ReplayAttempt.none : ReplayAttempt := ⟨0⟩

def ReplayAttempt.carriedGrayArtifact (attempt : ReplayAttempt) : Bool := 0 < attempt.grayArtifacts

structure ReplaySignature where
  upstreamType : Option String
  upstreamCode : Option String
  messageAnchor : Option String

def provenRejections : List ReplaySignature :=
  [{ upstreamType := some "invalid_request_error", upstreamCode := some "validation_error",
     messageAnchor := some "encrypted content missing recognized prefix" }]

def rejectionStatuses : List Nat := [400, 422]
def fixtureBackedKinds : List String := ["openai-responses"]
def maxErrorBodyBytes : Nat := 64 * 1024

/-- The error envelope of a body. -/
structure Envelope where
  errorType : Option String := none
  code : Option String := none
  message : Option String := none

def splitWhitespace (text : List Char) : List (List Char) :=
  (text.splitOnP isWhitespace).filter fun word => !word.isEmpty

section Reading
variable (reader : BodyReader)

def normalizeMessage (text : String) : String :=
  reader.toLowercase (String.ofList ((splitWhitespace text.toList).intersperse [' ']).flatten)

def Envelope.read (body : String) : Envelope :=
  if maxErrorBodyBytes < body.utf8ByteSize then {}
  else
    match (reader.fromStr body).bind fun parsed => parsed.field "error" with
    | none => {}
    | some error =>
      { errorType := (error.field "type").bind Json.asStr
        code := (error.field "code").bind Json.asStr
        message := ((error.field "message").bind Json.asStr).map (normalizeMessage reader) }

def signatureMatches (signature : ReplaySignature) (type code : Option String)
    (envelope : Envelope) : Bool :=
  let effectiveType := type.or envelope.errorType
  let effectiveCode := code.or envelope.code
  if signature.upstreamType.isSome && signature.upstreamType ≠ effectiveType then false
  else if signature.upstreamCode.isSome && signature.upstreamCode ≠ effectiveCode then false
  else
    match signature.messageAnchor with
    | none => true
    | some anchor => envelope.message.any fun message =>
      anchor.toList.isPrefixOf message.toList

def isReplayRejection (status : Nat) (type code : Option String) (body : String)
    (kind : Option String) (attempt : ReplayAttempt) : Bool :=
  if !rejectionStatuses.contains status || !attempt.carriedGrayArtifact then false
  else if !(kind.any fun kind => fixtureBackedKinds.contains kind) then false
  else
    let envelope := Envelope.read reader body
    provenRejections.any fun signature => signatureMatches signature type code envelope

def replayRejection (status : Nat) (type code : Option String) (body : String)
    (kind : Option String) (attempt : ReplayAttempt) : Option ClassifiedFailure :=
  if isReplayRejection reader status type code body kind attempt then
    some (byType (.featureUnsupported Filter.reasoningReplay))
  else none

/-! ### The classification -/

def classifyUpstreamAttempt (status : Nat) (type code : Option String) (body : String)
    (kind : Option String) (attempt : ReplayAttempt) : ClassifiedFailure :=
  let table := FamilyTokens.familyFor kind
  if status = 0 then byStatus .networkError
  else if status = 401 || status = 403 || status = 407 then byStatus .auth
  else if status = 429 then byStatus .rateLimited
  else if 400 ≤ status && status ≤ 499 then
    let row := badRequestRow type code table
    if row.failure ≠ .badRequest then row
    else (replayRejection reader status type code body kind attempt).getD row
  else if status = 529 then byStatus .overloaded
  else if status = 503 && tokenIn type code table.overloaded then byType .overloaded
  else if 500 ≤ status && status ≤ 599 then byStatus .serverError
  else byStatus .unknown

def classifyUpstream (status : Nat) (type code kind : Option String) : ClassifiedFailure :=
  classifyUpstreamAttempt reader status type code "" kind .none

def classifyWithAttempt (error : Error) (kind : Option String) (attempt : ReplayAttempt) :
    ClassifiedFailure :=
  match error with
  | .upstream _ status body _ type code _ =>
    classifyUpstreamAttempt reader status type code body kind attempt
  | .streaming _ => byVariant .networkError
  | .auth _ => byVariant .auth
  | _ => byVariant .unknown

def classify (error : Error) (kind : Option String) : ClassifiedFailure :=
  classifyWithAttempt reader error kind .none

/-- The token of a class in the config, none for the unclassified. -/
def FailureClass.classToken : FailureClass → Option String
  | .rateLimited => some "rate-limited"
  | .auth => some "auth"
  | .badRequest => some "bad-request"
  | .contentPolicy => some "content-policy"
  | .contextWindow => some "context-window"
  | .serverError => some "server-error"
  | .timeout => some "timeout"
  | .networkError => some "network-error"
  | .overloaded => some "overloaded"
  | .featureUnsupported _ => some "feature-unsupported"
  | .unknown => none

/-- A class without the capability a body named. -/
def FailureClass.erased : FailureClass → FailureClass
  | .featureUnsupported _ => .featureUnsupported ""
  | other => other

structure StatusClassGuidance where
  status : Nat
  primary : FailureClass
  alternatives : List FailureClass
deriving Repr, DecidableEq

def unionLiftTokens : List String :=
  FamilyTokens.union.contentPolicy ++ FamilyTokens.union.contextWindow ++
    FamilyTokens.union.overloaded ++ FamilyTokens.union.featureUnsupported

/-- What a bare status is classified as, and what else a body may lift it to. -/
def classGuidanceForStatus (status : Nat) : StatusClassGuidance :=
  let primary := (classifyUpstream reader status none none none).failure
  let alternatives := unionLiftTokens.foldl (fun alternatives token =>
    let lifted := (classifyUpstream reader status (some token) (some token) none).failure.erased
    if lifted ≠ primary ∧ lifted ∉ alternatives then alternatives ++ [lifted] else alternatives) []
  { status, primary, alternatives }

end Reading

/-! ### The rows of the policy -/

/-- The class that stands for the row a class belongs to. -/
def FailureClass.row : FailureClass → FailureClass
  | .contentPolicy | .contextWindow | .featureUnsupported _ => .badRequest
  | .overloaded => .serverError
  | other => other

theorem bakedClassDefaults_row (policy : RetryPolicy) (failure : FailureClass) :
    policy.bakedClassDefaults failure.row = policy.bakedClassDefaults failure := by
  cases failure <;> rfl

theorem lastOutcome_row (failure : FailureClass) :
    lastOutcomeFromFailureClass failure.row = lastOutcomeFromFailureClass failure := by
  cases failure <;> rfl

theorem classDebits_row (failure : FailureClass) : classDebits failure.row = classDebits failure := by
  cases failure <;> rfl

/-- What the operator's overlay has for a class. -/
def overlayOf (policy : RetryPolicy) (failure : FailureClass) : Option ClassPolicy :=
  (ConfigFailureClass.fromFailureClass failure).bind fun named => policy.classes.lookup named

/-- An overlay that treats the classes of a row alike, as an empty one does. -/
def RowUniform (policy : RetryPolicy) : Prop :=
  ∀ failure, overlayOf policy failure = overlayOf policy failure.row

theorem resolvedClass_row {policy : RetryPolicy} (uniform : RowUniform policy)
    (failure : FailureClass) : policy.resolvedClass failure.row = policy.resolvedClass failure := by
  have same := uniform failure
  unfold overlayOf at same
  unfold RetryPolicy.resolvedClass
  rw [bakedClassDefaults_row, same]

section Rows
variable {reader : BodyReader} {status : Nat} {type code kind : Option String} {body : String}
variable {attempt : ReplayAttempt}

theorem row_badRequestRow (table : FamilyTokens) :
    (badRequestRow type code table).failure.row = .badRequest := by
  unfold badRequestRow
  by_cases policed : tokenIn type code table.contentPolicy = true
  · rw [if_pos policed]
    rfl
  · rw [if_neg policed]
    by_cases windowed : tokenIn type code table.contextWindow = true
    · rw [if_pos windowed]
      rfl
    · rw [if_neg windowed]
      cases matchedToken type code table.featureUnsupported <;> rfl

/-- The class of a client error: its row's, or the replay lift. -/
theorem classify_client (auth : ¬(status = 401 ∨ status = 403 ∨ status = 407))
    (limited : status ≠ 429) (low : 400 ≤ status) (high : status ≤ 499) :
    classifyUpstreamAttempt reader status type code body kind attempt =
      if (badRequestRow type code (FamilyTokens.familyFor kind)).failure ≠ .badRequest
      then badRequestRow type code (FamilyTokens.familyFor kind)
      else (replayRejection reader status type code body kind attempt).getD
        (badRequestRow type code (FamilyTokens.familyFor kind)) := by
  have zero : status ≠ 0 := by omega
  have one : status ≠ 401 := fun same => auth (.inl same)
  have three : status ≠ 403 := fun same => auth (.inr (.inl same))
  have seven : status ≠ 407 := fun same => auth (.inr (.inr same))
  unfold classifyUpstreamAttempt
  simp [zero, one, three, seven, limited, low, high]

theorem row_client (auth : ¬(status = 401 ∨ status = 403 ∨ status = 407))
    (limited : status ≠ 429) (low : 400 ≤ status) (high : status ≤ 499) :
    (classifyUpstreamAttempt reader status type code body kind attempt).failure.row =
      .badRequest := by
  rw [classify_client auth limited low high]
  by_cases lifted : (badRequestRow type code (FamilyTokens.familyFor kind)).failure ≠ .badRequest
  · rw [if_pos lifted]
    exact row_badRequestRow _
  · rw [if_neg lifted]
    unfold replayRejection
    by_cases rejected : isReplayRejection reader status type code body kind attempt = true
    · rw [if_pos rejected]
      rfl
    · rw [if_neg rejected]
      exact row_badRequestRow _

theorem classify_unavailable :
    classifyUpstreamAttempt reader 503 type code body kind attempt =
      if tokenIn type code (FamilyTokens.familyFor kind).overloaded then byType .overloaded
      else byStatus .serverError := by
  simp [classifyUpstreamAttempt]

/-- A status outside the client errors and 503 is classified by itself. -/
theorem classify_bare (client : (status = 401 ∨ status = 403 ∨ status = 407) ∨ status = 429 ∨
    ¬(400 ≤ status ∧ status ≤ 499)) (available : status ≠ 503) :
    classifyUpstreamAttempt reader status type code body kind attempt =
      classifyUpstream reader status none none none := by
  unfold classifyUpstream classifyUpstreamAttempt
  dsimp only
  by_cases zero : status = 0
  · rw [if_pos zero, if_pos zero]
  · rw [if_neg zero, if_neg zero]
    obtain auth | limited | outside := client
    · have refused : (status = 401 || status = 403 || status = 407) = true := by
        simpa [or_assoc] using auth
      rw [if_pos refused, if_pos refused]
    · have signed : ¬(status = 401 || status = 403 || status = 407) = true := by simp [limited]
      rw [if_neg signed, if_neg signed, if_pos limited, if_pos limited]
    · have beyond : ¬(400 ≤ status && status ≤ 499) = true := by simpa using outside
      simp [beyond, available]

/-- The row is the status's own: no token, body, provider or replayed artifact changes it. -/
theorem row_classify :
    (classifyUpstreamAttempt reader status type code body kind attempt).failure.row =
      (classifyUpstream reader status none none none).failure.row := by
  by_cases client : (status = 401 ∨ status = 403 ∨ status = 407) ∨ status = 429 ∨
      ¬(400 ≤ status ∧ status ≤ 499)
  · by_cases available : status = 503
    · subst available
      unfold classifyUpstream
      rw [classify_unavailable, classify_unavailable]
      cases tokenIn type code (FamilyTokens.familyFor kind).overloaded <;> rfl
    · rw [classify_bare client available]
  · have auth : ¬(status = 401 ∨ status = 403 ∨ status = 407) := fun auth => client (.inl auth)
    have limited : status ≠ 429 := fun limited => client (.inr (.inl limited))
    have bounds : 400 ≤ status ∧ status ≤ 499 := by
      by_contra outside
      exact client (.inr (.inr outside))
    unfold classifyUpstream
    rw [row_client auth limited bounds.1 bounds.2, row_client auth limited bounds.1 bounds.2]

/-- The router decides on an upstream failure by its status: the tokens, the body, the provider
and the artifacts replayed name the class, and leave retry, fallback and debit as they were. -/
theorem lifts_keep_decisions {policy : RetryPolicy} (uniform : RowUniform policy)
    (provider : String) (retryAfter : Option Nat) (requestId : Option String)
    (overrides : List (Nat × FailureClass)) (attemptsMade : Nat) (isProbe : Bool) :
    let error := Error.upstream provider status body retryAfter type code requestId
    let plain := Error.upstream provider status "" retryAfter none none requestId
    let failure := applyRemap (classifyWithAttempt reader error kind attempt).failure
      (upstreamStatusForRemap error) overrides
    let bare := applyRemap (classify reader plain none).failure (upstreamStatusForRemap plain)
      overrides
    classDebits failure = classDebits bare ∧
      lastOutcomeFromFailureClass failure = lastOutcomeFromFailureClass bare ∧
      shouldFallback error failure policy isProbe = shouldFallback plain bare policy isProbe ∧
      shouldRetrySameProvider error failure policy attemptsMade isProbe =
        shouldRetrySameProvider plain bare policy attemptsMade isProbe := by
  intro error plain failure bare
  have rows : failure.row = bare.row := by
    have native : (classifyWithAttempt reader error kind attempt).failure.row =
        (classify reader plain none).failure.row :=
      row_classify
    have statuses : upstreamStatusForRemap error = upstreamStatusForRemap plain := rfl
    unfold failure bare applyRemap
    rw [statuses]
    cases (upstreamStatusForRemap plain).bind fun status =>
        overrides.find? fun override => override.1 = status with
    | none => exact native
    | some remapped => rfl
  have resolved : policy.resolvedClass failure = policy.resolvedClass bare := by
    rw [← resolvedClass_row uniform, rows, resolvedClass_row uniform]
  have probed : probeFastFailStatus error = probeFastFailStatus plain := rfl
  refine ⟨?_, ?_, ?_, ?_⟩
  · rw [← classDebits_row, rows, classDebits_row]
  · rw [← lastOutcome_row, rows, lastOutcome_row]
  · unfold shouldFallback
    rw [probed, resolved]
  · unfold shouldRetrySameProvider
    rw [probed, resolved]

def plainPolicy : RetryPolicy where
  maxAttempts := 3
  retryOn429 := none
  retryOn5xx := some 2
  retryOnNetwork := none
  classes := ∅
  maxHonoredRetryAfterMs := none
  probeMaxTokens := 0

/-- A 503 with the overload token, retried and debited as any 503. -/
theorem overload_decided_by_status :
    classDebits .overloaded = classDebits .serverError ∧
      shouldRetrySameProvider (.upstream "seat" 503 "" none (some "overloaded_error") none none)
          .overloaded plainPolicy 1 false =
        shouldRetrySameProvider (.upstream "seat" 503 "" none none none none) .serverError
          plainPolicy 1 false := by
  have uniform : RowUniform plainPolicy := fun failure => by cases failure <;> rfl
  have decided := @lifts_keep_decisions ⟨fun _ => none, id⟩ 503 (some "overloaded_error") none
    (some "anthropic-api") "" .none plainPolicy uniform "seat" none none [] 1 false
  exact ⟨decided.1, decided.2.2.2⟩

/-- A class a body can bring about for a status. -/
def Reachable (reader : BodyReader) (status : Nat) (failure : FailureClass) : Prop :=
  ∃ type code body kind attempt,
    (classifyUpstreamAttempt reader status type code body kind attempt).failure.erased = failure

theorem erased_badRequestRow (table : FamilyTokens) :
    (badRequestRow type code table).failure.erased ∈
      [FailureClass.badRequest, .contentPolicy, .contextWindow, .featureUnsupported ""] := by
  unfold badRequestRow
  by_cases policed : tokenIn type code table.contentPolicy = true
  · rw [if_pos policed]
    decide
  · rw [if_neg policed]
    by_cases windowed : tokenIn type code table.contextWindow = true
    · rw [if_pos windowed]
      decide
    · rw [if_neg windowed]
      cases matchedToken type code table.featureUnsupported with
      | none => decide
      | some capability => simp [byType, FailureClass.erased]

/-- The lifted class of each token, at a client error of no class of its own. -/
theorem classify_token (auth : ¬(status = 401 ∨ status = 403 ∨ status = 407))
    (limited : status ≠ 429) (low : 400 ≤ status) (high : status ≤ 499) :
    classifyUpstream reader status type code none =
      badRequestRow type code FamilyTokens.union := by
  unfold classifyUpstream
  rw [classify_client auth limited low high]
  have quiet : replayRejection reader status type code "" none .none = none := by
    simp [replayRejection, isReplayRejection, ReplayAttempt.carriedGrayArtifact, ReplayAttempt.none]
  rw [quiet]
  have table : FamilyTokens.familyFor none = FamilyTokens.union := rfl
  rw [table, Option.getD_none, ite_self]

theorem guidance_client (auth : ¬(status = 401 ∨ status = 403 ∨ status = 407))
    (limited : status ≠ 429) (low : 400 ≤ status) (high : status ≤ 499) :
    classGuidanceForStatus reader status =
      ⟨status, .badRequest, [.contentPolicy, .contextWindow, .featureUnsupported ""]⟩ := by
  unfold classGuidanceForStatus
  simp only [classify_token auth limited low high]
  rfl

theorem guidance_unavailable :
    classGuidanceForStatus reader 503 = ⟨503, .serverError, [.overloaded]⟩ := by
  unfold classGuidanceForStatus classifyUpstream
  simp only [classify_unavailable]
  rfl

/-- A status that no token lifts. -/
def Plain (status : Nat) : Prop :=
  ((status = 401 ∨ status = 403 ∨ status = 407) ∨ status = 429 ∨ ¬(400 ≤ status ∧ status ≤ 499)) ∧
    status ≠ 503

theorem status_cases (status : Nat) : Plain status ∨ status = 503 ∨
    (¬(status = 401 ∨ status = 403 ∨ status = 407) ∧ status ≠ 429 ∧ 400 ≤ status ∧ status ≤ 499) := by
  unfold Plain
  omega

theorem bare_erased (plain : Plain status) :
    (classifyUpstream reader status none none none).failure.erased =
      (classifyUpstream reader status none none none).failure := by
  unfold classifyUpstream classifyUpstreamAttempt
  dsimp only
  obtain ⟨client, available⟩ := plain
  by_cases zero : status = 0
  · rw [if_pos zero]
    rfl
  · rw [if_neg zero]
    by_cases auth : (status = 401 || status = 403 || status = 407) = true
    · rw [if_pos auth]
      rfl
    · rw [if_neg auth]
      by_cases limited : status = 429
      · rw [if_pos limited]
        rfl
      · have beyond : ¬(400 ≤ status && status ≤ 499) = true := by
          simp only [Bool.or_eq_true, decide_eq_true_eq, or_assoc] at auth
          simp only [Bool.and_eq_true, decide_eq_true_eq]
          omega
        rw [if_neg limited, if_neg beyond]
        by_cases loaded : status = 529
        · rw [if_pos loaded]
          rfl
        · rw [if_neg loaded, if_neg (by simp [available])]
          by_cases server : (500 ≤ status && status ≤ 599) = true
          · rw [if_pos server]
            rfl
          · rw [if_neg server]
            rfl

theorem guidance_plain (plain : Plain status) : classGuidanceForStatus reader status =
    ⟨status, (classifyUpstream reader status none none none).failure, []⟩ := by
  unfold classGuidanceForStatus
  have lifted : ∀ token, (classifyUpstream reader status (some token) (some token) none).failure =
      (classifyUpstream reader status none none none).failure := fun _ =>
    congrArg ClassifiedFailure.failure (classify_bare plain.1 plain.2)
  simp only [lifted, bare_erased plain]
  rw [List.foldl_fixed' fun _ => by simp]

theorem guidance_reachable (failure : FailureClass) :
    Reachable reader status failure ↔
      failure = (classGuidanceForStatus reader status).primary ∨
        failure ∈ (classGuidanceForStatus reader status).alternatives := by
  obtain plain | rfl | ⟨auth, limited, low, high⟩ := status_cases status
  · rw [guidance_plain plain]
    constructor
    · intro reached
      obtain ⟨type, code, body, kind, attempt, rfl⟩ := reached
      rw [classify_bare plain.1 plain.2, bare_erased plain]
      exact .inl rfl
    · intro named
      obtain rfl | none := named
      · exact ⟨none, none, "", none, .none, bare_erased plain⟩
      · cases none
  · rw [guidance_unavailable]
    constructor
    · intro reached
      obtain ⟨type, code, body, kind, attempt, rfl⟩ := reached
      rw [classify_unavailable]
      cases tokenIn type code (FamilyTokens.familyFor kind).overloaded with
      | false => exact .inl rfl
      | true => exact .inr (List.mem_singleton_self _)
    · intro named
      obtain rfl | lifted := named
      · exact ⟨none, none, "", none, .none, by rw [classify_unavailable]; rfl⟩
      · rw [List.mem_singleton] at lifted
        subst lifted
        exact ⟨some "overloaded_error", none, "", none, .none, by rw [classify_unavailable]; rfl⟩
  · rw [guidance_client auth limited low high]
    constructor
    · intro reached
      obtain ⟨type, code, body, kind, attempt, rfl⟩ := reached
      rw [← List.mem_cons, classify_client auth limited low high]
      by_cases lifted : (badRequestRow type code (FamilyTokens.familyFor kind)).failure ≠ .badRequest
      · rw [if_pos lifted]
        exact erased_badRequestRow _
      · rw [if_neg lifted]
        unfold replayRejection
        by_cases rejected : isReplayRejection reader status type code body kind attempt = true
        · rw [if_pos rejected]
          simp [byType, FailureClass.erased]
        · rw [if_neg rejected]
          exact erased_badRequestRow _
    · have token : ∀ token, (badRequestRow (some token) none FamilyTokens.union).failure.erased =
          failure → Reachable reader status failure := by
        intro token same
        refine ⟨some token, none, "", none, .none, ?_⟩
        have classified := @classify_token reader status (some token) none auth limited low high
        unfold classifyUpstream at classified
        rw [classified, same]
      intro named
      rw [← List.mem_cons] at named
      simp only [List.mem_cons, List.not_mem_nil, or_false] at named
      obtain rfl | rfl | rfl | rfl := named
      · exact token "invalid_request_error" rfl
      · exact token "content_filter" rfl
      · exact token "context_length_exceeded" rfl
      · exact token "unsupported_value" rfl

/-- An alternative is taken up only where it is another class than all before it. -/
theorem guidance_nodup (status : Nat) : ((classGuidanceForStatus reader status).primary ::
    (classGuidanceForStatus reader status).alternatives).Nodup := by
  unfold classGuidanceForStatus
  dsimp only
  let bare := (classifyUpstream reader status none none none).failure
  refine List.foldlRecOn (motive := fun alternatives => (bare :: alternatives).Nodup)
    unionLiftTokens _ (List.nodup_singleton bare) ?_
  intro alternatives distinct token _
  split
  case isTrue fresh =>
    rw [← List.cons_append, ← List.concat_eq_append]
    exact distinct.concat (by simpa using fresh)
  case isFalse => exact distinct

/-- The guidance for a status names its bare class and, as alternatives, just the other classes
that some body of some provider, with whatever was replayed, brings about; each once. -/
theorem guidance_exact (status : Nat) :
    (classGuidanceForStatus reader status).primary =
        (classifyUpstream reader status none none none).failure ∧
      ((classGuidanceForStatus reader status).primary ::
        (classGuidanceForStatus reader status).alternatives).Nodup ∧
      ∀ failure, Reachable reader status failure ↔
        failure = (classGuidanceForStatus reader status).primary ∨
          failure ∈ (classGuidanceForStatus reader status).alternatives :=
  ⟨rfl, guidance_nodup status, guidance_reachable⟩

end Rows

end Routectl.Dispatch
