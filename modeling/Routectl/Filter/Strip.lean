import Mathlib.Data.List.Basic
import Routectl.Oauth.Refresh

/-! Which capabilities may be stripped from a request, and which beta tokens the
operator pins to the wire. -/
namespace Routectl.Filter
open Routectl.Oauth (isWhitespace)

def webSearch : String := "web_search"
def computerUse : String := "computer_use"
def structuredOutput : String := "structured_output"
def reasoningReplay : String := "reasoning_replay"
def advisor : String := "advisor"
def contextManagement : String := "context_management"
def contextManagementBeta : String := "context-management-2025-06-27"

inductive StripKind where
  | toolParam
  | betaFlag
  | assistantReasoning
deriving Repr, DecidableEq

inductive CapabilityAction where
  | routeAway
  | strip (kind : StripKind)
deriving Repr, DecidableEq

/-- Every key that strips, with the surface its strip touches. -/
def stripActions : List (String × StripKind) :=
  [(advisor, .toolParam), (contextManagement, .betaFlag), (reasoningReplay, .assistantReasoning)]

def actionFor (featureKey : String) : CapabilityAction :=
  if featureKey = webSearch ∨ featureKey = computerUse ∨ featureKey = structuredOutput then
    .routeAway
  else
    match stripActions.find? fun action => action.1 = featureKey with
    | some (_, kind) => .strip kind
    | none => .routeAway

/-- An operator can only tighten: a listed key routes away. -/
def effectiveActionFor (featureKey : String) (essential : List String) : CapabilityAction :=
  if essential.any fun key => key = featureKey then .routeAway else actionFor featureKey

def CapabilityAction.strips : CapabilityAction → Bool
  | .routeAway => false
  | .strip _ => true

def stripBetaTokens (featureKey : String) : List String :=
  if featureKey = contextManagement then [contextManagementBeta] else []

/-- `str::trim`. -/
def trim (text : List Char) : List Char :=
  ((text.dropWhile isWhitespace).reverse.dropWhile isWhitespace).reverse

def eqIgnoreAsciiCase (left right : String) : Bool :=
  left.toList.map Char.toLower = right.toList.map Char.toLower

/-- The pieces of a comma-separated header value, trimmed, the empty ones gone. -/
def betaTokens (value : String) : List String :=
  (((value.toList.splitOn ',').map trim).filter fun piece => !piece.isEmpty).map String.ofList

def betaHeader (extras : List (String × String)) : String :=
  match extras.find? fun extra => eqIgnoreAsciiCase extra.1 "anthropic-beta" with
  | some (_, value) => value
  | none => ""

/-- The beta tokens of both header tables, each once, in first-seen order. -/
def operatorBetas (providerExtras : Option (List (String × String)))
    (modelExtras : List (String × String)) : List String :=
  let providerValue :=
    match providerExtras with
    | some extras => betaHeader extras
    | none => ""
  (betaTokens providerValue ++ betaTokens (betaHeader modelExtras)).foldl
    (fun out token => if out.contains token then out else out ++ [token]) []

end Routectl.Filter
