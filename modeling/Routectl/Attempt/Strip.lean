import Mathlib.Data.List.Dedup
import Mathlib.Data.List.Sort
import Mathlib.Data.String.Basic
import Routectl.Cache.Breakpoints
import Routectl.ContextAnchor.Digest
import Routectl.Dispatch.Failure
import Routectl.Filter.Strip
import Routectl.Reduction.Tail

/-! The per-attempt clone of a request: the fields that stripping, minification and cache
placement read or write, the others as the JSON they serialize to. -/
namespace Routectl.Attempt
open Library
open Routectl.Trim (CacheControl Message cacheField)
open Routectl.ContextAnchor (SystemBlock SystemContent CustomTool ToolDef)
open Routectl.Cache (Breakpoint BreakpointPosition messageControls)

structure ChatRequest where
  model : String
  messages : List Message := []
  system : Option SystemContent := none
  tools : Option (List ToolDef) := none
  toolChoice : Option Json := none
  cacheControl : Option CacheControl := none
  anthropicBeta : List String := []
  providerExtras : Option Json := none
  settings : List (String × Json) := []

/-- The marker an opaque value spells, none where it is malformed. -/
def cacheControlOf : Json → Option CacheControl
  | .object fields =>
    match fields.lookup "type", fields.lookup "ttl" with
    | some (.string kind), none => some ⟨kind, none⟩
    | some (.string kind), some .null => some ⟨kind, none⟩
    | some (.string kind), some (.string ttl) => some ⟨kind, some ttl⟩
    | _, _ => none
  | .array [.string kind] => some ⟨kind, none⟩
  | .array [.string kind, .null] => some ⟨kind, none⟩
  | .array [.string kind, .string ttl] => some ⟨kind, some ttl⟩
  | _ => none

def toolControl : ToolDef → Option CacheControl
  | .custom tool => tool.cacheControl
  | .other value => (value.field "cache_control").bind cacheControlOf

def toolName : ToolDef → Option String
  | .custom tool => some tool.name
  | .other value => value.stringField "name"

def systemBlocks : Option SystemContent → List SystemBlock
  | some (.blocks blocks) => blocks
  | _ => []

namespace ChatRequest

/-- The markers in prefix order. -/
def cacheBreakpoints (req : ChatRequest) : List Breakpoint :=
  ((req.tools.getD []).filterMap toolControl).map (Breakpoint.mk .tools) ++
    ((systemBlocks req.system).filterMap SystemBlock.cacheControl).map (Breakpoint.mk .system) ++
    (req.messages.flatMap messageControls).map (Breakpoint.mk .messages) ++
    req.cacheControl.toList.map (Breakpoint.mk .topLevel)

def validateSource (req : ChatRequest) : Except String Unit := Cache.validate req.cacheBreakpoints

/-- The request as the minifier reads it. -/
def reducible (req : ChatRequest) : Trim.ChatRequest :=
  { model := req.model
    messages := req.messages
    settings := cacheField req.cacheControl ++ req.settings }

variable {Value : Type} [BEq Value] (fromStr : String → Option Value)

def minified (req : ChatRequest) : ChatRequest :=
  { req with messages := (Reduction.applyJsonMinify fromStr req.reducible).2.messages }

end ChatRequest

/-! The strip interceptor: detection, the removal of what the matched plans name, and the
post-check that rolls a removal back. -/
open Routectl.Dispatch (Error)
open Routectl.ContextAnchor (ToolDef)
open Routectl.Filter (actionFor advisor contextManagement contextManagementBeta)

structure StripPlan where
  toolType : Option String := none
  betaTokens : List String := []
  bodyKeys : List String := []
deriving Repr, DecidableEq

def stripPlan (featureKey : String) : Option StripPlan :=
  if featureKey = advisor then some { toolType := some advisor }
  else if featureKey = contextManagement then
    some { betaTokens := [contextManagementBeta], bodyKeys := [contextManagement] }
  else none

inductive Outcome where
  | unchanged
  | stripped
  | reject (error : Error)
deriving DecidableEq

structure StripContext where
  keys : List String := []
  strict : Bool := false

/-- A trailing date of eight digits behind a dash or an underscore. -/
def isDateSuffix : List Char → Bool
  | separator :: date =>
    (separator == '-' || separator == '_') && date.length == 8 && date.all Char.isDigit
  | [] => false

def stripDateSuffix (text : String) : String :=
  let start := text.toList.length - 9
  if isDateSuffix (text.toList.drop start) then String.ofList (text.toList.take start) else text

def toolMatchesType (toolType : String) : ToolDef → Bool
  | .other value => (value.stringField "type").map stripDateSuffix == some toolType
  | .custom _ => false

namespace ChatRequest

def toolsContainsType (req : ChatRequest) (toolType : String) : Bool :=
  match req.tools with
  | some tools => tools.any (toolMatchesType toolType)
  | none => false

def toolsContainsName (req : ChatRequest) (name : String) : Bool :=
  match req.tools with
  | some tools => tools.any fun tool => toolName tool == some name
  | none => false

def toolsAreEmpty (req : ChatRequest) : Bool :=
  match req.tools with
  | some tools => tools.isEmpty
  | none => true

def bodyContainsKey (req : ChatRequest) (key : String) : Bool :=
  match req.providerExtras with
  | some (.object fields) => (fields.lookup key).isSome
  | _ => false

def planMatches (req : ChatRequest) (plan : StripPlan) : Bool :=
  let toolHit := plan.toolType.any req.toolsContainsType
  let betaHit := plan.betaTokens.any fun token => req.anthropicBeta.any (· == token)
  let bodyHit := plan.bodyKeys.any req.bodyContainsKey
  toolHit || betaHit || bodyHit

end ChatRequest

def forcedToolName (toolChoice : Option Json) : Option String :=
  match toolChoice with
  | some (.object fields) =>
    match fields.lookup "type" with
    | some (.string "tool") => (Json.object fields).stringField "name"
    | some (.string "function") =>
      ((Json.object fields).field "function").bind (Json.stringField "name")
    | _ => none
  | _ => none

def toolChoiceIsMandatory (toolChoice : Option Json) : Bool :=
  match toolChoice with
  | some (.string "required") => true
  | some (.object fields) =>
    match fields.lookup "type" with
    | some (.string kind) => kind == "any" || kind == "tool" || kind == "function"
    | _ => false
  | _ => false

/-- An emptied list becomes no list. -/
def dropEmpty (tools : Option (List ToolDef)) : Option (List ToolDef) :=
  if tools.any List.isEmpty then none else tools

def removeKeys (keys : List String) : Option Json → Option Json
  | some (.object fields) => some (.object (fields.filter fun entry => entry.1 ∉ keys))
  | extras => extras

namespace ChatRequest

def applyPlan (req : ChatRequest) (plan : StripPlan) : ChatRequest :=
  let tools :=
    match plan.toolType with
    | some toolType =>
      dropEmpty (req.tools.map fun tools => tools.filter fun tool => !toolMatchesType toolType tool)
    | none => req.tools
  let anthropicBeta :=
    if plan.betaTokens.isEmpty then req.anthropicBeta
    else req.anthropicBeta.filter fun token => token ∉ plan.betaTokens
  let providerExtras :=
    if plan.bodyKeys.isEmpty then req.providerExtras
    else removeKeys plan.bodyKeys req.providerExtras
  { req with tools, anthropicBeta, providerExtras }

def forcedRemoved (forced : String) : Error :=
  .validation ("capability strip removed tool `" ++ forced ++ "` still forced by tool_choice")

def emptiedTools : Error :=
  .validation "capability strip emptied tools while tool_choice mandates a tool"

def validatePostStrip (req : ChatRequest) (strippedTools : Bool) : Except Error Unit :=
  if strippedTools then
    match (forcedToolName req.toolChoice).filter fun forced => !req.toolsContainsName forced with
    | some forced => .error (forcedRemoved forced)
    | none =>
      if toolChoiceIsMandatory req.toolChoice && req.toolsAreEmpty then .error emptiedTools
      else .ok ()
  else .ok ()

/-- The touched surfaces before the strip, an untouched one not captured. -/
structure Snapshot where
  tools : Option (Option (List ToolDef))
  anthropicBeta : Option (List String)
  providerExtras : Option (Option Json)

def capture (req : ChatRequest) (touchTools touchBeta touchBody : Bool) : Snapshot where
  tools := if touchTools then some req.tools else none
  anthropicBeta := if touchBeta then some req.anthropicBeta else none
  providerExtras := if touchBody then some req.providerExtras else none

def restore (req : ChatRequest) (snapshot : Snapshot) : ChatRequest :=
  { req with
    tools := snapshot.tools.getD req.tools
    anthropicBeta := snapshot.anthropicBeta.getD req.anthropicBeta
    providerExtras := snapshot.providerExtras.getD req.providerExtras }

/-- Whether a key strips here, and the request has something for it to strip. -/
def wouldStrip (req : ChatRequest) (key : String) : Bool :=
  match actionFor key with
  | .routeAway => false
  | .strip .assistantReasoning => false
  | .strip _ =>
    match stripPlan key with
    | some plan => req.planMatches plan
    | none => false

def strictForbids (named : List String) : Error :=
  .validation ("strict translation forbids stripping capability: " ++ ", ".intercalate named)

def apply (req : ChatRequest) (ctx : StripContext) : Outcome × ChatRequest :=
  let keys := (ctx.keys.insertionSort (· ≤ ·)).dedup
  let named := keys.filter req.wouldStrip
  if named.isEmpty then (.unchanged, req)
  else if ctx.strict then (.reject (strictForbids named), req)
  else
    let plans := named.filterMap stripPlan
    let touchTools := plans.any fun plan => plan.toolType.isSome
    let touchBeta := plans.any fun plan => !plan.betaTokens.isEmpty
    let touchBody := plans.any fun plan => !plan.bodyKeys.isEmpty
    let snapshot := req.capture touchTools touchBeta touchBody
    let attempted := plans.foldl applyPlan req
    match attempted.validatePostStrip touchTools with
    | .error error => (.reject error, attempted.restore snapshot)
    | .ok () => (.stripped, attempted)

end ChatRequest
end Routectl.Attempt
