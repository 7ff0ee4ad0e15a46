import Routectl.Trim.Request

/-! The steady-state trim: a front-anchored plan and its application. Token
counts saturate at `u64Max`. -/
namespace Routectl.Trim
open Library

def u64Max : Nat := 2 ^ 64 - 1

def fnvOffsetBasis : UInt64 := 14695981039346656037
def fnvPrime : UInt64 := 1099511628211

def fnv1aHash (bytes : List UInt8) : UInt64 :=
  bytes.foldl (fun hash byte => (hash ^^^ byte.toUInt64) * fnvPrime) fnvOffsetBasis

def bytesPerTokenEstimate : Nat := 4

def elisionPlaceholder : String := "[elided: prior tool content removed to bound context]"

structure SteadyStateTrimParams where
  triggerTokens : Nat := 100000
  clearAtLeastTokens : Nat := 20000
  headKeepMessages : Nat := 2
  keepRecentMessages : Nat := 6

structure ElisionMark where
  messageIndex : Nat
  partIndex : Nat
  originalTokens : Nat
  replacement : Option String
deriving DecidableEq

structure PrefixReductionCandidate where
  d : Nat
  cAfter : Nat
  c : Nat
deriving DecidableEq

/-- A half-open range of message indices. -/
structure Span where
  start : Nat
  stop : Nat
deriving DecidableEq

structure SteadyStateTrimPlan where
  candidate : PrefixReductionCandidate
  span : Span
  marks : List ElisionMark
deriving DecidableEq

def isPlaceholder : Json → Bool
  | .string text => text = elisionPlaceholder
  | _ => false

def estimateValueTokens (value : Json) : Nat := value.byteLength / bytesPerTokenEstimate

def estimateStrTokens (text : String) : Nat := text.utf8ByteSize / bytesPerTokenEstimate

def estimateTotalTokens (request : ChatRequest) : Nat :=
  request.toJson.byteLength / bytesPerTokenEstimate

def estimateMessagesTokens (messages : List Message) : Nat :=
  (messages.map fun message => message.toJson.byteLength).sum / bytesPerTokenEstimate

/-- Only a tool result's content and a tool use's input can be elided, once. -/
def elidablePartTokens : ContentPart → Option Nat
  | .known (.toolResult _ content _ _) =>
    if isPlaceholder content then none else some (estimateValueTokens content)
  | .known (.toolUse _ _ input _) =>
    if isPlaceholder input then none else some (estimateValueTokens input)
  | _ => none

/-- A scan stops at the floor with its marks, or runs on with what it freed. -/
inductive Scan where
  | reached (marks : List ElisionMark)
  | scanning (marks : List ElisionMark) (freed : Nat)

/-- One message's parts, from `partIndex` on. -/
def scanParts (clearAtLeast messageIndex : Nat) :
    List ContentPart → (partIndex : Nat) → (marks : List ElisionMark) → (freed : Nat) → Scan
  | [], _, marks, freed => .scanning marks freed
  | part :: rest, partIndex, marks, freed =>
    match elidablePartTokens part with
    | none => scanParts clearAtLeast messageIndex rest (partIndex + 1) marks freed
    | some tokens =>
      let marked := marks ++ [⟨messageIndex, partIndex, tokens, none⟩]
      let total := min (freed + tokens) u64Max
      if clearAtLeast ≤ total then .reached marked
      else scanParts clearAtLeast messageIndex rest (partIndex + 1) marked total

/-- The messages left in the window, from `messageIndex` on. -/
def scanMessages (clearAtLeast : Nat) :
    List Message → (messageIndex : Nat) → (marks : List ElisionMark) → (freed : Nat) →
      Option (List ElisionMark)
  | [], _, _, _ => none
  | message :: rest, messageIndex, marks, freed =>
    match message.content with
    | .parts parts =>
      match scanParts clearAtLeast messageIndex parts 0 marks freed with
      | .reached found => some found
      | .scanning marked total => scanMessages clearAtLeast rest (messageIndex + 1) marked total
    | _ => scanMessages clearAtLeast rest (messageIndex + 1) marks freed

def collectElisionMarks (request : ChatRequest) (start scanEnd clearAtLeast : Nat) :
    Option (List ElisionMark) :=
  scanMessages clearAtLeast ((request.messages.take scanEnd).drop start) start [] 0

/-- Tokens from the first elided message to the end of the request. -/
def cAfterFromFirstMark (request : ChatRequest) (marks : List ElisionMark) : Option Nat :=
  (marks.map ElisionMark.messageIndex).min?.map fun first =>
    estimateMessagesTokens (request.messages.drop first)

def proposeSteadyStateTrim (request : ChatRequest) (params : SteadyStateTrimParams) :
    Option SteadyStateTrimPlan :=
  let c := estimateTotalTokens request
  if c ≤ params.triggerTokens then none
  else if request.messages.length < params.keepRecentMessages then none
  else
    let scanEnd := request.messages.length - params.keepRecentMessages
    if scanEnd ≤ params.headKeepMessages then none
    else do
      let marks ←
        collectElisionMarks request params.headKeepMessages scanEnd params.clearAtLeastTokens
      let elidedTokens := (marks.map ElisionMark.originalTokens).sum
      let replaced := min (estimateStrTokens elisionPlaceholder * marks.length) u64Max
      let last ← marks.getLast?
      let cAfter ← cAfterFromFirstMark request marks
      some
        { candidate := { d := elidedTokens - replaced, cAfter, c }
          span := { start := params.headKeepMessages, stop := last.messageIndex + 1 }
          marks }

def substitutePlaceholder (part : ContentPart) (replacement : Option String) : ContentPart :=
  let text := Json.string (replacement.getD elisionPlaceholder)
  match part with
  | .known (.toolResult toolUseId _ isError control) =>
    .known (.toolResult toolUseId text isError control)
  | .known (.toolUse id name _ control) => .known (.toolUse id name text control)
  | untouched => untouched

/-- A mark that addresses no part is skipped. -/
def applyMark (messages : List Message) (mark : ElisionMark) : List Message :=
  match messages[mark.messageIndex]? with
  | none => messages
  | some message =>
    match message.content with
    | .parts parts =>
      match parts[mark.partIndex]? with
      | none => messages
      | some part =>
        let elided := parts.set mark.partIndex (substitutePlaceholder part mark.replacement)
        messages.set mark.messageIndex { message with content := .parts elided }
    | _ => messages

def applyTrimPlan (request : ChatRequest) (plan : SteadyStateTrimPlan) : ChatRequest :=
  { request with messages := plan.marks.foldl applyMark request.messages }

/-- The hash of the trimmed messages the span covers, none when it overruns. -/
def trimmedPrefixFingerprint (request : ChatRequest) (plan : SteadyStateTrimPlan) : UInt64 :=
  let trimmed := applyTrimPlan request plan
  let front :=
    if plan.span.stop ≤ trimmed.messages.length then trimmed.messages.take plan.span.stop else []
  fnv1aHash (Json.array (front.map Message.toJson)).bytes

end Routectl.Trim
