import Routectl.AnthropicApi.Stream
import Routectl.Schema.Collected

/-! The streams a whole answer may come as: each block started, cut into deltas and
stopped, with pings anywhere; and what the reader collects of such a stream. -/
namespace Routectl.AnthropicApi
open Library Schema

section Deltas

def SseDelta.said : SseDelta → Option String
  | .textDelta text => some text
  | _ => none

def SseDelta.thought : SseDelta → Option String
  | .thinkingDelta thinking => some thinking
  | _ => none

def SseDelta.signed : SseDelta → Option String
  | .signatureDelta signature => some signature
  | _ => none

def SseDelta.input : SseDelta → Option String
  | .inputJsonDelta partialJson => some partialJson
  | _ => none

/-- The input a concatenation stands for; an empty one is an empty object. -/
def readInput (read : String → Option Json) (text : String) : Option Json :=
  if text = "" then some (.object []) else read text

end Deltas

/-- A block of an answer and the deltas it is cut into. -/
inductive Cut (read : String → Option Json) : ContentBlock → List SseDelta → Prop
  | text {text : String} {citations : Option Json} {deltas : List SseDelta}
      (nonempty : text ≠ "") (kinds : ∀ delta ∈ deltas, delta.said.isSome)
      (joined : String.join (deltas.filterMap SseDelta.said) = text) :
      Cut read (.text text citations) deltas
  | thinking {thinking signature : String} {deltas : List SseDelta}
      (nonempty : thinking ≠ "" ∨ signature ≠ "")
      (kinds : ∀ delta ∈ deltas, delta.thought.isSome ∨ delta.signed.isSome)
      (joined : String.join (deltas.filterMap SseDelta.thought) = thinking)
      (signed : String.join (deltas.filterMap SseDelta.signed) = signature) :
      Cut read (.thinking thinking signature) deltas
  | redactedThinking (data : String) : Cut read (.redactedThinking data) []
  | toolUse {id name : String} {input : Json} {deltas : List SseDelta}
      (kinds : ∀ delta ∈ deltas, delta.input.isSome)
      (written : readInput read (String.join (deltas.filterMap SseDelta.input)) = some input) :
      Cut read (.toolUse id name input) deltas

structure CutBlock (read : String → Option Json) where
  block : ContentBlock
  deltas : List SseDelta
  proper : Cut read block deltas

def startOf : ContentBlock → SseContentBlockStart
  | .thinking _ _ => .thinking ""
  | .redactedThinking data => .redactedThinking data
  | .toolUse id name _ => .toolUse id name
  | _ => .text ""

section Events
variable {read : String → Option Json}

def CutBlock.events (cut : CutBlock read) (index : Nat) : List SseEvent :=
  .contentBlockStart index (startOf cut.block) ::
    (cut.deltas.map (.contentBlockDelta index) ++ [.contentBlockStop index])

def bodyEvents : Nat → List (CutBlock read) → List SseEvent
  | _, [] => []
  | index, cut :: rest => cut.events index ++ bodyEvents (index + 1) rest

def notPing : SseEvent → Bool
  | .ping => false
  | _ => true

/-- The opening carries the input counts. -/
def Opens (usage opening : Option AnthropicUsage) : Prop :=
  match usage, opening with
  | none, none => True
  | some usage, some opening =>
    opening.inputTokens = usage.inputTokens ∧
      opening.cacheCreationInputTokens.getD 0 = usage.cacheCreationInputTokens.getD 0 ∧
      opening.cacheReadInputTokens.getD 0 = usage.cacheReadInputTokens.getD 0
  | _, _ => False

/-- The closing delta carries all counts, or only the output. -/
def Closes (usage : Option AnthropicUsage) (closing : Option SseDeltaUsage) : Prop :=
  match usage, closing with
  | none, none => True
  | some usage, some closing =>
    closing.outputTokens = some usage.outputTokens ∧
      ((closing.inputTokens = some usage.inputTokens ∧
          closing.cacheCreationInputTokens.getD 0 = usage.cacheCreationInputTokens.getD 0 ∧
          closing.cacheReadInputTokens.getD 0 = usage.cacheReadInputTokens.getD 0) ∨
        (closing.inputTokens = none ∧ closing.cacheCreationInputTokens = none ∧
          closing.cacheReadInputTokens = none))
  | _, _ => False

/-- These events are the answer as a stream, its blocks cut in this way; an index is held
in 32 bits. -/
structure Serializes (response : AnthropicResponse) (cuts : List (CutBlock read))
    (events : List SseEvent) : Prop where
  content : cuts.map CutBlock.block = response.content
  small : cuts.length ≤ 2 ^ 32
  framed : ∃ (opening : Option AnthropicUsage) (closing : Option SseDeltaUsage),
    events.filter notPing = .messageStart ⟨response.id, response.model, opening⟩ ::
      (bodyEvents 0 cuts ++
        [.messageDelta ⟨response.stopReason, response.stopSequence⟩ closing, .messageStop]) ∧
    Opens response.usage opening ∧ Closes response.usage closing

end Events

section Decoding
variable {uuid : Nat → String} {state next final : SseState}

theorem decode_cons {event : SseEvent} {emitted : Option ChatChunk} {rest : List SseEvent}
    {chunks : List ChatChunk} (applied : state.applyEvent uuid event = .ok (next, emitted))
    (onward : decode uuid next rest = .ok (final, chunks)) :
    decode uuid state (event :: rest) = .ok (final, emitted.toList ++ chunks) := by
  simp only [decode, applied, onward]

theorem decode_append {first second : List SseEvent} {chunks more : List ChatChunk}
    (earlier : decode uuid state first = .ok (next, chunks))
    (later : decode uuid next second = .ok (final, more)) :
    decode uuid state (first ++ second) = .ok (final, chunks ++ more) := by
  induction first generalizing state chunks with
  | nil =>
    obtain ⟨rfl, rfl⟩ := Prod.mk.inj (Except.ok.inj earlier)
    exact later
  | cons event rest ih =>
    cases applied : state.applyEvent uuid event with
    | error failure =>
      simp only [decode, applied] at earlier
      cases earlier
    | ok step =>
      cases onward : decode uuid step.1 rest with
      | error failure =>
        simp only [decode, applied, onward] at earlier
        cases earlier
      | ok tail =>
        simp only [decode, applied, onward] at earlier
        obtain ⟨rfl, rfl⟩ := Prod.mk.inj (Except.ok.inj earlier)
        rw [List.append_assoc]
        exact decode_cons applied (ih onward)

/-- A ping changes nothing. -/
theorem decode_filter_ping (state : SseState) (events : List SseEvent) :
    decode uuid state (events.filter notPing) = decode uuid state events := by
  induction events generalizing state with
  | nil => rfl
  | cons event rest ih =>
    by_cases ping : event = .ping
    · subst ping
      have unmoved : decode uuid state (.ping :: rest) = decode uuid state rest := by
        simp only [decode, SseState.applyEvent, SseState.dispatchEvent]
        cases decode uuid state rest <;> rfl
      rw [unmoved]
      exact ih state
    · have kept : notPing event = true := by
        cases event <;> first | rfl | exact absurd rfl ping
      rw [List.filter_cons_of_pos kept]
      simp only [decode]
      cases state.applyEvent uuid event with
      | error failure => rfl
      | ok step => simp only [ih]

end Decoding
end Routectl.AnthropicApi
