import Mathlib.Data.List.Induction
import Routectl.Gemini.Types
import Routectl.Schema.Collected

/-! What each of the two readers makes of a list of parts: the texts, the thoughts and the
calls, each numbered by its place among its like. -/
namespace Routectl.Gemini
open Library Schema

namespace ResponsePart
variable (part : ResponsePart)

def visible : Option String := if part.isThought then none else part.text

def thinking : Option (String × Option String) :=
  if part.isThought then part.text.map fun text => (text, part.thoughtSignature) else none

def calling : Option (ResponsePart × ResponseFunctionCall) :=
  part.functionCall.map fun call => (part, call)

end ResponsePart

def texts (parts : List ResponsePart) : List String := parts.filterMap ResponsePart.visible

def thoughts (parts : List ResponsePart) : List (String × Option String) :=
  parts.filterMap ResponsePart.thinking

def calls (parts : List ResponsePart) : List (ResponsePart × ResponseFunctionCall) :=
  parts.filterMap ResponsePart.calling

/-- The details of some thoughts after so many others. -/
def detailsFrom (start : Nat) (thoughts : List (String × Option String)) : List ReasoningDetail :=
  (thoughts.zipIdx start).map fun (thought, index) =>
    thoughtDetail thought.1 thought.2 (index % 2 ^ 32)

/-- A call as the stream writes it. -/
def streamedCall (call : (ResponsePart × ResponseFunctionCall) × Nat) : Json :=
  .object ([("index", .number (toString call.2)), ("id", .string ("call_" ++ toString call.2)),
    ("type", .string "function"), functionField call.1.2] ++ signatureField call.1.1)

/-- A call as the whole body's reader writes it. -/
def wholeCall (callId : Nat → String) (call : (ResponsePart × ResponseFunctionCall) × Nat) : Json :=
  .object ([("id", .string (callId call.2)), ("type", .string "function"),
    functionField call.1.2] ++ signatureField call.1.1)

/-- Visible texts as the whole body's reader joins them. -/
def joinLines (texts : List String) : String :=
  texts.foldl (fun told text => (if told = "" then told else told ++ "\n") ++ text) ""

section Lists
variable (parts more : List ResponsePart)

theorem texts_append : texts (parts ++ more) = texts parts ++ texts more := List.filterMap_append

theorem thoughts_append : thoughts (parts ++ more) = thoughts parts ++ thoughts more :=
  List.filterMap_append

theorem calls_append : calls (parts ++ more) = calls parts ++ calls more := List.filterMap_append

theorem detailsFrom_append (start : Nat) (first second : List (String × Option String)) :
    detailsFrom start (first ++ second) =
      detailsFrom start first ++ detailsFrom (start + first.length) second := by
  rw [detailsFrom, List.zipIdx_append, List.map_append]
  rfl

end Lists

section Whole
variable (callId : Nat → String)

theorem part_fields (walked : WalkedParts) (part : ResponsePart) :
    (walked.part callId part).text =
        (texts [part]).foldl (fun told text => (if told = "" then told else told ++ "\n") ++ text)
          walked.text ∧
      (walked.part callId part).reasoningDetails =
        walked.reasoningDetails ++ detailsFrom walked.reasoningDetails.length (thoughts [part]) ∧
      (walked.part callId part).toolCalls =
        walked.toolCalls ++
          ((calls [part]).zipIdx walked.toolCalls.length).map (wholeCall callId) := by
  obtain ⟨text, functionCall, thought, signature⟩ := part
  by_cases thinks : thought = some true <;> cases text <;> cases functionCall <;>
    simp [WalkedParts.part, WalkedParts.think, WalkedParts.say, WalkedParts.call, texts, thoughts,
      calls, detailsFrom, ResponsePart.visible, ResponsePart.thinking, ResponsePart.calling,
      ResponsePart.isThought, wholeCall, thinks]

theorem detailsFrom_length (start : Nat) (thoughts : List (String × Option String)) :
    (detailsFrom start thoughts).length = thoughts.length := by
  rw [detailsFrom, List.length_map, List.length_zipIdx]

/-- What the walk over a whole body comes to. -/
theorem walkParts_fields (parts : List ResponsePart) :
    (walkParts callId parts).text = joinLines (texts parts) ∧
      (walkParts callId parts).reasoningDetails = detailsFrom 0 (thoughts parts) ∧
      (walkParts callId parts).toolCalls = (calls parts).zipIdx.map (wholeCall callId) := by
  induction parts using List.reverseRecOn with
  | nil => exact ⟨rfl, rfl, rfl⟩
  | append_singleton parts part ih =>
    obtain ⟨told, thought, called⟩ := ih
    have walked : walkParts callId (parts ++ [part]) = (walkParts callId parts).part callId part := by
      rw [walkParts, List.foldl_append]
      rfl
    obtain ⟨text, details, toolCalls⟩ := part_fields callId (walkParts callId parts) part
    rw [walked, text, details, toolCalls, told, thought, called, texts_append, thoughts_append,
      calls_append, detailsFrom_append, detailsFrom_length, List.length_map, List.length_zipIdx,
      List.zipIdx_append, List.map_append, Nat.zero_add, Nat.zero_add, joinLines, joinLines,
      List.foldl_append]
    exact ⟨rfl, rfl, rfl⟩

end Whole

section Streaming

/-- The roles that chunks set. -/
def roles (chunks : List ChatChunk) : List Role :=
  chunks.filterMap fun chunk => chunk.choices.head?.bind (·.delta.role)

/-- Chunks of content: this text, these details and these fragments. -/
structure Adds (chunks : List ChatChunk) (text : String) (reasoning : List ReasoningDetail)
    (called : List Json) : Prop where
  text : contents chunks = text
  details : Schema.details chunks = reasoning
  fragments : Schema.fragments chunks = called
  unfinished : finishes chunks = []
  uncounted : usages chunks = []
  unnamed : roles chunks = []

theorem roles_append (first second : List ChatChunk) :
    roles (first ++ second) = roles first ++ roles second := List.filterMap_append

theorem Adds.nil : Adds [] "" [] [] := ⟨rfl, rfl, rfl, rfl, rfl, rfl⟩

theorem Adds.append {first second : List ChatChunk} {text more : String}
    {reasoning reasoningMore : List ReasoningDetail} {called calledMore : List Json}
    (earlier : Adds first text reasoning called) (later : Adds second more reasoningMore calledMore) :
    Adds (first ++ second) (text ++ more) (reasoning ++ reasoningMore) (called ++ calledMore) where
  text := by rw [contents_append, earlier.text, later.text]
  details := by rw [details_append, earlier.details, later.details]
  fragments := by rw [fragments_append, earlier.fragments, later.fragments]
  unfinished := by rw [finishes_append, earlier.unfinished, later.unfinished]; rfl
  uncounted := by rw [usages_append, earlier.uncounted, later.uncounted]; rfl
  unnamed := by rw [roles_append, earlier.unnamed, later.unnamed]; rfl

/-- A chunk of content adds what is in its delta. -/
theorem adds_delta (state : GeminiStreamState) {delta : ChunkDelta} (unnamed : delta.role = none) :
    Adds [state.chunkWithDelta delta] (delta.content.getD "") delta.reasoningDetails
      (delta.toolCalls.getD []) := by
  constructor <;>
    simp [contents, details, fragments, finishes, usages, roles,
      GeminiStreamState.chunkWithDelta, unnamed]

/-- A state that has read these parts and not yet the end of the turn. -/
structure Reading (before : List ResponsePart) (state : GeminiStreamState) : Prop where
  details : state.nextDetailIndex = (thoughts before).length % 2 ^ 32
  called : state.nextCallIndex = (calls before).length
  saw : state.sawFunctionCall = !(calls before).isEmpty
  live : state.terminalEmitted = false

def streamedFrom (start : Nat) (called : List (ResponsePart × ResponseFunctionCall)) : List Json :=
  (called.zipIdx start).map streamedCall

theorem streamedFrom_append (start : Nat)
    (first second : List (ResponsePart × ResponseFunctionCall)) :
    streamedFrom start (first ++ second) =
      streamedFrom start first ++ streamedFrom (start + first.length) second := by
  rw [streamedFrom, List.zipIdx_append, List.map_append]
  rfl

/-- What parts leave alone. -/
structure Keeps (before after : GeminiStreamState) : Prop where
  role : after.roleEmitted = before.roleEmitted
  usage : after.cachedUsage = before.cachedUsage

theorem textPart_adds (state : GeminiStreamState) (part : ResponsePart) {count : Nat}
    (numbered : state.nextDetailIndex = count % 2 ^ 32) :
    Adds (state.textPart part).2 (String.join (texts [part])) (detailsFrom count (thoughts [part]))
        [] ∧
      (state.textPart part).1 =
        { state with nextDetailIndex := (count + (thoughts [part]).length) % 2 ^ 32 } := by
  have same : { state with nextDetailIndex := count % 2 ^ 32 } = state := by rw [← numbered]
  obtain ⟨text, functionCall, thought, signature⟩ := part
  cases text with
  | none =>
    have empty : texts [⟨none, functionCall, thought, signature⟩] = [] ∧
        thoughts [⟨none, functionCall, thought, signature⟩] = [] := by
      simp [texts, thoughts, ResponsePart.visible, ResponsePart.thinking]
    rw [empty.1, empty.2]
    exact ⟨.nil, same.symm⟩
  | some text =>
    by_cases thinks : thought = some true
    · have own : texts [⟨some text, functionCall, thought, signature⟩] = [] ∧
          thoughts [⟨some text, functionCall, thought, signature⟩] = [(text, signature)] := by
        simp [texts, thoughts, ResponsePart.visible, ResponsePart.thinking, ResponsePart.isThought,
          thinks]
      have given : state.textPart ⟨some text, functionCall, thought, signature⟩ =
          ({ state with nextDetailIndex := (state.nextDetailIndex + 1) % 2 ^ 32 },
            [state.reasoningChunk text signature]) := by
        simp [GeminiStreamState.textPart, ResponsePart.isThought, thinks]
      have adds := @adds_delta state
        { reasoning := some text
          reasoningDetails := [thoughtDetail text signature state.nextDetailIndex] } rfl
      rw [own.1, own.2, given]
      rw [numbered] at adds ⊢
      refine ⟨?_, by simp [Nat.add_mod]⟩
      rw [GeminiStreamState.reasoningChunk, numbered]
      exact adds
    · have own : texts [⟨some text, functionCall, thought, signature⟩] = [text] ∧
          thoughts [⟨some text, functionCall, thought, signature⟩] = [] := by
        simp [texts, thoughts, ResponsePart.visible, ResponsePart.thinking, ResponsePart.isThought,
          thinks]
      rw [own.1, own.2]
      by_cases empty : text = ""
      · have given : state.textPart ⟨some text, functionCall, thought, signature⟩ = (state, []) := by
          simp [GeminiStreamState.textPart, ResponsePart.isThought, thinks, empty]
        rw [given, empty]
        exact ⟨.nil, same.symm⟩
      · have given : state.textPart ⟨some text, functionCall, thought, signature⟩ =
            (state, [state.textChunk text]) := by
          simp [GeminiStreamState.textPart, ResponsePart.isThought, thinks, empty]
        have adds := @adds_delta state { content := some text } rfl
        rw [given]
        refine ⟨?_, same.symm⟩
        rw [String.join_cons, String.join_nil, String.append_empty]
        exact adds

theorem callPart_adds (state : GeminiStreamState) (part : ResponsePart)
    (room : state.nextCallIndex + (calls [part]).length ≤ maxOutputBlocks) :
    Adds (state.callPart part).2 "" [] (streamedFrom state.nextCallIndex (calls [part])) ∧
      (state.callPart part).1 =
        { state with
          nextCallIndex := state.nextCallIndex + (calls [part]).length
          sawFunctionCall := state.sawFunctionCall || !(calls [part]).isEmpty } := by
  cases called : part.functionCall with
  | none =>
    have none : calls [part] = [] := by simp [calls, ResponsePart.calling, called]
    have given : state.callPart part = (state, []) := by
      rw [GeminiStreamState.callPart, called]
    rw [none, given, List.isEmpty_nil, Bool.not_true, Bool.or_false]
    exact ⟨.nil, rfl⟩
  | some call =>
    have one : calls [part] = [(part, call)] := by simp [calls, ResponsePart.calling, called]
    rw [one] at room ⊢
    have below : ¬ maxOutputBlocks ≤ state.nextCallIndex := by
      rw [List.length_singleton] at room
      omega
    have given : state.callPart part =
        ({ state with sawFunctionCall := true, nextCallIndex := state.nextCallIndex + 1 },
          [{ state with sawFunctionCall := true }.toolChunk part call]) := by
      rw [GeminiStreamState.callPart, called]
      simp only [if_neg below]
    have adds := @adds_delta { state with sawFunctionCall := true }
      { toolCalls := some [streamedCall ((part, call), state.nextCallIndex)] } rfl
    rw [given]
    exact ⟨adds, by simp⟩

theorem part_adds {before : List ResponsePart} {state : GeminiStreamState} (part : ResponsePart)
    (reading : Reading before state)
    (room : (calls (before ++ [part])).length ≤ maxOutputBlocks) :
    Adds (state.partChunks part).2 (String.join (texts [part]))
        (detailsFrom (thoughts before).length (thoughts [part]))
        (streamedFrom (calls before).length (calls [part])) ∧
      Reading (before ++ [part]) (state.partChunks part).1 ∧ Keeps state (state.partChunks part).1 := by
  rw [calls_append, List.length_append, ← reading.called] at room
  obtain ⟨told, after⟩ := textPart_adds state part reading.details
  have calling := callPart_adds (state.textPart part).1 part (by rw [after]; exact room)
  rw [after] at calling
  obtain ⟨called, last⟩ := calling
  have final : (state.partChunks part).1 = ((state.textPart part).1.callPart part).1 := rfl
  have index : (state.textPart part).1.nextCallIndex = state.nextCallIndex := by rw [after]
  rw [after, last] at final
  refine ⟨?_, ⟨?_, ?_, ?_, ?_⟩, ?_, ?_⟩
  · have adds := told.append called
    rw [← after, String.append_empty, List.append_nil, List.nil_append, index] at adds
    rw [← reading.called]
    exact adds
  · rw [final, thoughts_append, List.length_append]
  · rw [final, calls_append, List.length_append, ← reading.called]
  · rw [final, calls_append]
    simp only [reading.saw]
    cases calls before <;> cases calls [part] <;> rfl
  · rw [final]
    exact reading.live
  · rw [final]
  · rw [final]

theorem Keeps.trans {first second third : GeminiStreamState} (earlier : Keeps first second)
    (later : Keeps second third) : Keeps first third :=
  ⟨later.role.trans earlier.role, later.usage.trans earlier.usage⟩

theorem parts_add {before : List ResponsePart} {state : GeminiStreamState} (parts : List ResponsePart)
    (reading : Reading before state)
    (room : (calls (before ++ parts)).length ≤ maxOutputBlocks) :
    Adds (state.partsChunks parts).2 (String.join (texts parts))
        (detailsFrom (thoughts before).length (thoughts parts))
        (streamedFrom (calls before).length (calls parts)) ∧
      Reading (before ++ parts) (state.partsChunks parts).1 ∧
      Keeps state (state.partsChunks parts).1 := by
  induction parts generalizing before state with
  | nil =>
    rw [List.append_nil]
    exact ⟨.nil, reading, rfl, rfl⟩
  | cons part rest ih =>
    have split : before ++ part :: rest = (before ++ [part]) ++ rest := by simp
    have first : (calls (before ++ [part])).length ≤ maxOutputBlocks := by
      rw [split, calls_append, List.length_append] at room
      omega
    obtain ⟨adds, reads, keeps⟩ := part_adds part reading first
    rw [split] at room
    obtain ⟨more, final, kept⟩ := ih reads room
    rw [split]
    refine ⟨?_, final, keeps.trans kept⟩
    have whole := adds.append more
    rw [thoughts_append, calls_append, List.length_append, List.length_append, ← detailsFrom_append,
      ← streamedFrom_append, ← thoughts_append, ← calls_append, ← String.join_append,
      ← texts_append] at whole
    exact whole

end Streaming
end Routectl.Gemini
