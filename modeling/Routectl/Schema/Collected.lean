import Mathlib.Data.List.Dedup
import Routectl.Schema.Chunk

/-! What the chunks of a stream come to when they are put together: the text, the
details, and the tool calls, each call from the fragments of its index. -/
namespace Routectl.Schema
open Library

section Chunks
variable (chunks : List ChatChunk)

def contents : String :=
  String.join (chunks.map fun chunk => (chunk.choices.head?.bind (·.delta.content)).getD "")

def details : List ReasoningDetail :=
  chunks.flatMap fun chunk => (chunk.choices.head?.map (·.delta.reasoningDetails)).getD []

def fragments : List Json :=
  chunks.flatMap fun chunk => (chunk.choices.head?.bind (·.delta.toolCalls)).getD []

def finishes : List (String × Option String) :=
  chunks.filterMap fun chunk => chunk.choices.head?.bind fun choice =>
    choice.finishReason.map fun finishReason => (finishReason, choice.matchedStopSequence)

def usages : List UsageDelta := chunks.filterMap ChatChunk.usage

end Chunks

/-- A tool call, with its arguments as text. -/
structure ToolCall where
  id : String := ""
  name : String := ""
  arguments : String := ""
deriving Repr, DecidableEq

def readCall (toolCall : Json) : ToolCall :=
  { id := (toolCallId toolCall).getD ""
    name := (toolCallName toolCall).getD ""
    arguments := (toolCallArguments toolCall).getD "" }

/-- What the fragments of an index say together: the last id, the last name and all
arguments. -/
def gathered (fragments : List Json) (index : Nat) : ToolCall :=
  let own := fragments.filter fun fragment => toolCallIndex fragment = index
  { id := (own.filterMap toolCallId).getLast?.getD ""
    name := (own.filterMap toolCallName).getLast?.getD ""
    arguments := String.join (own.filterMap toolCallArguments) }

/-- The calls of some fragments, in the order their indices are first met. -/
def collectedCalls (fragments : List Json) : List ToolCall :=
  (fragments.map toolCallIndex).eraseDups.map (gathered fragments)

section Appending
variable (first second : List ChatChunk)

theorem contents_append : contents (first ++ second) = contents first ++ contents second := by
  simp [contents, String.join_append]

theorem details_append : details (first ++ second) = details first ++ details second := by
  simp [details]

theorem fragments_append : fragments (first ++ second) = fragments first ++ fragments second := by
  simp [fragments]

theorem finishes_append : finishes (first ++ second) = finishes first ++ finishes second := by
  simp [finishes]

theorem usages_append : usages (first ++ second) = usages first ++ usages second := by
  simp [usages]

end Appending

section Gluing
variable {Item : Type*} (items : List Item) (give : Item → List ChatChunk)

theorem contents_flatMap :
    contents (items.flatMap give) = String.join (items.map fun item => contents (give item)) := by
  induction items with
  | nil => rfl
  | cons item rest ih => rw [List.flatMap_cons, contents_append, ih, List.map_cons, String.join_cons]

theorem details_flatMap :
    details (items.flatMap give) = items.flatMap fun item => details (give item) := by
  induction items with
  | nil => rfl
  | cons item rest ih => rw [List.flatMap_cons, details_append, ih, List.flatMap_cons]

theorem fragments_flatMap :
    fragments (items.flatMap give) = items.flatMap fun item => fragments (give item) := by
  induction items with
  | nil => rfl
  | cons item rest ih => rw [List.flatMap_cons, fragments_append, ih, List.flatMap_cons]

theorem finishes_flatMap :
    finishes (items.flatMap give) = items.flatMap fun item => finishes (give item) := by
  induction items with
  | nil => rfl
  | cons item rest ih => rw [List.flatMap_cons, finishes_append, ih, List.flatMap_cons]

theorem usages_flatMap :
    usages (items.flatMap give) = items.flatMap fun item => usages (give item) := by
  induction items with
  | nil => rfl
  | cons item rest ih => rw [List.flatMap_cons, usages_append, ih, List.flatMap_cons]

end Gluing

section Pairing
variable {Item First Second : Type*} {Same : First → Second → Prop}
variable {first : Item → Option First} {second : Item → Option Second} {items : List Item}

theorem filterMap_length_le (inside : ∀ item ∈ items, (first item).isSome → (second item).isSome) :
    (items.filterMap first).length ≤ (items.filterMap second).length := by
  induction items with
  | nil => exact Nat.le_refl _
  | cons item rest ih =>
    obtain ⟨here, others⟩ := List.forall_mem_cons.mp inside
    have shorter := ih others
    cases given : first item with
    | none =>
      rw [List.filterMap_cons_none given]
      cases found : second item with
      | none =>
        rw [List.filterMap_cons_none found]
        exact shorter
      | some value =>
        rw [List.filterMap_cons_some found]
        exact Nat.le_succ_of_le shorter
    | some value =>
      obtain ⟨other, found⟩ := Option.isSome_iff_exists.mp (here (by rw [given]; rfl))
      rw [List.filterMap_cons_some given, List.filterMap_cons_some found]
      exact Nat.succ_le_succ shorter

/-- Two lists of what some items give pair up exactly where no item gives the second alone. -/
theorem forall₂_filterMap_iff
    (each : ∀ item ∈ items, (first item = none ∧ second item = none) ∨
      ∃ found, second item = some found ∧ ∀ given, first item = some given → Same given found) :
    List.Forall₂ Same (items.filterMap first) (items.filterMap second) ↔
      ∀ item ∈ items, (second item).isSome → (first item).isSome := by
  induction items with
  | nil => simp
  | cons item rest ih =>
    obtain ⟨here, others⟩ := List.forall_mem_cons.mp each
    rw [List.forall_mem_cons, ← ih others]
    rcases here with ⟨neither, nothing⟩ | ⟨found, there, same⟩
    · rw [List.filterMap_cons_none neither, List.filterMap_cons_none nothing, nothing]
      exact ⟨fun agree => ⟨nofun, agree⟩, fun agree => agree.2⟩
    · rw [List.filterMap_cons_some there]
      cases given : first item with
      | none =>
        rw [List.filterMap_cons_none given]
        have shorter : (rest.filterMap first).length ≤ (rest.filterMap second).length := by
          apply filterMap_length_le
          intro other member
          rcases others other member with ⟨alone, -⟩ | ⟨value, whole, -⟩
          · rw [alone]
            exact nofun
          · rw [whole]
            exact fun _ => rfl
        constructor
        · intro agree
          have lengths := agree.length_eq
          rw [List.length_cons] at lengths
          omega
        · rintro ⟨missing, -⟩
          rw [there] at missing
          cases missing rfl
      | some value =>
        rw [List.filterMap_cons_some given, List.forall₂_cons]
        exact ⟨fun agree => ⟨fun _ => rfl, agree.2⟩, fun agree => ⟨same value given, agree.2⟩⟩

end Pairing

section Gathering
variable {fragments more : List Json} {index : Nat}

theorem gathered_append_left (none : ∀ fragment ∈ more, toolCallIndex fragment ≠ index) :
    gathered (fragments ++ more) index = gathered fragments index := by
  have empty : more.filter (fun fragment => toolCallIndex fragment = index) = [] := by
    simpa using none
  simp [gathered, List.filter_append, empty]

theorem gathered_append_right (none : ∀ fragment ∈ fragments, toolCallIndex fragment ≠ index) :
    gathered (fragments ++ more) index = gathered more index := by
  have empty : fragments.filter (fun fragment => toolCallIndex fragment = index) = [] := by
    simpa using none
  simp [gathered, List.filter_append, empty]

theorem gathered_absent (none : ∀ fragment ∈ fragments, toolCallIndex fragment ≠ index) :
    gathered fragments index = {} := by
  have empty : fragments.filter (fun fragment => toolCallIndex fragment = index) = [] := by
    simpa using none
  simp [gathered, empty]

/-- Fragments of one call, each under its id and its name. -/
theorem gathered_given {inputs : List String} {fragment : String → Json} {id name : String}
    (own : (fragments.filter fun fragment => toolCallIndex fragment = index) = inputs.map fragment)
    (given : inputs ≠ []) (ids : ∀ text, toolCallId (fragment text) = some id)
    (names : ∀ text, toolCallName (fragment text) = some name)
    (arguments : ∀ text, toolCallArguments (fragment text) = some text) :
    gathered fragments index = ⟨id, name, String.join inputs⟩ := by
  have last : ∀ value : String, (inputs.map fun _ => value).getLast?.getD "" = value := by
    intro value
    simp [List.map_const', List.getLast?_replicate, given]
  have readIds : (inputs.map fragment).filterMap toolCallId = inputs.map fun _ => id := by
    rw [List.filterMap_map]
    simp [ids]
  have readNames : (inputs.map fragment).filterMap toolCallName = inputs.map fun _ => name := by
    rw [List.filterMap_map]
    simp [names]
  have readArguments : (inputs.map fragment).filterMap toolCallArguments = inputs := by
    rw [List.filterMap_map]
    simp [arguments]
  rw [gathered, own, readIds, readNames, readArguments, last, last]

theorem last_filterMap_snoc {Item Value : Type*} (read : Item → Option Value) (items : List Item)
    (item : Item) (missing : Value) :
    ((items ++ [item]).filterMap read).getLast?.getD missing =
      (read item).getD ((items.filterMap read).getLast?.getD missing) := by
  cases value : read item <;> simp [List.filterMap_append, value]

theorem join_filterMap_snoc {Item : Type*} (read : Item → Option String) (items : List Item)
    (item : Item) :
    String.join ((items ++ [item]).filterMap read) =
      String.join (items.filterMap read) ++ (read item).getD "" := by
  cases value : read item <;> simp [List.filterMap_append, value, String.join_append]

/-- Indices met in one part only are collected from that part. -/
theorem collectedCalls_append
    (apart : ∀ fragment ∈ fragments, ∀ other ∈ more, toolCallIndex fragment ≠ toolCallIndex other) :
    collectedCalls (fragments ++ more) = collectedCalls fragments ++ collectedCalls more := by
  have kept : (more.map toolCallIndex).removeAll (fragments.map toolCallIndex) =
      more.map toolCallIndex := by
    apply List.filter_eq_self.mpr
    intro index member
    obtain ⟨other, otherMember, rfl⟩ := List.mem_map.mp member
    have absent : toolCallIndex other ∉ fragments.map toolCallIndex := by
      rw [List.mem_map]
      rintro ⟨fragment, inside, same⟩
      exact apart fragment inside other otherMember same
    simpa using absent
  unfold collectedCalls
  rw [List.map_append, List.eraseDups_append, kept, List.map_append]
  congr 1
  · apply List.map_congr_left
    intro index member
    obtain ⟨fragment, inside, rfl⟩ := List.mem_map.mp (List.mem_eraseDups.mp member)
    exact gathered_append_left fun other otherMember =>
      (apart fragment inside other otherMember).symm
  · apply List.map_congr_left
    intro index member
    obtain ⟨other, inside, rfl⟩ := List.mem_map.mp (List.mem_eraseDups.mp member)
    exact gathered_append_right fun fragment fragmentMember =>
      apart fragment fragmentMember other inside

end Gathering
end Routectl.Schema
