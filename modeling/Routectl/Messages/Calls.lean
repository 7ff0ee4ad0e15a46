import Routectl.Library.Buffers
import Routectl.Messages.Told
import Routectl.Schema.Collected

/-! The tool calls of a stream: what the fragments of an index come to, and that each
such index is sent as one block when its fragments are flushed together. -/
namespace Routectl.Messages
open Library Schema

/-- The block a whole call is sent as. -/
def blockOf (call : ToolCall) : ToolBlockState :=
  { id := call.id, name := call.name, partialJson := call.arguments }

/-- The blocks that one flush sends. -/
def sentTogether (group : List Json) : List ToolBlockState :=
  (group.foldl bufferFragment []).filter named

/-- The fragments of each flush. -/
def flushes : List Json → Bool → List ChatChunk → List (List Json)
  | buffered, _, [] => [buffered]
  | buffered, held, chunk :: rest =>
    match chunk.choices.head? with
    | some choice =>
      let filled := buffered ++ choice.delta.toolCalls.getD []
      if choice.finishReason.isSome then
        filled :: if chunk.usage.isSome then [] else flushes [] true rest
      else flushes filled held rest
    | none => if held && chunk.usage.isSome then [] else flushes buffered held rest

/-- No index has fragments in two flushes. -/
def Apart (groups : List (List Json)) : Prop :=
  groups.Pairwise fun first later => ∀ fragment ∈ first, ∀ other ∈ later,
    toolCallIndex fragment ≠ toolCallIndex other

theorem called_flushes (buffered : List Json) (held : Bool) (chunks : List ChatChunk) :
    called (buffered.foldl bufferFragment []) held chunks =
      (flushes buffered held chunks).flatMap sentTogether := by
  induction chunks generalizing buffered held with
  | nil => simp [called, flushes, sentTogether]
  | cons chunk rest ih =>
    cases choices : chunk.choices.head? with
    | some choice =>
      have filled : (choice.delta.toolCalls.getD []).foldl bufferFragment
          (buffered.foldl bufferFragment []) =
            (buffered ++ choice.delta.toolCalls.getD []).foldl bufferFragment [] :=
        List.foldl_append.symm
      simp only [called, flushes, choices]
      rw [filled]
      cases finishing : choice.finishReason.isSome with
      | true =>
        have later := ih [] true
        cases chunk.usage.isSome with
        | true => simp [sentTogether]
        | false => simpa [sentTogether] using later
      | false => exact ih _ held
    | none =>
      simp only [called, flushes, choices]
      cases held && chunk.usage.isSome with
      | true => rfl
      | false => simpa using ih buffered held

section Gathering
variable {fragments more group : List Json} {index : Nat}

/-- A block that is sent has fragments. -/
theorem carried_of_named (sent : named (blockOf (gathered fragments index)) = true) :
    ∃ fragment ∈ fragments, toolCallIndex fragment = index := by
  by_contra none
  push Not at none
  rw [gathered_absent none] at sent
  cases sent

theorem gathered_snoc (fragment : Json) :
    blockOf (gathered (fragments ++ [fragment]) index) =
      if toolCallIndex fragment = index then
        bufferToolCall fragment (blockOf (gathered fragments index))
      else blockOf (gathered fragments index) := by
  split
  case isTrue own =>
    have kept : ([fragment].filter fun fragment => toolCallIndex fragment = index) = [fragment] := by
      simp [own]
    simp only [blockOf, gathered, List.filter_append, kept, last_filterMap_snoc,
      join_filterMap_snoc, bufferToolCall]
  case isFalse other => rw [gathered_append_left (by simpa using other)]

/-- The buffer of an index is what its fragments say together. -/
theorem slotAt_gathered (fragments : List Json) (index : Nat) :
    slotAt toolCallIndex bufferToolCall {} fragments index =
      blockOf (gathered fragments index) := by
  induction fragments using List.reverseRecOn with
  | nil => rfl
  | append_singleton fragments fragment ih => rw [slotAt_snoc, ih, gathered_snoc]

/-- One flush sends each named index once. -/
theorem sentTogether_order (group : List Json) :
    ∃ order : List Nat, order.Nodup ∧ sentTogether group = order.map (fun index => blockOf (gathered group index)) ∧
      ∀ index, index ∈ order ↔ named (blockOf (gathered group index)) = true := by
  obtain ⟨order, once, sent, passes⟩ :=
    filled_order toolCallIndex bufferToolCall ({} : ToolBlockState) named rfl group
  have gathers : slotAt toolCallIndex bufferToolCall {} group =
      fun index => blockOf (gathered group index) := funext (slotAt_gathered group)
  rw [gathers] at sent passes
  exact ⟨order, once, sent, passes⟩

/-- Flushes that share no index send every named index once, whole. -/
theorem flushed_order {groups : List (List Json)} (apart : Apart groups) :
    ∃ order : List Nat, order.Nodup ∧
      groups.flatMap sentTogether =
        order.map (fun index => blockOf (gathered groups.flatten index)) ∧
      ∀ index, index ∈ order ↔ named (blockOf (gathered groups.flatten index)) = true := by
  induction groups with
  | nil => exact ⟨[], List.nodup_nil, rfl, fun index => by simp [gathered_absent, named, blockOf]⟩
  | cons group rest ih =>
    obtain ⟨first, later⟩ := List.pairwise_cons.mp apart
    obtain ⟨own, ownOnce, ownSent, ownNamed⟩ := sentTogether_order group
    obtain ⟨order, once, sent, ordered⟩ := ih later
    have restApart : ∀ fragment ∈ group, ∀ other ∈ rest.flatten,
        toolCallIndex fragment ≠ toolCallIndex other := by
      intro fragment member other otherMember
      obtain ⟨flush, among, inside⟩ := List.mem_flatten.mp otherMember
      exact first flush among fragment member other inside
    have ofOwn : ∀ index ∈ own, blockOf (gathered (group ++ rest.flatten) index) =
        blockOf (gathered group index) := by
      intro index member
      obtain ⟨fragment, inside, same⟩ := carried_of_named ((ownNamed index).mp member)
      congr 1
      apply gathered_append_left
      intro other otherMember
      rw [← same]
      exact (restApart fragment inside other otherMember).symm
    have ofRest : ∀ index ∈ order, blockOf (gathered (group ++ rest.flatten) index) =
        blockOf (gathered rest.flatten index) := by
      intro index member
      obtain ⟨other, inside, same⟩ := carried_of_named ((ordered index).mp member)
      congr 1
      apply gathered_append_right
      intro fragment fragmentMember
      rw [← same]
      exact restApart fragment fragmentMember other inside
    refine ⟨own ++ order, ?_, ?_, ?_⟩
    · rw [List.nodup_append']
      refine ⟨ownOnce, once, ?_⟩
      intro index member late
      obtain ⟨fragment, inside, same⟩ := carried_of_named ((ownNamed index).mp member)
      obtain ⟨other, otherInside, otherSame⟩ := carried_of_named ((ordered index).mp late)
      exact restApart fragment inside other otherInside (same.trans otherSame.symm)
    · rw [List.flatMap_cons, ownSent, sent, List.map_append, List.flatten_cons,
        List.map_congr_left ofOwn, List.map_congr_left ofRest]
    · intro index
      rw [List.mem_append, List.flatten_cons]
      constructor
      · rintro (member | member)
        · rw [ofOwn index member]
          exact (ownNamed index).mp member
        · rw [ofRest index member]
          exact (ordered index).mp member
      · intro sentNamed
        by_cases carried : ∃ fragment ∈ group, toolCallIndex fragment = index
        · obtain ⟨fragment, inside, same⟩ := carried
          left
          rw [ownNamed, ← @gathered_append_left group rest.flatten index]
          · exact sentNamed
          · intro other otherMember
            rw [← same]
            exact (restApart fragment inside other otherMember).symm
        · right
          push Not at carried
          rw [ordered, ← gathered_append_right carried]
          exact sentNamed

end Gathering
end Routectl.Messages
