import Routectl.Library.Decimal
import Routectl.Library.JsonFields
import Routectl.Library.KeyedMap
import Routectl.Library.Splitting
import Routectl.Library.Threading
import Routectl.Schema.Chunk

/-! The ids of streamed tool calls: the upstream's where it sends one, else minted, and every
one that reaches the wire reserved for its slot. -/
namespace Routectl.OpenaiCompat
open Library Schema

/-- A choice index and a tool-call index. -/
abbrev SlotKey := Nat × Nat

inductive IdSlot where
  | upstream (id : String)
  | minted (id : String)
deriving Repr, DecidableEq

def IdSlot.id : IdSlot → String
  | .upstream id => id
  | .minted id => id

/-- An id is reserved for its slot, or for none where its index keys none. -/
structure StreamedToolCallIds where
  slots : KeyedMap SlotKey IdSlot := ∅
  reserved : KeyedMap String (Option SlotKey) := ∅
  mintSeq : Nat := 0

inductive StreamError where
  | streaming (message : String)
deriving Repr, DecidableEq

def parseToolCallIndex (toolCall : Json) : Option Nat :=
  ((toolCall.field "index").bind Json.asU64).filter (· < 2 ^ 32)

def realId (toolCall : Json) : Option String :=
  ((toolCall.field "id").bind Json.asStr).filter (· ≠ "")

def mintId (choiceIndex toolCallIndex : Nat) : String :=
  if choiceIndex = 0 then "call_" ++ toString toolCallIndex
  else "call_" ++ toString choiceIndex ++ "_" ++ toString toolCallIndex

def setToolCallId (toolCall : Json) (id : String) : Json := toolCall.setField "id" (.string id)

def collisionError (providerId id : String) : StreamError :=
  .streaming ("provider `" ++ providerId ++ "`: streamed tool_call id `" ++ id ++
    "` collides with an id already reserved for a different call; cannot pair safely")

def unkeyedError (providerId : String) : StreamError :=
  .streaming ("provider `" ++ providerId ++ "`: id-less streamed tool_call has a " ++
    "missing or non-u32 `index`; cannot synthesize a stable id")

section Minting

def candidate (base : String) (seq : Nat) : String := base ++ "_" ++ toString seq

/-- The first candidate that nobody has, none while so many passes have not met it. -/
def mintLoop (base : String) (reserved : KeyedMap String (Option SlotKey)) :
    Nat → Nat → Option (String × Nat)
  | 0, _ => none
  | passes + 1, seq =>
    if reserved.lookup (candidate base (seq + 1)) = none then
      some (candidate base (seq + 1), seq + 1)
    else mintLoop base reserved passes (seq + 1)

variable {base : String} {reserved : KeyedMap String (Option SlotKey)} {passes seq : Nat}

theorem candidate_injective {first second : Nat}
    (same : candidate base first = candidate base second) : first = second := by
  have texts := congrArg String.toList same
  simp only [candidate, String.toList_append, List.append_assoc,
    List.append_cancel_left_eq] at texts
  exact Decimal.toString_injective (String.toList_inj.mp texts)

theorem mintLoop_eq_none (stuck : mintLoop base reserved passes seq = none) :
    ∀ place < passes, reserved.lookup (candidate base (seq + place + 1)) ≠ none := by
  induction passes generalizing seq with
  | zero => exact fun _ below => absurd below (Nat.not_lt_zero _)
  | succ passes ih =>
    rw [mintLoop] at stuck
    split at stuck
    · cases stuck
    · rename_i taken
      intro place below
      cases place with
      | zero => exact taken
      | succ place =>
        have later := ih stuck place (Nat.lt_of_succ_lt_succ below)
        rwa [show seq + 1 + place + 1 = seq + (place + 1) + 1 by omega] at later

/-- One pass more than there are reserved ids is enough. -/
theorem mintLoop_isSome (base : String) (reserved : KeyedMap String (Option SlotKey)) (seq : Nat) :
    (mintLoop base reserved (reserved.entries.length + 1) seq).isSome := by
  rw [← Option.ne_none_iff_isSome]
  intro stuck
  have taken := mintLoop_eq_none stuck
  let candidates := (List.range (reserved.entries.length + 1)).map fun place =>
    candidate base (seq + place + 1)
  have distinct : candidates.Nodup := by
    apply List.Nodup.map_on _ List.nodup_range
    intro place _ other _ same
    have equal := candidate_injective same
    omega
  have within : candidates ⊆ reserved.keys := by
    intro id member
    obtain ⟨place, below, rfl⟩ := List.mem_map.mp member
    exact KeyedMap.mem_keys_iff.mpr (taken place (List.mem_range.mp below))
  have small := (distinct.subperm within).length_le
  rw [KeyedMap.length_keys, List.length_map, List.length_range] at small
  omega

/-- The loop passes over reserved candidates only. -/
theorem mintLoop_spec {id : String} {next : Nat}
    (minted : mintLoop base reserved passes seq = some (id, next)) :
    reserved.lookup id = none ∧ id = candidate base next ∧
      ∀ place, seq < place → place < next → reserved.lookup (candidate base place) ≠ none := by
  induction passes generalizing seq with
  | zero => cases minted
  | succ passes ih =>
    rw [mintLoop] at minted
    split at minted
    · rename_i free
      cases minted
      refine ⟨free, rfl, ?_⟩
      intro place above below
      omega
    · rename_i taken
      obtain ⟨free, named, passed⟩ := ih minted
      refine ⟨free, named, ?_⟩
      intro place above below
      rcases Nat.lt_or_ge (seq + 1) place with later | here
      · exact passed place later below
      · rwa [show place = seq + 1 by omega]

/-- More passes find the same. -/
theorem mintLoop_mono {minted : String × Nat} (more : Nat)
    (found : mintLoop base reserved passes seq = some minted) :
    mintLoop base reserved (passes + more) seq = some minted := by
  induction passes generalizing seq with
  | zero => cases found
  | succ passes ih =>
    rw [Nat.succ_add, mintLoop]
    rw [mintLoop] at found
    split
    · rwa [if_pos (by assumption)] at found
    · rw [if_neg (by assumption)] at found
      exact ih found

theorem mintLoop_terminates (base : String) (reserved : KeyedMap String (Option SlotKey))
    (seq : Nat) :
    ∃ passes minted, ∀ more, mintLoop base reserved (passes + more) seq = some minted := by
  obtain ⟨minted, found⟩ := Option.isSome_iff_exists.mp (mintLoop_isSome base reserved seq)
  exact ⟨_, minted, fun more => mintLoop_mono more found⟩

theorem candidate_seq {other : String} {first second : Nat}
    (same : candidate base first = candidate other second) : first = second := by
  have plain (number : Nat) : '_' ∉ (toString number).toList.reverse := by
    intro member
    rw [List.mem_reverse, Nat.toString_eq_repr, Nat.toList_repr] at member
    exact absurd (Nat.isDigit_of_mem_toDigits (by decide) (by decide) member) (by decide)
  have texts := congrArg (fun text : String => text.toList.reverse) same
  simp only [candidate, String.toList_append, List.reverse_append, List.append_assoc] at texts
  have digits := (split_unique texts (plain first) (plain second)).1
  exact Decimal.toString_injective (String.toList_inj.mp (List.reverse_injective digits))

end Minting

namespace StreamedToolCallIds

def reservedByOther (ids : StreamedToolCallIds) (id : String) (key : SlotKey) : Bool :=
  match ids.reserved.lookup id with
  | some owner => owner ≠ some key
  | none => false

/-- The id, and the counter after it. -/
def mintUniqueId (ids : StreamedToolCallIds) (choiceIndex toolCallIndex : Nat) (key : SlotKey) :
    String × Nat :=
  let base := mintId choiceIndex toolCallIndex
  if ids.reservedByOther base key then
    (mintLoop base ids.reserved (ids.reserved.entries.length + 1) ids.mintSeq).get
      (mintLoop_isSome base ids.reserved ids.mintSeq)
  else (base, ids.mintSeq)

def applyRealId (ids : StreamedToolCallIds) (providerId : String)
    (choiceIndex toolCallIndex : Nat) (toolCall : Json) (id : String) :
    Except StreamError (Json × StreamedToolCallIds) :=
  let key := (choiceIndex, toolCallIndex)
  match ids.slots.lookup key with
  | some established => .ok (setToolCallId toolCall established.id, ids)
  | none =>
    if ids.reservedByOther id key then .error (collisionError providerId id)
    else
      .ok (toolCall,
        { ids with
          reserved := ids.reserved.insert id (some key)
          slots := ids.slots.insert key (.upstream id) })

def reserveWireId (ids : StreamedToolCallIds) (providerId id : String) :
    Except StreamError StreamedToolCallIds :=
  match ids.reserved.lookup id with
  | some (some _) => .error (collisionError providerId id)
  | some none => .ok ids
  | none => .ok { ids with reserved := ids.reserved.insert id none }

def applyMissingId (ids : StreamedToolCallIds) (choiceIndex toolCallIndex : Nat)
    (toolCall : Json) : Json × StreamedToolCallIds :=
  let key := (choiceIndex, toolCallIndex)
  match ids.slots.lookup key with
  | some (.upstream _) => (toolCall, ids)
  | some (.minted id) => (setToolCallId toolCall id, ids)
  | none =>
    let (id, mintSeq) := ids.mintUniqueId choiceIndex toolCallIndex key
    (setToolCallId toolCall id,
      { reserved := ids.reserved.insert id (some key)
        slots := ids.slots.insert key (.minted id)
        mintSeq })

def fillCall (providerId : String) (choiceIndex : Nat) (toolCall : Json)
    (ids : StreamedToolCallIds) : Except StreamError (Json × StreamedToolCallIds) :=
  match realId toolCall, parseToolCallIndex toolCall with
  | some id, some toolCallIndex =>
    ids.applyRealId providerId choiceIndex toolCallIndex toolCall id
  | some id, none =>
    match ids.reserveWireId providerId id with
    | .error failure => .error failure
    | .ok next => .ok (toolCall, next)
  | none, some toolCallIndex => .ok (ids.applyMissingId choiceIndex toolCallIndex toolCall)
  | none, none => .error (unkeyedError providerId)

def fillChoice (providerId : String) (choice : ChunkChoice) (ids : StreamedToolCallIds) :
    Except StreamError (ChunkChoice × StreamedToolCallIds) :=
  match choice.delta.toolCalls with
  | none => .ok (choice, ids)
  | some toolCalls =>
    match threadAll (fillCall providerId choice.index) toolCalls ids with
    | .error failure => .error failure
    | .ok (filled, next) =>
      .ok ({ choice with delta := { choice.delta with toolCalls := some filled } }, next)

def fillMissingIds (providerId : String) (chunk : ChatChunk) (ids : StreamedToolCallIds) :
    Except StreamError (ChatChunk × StreamedToolCallIds) :=
  match threadAll (fillChoice providerId) chunk.choices ids with
  | .error failure => .error failure
  | .ok (filled, next) => .ok ({ chunk with choices := filled }, next)

/-- The chunks that go out, up to the first that fails. -/
def emitted (providerId : String) : List ChatChunk → StreamedToolCallIds → List ChatChunk
  | [], _ => []
  | chunk :: rest, ids =>
    match fillMissingIds providerId chunk ids with
    | .error _ => []
    | .ok (filled, next) => filled :: emitted providerId rest next

/-- The tables once the chunks are through, or one has failed. -/
def afterwards (providerId : String) : List ChatChunk → StreamedToolCallIds → StreamedToolCallIds
  | [], ids => ids
  | chunk :: rest, ids =>
    match fillMissingIds providerId chunk ids with
    | .error _ => ids
    | .ok (_, next) => afterwards providerId rest next

end StreamedToolCallIds

section Reading
variable {toolCall : Json} {id : String} {index : Nat}

theorem parseToolCallIndex_setToolCallId (toolCall : Json) (id : String) :
    parseToolCallIndex (setToolCallId toolCall id) = parseToolCallIndex toolCall := by
  rw [parseToolCallIndex, setToolCallId, Json.field_setField_ne (by decide), parseToolCallIndex]

theorem realId_setToolCallId (keyed : parseToolCallIndex toolCall = some index)
    (nonempty : id ≠ "") : realId (setToolCallId toolCall id) = some id := by
  have held : toolCall.field "index" ≠ none := by
    intro missing
    rw [parseToolCallIndex, missing] at keyed
    cases keyed
  rw [realId, setToolCallId, Json.field_setField_of_field held]
  exact Option.filter_some_pos (by simpa using nonempty)

theorem realId_ne_empty (real : realId toolCall = some id) : id ≠ "" := by
  have kept := (Option.filter_eq_some_iff.mp real).2
  simpa using kept

end Reading

section Minted
variable {base : String} {seq : Nat}

theorem candidate_ne_empty : candidate base seq ≠ "" := by
  intro empty
  have texts := congrArg String.toList empty
  simp [candidate] at texts

theorem mintId_ne_empty (choiceIndex toolCallIndex : Nat) :
    mintId choiceIndex toolCallIndex ≠ "" := by
  intro empty
  have texts := congrArg String.toList empty
  unfold mintId at texts
  split at texts <;> simp at texts

namespace StreamedToolCallIds
variable {ids next : StreamedToolCallIds} {key : SlotKey} {id : String}

theorem reservedByOther_eq_false (free : ids.reservedByOther id key = false) :
    ids.reserved.lookup id = none ∨ ids.reserved.lookup id = some (some key) := by
  rw [reservedByOther] at free
  split at free
  · rename_i owner found
    rw [found, show owner = some key by simpa using free]
    exact Or.inr rfl
  · exact Or.inl (by assumption)

theorem mintUniqueId_spec {choiceIndex toolCallIndex mintSeq : Nat}
    (minted : ids.mintUniqueId choiceIndex toolCallIndex key = (id, mintSeq)) :
    id ≠ "" ∧
      (ids.reserved.lookup id = none ∨ ids.reserved.lookup id = some (some key)) ∧
      ∀ place, ids.mintSeq < place → place ≤ mintSeq →
        ∃ base, ids.reserved.lookup (candidate base place) ≠ none ∨ id = candidate base place := by
  unfold mintUniqueId at minted
  dsimp only at minted
  split at minted
  · have found := Option.eq_some_of_isSome (mintLoop_isSome (mintId choiceIndex toolCallIndex)
      ids.reserved ids.mintSeq)
    rw [minted] at found
    obtain ⟨free, named, passed⟩ := mintLoop_spec found
    refine ⟨named ▸ candidate_ne_empty, Or.inl free, ?_⟩
    intro place above within
    refine ⟨mintId choiceIndex toolCallIndex, ?_⟩
    rcases Nat.lt_or_eq_of_le within with below | last
    · exact Or.inl (passed place above below)
    · exact Or.inr (last ▸ named)
  · rename_i free
    cases minted
    refine ⟨mintId_ne_empty _ _, reservedByOther_eq_false (by simpa using free), ?_⟩
    intro place above within
    omega

end StreamedToolCallIds
end Minted

section Filling
namespace StreamedToolCallIds
variable {providerId : String} {choiceIndex : Nat} {toolCall filled : Json}
variable {ids next : StreamedToolCallIds}

/-- The slot a delta is for, where its index keys one. -/
def slotOf (sent : Nat × Json) : Option SlotKey :=
  (parseToolCallIndex sent.2).map fun index => (sent.1, index)

/-- The three ways a delta goes out: under its slot's id, as the first of its slot, or with a
real id and no slot. -/
inductive Filled (ids : StreamedToolCallIds) (key : Option SlotKey) (toolCall : Json) :
    Json → StreamedToolCallIds → Prop where
  | established (slot : IdSlot) (keyed : SlotKey) (same : key = some keyed)
      (held : ids.slots.lookup keyed = some slot)
      (filled : Json)
      (kept : filled = setToolCallId toolCall slot.id ∨ filled = toolCall ∧ realId toolCall = none) :
      Filled ids key toolCall filled ids
  | opened (slot : IdSlot) (keyed : SlotKey) (same : key = some keyed)
      (fresh : ids.slots.lookup keyed = none)
      (nonempty : slot.id ≠ "")
      (free : ids.reserved.lookup slot.id = none ∨
        ids.reserved.lookup slot.id = some (some keyed))
      (mintSeq : Nat)
      (counted : ∀ place, ids.mintSeq < place → place ≤ mintSeq → ∃ base,
        ids.reserved.lookup (candidate base place) ≠ none ∨ slot.id = candidate base place)
      (filled : Json)
      (carried : filled = setToolCallId toolCall slot.id ∨
        filled = toolCall ∧ realId toolCall = some slot.id) :
      Filled ids key toolCall filled
        { reserved := ids.reserved.insert slot.id (some keyed)
          slots := ids.slots.insert keyed slot
          mintSeq }
  | loose (id : String) (same : key = none) (real : realId toolCall = some id)
      (next : StreamedToolCallIds)
      (reserved : next = ids ∧ ids.reserved.lookup id = some none ∨
        next = { ids with reserved := ids.reserved.insert id none } ∧
          ids.reserved.lookup id = none) :
      Filled ids key toolCall toolCall next

theorem fillCall_filled
    (done : fillCall providerId choiceIndex toolCall ids = .ok (filled, next)) :
    Filled ids (slotOf (choiceIndex, toolCall)) toolCall filled next := by
  unfold fillCall at done
  split at done
  · rename_i id index real keyed
    have slot : slotOf (choiceIndex, toolCall) = some (choiceIndex, index) := by
      rw [slotOf, keyed]
      rfl
    unfold applyRealId at done
    dsimp only at done
    split at done
    · rename_i established held
      cases done
      exact Filled.established established _ slot held _ (Or.inl rfl)
    · rename_i fresh
      split at done
      · cases done
      · rename_i free
        cases done
        have unclaimed : ids.reservedByOther id (choiceIndex, index) = false := by simpa using free
        apply Filled.opened (.upstream id) _ slot fresh (realId_ne_empty real)
          (reservedByOther_eq_false unclaimed) _ _ _ (Or.inr ⟨rfl, real⟩)
        intro place above within
        omega
  · rename_i id real unkeyed
    have slot : slotOf (choiceIndex, toolCall) = none := by
      rw [slotOf, unkeyed]
      rfl
    unfold reserveWireId at done
    split at done
    · cases done
    · rename_i result
      split at result
      · cases result
      · rename_i owner
        cases done
        cases result
        exact Filled.loose id slot real _ (Or.inl ⟨rfl, owner⟩)
      · rename_i free
        cases done
        cases result
        exact Filled.loose id slot real _ (Or.inr ⟨rfl, free⟩)
  · rename_i index missing keyed
    have slot : slotOf (choiceIndex, toolCall) = some (choiceIndex, index) := by
      rw [slotOf, keyed]
      rfl
    have done := Except.ok.inj done
    unfold applyMissingId at done
    dsimp only at done
    split at done
    · rename_i id held
      cases done
      exact Filled.established (.upstream id) _ slot held _ (Or.inr ⟨rfl, missing⟩)
    · rename_i id held
      cases done
      exact Filled.established (.minted id) _ slot held _ (Or.inl rfl)
    · rename_i fresh
      cases minted : ids.mintUniqueId choiceIndex index (choiceIndex, index) with
      | mk id mintSeq =>
        rw [minted] at done
        cases done
        obtain ⟨nonempty, free, counted⟩ := mintUniqueId_spec minted
        exact Filled.opened (.minted id) _ slot fresh nonempty free _ counted _ (Or.inl rfl)
  · cases done

/-- A call without an id that opens a slot is never refused: it goes out under the minted one. -/
theorem fillCall_mints {key : SlotKey} (missing : realId toolCall = none)
    (slot : slotOf (choiceIndex, toolCall) = some key) (fresh : ids.slots.lookup key = none) :
    ∃ filled next, fillCall providerId choiceIndex toolCall ids = .ok (filled, next) ∧
      realId filled = some (ids.mintUniqueId key.1 key.2 key).1 := by
  obtain ⟨index, keyed, rfl⟩ := Option.map_eq_some_iff.mp slot
  refine ⟨_, _, by rw [fillCall, missing, keyed], ?_⟩
  unfold applyMissingId
  dsimp only at fresh ⊢
  rw [fresh]
  exact realId_setToolCallId keyed (mintUniqueId_spec rfl).1

theorem Filled.slot {key : Option SlotKey} (done : Filled ids key toolCall filled next)
    (choiceIndex : Nat) : slotOf (choiceIndex, filled) = slotOf (choiceIndex, toolCall) := by
  have carried {id : String} (same : filled = setToolCallId toolCall id ∨ filled = toolCall) :
      slotOf (choiceIndex, filled) = slotOf (choiceIndex, toolCall) := by
    rcases same with rfl | rfl
    · rw [slotOf, parseToolCallIndex_setToolCallId, slotOf]
    · rfl
  cases done with
  | established slot keyed same held filled kept => exact carried (kept.imp_right And.left)
  | opened slot keyed same fresh nonempty free mintSeq counted filled kept =>
    exact carried (kept.imp_right And.left)
  | loose => rfl

/-- The tables and what went out: every slot was opened by its first delta and owns its id. -/
structure Tied (ids : StreamedToolCallIds) (sent : List (Nat × Json)) : Prop where
  owned : ∀ key slot, ids.slots.lookup key = some slot →
    slot.id ≠ "" ∧ ids.reserved.lookup slot.id = some (some key)
  keyed : ∀ call ∈ sent, ∀ key, slotOf call = some key →
    ∃ slot, ids.slots.lookup key = some slot ∧ ∀ id, realId call.2 = some id → id = slot.id
  unkeyed : ∀ call ∈ sent, slotOf call = none →
    ∃ id, realId call.2 = some id ∧ ids.reserved.lookup id = some none
  opened : ∀ key slot, ids.slots.lookup key = some slot →
    ∃ call ∈ sent, slotOf call = some key
  first : ∀ key call, sent.find? (slotOf · = some key) = some call → realId call.2 ≠ none

theorem Tied.start : Tied {} [] where
  owned := nofun
  keyed := nofun
  unkeyed := nofun
  opened := nofun
  first := nofun

theorem first_append {sent : List (Nat × Json)} {call : Nat × Json}
    (first : ∀ key other, sent.find? (slotOf · = some key) = some other → realId other.2 ≠ none)
    (carried : ∀ key, slotOf call = some key → (∀ other ∈ sent, slotOf other ≠ some key) →
      realId call.2 ≠ none) :
    ∀ key other, (sent ++ [call]).find? (slotOf · = some key) = some other →
      realId other.2 ≠ none := by
  intro key other found
  rw [List.find?_append] at found
  cases before : sent.find? (slotOf · = some key) with
  | some prior =>
    rw [before, Option.some_or] at found
    cases found
    exact first key _ before
  | none =>
    rw [before, Option.none_or] at found
    have here := List.find?_some found
    obtain rfl := List.mem_singleton.mp (List.mem_of_find?_eq_some found)
    apply carried key (of_decide_eq_true here)
    intro other member same
    exact absurd (decide_eq_true same) (List.find?_eq_none.mp before other member)

theorem realId_set {key : SlotKey} {id : String}
    (keyed : slotOf (choiceIndex, toolCall) = some key) (nonempty : id ≠ "") :
    realId (setToolCallId toolCall id) = some id := by
  obtain ⟨index, parsed, -⟩ := Option.map_eq_some_iff.mp keyed
  exact realId_setToolCallId parsed nonempty

variable {sent : List (Nat × Json)} {call : Nat × Json} {key : SlotKey} {slot : IdSlot}

/-- A slot's later delta, with the slot's id or with none. -/
theorem Tied.established (tied : Tied ids sent) (held : ids.slots.lookup key = some slot)
    (here : slotOf call = some key) (kept : ∀ id, realId call.2 = some id → id = slot.id) :
    Tied ids (sent ++ [call]) where
  owned := tied.owned
  keyed := by
    intro other member otherKey same
    rcases List.mem_append.mp member with before | last
    · exact tied.keyed other before otherKey same
    · obtain rfl := List.mem_singleton.mp last
      obtain rfl := Option.some.inj (here.symm.trans same)
      exact ⟨slot, held, kept⟩
  unkeyed := by
    intro other member loose
    rcases List.mem_append.mp member with before | last
    · exact tied.unkeyed other before loose
    · obtain rfl := List.mem_singleton.mp last
      rw [here] at loose
      cases loose
  opened := by
    intro otherKey other found
    obtain ⟨call, before, same⟩ := tied.opened otherKey other found
    exact ⟨call, List.mem_append_left _ before, same⟩
  first := by
    apply first_append tied.first
    intro otherKey same unseen
    obtain rfl := Option.some.inj (here.symm.trans same)
    obtain ⟨opening, before, opened⟩ := tied.opened key slot held
    exact absurd opened (unseen opening before)

/-- A slot's first delta, which reserves its id. -/
theorem Tied.open_ (tied : Tied ids sent) (fresh : ids.slots.lookup key = none)
    (nonempty : slot.id ≠ "")
    (free : ids.reserved.lookup slot.id = none ∨ ids.reserved.lookup slot.id = some (some key))
    (here : slotOf call = some key) (carried : realId call.2 = some slot.id) (mintSeq : Nat) :
    Tied { reserved := ids.reserved.insert slot.id (some key)
           slots := ids.slots.insert key slot
           mintSeq } (sent ++ [call]) := by
  have apart {id : String} {owner : Option SlotKey} (other : owner ≠ some key)
      (found : ids.reserved.lookup id = some owner) : id ≠ slot.id := by
    rintro rfl
    rcases free with free | free
    · rw [free] at found
      cases found
    · rw [free] at found
      exact other (Option.some.inj found).symm
  have elsewhere {otherKey : SlotKey} {other : IdSlot}
      (found : ids.slots.lookup otherKey = some other) : otherKey ≠ key := by
    rintro rfl
    rw [fresh] at found
    cases found
  constructor
  · intro otherKey other found
    by_cases same : otherKey = key
    · subst same
      rw [AList.lookup_insert] at found
      cases found
      exact ⟨nonempty, AList.lookup_insert _⟩
    · rw [AList.lookup_insert_ne same] at found
      obtain ⟨named, owner⟩ := tied.owned otherKey other found
      have distinct := apart (fun equal => same (Option.some.inj equal)) owner
      exact ⟨named, (AList.lookup_insert_ne distinct).trans owner⟩
  · intro other member otherKey same
    rcases List.mem_append.mp member with before | last
    · obtain ⟨prior, found, kept⟩ := tied.keyed other before otherKey same
      exact ⟨prior, (AList.lookup_insert_ne (elsewhere found)).trans found, kept⟩
    · obtain rfl := List.mem_singleton.mp last
      obtain rfl := Option.some.inj (here.symm.trans same)
      refine ⟨slot, AList.lookup_insert _, ?_⟩
      intro id real
      exact Option.some.inj (real.symm.trans carried)
  · intro other member loose
    rcases List.mem_append.mp member with before | last
    · obtain ⟨id, real, owner⟩ := tied.unkeyed other before loose
      have distinct := apart (Option.some_ne_none key).symm owner
      exact ⟨id, real, (AList.lookup_insert_ne distinct).trans owner⟩
    · obtain rfl := List.mem_singleton.mp last
      rw [here] at loose
      cases loose
  · intro otherKey other found
    by_cases same : otherKey = key
    · subst same
      exact ⟨call, List.mem_append_right _ (List.mem_singleton_self _), here⟩
    · rw [AList.lookup_insert_ne same] at found
      obtain ⟨opening, before, opened⟩ := tied.opened otherKey other found
      exact ⟨opening, List.mem_append_left _ before, opened⟩
  · apply first_append tied.first
    intro otherKey _ _
    rw [carried]
    exact Option.some_ne_none _

/-- A real id without a slot, reserved by value. -/
theorem Tied.loose (tied : Tied ids sent) {id : String} (here : slotOf call = none)
    (real : realId call.2 = some id)
    (reserved : next = ids ∧ ids.reserved.lookup id = some none ∨
      next = { ids with reserved := ids.reserved.insert id none } ∧
        ids.reserved.lookup id = none) :
    Tied next (sent ++ [call]) := by
  have slots : next.slots = ids.slots := by
    rcases reserved with ⟨rfl, -⟩ | ⟨rfl, -⟩ <;> rfl
  have holds : next.reserved.lookup id = some none := by
    rcases reserved with ⟨rfl, found⟩ | ⟨rfl, -⟩
    · exact found
    · exact AList.lookup_insert _
  have keeps {other : String} {owner : Option SlotKey}
      (found : ids.reserved.lookup other = some owner) :
      next.reserved.lookup other = some owner := by
    rcases reserved with ⟨rfl, -⟩ | ⟨rfl, free⟩
    · exact found
    · have distinct : other ≠ id := by
        rintro rfl
        rw [free] at found
        cases found
      exact (AList.lookup_insert_ne distinct).trans found
  constructor
  · intro key slot found
    rw [slots] at found
    obtain ⟨named, owner⟩ := tied.owned key slot found
    exact ⟨named, keeps owner⟩
  · intro other member key same
    rw [slots]
    rcases List.mem_append.mp member with before | last
    · exact tied.keyed other before key same
    · obtain rfl := List.mem_singleton.mp last
      rw [here] at same
      cases same
  · intro other member loose
    rcases List.mem_append.mp member with before | last
    · obtain ⟨id, real, owner⟩ := tied.unkeyed other before loose
      exact ⟨id, real, keeps owner⟩
    · obtain rfl := List.mem_singleton.mp last
      exact ⟨id, real, holds⟩
  · intro key slot found
    rw [slots] at found
    obtain ⟨opening, before, opened⟩ := tied.opened key slot found
    exact ⟨opening, List.mem_append_left _ before, opened⟩
  · apply first_append tied.first
    intro key same _
    rw [here] at same
    cases same

theorem Tied.fillCall
    (done : StreamedToolCallIds.fillCall providerId choiceIndex toolCall ids = .ok (filled, next))
    (tied : Tied ids sent) : Tied next (sent ++ [(choiceIndex, filled)]) := by
  have filling := fillCall_filled done
  have sameSlot := filling.slot choiceIndex
  generalize named : slotOf (choiceIndex, toolCall) = key at filling sameSlot
  cases filling with
  | established slot keyed same held filled kept =>
    subst same
    apply tied.established held sameSlot
    intro id real
    rcases kept with rfl | ⟨rfl, missing⟩
    · rw [realId_set named (tied.owned keyed slot held).1] at real
      exact (Option.some.inj real).symm
    · rw [missing] at real
      cases real
  | opened slot keyed same fresh nonempty free mintSeq counted filled carried =>
    subst same
    have real : realId filled = some slot.id := by
      rcases carried with rfl | ⟨rfl, real⟩
      · exact realId_set named nonempty
      · exact real
    exact tied.open_ fresh nonempty free sameSlot real mintSeq
  | loose id same real next reserved =>
    subst same
    exact tied.loose sameSlot real reserved

end StreamedToolCallIds
end Filling

section Stream
namespace StreamedToolCallIds
variable {providerId : String} {ids next : StreamedToolCallIds} {sent : List (Nat × Json)}
variable {choice filledChoice : ChunkChoice} {chunk filled : ChatChunk}

/-- The tool-call deltas of a choice, each with the choice it is for. -/
def choiceCalls (choice : ChunkChoice) : List (Nat × Json) :=
  (choice.delta.toolCalls.getD []).map fun toolCall => (choice.index, toolCall)

def chunkCalls (chunk : ChatChunk) : List (Nat × Json) := chunk.choices.flatMap choiceCalls

theorem fillChoice_ok (done : fillChoice providerId choice ids = .ok (filledChoice, next)) :
    (choice.delta.toolCalls = none ∧ filledChoice = choice ∧ next = ids) ∨
      ∃ toolCalls calls, choice.delta.toolCalls = some toolCalls ∧
        threadAll (fillCall providerId choice.index) toolCalls ids = .ok (calls, next) ∧
        filledChoice =
          { choice with delta := { choice.delta with toolCalls := some calls } } := by
  unfold fillChoice at done
  split at done
  · rename_i missing
    cases done
    exact Or.inl ⟨missing, rfl, rfl⟩
  · rename_i toolCalls present
    split at done
    · cases done
    · rename_i calls after walked
      cases done
      exact Or.inr ⟨toolCalls, calls, present, walked, rfl⟩

theorem fillMissingIds_ok (done : fillMissingIds providerId chunk ids = .ok (filled, next)) :
    ∃ choices, threadAll (fillChoice providerId) chunk.choices ids = .ok (choices, next) ∧
      filled = { chunk with choices } := by
  unfold fillMissingIds at done
  split at done
  · cases done
  · rename_i choices after walked
    cases done
    exact ⟨choices, walked, rfl⟩

theorem Tied.fillChoice
    (done : StreamedToolCallIds.fillChoice providerId choice ids = .ok (filledChoice, next))
    (tied : Tied ids sent) : Tied next (sent ++ choiceCalls filledChoice) := by
  rcases fillChoice_ok done with ⟨missing, rfl, rfl⟩ | ⟨toolCalls, calls, present, walked, rfl⟩
  · rwa [choiceCalls, missing, Option.getD_none, List.map_nil, List.append_nil]
  · have kept : Tied next (sent ++ calls.flatMap fun toolCall => [(choice.index, toolCall)]) :=
      threadAll_keeps (fun step tied => tied.fillCall step) walked tied
    rwa [choiceCalls, Option.getD_some, List.map_eq_flatMap]

theorem Tied.fillMissingIds
    (done : StreamedToolCallIds.fillMissingIds providerId chunk ids = .ok (filled, next))
    (tied : Tied ids sent) : Tied next (sent ++ chunkCalls filled) := by
  obtain ⟨choices, walked, rfl⟩ := fillMissingIds_ok done
  exact threadAll_keeps (fun step tied => tied.fillChoice step) walked tied

theorem Tied.emitted (chunks : List ChatChunk) (tied : Tied ids sent) :
    Tied (afterwards providerId chunks ids)
      (sent ++ (StreamedToolCallIds.emitted providerId chunks ids).flatMap chunkCalls) := by
  induction chunks generalizing ids sent with
  | nil => rwa [StreamedToolCallIds.emitted, List.flatMap_nil, List.append_nil]
  | cons chunk rest ih =>
    rw [StreamedToolCallIds.emitted, afterwards]
    split
    · rwa [List.flatMap_nil, List.append_nil]
    · rename_i filled next done
      rw [List.flatMap_cons, ← List.append_assoc]
      exact ih (tied.fillMissingIds done)

/-- Each value the counter has had is the last number of a reserved id. -/
def Counted (ids : StreamedToolCallIds) : Prop :=
  ∀ place, 0 < place → place ≤ ids.mintSeq →
    ∃ base, ids.reserved.lookup (candidate base place) ≠ none

theorem lookup_insert_ne_none {Key Value : Type} [DecidableEq Key] {map : KeyedMap Key Value}
    {key : Key} (held : map.lookup key ≠ none) (other : Key) (value : Value) :
    (map.insert other value).lookup key ≠ none := by
  by_cases same : key = other
  · subst same
    rw [AList.lookup_insert]
    exact Option.some_ne_none _
  · rwa [AList.lookup_insert_ne same]

theorem Counted.fillCall {choiceIndex : Nat} {toolCall made : Json} (counted : Counted ids)
    (done : StreamedToolCallIds.fillCall providerId choiceIndex toolCall ids = .ok (made, next)) :
    Counted next := by
  cases fillCall_filled done with
  | established => exact counted
  | opened slot keyed same fresh nonempty free mintSeq passed filled carried =>
    intro place positive within
    rcases Nat.lt_or_ge ids.mintSeq place with above | below
    · obtain ⟨base, held | named⟩ := passed place above within
      · exact ⟨base, lookup_insert_ne_none held _ _⟩
      · refine ⟨base, ?_⟩
        rw [← named, AList.lookup_insert]
        exact Option.some_ne_none _
    · obtain ⟨base, held⟩ := counted place positive below
      exact ⟨base, lookup_insert_ne_none held _ _⟩
  | loose id same real next reserved =>
    rcases reserved with ⟨rfl, -⟩ | ⟨rfl, -⟩
    · exact counted
    · intro place positive within
      obtain ⟨base, held⟩ := counted place positive within
      exact ⟨base, lookup_insert_ne_none held _ _⟩

theorem Counted.afterwards (chunks : List ChatChunk) (counted : Counted ids) :
    Counted (StreamedToolCallIds.afterwards providerId chunks ids) := by
  induction chunks generalizing ids with
  | nil => exact counted
  | cons chunk rest ih =>
    rw [StreamedToolCallIds.afterwards]
    split
    · exact counted
    · rename_i filled next done
      obtain ⟨choices, walked, -⟩ := fillMissingIds_ok done
      apply ih
      refine @threadAll_keeps _ _ _ Unit _ _ _ _ _ (fun ids _ => Counted ids) (fun _ => []) ?_ []
        walked counted
      intro choice ids filled next _ done counted
      rcases fillChoice_ok done with ⟨-, -, rfl⟩ | ⟨toolCalls, calls, -, walked, -⟩
      · exact counted
      · refine @threadAll_keeps _ _ _ Unit _ _ _ _ _ (fun ids _ => Counted ids) (fun _ => []) ?_ []
          walked counted
        exact fun step counted => counted.fillCall step

/-- The counter stays below the number of ids on the wire. -/
theorem mintSeq_le_reserved (counted : Counted ids) :
    ids.mintSeq ≤ ids.reserved.entries.length := by
  choose! base held using counted
  let ids' := (List.range ids.mintSeq).map fun place => candidate (base (place + 1)) (place + 1)
  have distinct : ids'.Nodup := by
    apply List.Nodup.map_on _ List.nodup_range
    intro place _ other _ same
    have equal := candidate_seq same
    omega
  have within : ids' ⊆ ids.reserved.keys := by
    intro id member
    obtain ⟨place, below, rfl⟩ := List.mem_map.mp member
    have inside := List.mem_range.mp below
    exact KeyedMap.mem_keys_iff.mpr (held (place + 1) (Nat.succ_pos place) inside)
  have small := (distinct.subperm within).length_le
  rwa [KeyedMap.length_keys, List.length_map, List.length_range] at small

/-- The delta but for its id. -/
def SameButId (toolCall filled : Json) : Prop :=
  ∀ name, name ≠ "id" → filled.field name = toolCall.field name

structure SameButIds (chunk filled : ChatChunk) : Prop where
  rest : { filled with choices := chunk.choices } = chunk
  choices : List.Forall₂ (fun choice filled =>
    { filled with delta := { filled.delta with toolCalls := choice.delta.toolCalls } } = choice ∧
      Option.Rel (List.Forall₂ SameButId) choice.delta.toolCalls filled.delta.toolCalls)
    chunk.choices filled.choices

theorem fillCall_sameButId {choiceIndex : Nat} {toolCall made : Json}
    (done : fillCall providerId choiceIndex toolCall ids = .ok (made, next)) :
    SameButId toolCall made := by
  have carried {id : String} (same : made = setToolCallId toolCall id ∨ made = toolCall) :
      SameButId toolCall made := by
    rcases same with rfl | rfl
    · exact fun name different => Json.field_setField_ne different _ _
    · exact fun _ _ => rfl
  have filling := fillCall_filled done
  cases filling with
  | established slot keyed same held filled kept => exact carried (kept.imp_right And.left)
  | opened slot keyed same fresh nonempty free mintSeq counted filled kept =>
    exact carried (kept.imp_right And.left)
  | loose => exact fun _ _ => rfl

theorem fillMissingIds_sameButIds
    (done : fillMissingIds providerId chunk ids = .ok (filled, next)) :
    SameButIds chunk filled := by
  obtain ⟨choices, walked, rfl⟩ := fillMissingIds_ok done
  refine ⟨rfl, threadAll_forall₂ ?_ walked⟩
  intro choice ids filled next done
  rcases fillChoice_ok done with ⟨missing, rfl, rfl⟩ | ⟨toolCalls, calls, present, walked, rfl⟩
  · rw [missing]
    exact ⟨by rw [← missing], .none⟩
  · rw [present]
    refine ⟨by rw [← present], .some (threadAll_forall₂ fillCall_sameButId walked)⟩

theorem emitted_sameButIds (chunks : List ChatChunk) :
    List.Forall₂ SameButIds (chunks.take (emitted providerId chunks ids).length)
      (emitted providerId chunks ids) := by
  induction chunks generalizing ids with
  | nil => exact .nil
  | cons chunk rest ih =>
    rw [emitted]
    split
    · exact .nil
    · rename_i filled next done
      rw [List.length_cons, List.take_succ_cons]
      exact .cons (fillMissingIds_sameButIds done) ih

/-- Every slot goes out under one id, from its first delta on, and no id under two slots or under
a slot and none; one without an id that opens its slot goes out under a minted one. Nothing but
ids is changed, and minting comes to an end. -/
theorem streamed_ids_stable_and_unambiguous (providerId : String) (chunks : List ChatChunk) :
    let sent := (emitted providerId chunks {}).flatMap chunkCalls
    (∀ first ∈ sent, ∀ second ∈ sent, ∀ key, slotOf first = some key → slotOf second = some key →
      ∀ id other, realId first.2 = some id → realId second.2 = some other → id = other) ∧
    (∀ key call, sent.find? (slotOf · = some key) = some call → realId call.2 ≠ none) ∧
    (∀ first ∈ sent, ∀ second ∈ sent, ∀ id, realId first.2 = some id → realId second.2 = some id →
      slotOf first = slotOf second) ∧
    (∀ ids choiceIndex toolCall key, realId toolCall = none →
      slotOf (choiceIndex, toolCall) = some key → ids.slots.lookup key = none →
      ∃ filled next, fillCall providerId choiceIndex toolCall ids = .ok (filled, next) ∧
        realId filled = some (ids.mintUniqueId key.1 key.2 key).1) ∧
    List.Forall₂ SameButIds (chunks.take (emitted providerId chunks {}).length)
      (emitted providerId chunks {}) ∧
    (∀ base reserved seq, ∃ passes minted, ∀ more,
      mintLoop base reserved (passes + more) seq = some minted) ∧
    (afterwards providerId chunks {}).mintSeq ≤
      (afterwards providerId chunks {}).reserved.entries.length := by
  intro sent
  have tied : Tied (afterwards providerId chunks {}) sent := Tied.start.emitted chunks
  have counted : Counted {} := fun place positive within => absurd positive (Nat.not_lt.mpr within)
  refine ⟨?_, tied.first, ?_, fun _ _ _ _ => fillCall_mints, emitted_sameButIds chunks,
    mintLoop_terminates, mintSeq_le_reserved (counted.afterwards chunks)⟩
  · intro first member second also key here there id other real alike
    obtain ⟨slot, held, kept⟩ := tied.keyed first member key here
    obtain ⟨again, found, keeps⟩ := tied.keyed second also key there
    obtain rfl := Option.some.inj (held.symm.trans found)
    rw [kept id real, keeps other alike]
  · intro first member second also id real alike
    cases here : slotOf first with
    | none =>
      obtain ⟨named, carried, loose⟩ := tied.unkeyed first member here
      obtain rfl := Option.some.inj (real.symm.trans carried)
      cases there : slotOf second with
      | none => rfl
      | some key =>
        obtain ⟨slot, held, kept⟩ := tied.keyed second also key there
        have owner := (tied.owned key slot held).2
        rw [← kept id alike, loose] at owner
        cases owner
    | some key =>
      obtain ⟨slot, held, kept⟩ := tied.keyed first member key here
      have owner := (tied.owned key slot held).2
      rw [← kept id real] at owner
      cases there : slotOf second with
      | none =>
        obtain ⟨named, carried, loose⟩ := tied.unkeyed second also there
        obtain rfl := Option.some.inj (alike.symm.trans carried)
        rw [owner] at loose
        cases loose
      | some other =>
        obtain ⟨again, found, keeps⟩ := tied.keyed second also other there
        have claimed := (tied.owned other again found).2
        rw [← keeps id alike, owner] at claimed
        exact Option.some.inj claimed

end StreamedToolCallIds
end Stream
end Routectl.OpenaiCompat
