import Routectl.Library.KeyedMap

/-! A bounded map in recency order: a read moves its key to the front, a write at
capacity drops the key at the back. -/
namespace Library.LruCache
universe u v
variable {Key : Type u} {Value : Type v} [DecidableEq Key]

/-- The value of a key, which becomes the most recent one. -/
def get (key : Key) (map : KeyedMap Key Value) : KeyedMap Key Value × Option Value :=
  match map.lookup key with
  | none => (map, none)
  | some value => (map.insert key value, some value)

def put (capacity : Nat) (key : Key) (value : Value) (map : KeyedMap Key Value) :
    KeyedMap Key Value :=
  let inserted := map.insert key value
  if inserted.entries.length ≤ capacity then inserted
  else ⟨inserted.entries.dropLast, inserted.nodupKeys.sublist (List.dropLast_sublist _)⟩

variable {map : KeyedMap Key Value} {key other : Key} {value : Value} {capacity : Nat}

theorem get_value (key : Key) (map : KeyedMap Key Value) : (get key map).2 = map.lookup key := by
  unfold get
  split
  · rename_i missing
    exact missing.symm
  · rename_i found
    exact found.symm

theorem lookup_get (key other : Key) (map : KeyedMap Key Value) :
    (get key map).1.lookup other = map.lookup other := by
  unfold get
  split
  · rfl
  · rename_i found
    by_cases same : other = key
    · subst same
      rw [AList.lookup_insert, found]
    · exact AList.lookup_insert_ne same

/-- A write is read back at any capacity but zero. -/
theorem lookup_put_self (roomy : 0 < capacity) :
    (put capacity key value map).lookup key = some value := by
  unfold put
  dsimp only
  split
  · exact AList.lookup_insert map
  · rename_i full
    rw [← Option.mem_def, AList.mem_lookup_iff]
    dsimp only
    rw [AList.entries_insert] at full ⊢
    cases rest : List.kerase key map.entries with
    | nil =>
      rw [rest, List.length_singleton] at full
      exact absurd roomy full
    | cons head tail =>
      rw [List.dropLast_cons_of_ne_nil (List.cons_ne_nil head tail)]
      exact List.mem_cons_self

/-- Another key is kept as it is or evicted. -/
theorem lookup_put_other (different : other ≠ key) :
    (put capacity key value map).lookup other = map.lookup other ∨
      (put capacity key value map).lookup other = none := by
  unfold put
  dsimp only
  split
  · exact .inl (AList.lookup_insert_ne different)
  · cases kept : AList.lookup other (⟨(map.insert key value).entries.dropLast,
        (map.insert key value).nodupKeys.sublist (List.dropLast_sublist _)⟩ :
          KeyedMap Key Value) with
    | none => exact .inr rfl
    | some held =>
      left
      rw [← Option.mem_def, AList.mem_lookup_iff] at kept
      have member := (List.dropLast_sublist _).mem kept
      rw [← AList.mem_lookup_iff, Option.mem_def, AList.lookup_insert_ne different] at member
      exact member.symm

section Push

/-- A write that hands back the entry that left: the old value of the key, or the entry
dropped for it. -/
def push (capacity : Nat) (key : Key) (value : Value) (map : KeyedMap Key Value) :
    KeyedMap Key Value × Option (Key × Value) :=
  match map.lookup key with
  | some old => (map.insert key value, some (key, old))
  | none =>
    (put capacity key value map,
      if map.entries.length < capacity then none
      else map.entries.getLast?.map fun entry => (entry.1, entry.2))

/-- A write of a missing key at capacity drops the last entry. -/
theorem entries_put_full (absent : key ∉ map) (full : capacity ≤ map.entries.length) :
    (put capacity key value map).entries = (⟨key, value⟩ :: map.entries).dropLast := by
  have inserted := AList.entries_insert_of_notMem (b := value) absent
  have longer : ¬ (map.insert key value).entries.length ≤ capacity := by
    rw [inserted, List.length_cons]
    omega
  unfold put
  dsimp only
  rw [if_neg longer]
  exact congrArg List.dropLast inserted

/-- A resident entry that a write at capacity drops was the last one. -/
theorem getLast_of_dropped {held : Value} (absent : key ∉ map)
    (resident : map.lookup other = some held) (full : capacity ≤ map.entries.length)
    (gone : (put capacity key value map).lookup other = none) :
    map.entries.getLast?.map (fun entry => (entry.1, entry.2)) = some (other, held) := by
  have member : ⟨other, held⟩ ∈ map.entries := AList.mem_lookup_iff.mp resident
  rcases List.eq_nil_or_concat map.entries with empty | ⟨front, last, split⟩
  · rw [empty] at member
    cases member
  · rw [List.concat_eq_append] at split
    rw [split] at member
    rcases List.mem_append.mp member with early | final
    · have kept : ⟨other, held⟩ ∈ (put capacity key value map).entries := by
        rw [entries_put_full absent full, split, ← List.cons_append, List.dropLast_concat]
        exact List.mem_cons_of_mem _ early
      have found := AList.mem_lookup_iff.mpr kept
      rw [gone] at found
      cases found
    · rw [split, ← List.mem_singleton.mp final]
      simp

theorem lookup_push_self (roomy : 0 < capacity) :
    (push capacity key value map).1.lookup key = some value := by
  unfold push
  split
  case h_1 => exact AList.lookup_insert map
  case h_2 => exact lookup_put_self roomy

/-- Another key is kept as it is, or it is the entry that left. -/
theorem lookup_push_other (different : other ≠ key) :
    (push capacity key value map).1.lookup other = map.lookup other ∨
      ∃ held, map.lookup other = some held ∧ (push capacity key value map).2 = some (other, held) ∧
        (push capacity key value map).1.lookup other = none := by
  unfold push
  split
  case h_1 => exact .inl (AList.lookup_insert_ne different)
  case h_2 missing =>
    have absent : key ∉ map := AList.lookup_eq_none.mp missing
    by_cases room : map.entries.length < capacity
    · left
      unfold put
      dsimp only
      rw [if_pos (by rw [AList.entries_insert_of_notMem absent]; exact room)]
      exact AList.lookup_insert_ne different
    · rw [if_neg room]
      rcases @lookup_put_other _ _ _ map key other value capacity different with kept | gone
      · exact .inl kept
      · cases resident : map.lookup other with
        | none => exact .inl gone
        | some held =>
          refine .inr ⟨held, rfl, ?_, gone⟩
          exact getLast_of_dropped absent resident (Nat.not_lt.mp room) gone

/-- An entry of another key that left was resident and is no more. -/
theorem push_evicts {held : Value} (different : other ≠ key)
    (left : (push capacity key value map).2 = some (other, held)) :
    map.lookup other = some held ∧ (push capacity key value map).1.lookup other = none := by
  unfold push at left ⊢
  split at left
  case h_1 => exact absurd (Prod.mk.inj (Option.some.inj left)).1.symm different
  case h_2 missing =>
    have absent : key ∉ map := AList.lookup_eq_none.mp missing
    dsimp only at left ⊢
    split at left
    case isTrue => cases left
    case isFalse full =>
      obtain ⟨entry, last, same⟩ := Option.map_eq_some_iff.mp left
      obtain ⟨rfl, rfl⟩ := Prod.mk.inj same
      obtain ⟨front, split⟩ := List.getLast?_eq_some_iff.mp last
      have resident : map.lookup entry.1 = some entry.2 := by
        rw [← Option.mem_def, AList.mem_lookup_iff, split]
        exact List.mem_append_right _ (List.mem_cons_self ..)
      have apart : (front.keys ++ [entry.1]).Nodup := by
        have keys := map.keys_nodup
        rw [AList.keys, split, List.keys_append] at keys
        exact keys
      refine ⟨resident, AList.lookup_eq_none.mpr ?_⟩
      rw [AList.mem_keys, AList.keys, entries_put_full absent (Nat.not_lt.mp full), split,
        ← List.cons_append, List.dropLast_concat, List.keys_cons]
      intro inside
      rcases List.mem_cons.mp inside with own | early
      · exact different own
      · exact (List.nodup_append.mp apart).2.2 _ early _ (List.mem_cons_self ..) rfl

end Push
end Library.LruCache
