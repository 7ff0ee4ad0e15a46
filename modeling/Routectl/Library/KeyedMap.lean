import Mathlib.Algebra.Ring.Nat
import Mathlib.Data.Finset.Card
import Mathlib.Data.List.AList
import Mathlib.Data.List.MinMax

/-! Finite maps with an iteration order: in-place change, filtering, and
eviction of the oldest eligible entry. -/
namespace Library
universe u v

/-- One value a key, in the order iteration meets them. -/
abbrev KeyedMap (Key : Type u) (Value : Type v) := AList (fun _ : Key => Value)

namespace KeyedMap
variable {Key : Type u} {Value : Type v} [DecidableEq Key]

def modify (key : Key) (change : Value → Value) (map : KeyedMap Key Value) : KeyedMap Key Value :=
  match map.lookup key with
  | none => map
  | some value => map.insert key (change value)

@[simp] theorem lookup_modify_self (key : Key) (change : Value → Value) (map : KeyedMap Key Value) :
    (modify key change map).lookup key = (map.lookup key).map change := by
  cases found : map.lookup key with
  | none => simp [modify, found]
  | some value => simp [modify, found]

theorem lookup_modify_ne {key other : Key} (different : other ≠ key) (change : Value → Value)
    (map : KeyedMap Key Value) : (modify key change map).lookup other = map.lookup other := by
  cases found : map.lookup key with
  | none => simp [modify, found]
  | some value => simp [modify, found, AList.lookup_insert_ne different]

def retain (keep : Key → Bool) (map : KeyedMap Key Value) : KeyedMap Key Value :=
  ⟨map.entries.filter fun entry => keep entry.1, map.nodupKeys.sublist List.filter_sublist⟩

omit [DecidableEq Key] in
theorem mem_retain_entries {keep : Key → Bool} {map : KeyedMap Key Value} {entry} :
    entry ∈ (retain keep map).entries ↔ entry ∈ map.entries ∧ keep entry.1 = true :=
  List.mem_filter

theorem lookup_retain (keep : Key → Bool) (map : KeyedMap Key Value) (key : Key) :
    (retain keep map).lookup key = if keep key then map.lookup key else none := by
  apply Option.ext
  intro value
  rw [← Option.mem_def, AList.mem_lookup_iff, mem_retain_entries, ← AList.mem_lookup_iff,
    Option.mem_def]
  by_cases kept : keep key = true
  · simp [kept]
  · simp [kept]

/-- The eligible key of least age, the first one met among equals. -/
def oldest (eligible : Key → Bool) (age : Value → Nat) (map : KeyedMap Key Value) : Option Key :=
  ((map.entries.filter fun entry => eligible entry.1).argmin fun entry => age entry.2).map Sigma.fst

omit [DecidableEq Key] in
theorem oldest_eligible {eligible : Key → Bool} {age : Value → Nat} {map : KeyedMap Key Value}
    {key : Key} (found : oldest eligible age map = some key) : eligible key = true := by
  obtain ⟨entry, chosen, rfl⟩ := Option.map_eq_some_iff.mp found
  exact (List.mem_filter.mp (List.argmin_mem chosen)).2

/-- Make room for one more entry: at capacity the oldest eligible entry goes. -/
def evictOldest (capacity : Nat) (eligible : Key → Bool) (age : Value → Nat)
    (map : KeyedMap Key Value) : KeyedMap Key Value :=
  if map.entries.length < capacity then map
  else match oldest eligible age map with
    | none => map
    | some key => map.erase key

/-- An empty map takes one entry at any capacity. -/
theorem evictOldest_of_lt {capacity : Nat} {eligible : Key → Bool} {age : Value → Nat}
    {map : KeyedMap Key Value} (room : map.entries.length < max capacity 1) :
    evictOldest capacity eligible age map = map := by
  unfold evictOldest
  split
  · rfl
  · rename_i full
    have empty : map.entries = [] := List.length_eq_zero_iff.mp (by omega)
    simp [oldest, empty]

/-- Eviction drops nothing but an eligible key. -/
theorem lookup_evictOldest (capacity : Nat) (eligible : Key → Bool) (age : Value → Nat)
    (map : KeyedMap Key Value) (key : Key) :
    (evictOldest capacity eligible age map).lookup key = map.lookup key ∨
      ((evictOldest capacity eligible age map).lookup key = none ∧ eligible key = true) := by
  unfold evictOldest
  split
  · exact .inl rfl
  · split
    · exact .inl rfl
    · rename_i victim found
      by_cases same : key = victim
      · subst same
        exact .inr ⟨AList.lookup_erase key map, oldest_eligible found⟩
      · exact .inl (AList.lookup_erase_ne same)

section Size

omit [DecidableEq Key] in
theorem length_keys (map : KeyedMap Key Value) : map.keys.length = map.entries.length := by
  simp [AList.keys, List.keys]

theorem mem_keys_iff {map : KeyedMap Key Value} {key : Key} :
    key ∈ map.keys ↔ map.lookup key ≠ none := by
  rw [← AList.mem_keys, Ne, AList.lookup_eq_none, not_not]

theorem card_keys (map : KeyedMap Key Value) : map.keys.toFinset.card = map.entries.length := by
  rw [List.toFinset_card_of_nodup map.keys_nodup, length_keys]

/-- A resident entry, and the others. -/
theorem entries_perm_erase {map : KeyedMap Key Value} {key : Key} {value : Value}
    (found : map.lookup key = some value) :
    map.entries.Perm (⟨key, value⟩ :: (map.erase key).entries) := by
  have inside : key ∈ map.entries.keys :=
    mem_keys_iff.mpr fun missing => by rw [found] at missing; cases missing
  obtain ⟨held, before, after, -, split, erased⟩ := List.exists_of_kerase inside
  have resident : map.lookup key = some held :=
    AList.mem_lookup_iff.mpr (split ▸ List.mem_append_right _ (List.mem_cons_self ..))
  obtain rfl := Option.some.inj (found.symm.trans resident)
  show map.entries.Perm (⟨key, value⟩ :: List.kerase key map.entries)
  rw [erased]
  conv_lhs => rw [split]
  exact List.perm_middle

theorem insert_erase_self (map : KeyedMap Key Value) (key : Key) (value : Value) :
    (map.erase key).insert key value = map.insert key value := by
  apply AList.ext
  rw [AList.entries_insert, AList.entries_insert]
  exact congrArg (List.cons _) (List.kerase_of_notMem_keys
    (List.notMem_keys_kerase key map.nodupKeys))

theorem length_erase_present {map : KeyedMap Key Value} {key : Key} (present : map.lookup key ≠ none) :
    (map.erase key).entries.length + 1 = map.entries.length := by
  rw [← length_keys, ← length_keys, AList.keys_erase,
    List.length_erase_add_one (mem_keys_iff.mpr present)]

theorem length_insert_present {map : KeyedMap Key Value} {key : Key} (value : Value)
    (present : map.lookup key ≠ none) :
    (map.insert key value).entries.length = map.entries.length := by
  rw [← length_keys, ← length_keys, AList.keys_insert, List.length_cons,
    List.length_erase_add_one (mem_keys_iff.mpr present)]

theorem length_insert_missing {map : KeyedMap Key Value} {key : Key} (value : Value)
    (missing : map.lookup key = none) :
    (map.insert key value).entries.length = map.entries.length + 1 := by
  rw [AList.entries_insert_of_notMem (AList.lookup_eq_none.mp missing), List.length_cons]

/-- A map whose keys all lie in a finite set has room there for a missing one. -/
theorem length_lt_card {map : KeyedMap Key Value} {keys : Finset Key} {key : Key}
    (within : ∀ other, map.lookup other ≠ none → other ∈ keys) (member : key ∈ keys)
    (missing : map.lookup key = none) : map.entries.length < keys.card := by
  rw [← card_keys map]
  apply Finset.card_lt_card
  apply (Finset.ssubset_iff_of_subset fun other resident =>
    within other (mem_keys_iff.mp (List.mem_toFinset.mp resident))).mpr
  exact ⟨key, member, fun resident => mem_keys_iff.mp (List.mem_toFinset.mp resident) missing⟩

theorem length_le_of_covers {first second : KeyedMap Key Value}
    (covers : ∀ key, first.lookup key ≠ none → second.lookup key ≠ none) :
    first.entries.length ≤ second.entries.length := by
  rw [← card_keys first, ← card_keys second]
  apply Finset.card_le_card
  intro key member
  have resident := mem_keys_iff.mp (List.mem_toFinset.mp member)
  exact List.mem_toFinset.mpr (mem_keys_iff.mpr (covers key resident))

theorem length_le_succ {first second : KeyedMap Key Value} (key : Key)
    (covers : ∀ other, other ≠ key → first.lookup other ≠ none → second.lookup other ≠ none) :
    first.entries.length ≤ second.entries.length + 1 := by
  have inside : first.keys.toFinset ⊆ insert key second.keys.toFinset := by
    intro other member
    by_cases same : other = key
    · exact Finset.mem_insert.mpr (.inl same)
    · have resident := covers other same (mem_keys_iff.mp (List.mem_toFinset.mp member))
      exact Finset.mem_insert_of_mem (List.mem_toFinset.mpr (mem_keys_iff.mpr resident))
  rw [← card_keys first, ← card_keys second]
  exact (Finset.card_le_card inside).trans (Finset.card_insert_le _ _)

/-- With every key eligible, eviction leaves room for one more. -/
theorem length_evictOldest {capacity : Nat} {eligible : Key → Bool} {age : Value → Nat}
    {map : KeyedMap Key Value} (all : ∀ key, eligible key = true)
    (bounded : map.entries.length ≤ max capacity 1) :
    (evictOldest capacity eligible age map).entries.length + 1 ≤ max capacity 1 := by
  unfold evictOldest
  split
  · omega
  · rename_i full
    split
    · rename_i nobody
      have empty : map.entries = [] := by
        have dropped := List.argmin_eq_none.mp (Option.map_eq_none_iff.mp nobody)
        have kept : (map.entries.filter fun entry => eligible entry.1) = map.entries :=
          List.filter_eq_self.mpr fun entry _ => all entry.1
        rw [kept] at dropped
        exact dropped
      simp [empty]
    · rename_i victim found
      obtain ⟨entry, chosen, rfl⟩ := Option.map_eq_some_iff.mp found
      have member := (List.mem_filter.mp (List.argmin_mem chosen)).1
      have resident : map.lookup entry.1 ≠ none := by
        rw [AList.mem_lookup_iff.mpr member]
        simp
      have shorter := length_erase_present resident
      omega

end Size

/-- Rows emitted entry by entry, each carrying its entry's key: those of `key`
are the rows of its own entry. -/
theorem filter_flatMap_own {Row : Type*} {rows : Key → Value → List Row} {own : Row → Key}
    (owned : ∀ key value row, row ∈ rows key value → own row = key) (map : KeyedMap Key Value)
    (key : Key) :
    (map.entries.flatMap fun entry => rows entry.1 entry.2).filter (fun row => own row = key) =
      (map.lookup key).elim [] (rows key) := by
  obtain ⟨entries, distinct⟩ := map
  simp only [AList.lookup]
  induction entries with
  | nil => rfl
  | cons head rest ih =>
    obtain ⟨first, value⟩ := head
    obtain ⟨unseen, later⟩ := List.nodupKeys_cons.mp distinct
    rw [List.flatMap_cons, List.filter_append, ih later]
    by_cases same : first = key
    · subst same
      have whole : (rows first value).filter (fun row => own row = first) = rows first value := by
        apply List.filter_eq_self.mpr
        intro row member
        simpa using owned first value row member
      simp [whole, List.dlookup_eq_none.mpr unseen]
    · have nothing : (rows first value).filter (fun row => own row = key) = [] := by
        apply List.filter_eq_nil_iff.mpr
        intro row member
        simpa [owned first value row member] using same
      rw [nothing, List.nil_append, List.dlookup_cons_ne _ _ (Ne.symm same)]

end KeyedMap
end Library
