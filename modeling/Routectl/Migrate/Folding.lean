import Routectl.Migrate.Reading

/-! What a normalized document reads as: every legacy token under its spec's overrides, and no
legacy list left. -/
namespace Routectl.Migrate
open Library Toml
open Routectl.Overrides (Config ProviderEntry ModelEntry OverrideEntry modelSpec)

section Tables
variable {Value : Type} {read : Toml → Option Value}

theorem readTable_congr {name : String} {doc other : Entries}
    (same : other.lookup name = doc.lookup name) :
    readTable read name other = readTable read name doc := by
  rw [readTable, same, readTable]

theorem readOverrides_congr {doc other : Entries}
    (same : other.lookup "capability" = doc.lookup "capability") :
    readOverrides other = readOverrides doc := by
  rw [readOverrides, same, readOverrides]

/-- What is read of a table that is there by now, as it is changed. -/
theorem read_added (reader : Entries → Option (List (String × Value))) {name : String}
    {fresh : Toml} {change : Toml → Toml} {doc : Entries} {values : List (String × Value)}
    {Good : List (String × Value) → Prop} (blank : fresh.asTableLike = some [])
    (empty : reader [] = some [])
    (held : (match doc.lookup name with
      | none => some []
      | some item => item.asTableLike.bind reader) = some values)
    (changed : ∀ item, item.asTableLike.bind reader = some values →
      ∃ after, (change item).asTableLike.bind reader = some after ∧ Good after) :
    ∃ after, (match (updateKey name change (orInsert name fresh doc)).lookup name with
      | none => some []
      | some item => item.asTableLike.bind reader) = some after ∧ Good after := by
  rw [lookup_updateKey, if_pos rfl, lookup_orInsert, if_pos rfl, Option.map_some]
  cases present : doc.lookup name with
  | none =>
    rw [present] at held
    exact changed fresh (by rw [blank, Option.bind_some, empty, ← held])
  | some item =>
    rw [present] at held
    exact changed item held

theorem readTable_withinTable {name : String} {change : Entries → Entries} {doc : Entries}
    {values : List (String × Value)} {alter : List (String × Value) → List (String × Value)}
    (held : readTable read name doc = some values) (blank : alter [] = [])
    (changed : ∀ entries, readEntries read entries = some values →
      readEntries read (change entries) = some (alter values)) :
    readTable read name (withinTable name change doc) = some (alter values) := by
  have found : (withinTable name change doc).lookup name =
      (doc.lookup name).map (modifyTable change) := by
    rw [withinTable, lookup_updateKey, if_pos rfl]
  unfold readTable at held ⊢
  rw [found]
  cases present : doc.lookup name with
  | none =>
    obtain rfl : [] = values := by simpa [present] using held
    simp [blank]
  | some item =>
    rw [present] at held
    obtain ⟨entries, table, held⟩ := Option.bind_eq_some_iff.mp held
    simp [table, changed entries held]

end Tables

section Folds

theorem readOverrides_append {doc : Entries} {overrides : List (String × OverrideEntry)}
    (read : readOverrides doc = some overrides) (spec : String) (names : List String) :
    ∃ after, readOverrides (appendUnsupportedOverride doc spec (names.map .string)) = some after ∧
      Extended spec names overrides after := by
  unfold appendUnsupportedOverride withinOverrides
  unfold readOverrides at read ⊢
  apply read_added (readTable readOverride "overrides") rfl rfl read
  intro capability read
  obtain ⟨entries, table, held⟩ := Option.bind_eq_some_iff.mp read
  rw [addWithin, asTableLike_modifyTable, table, Option.map_some, Option.bind_some]
  apply read_added (readEntries readOverride) (asTableLike_newTable _ _) rfl held
  intro item held
  obtain ⟨entries, table, reads⟩ := Option.bind_eq_some_iff.mp held
  rw [addWithin, asTableLike_modifyTable, table, Option.map_some, Option.bind_some]
  exact readEntries_fold item.isInline reads spec names

theorem lookup_appendUnsupportedOverride (doc : Entries) (spec : String) (values : List Toml)
    {name : String} (other : name ≠ "capability") :
    (appendUnsupportedOverride doc spec values).lookup name = doc.lookup name := by
  rw [appendUnsupportedOverride, withinOverrides, lookup_updateKey, if_neg other,
    lookup_orInsert, if_neg other]

/-- Overrides with every fold's tokens more. -/
structure Folded (folds : List (String × List String))
    (before after : List (String × OverrideEntry)) : Prop where
  unsupported : ∀ spec raw, (∃ entry, (spec, entry) ∈ after ∧ raw ∈ entry.unsupported) ↔
    (∃ entry, (spec, entry) ∈ before ∧ raw ∈ entry.unsupported) ∨
      ∃ names, (spec, names) ∈ folds ∧ raw ∈ names
  forced : ∀ spec raw, (∃ entry, (spec, entry) ∈ after ∧ raw ∈ entry.forceSupported) ↔
    ∃ entry, (spec, entry) ∈ before ∧ raw ∈ entry.forceSupported

theorem Folded.none (overrides : List (String × OverrideEntry)) :
    Folded [] overrides overrides where
  unsupported := by simp
  forced := by simp

theorem Folded.cons {spec : String} {names : List String} {folds : List (String × List String)}
    {before middle after : List (String × OverrideEntry)}
    (first : Extended spec names before middle) (rest : Folded folds middle after) :
    Folded ((spec, names) :: folds) before after where
  unsupported := by
    intro other raw
    rw [rest.unsupported, first.unsupported, or_assoc]
    apply or_congr_right
    constructor
    · rintro (⟨rfl, member⟩ | ⟨more, member, named⟩)
      · exact ⟨names, List.mem_cons_self, member⟩
      · exact ⟨more, List.mem_cons_of_mem _ member, named⟩
    · rintro ⟨more, member, named⟩
      obtain same | member := List.mem_cons.mp member
      · cases same
        exact .inl ⟨rfl, named⟩
      · exact .inr ⟨more, member, named⟩
  forced := by
    intro other raw
    rw [rest.forced, first.forced]

/-- One fold as the document holds it. -/
def foldInto (doc : Entries) (fold : String × List Toml) : Entries :=
  appendUnsupportedOverride doc fold.1 fold.2

/-- A fold's names as values of the document. -/
def spelled (fold : String × List String) : String × List Toml := (fold.1, fold.2.map .string)

theorem readOverrides_foldl (folds : List (String × List String)) {doc : Entries}
    {overrides : List (String × OverrideEntry)} (read : readOverrides doc = some overrides) :
    ∃ after, readOverrides ((folds.map spelled).foldl foldInto doc) = some after ∧
      Folded folds overrides after := by
  induction folds generalizing doc overrides with
  | nil => exact ⟨overrides, read, .none overrides⟩
  | cons fold rest ih =>
    obtain ⟨middle, reads, first⟩ := readOverrides_append read fold.1 fold.2
    obtain ⟨after, reads, others⟩ := ih reads
    exact ⟨after, reads, .cons first others⟩

theorem lookup_foldl_foldInto (folds : List (String × List Toml)) (doc : Entries) {name : String}
    (other : name ≠ "capability") : (folds.foldl foldInto doc).lookup name = doc.lookup name := by
  induction folds generalizing doc with
  | nil => rfl
  | cons fold rest ih =>
    rw [List.foldl_cons, ih, foldInto, lookup_appendUnsupportedOverride _ _ _ other]

end Folds

section Lists

/-- The lists a table's entries carry, as the plan collects them. -/
theorem tableAt_of_readTable {Value : Type} {read : Toml → Option Value} {name : String}
    {doc : Entries} {values : List (String × Value)} (held : readTable read name doc = some values) :
    readEntries read ((tableAt name doc).getD []) = some values := by
  unfold readTable at held
  unfold tableAt
  cases present : doc.lookup name with
  | none =>
    obtain rfl : [] = values := by simpa [present] using held
    rfl
  | some item =>
    rw [present] at held
    obtain ⟨entries, table, held⟩ := Option.bind_eq_some_iff.mp held
    simp [table, held]

theorem mem_of_readEntries {Value : Type} {read : Toml → Option Value} {entries : Entries}
    {values : List (String × Value)} (held : readEntries read entries = some values)
    {name : String} {value : Value} :
    (name, value) ∈ values ↔ ∃ item, (name, item) ∈ entries ∧ read item = some value := by
  induction entries generalizing values with
  | nil =>
    obtain rfl : [] = values := by simpa [readEntries] using held
    simp
  | cons entry rest ih =>
    obtain ⟨key, item⟩ := entry
    rw [readEntries_cons] at held
    obtain ⟨first, here, held⟩ := Option.bind_eq_some_iff.mp held
    obtain ⟨tail, later, rfl⟩ := Option.map_eq_some_iff.mp held
    rw [List.mem_cons, ih later]
    constructor
    · rintro (same | ⟨item, member, reads⟩)
      · cases same
        exact ⟨item, List.mem_cons_self, here⟩
      · exact ⟨item, List.mem_cons_of_mem _ member, reads⟩
    · rintro ⟨item, member, reads⟩
      obtain same | member := List.mem_cons.mp member
      · cases same
        exact .inl (by simpa using (here.symm.trans reads).symm)
      · exact .inr ⟨item, member, reads⟩

theorem reads_of_mem {Value : Type} {read : Toml → Option Value} {entries : Entries}
    {values : List (String × Value)} (held : readEntries read entries = some values)
    {name : String} {item : Toml} (member : (name, item) ∈ entries) :
    ∃ value, read item = some value := by
  induction entries generalizing values with
  | nil => cases member
  | cons entry rest ih =>
    rw [readEntries_cons] at held
    obtain ⟨first, here, held⟩ := Option.bind_eq_some_iff.mp held
    obtain ⟨tail, later, _⟩ := Option.map_eq_some_iff.mp held
    obtain same | member := List.mem_cons.mp member
    · exact ⟨first, by rw [← here, ← same]⟩
    · exact ih later member

theorem mem_tableEntries {name : String} {doc : Entries} {key : String} {table : Entries} :
    (key, table) ∈ tableEntries name doc ↔
      ∃ item, (key, item) ∈ (tableAt name doc).getD [] ∧ item.asTableLike = some table := by
  unfold tableEntries
  rw [List.mem_filterMap]
  constructor
  · rintro ⟨⟨other, item⟩, member, same⟩
    obtain ⟨entries, held, same⟩ := Option.map_eq_some_iff.mp same
    cases same
    exact ⟨item, member, held⟩
  · rintro ⟨item, member, held⟩
    exact ⟨(key, item), member, by simp [held]⟩

theorem readProvider_eq_some {item : Toml} {entry : ProviderEntry}
    (read : readProvider item = some entry) : ∃ table, item.asTableLike = some table ∧
      readStrings (table.lookup "unsupported_features") = some entry.unsupportedFeatures ∧
      (table.lookup "kind").bind asStr = some entry.kind := by
  unfold readProvider at read
  simp only [Option.bind_eq_bind, Option.bind_eq_some_iff, Option.pure_def] at read
  obtain ⟨table, held, kind, first, features, second, same⟩ := read
  cases same
  exact ⟨table, held, second, by simpa [Option.bind_eq_some_iff] using first⟩

theorem readModel_eq_some {item : Toml} {entry : ModelEntry}
    (read : readModel item = some entry) : ∃ table, item.asTableLike = some table ∧
      readStrings (table.lookup "unsupported_features") = some entry.unsupportedFeatures ∧
      (table.lookup "provider").bind asStr = some entry.provider := by
  unfold readModel at read
  simp only [Option.bind_eq_bind, Option.bind_eq_some_iff, Option.pure_def] at read
  obtain ⟨table, held, provider, first, features, second, same⟩ := read
  cases same
  exact ⟨table, held, second, by simpa [Option.bind_eq_some_iff] using first⟩

theorem readUnsupportedFeatures_eq_some {table : Entries} {names : List String}
    (read : readStrings (table.lookup "unsupported_features") = some names)
    {values : List Toml} (listed : readUnsupportedFeatures table = some values) :
    values = names.map .string := by
  unfold readUnsupportedFeatures at listed
  obtain ⟨absent, _⟩ | present := readStrings_eq_some read
  · simp [absent] at listed
  · simpa [present, asArray] using listed.symm

theorem readUnsupportedFeatures_of_mem {table : Entries} {names : List String}
    (read : readStrings (table.lookup "unsupported_features") = some names) {raw : String}
    (member : raw ∈ names) : readUnsupportedFeatures table = some (names.map .string) := by
  unfold readUnsupportedFeatures
  obtain ⟨_, none⟩ | present := readStrings_eq_some read
  · simp [none] at member
  · simp [present, asArray]

end Lists
end Routectl.Migrate
