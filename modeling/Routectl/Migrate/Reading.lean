import Routectl.Migrate.Normalize

/-! The tables of a document as the config reads them, and how reading meets the edits. -/
namespace Routectl.Migrate
open Library Toml
open Routectl.Overrides (Config ProviderEntry ModelEntry OverrideEntry modelSpec)

section Reading

def readStrings : Option Toml → Option (List String)
  | none => some []
  | some (.array items) => items.mapM asStr
  | some _ => none

def readProvider (item : Toml) : Option ProviderEntry := do
  let entry ← item.asTableLike
  let kind ← (entry.lookup "kind").bind asStr
  let unsupportedFeatures ← readStrings (entry.lookup "unsupported_features")
  pure { kind, unsupportedFeatures }

def readModel (item : Toml) : Option ModelEntry := do
  let entry ← item.asTableLike
  let provider ← (entry.lookup "provider").bind asStr
  let unsupportedFeatures ← readStrings (entry.lookup "unsupported_features")
  pure { provider, unsupportedFeatures }

def readOverride (item : Toml) : Option OverrideEntry := do
  let entry ← item.asTableLike
  let unsupported ← readStrings (entry.lookup "unsupported")
  let forceSupported ← readStrings (entry.lookup "force_supported")
  pure { unsupported, forceSupported }

variable {Value : Type} (read : Toml → Option Value)

def readEntries (entries : Entries) : Option (List (String × Value)) :=
  entries.mapM fun entry => (read entry.2).map (Prod.mk entry.1)

/-- A table of the document, empty when it is absent. -/
def readTable (name : String) (doc : Entries) : Option (List (String × Value)) :=
  match doc.lookup name with
  | none => some []
  | some item => item.asTableLike.bind (readEntries read)

def readOverrides (doc : Entries) : Option (List (String × OverrideEntry)) :=
  match doc.lookup "capability" with
  | none => some []
  | some item => item.asTableLike.bind (readTable readOverride "overrides")

def readConfig (doc : Entries) : Option Config := do
  let providers ← readTable readProvider "providers" doc
  let models ← readTable readModel "models" doc
  let overrides ← readOverrides doc
  pure { providers, models, overrides }

end Reading

section Strings

/-- The names with each new one added at the end. -/
def appendNames (names more : List String) : List String :=
  more.foldl (fun names name => if name ∈ names then names else names ++ [name]) names

theorem mem_appendNames {names more : List String} {name : String} :
    name ∈ appendNames names more ↔ name ∈ names ∨ name ∈ more := by
  unfold appendNames
  induction more generalizing names with
  | nil => simp
  | cons head rest ih =>
    rw [List.foldl_cons, ih, List.mem_cons]
    by_cases held : head ∈ names
    · rw [if_pos held]
      constructor
      · rintro (before | later)
        · exact .inl before
        · exact .inr (.inr later)
      · rintro (before | rfl | later)
        · exact .inl before
        · exact .inl held
        · exact .inr later
    · simp only [if_neg held, List.mem_append, List.mem_singleton, or_assoc]

theorem mapM_asStr_strings (names : List String) :
    (names.map Toml.string).mapM asStr = some names := by
  induction names with
  | nil => rfl
  | cons name rest ih => simp [asStr, ih]

theorem filterMap_asStr_strings (names : List String) :
    (names.map Toml.string).filterMap asStr = names := by
  induction names with
  | nil => rfl
  | cons name rest ih => simpa [asStr] using ih

theorem eq_strings_of_mapM_asStr {items : List Toml} {names : List String}
    (read : items.mapM asStr = some names) : items = names.map .string := by
  induction items generalizing names with
  | nil =>
    obtain rfl : [] = names := by simpa using read
    rfl
  | cons item rest ih =>
    rw [List.mapM_cons] at read
    cases item with
    | string text =>
      cases tail : rest.mapM asStr with
      | none => simp [asStr, tail] at read
      | some others =>
        obtain rfl : text :: others = names := by simpa [asStr, tail] using read
        rw [ih tail, List.map_cons]
    | _ => simp [asStr] at read

theorem foldl_pushNew (names more : List String) :
    (more.map Toml.string).foldl pushNew (names.map .string, names) =
      ((appendNames names more).map .string, appendNames names more) := by
  induction more generalizing names with
  | nil => simp [appendNames]
  | cons head rest ih =>
    rw [List.map_cons, List.foldl_cons]
    by_cases held : head ∈ names
    · have stays : appendNames names (head :: rest) = appendNames names rest := by
        simp [appendNames, held]
      simpa [pushNew, asStr, held, stays] using ih names
    · have grows : appendNames names (head :: rest) = appendNames (names ++ [head]) rest := by
        simp [appendNames, held]
      simpa [pushNew, asStr, held, grows] using ih (names ++ [head])

theorem appendNew_strings (names more : List String) :
    appendNew (names.map .string) (more.map .string) = (appendNames names more).map .string := by
  rw [appendNew, filterMap_asStr_strings, foldl_pushNew]

end Strings

section Entries
variable {Value : Type} {read : Toml → Option Value}

theorem readEntries_cons (entry : String × Toml) (rest : Entries) :
    readEntries read (entry :: rest) =
      (read entry.2).bind fun value =>
        (readEntries read rest).map fun values => (entry.1, value) :: values := by
  unfold readEntries
  rw [List.mapM_cons]
  cases read entry.2 with
  | none => rfl
  | some value => cases (rest.mapM fun entry => (read entry.2).map (Prod.mk entry.1)) <;> rfl

/-- A key's values changed as the change of their items is read. -/
def mapKey (name : String) (change : Value → Value) (values : List (String × Value)) :
    List (String × Value) :=
  values.map fun entry => if entry.1 = name then (name, change entry.2) else entry

theorem readEntries_updateKey {name : String} {change : Toml → Toml} {alter : Value → Value}
    (altered : ∀ item value, read item = some value → read (change item) = some (alter value))
    {entries : Entries} {values : List (String × Value)}
    (held : readEntries read entries = some values) :
    readEntries read (updateKey name change entries) = some (mapKey name alter values) := by
  induction entries generalizing values with
  | nil =>
    obtain rfl : [] = values := by simpa [readEntries] using held
    rfl
  | cons entry rest ih =>
    rw [readEntries_cons] at held
    obtain ⟨value, here, held⟩ := Option.bind_eq_some_iff.mp held
    obtain ⟨others, later, rfl⟩ := Option.map_eq_some_iff.mp held
    have tail : updateKey name change (entry :: rest) =
        (if entry.1 = name then (name, change entry.2) else entry) ::
          updateKey name change rest := rfl
    rw [tail, readEntries_cons, ih later]
    by_cases same : entry.1 = name
    · simp [same, altered _ _ here, mapKey]
    · simp [same, here, mapKey]

theorem readEntries_append {entries more : Entries} {values others : List (String × Value)}
    (held : readEntries read entries = some values) (heldMore : readEntries read more = some others) :
    readEntries read (entries ++ more) = some (values ++ others) := by
  induction entries generalizing values with
  | nil =>
    obtain rfl : [] = values := by simpa [readEntries] using held
    simpa using heldMore
  | cons entry rest ih =>
    rw [readEntries_cons] at held
    obtain ⟨value, here, held⟩ := Option.bind_eq_some_iff.mp held
    obtain ⟨tail, later, rfl⟩ := Option.map_eq_some_iff.mp held
    rw [List.cons_append, readEntries_cons, ih later, here]
    rfl

theorem readEntries_orInsert {name : String} {item : Toml} {value : Value}
    (fresh : read item = some value) {entries : Entries} {values : List (String × Value)}
    (held : readEntries read entries = some values) :
    readEntries read (orInsert name item entries) =
      some (if hasKey name entries then values else values ++ [(name, value)]) := by
  unfold orInsert
  by_cases present : hasKey name entries = true
  · simp [present, held]
  · have single : readEntries read [(name, item)] = some [(name, value)] := by
      rw [readEntries_cons, fresh]
      rfl
    simp [present, readEntries_append held single]

theorem mem_mapKey {name key : String} {change : Value → Value}
    {values : List (String × Value)} {value : Value} :
    (key, value) ∈ mapKey name change values ↔
      if key = name then ∃ before, (key, before) ∈ values ∧ value = change before
      else (key, value) ∈ values := by
  simp only [mapKey, List.mem_map]
  constructor
  · rintro ⟨⟨other, before⟩, member, same⟩
    by_cases here : other = name
    · simp only [here, if_true] at same
      cases same
      simpa using ⟨before, here ▸ member, rfl⟩
    · simp only [here, if_false] at same
      cases same
      simpa [here] using member
  · intro held
    by_cases here : key = name
    · rw [if_pos here] at held
      obtain ⟨before, member, rfl⟩ := held
      exact ⟨(key, before), member, by simp [here]⟩
    · rw [if_neg here] at held
      exact ⟨(key, value), held, by simp [here]⟩

theorem hasKey_iff {entries : Entries} {values : List (String × Value)} {name : String}
    (held : readEntries read entries = some values) :
    hasKey name entries = true ↔ ∃ value, (name, value) ∈ values := by
  induction entries generalizing values with
  | nil =>
    obtain rfl : [] = values := by simpa [readEntries] using held
    simp [hasKey]
  | cons entry rest ih =>
    obtain ⟨key, item⟩ := entry
    rw [readEntries_cons] at held
    obtain ⟨value, here, held⟩ := Option.bind_eq_some_iff.mp held
    obtain ⟨tail, later, rfl⟩ := Option.map_eq_some_iff.mp held
    have others := ih later
    unfold hasKey at others ⊢
    by_cases same : name = key
    · simp [same]
    · have skipped : (name == key) = false := beq_eq_false_iff_ne.mpr same
      simp [List.lookup_cons, skipped, others, same]

end Entries

section Overriding

/-- One set of overrides, with some names more under a spec. -/
structure Extended (spec : String) (names : List String)
    (before after : List (String × OverrideEntry)) : Prop where
  unsupported : ∀ other raw, (∃ entry, (other, entry) ∈ after ∧ raw ∈ entry.unsupported) ↔
    (∃ entry, (other, entry) ∈ before ∧ raw ∈ entry.unsupported) ∨ (other = spec ∧ raw ∈ names)
  forced : ∀ other raw, (∃ entry, (other, entry) ∈ after ∧ raw ∈ entry.forceSupported) ↔
    ∃ entry, (other, entry) ∈ before ∧ raw ∈ entry.forceSupported

theorem readStrings_strings (names : List String) :
    readStrings (some (.array (names.map .string))) = some names := mapM_asStr_strings names

theorem readStrings_eq_some {item : Option Toml} {names : List String}
    (read : readStrings item = some names) :
    (item = none ∧ names = []) ∨ item = some (.array (names.map .string)) := by
  cases item with
  | none => exact .inl ⟨rfl, by simpa [readStrings] using read.symm⟩
  | some item =>
    cases item with
    | array items =>
      have same := eq_strings_of_mapM_asStr (show items.mapM asStr = some names from read)
      exact .inr (by rw [same])
    | _ => cases read

theorem readOverride_eq_some {item : Toml} {entry : OverrideEntry}
    (read : readOverride item = some entry) : ∃ table, item.asTableLike = some table ∧
      readStrings (table.lookup "unsupported") = some entry.unsupported ∧
      readStrings (table.lookup "force_supported") = some entry.forceSupported := by
  unfold readOverride at read
  simp only [Option.bind_eq_bind, Option.bind_eq_some_iff, Option.pure_def] at read
  obtain ⟨table, held, unsupported, first, forced, second, same⟩ := read
  cases same
  exact ⟨table, held, first, second⟩

/-- An entry with some more unsupported names. -/
def extend (names : List String) (entry : OverrideEntry) : OverrideEntry :=
  { entry with unsupported := appendNames entry.unsupported names }

theorem readOverride_appendUnsupported (names : List String) (item : Toml)
    (entry : OverrideEntry) (read : readOverride item = some entry) :
    readOverride (modifyTable (appendUnsupported (names.map .string)) item) =
      some (extend names entry) := by
  obtain ⟨table, held, unsupported, forced⟩ := readOverride_eq_some read
  have grown : readStrings ((appendUnsupported (names.map .string) table).lookup "unsupported") =
      some (appendNames entry.unsupported names) := by
    rw [appendUnsupported, lookup_updateKey, if_pos rfl, lookup_orInsert, if_pos rfl]
    obtain ⟨absent, none⟩ | present := readStrings_eq_some unsupported
    · have fresh : appendNew [] (names.map .string) = (appendNames [] names).map .string :=
        appendNew_strings [] names
      rw [absent, none, Option.getD_none, Option.map_some, modifyArray, fresh]
      exact readStrings_strings _
    · rw [present, Option.getD_some, Option.map_some, modifyArray, appendNew_strings]
      exact readStrings_strings _
  have kept : (appendUnsupported (names.map .string) table).lookup "force_supported" =
      table.lookup "force_supported" := by
    rw [appendUnsupported, lookup_updateKey, if_neg (by simp), lookup_orInsert, if_neg (by simp)]
  simp [readOverride, held, grown, kept, forced, extend]

theorem extended_mapKey {spec : String} (names : List String)
    {before listed : List (String × OverrideEntry)}
    (same : ∀ other raw, (∃ entry, (other, entry) ∈ listed ∧ raw ∈ entry.unsupported) ↔
      ∃ entry, (other, entry) ∈ before ∧ raw ∈ entry.unsupported)
    (sameForced : ∀ other raw, (∃ entry, (other, entry) ∈ listed ∧ raw ∈ entry.forceSupported) ↔
      ∃ entry, (other, entry) ∈ before ∧ raw ∈ entry.forceSupported)
    (present : ∃ entry, (spec, entry) ∈ listed) :
    Extended spec names before (mapKey spec (extend names) listed) where
  unsupported := by
    intro other raw
    rw [← same]
    by_cases here : other = spec
    · subst here
      simp only [mem_mapKey, if_true, true_and]
      constructor
      · rintro ⟨_, ⟨entry, member, rfl⟩, named⟩
        obtain old | new := mem_appendNames.mp named
        · exact .inl ⟨entry, member, old⟩
        · exact .inr new
      · rintro (⟨entry, member, old⟩ | new)
        · exact ⟨_, ⟨entry, member, rfl⟩, mem_appendNames.mpr (.inl old)⟩
        · obtain ⟨entry, member⟩ := present
          exact ⟨_, ⟨entry, member, rfl⟩, mem_appendNames.mpr (.inr new)⟩
    · simp [mem_mapKey, here]
  forced := by
    intro other raw
    rw [← sameForced]
    by_cases here : other = spec
    · subst here
      simp only [mem_mapKey, if_true]
      constructor
      · rintro ⟨_, ⟨entry, member, rfl⟩, named⟩
        exact ⟨entry, member, named⟩
      · rintro ⟨entry, member, named⟩
        exact ⟨_, ⟨entry, member, rfl⟩, named⟩
    · simp [mem_mapKey, here]

/-- A fold under a spec adds its names there and nothing anywhere else. -/
theorem readEntries_fold (inline : Bool) {entries : Entries} {overrides : List (String × OverrideEntry)}
    (read : readEntries readOverride entries = some overrides) (spec : String)
    (names : List String) :
    ∃ after, readEntries readOverride (updateKey spec
        (modifyTable (appendUnsupported (names.map .string)))
        (orInsert spec (newTable inline []) entries)) = some after ∧
      Extended spec names overrides after := by
  have fresh : readOverride (newTable inline []) = some {} := by cases inline <;> rfl
  have opened : readEntries readOverride (orInsert spec (newTable inline []) entries) =
      some (if hasKey spec entries then overrides
        else overrides ++ [(spec, ({} : OverrideEntry))]) :=
    readEntries_orInsert fresh read
  refine ⟨_, readEntries_updateKey (readOverride_appendUnsupported names) opened, ?_⟩
  by_cases present : hasKey spec entries = true
  · rw [if_pos present]
    exact extended_mapKey names (fun _ _ => Iff.rfl) (fun _ _ => Iff.rfl) ((hasKey_iff read).mp present)
  · rw [if_neg present]
    have blank : ∀ other (entry : OverrideEntry),
        (other, entry) ∈ overrides ++ [(spec, ({} : OverrideEntry))] ↔
          (other, entry) ∈ overrides ∨ (other = spec ∧ entry = ({} : OverrideEntry)) := by simp
    apply extended_mapKey
    · intro other raw
      simp only [blank]
      constructor
      · rintro ⟨entry, member | ⟨_, rfl⟩, named⟩
        · exact ⟨entry, member, named⟩
        · cases named
      · rintro ⟨entry, member, named⟩
        exact ⟨entry, .inl member, named⟩
    · intro other raw
      simp only [blank]
      constructor
      · rintro ⟨entry, member | ⟨_, rfl⟩, named⟩
        · exact ⟨entry, member, named⟩
        · cases named
      · rintro ⟨entry, member, named⟩
        exact ⟨entry, .inl member, named⟩
    · exact ⟨{}, by simp⟩

end Overriding
end Routectl.Migrate
