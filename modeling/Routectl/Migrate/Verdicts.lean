import Routectl.Migrate.Folding

/-! A normalized document keeps every verdict exactly when each legacy list names the same keys
under its own provider as under the provider segment of the spec it folds under. -/
namespace Routectl.Migrate
open Library Toml
open Routectl.Core (normalizeCapabilityKey)
open Routectl.Overrides (Config ProviderEntry ModelEntry OverrideEntry OverrideRegistry modelSpec)

section Retiring

def clearProvider (entry : ProviderEntry) : ProviderEntry := { entry with unsupportedFeatures := [] }

def clearModel (entry : ModelEntry) : ModelEntry := { entry with unsupportedFeatures := [] }

variable {Value : Type} {read : Toml → Option Value} {clear : Value → Value}

theorem readEntries_retire
    (cleared : ∀ item value, read item = some value →
      read (modifyTable (removeKey "unsupported_features") item) = some (clear value))
    (removals : List String) {entries : Entries} {values : List (String × Value)}
    (held : readEntries read entries = some values) :
    readEntries read (removals.foldl (fun entries removed =>
        withinTable removed (removeKey "unsupported_features") entries) entries) =
      some (removals.foldl (fun values removed => mapKey removed clear values) values) := by
  induction removals generalizing entries values with
  | nil => exact held
  | cons removed rest ih => exact ih (readEntries_updateKey cleared held)

theorem foldl_mapKey (idempotent : ∀ value, clear (clear value) = clear value)
    (removals : List String) (values : List (String × Value)) :
    removals.foldl (fun values removed => mapKey removed clear values) values =
      values.map fun entry => if entry.1 ∈ removals then (entry.1, clear entry.2) else entry := by
  induction removals generalizing values with
  | nil => simp
  | cons removed rest ih =>
    rw [List.foldl_cons, ih, mapKey, List.map_map]
    apply List.map_congr_left
    intro entry _
    by_cases here : entry.1 = removed
    · by_cases later : removed ∈ rest
      · simp [here, later, idempotent]
      · simp [here, later]
    · simp [here]

theorem foldl_mapKey_all (idempotent : ∀ value, clear (clear value) = clear value)
    {removals : List String} {values : List (String × Value)}
    (listed : ∀ name value, (name, value) ∈ values → name ∈ removals ∨ clear value = value) :
    removals.foldl (fun values removed => mapKey removed clear values) values =
      values.map fun entry => (entry.1, clear entry.2) := by
  rw [foldl_mapKey idempotent]
  apply List.map_congr_left
  intro entry member
  by_cases removed : entry.1 ∈ removals
  · rw [if_pos removed]
  · have same := (listed entry.1 entry.2 member).resolve_left removed
    rw [if_neg removed, same]

theorem readTable_retire {name : String}
    (cleared : ∀ item value, read item = some value →
      read (modifyTable (removeKey "unsupported_features") item) = some (clear value))
    (idempotent : ∀ value, clear (clear value) = clear value)
    {removals : List String} {doc : Entries} {values : List (String × Value)}
    (held : readTable read name doc = some values)
    (listed : ∀ name value, (name, value) ∈ values → name ∈ removals ∨ clear value = value) :
    readTable read name (retire name removals doc) =
      some (values.map fun entry => (entry.1, clear entry.2)) := by
  rw [← foldl_mapKey_all idempotent listed]
  have blank : removals.foldl (fun values removed => mapKey removed clear values) [] = [] := by
    rw [foldl_mapKey idempotent, List.map_nil]
  have emptied : ∀ entries, readEntries read entries = some values →
      readEntries read (removals.foldl (fun entries removed =>
          withinTable removed (removeKey "unsupported_features") entries) entries) =
        some (removals.foldl (fun values removed => mapKey removed clear values) values) := by
    intro entries reads
    exact readEntries_retire cleared removals reads
  exact @readTable_withinTable _ _ _ _ _ _ (fun values =>
    removals.foldl (fun values removed => mapKey removed clear values) values) held blank emptied

theorem clearProvider_read (item : Toml) (entry : ProviderEntry)
    (read : readProvider item = some entry) :
    readProvider (modifyTable (removeKey "unsupported_features") item) =
      some (clearProvider entry) := by
  obtain ⟨table, held, _, kind⟩ := readProvider_eq_some read
  have kept : (removeKey "unsupported_features" table).lookup "kind" = table.lookup "kind" := by
    rw [lookup_removeKey, if_neg (by simp)]
  have gone : (removeKey "unsupported_features" table).lookup "unsupported_features" = none := by
    rw [lookup_removeKey, if_pos rfl]
  simp [readProvider, held, kept, gone, kind, readStrings, clearProvider]

theorem clearModel_read (item : Toml) (entry : ModelEntry) (read : readModel item = some entry) :
    readModel (modifyTable (removeKey "unsupported_features") item) = some (clearModel entry) := by
  obtain ⟨table, held, _, provider⟩ := readModel_eq_some read
  have kept : (removeKey "unsupported_features" table).lookup "provider" =
      table.lookup "provider" := by
    rw [lookup_removeKey, if_neg (by simp)]
  have gone : (removeKey "unsupported_features" table).lookup "unsupported_features" = none := by
    rw [lookup_removeKey, if_pos rfl]
  simp [readModel, held, kept, gone, provider, readStrings, clearModel]

end Retiring

section Plan

theorem read_of_tableEntries {Value : Type} {read : Toml → Option Value} {name : String}
    {doc : Entries} {values : List (String × Value)} (held : readTable read name doc = some values)
    {key : String} {table : Entries} (member : (key, table) ∈ tableEntries name doc) :
    ∃ item value, item.asTableLike = some table ∧ read item = some value ∧
      (key, value) ∈ values := by
  obtain ⟨item, member, tabled⟩ := mem_tableEntries.mp member
  have reads := tableAt_of_readTable held
  obtain ⟨value, here⟩ := reads_of_mem reads member
  exact ⟨item, value, tabled, here, (mem_of_readEntries reads).mpr ⟨item, member, here⟩⟩

theorem mem_providerLists {doc : Entries} {providers : List (String × ProviderEntry)}
    (held : readTable readProvider "providers" doc = some providers)
    {name spec : String} {values : List Toml}
    (listed : (name, spec, values) ∈ (tableEntries "providers" doc).filterMap providerList) :
    ∃ entry, (name, entry) ∈ providers ∧ spec = name ∧
      values = entry.unsupportedFeatures.map .string := by
  obtain ⟨⟨key, table⟩, member, same⟩ := List.mem_filterMap.mp listed
  obtain ⟨item, entry, tabled, reads, inside⟩ := read_of_tableEntries held member
  obtain ⟨values, found, same⟩ := Option.map_eq_some_iff.mp same
  cases same
  obtain ⟨other, tabled', features, _⟩ := readProvider_eq_some reads
  obtain rfl : table = other := Option.some_inj.mp (tabled.symm.trans tabled')
  exact ⟨entry, inside, rfl, readUnsupportedFeatures_eq_some features found⟩

theorem mem_providerLists_of_token {doc : Entries} {providers : List (String × ProviderEntry)}
    (held : readTable readProvider "providers" doc = some providers)
    {name raw : String} {entry : ProviderEntry} (member : (name, entry) ∈ providers)
    (token : raw ∈ entry.unsupportedFeatures) :
    (name, name, entry.unsupportedFeatures.map .string) ∈
      (tableEntries "providers" doc).filterMap providerList := by
  obtain ⟨item, inside, reads⟩ := (mem_of_readEntries (tableAt_of_readTable held)).mp member
  obtain ⟨table, tabled, features, _⟩ := readProvider_eq_some reads
  apply List.mem_filterMap.mpr
  refine ⟨(name, table), mem_tableEntries.mpr ⟨item, inside, tabled⟩, ?_⟩
  simp [providerList, readUnsupportedFeatures_of_mem features token]

theorem mem_modelLists {doc : Entries} {models : List (String × ModelEntry)}
    (held : readTable readModel "models" doc = some models)
    {name spec : String} {values : List Toml}
    (listed : (name, spec, values) ∈ (tableEntries "models" doc).filterMap modelList) :
    ∃ entry, (name, entry) ∈ models ∧ spec = modelSpec entry.provider name ∧
      values = entry.unsupportedFeatures.map .string := by
  obtain ⟨⟨key, table⟩, member, same⟩ := List.mem_filterMap.mp listed
  obtain ⟨item, entry, tabled, reads, inside⟩ := read_of_tableEntries held member
  obtain ⟨other, tabled', features, provider⟩ := readModel_eq_some reads
  obtain rfl : table = other := Option.some_inj.mp (tabled.symm.trans tabled')
  cases found : readUnsupportedFeatures table with
  | none => simp [modelList, found] at same
  | some listed =>
    simp only [modelList, found, provider, Option.some_inj] at same
    cases same
    exact ⟨entry, inside, rfl, readUnsupportedFeatures_eq_some features found⟩

theorem mem_modelLists_of_token {doc : Entries} {models : List (String × ModelEntry)}
    (held : readTable readModel "models" doc = some models)
    {name raw : String} {entry : ModelEntry} (member : (name, entry) ∈ models)
    (token : raw ∈ entry.unsupportedFeatures) :
    (name, modelSpec entry.provider name, entry.unsupportedFeatures.map .string) ∈
      (tableEntries "models" doc).filterMap modelList := by
  obtain ⟨item, inside, reads⟩ := (mem_of_readEntries (tableAt_of_readTable held)).mp member
  obtain ⟨table, tabled, features, provider⟩ := readModel_eq_some reads
  apply List.mem_filterMap.mpr
  refine ⟨(name, table), mem_tableEntries.mpr ⟨item, inside, tabled⟩, ?_⟩
  simp [modelList, readUnsupportedFeatures_of_mem features token, provider]

/-- A fold's names read back off its values. -/
def namesOf (fold : String × List Toml) : String × List String := (fold.1, fold.2.filterMap asStr)

theorem readConfig_eq_some {doc : Entries} {config : Config} (read : readConfig doc = some config) :
    readTable readProvider "providers" doc = some config.providers ∧
      readTable readModel "models" doc = some config.models ∧
      readOverrides doc = some config.overrides := by
  unfold readConfig at read
  simp only [Option.bind_eq_bind, Option.bind_eq_some_iff, Option.pure_def] at read
  obtain ⟨providers, first, models, second, overrides, third, same⟩ := read
  cases same
  exact ⟨first, second, third⟩

theorem spelled_namesOf {doc : Entries} {config : Config} (read : readConfig doc = some config)
    {fold : String × List Toml} (member : fold ∈ (collectUnsupportedFeatures doc).folds) :
    spelled (namesOf fold) = fold := by
  obtain ⟨providers, models, _⟩ := readConfig_eq_some read
  obtain ⟨listed, _⟩ := List.mem_filter.mp member
  obtain ⟨⟨name, spec, values⟩, inLists, rfl⟩ := List.mem_map.mp listed
  have strings : ∃ names : List String, values = names.map .string := by
    obtain listed | listed := List.mem_append.mp inLists
    · obtain ⟨entry, _, _, same⟩ := mem_providerLists providers listed
      exact ⟨_, same⟩
    · obtain ⟨entry, _, _, same⟩ := mem_modelLists models listed
      exact ⟨_, same⟩
  obtain ⟨names, rfl⟩ := strings
  simp only [spelled, namesOf, filterMap_asStr_strings]

theorem folds_spelled {doc : Entries} {config : Config} (read : readConfig doc = some config) :
    (((collectUnsupportedFeatures doc).folds.map namesOf).map spelled) =
      (collectUnsupportedFeatures doc).folds := by
  rw [List.map_map]
  conv_rhs => rw [← List.map_id (collectUnsupportedFeatures doc).folds]
  apply List.map_congr_left
  intro fold member
  exact spelled_namesOf read member

theorem token_folded_iff {doc : Entries} {config : Config} (read : readConfig doc = some config)
    (spec raw : String) :
    (∃ names, (spec, names) ∈ (collectUnsupportedFeatures doc).folds.map namesOf ∧ raw ∈ names) ↔
      ∃ kind, config.LegacyToken spec kind raw := by
  obtain ⟨providers, models, _⟩ := readConfig_eq_some read
  constructor
  · rintro ⟨names, member, token⟩
    obtain ⟨⟨key, values⟩, planned, same⟩ := List.mem_map.mp member
    cases same
    obtain ⟨listed, _⟩ := List.mem_filter.mp planned
    obtain ⟨⟨name, _, _⟩, listed, same⟩ := List.mem_map.mp listed
    cases same
    obtain listed | listed := List.mem_append.mp listed
    · obtain ⟨entry, inside, rfl, rfl⟩ := mem_providerLists providers listed
      rw [filterMap_asStr_strings] at token
      exact ⟨entry.kind, .inl ⟨entry, inside, rfl, token⟩⟩
    · obtain ⟨entry, inside, rfl, rfl⟩ := mem_modelLists models listed
      rw [filterMap_asStr_strings] at token
      exact ⟨_, .inr ⟨name, entry, inside, rfl, rfl, token⟩⟩
  · have named : ∀ names : List String, (spec, names.map Toml.string) ∈
        ((tableEntries "providers" doc).filterMap providerList ++
          (tableEntries "models" doc).filterMap modelList).map Prod.snd → raw ∈ names →
        ∃ names, (spec, names) ∈ (collectUnsupportedFeatures doc).folds.map namesOf ∧
          raw ∈ names := by
      intro names listed token
      refine ⟨names, List.mem_map.mpr ⟨(spec, names.map .string), ?_, ?_⟩, token⟩
      · apply List.mem_filter.mpr
        refine ⟨listed, ?_⟩
        cases names with
        | nil => cases token
        | cons head rest => rfl
      · simp only [namesOf, filterMap_asStr_strings]
    rintro ⟨kind, ⟨entry, inside, rfl, token⟩ | ⟨nickname, entry, inside, rfl, rfl, token⟩⟩
    · have listed := mem_providerLists_of_token providers inside token
      exact named _ (List.mem_map.mpr ⟨_, List.mem_append_left _ listed, rfl⟩) token
    · have listed := mem_modelLists_of_token models inside token
      exact named _ (List.mem_map.mpr ⟨_, List.mem_append_right _ listed, rfl⟩) token

end Plan

section Normalized
variable {doc : Entries} {config : Config}

/-- The config a normalized document reads as, given its overrides. -/
def normalizedConfig (config : Config) (overrides : List (String × OverrideEntry)) : Config where
  providers := config.providers.map fun entry => (entry.1, clearProvider entry.2)
  models := config.models.map fun entry => (entry.1, clearModel entry.2)
  overrides := overrides

theorem providers_retired (held : readTable readProvider "providers" doc = some config.providers)
    (name : String) (entry : ProviderEntry) (member : (name, entry) ∈ config.providers) :
    name ∈ (collectUnsupportedFeatures doc).providerRemovals ∨ clearProvider entry = entry := by
  cases features : entry.unsupportedFeatures with
  | nil => exact .inr (by rw [clearProvider, ← features])
  | cons raw rest =>
    have token : raw ∈ entry.unsupportedFeatures := by simp [features]
    exact .inl (List.mem_map_of_mem (mem_providerLists_of_token held member token))

theorem models_retired (held : readTable readModel "models" doc = some config.models)
    (name : String) (entry : ModelEntry) (member : (name, entry) ∈ config.models) :
    name ∈ (collectUnsupportedFeatures doc).modelRemovals ∨ clearModel entry = entry := by
  cases features : entry.unsupportedFeatures with
  | nil => exact .inr (by rw [clearModel, ← features])
  | cons raw rest =>
    have token : raw ∈ entry.unsupportedFeatures := by simp [features]
    exact .inl (List.mem_map_of_mem (mem_modelLists_of_token held member token))

/-- The document with the plan's folds appended and its keys retired. -/
def rewritten (doc : Entries) : Entries :=
  let plan := collectUnsupportedFeatures doc
  retire "models" plan.modelRemovals
    (retire "providers" plan.providerRemovals (plan.folds.foldl foldInto doc))

theorem lookup_retire (removals : List String) (doc : Entries) {name other : String}
    (different : other ≠ name) : (retire name removals doc).lookup other = doc.lookup other := by
  rw [retire, lookup_withinTable_ne different]

theorem readConfig_rewritten (read : readConfig doc = some config) :
    ∃ overrides, readConfig (rewritten doc) = some (normalizedConfig config overrides) ∧
      Folded ((collectUnsupportedFeatures doc).folds.map namesOf) config.overrides overrides := by
  obtain ⟨providers, models, overridden⟩ := readConfig_eq_some read
  obtain ⟨overrides, reads, folded⟩ :=
    readOverrides_foldl ((collectUnsupportedFeatures doc).folds.map namesOf) overridden
  rw [folds_spelled read] at reads
  refine ⟨overrides, ?_, folded⟩
  let plan := collectUnsupportedFeatures doc
  let folded := plan.folds.foldl foldInto doc
  let cleared := retire "providers" plan.providerRemovals folded
  have keptProviders : readTable readProvider "providers" folded = some config.providers := by
    rw [readTable_congr (lookup_foldl_foldInto plan.folds doc (by simp)), providers]
  have keptModels : readTable readModel "models" cleared = some config.models := by
    have same : cleared.lookup "models" = folded.lookup "models" := lookup_retire _ _ (by simp)
    rw [readTable_congr same, readTable_congr (lookup_foldl_foldInto plan.folds doc (by simp)),
      models]
  have clearedProviders : readTable readProvider "providers" (rewritten doc) =
      some (config.providers.map fun entry => (entry.1, clearProvider entry.2)) := by
    have same : (rewritten doc).lookup "providers" = cleared.lookup "providers" :=
      lookup_retire _ _ (by simp)
    rw [readTable_congr same]
    exact readTable_retire clearProvider_read (fun _ => rfl) keptProviders
      (providers_retired providers)
  have clearedModels : readTable readModel "models" (rewritten doc) =
      some (config.models.map fun entry => (entry.1, clearModel entry.2)) :=
    readTable_retire clearModel_read (fun _ => rfl) keptModels (models_retired models)
  have keptOverrides : readOverrides (rewritten doc) = some overrides := by
    have first : (rewritten doc).lookup "capability" = cleared.lookup "capability" :=
      lookup_retire _ _ (by simp)
    have second : cleared.lookup "capability" = folded.lookup "capability" :=
      lookup_retire _ _ (by simp)
    rw [readOverrides_congr first, readOverrides_congr second, reads]
  simp [readConfig, clearedProviders, clearedModels, keptOverrides, normalizedConfig]

theorem lookup_clearProvider (providers : List (String × ProviderEntry)) (name : String) :
    (providers.map fun entry => (entry.1, clearProvider entry.2)).lookup name =
      (providers.lookup name).map clearProvider := by
  induction providers with
  | nil => rfl
  | cons entry rest ih =>
    obtain ⟨key, entry⟩ := entry
    rw [List.map_cons, List.lookup_cons, List.lookup_cons, ih]
    cases name == key <;> rfl

theorem specKind_normalizedConfig (config : Config) (overrides : List (String × OverrideEntry))
    (spec : String) : (normalizedConfig config overrides).specKind spec = config.specKind spec := by
  unfold Config.specKind Config.providerKindFor normalizedConfig
  rw [lookup_clearProvider]
  cases config.providers.lookup (Overrides.providerOfSpec spec) <;> rfl

theorem legacyToken_normalizedConfig (config : Config)
    (overrides : List (String × OverrideEntry)) (spec kind raw : String) :
    ¬ (normalizedConfig config overrides).LegacyToken spec kind raw := by
  rintro (⟨entry, member, _, token⟩ | ⟨nickname, entry, member, _, _, token⟩)
  · obtain ⟨before, _, same⟩ := List.mem_map.mp member
    cases same
    cases token
  · obtain ⟨before, _, same⟩ := List.mem_map.mp member
    cases same
    cases token

end Normalized

section SecondPass

theorem tableEntries_congr {name : String} {doc other : Entries}
    (same : other.lookup name = doc.lookup name) :
    tableEntries name other = tableEntries name doc := by
  rw [tableEntries, tableAt, same, tableEntries, tableAt]

/-- The tables among entries, under their names. -/
def tablesOf (entries : Entries) : List (String × Entries) :=
  entries.filterMap fun entry => entry.2.asTableLike.map fun table => (entry.1, table)

theorem tablesOf_cons (key : String) (item : Toml) (rest : Entries) :
    tablesOf ((key, item) :: rest) =
      (item.asTableLike.map (Prod.mk key)).toList ++ tablesOf rest := by
  unfold tablesOf
  cases tabled : item.asTableLike <;> simp [tabled]

theorem tablesOf_withinTable (name : String) (change : Entries → Entries) (entries : Entries) :
    tablesOf (withinTable name change entries) = mapKey name change (tablesOf entries) := by
  induction entries with
  | nil => rfl
  | cons entry rest ih =>
    obtain ⟨key, item⟩ := entry
    have tail : withinTable name change ((key, item) :: rest) =
        (if key = name then (name, modifyTable change item) else (key, item)) ::
          withinTable name change rest := rfl
    rw [tail, tablesOf_cons]
    by_cases here : key = name
    · rw [if_pos here, tablesOf_cons, ih, asTableLike_modifyTable]
      cases item.asTableLike <;> simp [here, mapKey]
    · rw [if_neg here, tablesOf_cons, ih]
      cases item.asTableLike <;> simp [here, mapKey]

theorem tablesOf_foldl_retire (removals : List String) (entries : Entries) :
    tablesOf (removals.foldl (fun entries removed =>
        withinTable removed (removeKey "unsupported_features") entries) entries) =
      removals.foldl (fun tables removed =>
        mapKey removed (removeKey "unsupported_features") tables) (tablesOf entries) := by
  induction removals generalizing entries with
  | nil => rfl
  | cons removed rest ih =>
    rw [List.foldl_cons, ih, tablesOf_withinTable, List.foldl_cons]

theorem tableEntries_retire (name : String) (removals : List String) (doc : Entries) :
    tableEntries name (retire name removals doc) =
      (tableEntries name doc).map fun entry =>
        if entry.1 ∈ removals then (entry.1, removeKey "unsupported_features" entry.2)
        else entry := by
  have idempotent : ∀ table : Entries, removeKey "unsupported_features"
      (removeKey "unsupported_features" table) = removeKey "unsupported_features" table := by
    intro table
    simp [removeKey]
  rw [← foldl_mapKey idempotent]
  have retired : tableAt name (retire name removals doc) =
      (tableAt name doc).map fun entries => removals.foldl (fun entries removed =>
        withinTable removed (removeKey "unsupported_features") entries) entries := by
    rw [retire, tableAt_withinTable, if_pos rfl]
  unfold tableEntries
  rw [retired]
  cases tableAt name doc with
  | none =>
    have blank := (tablesOf_foldl_retire removals []).symm
    exact (foldl_mapKey idempotent removals []).symm
  | some entries => exact tablesOf_foldl_retire removals entries

theorem readUnsupportedFeatures_removeKey (table : Entries) :
    readUnsupportedFeatures (removeKey "unsupported_features" table) = none := by
  rw [readUnsupportedFeatures, lookup_removeKey, if_pos rfl]
  rfl

/-- Lists retired under their own names leave none to collect. -/
theorem filterMap_retired {Listed : Type} (list : String × Entries → Option (String × Listed))
    (removed : ∀ name table, list (name, removeKey "unsupported_features" table) = none)
    (named : ∀ entry listed, list entry = some listed → listed.1 = entry.1)
    (tables : List (String × Entries)) :
    (tables.map fun entry =>
        if entry.1 ∈ (tables.filterMap list).map Prod.fst then
          (entry.1, removeKey "unsupported_features" entry.2)
        else entry).filterMap list = [] := by
  apply List.filterMap_eq_nil_iff.mpr
  intro entry member
  obtain ⟨before, inside, rfl⟩ := List.mem_map.mp member
  by_cases retired : before.1 ∈ (tables.filterMap list).map Prod.fst
  · rw [if_pos retired, removed]
  · rw [if_neg retired]
    cases found : list before with
    | none => rfl
    | some listed =>
      have listing := List.mem_filterMap.mpr ⟨before, inside, found⟩
      exact absurd (named before listed found ▸ List.mem_map_of_mem listing) retired

theorem tableEntries_folded (name : String) (doc : Entries) (other : name ≠ "capability") :
    tableEntries name ((collectUnsupportedFeatures doc).folds.foldl foldInto doc) =
      tableEntries name doc := tableEntries_congr (lookup_foldl_foldInto _ doc other)

theorem tableEntries_providers_rewritten (doc : Entries) :
    tableEntries "providers" (rewritten doc) =
      (tableEntries "providers" doc).map fun entry =>
        if entry.1 ∈ (collectUnsupportedFeatures doc).providerRemovals then
          (entry.1, removeKey "unsupported_features" entry.2)
        else entry := by
  unfold rewritten
  rw [tableEntries_congr (lookup_retire _ _ (by simp)), tableEntries_retire,
    tableEntries_folded _ _ (by simp)]

theorem tableEntries_models_rewritten (doc : Entries) :
    tableEntries "models" (rewritten doc) =
      (tableEntries "models" doc).map fun entry =>
        if entry.1 ∈ (collectUnsupportedFeatures doc).modelRemovals then
          (entry.1, removeKey "unsupported_features" entry.2)
        else entry := by
  unfold rewritten
  rw [tableEntries_retire, tableEntries_congr (lookup_retire _ _ (by simp)),
    tableEntries_folded _ _ (by simp)]

theorem presentEgressAllowlists_rewritten (doc : Entries) :
    presentEgressAllowlists (rewritten doc) = presentEgressAllowlists doc := by
  have bedrock : tableAt "bedrock" (rewritten doc) = tableAt "bedrock" doc := by
    unfold tableAt rewritten
    rw [lookup_retire _ _ (by simp), lookup_retire _ _ (by simp),
      lookup_foldl_foldInto _ _ (by simp)]
  have kept : ∀ table : Entries, arrayIsNonEmpty "allowed_betas"
      (removeKey "unsupported_features" table) = arrayIsNonEmpty "allowed_betas" table := by
    intro table
    rw [arrayIsNonEmpty, lookup_removeKey, if_neg (by simp), arrayIsNonEmpty]
  unfold presentEgressAllowlists
  rw [bedrock, tableEntries_providers_rewritten, List.filter_map, List.map_map]
  congr 1
  have same : ∀ entry : String × Entries, arrayIsNonEmpty "allowed_betas"
      (if entry.1 ∈ (collectUnsupportedFeatures doc).providerRemovals then
        (entry.1, removeKey "unsupported_features" entry.2) else entry).2 =
      arrayIsNonEmpty "allowed_betas" entry.2 := by
    intro entry
    by_cases removed : entry.1 ∈ (collectUnsupportedFeatures doc).providerRemovals
    · rw [if_pos removed, kept]
    · rw [if_neg removed]
  have named : ∀ entry : String × Entries,
      (if entry.1 ∈ (collectUnsupportedFeatures doc).providerRemovals then
        (entry.1, removeKey "unsupported_features" entry.2) else entry).1 = entry.1 := by
    intro entry
    by_cases removed : entry.1 ∈ (collectUnsupportedFeatures doc).providerRemovals
    · rw [if_pos removed]
    · rw [if_neg removed]
  simp only [Function.comp_def, same, named]

theorem modelList_fst {entry : String × Entries} {listed : String × String × List Toml}
    (found : modelList entry = some listed) : listed.1 = entry.1 := by
  unfold modelList at found
  cases values : readUnsupportedFeatures entry.2 with
  | none => simp [values] at found
  | some items =>
    cases provider : (entry.2.lookup "provider").bind asStr with
    | none => simp [values, provider] at found
    | some name =>
      simp only [values, provider, Option.some_inj] at found
      rw [← found]

/-- Normalizing what was normalized changes nothing. -/
theorem normalize_rewritten {doc : Entries} (served : presentEgressAllowlists doc = []) :
    normalizeCapabilityOverrides (rewritten doc) = .ok (false, rewritten doc) := by
  have noProviders : (collectUnsupportedFeatures (rewritten doc)).providerRemovals = [] := by
    unfold collectUnsupportedFeatures
    dsimp only
    rw [tableEntries_providers_rewritten]
    have none := filterMap_retired providerList
      (by intro name table; simp [providerList, readUnsupportedFeatures_removeKey])
      (by
        intro entry listed found
        obtain ⟨_, _, rfl⟩ := Option.map_eq_some_iff.mp found
        rfl) (tableEntries "providers" doc)
    exact congrArg (List.map Prod.fst) none
  have noModels : (collectUnsupportedFeatures (rewritten doc)).modelRemovals = [] := by
    unfold collectUnsupportedFeatures
    dsimp only
    rw [tableEntries_models_rewritten]
    have none := filterMap_retired modelList
      (by intro name table; simp [modelList, readUnsupportedFeatures_removeKey])
      (by
        intro entry listed found
        exact modelList_fst found) (tableEntries "models" doc)
    exact congrArg (List.map Prod.fst) none
  unfold normalizeCapabilityOverrides
  simp [presentEgressAllowlists_rewritten, served, noProviders, noModels]

theorem normalize_eq_ok {doc normalized : Entries} {changed : Bool}
    (accepted : normalizeCapabilityOverrides doc = .ok (changed, normalized)) :
    presentEgressAllowlists doc = [] ∧ ((changed = false ∧ normalized = doc ∧
      (collectUnsupportedFeatures doc).providerRemovals = [] ∧
      (collectUnsupportedFeatures doc).modelRemovals = []) ∨ normalized = rewritten doc) := by
  unfold normalizeCapabilityOverrides at accepted
  cases served : presentEgressAllowlists doc with
  | cons field rest => simp [served] at accepted
  | nil =>
    refine ⟨rfl, ?_⟩
    by_cases nothing : ((collectUnsupportedFeatures doc).providerRemovals.isEmpty &&
        (collectUnsupportedFeatures doc).modelRemovals.isEmpty) = true
    · simp only [served, List.isEmpty_nil, Bool.not_true, Bool.false_eq_true, if_false, nothing,
        if_true] at accepted
      cases accepted
      have empty := (Bool.and_eq_true _ _).mp nothing
      exact .inl ⟨rfl, rfl, List.isEmpty_iff.mp empty.1, List.isEmpty_iff.mp empty.2⟩
    · simp only [served, List.isEmpty_nil, Bool.not_true, Bool.false_eq_true, if_false,
        nothing] at accepted
      cases accepted
      exact .inr rfl

end SecondPass

section Verdicts
variable (config : Config)

/-- A key the legacy lists under a spec name, as their own provider's kind has it. -/
def OwnKey (spec key : String) : Prop :=
  ∃ kind raw, config.LegacyToken spec kind raw ∧ normalizeCapabilityKey raw kind = key

/-- A key the legacy lists under a spec name, as the kind of the spec's provider segment has it. -/
def SplitKey (spec key : String) : Prop :=
  ∃ kind raw, config.LegacyToken spec kind raw ∧
    normalizeCapabilityKey raw (config.specKind spec) = key

/-- A key the spec's own overrides already route away. -/
def OverriddenKey (spec key : String) : Prop :=
  ∃ raw, config.UnsupportedToken spec raw ∧ normalizeCapabilityKey raw (config.specKind spec) = key

def KeysAgree : Prop :=
  ∀ spec key, OverriddenKey config spec key ∨ (OwnKey config spec key ↔ SplitKey config spec key)

variable {config}

theorem routesAway_normalized {folds : List (String × List String)}
    {overrides : List (String × OverrideEntry)} (folded : Folded folds config.overrides overrides)
    (tokens : ∀ spec raw, (∃ names, (spec, names) ∈ folds ∧ raw ∈ names) ↔
      ∃ kind, config.LegacyToken spec kind raw) (spec key : String) :
    (normalizedConfig config overrides).RoutesAway ⟨spec, key⟩ ↔
      OverriddenKey config spec key ∨ SplitKey config spec key := by
  rw [Config.routesAway_iff]
  constructor
  · rintro (⟨kind, raw, token, _⟩ | ⟨raw, listed, normal⟩)
    · exact absurd token (legacyToken_normalizedConfig config overrides spec kind raw)
    · rw [specKind_normalizedConfig] at normal
      obtain before | added := (folded.unsupported spec raw).mp listed
      · exact .inl ⟨raw, before, normal⟩
      · obtain ⟨kind, token⟩ := (tokens spec raw).mp added
        exact .inr ⟨kind, raw, token, normal⟩
  · rintro (⟨raw, before, normal⟩ | ⟨kind, raw, token, normal⟩)
    · refine .inr ⟨raw, (folded.unsupported spec raw).mpr (.inl before), ?_⟩
      rw [specKind_normalizedConfig, normal]
    · refine .inr ⟨raw, (folded.unsupported spec raw).mpr (.inr ?_), ?_⟩
      · exact (tokens spec raw).mpr ⟨kind, token⟩
      · rw [specKind_normalizedConfig, normal]

theorem forces_normalized {folds : List (String × List String)}
    {overrides : List (String × OverrideEntry)} (folded : Folded folds config.overrides overrides)
    (key : Overrides.CellKey) :
    (normalizedConfig config overrides).Forces key ↔ config.Forces key := by
  obtain ⟨spec, key⟩ := key
  rw [Config.forces_iff, Config.forces_iff, specKind_normalizedConfig]
  constructor
  · rintro ⟨raw, listed, normal⟩
    exact ⟨raw, (folded.forced spec raw).mp listed, normal⟩
  · rintro ⟨raw, listed, normal⟩
    exact ⟨raw, (folded.forced spec raw).mpr listed, normal⟩

theorem routesAway_before (spec key : String) :
    config.RoutesAway ⟨spec, key⟩ ↔ OwnKey config spec key ∨ OverriddenKey config spec key :=
  config.routesAway_iff spec key

theorem keysAgree_of_no_token (none : ∀ spec kind raw, ¬ config.LegacyToken spec kind raw) :
    KeysAgree config := by
  intro spec key
  right
  constructor
  · rintro ⟨kind, raw, token, _⟩
    exact absurd token (none spec kind raw)
  · rintro ⟨kind, raw, token, _⟩
    exact absurd token (none spec kind raw)

/-- Where every list's own provider has the kind of its spec's first segment, all keys agree. -/
theorem keysAgree_of_kinds (same : ∀ spec kind raw, config.LegacyToken spec kind raw →
    kind = config.specKind spec) : KeysAgree config := by
  intro spec key
  right
  constructor
  · rintro ⟨kind, raw, token, normal⟩
    exact ⟨kind, raw, token, by rw [← same spec kind raw token, normal]⟩
  · rintro ⟨kind, raw, token, normal⟩
    exact ⟨kind, raw, token, by rw [same spec kind raw token, normal]⟩

theorem lookup_of_mem {Value : Type} {entries : List (String × Value)}
    (distinct : (entries.map Prod.fst).Nodup) {name : String} {value : Value}
    (member : (name, value) ∈ entries) : entries.lookup name = some value := by
  induction entries with
  | nil => cases member
  | cons entry rest ih =>
    obtain ⟨key, first⟩ := entry
    rw [List.map_cons, List.nodup_cons] at distinct
    obtain same | later := List.mem_cons.mp member
    · cases same
      simp
    · have skipped : (name == key) = false := by
        apply beq_eq_false_iff_ne.mpr
        rintro rfl
        exact distinct.1 (List.mem_map.mpr ⟨_, later, rfl⟩)
      rw [List.lookup_cons, skipped]
      exact ih distinct.2 later

/-- No provider named with the separator, no key lost. -/
theorem keysAgree_of_no_separator (distinct : (config.providers.map Prod.fst).Nodup)
    (plainProviders : ∀ name entry, (name, entry) ∈ config.providers → ':' ∉ name.toList)
    (plainModels : ∀ name entry, (name, entry) ∈ config.models → ':' ∉ entry.provider.toList) :
    KeysAgree config := by
  apply keysAgree_of_kinds
  rintro spec kind raw (⟨entry, member, rfl, _⟩ | ⟨nickname, entry, member, rfl, rfl, _⟩)
  · rw [Config.specKind, Overrides.providerOfSpec_plain (plainProviders spec entry member),
      Config.providerKindFor, lookup_of_mem distinct member]
  · rw [Config.specKind, Overrides.providerOfSpec_modelSpec (plainModels nickname entry member)]

/-- A document's normal form resolves every capability alike, and is its own normal form,
exactly when its legacy lists name the same keys under both kinds. -/
theorem normalize_preserves_verdicts_iff {doc normalized : Entries} {changed : Bool}
    {config : Config} (read : readConfig doc = some config)
    (accepted : normalizeCapabilityOverrides doc = .ok (changed, normalized)) :
    (∃ after, readConfig normalized = some after ∧
      (∀ providerName nickname capabilityRaw providerKind,
        (OverrideRegistry.build after).verdict providerName nickname capabilityRaw providerKind =
          (OverrideRegistry.build config).verdict providerName nickname capabilityRaw
            providerKind) ∧
      normalizeCapabilityOverrides normalized = .ok (false, normalized)) ↔
      KeysAgree config := by
  have tokens := token_folded_iff read
  obtain ⟨served, ⟨rfl, rfl, noProviders, noModels⟩ | rfl⟩ := normalize_eq_ok accepted
  · have none : ∀ spec kind raw, ¬ config.LegacyToken spec kind raw := by
      intro spec kind raw token
      obtain ⟨names, member, _⟩ := (tokens spec raw).mpr ⟨kind, token⟩
      obtain ⟨fold, member, _⟩ := List.mem_map.mp member
      obtain ⟨listed, _⟩ := List.mem_filter.mp member
      have noLists := List.append_eq_nil_iff.mpr
        ⟨List.map_eq_nil_iff.mp noProviders, List.map_eq_nil_iff.mp noModels⟩
      rw [noLists] at listed
      cases listed
    constructor
    · intro _
      exact keysAgree_of_no_token none
    · intro _
      exact ⟨config, read, fun _ _ _ _ => rfl, accepted⟩
  · obtain ⟨overrides, reads, folded⟩ := readConfig_rewritten read
    have agree := Config.verdicts_agree_iff (forces_normalized folded)
    constructor
    · rintro ⟨after, readsAfter, verdicts, _⟩ spec key
      obtain rfl := Option.some_inj.mp (reads.symm.trans readsAfter)
      have away := agree.mp verdicts ⟨spec, key⟩
      rw [routesAway_normalized folded tokens, routesAway_before] at away
      by_cases overridden : OverriddenKey config spec key
      · exact .inl overridden
      · simpa [overridden, Iff.comm] using away
    · intro keys
      refine ⟨_, reads, agree.mpr ?_, normalize_rewritten served⟩
      rintro ⟨spec, key⟩
      rw [routesAway_normalized folded tokens, routesAway_before]
      obtain overridden | same := keys spec key
      · simp [overridden]
      · rw [← same, Or.comm]

/-- Two bedrock lists under names without a separator. -/
def plainDocument : Entries :=
  [("providers", .table [("aws", .table
      [("kind", .string "bedrock"),
        ("unsupported_features", .array [.string "additionalModelRequestFields.anthropic_beta"])])]),
    ("models", .table [("opus", .table
      [("provider", .string "aws"), ("unsupported_features", .array [.string "tools"])])])]

def plainConfig : Config where
  providers := [("aws", ⟨"bedrock", ["additionalModelRequestFields.anthropic_beta"]⟩)]
  models := [("opus", ⟨"aws", ["tools"]⟩)]

theorem plain_document_keeps_verdicts :
    ∃ after, readConfig (rewritten plainDocument) = some after ∧
      (∀ providerName nickname capabilityRaw providerKind,
        (OverrideRegistry.build after).verdict providerName nickname capabilityRaw providerKind =
          (OverrideRegistry.build plainConfig).verdict providerName nickname capabilityRaw
            providerKind) ∧
      normalizeCapabilityOverrides (rewritten plainDocument) =
        .ok (false, rewritten plainDocument) := by
  have accepted : normalizeCapabilityOverrides plainDocument =
      .ok (true, rewritten plainDocument) := rfl
  have read : readConfig plainDocument = some plainConfig := rfl
  apply (normalize_preserves_verdicts_iff read accepted).mpr
  apply keysAgree_of_kinds
  rintro spec kind raw (⟨entry, member, rfl, _⟩ | ⟨nickname, entry, member, rfl, rfl, _⟩)
  · obtain same := List.mem_singleton.mp member
    cases same
    decide +kernel
  · obtain same := List.mem_singleton.mp member
    cases same
    decide +kernel

/-- A bedrock list under a name with the separator in it. -/
def separatorDocument : Entries :=
  [("providers", .table [("a:b", .table
    [("kind", .string "bedrock"),
      ("unsupported_features", .array [.string "additionalModelRequestFields.anthropic_beta"])])])]

theorem separator_loses_verdict :
    ∃ config after, readConfig separatorDocument = some config ∧ config.overrides = [] ∧
      normalizeCapabilityOverrides separatorDocument = .ok (true, rewritten separatorDocument) ∧
      readConfig (rewritten separatorDocument) = some after ∧
      (OverrideRegistry.build config).verdict "a:b" "opus"
        "additionalModelRequestFields.anthropic_beta" "bedrock" = some .routeAway ∧
      (OverrideRegistry.build after).verdict "a:b" "opus"
        "additionalModelRequestFields.anthropic_beta" "bedrock" = none := by
  refine ⟨_, _, rfl, rfl, rfl, rfl, ?_, ?_⟩
  · decide +kernel
  · decide +kernel

end Verdicts
end Routectl.Migrate
