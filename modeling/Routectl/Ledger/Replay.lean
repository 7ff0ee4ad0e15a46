import Mathlib.Data.List.Sort
import Routectl.Ledger.Rebuild

/-! What a replay does to one key: the rows of that key, in append order, fold over
its slot, as long as the registry has room. -/
namespace Routectl.Ledger
open Routectl.Core Library Registry

/-- A row, seen from the slot of its key. -/
def replaySlot (tuning : RegistryTuning) (slot : Option LearnedEntry) (row : CapabilityEventRow) :
    Option LearnedEntry :=
  match EvidenceSource.parse row.source with
  | none => slot
  | some source =>
    if row.verdict = "verified" then
      if !evidenceClassRecognized row then slot
      else some (positiveSlot slot source row.evidenceClass row.observedAt)
    else if row.verdict = "broken" then
      match parseTierPhase row with
      | none => slot
      | some (tier, phase) =>
        some (observeSlot tuning slot tier phase source row.evidenceClass row.observedAt).1
    else if row.verdict = "suspect" then
      if !evidenceClassRecognized row then slot
      else
        match parseTierPhase row with
        | none => slot
        | some (tier, phase) =>
          if phase ≠ .f3 then slot
          else some (observeSlot tuning slot tier phase source row.evidenceClass row.observedAt).1
    else if row.verdict = "cleared" then none
    else slot

/-- The registry can take `key` without evicting anything. -/
def HasRoom (registry : LearnedCapabilityRegistry) (key : RegistryKey) : Prop :=
  registry.entries.lookup key ≠ none ∨
    registry.entries.entries.length < max registry.tuning.maxEntries 1

/-- What replaying a row of `key` leaves, its slot becoming `slot`. -/
structure Replayed (before after : LearnedCapabilityRegistry) (key : RegistryKey)
    (slot : Option LearnedEntry) : Prop where
  tuning : after.tuning = before.tuning
  pending : after.pendingGeneration = before.pendingGeneration
  leases : after.purgeLeases = before.purgeLeases
  own : after.entries.lookup key = slot
  others : HasRoom before key → ∀ other, other ≠ key →
    after.entries.lookup other = before.entries.lookup other
  frame : Frame before.purgeLeases key before.entries after.entries
  size : before.purgeLeases = ∅ →
    before.entries.entries.length ≤ max before.tuning.maxEntries 1 →
      after.entries.entries.length ≤ max before.tuning.maxEntries 1

section Operations
variable {registry : LearnedCapabilityRegistry} {stateKey featureKeyRaw providerKind : String}

theorem Replayed.kept (registry : LearnedCapabilityRegistry) (key : RegistryKey) :
    Replayed registry registry key (registry.entries.lookup key) where
  tuning := rfl
  pending := rfl
  leases := rfl
  own := rfl
  others := fun _ _ _ => rfl
  frame := Frame.refl registry.purgeLeases key registry.entries
  size := fun _ bounded => bounded

theorem Replayed.insert_present {key : RegistryKey} (entry : LearnedEntry)
    (present : registry.entries.lookup key ≠ none) :
    Replayed registry { registry with entries := registry.entries.insert key entry } key
      (some entry) where
  tuning := rfl
  pending := rfl
  leases := rfl
  own := AList.lookup_insert _
  others := fun _ other different => AList.lookup_insert_ne different
  frame := (Frame.refl registry.purgeLeases key registry.entries).insert entry
  size := fun _ bounded => by
    dsimp only
    rw [KeyedMap.length_insert_present entry present]
    exact bounded

/-- A first observation evicts only where there is no room. -/
theorem Replayed.insert_fresh {key : RegistryKey} (entry : LearnedEntry)
    (missing : registry.entries.lookup key = none) :
    Replayed registry
      { registry with
        entries := (evictIfFull registry.tuning registry.entries registry.purgeLeases).insert key
          entry } key (some entry) where
  tuning := rfl
  pending := rfl
  leases := rfl
  own := AList.lookup_insert _
  others := by
    rintro (present | room) other different
    · exact absurd missing present
    · dsimp only
      rw [AList.lookup_insert_ne different, evictIfFull, KeyedMap.evictOldest_of_lt room]
  frame := (Frame.evictIfFull registry.tuning registry.purgeLeases key registry.entries).insert entry
  size := by
    intro unleased bounded
    have still : (evictIfFull registry.tuning registry.entries registry.purgeLeases).lookup key =
        none := by
      rcases KeyedMap.lookup_evictOldest registry.tuning.maxEntries
        (fun key => key ∉ registry.purgeLeases) LearnedEntry.lastSeen registry.entries key with
        same | ⟨gone, -⟩
      · exact same.trans missing
      · exact gone
    dsimp only
    rw [KeyedMap.length_insert_missing entry still]
    apply KeyedMap.length_evictOldest _ bounded
    intro other
    simp [unleased]

theorem observe_replayed (tier : SignalTier) (phase : FailurePhase) (source : EvidenceSource)
    (evidence : Option String) (now : Nat) :
    Replayed registry
      (registry.observe stateKey featureKeyRaw providerKind tier phase source evidence now).1
      (makeKey stateKey featureKeyRaw providerKind)
      (some (observeSlot registry.tuning
        (registry.entries.lookup (makeKey stateKey featureKeyRaw providerKind)) tier phase source
        evidence now).1) := by
  unfold LearnedCapabilityRegistry.observe observeIn observeSlot
  cases found : registry.entries.lookup (makeKey stateKey featureKeyRaw providerKind) with
  | none => exact .insert_fresh _ found
  | some existing =>
    have present : registry.entries.lookup (makeKey stateKey featureKeyRaw providerKind) ≠ none := by
      simp [found]
    dsimp only
    cases existing.verdict with
    | negative => exact .insert_present _ present
    | verified =>
      cases tier with
      | selfIdentifying => exact .insert_present _ present
      | inferred => exact found ▸ .kept registry _

theorem observePositive_replayed (source : EvidenceSource) (evidence : Option String) (now : Nat) :
    Replayed registry
      (registry.observePositive stateKey featureKeyRaw providerKind source evidence now).1
      (makeKey stateKey featureKeyRaw providerKind)
      (some (positiveSlot (registry.entries.lookup (makeKey stateKey featureKeyRaw providerKind))
        source evidence now)) := by
  unfold LearnedCapabilityRegistry.observePositive observePositiveIn positiveSlot
  cases found : registry.entries.lookup (makeKey stateKey featureKeyRaw providerKind) with
  | none => exact .insert_fresh _ found
  | some existing =>
    have present : registry.entries.lookup (makeKey stateKey featureKeyRaw providerKind) ≠ none := by
      simp [found]
    dsimp only
    cases existing.verdict with
    | negative => exact found ▸ .kept registry _
    | verified => exact .insert_present _ present

theorem removeKeyed_replayed :
    Replayed registry (registry.removeKeyed stateKey featureKeyRaw providerKind).1
      (makeKey stateKey featureKeyRaw providerKind) none where
  tuning := rfl
  pending := rfl
  leases := rfl
  own := AList.lookup_erase _ _
  others := fun _ other different => AList.lookup_erase_ne different
  frame := Frame.erase registry.purgeLeases _ registry.entries
  size := by
    intro _ bounded
    have shorter : (registry.entries.erase
        (makeKey stateKey featureKeyRaw providerKind)).entries.length ≤
          registry.entries.entries.length := (List.kerase_sublist _ _).length_le
    exact shorter.trans bounded

end Operations

theorem replayRow_replayed (registry : LearnedCapabilityRegistry)
    (summary : CapabilityRebuildSummary) (row : CapabilityEventRow) :
    Replayed registry (replayRow (registry, summary) row).1 row.key
      (replaySlot registry.tuning (registry.entries.lookup row.key) row) := by
  unfold replayRow replaySlot
  cases EvidenceSource.parse row.source with
  | none => exact .kept registry row.key
  | some source =>
    dsimp only
    by_cases verified : row.verdict = "verified"
    · simp only [if_pos verified]
      cases evidenceClassRecognized row with
      | false => exact .kept registry row.key
      | true => exact observePositive_replayed _ _ _
    · simp only [if_neg verified]
      by_cases broken : row.verdict = "broken"
      · simp only [if_pos broken]
        cases parseTierPhase row with
        | none => exact .kept registry row.key
        | some parsed => exact observe_replayed _ _ _ _ _
      · simp only [if_neg broken]
        by_cases suspect : row.verdict = "suspect"
        · simp only [if_pos suspect]
          cases evidenceClassRecognized row with
          | false => exact .kept registry row.key
          | true =>
            cases parseTierPhase row with
            | none => exact .kept registry row.key
            | some parsed =>
              obtain ⟨tier, phase⟩ := parsed
              by_cases other : phase ≠ .f3
              · simp only [if_pos other]
                exact .kept registry row.key
              · simp only [if_neg other]
                exact observe_replayed _ _ _ _ _
        · simp only [if_neg suspect]
          by_cases cleared : row.verdict = "cleared"
          · simp only [if_pos cleared]
            exact removeKeyed_replayed
          · simp only [if_neg cleared]
            exact .kept registry row.key

/-- An appended row, seen from the slot of its key. -/
def eventSlot (tuning : RegistryTuning) (slot : Option LearnedEntry) (event : CapabilityEvent) :
    Option LearnedEntry := replaySlot tuning slot (mapRow event 0)

theorem mapRow_key (event : CapabilityEvent) (rowid : Nat) : (mapRow event rowid).key = event.key := by
  simp [CapabilityEventRow.key, mapRow, makeKey, CapabilityEvent.key, normalizeCapabilityKey]

def replayEvent (registry : LearnedCapabilityRegistry) (event : CapabilityEvent) :
    LearnedCapabilityRegistry := (replayRow (registry, .zero) (mapRow event 0)).1

/-- The tally never reaches the registry. -/
theorem replayRow_registry (registry : LearnedCapabilityRegistry)
    (summary other : CapabilityRebuildSummary) (row : CapabilityEventRow) (rowid : Nat) :
    (replayRow (registry, summary) row).1 = (replayRow (registry, other) { row with rowid }).1 := by
  unfold replayRow mintNegative
  have recognized : evidenceClassRecognized { row with rowid } = evidenceClassRecognized row := rfl
  have parsed : parseTierPhase { row with rowid } = parseTierPhase row := rfl
  simp only [recognized, parsed]
  cases EvidenceSource.parse row.source with
  | none => rfl
  | some source =>
    dsimp only
    by_cases verified : row.verdict = "verified"
    · simp only [if_pos verified]
      cases evidenceClassRecognized row <;> rfl
    · simp only [if_neg verified]
      by_cases broken : row.verdict = "broken"
      · simp only [if_pos broken]
        cases parseTierPhase row <;> rfl
      · simp only [if_neg broken]
        by_cases suspect : row.verdict = "suspect"
        · simp only [if_pos suspect]
          cases evidenceClassRecognized row with
          | false => rfl
          | true =>
            cases parseTierPhase row with
            | none => rfl
            | some phased =>
              obtain ⟨tier, phase⟩ := phased
              cases phase <;> rfl
        · simp only [if_neg suspect]
          split <;> rfl

theorem replayEvent_replayed (registry : LearnedCapabilityRegistry) (event : CapabilityEvent) :
    Replayed registry (replayEvent registry event) event.key
      (eventSlot registry.tuning (registry.entries.lookup event.key) event) := by
  have replayed := replayRow_replayed registry .zero (mapRow event 0)
  rw [mapRow_key] at replayed
  exact replayed

section Slices
variable {registry : LearnedCapabilityRegistry} {events : List CapabilityEvent}
  {keys : Finset RegistryKey}

theorem hasRoom_of_within {key : RegistryKey}
    (fits : keys.card ≤ max registry.tuning.maxEntries 1)
    (within : ∀ other, registry.entries.lookup other ≠ none → other ∈ keys) (member : key ∈ keys) :
    HasRoom registry key := by
  by_cases missing : registry.entries.lookup key = none
  · have shorter := KeyedMap.length_lt_card within member missing
    exact .inr (Nat.lt_of_lt_of_le shorter fits)
  · exact .inl missing

/-- With room for every key in play, each key sees its own rows only. -/
theorem foldl_replayEvent_lookup (fits : keys.card ≤ max registry.tuning.maxEntries 1)
    (within : ∀ other, registry.entries.lookup other ≠ none → other ∈ keys)
    (covered : ∀ event ∈ events, event.key ∈ keys) (key : RegistryKey) :
    (events.foldl replayEvent registry).entries.lookup key =
      (events.filter fun event => event.key = key).foldl (eventSlot registry.tuning)
        (registry.entries.lookup key) := by
  induction events generalizing registry with
  | nil => rfl
  | cons event rest ih =>
    have replayed := replayEvent_replayed registry event
    have member := covered event List.mem_cons_self
    have kept := replayed.others (hasRoom_of_within fits within member)
    have still : ∀ other, (replayEvent registry event).entries.lookup other ≠ none →
        other ∈ keys := by
      intro other resident
      by_cases same : other = event.key
      · exact same ▸ member
      · rw [kept other same] at resident
        exact within other resident
    have onward := ih (replayed.tuning ▸ fits) still
      fun later inside => covered later (List.mem_cons_of_mem event inside)
    rw [List.foldl_cons, onward, replayed.tuning]
    by_cases same : event.key = key
    · subst same
      rw [List.filter_cons_of_pos (by simp), List.foldl_cons, replayed.own]
    · rw [List.filter_cons_of_neg (by simpa using same), kept key (Ne.symm same)]

theorem foldl_replayEvent_size (unleased : registry.purgeLeases = ∅)
    (bounded : registry.entries.entries.length ≤ max registry.tuning.maxEntries 1) :
    (events.foldl replayEvent registry).entries.entries.length ≤
      max registry.tuning.maxEntries 1 := by
  induction events generalizing registry with
  | nil => exact bounded
  | cons event rest ih =>
    have replayed := replayEvent_replayed registry event
    have next := replayed.size unleased bounded
    rw [← replayed.tuning] at next
    have onward := ih (replayed.leases.trans unleased) next
    rw [replayed.tuning] at onward
    exact onward

end Slices

section Ledger
variable {events prior rest : List CapabilityEvent} {first : Nat}

theorem ledgerRows_cons (event : CapabilityEvent) :
    ledgerRows (event :: events) first = mapRow event first :: ledgerRows events (first + 1) := rfl

theorem mem_ledgerRows {row : CapabilityEventRow} (member : row ∈ ledgerRows events first) :
    ∃ event ∈ events, ∃ rowid, row = mapRow event rowid ∧ first ≤ rowid ∧
      rowid < first + events.length := by
  induction events generalizing first with
  | nil => cases member
  | cons event later ih =>
    rw [ledgerRows_cons] at member
    rcases List.mem_cons.mp member with same | inside
    · refine ⟨event, List.mem_cons_self, first, same, Nat.le_refl first, ?_⟩
      rw [List.length_cons]
      omega
    · obtain ⟨found, present, rowid, same, low, high⟩ := ih inside
      refine ⟨found, List.mem_cons_of_mem event present, rowid, same, by omega, ?_⟩
      rw [List.length_cons]
      omega

theorem ledgerRows_append :
    ledgerRows (prior ++ rest) first = ledgerRows prior first ++ ledgerRows rest (first + prior.length) := by
  simp [ledgerRows, List.zipIdx_append]

theorem ledgerRows_sorted :
    (ledgerRows events first).Pairwise fun early late => early.rowid ≤ late.rowid := by
  induction events generalizing first with
  | nil => exact List.Pairwise.nil
  | cons event later ih =>
    rw [ledgerRows_cons]
    refine List.pairwise_cons.mpr ⟨?_, ih⟩
    intro row member
    obtain ⟨_, _, rowid, same, low, _⟩ := mem_ledgerRows member
    rw [same]
    exact Nat.le_of_succ_le low

theorem latestTombstone_after (prior : List CapabilityEvent) (now : Nat) (revision : Revision)
    (plain : ∀ event ∈ rest, event.verdict ≠ "tombstone") :
    latestTombstone (prior ++ .tombstone now revision :: rest) =
      some { rowid := prior.length + 1, revision } := by
  have later : (rest.zipIdx (prior.length + 2)).filter
      (fun numbered => numbered.1.verdict = "tombstone") = [] := by
    apply List.filter_eq_nil_iff.mpr
    intro numbered member
    simpa using plain numbered.1 (List.fst_mem_of_mem_zipIdx member)
  have rowid : 1 + prior.length = prior.length + 1 := Nat.add_comm _ _
  rw [latestTombstone, List.zipIdx_append, List.filter_append, List.zipIdx_cons, rowid,
    List.filter_cons_of_pos (by simp [CapabilityEvent.tombstone]), later, List.getLast?_concat]
  rfl

/-- Rows of the tombstone's own revision are all replayed, in append order. -/
theorem rebuild_after {revision : Revision}
    (current : ∀ event ∈ rest, event.verdict ≠ "tombstone" ∧ event.revision = revision)
    (prior : List CapabilityEvent) (now : Nat) (registry : LearnedCapabilityRegistry) :
    ∃ summary, rebuildCapabilitiesInto (ledgerReader (prior ++ .tombstone now revision :: rest))
        registry = (ledgerRows rest (prior.length + 2)).foldl replayRow (registry, summary) := by
  have boundary := latestTombstone_after prior now revision fun event member =>
    (current event member).1
  have split : ledgerRows (prior ++ .tombstone now revision :: rest) 1 =
      ledgerRows (prior ++ [.tombstone now revision]) 1 ++ ledgerRows rest (prior.length + 2) := by
    have joined : prior ++ .tombstone now revision :: rest =
        (prior ++ [.tombstone now revision]) ++ rest := by simp
    rw [joined, ledgerRows_append]
    simp [Nat.add_left_comm]
  have survivors : (ledgerRows (prior ++ .tombstone now revision :: rest) 1).filter
      (fun row => shouldReplay row { rowid := prior.length + 1, revision } = .replay) =
        ledgerRows rest (prior.length + 2) := by
    rw [split, List.filter_append]
    have dropped : (ledgerRows (prior ++ [.tombstone now revision]) 1).filter
        (fun row => shouldReplay row { rowid := prior.length + 1, revision } = .replay) = [] := by
      apply List.filter_eq_nil_iff.mpr
      intro row member
      obtain ⟨_, _, rowid, same, _, high⟩ := mem_ledgerRows member
      have low : rowid ≤ prior.length + 1 := by
        rw [List.length_append, List.length_singleton] at high
        omega
      simp [same, shouldReplay, mapRow, low]
    have replayed : (ledgerRows rest (prior.length + 2)).filter
        (fun row => shouldReplay row { rowid := prior.length + 1, revision } = .replay) =
          ledgerRows rest (prior.length + 2) := by
      apply List.filter_eq_self.mpr
      intro row member
      obtain ⟨event, present, rowid, same, low, _⟩ := mem_ledgerRows member
      have above : ¬rowid ≤ prior.length + 1 := by omega
      simp [same, shouldReplay, mapRow, above, (current event present).2]
    rw [dropped, replayed, List.nil_append]
  unfold rebuildCapabilitiesInto ledgerReader
  rw [boundary]
  dsimp only
  rw [survivors, List.mergeSort_of_pairwise (by simpa using ledgerRows_sorted)]
  exact ⟨_, rfl⟩

theorem foldl_replayRow_registry (registry : LearnedCapabilityRegistry)
    (summary : CapabilityRebuildSummary) :
    ((ledgerRows events first).foldl replayRow (registry, summary)).1 =
      events.foldl replayEvent registry := by
  induction events generalizing first registry summary with
  | nil => rfl
  | cons event later ih =>
    rw [ledgerRows_cons, List.foldl_cons, List.foldl_cons]
    cases step : replayRow (registry, summary) (mapRow event first) with
    | mk after tally =>
      have same := replayRow_registry registry summary .zero (mapRow event first) 0
      rw [step] at same
      rw [ih]
      exact congrArg (later.foldl replayEvent) same

/-- The rebuild is the fold of the rows appended after the tombstone. -/
theorem rebuild_fold {revision : Revision}
    (current : ∀ event ∈ rest, event.verdict ≠ "tombstone" ∧ event.revision = revision)
    (prior : List CapabilityEvent) (now : Nat) (registry : LearnedCapabilityRegistry) :
    (rebuildCapabilitiesInto (ledgerReader (prior ++ .tombstone now revision :: rest)) registry).1 =
      rest.foldl replayEvent registry := by
  obtain ⟨summary, rebuilt⟩ := rebuild_after current prior now registry
  rw [rebuilt, foldl_replayRow_registry]

/-- Into an empty registry with room for every key, each key becomes the fold of
its own rows. -/
theorem rebuild_lookup {revision : Revision} {tuning : RegistryTuning}
    (current : ∀ event ∈ rest, event.verdict ≠ "tombstone" ∧ event.revision = revision)
    (prior : List CapabilityEvent) (now : Nat) (keys : Finset RegistryKey)
    (covered : ∀ event ∈ rest, event.key ∈ keys) (fits : keys.card ≤ max tuning.maxEntries 1)
    (key : RegistryKey) :
    (rebuildCapabilitiesInto (ledgerReader (prior ++ .tombstone now revision :: rest))
        (.new tuning.decay tuning.inferredWindow tuning.maxEntries)).1.entries.lookup key =
      (rest.filter fun event => event.key = key).foldl (eventSlot tuning) none := by
  have empty (other : RegistryKey)
      (resident : (LearnedCapabilityRegistry.new tuning.decay tuning.inferredWindow
        tuning.maxEntries).entries.lookup other ≠ none) : other ∈ keys := absurd rfl resident
  rw [rebuild_fold current prior now]
  exact foldl_replayEvent_lookup fits empty covered key

/-- A rebuild never holds more than the registry it fills may. -/
theorem rebuild_size {revision : Revision} {tuning : RegistryTuning}
    (current : ∀ event ∈ rest, event.verdict ≠ "tombstone" ∧ event.revision = revision)
    (prior : List CapabilityEvent) (now : Nat) :
    (rebuildCapabilitiesInto (ledgerReader (prior ++ .tombstone now revision :: rest))
        (.new tuning.decay tuning.inferredWindow tuning.maxEntries)).1.entries.entries.length ≤
      max tuning.maxEntries 1 := by
  rw [rebuild_fold current prior now]
  exact foldl_replayEvent_size rfl (Nat.zero_le _)

end Ledger
end Routectl.Ledger
