import Routectl.Learn.Delivery

/-! Cleared negatives after a restart: the replay trusts the order of the rows, so a
learn appended behind a newer clear brings its negative back. -/
namespace Routectl.Learn
open Routectl.Core Library Registry Ledger

section Rows
variable {tuning : RegistryTuning} {slot : Option LearnedEntry} {revision : Revision} {now : Nat}
  {registry : LearnedCapabilityRegistry} {events : List CapabilityEvent} {key : RegistryKey}

theorem eventSlot_learned (event : CapabilityLearnEvent) :
    eventSlot tuning slot (learnedRow now revision event) =
      some (observeSlot tuning slot event.signalTier event.phase event.source none now).1 := by
  simp [eventSlot, replaySlot, mapRow, learnedRow, Verdict.asStr, parseTierPhase]

theorem eventSlot_cleared (event : CapabilityClearedEvent) :
    eventSlot tuning slot (clearedRow now revision event) = none := by
  simp [eventSlot, replaySlot, mapRow, clearedRow, Verdict.asStr]

/-- Nothing but negatives. -/
def Unverified (slot : Option LearnedEntry) : Prop :=
  ∀ entry, slot = some entry → entry.verdict = .negative

theorem eventSlot_unverified (tuning : RegistryTuning) (unverified : Unverified slot)
    {event : CapabilityEvent} (emitted : Emitted revision event) : Unverified (eventSlot tuning slot event) := by
  intro entry same
  cases emitted with
  | learned now event =>
    rw [eventSlot_learned] at same
    exact Option.some.inj same ▸ observeSlot_side unverified
  | cleared now event =>
    rw [eventSlot_cleared] at same
    cases same

theorem foldl_eventSlot_unverified (tuning : RegistryTuning) (unverified : Unverified slot)
    (emitted : ∀ event ∈ events, Emitted revision event) :
    Unverified (events.foldl (eventSlot tuning) slot) := by
  induction events generalizing slot with
  | nil => exact unverified
  | cons event rest ih =>
    have next := eventSlot_unverified tuning unverified (emitted event List.mem_cons_self)
    exact ih next fun later member => emitted later (List.mem_cons_of_mem event member)

/-- Only a learn leaves a row's own key a negative. -/
theorem replayEvent_learned {event : CapabilityEvent} (emitted : Emitted revision event)
    (negative : negativeAt (replayEvent registry event) event.key = true) :
    event.verdict ≠ Verdict.cleared.asStr := by
  cases emitted with
  | learned now event => simp [learnedRow, Verdict.asStr]
  | cleared now event =>
    have own := (replayEvent_replayed registry (clearedRow now revision event)).own
    rw [eventSlot_cleared] at own
    rw [negativeAt, own] at negative
    cases negative

/-- A replayed row gives no other key a negative it did not have. -/
theorem replayEvent_elsewhere {event : CapabilityEvent} (different : key ≠ event.key)
    (negative : negativeAt (replayEvent registry event) key = true) :
    negativeAt registry key = true := by
  unfold negativeAt at negative ⊢
  rcases (replayEvent_replayed registry event).frame key different with same | ⟨gone, -⟩
  · rw [← same]
    exact negative
  · rw [gone] at negative
    cases negative

/-- The last row of `key`. -/
def lastRow (events : List CapabilityEvent) (key : RegistryKey) : Option CapabilityEvent :=
  (events.filter fun event => event.key = key).getLast?

/-- A negative the rows rebuild is one whose last row learned it, whatever room the
registry has. -/
theorem foldl_replayEvent_negative (emitted : ∀ event ∈ events, Emitted revision event)
    (absent : negativeAt registry key = false)
    (negative : negativeAt (events.foldl replayEvent registry) key = true) :
    ∃ event, lastRow events key = some event ∧ event.verdict ≠ Verdict.cleared.asStr := by
  induction events using List.reverseRecOn with
  | nil => simp [absent] at negative
  | append_singleton before event ih =>
    rw [List.foldl_append, List.foldl_cons, List.foldl_nil] at negative
    by_cases same : event.key = key
    · subst same
      refine ⟨event, ?_, ?_⟩
      · simp [lastRow]
      · exact replayEvent_learned (emitted event (by simp)) negative
    · have earlier := replayEvent_elsewhere (Ne.symm same) negative
      obtain ⟨last, found, learned⟩ := ih
        (fun older member => emitted older (List.mem_append_left [event] member)) earlier
      refine ⟨last, ?_, learned⟩
      rw [lastRow, List.filter_append, List.filter_cons_of_neg (by simpa using same),
        List.filter_nil, List.append_nil]
      exact found

/-- With room for every key, a key whose last row learned it is a negative again. -/
theorem rebuild_negative (emitted : ∀ event ∈ events, Emitted revision event)
    {event : CapabilityEvent} (last : lastRow events key = some event)
    (learned : event.verdict ≠ Verdict.cleared.asStr) (prior : List CapabilityEvent)
    (booted decay inferredWindow : Nat) :
    negativeAt (rebuildCapabilitiesInto
      (ledgerReader (prior ++ .tombstone booted revision :: events))
      (.new decay inferredWindow (events.map CapabilityEvent.key).toFinset.card)).1 key = true := by
  obtain ⟨before, rows⟩ := List.getLast?_eq_some_iff.mp last
  have member : event ∈ events.filter fun event => event.key = key := by simp [rows]
  have plain := emitted event (List.mem_filter.mp member).1
  let tuning : RegistryTuning :=
    ⟨decay, inferredWindow, (events.map CapabilityEvent.key).toFinset.card⟩
  have slot : (rebuildCapabilitiesInto
      (ledgerReader (prior ++ .tombstone booted revision :: events))
        (.new tuning.decay tuning.inferredWindow tuning.maxEntries)).1.entries.lookup key =
      (events.filter fun event => event.key = key).foldl (eventSlot tuning) none :=
    rebuild_lookup (fun event member => (emitted event member).current) prior booted
      (events.map CapabilityEvent.key).toFinset
      (fun event member => List.mem_toFinset.mpr (List.mem_map_of_mem member))
      (Nat.le_max_left _ 1) key
  rw [rows, List.foldl_append, List.foldl_cons, List.foldl_nil] at slot
  have older (event : CapabilityEvent) (inside : event ∈ before) : Emitted revision event := by
    have kept : event ∈ events.filter fun event => event.key = key := by simp [rows, inside]
    exact emitted event (List.mem_filter.mp kept).1
  have earlier : Unverified (before.foldl (eventSlot tuning) none) :=
    foldl_eventSlot_unverified tuning (fun _ held => by cases held) older
  unfold negativeAt
  rw [slot]
  cases plain with
  | learned now event =>
    rw [eventSlot_learned]
    exact decide_eq_true (observeSlot_side earlier)
  | cleared now event => exact absurd rfl learned

end Rows

namespace Delivery
variable {hasher : RegistryKey → Nat → Nat} {revision : Revision} {delivery : Delivery}
  {key : RegistryKey}

theorem Ordered.lastRow_eq (ordered : delivery.Ordered revision) (key : RegistryKey) :
    lastRow delivery.writer.rows key = (delivery.lastAppended key).map Flight.event := by
  rw [lastRow, lastAppended, ordered.rows, List.filter_map, List.getLast?_map]
  rfl

theorem Ordered.row_emitted (ordered : delivery.Ordered revision) {event : CapabilityEvent}
    (member : event ∈ delivery.writer.rows) : Emitted revision event := by
  rw [ordered.rows] at member
  obtain ⟨flight, appended, rfl⟩ := List.mem_map.mp member
  exact ordered.emitted flight (List.mem_append_right delivery.flights appended)

/-- The last row of a key is that of its newest mutation, or was overtaken by it. -/
theorem Ordered.held_of_learned (ordered : delivery.Ordered revision)
    (current : ¬delivery.Overtaken key) {flight : Flight}
    (last : delivery.lastAppended key = some flight)
    (learned : flight.event.verdict ≠ Verdict.cleared.asStr) : delivery.held key = true := by
  have member := List.mem_of_getLast? last
  obtain ⟨appended, same⟩ := List.mem_filter.mp member
  obtain ⟨mark, found, below, newest⟩ :=
    ordered.known flight (List.mem_append_right delivery.flights appended)
  rw [of_decide_eq_true same] at found
  have negative : mark.negative = true := by
    rcases Nat.lt_or_eq_of_le below with older | level
    · by_contra cleared
      exact current ⟨flight, mark, last, learned, found, older, by simpa using cleared⟩
    · exact newest learned level
  rw [held, found]
  exact negative

/-- In every run, what the appended rows rebuild holds a negative only where the live
registry held one after the key's newest mutation, exactly when no key's last row
is a learn that a newer clear has overtaken. -/
theorem cleared_stay_cleared_iff (decay inferredWindow maxEntries : Nat)
    (actions : List DeliveryAction)
    (reached : (machine hasher revision).run (initial decay inferredWindow maxEntries) actions =
      some delivery) (prior : List CapabilityEvent) (booted : Nat) :
    (∀ tuning key, negativeAt (delivery.restarted prior booted revision tuning) key = true →
      delivery.held key = true) ↔
    ∀ key, ¬delivery.Overtaken key := by
  have ordered : delivery.Ordered revision :=
    step_ordered.run _ (initial_ordered revision decay inferredWindow maxEntries) reached
  have emitted (event : CapabilityEvent) (member : event ∈ delivery.writer.rows) :
      Emitted revision event := ordered.row_emitted member
  constructor
  · rintro stays key ⟨flight, mark, last, learned, found, -, cleared⟩
    have row : lastRow delivery.writer.rows key = some flight.event := by
      rw [ordered.lastRow_eq, last, Option.map_some]
    have held := stays ⟨decay, inferredWindow,
      (delivery.writer.rows.map CapabilityEvent.key).toFinset.card⟩ key
      (rebuild_negative emitted row learned prior booted decay inferredWindow)
    rw [Delivery.held, found, Option.any_some, cleared] at held
    cases held
  · intro current tuning key negative
    rw [restarted, rebuild_fold (fun event member => (emitted event member).current)] at negative
    obtain ⟨event, row, learned⟩ := foldl_replayEvent_negative emitted rfl negative
    rw [ordered.lastRow_eq] at row
    obtain ⟨flight, last, rfl⟩ := Option.map_eq_some_iff.mp row
    exact ordered.held_of_learned (current key) last learned

section Sample

def webSearchKey : RegistryKey := ⟨"lane", "web_search"⟩

/-- A request learns the negative; a later one is granted its re-probe and clears it. -/
def learnedThenCleared : List DeliveryAction :=
  [.request .arrive,
   .request (.reject 0
     { featureKey := "web_search", tier := .selfIdentifying, phase := .f1, failure := .badRequest,
       stateKey := "lane", providerKind := "openai-compat", requestFeatures := ["web_search"],
       masked := false, canonical := normalizeCapabilityKey_other compat_ne_bedrock _ } 0),
   .request .arrive, .request (.admission 1 "lane" "web_search" "openai-compat" 60),
   .request (.clear 1 0 61)]

def deliveryAfter (actions : List DeliveryAction) : Delivery :=
  ((machine (fun _ _ => 0) ⟨1, 1⟩).run (initial 48 10 4) actions).getD (initial 48 10 4)

def inOrder : List DeliveryAction := learnedThenCleared ++ [.deliver 0 true, .deliver 0 true]

def clearFirst : List DeliveryAction := learnedThenCleared ++ [.deliver 1 true, .deliver 0 true]

/-- Appended in the order of the mutations, the clear holds. -/
theorem cleared_in_order_stays_cleared :
    negativeAt ((deliveryAfter inOrder).restarted [] 0 ⟨1, 1⟩ ⟨48, 10, 4⟩) webSearchKey = false := by
  have reached : (machine (fun _ _ => 0) ⟨1, 1⟩).run (initial 48 10 4) inOrder =
      some (deliveryAfter inOrder) := rfl
  have current (key : RegistryKey) : ¬(deliveryAfter inOrder).Overtaken key := by
    rintro ⟨flight, mark, last, learned, -⟩
    obtain ⟨appended, own⟩ := List.mem_filter.mp (List.mem_of_getLast? last)
    have same : flight.event.key = webSearchKey := by
      rcases List.mem_pair.mp appended with rfl | rfl <;> rfl
    obtain rfl : webSearchKey = key := same.symm.trans (of_decide_eq_true own)
    obtain rfl := Option.some.inj last
    exact learned rfl
  have stays := (cleared_stay_cleared_iff 48 10 4 inOrder reached [] 0).mpr current ⟨48, 10, 4⟩
    webSearchKey
  exact Bool.eq_false_iff.mpr fun negative => absurd (stays negative) (by decide)

/-- Behind the row of the clear, the row of the learn brings the negative back. -/
theorem delayed_learn_outlives_its_clear :
    (machine (fun _ _ => 0) ⟨1, 1⟩).run (initial 48 10 4) clearFirst =
        some (deliveryAfter clearFirst) ∧
      (deliveryAfter clearFirst).flights = [] ∧
      (deliveryAfter clearFirst).held webSearchKey = false ∧
      negativeAt ((deliveryAfter clearFirst).restarted [] 0 ⟨1, 1⟩ ⟨48, 10, 4⟩) webSearchKey =
        true := by
  refine ⟨rfl, rfl, rfl, ?_⟩
  unfold restarted
  rw [rebuild_fold]
  · rfl
  · intro event member
    rcases List.mem_pair.mp member with rfl | rfl <;> exact ⟨by decide, rfl⟩

end Sample
end Delivery
end Routectl.Learn
