import Routectl.Learn.Fidelity

/-! Restart fidelity: a run of requests on one revision, and the registry its
emitted rows rebuild, act on the same keys until a step corroborates. -/
namespace Routectl.Learn
open Routectl.Core Library Registry Ledger

section Rows
variable {tuning : RegistryTuning} {slot : Option LearnedEntry} {revision : Revision} {now : Nat}

theorem eventSlot_rejected (rejection : Rejection) :
    eventSlot tuning slot (rejectedRow rejection now revision) =
      some (observeSlot tuning slot rejection.tier rejection.phase .live none now).1 := by
  simp [eventSlot, replaySlot, mapRow, rejectedRow, Verdict.asStr, parseTierPhase]

theorem replayEvent_cleared (registry : LearnedCapabilityRegistry)
    (event : CapabilityClearedEvent) :
    replayEvent registry (clearedRow now revision event) =
      { registry with
        entries := registry.entries.erase ⟨event.stateKey, event.capabilityKey⟩ } := by
  simp [replayEvent, replayRow, mapRow, clearedRow, Verdict.asStr,
    LearnedCapabilityRegistry.removeKeyed, removeKeyedIn, makeKey, normalizeCapabilityKey]

theorem replayEvent_touches {registry : LearnedCapabilityRegistry} (event : CapabilityEvent)
    (room : HasRoom registry event.key) :
    Touches registry (replayEvent registry event) event.key
      ((eventSlot registry.tuning (registry.entries.lookup event.key) event).map entryStatus) := by
  have replayed := replayEvent_replayed registry event
  refine ⟨replayed.tuning, replayed.pending, replayed.leases, ?_, ?_⟩
  · rw [status, replayed.own]
  · intro other different
    rw [status, replayed.others room other different, status]

end Rows

/-- The rebuild of a ledger some flights are appended to. -/
def replayFlights (rebuilt : LearnedCapabilityRegistry) (flights : List Flight) :
    LearnedCapabilityRegistry := (flights.map Flight.event).foldl replayEvent rebuilt

/-- A resident entry that does not act yet. -/
def Pending (registry : LearnedCapabilityRegistry) (key : RegistryKey) (entry : LearnedEntry) :
    Prop := registry.entries.lookup key = some entry ∧ entry.isActing = false

/-- The live side starts acting on evidence that leaves no row, or one row where
the rebuild needs two. -/
def Disposition.corroborates (registry : LearnedCapabilityRegistry) (rejection : Rejection)
    (now : Nat) : Disposition → Prop
  | .dropped => False
  | .settles admission =>
    SettlementAccepted registry admission ∧
      ∃ entry, Pending registry admission.key entry ∧ entry.observations = 1
  | .observes =>
    registry.nextIncarnation < u64Max ∧ rejection.tier = .inferred ∧
      ∃ entry, Pending registry rejection.key entry ∧
        now - entry.firstSeen ≤ registry.tuning.inferredWindow

section Accesses
variable {hasher : RegistryKey → Nat → Nat} {live rebuilt : LearnedCapabilityRegistry}
  {revision : Revision} {now : Nat}

theorem Shadows.lookup_negative (shadows : Shadows live rebuilt) {key : RegistryKey}
    {entry : LearnedEntry} (resident : live.entries.lookup key = some entry) :
    entry.verdict = .negative := by
  apply shadows.negative key entry.verdict entry.isActing
  simp [status, resident, entryStatus]

/-- A step that moves no status on the live side. -/
theorem Shadows.unmoved (shadows : Shadows live rebuilt) {after : LearnedCapabilityRegistry}
    {key : RegistryKey} (touches : Touches live after key (status live key)) :
    Shadows after rebuilt ∧ (Faithful live rebuilt → Faithful after rebuilt) := by
  have follows := Touches.same rebuilt key
  have room : status live key = none ∨ HasRoom live key := by
    by_cases missing : live.entries.lookup key = none
    · exact .inl (status_eq_none.mpr missing)
    · exact .inr (.inl missing)
  have next := shadows.moved touches follows room (shadows.negative key) (shadows.shadowed key)
  refine ⟨next, fun faithful => ?_⟩
  exact (faithful.moved shadows touches follows next).mpr (shadows.faithful_iff.mp faithful key)

theorem shadows_looked (shadows : Shadows live rebuilt)
    (stateKey featureKeyRaw providerKind : String) (generation now : Nat) :
    Shadows (live.actingNegativeInGeneration generation stateKey featureKeyRaw providerKind now).1
        rebuilt ∧
      (Faithful live rebuilt →
        Faithful (live.actingNegativeInGeneration generation stateKey featureKeyRaw providerKind
          now).1 rebuilt) :=
  shadows.unmoved (looked_touches stateKey featureKeyRaw providerKind generation now)

/-- A transient outcome releases the slot and moves nothing. -/
theorem shadows_released (shadows : Shadows live rebuilt) (hasher : RegistryKey → Nat → Nat)
    (admission : ProbeAdmission) (now : Nat) :
    Shadows (settleAdmission hasher live admission .otherError now).1 rebuilt ∧
      (Faithful live rebuilt →
        Faithful (settleAdmission hasher live admission .otherError now).1 rebuilt) := by
  by_cases accepted : SettlementAccepted live admission
  · have touches : Touches live (settleAdmission hasher live admission .otherError now).1 _ _ :=
      settled_touches accepted .otherError now
    have same : (settleSlot live.tuning hasher admission.key (live.entries.lookup admission.key)
        .otherError now).map entryStatus = status live admission.key := by
      unfold settleSlot status
      cases live.entries.lookup admission.key <;> rfl
    exact shadows.unmoved (same ▸ touches)
  · exact shadows.unmoved (unsettled_touches accepted .otherError now)

/-- A key that starts acting with nothing rebuilt for it. -/
theorem Shadows.outrun (shadows : Shadows live rebuilt) {after : LearnedCapabilityRegistry}
    {key : RegistryKey} (idle : status live key ≠ some (.negative, true))
    (resident : live.entries.lookup key ≠ none)
    (touches : Touches live after key (some (.negative, true))) :
    Shadows after rebuilt ∧ (Faithful live rebuilt → ¬Faithful after rebuilt) := by
  have follows := Touches.same rebuilt key
  have unrebuilt := shadows.unrebuilt idle
  have next := shadows.moved touches follows (.inr (.inl resident))
    (fun side acting held => (congrArg Prod.fst (Option.some.inj held)).symm)
    (fun held image => by
      rw [unrebuilt] at image
      cases image)
  refine ⟨next, fun faithful => ?_⟩
  rw [faithful.moved shadows touches follows next, unrebuilt]
  simp

theorem refusedProbe_status (tuning : RegistryTuning) (key : RegistryKey) (entry : LearnedEntry) :
    entryStatus (refusedProbe tuning hasher key now entry) =
      (entry.verdict, entry.isActing || decide (entry.observations = 1)) := by
  have counted : 2 ≤ saturatingSucc entry.observations ↔
      2 ≤ entry.observations ∨ entry.observations = 1 := by
    simp only [saturatingSucc, u32Max]
    omega
  refine Prod.ext rfl (Bool.eq_iff_iff.mpr ?_)
  simp only [entryStatus, LearnedEntry.isActing, Bool.or_eq_true, decide_eq_true_eq]
  simp only [refusedProbe, counted, or_assoc]

/-- A refused re-probe makes a pending entry act, and leaves no row. -/
theorem shadows_refused (shadows : Shadows live rebuilt) (hasher : RegistryKey → Nat → Nat)
    (rejection : Rejection) (admission : ProbeAdmission) (now : Nat) :
    Shadows (settleAdmission hasher live admission .sameCapabilityRejection now).1 rebuilt ∧
      (Faithful live rebuilt →
        (Faithful (settleAdmission hasher live admission .sameCapabilityRejection now).1 rebuilt ↔
          ¬(Disposition.settles admission).corroborates live rejection now)) := by
  by_cases accepted : SettlementAccepted live admission
  · have touches : Touches live
        (settleAdmission hasher live admission .sameCapabilityRejection now).1 _ _ :=
      settled_touches accepted .sameCapabilityRejection now
    cases resident : live.entries.lookup admission.key with
    | none =>
      have idle : ¬(Disposition.settles admission).corroborates live rejection now := by
        rintro ⟨_, entry, ⟨held, _⟩, _⟩
        rw [resident] at held
        cases held
      have same : status live admission.key = none := status_eq_none.mpr resident
      rw [resident, settleSlot, Option.map_none, Option.map_none, ← same] at touches
      obtain ⟨next, faithful⟩ := shadows.unmoved touches
      exact ⟨next, fun before => iff_of_true (faithful before) idle⟩
    | some entry =>
      have negative := shadows.lookup_negative resident
      have before : status live admission.key = some (.negative, entry.isActing) := by
        simp [status, resident, entryStatus, negative]
      rw [resident, settleSlot, Option.map_some, Option.map_some, refusedProbe_status, negative] at touches
      by_cases starts : entry.isActing = false ∧ entry.observations = 1
      · obtain ⟨pending, once⟩ := starts
        have idle : status live admission.key ≠ some (.negative, true) := by simp [before, pending]
        rw [pending, once] at touches
        obtain ⟨next, outrun⟩ := shadows.outrun idle (by simp [resident]) touches
        refine ⟨next, fun faithful => iff_of_false (outrun faithful) ?_⟩
        exact fun still => still ⟨accepted, entry, ⟨resident, pending⟩, once⟩
      · have same : some (EntryVerdict.negative,
            entry.isActing || decide (entry.observations = 1)) = status live admission.key := by
          rw [before]
          cases acting : entry.isActing with
          | true => rfl
          | false => simp [show entry.observations ≠ 1 from fun once => starts ⟨acting, once⟩]
        obtain ⟨next, faithful⟩ := shadows.unmoved (same ▸ touches)
        refine ⟨next, fun before => iff_of_true (faithful before) ?_⟩
        rintro ⟨_, held, ⟨found, pending⟩, once⟩
        obtain rfl := Option.some.inj (resident.symm.trans found)
        exact starts ⟨pending, once⟩
  · obtain ⟨next, faithful⟩ :=
      shadows.unmoved (unsettled_touches accepted .sameCapabilityRejection now)
    exact ⟨next, fun before => iff_of_true (faithful before) fun still => accepted still.1⟩

/-- An accepted success removes the entry on both sides. -/
theorem shadows_cleared (shadows : Shadows live rebuilt) (hasher : RegistryKey → Nat → Nat)
    (revision : Revision) (admission : ProbeAdmission) (now : Nat) :
    Shadows (settleAdmission hasher live admission .success now).1
        (replayFlights rebuilt ((LearnedProbeGuard.clearedEvent admission
          (settleAdmission hasher live admission .success now).2).map
            (clearedFlight now revision)).toList) ∧
      (Faithful live rebuilt →
        Faithful (settleAdmission hasher live admission .success now).1
          (replayFlights rebuilt ((LearnedProbeGuard.clearedEvent admission
            (settleAdmission hasher live admission .success now).2).map
              (clearedFlight now revision)).toList)) := by
  by_cases accepted : SettlementAccepted live admission
  · have touches : Touches live (settleAdmission hasher live admission .success now).1
        admission.key none := settled_touches accepted .success now
    obtain ⟨value, incarnation, granted, applied⟩ :=
      (settleAdmission_applied_iff hasher live admission .success now).mpr accepted
    have follows : Touches rebuilt { rebuilt with entries := rebuilt.entries.erase admission.key }
        admission.key none := by
      refine ⟨rfl, rfl, rfl, ?_, ?_⟩
      · simp [status, AList.lookup_erase]
      · intro other different
        simp [status, AList.lookup_erase_ne different]
    have next := shadows.moved touches follows (.inl rfl) (fun _ _ held => by cases held)
      (fun held image => by cases image)
    rw [applied]
    simp only [LearnedProbeGuard.clearedEvent, Option.map_some, Option.toList_some, replayFlights,
      List.map_cons, List.map_nil, List.foldl_cons, List.foldl_nil, clearedFlight,
      replayEvent_cleared]
    refine ⟨next, fun faithful => ?_⟩
    exact (faithful.moved shadows touches follows next).mpr fun held => by cases held
  · have silent : LearnedProbeGuard.clearedEvent admission
        (settleAdmission hasher live admission .success now).2 = none := by
      cases settled : (settleAdmission hasher live admission .success now).2 with
      | applied value incarnation granted =>
        exact absurd ((settleAdmission_applied_iff hasher live admission .success now).mp
          ⟨value, incarnation, granted, settled⟩) accepted
      | stale => rfl
      | exhausted => rfl
      | reserved => rfl
    rw [silent]
    exact shadows.unmoved (unsettled_touches accepted .success now)

theorem rejectedSlot_status (shadows : Shadows live rebuilt) (rejection : Rejection) :
    entryStatus (rejectedSlot live rejection now).1 =
      (.negative, (rejectedSlot live rejection now).1.isActing) :=
  Prod.ext (observeSlot_side fun _ resident => shadows.lookup_negative resident) rfl

/-- What a rejection leaves acts when the entry already acted, when it identifies
itself, or when it corroborates a pending entry in time. -/
theorem rejectedSlot_acts (shadows : Shadows live rebuilt) (rejection : Rejection) :
    (rejectedSlot live rejection now).1.isActing = true ↔
      status live rejection.key = some (.negative, true) ∨ rejection.tier = .selfIdentifying ∨
        ∃ entry, Pending live rejection.key entry ∧
          now - entry.firstSeen ≤ live.tuning.inferredWindow := by
  unfold rejectedSlot Pending status
  cases resident : live.entries.lookup rejection.key with
  | none =>
    rw [observeSlot_fresh_acts]
    simp
  | some entry =>
    have negative := shadows.lookup_negative resident
    cases acting : entry.isActing with
    | true =>
      apply iff_of_true (observeSlot_acting_acts negative acting)
      exact .inl (by simp [entryStatus, negative, acting])
    | false =>
      rw [observeSlot_pending_acts negative acting]
      simp [entryStatus, acting]

/-- The rebuilt entry of a row whose key had none acts only on a row that
identifies itself. -/
theorem rejectedRow_image (shadows : Shadows live rebuilt) (rejection : Rejection) (now : Nat)
    (revision : Revision) :
    ∃ acting, (eventSlot rebuilt.tuning (rebuilt.entries.lookup rejection.key)
        (rejectedRow rejection now revision)).map entryStatus = some (.negative, acting) ∧
      (status rebuilt rejection.key = some (.negative, true) → acting = true) ∧
      (status rebuilt rejection.key = none →
        (acting = true ↔ rejection.tier = .selfIdentifying)) := by
  rw [eventSlot_rejected, Option.map_some]
  have negative (entry : LearnedEntry)
      (resident : rebuilt.entries.lookup rejection.key = some entry) : entry.verdict = .negative :=
    (shadows.shadowed rejection.key (entryStatus entry) (by simp [status, resident])).1
  refine ⟨_, congrArg some (Prod.ext (observeSlot_side negative) rfl), ?_, ?_⟩
  · intro acts
    obtain ⟨entry, resident, same⟩ := Option.map_eq_some_iff.mp acts
    rw [resident]
    exact observeSlot_acting_acts (negative entry resident) (congrArg Prod.snd same)
  · intro missing
    rw [status_eq_none.mp missing]
    exact observeSlot_fresh_acts

theorem Pending.idle {key : RegistryKey} {entry : LearnedEntry} (pending : Pending live key entry) :
    status live key ≠ some (.negative, true) := by
  obtain ⟨resident, idle⟩ := pending
  simp [status, resident, entryStatus, idle]

/-- An observation keeps the two sides together unless it corroborates: the one
row it emits then leaves the rebuilt entry pending. -/
theorem shadows_observed (shadows : Shadows live rebuilt) (revision : Revision)
    (rejection : Rejection) (now : Nat) (room : HasRoom live rejection.key) :
    Shadows (observeRejection live live.generation rejection now).1
        ((mintedRows live rejection now revision).foldl replayEvent rebuilt) ∧
      (Faithful live rebuilt →
        (Faithful (observeRejection live live.generation rejection now).1
            ((mintedRows live rejection now revision).foldl replayEvent rebuilt) ↔
          ¬Disposition.observes.corroborates live rejection now)) := by
  rcases Nat.lt_or_ge live.nextIncarnation u64Max with counter | full
  · have observed : _ ∧ mintedRows live rejection now revision = _ :=
      observed_touches shadows.quiet room counter
    obtain ⟨touches, rows⟩ := observed
    have acts : (rejectedSlot live rejection now).1.isActing = true ↔ _ :=
      rejectedSlot_acts shadows rejection
    have outcome : (rejectedSlot live rejection now).2 = .acting ↔ _ :=
      observeSlot_outcome fun _ resident => shadows.lookup_negative resident
    rw [rejectedSlot_status shadows] at touches
    cases acted : (rejectedSlot live rejection now).1.isActing with
    | false =>
      have idle : status live rejection.key ≠ some (.negative, true) := by
        intro acting
        rw [acts.mpr (.inl acting)] at acted
        cases acted
      have silent : ¬(rejectedSlot live rejection now).2 = .acting := by
        intro acting
        have still := outcome.mp acting
        unfold rejectedSlot at acted
        rw [still] at acted
        cases acted
      have unrebuilt := shadows.unrebuilt idle
      have follows := Touches.same rebuilt rejection.key
      rw [acted] at touches
      rw [rows, if_neg silent, List.foldl_nil]
      have next := shadows.moved touches follows (.inr room)
        (fun side acting held => (congrArg Prod.fst (Option.some.inj held)).symm)
        (fun held image => by
          rw [unrebuilt] at image
          cases image)
      refine ⟨next, fun faithful => iff_of_true ?_ ?_⟩
      · apply (faithful.moved shadows touches follows next).mpr
        intro acting
        simp at acting
      · rintro ⟨_, _, pending⟩
        rw [acts.mpr (.inr (.inr pending))] at acted
        cases acted
    | true =>
      have emits : (rejectedSlot live rejection now).2 = .acting := outcome.mpr acted
      obtain ⟨acting, image, held, fresh⟩ := rejectedRow_image shadows rejection now revision
      have follows : Touches rebuilt (replayEvent rebuilt (rejectedRow rejection now revision))
          rejection.key (some (.negative, acting)) :=
        image ▸ replayEvent_touches (rejectedRow rejection now revision) (shadows.hasRoom room)
      rw [acted] at touches
      rw [rows, if_pos emits, List.foldl_cons, List.foldl_nil]
      have next := shadows.moved touches follows (.inr room)
        (fun side acting held => (congrArg Prod.fst (Option.some.inj held)).symm)
        (fun slot image => ⟨(congrArg Prod.fst (Option.some.inj image)).symm, rfl⟩)
      refine ⟨next, fun faithful => ?_⟩
      rw [faithful.moved shadows touches follows next]
      by_cases already : status live rejection.key = some (.negative, true)
      · apply iff_of_true
        · intro _
          rw [held (shadows.faithful_iff.mp faithful _ already)]
        · rintro ⟨_, _, entry, pending, _⟩
          exact pending.idle already
      · have self := fresh (shadows.unrebuilt already)
        constructor
        · rintro follows' ⟨_, inferred, _⟩
          have identified := self.mp (congrArg Prod.snd (Option.some.inj (follows' rfl)))
          rw [inferred] at identified
          cases identified
        · intro lone _
          rcases acts.mp acted with before | identified | corroborated
          · exact absurd before already
          · rw [self.mpr identified]
          · cases tier : rejection.tier with
            | selfIdentifying => rw [self.mpr tier]
            | inferred => exact absurd ⟨counter, tier, corroborated⟩ lone
  · have unobserved : _ ∧ mintedRows live rejection now revision = [] :=
      unobserved_touches shadows.quiet full
    obtain ⟨touches, silent⟩ := unobserved
    obtain ⟨next, faithful⟩ := shadows.unmoved touches
    rw [silent]
    refine ⟨next, fun before => iff_of_true (faithful before) ?_⟩
    exact fun still => absurd still.1 (Nat.not_lt.mpr full)

end Accesses

instance HasRoom.decidable (registry : LearnedCapabilityRegistry) (key : RegistryKey) :
    Decidable (HasRoom registry key) := inferInstanceAs (Decidable (_ ∨ _))

namespace Session

/-- The action would observe a new key in a full registry. -/
def evicts (session : Session) : SessionAction → Bool
  | .reject index rejection _ =>
    match session.attempts[index]? with
    | none => false
    | some attempt =>
      match disposition rejection attempt.dedupe attempt.guard with
      | .observes => !decide (HasRoom session.registry rejection.key)
      | .dropped | .settles _ => false
  | _ => false

def corroborates (session : Session) : SessionAction → Prop
  | .reject index rejection now =>
    ∃ attempt, session.attempts[index]? = some attempt ∧
      (disposition rejection attempt.dedupe attempt.guard).corroborates session.registry rejection now
  | _ => False

/-- Requests on one revision, as long as nothing is evicted. -/
def machine (hasher : RegistryKey → Nat → Nat) (revision : Revision) :
    Machine Session SessionAction :=
  ⟨fun session action => if session.evicts action then none else session.act hasher revision action⟩

/-- The rebuild of an empty registry from the rows emitted since the tombstone. -/
def restarted (session : Session) (prior : List CapabilityEvent) (booted : Nat)
    (revision : Revision) (tuning : RegistryTuning) : LearnedCapabilityRegistry :=
  (rebuildCapabilitiesInto
    (ledgerReader (prior ++ .tombstone booted revision :: session.emitted.map Flight.event))
    (.new tuning.decay tuning.inferredWindow tuning.maxEntries)).1

end Session

section Runs
variable {hasher : RegistryKey → Nat → Nat} {revision : Revision} {tuning : RegistryTuning}
  {session next : Session} {action : SessionAction}

/-- The emitted rows are plain rows of the revision, and what they rebuild shadows
the live registry. -/
structure Tracked (revision : Revision) (tuning : RegistryTuning) (session : Session) : Prop where
  current : ∀ flight ∈ session.emitted,
    flight.event.verdict ≠ "tombstone" ∧ flight.event.revision = revision
  shadows : Shadows session.registry
    (replayFlights (.new tuning.decay tuning.inferredWindow tuning.maxEntries) session.emitted)

theorem Tracked.restarted (tracked : Tracked revision tuning session) (prior : List CapabilityEvent)
    (booted : Nat) : session.restarted prior booted revision tuning =
      replayFlights (.new tuning.decay tuning.inferredWindow tuning.maxEntries) session.emitted := by
  apply rebuild_fold _ prior booted
  intro event member
  obtain ⟨flight, present, rfl⟩ := List.mem_map.mp member
  exact tracked.current flight present

theorem replayFlights_append (rebuilt : LearnedCapabilityRegistry) (first second : List Flight) :
    replayFlights rebuilt (first ++ second) = replayFlights (replayFlights rebuilt first) second := by
  simp [replayFlights]

/-- What one access and its flights must show for a step to be settled. -/
theorem Tracked.extend (tracked : Tracked revision tuning session) {flights : List Flight}
    (emitted : next.emitted = session.emitted ++ flights)
    (current : ∀ flight ∈ flights,
      flight.event.verdict ≠ "tombstone" ∧ flight.event.revision = revision)
    (shadows : Shadows next.registry (replayFlights
      (replayFlights (.new tuning.decay tuning.inferredWindow tuning.maxEntries) session.emitted)
      flights)) : Tracked revision tuning next where
  current := by
    intro flight member
    rw [emitted] at member
    rcases List.mem_append.mp member with older | fresh
    · exact tracked.current flight older
    · exact current flight fresh
  shadows := by
    rw [emitted, replayFlights_append]
    exact shadows

/-- The registry the emitted rows have rebuilt so far. -/
def Session.image (session : Session) (tuning : RegistryTuning) : LearnedCapabilityRegistry :=
  replayFlights (.new tuning.decay tuning.inferredWindow tuning.maxEntries) session.emitted

theorem Session.image_extend {flights : List Flight}
    (emitted : next.emitted = session.emitted ++ flights) :
    next.image tuning = replayFlights (session.image tuning) flights := by
  rw [image, emitted, replayFlights_append]
  rfl

theorem reject_tracked (tracked : Tracked revision tuning session) {index : Nat}
    {rejection : Rejection} {now : Nat}
    (roomy : session.evicts (.reject index rejection now) = false)
    (step : session.act hasher revision (.reject index rejection now) = some next) :
    Tracked revision tuning next ∧ (Faithful session.registry (session.image tuning) →
      (Faithful next.registry (next.image tuning) ↔
        ¬session.corroborates (.reject index rejection now))) := by
  obtain ⟨attempt, present, registry, emitted⟩ := act_reject step
  have guard : session.corroborates (.reject index rejection now) ↔
      (disposition rejection attempt.dedupe attempt.guard).corroborates session.registry rejection
        now := by
    constructor
    · rintro ⟨other, found, corroborates⟩
      obtain rfl := Option.some.inj (present.symm.trans found)
      exact corroborates
    · exact fun corroborates => ⟨attempt, present, corroborates⟩
  rw [guard, Session.image_extend emitted, ← registry]
  cases decided : disposition rejection attempt.dedupe attempt.guard with
  | dropped =>
    rw [decided] at emitted registry
    have next := tracked.extend emitted (by simp [Disposition.effect]) (registry ▸ tracked.shadows)
    exact ⟨next, fun faithful => iff_of_true faithful id⟩
  | settles admission =>
    rw [decided] at emitted registry
    obtain ⟨shadows, faithful⟩ := shadows_refused tracked.shadows hasher rejection admission now
    have next := tracked.extend emitted (by simp [Disposition.effect]) (registry ▸ shadows)
    exact ⟨next, faithful⟩
  | observes =>
    rw [decided] at emitted registry
    have room : HasRoom session.registry rejection.key := by
      simpa [Session.evicts, present, decided] using roomy
    obtain ⟨shadows, faithful⟩ := shadows_observed tracked.shadows revision rejection now room
    have rows (rebuilt : LearnedCapabilityRegistry) : replayFlights rebuilt
        ((Disposition.observes.effect hasher session.registry session.registry.generation rejection
          now).2.map (learnedFlight now revision)).toList =
        (mintedRows session.registry rejection now revision).foldl replayEvent rebuilt := by
      simp only [replayFlights, mintedRows, Disposition.effect, Option.toList_map, List.map_map]
      rfl
    have current : ∀ flight ∈ ((Disposition.observes.effect hasher session.registry
        session.registry.generation rejection now).2.map (learnedFlight now revision)).toList,
        flight.event.verdict ≠ "tombstone" ∧ flight.event.revision = revision := by
      intro flight member
      obtain ⟨event, _, rfl⟩ := Option.map_eq_some_iff.mp (Option.mem_toList.mp member)
      exact learnedFlight_current now event
    rw [rows]
    refine ⟨tracked.extend emitted current ?_, faithful⟩
    rw [rows, ← registry]
    exact shadows

theorem step_tracked (tracked : Tracked revision tuning session)
    (step : (Session.machine hasher revision).step session action = some next) :
    Tracked revision tuning next ∧ (Faithful session.registry (session.image tuning) →
      (Faithful next.registry (next.image tuning) ↔ ¬session.corroborates action)) := by
  simp only [Session.machine] at step
  split at step
  · cases step
  · rename_i roomy
    by_cases rejects : ∃ index rejection now, action = .reject index rejection now
    · obtain ⟨index, rejection, now, rfl⟩ := rejects
      exact reject_tracked tracked (by simpa using roomy) step
    · have other : ∀ index rejection now, action ≠ .reject index rejection now := by
        intro index rejection now same
        exact rejects ⟨index, rejection, now, same⟩
      have lone : ¬session.corroborates action := by
        cases action with
        | reject index rejection now => exact absurd rfl (other index rejection now)
        | arrive => exact id
        | admission index stateKey featureKeyRaw providerKind now => exact id
        | clear index position now => exact id
        | release index position now => exact id
      obtain ⟨flights, acted, emitted⟩ := act_acted other step
      rw [Session.image_extend emitted]
      have settle (current : ∀ flight ∈ flights,
            flight.event.verdict ≠ "tombstone" ∧ flight.event.revision = revision)
          (kept : Shadows next.registry (replayFlights (session.image tuning) flights) ∧
            (Faithful session.registry (session.image tuning) →
              Faithful next.registry (replayFlights (session.image tuning) flights))) :
          Tracked revision tuning next ∧ (Faithful session.registry (session.image tuning) →
            (Faithful next.registry (replayFlights (session.image tuning) flights) ↔
              ¬session.corroborates action)) :=
        ⟨tracked.extend emitted current kept.1, fun faithful =>
          iff_of_true (kept.2 faithful) lone⟩
      generalize next.registry = registry at acted settle ⊢
      cases acted with
      | idle => exact settle (by simp) ⟨tracked.shadows, id⟩
      | looked stateKey featureKeyRaw providerKind now =>
        exact settle (by simp) (shadows_looked tracked.shadows stateKey featureKeyRaw providerKind _ now)
      | released admission now =>
        exact settle (by simp) (shadows_released tracked.shadows hasher admission now)
      | cleared admission now =>
        refine settle ?_ (shadows_cleared tracked.shadows hasher revision admission now)
        intro flight member
        obtain ⟨event, _, rfl⟩ := Option.map_eq_some_iff.mp (Option.mem_toList.mp member)
        exact clearedFlight_current now event

theorem initial_tracked {decay inferredWindow maxEntries capacity : Nat}
    (room : maxEntries ≤ capacity) :
    Tracked revision ⟨decay, inferredWindow, capacity⟩
      (Session.initial decay inferredWindow maxEntries) where
  current := fun flight member => by cases member
  shadows :=
    { quiet := ⟨rfl, rfl⟩
      capacity := max_le_max room (Nat.le_refl 1)
      bounded := Nat.zero_le _
      negative := fun key side acting held => by cases held
      shadowed := fun key slot held => by cases held }

/-- A run of requests on one revision and the registry its rows rebuild act on the
same keys at every point exactly when no step of the run corroborates. -/
theorem restart_faithful_iff (hasher : RegistryKey → Nat → Nat)
    {decay inferredWindow maxEntries capacity : Nat} (room : maxEntries ≤ capacity)
    (actions : List SessionAction) (prior : List CapabilityEvent) (booted : Nat)
    (revision : Revision) :
    (∀ met, (Session.machine hasher revision).Visits
        (.initial decay inferredWindow maxEntries) actions met →
          Faithful met.registry
            (met.restarted prior booted revision ⟨decay, inferredWindow, capacity⟩)) ↔
      (Session.machine hasher revision).AllSteps
        (fun session action => ¬session.corroborates action)
        (.initial decay inferredWindow maxEntries) actions := by
  have preserves : (Session.machine hasher revision).Preserves
      (Tracked revision ⟨decay, inferredWindow, capacity⟩) :=
    fun session action next tracked step => (step_tracked tracked step).1
  have starts : Tracked revision ⟨decay, inferredWindow, capacity⟩
      (Session.initial decay inferredWindow maxEntries) := initial_tracked room
  have exactly : _ ↔ (Session.machine hasher revision).AllSteps
      (fun session action => ¬session.corroborates action)
      (.initial decay inferredWindow maxEntries) actions :=
    Machine.always_iff_allSteps (Session.machine hasher revision) preserves
      (fun session action next tracked faithful step => (step_tracked tracked step).2 faithful)
      starts fun _ => rfl
  rw [← exactly]
  apply forall_congr'
  intro met
  apply imp_congr_right
  intro visits
  rw [(preserves.visits _ starts visits).restarted prior booted]
  exact Iff.rfl

end Runs

section Sample

def webSearch (tier : SignalTier) : Rejection :=
  { featureKey := "web_search", tier, phase := .f1, failure := .badRequest, stateKey := "lane",
    providerKind := "openai-compat", requestFeatures := ["web_search"], masked := false,
    canonical := normalizeCapabilityKey_other compat_ne_bedrock _ }

def sessionAfter (actions : List SessionAction) : Session :=
  ((Session.machine (fun _ _ => 0) ⟨1, 1⟩).run (.initial 48 10 4) actions).getD (.initial 48 10 4)

def oneIdentified : List SessionAction := [.arrive, .reject 0 (webSearch .selfIdentifying) 3]

/-- A self-identifying negative acts at once, before and after the restart. -/
theorem restart_faithful_identified :
    acts ((sessionAfter oneIdentified).restarted [] 0 ⟨1, 1⟩ ⟨48, 10, 8⟩) ⟨"lane", "web_search"⟩ =
      true := by
  have room : 4 ≤ 8 := by decide
  have lone : (Session.machine (fun _ _ => 0) ⟨1, 1⟩).AllSteps
      (fun session action => ¬session.corroborates action) (.initial 48 10 4) oneIdentified := by
    refine ⟨id, ?_, trivial⟩
    rintro ⟨attempt, present, corroborates⟩
    cases present
    have inferred : SignalTier.selfIdentifying = SignalTier.inferred := corroborates.2.1
    cases inferred
  have visits : (Session.machine (fun _ _ => 0) ⟨1, 1⟩).Visits (.initial 48 10 4) oneIdentified
      (sessionAfter oneIdentified) := ⟨oneIdentified, [], rfl, rfl⟩
  have faithful := (restart_faithful_iff (fun _ _ => 0) room oneIdentified [] 0 ⟨1, 1⟩).mpr lone
    (sessionAfter oneIdentified) visits
  exact (faithful ⟨"lane", "web_search"⟩).symm

def twoInferred : List SessionAction :=
  [.arrive, .reject 0 (webSearch .inferred) 0, .arrive, .reject 1 (webSearch .inferred) 5]

/-- Corroborated inside the window, the live negative acts; its one row rebuilds a
pending entry. -/
theorem corroborated_negative_restarts_pending :
    (Session.machine (fun _ _ => 0) ⟨1, 1⟩).run (.initial 48 10 4) twoInferred =
        some (sessionAfter twoInferred) ∧
      acts (sessionAfter twoInferred).registry ⟨"lane", "web_search"⟩ = true ∧
      acts ((sessionAfter twoInferred).restarted [] 0 ⟨1, 1⟩ ⟨48, 10, 4⟩) ⟨"lane", "web_search"⟩ =
        false := by
  refine ⟨rfl, rfl, ?_⟩
  unfold Session.restarted
  rw [rebuild_fold]
  · rfl
  · intro event member
    cases List.mem_singleton.mp member
    exact ⟨by decide, rfl⟩

end Sample
end Routectl.Learn
