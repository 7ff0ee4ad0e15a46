import Routectl.Learn.Fidelity

/-! Requests and the one writer their events reach: the registry fixes the order of
the mutations, the writer's queue the order of their rows. -/
namespace Routectl.Learn
open Routectl.Core Library Registry Ledger

def negativeAt (registry : LearnedCapabilityRegistry) (key : RegistryKey) : Bool :=
  (registry.entries.lookup key).any fun entry => entry.verdict = .negative

/-- A key's mutation of highest incarnation, and whether it left a negative. -/
structure Mark where
  incarnation : Nat
  negative : Bool
deriving Repr, DecidableEq

abbrev Marks := KeyedMap RegistryKey Mark

/-- Mark a mutation, unless its key already knows a newer one. -/
def Marks.record (marks : Marks) (after : LearnedCapabilityRegistry) :
    Option (RegistryKey × EventStamp) → Marks
  | none => marks
  | some (key, stamp) =>
    if (marks.lookup key).any fun mark => stamp.incarnation ≤ mark.incarnation then marks
    else marks.insert key { incarnation := stamp.incarnation, negative := negativeAt after key }

/-- The mutation a request's action makes, by key and stamp. -/
def Session.mutation (hasher : RegistryKey → Nat → Nat) (session : Session) :
    SessionAction → Option (RegistryKey × EventStamp)
  | .arrive | .admission .. => none
  | .reject index rejection now =>
    match session.attempts[index]? with
    | none => none
    | some attempt =>
      match disposition rejection attempt.dedupe attempt.guard with
      | .dropped => none
      | .settles admission =>
        (settleAdmission hasher session.registry admission .sameCapabilityRejection
          now).2.stamp.map fun stamp => (admission.key, stamp)
      | .observes =>
        (observeRejection session.registry session.registry.generation rejection
          now).2.stamp.map fun stamp => (rejection.key, stamp)
  | .clear index position now =>
    match session.take index position with
    | none => none
    | some (admission, _) =>
      (settleAdmission hasher session.registry admission .success now).2.stamp.map
        fun stamp => (admission.key, stamp)
  | .release index position now =>
    match session.take index position with
    | none => none
    | some (admission, _) =>
      (settleAdmission hasher session.registry admission .otherError now).2.stamp.map
        fun stamp => (admission.key, stamp)

/-- `flights` are in the writer's queue, `appended` those it took, in order. -/
structure Delivery where
  session : Session
  flights : List Flight
  appended : List Flight
  writer : Writer
  marks : Marks

inductive DeliveryAction where
  | request (action : SessionAction)
  | deliver (position : Nat) (stored : Bool)

namespace Delivery

def initial (decay inferredWindow maxEntries : Nat) : Delivery :=
  { session := .initial decay inferredWindow maxEntries, flights := [], appended := [],
    writer := .empty, marks := ∅ }

variable (hasher : RegistryKey → Nat → Nat) (revision : Revision)

def step (delivery : Delivery) : DeliveryAction → Option Delivery
  | .request action =>
    (delivery.session.act hasher revision action).map fun session =>
      { delivery with
        session,
        flights := delivery.flights ++ session.emitted.drop delivery.session.emitted.length,
        marks :=
          delivery.marks.record session.registry (delivery.session.mutation hasher action) }
  | .deliver position stored =>
    match delivery.flights[position]? with
    | none => none
    | some flight =>
      match delivery.writer.persistCapabilityEvent flight.event flight.stamp stored with
      | (writer, .committed) =>
        some { delivery with
          writer, flights := delivery.flights.eraseIdx position,
          appended := delivery.appended ++ [flight] }
      | (writer, _) =>
        some { delivery with writer, flights := delivery.flights.eraseIdx position }

def machine : Machine Delivery DeliveryAction := ⟨step hasher revision⟩

def lastAppended (delivery : Delivery) (key : RegistryKey) : Option Flight :=
  (delivery.appended.filter fun flight => flight.event.key = key).getLast?

/-- The live registry held a negative of `key` after its newest mutation. -/
def held (delivery : Delivery) (key : RegistryKey) : Bool :=
  (delivery.marks.lookup key).any Mark.negative

/-- The registry a boot after `prior` rebuilds from what the writer took. -/
def restarted (delivery : Delivery) (prior : List CapabilityEvent) (booted : Nat)
    (revision : Revision) (tuning : RegistryTuning) : LearnedCapabilityRegistry :=
  (rebuildCapabilitiesInto
    (ledgerReader (prior ++ .tombstone booted revision :: delivery.writer.rows))
    (.new tuning.decay tuning.inferredWindow tuning.maxEntries)).1

/-- A key's last appended row is a learn, and a mutation newer than it had left the
key no negative. -/
def Overtaken (delivery : Delivery) (key : RegistryKey) : Prop :=
  ∃ flight mark, delivery.lastAppended key = some flight ∧
    flight.event.verdict ≠ Verdict.cleared.asStr ∧
    delivery.marks.lookup key = some mark ∧ flight.stamp.incarnation < mark.incarnation ∧
    mark.negative = false

end Delivery

/-- The rows requests append. -/
inductive Emitted (revision : Revision) : CapabilityEvent → Prop where
  | learned (now : Nat) (event : CapabilityLearnEvent) :
      Emitted revision (learnedRow now revision event)
  | cleared (now : Nat) (event : CapabilityClearedEvent) :
      Emitted revision (clearedRow now revision event)

theorem Emitted.current {revision : Revision} {event : CapabilityEvent}
    (emitted : Emitted revision event) :
    event.verdict ≠ "tombstone" ∧ event.revision = revision := by
  cases emitted with
  | learned now event => exact learnedFlight_current now event
  | cleared now event => exact clearedFlight_current now event

/-- A flight names the mutation it is stamped by; a learn leaves a negative there. -/
structure Carries (revision : Revision) (after : LearnedCapabilityRegistry)
    (mutation : Option (RegistryKey × EventStamp)) (flight : Flight) : Prop where
  emitted : Emitted revision flight.event
  stamped : mutation = some (flight.event.key, flight.stamp)
  negative : flight.event.verdict ≠ Verdict.cleared.asStr →
    negativeAt after flight.event.key = true

section Accesses
variable {hasher : RegistryKey → Nat → Nat} {registry : LearnedCapabilityRegistry}
  {revision : Revision} {now : Nat}

/-- An observation that acts is on the negative side. -/
theorem observeSlot_acting {tuning : RegistryTuning} {slot : Option LearnedEntry}
    {tier : SignalTier} {phase : FailurePhase} {source : EvidenceSource}
    {evidence : Option String}
    (acting : (observeSlot tuning slot tier phase source evidence now).2 = .acting) :
    (observeSlot tuning slot tier phase source evidence now).1.verdict = .negative := by
  cases slot with
  | none => exact observeSlot_side fun _ held => by cases held
  | some entry =>
    cases side : entry.verdict with
    | negative => exact observeSlot_side fun _ held => Option.some.inj held ▸ side
    | verified =>
      rw [observeSlot_verified side] at acting ⊢
      cases tier with
      | selfIdentifying => rfl
      | inferred => cases acting

theorem observeRejection_carries {generation : Nat} {rejection : Rejection}
    {event : CapabilityLearnEvent}
    (minted : mintedEvent rejection (observeRejection registry generation rejection now).2 =
      some event) :
    Carries revision (observeRejection registry generation rejection now).1
      ((observeRejection registry generation rejection now).2.stamp.map fun stamp =>
        (rejection.key, stamp)) (learnedFlight now revision event) := by
  rw [observeRejection_eq] at minted ⊢
  cases admitted : registry.admits generation rejection.featureKey with
  | false =>
    rw [LearnedCapabilityRegistry.guardedKeyed_stale admitted] at minted
    cases minted
  | true =>
    by_cases leased : rejection.key ∈ registry.purgeLeases
    · rw [LearnedCapabilityRegistry.guardedKeyed_reserved admitted leased] at minted
      cases minted
    · rcases Nat.lt_or_ge registry.nextIncarnation u64Max with room | full
      · rw [LearnedCapabilityRegistry.guardedKeyed_mutate admitted leased room] at minted ⊢
        have spec : _ ∧ _ ∧ Frame registry.purgeLeases rejection.key registry.entries
            (observeIn registry.tuning registry.entries registry.purgeLeases rejection.key
              rejection.tier rejection.phase .live none now).1 :=
          observeIn_spec rejection.tier rejection.phase .live none now
        obtain ⟨own, outcome, -⟩ := spec
        have slot : (observeBody registry rejection now registry.entries
            registry.purgeLeases).1.lookup rejection.key =
              some (rejectedSlot registry rejection now).1 := own
        have value : (observeBody registry rejection now registry.entries
            registry.purgeLeases).2.1 = (rejectedSlot registry rejection now).2 := outcome
        obtain ⟨⟨reported, observations⟩, same⟩ : ∃ returned, (observeBody registry rejection now
            registry.entries registry.purgeLeases).2 = returned := ⟨_, rfl⟩
        rw [same] at minted value ⊢
        cases reported with
        | pending => cases minted
        | acting =>
          obtain rfl := Option.some.inj minted
          refine ⟨.learned now _, rfl, fun _ => ?_⟩
          have side : (rejectedSlot registry rejection now).1.verdict = .negative :=
            observeSlot_acting value.symm
          have resident : (KeyedMap.modify rejection.key
              (restamp (registry.nextIncarnation + 1))
              (observeBody registry rejection now registry.entries
                registry.purgeLeases).1).lookup rejection.key =
                  some (restamp (registry.nextIncarnation + 1)
                    (rejectedSlot registry rejection now).1) := by
            rw [KeyedMap.lookup_modify_self, slot, Option.map_some]
          exact (congrArg (Option.any _) resident).trans (decide_eq_true side)
      · rw [LearnedCapabilityRegistry.guardedKeyed_exhausted admitted leased full] at minted
        cases minted

/-- A guarded call never takes an incarnation back. -/
theorem guardedKeyed_counter {generation : Nat} {key : RegistryKey} {intent : Intent}
    {featureKey : String} {α : Type} {op : Entries → Leases → Entries × α} :
    registry.nextIncarnation ≤
      (registry.guardedKeyed generation key intent featureKey op).1.nextIncarnation := by
  cases admitted : registry.admits generation featureKey with
  | false => rw [LearnedCapabilityRegistry.guardedKeyed_stale admitted]
  | true =>
    by_cases leased : key ∈ registry.purgeLeases
    · rw [LearnedCapabilityRegistry.guardedKeyed_reserved admitted leased]
    · cases intent with
      | read =>
        obtain ⟨incarnation, same⟩ :=
          LearnedCapabilityRegistry.guardedKeyed_read op admitted leased
        rw [same]
      | mutate =>
        rcases Nat.lt_or_ge registry.nextIncarnation u64Max with room | full
        · rw [LearnedCapabilityRegistry.guardedKeyed_mutate admitted leased room]
          exact Nat.le_succ _
        · rw [LearnedCapabilityRegistry.guardedKeyed_exhausted admitted leased full]

theorem settleAdmission_counter (admission : ProbeAdmission) (outcome : ProbeOutcome) :
    registry.nextIncarnation ≤
      (settleAdmission hasher registry admission outcome now).1.nextIncarnation := guardedKeyed_counter

theorem looked_counter (registry : LearnedCapabilityRegistry)
    (stateKey featureKeyRaw providerKind : String) (generation now : Nat) :
    registry.nextIncarnation ≤ (registry.actingNegativeInGeneration generation stateKey
      featureKeyRaw providerKind now).1.nextIncarnation := by
  unfold LearnedCapabilityRegistry.actingNegativeInGeneration LearnedCapabilityRegistry.guardedRead
  exact guardedKeyed_counter

theorem clearedEvent_carries {admission : ProbeAdmission} {event : CapabilityClearedEvent}
    (cleared : LearnedProbeGuard.clearedEvent admission
      (settleAdmission hasher registry admission .success now).2 = some event) :
    Carries revision (settleAdmission hasher registry admission .success now).1
      ((settleAdmission hasher registry admission .success now).2.stamp.map fun stamp =>
        (admission.key, stamp)) (clearedFlight now revision event) := by
  cases settled : (settleAdmission hasher registry admission .success now).2 with
  | applied value incarnation granted =>
    rw [settled] at cleared
    obtain rfl := Option.some.inj cleared
    exact ⟨.cleared now _, rfl, fun learned => absurd rfl learned⟩
  | stale =>
    rw [settled] at cleared
    cases cleared
  | exhausted =>
    rw [settled] at cleared
    cases cleared
  | reserved =>
    rw [settled] at cleared
    cases cleared

end Accesses

/-- What an action of a request does to the counter, and what it hands the writer. -/
structure Mutates (revision : Revision) (before after : LearnedCapabilityRegistry)
    (mutation : Option (RegistryKey × EventStamp)) (flights : List Flight) : Prop where
  counter : before.nextIncarnation ≤ after.nextIncarnation
  stamped : ∀ key stamp, mutation = some (key, stamp) → Stamped before after key stamp
  carries : ∀ flight ∈ flights, Carries revision after mutation flight

theorem Mutates.silent {revision : Revision} {before after : LearnedCapabilityRegistry}
    (counter : before.nextIncarnation ≤ after.nextIncarnation) :
    Mutates revision before after none [] where
  counter := counter
  stamped := fun key stamp made => by cases made
  carries := fun flight member => by cases member

section Steps
variable {hasher : RegistryKey → Nat → Nat} {revision : Revision} {session next : Session}

theorem settle_mutates (registry : LearnedCapabilityRegistry) (admission : ProbeAdmission)
    (outcome : ProbeOutcome) (now : Nat) {flights : List Flight}
    (carries : ∀ flight ∈ flights,
      Carries revision (settleAdmission hasher registry admission outcome now).1
        ((settleAdmission hasher registry admission outcome now).2.stamp.map fun stamp =>
          (admission.key, stamp)) flight) :
    Mutates revision registry (settleAdmission hasher registry admission outcome now).1
      ((settleAdmission hasher registry admission outcome now).2.stamp.map fun stamp =>
        (admission.key, stamp)) flights where
  counter := settleAdmission_counter admission outcome
  stamped := by
    intro key stamp made
    obtain ⟨returned, stamps, same⟩ := Option.map_eq_some_iff.mp made
    cases same
    exact settleAdmission_stamped stamps
  carries := carries

theorem observe_mutates (registry : LearnedCapabilityRegistry) (generation : Nat)
    (rejection : Rejection) (now : Nat) :
    Mutates revision registry (observeRejection registry generation rejection now).1
      ((observeRejection registry generation rejection now).2.stamp.map fun stamp =>
        (rejection.key, stamp))
      ((mintedEvent rejection (observeRejection registry generation rejection now).2).map
        (learnedFlight now revision)).toList where
  counter := by
    rw [observeRejection_eq]
    exact guardedKeyed_counter
  stamped := by
    intro key stamp made
    obtain ⟨returned, stamps, same⟩ := Option.map_eq_some_iff.mp made
    cases same
    rw [observeRejection_eq] at stamps ⊢
    exact LearnedCapabilityRegistry.guardedKeyed_stamped stamps
  carries := by
    intro flight member
    obtain ⟨event, minted, rfl⟩ := Option.map_eq_some_iff.mp (Option.mem_toList.mp member)
    exact observeRejection_carries minted

/-- Every action makes at most one mutation, and its flights are stamped by it. -/
theorem act_mutates {action : SessionAction}
    (step : session.act hasher revision action = some next) :
    ∃ flights, next.emitted = session.emitted ++ flights ∧
      Mutates revision session.registry next.registry (session.mutation hasher action) flights := by
  cases action with
  | arrive =>
    obtain rfl := Option.some.inj step
    exact ⟨[], (List.append_nil _).symm, .silent (Nat.le_refl _)⟩
  | admission index stateKey featureKeyRaw providerKind now =>
    simp only [Session.act] at step
    split at step
    · cases step
    · have counter := looked_counter session.registry stateKey featureKeyRaw providerKind
        session.registry.generation now
      split at step
      · rename_i registry granted same
        obtain rfl := Option.some.inj step
        rw [same] at counter
        exact ⟨[], (List.append_nil _).symm, .silent counter⟩
      · rename_i registry decision other same
        obtain rfl := Option.some.inj step
        rw [same] at counter
        exact ⟨[], (List.append_nil _).symm, .silent counter⟩
  | reject index rejection now =>
    obtain ⟨attempt, present, registry, emitted⟩ := act_reject step
    refine ⟨_, emitted, ?_⟩
    simp only [Session.mutation, present]
    rw [← registry]
    cases disposition rejection attempt.dedupe attempt.guard with
    | dropped => exact .silent (Nat.le_refl _)
    | settles admission =>
      exact settle_mutates _ admission .sameCapabilityRejection now fun _ member => by cases member
    | observes => exact observe_mutates _ _ rejection now
  | clear index position now =>
    simp only [Session.act] at step
    split at step
    · cases step
    · rename_i admission attempt held
      simp only [Session.mutation, held]
      obtain ⟨registry, cleared⟩ :=
        LearnedProbeGuard.settleSuccess_one hasher session.registry admission now
      obtain rfl := Option.some.inj step
      refine ⟨_, rfl, ?_⟩
      dsimp only
      rw [cleared, registry]
      apply settle_mutates
      intro flight member
      obtain ⟨event, emits, rfl⟩ := List.mem_map.mp member
      exact clearedEvent_carries (Option.mem_toList.mp emits)
  | release index position now =>
    simp only [Session.act] at step
    split at step
    · cases step
    · rename_i admission attempt held
      simp only [Session.mutation, held]
      obtain rfl := Option.some.inj step
      exact ⟨[], (List.append_nil _).symm,
        settle_mutates _ admission .otherError now fun _ member => absurd member List.not_mem_nil⟩

end Steps

/-- The marks know the mutation a flight is stamped by, or a newer one. -/
def Marks.Knows (marks : Marks) (flight : Flight) : Prop :=
  ∃ mark, marks.lookup flight.event.key = some mark ∧
    flight.stamp.incarnation ≤ mark.incarnation ∧
    (flight.event.verdict ≠ Verdict.cleared.asStr →
      flight.stamp.incarnation = mark.incarnation → mark.negative = true)

section Marking
variable {marks : Marks} {after : LearnedCapabilityRegistry} {key : RegistryKey}
  {stamp : EventStamp} {newest : Nat} {flight : Flight}

theorem Marks.record_newer
    (bounded : ∀ key mark, marks.lookup key = some mark → mark.incarnation ≤ newest)
    (newer : newest < stamp.incarnation) :
    marks.record after (some (key, stamp)) =
      marks.insert key
        { incarnation := stamp.incarnation, negative := negativeAt after key } := by
  have unknown : ((marks.lookup key).any fun mark => stamp.incarnation ≤ mark.incarnation) =
      false := by
    cases found : marks.lookup key with
    | none => rfl
    | some mark =>
      have older := bounded key mark found
      simp only [Option.any_some, decide_eq_false_iff_not, Nat.not_le]
      omega
  simp only [Marks.record, unknown, Bool.false_eq_true, if_false]

theorem Marks.Knows.insert (knows : marks.Knows flight) {negative : Bool}
    (bounded : ∀ key mark, marks.lookup key = some mark → mark.incarnation ≤ newest)
    (newer : newest < stamp.incarnation) :
    Marks.Knows (marks.insert key { incarnation := stamp.incarnation, negative }) flight := by
  obtain ⟨mark, found, below, negative⟩ := knows
  by_cases same : flight.event.key = key
  · have older := bounded _ mark found
    rw [← same]
    refine ⟨_, AList.lookup_insert marks, ?_, ?_⟩
    · dsimp only
      omega
    · dsimp only
      intro _ level
      omega
  · exact ⟨mark, (AList.lookup_insert_ne same).trans found, below, negative⟩

end Marking

/-- Rows are what the writer took; every flight is known to the marks. -/
structure Delivery.Ordered (revision : Revision) (delivery : Delivery) : Prop where
  rows : delivery.writer.rows = delivery.appended.map Flight.event
  newest : ∀ key mark, delivery.marks.lookup key = some mark →
    mark.incarnation ≤ delivery.session.registry.nextIncarnation
  emitted : ∀ flight ∈ delivery.flights ++ delivery.appended, Emitted revision flight.event
  known : ∀ flight ∈ delivery.flights ++ delivery.appended, delivery.marks.Knows flight

namespace Delivery
variable {hasher : RegistryKey → Nat → Nat} {revision : Revision} {delivery next : Delivery}

theorem initial_ordered (revision : Revision) (decay inferredWindow maxEntries : Nat) :
    (initial decay inferredWindow maxEntries).Ordered revision where
  rows := rfl
  newest := fun key mark found => by cases found
  emitted := fun flight member => by cases member
  known := fun flight member => by cases member

theorem request_ordered (ordered : delivery.Ordered revision) {action : SessionAction}
    (step : delivery.step hasher revision (.request action) = some next) :
    next.Ordered revision := by
  obtain ⟨session, acted, rfl⟩ := Option.map_eq_some_iff.mp step
  obtain ⟨flights, emitted, mutates⟩ := act_mutates acted
  have fresh : session.emitted.drop delivery.session.emitted.length = flights := by
    rw [emitted, List.drop_left]
  have split {flight : Flight}
      (member : flight ∈ (delivery.flights ++ flights) ++ delivery.appended) :
      flight ∈ delivery.flights ++ delivery.appended ∨ flight ∈ flights := by
    simp only [List.mem_append] at member ⊢
    tauto
  have plain (flight : Flight)
      (member : flight ∈ (delivery.flights ++ flights) ++ delivery.appended) :
      Emitted revision flight.event := by
    rcases split member with older | carried
    · exact ordered.emitted flight older
    · exact (mutates.carries flight carried).emitted
  rw [fresh]
  cases made : delivery.session.mutation hasher action with
  | none =>
    rw [made] at mutates
    refine ⟨ordered.rows, ?_, plain, ?_⟩
    · intro key mark found
      exact (ordered.newest key mark found).trans mutates.counter
    · intro flight member
      rcases split member with older | carried
      · exact ordered.known flight older
      · have stamped := (mutates.carries flight carried).stamped
        cases stamped
  | some mutation =>
    obtain ⟨key, stamp⟩ := mutation
    rw [made] at mutates
    have stamped := mutates.stamped key stamp rfl
    have newer : delivery.session.registry.nextIncarnation < stamp.incarnation := by
      rw [stamped.fresh]
      exact Nat.lt_succ_self _
    have recorded : delivery.marks.record session.registry (some (key, stamp)) = _ :=
      Marks.record_newer ordered.newest newer
    rw [recorded]
    refine ⟨ordered.rows, ?_, plain, ?_⟩
    · intro other mark found
      by_cases same : other = key
      · subst same
        obtain rfl := Option.some.inj ((AList.lookup_insert _).symm.trans found)
        dsimp only
        rw [stamped.fresh, stamped.counter]
      · have older := ordered.newest other mark ((AList.lookup_insert_ne same).symm.trans found)
        exact older.trans mutates.counter
    · intro flight member
      rcases split member with older | carried
      · exact (ordered.known flight older).insert ordered.newest newer
      · have carries := mutates.carries flight carried
        obtain ⟨rfl, rfl⟩ := Prod.mk.inj (Option.some.inj carries.stamped)
        exact ⟨_, AList.lookup_insert _, Nat.le_refl _, fun learned _ => carries.negative learned⟩

theorem deliver_ordered (ordered : delivery.Ordered revision) {position : Nat} {stored : Bool}
    (step : delivery.step hasher revision (.deliver position stored) = some next) :
    next.Ordered revision := by
  simp only [Delivery.step] at step
  split at step
  · cases step
  · rename_i flight present
    have member : flight ∈ delivery.flights := List.mem_of_getElem? present
    have taken {other : Flight}
        (inside : other ∈ delivery.flights.eraseIdx position ++ (delivery.appended ++ [flight])) :
        other ∈ delivery.flights ++ delivery.appended := by
      simp only [List.mem_append, List.mem_singleton] at inside ⊢
      rcases inside with queued | older | rfl
      · exact .inl (List.mem_of_mem_eraseIdx queued)
      · exact .inr older
      · exact .inl member
    have lost {other : Flight}
        (inside : other ∈ delivery.flights.eraseIdx position ++ delivery.appended) :
        other ∈ delivery.flights ++ delivery.appended := by
      simp only [List.mem_append] at inside ⊢
      exact inside.imp_left List.mem_of_mem_eraseIdx
    rcases delivery.writer.persistCapabilityEvent_cases flight.event flight.stamp stored with
      ⟨same, refused⟩ | same
    · split at step
      · rename_i writer committed
        exact absurd (congrArg Prod.snd committed) refused
      · rename_i writer outcome other persisted
        obtain rfl := Option.some.inj step
        rw [persisted] at same
        refine ⟨?_, ordered.newest, fun other inside => ordered.emitted other (lost inside),
          fun other inside => ordered.known other (lost inside)⟩
        exact (congrArg Writer.rows same).trans ordered.rows
    · rw [same] at step
      obtain rfl := Option.some.inj step
      refine ⟨?_, ordered.newest, fun other inside => ordered.emitted other (taken inside),
        fun other inside => ordered.known other (taken inside)⟩
      simp [ordered.rows]

theorem step_ordered : (machine hasher revision).Preserves (Ordered revision) := by
  intro delivery action next ordered step
  cases action with
  | request action => exact request_ordered ordered step
  | deliver position stored =>
    have delivered : delivery.step hasher revision (.deliver position stored) = some next := step
    exact deliver_ordered ordered delivered

end Delivery
end Routectl.Learn
