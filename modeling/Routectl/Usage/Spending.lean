import Mathlib.Data.List.Perm.Subperm
import Routectl.Usage.Lifecycle

/-! Spending under any interleaving: every unit is committed past the last one of its
provider day, each is answered for at most once, and none after a shutdown. -/
namespace Routectl.Usage
open Library Registry

namespace Reservations

structure Accounted (reservations : Reservations) : Prop where
  counted : ∀ spend ∈ reservations.spends, ∃ count ≤ u32Max,
    reservations.stored.lookup (reservationKey spend.utcDay spend.provider) =
        some (formatUnits count) ∧ spend.used ≤ count
  within : ∀ spend ∈ reservations.spends, 0 < spend.used ∧ spend.used ≤ spend.cap
  increasing : reservations.spends.Pairwise fun earlier later =>
    earlier.provider = later.provider → earlier.utcDay = later.utcDay → earlier.used < later.used
  recorded : ∀ delivery ∈ reservations.delivered, ∃ utcDay,
    reservations.spends[delivery.unit]? =
      some ⟨delivery.writer, delivery.provider, utcDay, delivery.used, delivery.cap⟩
  ordered : reservations.delivered.Pairwise fun first second =>
    first.writer = second.writer → first.unit < second.unit
  pending : ∀ writer command used cap unit,
    reservations.stages writer = .reserved command (.committed used cap) unit →
      (∃ utcDay, reservations.spends[unit]? = some ⟨writer, command.provider, utcDay, used, cap⟩) ∧
        ∀ delivery ∈ reservations.delivered, delivery.writer = writer → delivery.unit < unit

end Reservations

section Steps
variable {gateOf : Nat → Nat} {reservations next : Reservations}

theorem formatUnits_injective {first second : Nat} (small : first ≤ u32Max)
    (same : formatUnits first = formatUnits second) : first = second := by
  have parsed := parseUnits_ok_iff.mpr ⟨small, rfl⟩
  rw [same] at parsed
  have digits := congrArg String.toList (parseUnits_ok_iff.mp parsed).2
  rw [formatUnits, formatUnits, Nat.toList_repr, Nat.toList_repr] at digits
  rw [← @Nat.ofDigitChars_ten_toDigits second, digits, Nat.ofDigitChars_ten_toDigits]

/-- A stage that holds no `committed` outcome leaves nothing pending. -/
theorem Reservations.Accounted.staged (accounted : reservations.Accounted) (writer : Nat)
    (stage : Stage)
    (uncommitted : ∀ command used cap unit, stage ≠ .reserved command (.committed used cap) unit) :
    (reservations.atStage writer stage).Accounted where
  counted := accounted.counted
  within := accounted.within
  increasing := accounted.increasing
  recorded := accounted.recorded
  ordered := accounted.ordered
  pending := by
    intro other command used cap unit held
    simp only [Reservations.atStage] at held
    by_cases own : other = writer
    · subst own
      rw [Function.update_self] at held
      exact absurd held (uncommitted command used cap unit)
    · rw [Function.update_of_ne own] at held
      exact accounted.pending other command used cap unit held

/-- Recording one committed unit past every count of its provider day. -/
theorem Reservations.Accounted.spent (accounted : reservations.Accounted) {writer : Nat}
    {command : PaidProbeCommand} {utcDay : Int} {used : Nat}
    (counted : reservations.stored.lookup (reservationKey utcDay command.provider) =
        some (formatUnits used) ∨
      reservations.stored.lookup (reservationKey utcDay command.provider) = none ∧ used = 0)
    (small : used + 1 ≤ u32Max) (within : used + 1 ≤ command.cap) :
    Reservations.Accounted
      { reservations.atStage writer (.reserved command (.committed (used + 1) command.cap)
          reservations.spends.length) with
        stored := reservations.stored.insert (reservationKey utcDay command.provider)
          (formatUnits (used + 1))
        spends := reservations.spends ++
          [⟨writer, command.provider, utcDay, used + 1, command.cap⟩] } := by
  have below : ∀ spend ∈ reservations.spends, spend.provider = command.provider →
      spend.utcDay = utcDay → spend.used ≤ used := by
    intro spend member sameProvider sameDay
    obtain ⟨count, bounded, held, atMost⟩ := accounted.counted spend member
    rw [sameProvider, sameDay] at held
    rcases counted with same | ⟨gone, -⟩
    · rw [same] at held
      have equal := formatUnits_injective (by omega) (Option.some.inj held)
      omega
    · rw [gone] at held
      cases held
  constructor
  case counted =>
    intro spend member
    rcases List.mem_append.mp member with earlier | new
    · by_cases same : reservationKey spend.utcDay spend.provider =
          reservationKey utcDay command.provider
      · obtain ⟨sameDay, sameProvider⟩ := reservationKey_injective same
        refine ⟨used + 1, small, ?_, ?_⟩
        · rw [same, AList.lookup_insert]
        · have atMost := below spend earlier sameProvider sameDay
          omega
      · obtain ⟨count, bounded, held, atMost⟩ := accounted.counted spend earlier
        refine ⟨count, bounded, ?_, atMost⟩
        rw [AList.lookup_insert_ne same]
        exact held
    · obtain rfl := List.mem_singleton.mp new
      exact ⟨used + 1, small, AList.lookup_insert _, le_refl _⟩
  case within =>
    intro spend member
    rcases List.mem_append.mp member with earlier | new
    · exact accounted.within spend earlier
    · obtain rfl := List.mem_singleton.mp new
      exact ⟨Nat.succ_pos used, within⟩
  case increasing =>
    refine List.pairwise_append.mpr ⟨accounted.increasing, List.pairwise_singleton _ _, ?_⟩
    intro earlier member later new sameProvider sameDay
    obtain rfl := List.mem_singleton.mp new
    exact Nat.lt_succ_of_le (below earlier member sameProvider sameDay)
  case recorded =>
    intro delivery sent
    obtain ⟨day, found⟩ := accounted.recorded delivery sent
    refine ⟨day, ?_⟩
    rw [List.getElem?_append_left (List.getElem?_eq_some_iff.mp found).1]
    exact found
  case ordered => exact accounted.ordered
  case pending =>
    intro other held usedThen capThen unit staged
    by_cases own : other = writer
    · subst own
      simp only [Reservations.atStage, Function.update_self] at staged
      cases staged
      refine ⟨⟨utcDay, by simp⟩, ?_⟩
      intro delivery sent _
      obtain ⟨day, found⟩ := accounted.recorded delivery sent
      exact (List.getElem?_eq_some_iff.mp found).1
    · simp only [Reservations.atStage, Function.update_of_ne own] at staged
      obtain ⟨⟨day, found⟩, newest⟩ := accounted.pending other held usedThen capThen unit staged
      refine ⟨⟨day, ?_⟩, newest⟩
      rw [List.getElem?_append_left (List.getElem?_eq_some_iff.mp found).1]
      exact found

theorem transact_accounted (accounted : reservations.Accounted) {writer : Nat} {nowEpochMs : Int}
    {fault : Option StorageFault}
    (step : reservations.step gateOf (.transact writer nowEpochMs fault) = some next) :
    next.Accounted := by
  simp only [Reservations.step] at step
  split at step
  · rename_i command staged
    obtain rfl := Option.some.inj step
    have reserved := reserveOneUnit_reserved reservations.stored command.provider command.cap
      nowEpochMs fault
    generalize reserveOneUnit reservations.stored command.provider command.cap nowEpochMs fault =
      result at reserved ⊢
    obtain ⟨stored, outcome⟩ := result
    dsimp only at reserved ⊢
    generalize utcDayFromEpochMs nowEpochMs = utcDay at reserved
    cases reserved with
    | refused uncommitted =>
      cases outcome with
      | committed day used cap => exact absurd rfl (uncommitted day used cap)
      | capExhausted => exact accounted.staged writer _ (by simp [commitFor])
      | malformedState => exact accounted.staged writer _ (by simp [commitFor])
      | writeFailed => exact accounted.staged writer _ (by simp [commitFor])
    | committed used counted small within => exact accounted.spent counted small within
  · cases step

/-- Handing a pending unit to its caller. -/
theorem Reservations.Accounted.answered (accounted : reservations.Accounted) {writer : Nat}
    {command : PaidProbeCommand} {used cap unit : Nat}
    (staged : reservations.stages writer = .reserved command (.committed used cap) unit) :
    Reservations.Accounted
      { reservations.atStage writer .idle with
        delivered := reservations.delivered ++ [⟨writer, command.provider, used, cap, unit⟩] } := by
  obtain ⟨spent, newest⟩ := accounted.pending writer command used cap unit staged
  constructor
  case counted => exact accounted.counted
  case within => exact accounted.within
  case increasing => exact accounted.increasing
  case recorded =>
    intro delivery sent
    rcases List.mem_append.mp sent with earlier | new
    · exact accounted.recorded delivery earlier
    · obtain rfl := List.mem_singleton.mp new
      exact spent
  case ordered =>
    refine List.pairwise_append.mpr ⟨accounted.ordered, List.pairwise_singleton _ _, ?_⟩
    intro earlier sent later new own
    obtain rfl := List.mem_singleton.mp new
    exact newest earlier sent own
  case pending =>
    intro other held usedThen capThen unitThen stagedThen
    by_cases own : other = writer
    · subst own
      simp only [Reservations.atStage, Function.update_self] at stagedThen
      cases stagedThen
    · simp only [Reservations.atStage, Function.update_of_ne own] at stagedThen
      obtain ⟨spentThen, newestThen⟩ :=
        accounted.pending other held usedThen capThen unitThen stagedThen
      refine ⟨spentThen, ?_⟩
      intro delivery sent same
      rcases List.mem_append.mp sent with earlier | new
      · exact newestThen delivery earlier same
      · obtain rfl := List.mem_singleton.mp new
        exact absurd same.symm own

theorem answer_accounted (accounted : reservations.Accounted) {writer : Nat}
    (step : reservations.step gateOf (.answer writer) = some next) : next.Accounted := by
  simp only [Reservations.step] at step
  split at step
  · rename_i command outcome unit staged
    obtain rfl := Option.some.inj step
    have idle := accounted.staged writer .idle (by simp)
    by_cases terminal : (reservations.gates (gateOf writer)).isTerminal = true
    · simp only [LifecycleGate.answerUnlessTerminal, if_pos terminal]
      exact idle
    · simp only [LifecycleGate.answerUnlessTerminal, if_neg terminal]
      cases outcome with
      | committed used cap => exact accounted.answered staged
      | capExhausted => exact idle
      | malformedState => exact idle
      | writeFailed => exact idle
      | unavailable => exact idle
  · cases step

theorem step_accounted (gateOf : Nat → Nat) :
    (Reservations.machine gateOf).Preserves Reservations.Accounted := by
  intro reservations action next accounted step
  cases action with
  | submit writer command =>
    simp only [Reservations.machine, Reservations.step] at step
    split at step
    · split at step
      · obtain rfl := Option.some.inj step
        exact accounted
      · obtain rfl := Option.some.inj step
        exact accounted.staged writer _ (by simp)
    · cases step
  | transact writer nowEpochMs fault => exact @transact_accounted gateOf _ _ accounted writer nowEpochMs fault step
  | answer writer => exact answer_accounted accounted step
  | beginShutdown gate =>
    obtain rfl := Option.some.inj step
    exact { accounted with }
  | poison gate =>
    obtain rfl := Option.some.inj step
    exact { accounted with }

/-- Only a transaction of a provider's own day touches its stored count. -/
theorem step_isolated {action : ReservationAction} (step : reservations.step gateOf action = some next)
    {utcDay : Int} {provider : String}
    (touched : next.stored.lookup (reservationKey utcDay provider) ≠
      reservations.stored.lookup (reservationKey utcDay provider)) :
    ∃ writer nowEpochMs fault command, action = .transact writer nowEpochMs fault ∧
      reservations.stages writer = .admitted command ∧
      utcDay = utcDayFromEpochMs nowEpochMs ∧ provider = command.provider := by
  cases action with
  | transact writer nowEpochMs fault =>
    simp only [Reservations.step] at step
    split at step
    · rename_i command staged
      obtain rfl := Option.some.inj step
      refine ⟨writer, nowEpochMs, fault, command, rfl, staged, ?_⟩
      have reserved := reserveOneUnit_reserved reservations.stored command.provider command.cap
        nowEpochMs fault
      generalize reserveOneUnit reservations.stored command.provider command.cap nowEpochMs
        fault = result at reserved touched
      obtain ⟨stored, outcome⟩ := result
      dsimp only at reserved touched
      cases reserved with
      | refused => exact absurd rfl touched
      | committed used =>
        by_cases same : reservationKey utcDay provider =
            reservationKey (utcDayFromEpochMs nowEpochMs) command.provider
        · exact reservationKey_injective same
        · exact absurd (AList.lookup_insert_ne same) touched
    · cases step
  | submit writer command =>
    simp only [Reservations.step] at step
    split at step
    · split at step
      · obtain rfl := Option.some.inj step
        exact absurd rfl touched
      · obtain rfl := Option.some.inj step
        exact absurd rfl touched
    · cases step
  | answer writer =>
    simp only [Reservations.step] at step
    split at step
    · obtain rfl := Option.some.inj step
      exact absurd rfl touched
    · cases step
  | beginShutdown gate =>
    obtain rfl := Option.some.inj step
    exact absurd rfl touched
  | poison gate =>
    obtain rfl := Option.some.inj step
    exact absurd rfl touched

theorem terminal_answers_nothing {gate : LifecycleGate} (terminal : gate.state = .terminal)
    (outcome : PaidProbeCommit) : gate.answerUnlessTerminal outcome = (.unavailable, false) := by
  have refused : gate.isTerminal = true := by
    cases poisoned : gate.poisoned <;>
      simp [LifecycleGate.isTerminal, forbidsAuthorization, poisoned, terminal]
  rw [LifecycleGate.answerUnlessTerminal, if_pos refused]

/-- A gate that is terminal stays so, and hands out no more committed answers. -/
theorem step_silent (gate : Nat) (sent : List Delivery) :
    (Reservations.machine gateOf).Preserves fun reservations =>
      (reservations.gates gate).state = .terminal ∧
        (reservations.delivered.filter fun delivery => gateOf delivery.writer = gate) = sent := by
  intro reservations action next ⟨terminal, same⟩ step
  cases action with
  | submit writer command =>
    simp only [Reservations.machine, Reservations.step] at step
    split at step
    · split at step
      · obtain rfl := Option.some.inj step
        exact ⟨terminal, same⟩
      · obtain rfl := Option.some.inj step
        exact ⟨terminal, same⟩
    · cases step
  | transact writer nowEpochMs fault =>
    simp only [Reservations.machine, Reservations.step] at step
    split at step
    · obtain rfl := Option.some.inj step
      exact ⟨terminal, same⟩
    · cases step
  | answer writer =>
    simp only [Reservations.machine, Reservations.step] at step
    split at step
    · rename_i command outcome unit staged
      obtain rfl := Option.some.inj step
      refine ⟨terminal, ?_⟩
      by_cases own : gateOf writer = gate
      · rw [own, terminal_answers_nothing terminal]
        exact same
      · dsimp only
        split
        · rw [List.filter_append, same]
          simp [own]
        · exact same
    · cases step
  | beginShutdown other =>
    obtain rfl := Option.some.inj step
    refine ⟨?_, same⟩
    by_cases own : gate = other
    · subst own
      simp [LifecycleGate.beginShutdown]
    · simp only [Function.update_of_ne own]
      exact terminal
  | poison other =>
    obtain rfl := Option.some.inj step
    refine ⟨?_, same⟩
    by_cases own : gate = other
    · subst own
      simp only [Function.update_self]
      exact terminal
    · simp only [Function.update_of_ne own]
      exact terminal

theorem step_malformed {utcDay : Int} {provider raw : String}
    (malformed : ∀ units ≤ u32Max, raw ≠ formatUnits units) :
    (Reservations.machine gateOf).Preserves fun reservations =>
      reservations.stored.lookup (reservationKey utcDay provider) = some raw := by
  intro reservations action next found step
  by_contra lost
  rw [← found] at lost
  obtain ⟨writer, nowEpochMs, fault, command, rfl, staged, rfl, rfl⟩ := step_isolated step lost
  simp only [Reservations.machine, Reservations.step, staged] at step
  obtain rfl := Option.some.inj step
  rcases @reserveOneUnit_malformed _ _ _ command.cap _ fault found malformed with
    refused | ⟨-, failed⟩
  · rw [refused] at lost
    exact lost rfl
  · rw [failed] at lost
    exact lost rfl

/-- A provider day whose count is malformed has no unit spent. -/
theorem Reservations.Accounted.unanswered (accounted : reservations.Accounted) {utcDay : Int}
    {provider raw : String}
    (found : reservations.stored.lookup (reservationKey utcDay provider) = some raw)
    (malformed : ∀ units ≤ u32Max, raw ≠ formatUnits units) :
    ∀ spend ∈ reservations.spends, ¬ (spend.provider = provider ∧ spend.utcDay = utcDay) := by
  rintro spend member ⟨rfl, rfl⟩
  obtain ⟨count, small, stored, -⟩ := accounted.counted spend member
  rw [found] at stored
  exact malformed count small (Option.some.inj stored)

end Steps

/-- The committed answers of one provider day, in the order they were sent. -/
def Reservations.answered (reservations : Reservations) (provider : String) (utcDay : Int) :
    List Delivery :=
  reservations.delivered.filter fun delivery =>
    delivery.provider = provider ∧
      reservations.spends[delivery.unit]?.map Spend.utcDay = some utcDay

structure Metered (reservations : Reservations) (provider : String) (utcDay : Int) : Prop where
  increasing : ∀ first ∈ reservations.answered provider utcDay,
    ∀ second ∈ reservations.answered provider utcDay,
      first.unit < second.unit → first.used < second.used
  distinct : ((reservations.answered provider utcDay).map Delivery.used).Nodup
  within : ∀ answer ∈ reservations.answered provider utcDay,
    0 < answer.used ∧ answer.used ≤ answer.cap
  counted : reservations.answered provider utcDay ≠ [] → ∃ count,
    reservations.stored.lookup (reservationKey utcDay provider) = some (formatUnits count) ∧
      (reservations.answered provider utcDay).length ≤ count
  capped : ∀ largest, (∀ answer ∈ reservations.answered provider utcDay, answer.cap ≤ largest) →
    (reservations.answered provider utcDay).length ≤ largest

section Answers
variable {reservations : Reservations} {provider : String} {utcDay : Int}

theorem Reservations.Accounted.mem_answered (accounted : reservations.Accounted)
    {answer : Delivery} (member : answer ∈ reservations.answered provider utcDay) :
    answer ∈ reservations.delivered ∧ reservations.spends[answer.unit]? =
      some ⟨answer.writer, provider, utcDay, answer.used, answer.cap⟩ := by
  obtain ⟨sent, kept⟩ := List.mem_filter.mp member
  obtain ⟨own, day⟩ := of_decide_eq_true kept
  obtain ⟨spentDay, found⟩ := accounted.recorded answer sent
  rw [found] at day
  obtain rfl := Option.some.inj day
  rw [found, own]
  exact ⟨sent, rfl⟩

theorem Reservations.Accounted.answered_increasing (accounted : reservations.Accounted)
    {first second : Delivery} (firstMember : first ∈ reservations.answered provider utcDay)
    (secondMember : second ∈ reservations.answered provider utcDay)
    (earlier : first.unit < second.unit) : first.used < second.used := by
  obtain ⟨firstBound, firstSame⟩ :=
    List.getElem?_eq_some_iff.mp (accounted.mem_answered firstMember).2
  obtain ⟨secondBound, secondSame⟩ :=
    List.getElem?_eq_some_iff.mp (accounted.mem_answered secondMember).2
  have ordered := List.pairwise_iff_getElem.mp accounted.increasing first.unit second.unit
    firstBound secondBound earlier
  rw [firstSame, secondSame] at ordered
  exact ordered rfl rfl

theorem Reservations.Accounted.answered_distinct (accounted : reservations.Accounted) :
    ((reservations.answered provider utcDay).map Delivery.used).Nodup := by
  refine List.pairwise_map.mpr ?_
  refine List.Pairwise.imp_of_mem ?_ (accounted.ordered.filter _)
  intro first second firstMember secondMember ordered same
  have firstSpent := (accounted.mem_answered firstMember).2
  have secondSpent := (accounted.mem_answered secondMember).2
  rcases Nat.lt_trichotomy first.unit second.unit with earlier | together | later
  · have grew := accounted.answered_increasing firstMember secondMember earlier
    omega
  · rw [together, secondSpent] at firstSpent
    have writers := congrArg Spend.writer (Option.some.inj firstSpent)
    have apart := ordered writers.symm
    omega
  · have grew := accounted.answered_increasing secondMember firstMember later
    omega

theorem Reservations.Accounted.answered_spent (accounted : reservations.Accounted)
    {answer : Delivery} (member : answer ∈ reservations.answered provider utcDay) :
    (⟨answer.writer, provider, utcDay, answer.used, answer.cap⟩ : Spend) ∈ reservations.spends :=
  List.mem_of_getElem? (accounted.mem_answered member).2

theorem Reservations.Accounted.length_answered (accounted : reservations.Accounted) {most : Nat}
    (bounded : ∀ answer ∈ reservations.answered provider utcDay, answer.used ≤ most) :
    (reservations.answered provider utcDay).length ≤ most := by
  have contained : (reservations.answered provider utcDay).map Delivery.used ⊆
      List.range' 1 most := by
    intro used member
    obtain ⟨answer, inside, rfl⟩ := List.mem_map.mp member
    have positive := (accounted.within _ (accounted.answered_spent inside)).1
    have below := bounded answer inside
    dsimp only at positive
    rw [List.mem_range'_1]
    omega
  have shorter := (accounted.answered_distinct.subperm contained).length_le
  rwa [List.length_map, List.length_range'] at shorter

theorem Reservations.Accounted.metered (accounted : reservations.Accounted) (provider : String)
    (utcDay : Int) : Metered reservations provider utcDay where
  increasing := fun _ firstMember _ secondMember earlier =>
    accounted.answered_increasing firstMember secondMember earlier
  distinct := accounted.answered_distinct
  within := fun _ member => accounted.within _ (accounted.answered_spent member)
  counted := by
    intro answeredOnce
    obtain ⟨answer, member⟩ := List.exists_mem_of_ne_nil _ answeredOnce
    obtain ⟨count, small, stored, -⟩ := accounted.counted _ (accounted.answered_spent member)
    refine ⟨count, stored, accounted.length_answered ?_⟩
    intro other inside
    obtain ⟨otherCount, otherSmall, otherStored, below⟩ :=
      accounted.counted _ (accounted.answered_spent inside)
    rw [stored] at otherStored
    rwa [formatUnits_injective small (Option.some.inj otherStored)]
  capped := by
    intro largest presented
    refine accounted.length_answered ?_
    intro answer member
    have inside := (accounted.within _ (accounted.answered_spent member)).2
    exact le_trans inside (presented answer member)

end Answers

/-- However writers, shutdowns and storage failures interleave: the answers of a provider
day are metered, and each writer's come in the order of its commits; only a transaction
of a provider's own day touches its count; a malformed count stays and commits nothing;
and a gate that began its shutdown delivers no further committed answer. -/
theorem paid_probe_spend_bounded (gateOf : Nat → Nat) (stored : Meta)
    {actions : List ReservationAction} {reservations : Reservations}
    (reached : (Reservations.machine gateOf).run (.initial stored) actions = some reservations) :
    (∀ provider utcDay, Metered reservations provider utcDay) ∧
      (reservations.delivered.Pairwise fun first second =>
        first.writer = second.writer → first.unit < second.unit) ∧
      (∀ action next, reservations.step gateOf action = some next → ∀ utcDay provider,
        next.stored.lookup (reservationKey utcDay provider) ≠
            reservations.stored.lookup (reservationKey utcDay provider) →
          ∃ writer nowEpochMs fault command, action = .transact writer nowEpochMs fault ∧
            reservations.stages writer = .admitted command ∧
            utcDay = utcDayFromEpochMs nowEpochMs ∧ provider = command.provider) ∧
      (∀ utcDay provider raw,
        reservations.stored.lookup (reservationKey utcDay provider) = some raw →
        (∀ units ≤ u32Max, raw ≠ formatUnits units) →
          (∀ writer nowEpochMs fault command, reservations.stages writer = .admitted command →
            command.provider = provider → utcDayFromEpochMs nowEpochMs = utcDay →
            ∃ outcome next, reservations.step gateOf (.transact writer nowEpochMs fault) = some next ∧
              next.stages writer = .reserved command outcome reservations.spends.length ∧
              (outcome = .malformedState ∨ fault ≠ none ∧ outcome = .writeFailed)) ∧
          ∀ later final, (Reservations.machine gateOf).run reservations later = some final →
            final.stored.lookup (reservationKey utcDay provider) = some raw ∧
              final.answered provider utcDay = []) ∧
      ∀ gate later final,
        (Reservations.machine gateOf).run reservations (.beginShutdown gate :: later) = some final →
          (final.delivered.filter fun delivery => gateOf delivery.writer = gate) =
            reservations.delivered.filter fun delivery => gateOf delivery.writer = gate := by
  have initial : (Reservations.initial stored).Accounted :=
    { counted := by simp [Reservations.initial]
      within := by simp [Reservations.initial]
      increasing := List.Pairwise.nil
      recorded := by simp [Reservations.initial]
      ordered := List.Pairwise.nil
      pending := by simp [Reservations.initial] }
  have accounted : reservations.Accounted := (step_accounted gateOf).run _ initial reached
  refine ⟨accounted.metered, accounted.ordered, ?_, ?_, ?_⟩
  · intro action next step utcDay provider touched
    exact step_isolated step touched
  · intro utcDay provider raw found malformed
    constructor
    · rintro writer nowEpochMs fault command admitted rfl rfl
      simp only [Reservations.step, admitted]
      rcases @reserveOneUnit_malformed _ _ _ command.cap _ fault found malformed with
        refused | ⟨faulty, failed⟩
      · rw [refused]
        exact ⟨_, _, rfl, Function.update_self .., .inl rfl⟩
      · rw [failed]
        exact ⟨_, _, rfl, Function.update_self .., .inr ⟨faulty, rfl⟩⟩
    · intro later final onward
      have kept := (step_malformed malformed).run _ found onward
      have after : final.Accounted := (step_accounted gateOf).run _ accounted onward
      refine ⟨kept, ?_⟩
      by_contra answeredOnce
      obtain ⟨answer, member⟩ := List.exists_mem_of_ne_nil _ answeredOnce
      exact after.unanswered kept malformed _ (after.answered_spent member) ⟨rfl, rfl⟩
  · intro gate later final onward
    obtain ⟨terminal, step, rest⟩ := Machine.run_cons_eq_some _ |>.mp onward
    obtain rfl := Option.some.inj step
    have silent := @step_silent gateOf gate
      (reservations.delivered.filter fun delivery => gateOf delivery.writer = gate)
    refine (silent.run _ ?_ rest).2
    exact ⟨by simp [LifecycleGate.beginShutdown], rfl⟩

/-- Two writers of one database: the second spends first, and a shutdown lets only the
first answer through. -/
def raced : List ReservationAction :=
  [.submit 0 ⟨"spare", 5⟩, .submit 1 ⟨"spare", 5⟩, .transact 1 0 none, .transact 0 0 none,
    .answer 0]

def racedState : Reservations :=
  ((Reservations.machine id).run (.initial ∅) raced).getD (.initial ∅)

theorem raced_spend_bounded :
    (racedState.delivered.map Delivery.used = [2] ∧ Metered racedState "spare" 0) ∧
      ∀ later final,
        (Reservations.machine id).run racedState (.beginShutdown 1 :: later) = some final →
          (final.delivered.filter fun delivery => id delivery.writer = 1) = [] := by
  have reached : (Reservations.machine id).run (.initial ∅) raced = some racedState := rfl
  obtain ⟨metered, -, -, -, silent⟩ := paid_probe_spend_bounded id ∅ reached
  refine ⟨⟨by decide, metered "spare" 0⟩, ?_⟩
  intro later final onward
  exact silent 1 later final onward

end Routectl.Usage
