import Mathlib.Data.List.Nodup
import Routectl.Library.KeyedMap
import Routectl.Library.Transition
import Routectl.Probe.Scheduler

/-! The scheduler among its callers: every lease and paid slot handed out, every
question that ended, and what each accepted activation has spent. -/
namespace Routectl.Probe
open Routectl.Core Library Registry

/-- `tickets` number the accepted activation a key's row came from; `ended` are the
questions settled for good, `charged` and `deferred` the tickets so spent. -/
structure Probing where
  inner : SchedulerInner
  leases : List (ProbeLease × Nat)
  paidSlots : Nat
  accepted : Nat
  tickets : KeyedMap FieldVerdictKey Nat
  ended : List (FieldVerdictKey × Nat)
  charged : List Nat
  deferred : List Nat

inductive ProbeAction where
  | activate (key : FieldVerdictKey) (generation : Nat) (plan : List ProbeValidator)
  | leaseDue (now : Nat)
  | settle (position : Nat) (settlement : Option ProbeSettlement) (now : Nat)
  | retireBefore (generation : Nat)
  | tryAcquirePaidSlot
  | dropPaidSlot

/-- The settlements an attempt is charged for; `none` is a dropped lease. -/
def chargesAttempt : Option ProbeSettlement → Bool
  | some .retryable | some .timedOut | some .spentFreeStep | none => true
  | some .resolved | some .abandoned | some .deferred => false

/-- A release for good: not put off, and no row of the key left. -/
def endsQuestion (after : SchedulerInner) (key : FieldVerdictKey)
    (settlement : Option ProbeSettlement) : Bool :=
  settlement ≠ some .deferred && (after.position key).isNone

namespace Probing

def initial : Probing :=
  { inner := .new, leases := [], paidSlots := 0, accepted := 0, tickets := ∅, ended := [],
    charged := [], deferred := [] }

def step (probing : Probing) : ProbeAction → Option Probing
  | .activate key generation plan =>
    match probing.inner.activate key generation plan with
    | (inner, .queued) =>
      some { probing with
        inner, accepted := probing.accepted + 1,
        tickets := probing.tickets.insert key (probing.accepted + 1) }
    | (inner, _) => some { probing with inner }
  | .leaseDue now =>
    match probing.inner.leaseDue now with
    | none => some probing
    | some (inner, lease) =>
      some { probing with
        inner, leases := probing.leases ++ [(lease, (probing.tickets.lookup lease.key).getD 0)] }
  | .settle position settlement now =>
    match probing.leases[position]? with
    | none => none
    | some (lease, ticket) =>
      let (inner, _) :=
        probing.inner.release lease.key lease.generation lease.leaseSeq settlement now
      some { probing with
        inner, leases := probing.leases.eraseIdx position,
        ended :=
          if endsQuestion inner lease.key settlement then
            probing.ended ++ [(lease.key, lease.generation)]
          else probing.ended,
        charged :=
          if chargesAttempt settlement then probing.charged ++ [ticket] else probing.charged,
        deferred :=
          if settlement = some .deferred then probing.deferred ++ [ticket]
          else probing.deferred }
  | .retireBefore generation =>
    some { probing with inner := (probing.inner.retireBefore generation).1 }
  | .tryAcquirePaidSlot =>
    match probing.inner.tryAcquirePaidSlot with
    | none => some probing
    | some inner => some { probing with inner, paidSlots := probing.paidSlots + 1 }
  | .dropPaidSlot =>
    if probing.paidSlots = 0 then none
    else
      some { probing with
        inner := probing.inner.releasePaidSlot, paidSlots := probing.paidSlots - 1 }

def machine : Machine Probing ProbeAction := ⟨step⟩

end Probing

/-- The row a lease was taken on. -/
def Job.Leased (job : Job) (lease : ProbeLease) : Prop :=
  job.key = lease.key ∧ job.generation = lease.generation ∧ job.leaseSeq = lease.leaseSeq ∧
    job.isInFlight = true

/-- What committing a settlement does to the row it owns, among the other rows. -/
inductive Committed (inner : SchedulerInner) (job : Job) (rest : List Job) :
    Option ProbeSettlement → SchedulerInner → Prop where
  | ended {settlement : Option ProbeSettlement} {jobs : List Job}
      (asked : settlement ≠ some .deferred) (rows : jobs.Perm rest) :
      Committed inner job rest settlement
        (SchedulerInner.tombstone { inner with jobs } job.key job.generation)
  | evicted {jobs : List Job} (rows : jobs.Perm rest) :
      Committed inner job rest (some .deferred) { inner with jobs }
  | charged {settlement : Option ProbeSettlement} {jobs : List Job} {row : Job}
      (spends : chargesAttempt settlement = true) (rows : jobs.Perm (row :: rest))
      (key : row.key = job.key) (generation : row.generation = job.generation)
      (idle : row.isInFlight = false) (attempts : row.attempts = saturatingSucc job.attempts)
      (below : row.attempts < probeMaxAttempts) (deferrals : row.deferrals = job.deferrals) :
      Committed inner job rest settlement { inner with jobs }
  | deferred {jobs : List Job} {row : Job} (rows : jobs.Perm (row :: rest))
      (key : row.key = job.key) (generation : row.generation = job.generation)
      (idle : row.isInFlight = false) (attempts : row.attempts = job.attempts)
      (deferrals : row.deferrals = saturatingSucc job.deferrals)
      (below : row.deferrals < probeMaxDeferrals) :
      Committed inner job rest (some .deferred) { inner with jobs }

/-- What releasing a lease does, and what it reports. -/
inductive Released (inner : SchedulerInner) (lease : ProbeLease)
    (settlement : Option ProbeSettlement) : SchedulerInner → ReleaseOutcome → Prop where
  | missed (gone : ∀ job ∈ inner.jobs, ¬job.Leased lease) :
      Released inner lease settlement inner .stale
  | swept {job : Job} {rest jobs : List Job} (owns : job.Leased lease)
      (rows : inner.jobs.Perm (job :: rest)) (left : jobs.Perm rest)
      (retired : job.generation < inner.retiredBelow) :
      Released inner lease settlement { inner with jobs } .stale
  | committed {job : Job} {rest : List Job} {after : SchedulerInner} {freeSpent : Bool}
      (owns : job.Leased lease) (rows : inner.jobs.Perm (job :: rest))
      (current : inner.retiredBelow ≤ job.generation)
      (commits : Committed inner job rest settlement after) :
      Released inner lease settlement after (.committed freeSpent)

section Releases
variable {inner : SchedulerInner} {job : Job} {rest : List Job} {index : Nat}

theorem rescheduleOrAbandon_committed {now : Nat} {settlement : Option ProbeSettlement} {moved : Job}
    (asked : settlement ≠ some .deferred) (spends : chargesAttempt settlement = true)
    (removed : (Table.swapRemove inner.jobs index).Perm rest)
    (changed : ∀ change, (inner.jobs.set index change).Perm (change :: rest))
    (key : moved.key = job.key) (generation : moved.generation = job.generation)
    (attempts : moved.attempts = job.attempts) (deferrals : moved.deferrals = job.deferrals) :
    Committed inner job rest settlement (inner.rescheduleOrAbandon index moved now) := by
  unfold SchedulerInner.rescheduleOrAbandon
  dsimp only
  split
  · rw [key, generation]
    exact .ended asked removed
  · rename_i below
    exact .charged spends (changed _) key generation rfl (congrArg saturatingSucc attempts)
      (Nat.not_le.mp below) deferrals

theorem commit_committed (removed : (Table.swapRemove inner.jobs index).Perm rest)
    (changed : ∀ change, (inner.jobs.set index change).Perm (change :: rest)) (job : Job)
    (settlement : Option ProbeSettlement) (now : Nat) :
    Committed inner job rest settlement (inner.commit index job settlement now).1 ∧
      ∃ freeSpent, (inner.commit index job settlement now).2 = .committed freeSpent := by
  have charge {settlement : Option ProbeSettlement} (asked : settlement ≠ some .deferred)
      (spends : chargesAttempt settlement = true) :
      Committed inner job rest settlement (inner.rescheduleOrAbandon index job now) :=
    rescheduleOrAbandon_committed asked spends removed changed rfl rfl rfl rfl
  unfold SchedulerInner.commit
  cases settlement with
  | none => exact ⟨charge (by simp) rfl, false, rfl⟩
  | some settlement =>
    cases settlement with
    | resolved => exact ⟨.ended (by simp) removed, false, rfl⟩
    | abandoned => exact ⟨.ended (by simp) removed, false, rfl⟩
    | retryable => exact ⟨charge (by simp) rfl, false, rfl⟩
    | timedOut => exact ⟨charge (by simp) rfl, false, rfl⟩
    | spentFreeStep =>
      dsimp only
      split
      · exact ⟨.ended (by simp) removed, true, rfl⟩
      · exact ⟨rescheduleOrAbandon_committed (by simp) rfl removed changed rfl rfl rfl rfl,
          false, rfl⟩
    | deferred =>
      refine ⟨?_, false, rfl⟩
      dsimp only
      unfold SchedulerInner.deferWithoutChargingAttempt
      dsimp only
      split
      · exact .evicted removed
      · rename_i below
        exact .deferred (changed _) rfl rfl rfl rfl rfl (Nat.not_le.mp below)

/-- The first row of a key is its only one. -/
theorem position_unique (keys : (inner.jobs.map Job.key).Nodup) {key : FieldVerdictKey}
    (located : inner.position key = some index) :
    ∃ job, inner.jobs[index]? = some job ∧ job.key = key ∧
      ∀ other ∈ inner.jobs, other.key = key → other = job := by
  obtain ⟨inside, named, -⟩ := List.findIdx?_eq_some_iff_getElem.mp located
  refine ⟨inner.jobs[index], List.getElem?_eq_getElem inside, of_decide_eq_true named, ?_⟩
  intro other member same
  have alike : other.key = inner.jobs[index].key := same.trans (of_decide_eq_true named).symm
  exact List.inj_on_of_nodup_map keys member (List.getElem_mem inside) alike

theorem position_none {key : FieldVerdictKey} (missing : inner.position key = none) :
    ∀ other ∈ inner.jobs, other.key ≠ key := by
  intro other member same
  have unnamed := List.findIdx?_eq_none_iff.mp missing other member
  exact of_decide_eq_false unnamed same

theorem release_released (keys : (inner.jobs.map Job.key).Nodup) (lease : ProbeLease)
    (settlement : Option ProbeSettlement) (now : Nat) :
    Released inner lease settlement
      (inner.release lease.key lease.generation lease.leaseSeq settlement now).1
      (inner.release lease.key lease.generation lease.leaseSeq settlement now).2 := by
  unfold SchedulerInner.release
  cases located : inner.position lease.key with
  | none =>
    apply Released.missed
    intro job member owns
    exact position_none located job member owns.1
  | some index =>
    obtain ⟨job, found, named, only⟩ := position_unique keys located
    dsimp only
    rw [found]
    dsimp only
    obtain ⟨rest, rows, removed, changed⟩ := Table.split_at found
    split
    · rename_i mismatch
      apply Released.missed
      rintro other member ⟨key, generation, sequence, leased⟩
      obtain rfl := only other member key
      simp [generation, sequence, leased] at mismatch
    · rename_i matched
      have owns : job.Leased lease := by
        simp only [Bool.or_eq_true, decide_eq_true_eq, not_or, ne_eq, not_not] at matched
        exact ⟨named, matched.1.1, matched.1.2, by simpa using matched.2⟩
      split
      · rename_i retired
        exact .swept owns rows removed retired
      · rename_i current
        obtain ⟨commits, freeSpent, outcome⟩ := commit_committed removed changed job settlement now
        rw [outcome]
        exact .committed owns rows (Nat.not_lt.mp current) commits

end Releases

/-- An identity and generation that may not be asked about again. -/
structure SchedulerInner.Open (inner : SchedulerInner) (key : FieldVerdictKey)
    (generation : Nat) : Prop where
  current : inner.retiredBelow ≤ generation
  unsaturated : ∀ saturated, inner.tombstoneSaturatedAt = some saturated → saturated < generation
  unmarked : ∀ marker ∈ inner.tombstones, marker.1 = key → marker.2 < generation
  untracked : ∀ job ∈ inner.jobs, job.key ≠ key

section Admissions
variable {inner after : SchedulerInner}

/-- An activation queues one fresh row or does nothing. -/
theorem activate_cases (inner : SchedulerInner) (key : FieldVerdictKey) (generation : Nat)
    (plan : List ProbeValidator) :
    ((inner.activate key generation plan).1 = inner ∧
        (inner.activate key generation plan).2 ≠ .queued) ∨
      (inner.Open key generation ∧ inner.jobs.length < probeQueueDepth ∧
        ∃ fresh : Job, fresh.key = key ∧ fresh.generation = generation ∧ fresh.attempts = 0 ∧
          fresh.deferrals = 0 ∧ fresh.isInFlight = false ∧
          inner.activate key generation plan =
            ({ inner with jobs := inner.jobs ++ [fresh] }, .queued)) := by
  unfold SchedulerInner.activate
  split
  · exact .inl ⟨rfl, by simp⟩
  · rename_i current
    split
    · exact .inl ⟨rfl, by simp⟩
    · rename_i unsaturated
      split
      · exact .inl ⟨rfl, by simp⟩
      · rename_i unmarked
        split
        · exact .inl ⟨rfl, by simp⟩
        · rename_i untracked
          split
          · exact .inl ⟨rfl, by simp⟩
          · rename_i room
            dsimp only
            split
            · exact .inl ⟨rfl, by simp⟩
            · right
              refine ⟨⟨Nat.not_lt.mp current, ?_, ?_, ?_⟩, Nat.not_le.mp room, _, rfl, rfl, rfl, rfl,
                rfl, rfl⟩
              · intro saturated same
                simpa [same] using unsaturated
              · intro marker member same
                simp only [List.any_eq_true, not_exists, not_and, Bool.and_eq_true,
                  decide_eq_true_eq, Nat.not_le] at unmarked
                exact unmarked marker member same
              · exact position_none (by simpa using untracked)

/-- A lease is taken on one idle row of a generation that is not retired. -/
theorem leaseDue_some {now : Nat} {lease : ProbeLease}
    (leased : inner.leaseDue now = some (after, lease)) :
    inner.inFlight < probeMaxConcurrency ∧ ∃ job rest jobs, inner.jobs.Perm (job :: rest) ∧
      jobs.Perm ({ job with phase := .inFlight, leaseSeq := lease.leaseSeq } :: rest) ∧
      after = { inner with jobs, nextLeaseSeq := lease.leaseSeq } ∧
      job.key = lease.key ∧ job.generation = lease.generation ∧ job.isInFlight = false ∧
      inner.retiredBelow ≤ lease.generation := by
  unfold SchedulerInner.leaseDue at leased
  split at leased
  · cases leased
  · rename_i room
    split at leased
    · cases leased
    · rename_i index located
      split at leased
      · cases leased
      · rename_i job found
        split at leased
        · cases leased
        · rename_i validator runs
          obtain ⟨rfl, rfl⟩ := Prod.mk.inj (Option.some.inj leased)
          obtain ⟨inside, due, -⟩ := List.findIdx?_eq_some_iff_getElem.mp located
          obtain ⟨_, same⟩ := List.getElem?_eq_some_iff.mp found
          rw [same] at due
          simp only [SchedulerInner.leasable, Bool.and_eq_true, decide_eq_true_eq] at due
          obtain ⟨rest, rows, -, changed⟩ := Table.split_at found
          refine ⟨Nat.not_le.mp room, job, rest, _, rows, changed _, rfl, rfl, rfl, ?_, due.1.1⟩
          cases phase : job.phase with
          | queued => simp [Job.isInFlight, phase]
          | backingOff dueAt => simp [Job.isInFlight, phase]
          | inFlight => simp [Job.isDue, phase] at due

end Admissions
end Routectl.Probe
