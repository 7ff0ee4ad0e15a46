import Routectl.Core.Capability
import Routectl.Library.Table
import Routectl.Registry.Entry

/-! The bounded queue of background probes: one row an identity, leased under one
concurrency ceiling, settled or retired by generation. Instants are nanoseconds. -/
namespace Routectl.Probe
open Routectl.Core Library Registry

def probeQueueDepth : Nat := 16
def probeMaxConcurrency : Nat := 2
def probeTombstoneCapacity : Nat := 256
def probeMaxAttempts : Nat := 3
def probeMaxDeferrals : Nat := 8
def probeBackoffBase : Nat := 60 * 1000000000
def probeBackoffCeiling : Nat := 3600 * 1000000000

def backoffForAttempt (attempt : Nat) : Nat :=
  let exponent := min (attempt - 1) 20
  min (probeBackoffBase * 2 ^ exponent) probeBackoffCeiling

inductive ProbeValidator where
  | countTokens
  | expectedRejection
  | paidCompletion
deriving Repr, DecidableEq

def ProbeValidator.isFree : ProbeValidator → Bool
  | .countTokens | .expectedRejection => true
  | .paidCompletion => false

inductive ProbeActivation where
  | queued
  | deduped
  | queueFull
  | retired
  | noFreeValidator
  | tombstoned
deriving Repr, DecidableEq

inductive ProbeSettlement where
  | resolved
  | retryable
  | deferred
  | spentFreeStep
  | timedOut
  | abandoned
deriving Repr, DecidableEq

inductive ReleaseOutcome where
  | stale
  | committed (freeSpent : Bool)
deriving Repr, DecidableEq

inductive JobPhase where
  | queued
  | inFlight
  | backingOff (dueAt : Nat)
deriving Repr, DecidableEq

structure Job where
  key : FieldVerdictKey
  generation : Nat
  plan : List ProbeValidator
  planCursor : Nat
  attempts : Nat
  deferrals : Nat
  phase : JobPhase
  leaseSeq : Nat
deriving Repr, DecidableEq

namespace Job

def validator (job : Job) : Option ProbeValidator := job.plan[job.planCursor]?

def isInFlight (job : Job) : Bool := job.phase = .inFlight

def isDue (job : Job) (now : Nat) : Bool :=
  match job.phase with
  | .queued => true
  | .backingOff dueAt => dueAt ≤ now
  | .inFlight => false

end Job

/-- The guard a worker holds while its operation runs. -/
structure ProbeLease where
  key : FieldVerdictKey
  generation : Nat
  validator : ProbeValidator
  leaseSeq : Nat
deriving Repr, DecidableEq

structure SchedulerInner where
  jobs : List Job
  tombstones : List (FieldVerdictKey × Nat)
  tombstoneSaturatedAt : Option Nat
  retiredBelow : Nat
  nextLeaseSeq : Nat
  paidSlotsHeld : Nat
deriving Repr, DecidableEq

namespace SchedulerInner

def new : SchedulerInner :=
  { jobs := [], tombstones := [], tombstoneSaturatedAt := none, retiredBelow := 0,
    nextLeaseSeq := 0, paidSlotsHeld := 0 }

variable (inner : SchedulerInner)

def position (key : FieldVerdictKey) : Option Nat := inner.jobs.findIdx? fun job => job.key = key

/-- Leased free jobs and held paid slots share one ceiling. -/
def inFlight : Nat := inner.jobs.countP Job.isInFlight + inner.paidSlotsHeld

/-- A terminal marker, or a saturation of the whole incarnation where none fits. -/
def tombstone (key : FieldVerdictKey) (generation : Nat) : SchedulerInner :=
  match inner.tombstones.findIdx? fun marker => marker.1 = key with
  | some index =>
    { inner with
      tombstones := inner.tombstones.modify index fun marker =>
        (marker.1, max marker.2 generation) }
  | none =>
    if probeTombstoneCapacity ≤ inner.tombstones.length then
      { inner with
        tombstoneSaturatedAt :=
          some (inner.tombstoneSaturatedAt.elim generation fun existing => max existing generation) }
    else { inner with tombstones := inner.tombstones ++ [(key, generation)] }

def activate (key : FieldVerdictKey) (generation : Nat) (plan : List ProbeValidator) :
    SchedulerInner × ProbeActivation :=
  if generation < inner.retiredBelow then (inner, .retired)
  else if inner.tombstoneSaturatedAt.any fun saturated => generation ≤ saturated then
    (inner, .tombstoned)
  else if inner.tombstones.any fun marker => marker.1 = key && generation ≤ marker.2 then
    (inner, .tombstoned)
  else if (inner.position key).isSome then (inner, .deduped)
  else if probeQueueDepth ≤ inner.jobs.length then (inner, .queueFull)
  else
    let plan := plan.filter ProbeValidator.isFree
    if plan.isEmpty then (inner, .noFreeValidator)
    else
      ({ inner with
         jobs := inner.jobs ++
           [{ key, generation, plan, planCursor := 0, attempts := 0, deferrals := 0,
              phase := .queued, leaseSeq := 0 }] },
       .queued)

def leasable (now : Nat) (job : Job) : Bool :=
  inner.retiredBelow ≤ job.generation && job.validator.isSome && job.isDue now

/-- The sequence wraps as the machine word does. -/
def leaseDue (now : Nat) : Option (SchedulerInner × ProbeLease) :=
  if probeMaxConcurrency ≤ inner.inFlight then none
  else
    match inner.jobs.findIdx? (inner.leasable now) with
    | none => none
    | some index =>
      match inner.jobs[index]? with
      | none => none
      | some job =>
        match job.validator with
        | none => none
        | some validator =>
          let leaseSeq := (inner.nextLeaseSeq + 1) % 2 ^ 64
          some
            ({ inner with
               nextLeaseSeq := leaseSeq,
               jobs := inner.jobs.set index { job with phase := .inFlight, leaseSeq } },
             { key := job.key, generation := job.generation, validator, leaseSeq })

/-- An in-flight row of a superseded generation stays, to keep its slot counted. -/
def retireBefore (generation : Nat) : SchedulerInner × Nat :=
  let jobs := inner.jobs.filter fun job => generation ≤ job.generation || job.isInFlight
  ({ inner with
     retiredBelow := max inner.retiredBelow generation,
     tombstones := inner.tombstones.filter fun marker => generation ≤ marker.2,
     tombstoneSaturatedAt :=
       inner.tombstoneSaturatedAt.filter fun saturated => generation ≤ saturated,
     jobs },
   inner.jobs.length - jobs.length)

def tryAcquirePaidSlot : Option SchedulerInner :=
  if probeMaxConcurrency ≤ inner.inFlight then none
  else some { inner with paidSlotsHeld := inner.paidSlotsHeld + 1 }

def releasePaidSlot : SchedulerInner := { inner with paidSlotsHeld := inner.paidSlotsHeld - 1 }

def remove (index : Nat) : SchedulerInner :=
  { inner with jobs := Table.swapRemove inner.jobs index }

/-- Back off without charging an attempt; at the ceiling the row is evicted, and
leaves no marker. -/
def deferWithoutChargingAttempt (index : Nat) (job : Job) (now : Nat) : SchedulerInner :=
  let deferred := { job with deferrals := saturatingSucc job.deferrals }
  if probeMaxDeferrals ≤ deferred.deferrals then inner.remove index
  else
    { inner with
      jobs := inner.jobs.set index
        { deferred with
          phase := .backingOff (now + backoffForAttempt (saturatingSucc deferred.attempts)) } }

def rescheduleOrAbandon (index : Nat) (job : Job) (now : Nat) : SchedulerInner :=
  let charged := { job with attempts := saturatingSucc job.attempts }
  if probeMaxAttempts ≤ charged.attempts then
    (inner.remove index).tombstone charged.key charged.generation
  else
    { inner with
      jobs := inner.jobs.set index
        { charged with phase := .backingOff (now + backoffForAttempt charged.attempts) } }

/-- What the settling critical section does to the row it owns. -/
def commit (index : Nat) (job : Job) (settlement : Option ProbeSettlement) (now : Nat) :
    SchedulerInner × ReleaseOutcome :=
  match settlement with
  | some .resolved | some .abandoned =>
    ((inner.remove index).tombstone job.key job.generation, .committed false)
  | some .timedOut | some .retryable | none =>
    (inner.rescheduleOrAbandon index job now, .committed false)
  | some .spentFreeStep =>
    let advanced := { job with planCursor := job.planCursor + 1 }
    if advanced.validator.isNone then
      ((inner.remove index).tombstone job.key job.generation, .committed true)
    else (inner.rescheduleOrAbandon index advanced now, .committed false)
  | some .deferred => (inner.deferWithoutChargingAttempt index job now, .committed false)

/-- `settlement` is `none` for a lease dropped unsettled. A retired row is swept
here, and reported stale. -/
def release (key : FieldVerdictKey) (generation leaseSeq : Nat)
    (settlement : Option ProbeSettlement) (now : Nat) : SchedulerInner × ReleaseOutcome :=
  match inner.position key with
  | none => (inner, .stale)
  | some index =>
    match inner.jobs[index]? with
    | none => (inner, .stale)
    | some job =>
      if job.generation ≠ generation || job.leaseSeq ≠ leaseSeq || !job.isInFlight then
        (inner, .stale)
      else if job.generation < inner.retiredBelow then (inner.remove index, .stale)
      else inner.commit index job settlement now

end SchedulerInner
end Routectl.Probe
