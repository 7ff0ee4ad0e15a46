import Mathlib.Algebra.Order.Ring.Rat
import Mathlib.Algebra.Ring.Nat

/-! A quota reading and the two clocks it is dated on. Instants, wall times and
durations are nanoseconds. -/
namespace Routectl.Quota

/-- When an observation was taken, on both clocks. -/
structure ObservationStamp where
  wall : Nat
  monotonic : Nat
deriving Repr, DecidableEq

/-- A reset instant that was accepted. -/
structure ValidatedReset where
  at_ : Nat
deriving Repr, DecidableEq

def nanosPerSecond : Nat := 1000000000

def isFresh (resetAt : Nat) (observed now : ObservationStamp) (maxAge : Nat) : Bool :=
  if now.monotonic < observed.monotonic then false
  else now.monotonic - observed.monotonic ≤ maxAge && now.wall < resetAt

theorem isFresh_iff {resetAt maxAge : Nat} {observed now : ObservationStamp} :
    isFresh resetAt observed now maxAge = true ↔
      observed.monotonic ≤ now.monotonic ∧ now.monotonic - observed.monotonic ≤ maxAge ∧
        now.wall < resetAt := by
  unfold isFresh
  split
  · rename_i earlier
    simp [Nat.not_le.mpr earlier]
  · rename_i later
    simp [Nat.not_lt.mp later]

/-- A reading only ever goes stale: fresh later, it was fresh before. -/
theorem isFresh_earlier {resetAt maxAge : Nat} {observed now earlier : ObservationStamp}
    (fresh : isFresh resetAt observed now maxAge = true)
    (since : observed.monotonic ≤ earlier.monotonic)
    (monotonic : earlier.monotonic ≤ now.monotonic) (wall : earlier.wall ≤ now.wall) :
    isFresh resetAt observed earlier maxAge = true := by
  obtain ⟨-, aged, unreached⟩ := isFresh_iff.mp fresh
  apply isFresh_iff.mpr
  refine ⟨since, ?_, ?_⟩
  · omega
  · omega

/-- A utilization is a fraction of its window. -/
structure Utilization where
  fraction : Rat
  nonneg : 0 ≤ fraction
  atMostOne : fraction ≤ 1
deriving DecidableEq

/-- `none` is a non-finite raw value. Above the limit saturates to exhausted. -/
def Utilization.new (raw : Option Rat) : Option Utilization :=
  match raw with
  | none => none
  | some value =>
    if valid : 0 ≤ value then
      some
        { fraction := min value 1
          nonneg := le_min valid (by decide)
          atMostOne := min_le_right value 1 }
    else none

inductive WindowRole where
  | fast
  | slow
deriving Repr, DecidableEq

inductive Billing where
  | unknown
  | included
  | overage
deriving Repr, DecidableEq

inductive QuotaWindow where
  | unknown
  | known (utilization : Utilization) (resetAt : ValidatedReset)
deriving DecidableEq

structure QuotaSnapshot where
  observed : ObservationStamp
  fast : QuotaWindow
  slow : QuotaWindow
  billing : Billing
deriving DecidableEq

def QuotaSnapshot.window (snapshot : QuotaSnapshot) : WindowRole → QuotaWindow
  | .fast => snapshot.fast
  | .slow => snapshot.slow

end Routectl.Quota
