import Routectl.Probe.Probing

/-! The concurrency ceiling: the guards handed out and the rows in flight are the
same leases, whatever is retired, re-activated or settled late. -/
namespace Routectl.Probe
open Routectl.Core Library Registry

/-- What identifies a lease and the row it was taken on. -/
def Job.ident (job : Job) : FieldVerdictKey × Nat × Nat := (job.key, job.generation, job.leaseSeq)

def ProbeLease.ident (lease : ProbeLease) : FieldVerdictKey × Nat × Nat :=
  (lease.key, lease.generation, lease.leaseSeq)

def busy (jobs : List Job) : List (FieldVerdictKey × Nat × Nat) :=
  (jobs.filter Job.isInFlight).map Job.ident

section Busy
variable {jobs other : List Job} {job : Job} {lease : ProbeLease}

theorem busy_perm (rows : jobs.Perm other) : (busy jobs).Perm (busy other) :=
  (rows.filter Job.isInFlight).map Job.ident

theorem busy_idle (idle : job.isInFlight = false) (rest : List Job) :
    busy (job :: rest) = busy rest := by
  simp [busy, idle]

theorem busy_leased (owns : job.Leased lease) (rest : List Job) :
    busy (job :: rest) = lease.ident :: busy rest := by
  obtain ⟨key, generation, sequence, leased⟩ := owns
  simp [busy, leased, Job.ident, ProbeLease.ident, key, generation, sequence]

theorem mem_busy (member : lease.ident ∈ busy jobs) : ∃ job ∈ jobs, job.Leased lease := by
  obtain ⟨job, inside, same⟩ := List.mem_map.mp member
  obtain ⟨present, leased⟩ := List.mem_filter.mp inside
  obtain ⟨key, generation, sequence⟩ :
      job.key = lease.key ∧ job.generation = lease.generation ∧ job.leaseSeq = lease.leaseSeq := by
    simpa [Job.ident, ProbeLease.ident] using same
  exact ⟨job, present, key, generation, sequence, leased⟩

theorem inFlight_eq (inner : SchedulerInner) :
    inner.inFlight = (busy inner.jobs).length + inner.paidSlotsHeld := by
  rw [SchedulerInner.inFlight, busy, List.length_map, List.countP_eq_length_filter]

end Busy

section Tombstones
variable (inner : SchedulerInner) (key : FieldVerdictKey) (generation : Nat)

@[simp] theorem tombstone_jobs : (inner.tombstone key generation).jobs = inner.jobs := by
  unfold SchedulerInner.tombstone
  split
  · rfl
  · split <;> rfl

@[simp] theorem tombstone_paid :
    (inner.tombstone key generation).paidSlotsHeld = inner.paidSlotsHeld := by
  unfold SchedulerInner.tombstone
  split
  · rfl
  · split <;> rfl

@[simp] theorem tombstone_retiredBelow :
    (inner.tombstone key generation).retiredBelow = inner.retiredBelow := by
  unfold SchedulerInner.tombstone
  split
  · rfl
  · split <;> rfl

end Tombstones

/-- The table within its bounds, its rows in flight exactly the leases held. -/
structure Occupied (probing : Probing) : Prop where
  keys : (probing.inner.jobs.map Job.key).Nodup
  depth : probing.inner.jobs.length ≤ probeQueueDepth
  held : (probing.leases.map fun held => held.1.ident).Perm (busy probing.inner.jobs)
  paid : probing.inner.paidSlotsHeld = probing.paidSlots
  ceiling : probing.inner.inFlight ≤ probeMaxConcurrency

section Steps
variable {probing next : Probing} {lease : ProbeLease} {ticket position : Nat}

theorem Occupied.leased (occupied : Occupied probing)
    (present : probing.leases[position]? = some (lease, ticket)) :
    ∃ job ∈ probing.inner.jobs, job.Leased lease := by
  have member := List.mem_of_getElem? present
  have ident : lease.ident ∈ probing.leases.map fun held => held.1.ident :=
    List.mem_map.mpr ⟨(lease, ticket), member, rfl⟩
  exact mem_busy (occupied.held.mem_iff.mp ident)

/-- What a release leaves of the rows: all but its own, or its own put back idle. -/
theorem Released.rows_left {inner after : SchedulerInner} {settlement : Option ProbeSettlement}
    {outcome : ReleaseOutcome} (released : Released inner lease settlement after outcome)
    (present : ∃ job ∈ inner.jobs, job.Leased lease) :
    ∃ job rest, job.Leased lease ∧ inner.jobs.Perm (job :: rest) ∧
      after.paidSlotsHeld = inner.paidSlotsHeld ∧
      (after.jobs.Perm rest ∨ ∃ row : Job, after.jobs.Perm (row :: rest) ∧
        row.key = job.key ∧ row.isInFlight = false) := by
  cases released with
  | missed gone =>
    obtain ⟨job, member, owns⟩ := present
    exact absurd owns (gone job member)
  | swept owns rows left retired => exact ⟨_, _, owns, rows, rfl, .inl left⟩
  | committed owns rows current commits =>
    refine ⟨_, _, owns, rows, ?_, ?_⟩
    · cases commits with
      | ended asked left => simp
      | evicted left => rfl
      | charged => rfl
      | deferred => rfl
    · cases commits with
      | ended asked left => exact .inl (by simpa using left)
      | evicted left => exact .inl left
      | charged spends left key generation idle => exact .inr ⟨_, left, key, idle⟩
      | deferred left key generation idle => exact .inr ⟨_, left, key, idle⟩

theorem settle_occupied (occupied : Occupied probing) {settlement : Option ProbeSettlement}
    {now : Nat} (step : probing.step (.settle position settlement now) = some next) :
    Occupied next := by
  simp only [Probing.step] at step
  split at step
  · cases step
  · rename_i lease ticket present
    obtain rfl := Option.some.inj step
    have released := release_released occupied.keys lease settlement now
    obtain ⟨job, rest, owns, rows, paid, left⟩ := released.rows_left (occupied.leased present)
    generalize probing.inner.release lease.key lease.generation lease.leaseSeq settlement now =
      result at paid left ⊢
    obtain ⟨after, outcome⟩ := result
    dsimp only at paid left ⊢
    have before : (busy probing.inner.jobs).Perm (lease.ident :: busy rest) := by
      rw [← busy_leased owns]
      exact busy_perm rows
    have onward : (busy after.jobs).Perm (busy rest) := by
      rcases left with gone | ⟨row, back, -, idle⟩
      · exact busy_perm gone
      · rw [← busy_idle idle rest]
        exact busy_perm back
    have keys : (job.key :: rest.map Job.key).Nodup :=
      (rows.map Job.key).nodup_iff.mp occupied.keys
    have depth := rows.length_eq
    rw [List.length_cons] at depth
    have room := occupied.depth
    have shorter := before.length_eq
    rw [List.length_cons] at shorter
    have ceiling := occupied.ceiling
    rw [inFlight_eq] at ceiling
    refine ⟨?_, ?_, ?_, ?_, ?_⟩
    · rcases left with gone | ⟨row, back, key, -⟩
      · exact (gone.map Job.key).nodup_iff.mpr keys.of_cons
      · rw [(back.map Job.key).nodup_iff, List.map_cons, key]
        exact keys
    · dsimp only
      rcases left with gone | ⟨row, back, -, -⟩
      · rw [gone.length_eq]
        omega
      · rw [back.length_eq, List.length_cons]
        omega
    · obtain ⟨inside, same⟩ := List.getElem?_eq_some_iff.mp present
      have split : probing.leases.Perm
          ((lease, ticket) :: probing.leases.eraseIdx position) := by
        rw [← same]
        exact (List.getElem_cons_eraseIdx_perm inside).symm
      have idents := (split.map fun held => held.1.ident).symm.trans (occupied.held.trans before)
      exact idents.cons_inv.trans onward.symm
    · exact paid.trans occupied.paid
    · dsimp only
      rw [inFlight_eq, onward.length_eq, paid]
      omega

theorem lease_occupied (occupied : Occupied probing) {now : Nat}
    (step : probing.step (.leaseDue now) = some next) : Occupied next := by
  simp only [Probing.step] at step
  split at step
  · obtain rfl := Option.some.inj step
    exact occupied
  · rename_i after lease taken
    obtain rfl := Option.some.inj step
    obtain ⟨room, job, rest, jobs, rows, left, rfl, key, generation, idle, -⟩ := leaseDue_some taken
    have before : (busy probing.inner.jobs).Perm (busy rest) := by
      rw [← busy_idle idle rest]
      exact busy_perm rows
    have owns : Job.Leased { job with phase := .inFlight, leaseSeq := lease.leaseSeq } lease :=
      ⟨key, generation, rfl, rfl⟩
    have onward : (busy jobs).Perm (lease.ident :: busy rest) := by
      rw [← busy_leased owns rest]
      exact busy_perm left
    refine ⟨?_, ?_, ?_, occupied.paid, ?_⟩
    · have keys := (rows.map Job.key).nodup_iff.mp occupied.keys
      exact (left.map Job.key).nodup_iff.mpr keys
    · have depth := occupied.depth
      have same := left.length_eq.trans rows.length_eq.symm
      exact same.trans_le depth
    · rw [List.map_append]
      have longer := (occupied.held.trans before).append_right [lease.ident]
      exact longer.trans ((List.perm_append_singleton _ _).trans onward.symm)
    · rw [inFlight_eq] at room ⊢
      have counted := before.length_eq
      have longer := onward.length_eq
      rw [List.length_cons] at longer
      dsimp only
      omega

theorem activate_occupied (occupied : Occupied probing) {key : FieldVerdictKey} {generation : Nat}
    {plan : List ProbeValidator}
    (step : probing.step (.activate key generation plan) = some next) : Occupied next := by
  simp only [Probing.step] at step
  rcases activate_cases probing.inner key generation plan with
    ⟨same, refused⟩ | ⟨opened, room, fresh, named, -, -, -, idle, queued⟩
  · split at step
    · rename_i inner accepted
      exact absurd (congrArg Prod.snd accepted) refused
    · rename_i inner outcome other accepted
      obtain rfl := Option.some.inj step
      rw [accepted] at same
      obtain rfl : inner = probing.inner := same
      exact occupied
  · rw [queued] at step
    obtain rfl := Option.some.inj step
    have rows : (probing.inner.jobs ++ [fresh]).Perm (fresh :: probing.inner.jobs) :=
      List.perm_append_singleton fresh probing.inner.jobs
    have still : (busy (probing.inner.jobs ++ [fresh])).Perm (busy probing.inner.jobs) := by
      rw [← busy_idle idle probing.inner.jobs]
      exact busy_perm rows
    refine ⟨?_, ?_, occupied.held.trans still.symm, occupied.paid, ?_⟩
    · rw [(rows.map Job.key).nodup_iff, List.map_cons, List.nodup_cons]
      refine ⟨?_, occupied.keys⟩
      intro member
      obtain ⟨job, inside, same⟩ := List.mem_map.mp member
      exact opened.untracked job inside (same.trans named)
    · dsimp only
      rw [List.length_append, List.length_singleton]
      omega
    · have ceiling := occupied.ceiling
      rw [inFlight_eq] at ceiling ⊢
      dsimp only
      rw [still.length_eq]
      exact ceiling

theorem retire_occupied (occupied : Occupied probing) (generation : Nat) :
    Occupied { probing with inner := (probing.inner.retireBefore generation).1 } := by
  have still : busy (probing.inner.jobs.filter fun job =>
      generation ≤ job.generation || job.isInFlight) = busy probing.inner.jobs := by
    unfold busy
    rw [List.filter_filter]
    congr 1
    apply List.filter_congr
    intro job _
    cases job.isInFlight <;> simp
  have kept : (probing.inner.jobs.filter fun job =>
      generation ≤ job.generation || job.isInFlight).Sublist probing.inner.jobs :=
    List.filter_sublist
  refine ⟨?_, kept.length_le.trans occupied.depth, ?_, occupied.paid, ?_⟩
  · exact (kept.map Job.key).nodup occupied.keys
  · simp only [SchedulerInner.retireBefore, still]
    exact occupied.held
  · have ceiling := occupied.ceiling
    rw [inFlight_eq] at ceiling ⊢
    simp only [SchedulerInner.retireBefore, still]
    exact ceiling

theorem step_occupied : Probing.machine.Preserves Occupied := by
  intro probing action next occupied step
  cases action with
  | activate key generation plan => exact activate_occupied occupied step
  | leaseDue now => exact lease_occupied occupied step
  | settle position settlement now => exact settle_occupied occupied step
  | retireBefore generation =>
    obtain rfl := Option.some.inj step
    exact retire_occupied occupied generation
  | tryAcquirePaidSlot =>
    simp only [Probing.machine, Probing.step, SchedulerInner.tryAcquirePaidSlot] at step
    by_cases full : probeMaxConcurrency ≤ probing.inner.inFlight
    · rw [if_pos full] at step
      obtain rfl := Option.some.inj step
      exact occupied
    · rw [if_neg full] at step
      obtain rfl := Option.some.inj step
      refine ⟨occupied.keys, occupied.depth, occupied.held, congrArg Nat.succ occupied.paid, ?_⟩
      have room := Nat.not_le.mp full
      rw [inFlight_eq] at room ⊢
      exact room
  | dropPaidSlot =>
    simp only [Probing.machine, Probing.step] at step
    split at step
    · cases step
    · obtain rfl := Option.some.inj step
      have ceiling := occupied.ceiling
      refine ⟨occupied.keys, occupied.depth, occupied.held,
        congrArg (fun held => held - 1) occupied.paid, ?_⟩
      rw [inFlight_eq] at ceiling ⊢
      simp only [SchedulerInner.releasePaidSlot]
      omega

end Steps

/-- At every instant the unsettled leases and live paid slots are what `inFlight`
counts, within the ceiling; rows are one a key and within the depth; no lease is
handed out below the retirement floor; and a stale settlement sweeps its own
retired row and nothing else. -/
theorem probe_ceiling {actions : List ProbeAction} {probing : Probing}
    (reached : Probing.machine.run .initial actions = some probing) :
    (probing.leases.length + probing.paidSlots = probing.inner.inFlight ∧
        probing.inner.inFlight ≤ probeMaxConcurrency) ∧
      ((probing.inner.jobs.map Job.key).Nodup ∧ probing.inner.jobs.length ≤ probeQueueDepth) ∧
      (∀ now after lease, probing.inner.leaseDue now = some (after, lease) →
        probing.inner.retiredBelow ≤ lease.generation) ∧
      ∀ lease ticket, (lease, ticket) ∈ probing.leases → ∀ settlement now after,
        probing.inner.release lease.key lease.generation lease.leaseSeq settlement now =
            (after, .stale) →
          ∃ row, row.Leased lease ∧ row.generation < probing.inner.retiredBelow ∧
            probing.inner.jobs.Perm (row :: after.jobs) ∧
            after = { probing.inner with jobs := after.jobs } := by
  have initial : Occupied Probing.initial :=
    ⟨List.nodup_nil, Nat.zero_le _, List.Perm.nil, rfl, by decide⟩
  have occupied : Occupied probing := step_occupied.run _ initial reached
  refine ⟨⟨?_, occupied.ceiling⟩, ⟨occupied.keys, occupied.depth⟩, ?_, ?_⟩
  · have counted := occupied.held.length_eq
    rw [List.length_map] at counted
    rw [inFlight_eq, counted, occupied.paid]
  · intro now after lease leased
    obtain ⟨-, _, _, _, -, -, -, -, -, -, current⟩ := leaseDue_some leased
    exact current
  · intro lease ticket member settlement now after stale
    obtain ⟨position, present⟩ := List.getElem?_of_mem member
    have released := release_released occupied.keys lease settlement now
    rw [stale] at released
    cases released with
    | missed gone =>
      obtain ⟨job, inside, owns⟩ := occupied.leased present
      exact absurd owns (gone job inside)
    | swept owns rows left retired =>
      exact ⟨_, owns, retired, rows.trans (left.symm.cons _), rfl⟩

section Sample

def thinking : FieldVerdictKey := ⟨"lane", "envelope.thinking.display", "anthropic"⟩

def probingAfter (actions : List ProbeAction) : Probing :=
  (Probing.machine.run .initial actions).getD .initial

/-- A lease outlives the generation it was taken in. -/
def retiredInFlight : List ProbeAction :=
  [.activate thinking 0 [.countTokens, .paidCompletion], .leaseDue 0, .retireBefore 1]

/-- The retired row holds its slot until its lease settles, and is then swept. -/
theorem retired_lease_holds_its_slot :
    (probingAfter retiredInFlight).inner.inFlight = 1 ∧
      ∃ row : Job, row.key = thinking ∧ row.generation < 1 ∧
        (probingAfter retiredInFlight).inner.jobs.Perm [row] := by
  have reached : Probing.machine.run .initial retiredInFlight =
      some (probingAfter retiredInFlight) := rfl
  obtain ⟨⟨counted, -⟩, -, -, sweeps⟩ := probe_ceiling reached
  refine ⟨counted.symm, ?_⟩
  obtain ⟨row, owns, retired, rows, -⟩ := sweeps
    { key := thinking, generation := 0, validator := .countTokens, leaseSeq := 1 } 1
    (List.mem_singleton_self _) (some .resolved) 5 _ rfl
  exact ⟨row, owns.1, retired, rows⟩

end Sample
end Routectl.Probe
