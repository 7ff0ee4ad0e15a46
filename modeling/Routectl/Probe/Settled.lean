import Routectl.Probe.Occupancy

/-! Settled questions stay settled: a marker, the saturation of its incarnation or the
retirement floor bars every generation a terminal settlement has answered for. -/
namespace Routectl.Probe
open Routectl.Core Library Registry

/-- No activation of `key` at `generation` or below is admitted. -/
def SchedulerInner.Barred (inner : SchedulerInner) (key : FieldVerdictKey) (generation : Nat) :
    Prop :=
  generation < inner.retiredBelow ∨
    (∃ marker ∈ inner.tombstones, marker.1 = key ∧ generation ≤ marker.2) ∨
    ∃ saturated, inner.tombstoneSaturatedAt = some saturated ∧ generation ≤ saturated

section Barring
variable {inner : SchedulerInner} {key other : FieldVerdictKey} {generation incoming : Nat}

/-- A terminal settlement bars its own question, marker capacity or not. -/
theorem tombstone_barred (inner : SchedulerInner) (key : FieldVerdictKey) (generation : Nat) :
    (inner.tombstone key generation).Barred key generation := by
  unfold SchedulerInner.tombstone
  split
  · rename_i index located
    obtain ⟨inside, named, -⟩ := List.findIdx?_eq_some_iff_getElem.mp located
    refine .inr (.inl ⟨(inner.tombstones[index].1, max inner.tombstones[index].2 generation), ?_,
      of_decide_eq_true named, Nat.le_max_right _ _⟩)
    exact List.mem_iff_getElem?.mpr ⟨index, by simp [inside]⟩
  · split
    · refine .inr (.inr ⟨_, rfl, ?_⟩)
      cases inner.tombstoneSaturatedAt with
      | none => exact Nat.le_refl generation
      | some existing => exact Nat.le_max_right _ _
    · exact .inr (.inl ⟨(key, generation), by simp, rfl, Nat.le_refl generation⟩)

/-- A later marker never takes an earlier one's bar away. -/
theorem SchedulerInner.Barred.tombstone (barred : inner.Barred key generation)
    (other : FieldVerdictKey) (incoming : Nat) :
    (inner.tombstone other incoming).Barred key generation := by
  rcases barred with floor | ⟨marker, member, named, below⟩ | ⟨saturated, same, below⟩
  · exact .inl (by simpa using floor)
  · right
    unfold SchedulerInner.tombstone
    split
    · rename_i index located
      left
      obtain ⟨place, held⟩ := List.mem_iff_getElem?.mp member
      by_cases own : index = place
      · subst own
        refine ⟨(marker.1, max marker.2 incoming), ?_, named, below.trans (Nat.le_max_left _ _)⟩
        exact List.mem_iff_getElem?.mpr ⟨index, by simp [held]⟩
      · refine ⟨marker, ?_, named, below⟩
        exact List.mem_iff_getElem?.mpr ⟨place, by simp [own, held]⟩
    · split
      · exact .inl ⟨marker, member, named, below⟩
      · exact .inl ⟨marker, List.mem_append_left _ member, named, below⟩
  · right; right
    unfold SchedulerInner.tombstone
    split
    · exact ⟨saturated, same, below⟩
    · split
      · exact ⟨_, by rw [same]; rfl, below.trans (Nat.le_max_left _ _)⟩
      · exact ⟨saturated, same, below⟩

/-- Retirement lifts a bar only where its floor takes the bar's place. -/
theorem SchedulerInner.Barred.retire (barred : inner.Barred key generation) (incoming : Nat) :
    (inner.retireBefore incoming).1.Barred key generation := by
  simp only [SchedulerInner.retireBefore]
  rcases Nat.lt_or_ge generation incoming with below | above
  · exact .inl (below.trans_le (Nat.le_max_right _ _))
  · rcases barred with floor | ⟨marker, member, named, covers⟩ | ⟨saturated, same, covers⟩
    · exact .inl (floor.trans_le (Nat.le_max_left _ _))
    · refine .inr (.inl ⟨marker, List.mem_filter.mpr ⟨member, ?_⟩, named, covers⟩)
      exact decide_eq_true (above.trans covers)
    · refine .inr (.inr ⟨saturated, ?_, covers⟩)
      simp [same, above.trans covers]

/-- The rows carry no bar. -/
theorem SchedulerInner.Barred.rows (barred : inner.Barred key generation) (jobs : List Job) :
    SchedulerInner.Barred { inner with jobs } key generation := barred

theorem SchedulerInner.Open.above (opened : inner.Open key incoming)
    (barred : inner.Barred key generation) : generation < incoming := by
  rcases barred with floor | ⟨marker, member, named, covers⟩ | ⟨saturated, same, covers⟩
  · exact floor.trans_le opened.current
  · exact covers.trans_lt (opened.unmarked marker member named)
  · exact covers.trans_lt (opened.unsaturated saturated same)

end Barring

/-- What the row of an activation has spent of its ticket. -/
structure Spent (probing : Probing) (job : Job) (ticket : Nat) : Prop where
  issued : probing.tickets.lookup job.key = some ticket
  attempts : probing.charged.count ticket = job.attempts
  deferrals : probing.deferred.count ticket = job.deferrals
  attemptsLeft : job.attempts < probeMaxAttempts
  deferralsLeft : job.deferrals < probeMaxDeferrals

structure Settled (probing : Probing) : Prop where
  occupied : Occupied probing
  barred : ∀ question ∈ probing.ended, probing.inner.Barred question.1 question.2
  newer : ∀ question ∈ probing.ended, ∀ job ∈ probing.inner.jobs, job.key = question.1 →
    question.2 < job.generation
  spent : ∀ job ∈ probing.inner.jobs, ∃ ticket, Spent probing job ticket
  distinct : ∀ first second ticket, probing.tickets.lookup first = some ticket →
    probing.tickets.lookup second = some ticket → first = second
  issued : ∀ key ticket, probing.tickets.lookup key = some ticket → ticket ≤ probing.accepted
  used : ∀ ticket ∈ probing.charged ++ probing.deferred, ticket ≤ probing.accepted
  leased : ∀ held ∈ probing.leases, probing.tickets.lookup held.1.key = some held.2
  bounded : ∀ ticket, probing.charged.count ticket ≤ probeMaxAttempts ∧
    probing.deferred.count ticket ≤ probeMaxDeferrals

/-- A row as a committed settlement puts it back. -/
structure Job.Respent (job row : Job) (settlement : Option ProbeSettlement) : Prop where
  key : row.key = job.key
  generation : row.generation = job.generation
  attempts : row.attempts = job.attempts + (chargesAttempt settlement).toNat
  deferrals : row.deferrals = job.deferrals + (decide (settlement = some .deferred)).toNat
  attemptsLeft : row.attempts < probeMaxAttempts
  deferralsLeft : row.deferrals < probeMaxDeferrals

section Releases
variable {inner after : SchedulerInner} {job : Job} {rest : List Job} {lease : ProbeLease}
  {settlement : Option ProbeSettlement} {outcome : ReleaseOutcome}

theorem saturatingSucc_small {value bound : Nat} (below : value < bound) (small : bound ≤ 8) :
    saturatingSucc value = value + 1 := by
  simp only [saturatingSucc, u32Max]
  omega

theorem Committed.keeps_bars (commits : Committed inner job rest settlement after)
    {key : FieldVerdictKey} {generation : Nat} (barred : inner.Barred key generation) :
    after.Barred key generation := by
  cases commits with
  | ended asked rows => exact (barred.rows _).tombstone job.key job.generation
  | evicted rows => exact barred
  | charged => exact barred
  | deferred => exact barred

theorem Committed.row_left (commits : Committed inner job rest settlement after)
    (attemptsLeft : job.attempts < probeMaxAttempts)
    (deferralsLeft : job.deferrals < probeMaxDeferrals) :
    ∀ row ∈ after.jobs, row ∈ rest ∨ job.Respent row settlement := by
  intro row member
  cases commits with
  | ended asked rows =>
    rw [tombstone_jobs] at member
    exact .inl (rows.mem_iff.mp member)
  | evicted rows => exact .inl (rows.mem_iff.mp member)
  | charged spends rows key generation idle attempts below deferrals =>
    rcases List.mem_cons.mp (rows.mem_iff.mp member) with rfl | member
    · right
      have asked : settlement ≠ some .deferred := by
        rintro rfl
        cases spends
      refine ⟨key, generation, ?_, ?_, below, deferrals.trans_lt deferralsLeft⟩
      · rw [attempts, saturatingSucc_small attemptsLeft (by decide), spends]
        rfl
      · simpa [asked] using deferrals
    · exact .inl member
  | deferred rows key generation idle attempts deferrals below =>
    rcases List.mem_cons.mp (rows.mem_iff.mp member) with rfl | member
    · right
      refine ⟨key, generation, attempts, ?_, attempts.trans_lt attemptsLeft, below⟩
      rw [deferrals, saturatingSucc_small deferralsLeft (by decide)]
      rfl
    · exact .inl member

/-- A question that ended is barred where its row was current, and below the floor
where it was not. -/
theorem Released.bars (released : Released inner lease settlement after outcome)
    (present : ∃ job ∈ inner.jobs, job.Leased lease)
    (ends : endsQuestion after lease.key settlement = true) :
    after.Barred lease.key lease.generation := by
  simp only [endsQuestion, Bool.and_eq_true, decide_eq_true_eq, Option.isNone_iff_eq_none] at ends
  obtain ⟨asked, gone⟩ := ends
  cases released with
  | missed missing =>
    obtain ⟨job, member, owns⟩ := present
    exact absurd owns (missing job member)
  | swept owns rows left retired => exact .inl (owns.2.1 ▸ retired)
  | committed owns rows current commits =>
    cases commits with
    | ended _ left =>
      rw [owns.1, owns.2.1]
      exact tombstone_barred _ lease.key lease.generation
    | evicted left => exact absurd rfl asked
    | charged spends left key =>
      exact absurd (key.trans owns.1) (position_none gone _ (left.mem_iff.mpr (by simp)))
    | deferred left => exact absurd rfl asked

/-- A release gives back no row but the rest, and its own spent by the settlement. -/
theorem Released.rows_spent (released : Released inner lease settlement after outcome)
    (present : ∃ job ∈ inner.jobs, job.Leased lease)
    (left : ∀ job ∈ inner.jobs, job.attempts < probeMaxAttempts ∧
      job.deferrals < probeMaxDeferrals) :
    ∃ job rest, job.Leased lease ∧ inner.jobs.Perm (job :: rest) ∧
      (∀ row ∈ after.jobs, row ∈ rest ∨ job.Respent row settlement) ∧
      ∀ key generation, inner.Barred key generation → after.Barred key generation := by
  cases released with
  | missed missing =>
    obtain ⟨job, member, owns⟩ := present
    exact absurd owns (missing job member)
  | swept owns rows remain retired =>
    refine ⟨_, _, owns, rows, ?_, fun key generation barred => barred⟩
    intro row member
    exact .inl (remain.mem_iff.mp member)
  | @committed job rest after freeSpent owns rows current commits =>
    obtain ⟨attemptsLeft, deferralsLeft⟩ := left job (rows.mem_iff.mpr (List.mem_cons_self ..))
    exact ⟨job, rest, owns, rows, commits.row_left attemptsLeft deferralsLeft,
      fun key generation barred => commits.keeps_bars barred⟩

end Releases

theorem count_spent {spends : Prop} [Decidable spends] (held : List Nat) (ticket other : Nat) :
    (if spends then held ++ [ticket] else held).count other =
      held.count other + if other = ticket then (decide spends).toNat else 0 := by
  by_cases spending : spends
  · by_cases own : other = ticket
    · simp [spending, own]
    · simp [spending, own, Ne.symm own]
  · simp [spending]

theorem mem_spent {spends : Prop} [Decidable spends] {held : List Nat} {ticket other : Nat}
    (member : other ∈ if spends then held ++ [ticket] else held) :
    other ∈ held ∨ other = ticket := by
  split at member
  · simpa using member
  · exact .inl member

section Steps
variable {probing next : Probing}

theorem Settled.rows_left (settled : Settled probing) :
    ∀ job ∈ probing.inner.jobs, job.attempts < probeMaxAttempts ∧
      job.deferrals < probeMaxDeferrals := by
  intro job member
  obtain ⟨ticket, spent⟩ := settled.spent job member
  exact ⟨spent.attemptsLeft, spent.deferralsLeft⟩

theorem settle_settled (settled : Settled probing) {position now : Nat}
    {settlement : Option ProbeSettlement}
    (step : probing.step (.settle position settlement now) = some next) : Settled next := by
  have occupied := settle_occupied settled.occupied step
  simp only [Probing.step] at step
  split at step
  · cases step
  · rename_i lease ticket present
    obtain rfl := Option.some.inj step
    have held := settled.occupied.leased present
    have released := release_released settled.occupied.keys lease settlement now
    generalize probing.inner.release lease.key lease.generation lease.leaseSeq settlement now =
      result at occupied released ⊢
    obtain ⟨after, outcome⟩ := result
    dsimp only at occupied released ⊢
    obtain ⟨job, rest, owns, rows, left, bars⟩ := released.rows_spent held settled.rows_left
    have own : job ∈ probing.inner.jobs := rows.mem_iff.mpr (List.mem_cons_self ..)
    have others : ∀ row ∈ rest, row ∈ probing.inner.jobs := fun row member =>
      rows.mem_iff.mpr (List.mem_cons_of_mem job member)
    have issued := settled.leased _ (List.mem_of_getElem? present)
    dsimp only at issued
    obtain ⟨_, spent⟩ := settled.spent job own
    have agreed := spent.issued
    rw [owns.1, issued] at agreed
    rw [← Option.some.inj agreed] at spent
    have apart : ∀ row ∈ rest, row.key ≠ lease.key := by
      have keys := (rows.map Job.key).nodup_iff.mp settled.occupied.keys
      rw [List.map_cons, List.nodup_cons] at keys
      intro row member same
      exact keys.1 (List.mem_map.mpr ⟨row, member, same.trans owns.1.symm⟩)
    have known : ∀ row ∈ after.jobs, ∃ earlier ∈ probing.inner.jobs,
        row.key = earlier.key ∧ row.generation = earlier.generation := by
      intro row member
      rcases left row member with same | back
      · exact ⟨row, others row same, rfl, rfl⟩
      · exact ⟨job, own, back.key, back.generation⟩
    constructor
    case occupied => exact occupied
    case barred =>
      intro question member
      by_cases ends : endsQuestion after lease.key settlement = true
      · rw [if_pos ends] at member
        rcases List.mem_append.mp member with earlier | now
        · exact bars _ _ (settled.barred question earlier)
        · obtain rfl := List.mem_singleton.mp now
          exact released.bars held ends
      · rw [if_neg ends] at member
        exact bars _ _ (settled.barred question member)
    case newer =>
      intro question member row inside named
      obtain ⟨earlier, before, key, generation⟩ := known row inside
      have older (asked : question ∈ probing.ended) : question.2 < row.generation := by
        rw [generation]
        exact settled.newer question asked earlier before (key.symm.trans named)
      by_cases ends : endsQuestion after lease.key settlement = true
      · rw [if_pos ends] at member
        rcases List.mem_append.mp member with asked | now
        · exact older asked
        · obtain rfl := List.mem_singleton.mp now
          simp only [endsQuestion, Bool.and_eq_true, Option.isNone_iff_eq_none] at ends
          exact absurd named (position_none ends.2 row inside)
      · rw [if_neg ends] at member
        exact older member
    case spent =>
      intro row member
      rcases left row member with same | back
      · obtain ⟨other, kept⟩ := settled.spent row (others row same)
        have different : other ≠ ticket := by
          rintro rfl
          exact apart row same (settled.distinct _ _ _ kept.issued issued)
        refine ⟨other, kept.issued, ?_, ?_, kept.attemptsLeft, kept.deferralsLeft⟩
        · rw [count_spent, if_neg different]
          exact kept.attempts
        · rw [count_spent, if_neg different]
          exact kept.deferrals
      · refine ⟨ticket, ?_, ?_, ?_, back.attemptsLeft, back.deferralsLeft⟩
        · rw [back.key]
          exact spent.issued
        · rw [count_spent, if_pos rfl, back.attempts, spent.attempts, Bool.decide_eq_true]
        · rw [count_spent, if_pos rfl, back.deferrals, spent.deferrals]
    case distinct => exact settled.distinct
    case issued => exact settled.issued
    case used =>
      intro spending member
      have fresh : ticket ≤ probing.accepted := settled.issued _ _ issued
      have before := settled.used spending
      rw [List.mem_append] at member before
      rcases member with charged | deferred
      · rcases mem_spent charged with earlier | rfl
        · exact before (.inl earlier)
        · exact fresh
      · rcases mem_spent deferred with earlier | rfl
        · exact before (.inr earlier)
        · exact fresh
    case leased =>
      intro other member
      exact settled.leased other (List.mem_of_mem_eraseIdx member)
    case bounded =>
      intro other
      obtain ⟨attempts, deferrals⟩ := settled.bounded other
      rw [count_spent, count_spent]
      by_cases same : other = ticket
      · subst same
        have attemptsLeft := spent.attemptsLeft
        have deferralsLeft := spent.deferralsLeft
        have once := Bool.toNat_le (decide (chargesAttempt settlement = true))
        have onceMore := Bool.toNat_le (decide (settlement = some .deferred))
        rw [if_pos rfl, if_pos rfl, spent.attempts, spent.deferrals]
        omega
      · rw [if_neg same, if_neg same]
        exact ⟨attempts, deferrals⟩

theorem lease_settled (settled : Settled probing) {now : Nat}
    (step : probing.step (.leaseDue now) = some next) : Settled next := by
  have occupied := lease_occupied settled.occupied step
  simp only [Probing.step] at step
  split at step
  · obtain rfl := Option.some.inj step
    exact settled
  · rename_i after lease taken
    obtain rfl := Option.some.inj step
    obtain ⟨-, job, rest, jobs, rows, left, rfl, named, -, -, -⟩ := leaseDue_some taken
    have own : job ∈ probing.inner.jobs := rows.mem_iff.mpr (List.mem_cons_self ..)
    have known : ∀ row ∈ jobs, ∃ earlier ∈ probing.inner.jobs,
        row.key = earlier.key ∧ row.generation = earlier.generation ∧
          row.attempts = earlier.attempts ∧ row.deferrals = earlier.deferrals := by
      intro row member
      rcases List.mem_cons.mp (left.mem_iff.mp member) with rfl | inside
      · exact ⟨job, own, rfl, rfl, rfl, rfl⟩
      · exact ⟨row, rows.mem_iff.mpr (List.mem_cons_of_mem job inside), rfl, rfl, rfl, rfl⟩
    constructor
    case occupied => exact occupied
    case barred =>
      intro question member
      exact (settled.barred question member).rows jobs
    case newer =>
      intro question member row inside same
      obtain ⟨earlier, before, key, generation, -, -⟩ := known row inside
      rw [generation]
      exact settled.newer question member earlier before (key.symm.trans same)
    case spent =>
      intro row inside
      obtain ⟨earlier, before, key, -, attempts, deferrals⟩ := known row inside
      obtain ⟨ticket, spent⟩ := settled.spent earlier before
      refine ⟨ticket, ?_, ?_, ?_, ?_, ?_⟩
      · rw [key]
        exact spent.issued
      · rw [attempts]
        exact spent.attempts
      · rw [deferrals]
        exact spent.deferrals
      · rw [attempts]
        exact spent.attemptsLeft
      · rw [deferrals]
        exact spent.deferralsLeft
    case distinct => exact settled.distinct
    case issued => exact settled.issued
    case used => exact settled.used
    case leased =>
      intro held member
      rcases List.mem_append.mp member with earlier | fresh
      · exact settled.leased held earlier
      · obtain rfl := List.mem_singleton.mp fresh
        obtain ⟨ticket, spent⟩ := settled.spent job own
        have issued := spent.issued
        rw [named] at issued
        simp [issued]
    case bounded => exact settled.bounded

theorem activate_settled (settled : Settled probing) {key : FieldVerdictKey} {generation : Nat}
    {plan : List ProbeValidator}
    (step : probing.step (.activate key generation plan) = some next) : Settled next := by
  have occupied := activate_occupied settled.occupied step
  simp only [Probing.step] at step
  rcases activate_cases probing.inner key generation plan with
    ⟨same, refused⟩ | ⟨opened, -, fresh, named, dated, attempts, deferrals, -, queued⟩
  · split at step
    · rename_i inner accepted
      exact absurd (congrArg Prod.snd accepted) refused
    · rename_i inner outcome other accepted
      obtain rfl := Option.some.inj step
      rw [accepted] at same
      obtain rfl : inner = probing.inner := same
      exact settled
  · rw [queued] at step
    obtain rfl := Option.some.inj step
    have unspent : probing.accepted + 1 ∉ probing.charged ++ probing.deferred := fun member =>
      absurd (settled.used _ member) (Nat.not_succ_le_self _)
    rw [List.mem_append, not_or] at unspent
    have unissued (other : FieldVerdictKey) :
        probing.tickets.lookup other ≠ some (probing.accepted + 1) := fun issued =>
      absurd (settled.issued other _ issued) (Nat.not_succ_le_self _)
    constructor
    case occupied => exact occupied
    case barred =>
      intro question member
      exact (settled.barred question member).rows _
    case newer =>
      intro question member row inside same
      rcases List.mem_append.mp inside with earlier | new
      · exact settled.newer question member row earlier same
      · obtain rfl := List.mem_singleton.mp new
        have asked : question.1 = key := same.symm.trans named
        have barred := settled.barred question member
        rw [asked] at barred
        rw [dated]
        exact opened.above barred
    case spent =>
      intro row inside
      rcases List.mem_append.mp inside with earlier | new
      · obtain ⟨ticket, spent⟩ := settled.spent row earlier
        refine ⟨ticket, ?_, spent.attempts, spent.deferrals, spent.attemptsLeft,
          spent.deferralsLeft⟩
        dsimp only
        rw [AList.lookup_insert_ne (opened.untracked row earlier)]
        exact spent.issued
      · obtain rfl := List.mem_singleton.mp new
        refine ⟨probing.accepted + 1, ?_, ?_, ?_, ?_, ?_⟩
        · rw [named]
          exact AList.lookup_insert _
        · rw [attempts]
          exact List.count_eq_zero.mpr unspent.1
        · rw [deferrals]
          exact List.count_eq_zero.mpr unspent.2
        · rw [attempts]
          decide
        · rw [deferrals]
          decide
    case distinct =>
      intro first second ticket one two
      dsimp only at one two
      by_cases firstKey : first = key
      · by_cases secondKey : second = key
        · exact firstKey.trans secondKey.symm
        · rw [firstKey, AList.lookup_insert] at one
          rw [AList.lookup_insert_ne secondKey, ← one] at two
          exact absurd two (unissued second)
      · rw [AList.lookup_insert_ne firstKey] at one
        by_cases secondKey : second = key
        · rw [secondKey, AList.lookup_insert] at two
          rw [← two] at one
          exact absurd one (unissued first)
        · rw [AList.lookup_insert_ne secondKey] at two
          exact settled.distinct first second ticket one two
    case issued =>
      intro other ticket held
      dsimp only at held ⊢
      by_cases own : other = key
      · rw [own, AList.lookup_insert] at held
        exact (Option.some.inj held).symm.le
      · rw [AList.lookup_insert_ne own] at held
        exact (settled.issued other ticket held).trans (Nat.le_succ _)
    case used =>
      intro ticket member
      exact (settled.used ticket member).trans (Nat.le_succ _)
    case leased =>
      intro held member
      obtain ⟨position, present⟩ := List.getElem?_of_mem member
      obtain ⟨job, inside, owns⟩ := settled.occupied.leased present
      have apart : held.1.key ≠ key := by
        rw [← owns.1]
        exact opened.untracked job inside
      dsimp only
      rw [AList.lookup_insert_ne apart]
      exact settled.leased held member
    case bounded => exact settled.bounded

theorem retire_settled (settled : Settled probing) (generation : Nat) :
    Settled { probing with inner := (probing.inner.retireBefore generation).1 } := by
  have kept : ∀ row ∈ (probing.inner.retireBefore generation).1.jobs,
      row ∈ probing.inner.jobs := fun row member => (List.mem_filter.mp member).1
  constructor
  case occupied => exact retire_occupied settled.occupied generation
  case barred =>
    intro question member
    exact (settled.barred question member).retire generation
  case newer =>
    intro question member row inside
    exact settled.newer question member row (kept row inside)
  case spent =>
    intro row inside
    obtain ⟨ticket, spent⟩ := settled.spent row (kept row inside)
    exact ⟨ticket, spent.issued, spent.attempts, spent.deferrals, spent.attemptsLeft,
      spent.deferralsLeft⟩
  case distinct => exact settled.distinct
  case issued => exact settled.issued
  case used => exact settled.used
  case leased => exact settled.leased
  case bounded => exact settled.bounded

/-- The paid slots touch no row and no marker. -/
theorem Settled.paid (settled : Settled probing) {held slots : Nat}
    (occupied : Occupied { probing with
      inner := { probing.inner with paidSlotsHeld := held }, paidSlots := slots }) :
    Settled { probing with
      inner := { probing.inner with paidSlotsHeld := held }, paidSlots := slots } := by
  constructor
  case occupied => exact occupied
  case barred => exact settled.barred
  case newer => exact settled.newer
  case spent =>
    intro row inside
    obtain ⟨ticket, spent⟩ := settled.spent row inside
    exact ⟨ticket, spent.issued, spent.attempts, spent.deferrals, spent.attemptsLeft,
      spent.deferralsLeft⟩
  case distinct => exact settled.distinct
  case issued => exact settled.issued
  case used => exact settled.used
  case leased => exact settled.leased
  case bounded => exact settled.bounded

theorem step_settled : Probing.machine.Preserves Settled := by
  intro probing action next settled step
  have occupied := step_occupied probing action next settled.occupied step
  cases action with
  | activate key generation plan => exact activate_settled settled step
  | leaseDue now => exact lease_settled settled step
  | settle position settlement now => exact settle_settled settled step
  | retireBefore generation =>
    obtain rfl := Option.some.inj step
    exact retire_settled settled generation
  | tryAcquirePaidSlot =>
    simp only [Probing.machine, Probing.step, SchedulerInner.tryAcquirePaidSlot] at step
    by_cases full : probeMaxConcurrency ≤ probing.inner.inFlight
    · rw [if_pos full] at step
      obtain rfl := Option.some.inj step
      exact settled
    · rw [if_neg full] at step
      obtain rfl := Option.some.inj step
      exact settled.paid occupied
  | dropPaidSlot =>
    simp only [Probing.machine, Probing.step] at step
    split at step
    · cases step
    · obtain rfl := Option.some.inj step
      exact settled.paid occupied

end Steps

/-- A lease of an identity whose question ended is of a newer generation, however the
markers overflowed; and no accepted activation is charged past its attempts, nor put
off past its deferrals. -/
theorem settled_question_never_reasked {actions : List ProbeAction} {probing : Probing}
    (reached : Probing.machine.run .initial actions = some probing) :
    (∀ now after lease, probing.inner.leaseDue now = some (after, lease) →
        ∀ generation, (lease.key, generation) ∈ probing.ended → generation < lease.generation) ∧
      ∀ ticket, probing.charged.count ticket ≤ probeMaxAttempts ∧
        probing.deferred.count ticket ≤ probeMaxDeferrals := by
  have initial : Settled Probing.initial :=
    { occupied := ⟨List.nodup_nil, Nat.zero_le _, List.Perm.nil, rfl, by decide⟩
      barred := by simp [Probing.initial]
      newer := by simp [Probing.initial]
      spent := by simp [Probing.initial, SchedulerInner.new]
      distinct := by simp [Probing.initial]
      issued := by simp [Probing.initial]
      used := by simp [Probing.initial]
      leased := by simp [Probing.initial]
      bounded := by simp [Probing.initial] }
  have settled : Settled probing := step_settled.run _ initial reached
  refine ⟨?_, settled.bounded⟩
  intro now after lease leased generation asked
  obtain ⟨-, job, rest, jobs, rows, -, -, key, dated, -, -⟩ := leaseDue_some leased
  rw [← dated]
  exact settled.newer _ asked job (rows.mem_iff.mpr (List.mem_cons_self ..)) key

/-- Answered at one generation, refused there again, then asked at a newer one. -/
def askedAnew : List ProbeAction :=
  [.activate thinking 5 [.countTokens], .leaseDue 0, .settle 0 (some .resolved) 1,
    .retireBefore 3, .activate thinking 5 [.countTokens], .activate thinking 6 [.countTokens]]

theorem resolved_question_asked_anew :
    ∃ after lease, (probingAfter askedAnew).inner.leaseDue 9 = some (after, lease) ∧
      5 < lease.generation ∧ (probingAfter askedAnew).charged.count 1 ≤ probeMaxAttempts := by
  have reached : Probing.machine.run .initial askedAnew = some (probingAfter askedAnew) := rfl
  obtain ⟨newer, bounded⟩ := settled_question_never_reasked reached
  refine ⟨_, _, rfl, ?_, (bounded 1).1⟩
  exact newer 9 _ _ rfl 5 (by decide)

end Routectl.Probe
