import Mathlib.Data.List.MinMax
import Routectl.Quota.Store

/-! Arrival order and the merge rule. A stored Unknown keeps its stamp, so it
outranks a Known observed before it that only arrives later. -/
namespace Routectl.Quota
open Library

variable {role : WindowRole} {observations arrivals : List QuotaSnapshot} {now : ObservationStamp}

/-- The newest-stamped observation that knows this window. -/
def newestKnown (role : WindowRole) (observations : List QuotaSnapshot) : Option QuotaSnapshot :=
  (observations.filter fun snapshot => snapshot.window role ≠ .unknown).argmax
    fun snapshot => snapshot.observed.monotonic

def newestStamp (observations : List QuotaSnapshot) : Option ObservationStamp :=
  (observations.argmax fun snapshot => snapshot.observed.monotonic).map QuotaSnapshot.observed

/-- An observation's own window as it reads at `now`. -/
def QuotaSnapshot.readsAs (snapshot : QuotaSnapshot) (role : WindowRole) (now : ObservationStamp) :
    QuotaWindow :=
  StoredWindow.effective ⟨snapshot.window role, snapshot.observed⟩ now

/-- The newest known value while it is fresh, whatever arrived when. -/
def expectedWindow (role : WindowRole) (observations : List QuotaSnapshot) (now : ObservationStamp) :
    QuotaWindow :=
  (newestKnown role observations).elim .unknown fun snapshot => snapshot.readsAs role now

/-- A seat's reported window; a seat without a reading is no evidence. -/
def QuotaStore.reportedWindow (store : QuotaStore) (key : SeatKey) (role : WindowRole)
    (now : ObservationStamp) : QuotaWindow :=
  (store.readingFor key now).elim .unknown fun snapshot => snapshot.window role

/-- No two observations share a stamp, and the two clocks agree on their order. -/
structure CoherentStamps (observations : List QuotaSnapshot) : Prop where
  distinct : (observations.map fun snapshot => snapshot.observed.monotonic).Nodup
  ordered : ∀ first ∈ observations, ∀ second ∈ observations,
    first.observed.monotonic ≤ second.observed.monotonic → first.observed.wall ≤ second.observed.wall

/-- An instant no earlier than any of the observations. -/
def ReadAfter (observations : List QuotaSnapshot) (now : ObservationStamp) : Prop :=
  ∀ snapshot ∈ observations,
    snapshot.observed.monotonic ≤ now.monotonic ∧ snapshot.observed.wall ≤ now.wall

/-- The newest known value has lapsed by the newest stamp, or no observation
after it reports the window unknown. -/
def LateUnknownHarmless (role : WindowRole) (observations : List QuotaSnapshot) : Prop :=
  ∀ known ∈ newestKnown role observations, ∀ newest ∈ newestStamp observations,
    known.readsAs role newest = .unknown ∨
      ∀ snapshot ∈ observations, snapshot.window role = .unknown →
        snapshot.observed.monotonic < known.observed.monotonic

theorem newestKnown_mem {known : QuotaSnapshot} (newest : newestKnown role observations = some known) :
    known ∈ observations ∧ known.window role ≠ .unknown := by
  obtain ⟨member, kept⟩ := List.mem_filter.mp (List.argmax_mem newest)
  exact ⟨member, of_decide_eq_true kept⟩

theorem le_newestKnown {known snapshot : QuotaSnapshot}
    (newest : newestKnown role observations = some known) (member : snapshot ∈ observations)
    (knows : snapshot.window role ≠ .unknown) :
    snapshot.observed.monotonic ≤ known.observed.monotonic :=
  List.le_of_mem_argmax (f := fun snapshot : QuotaSnapshot => snapshot.observed.monotonic)
    (List.mem_filter.mpr ⟨member, decide_eq_true knows⟩) newest

theorem newestKnown_eq_none (none : newestKnown role observations = none) :
    ∀ snapshot ∈ observations, snapshot.window role = .unknown := by
  intro snapshot member
  by_contra knows
  have empty := List.argmax_eq_none.mp none
  have kept : snapshot ∈ observations.filter fun snapshot => snapshot.window role ≠ .unknown :=
    List.mem_filter.mpr ⟨member, decide_eq_true knows⟩
  rw [empty] at kept
  cases kept

theorem CoherentStamps.unique (coherent : CoherentStamps observations) {first second : QuotaSnapshot}
    (firstMember : first ∈ observations) (secondMember : second ∈ observations)
    (same : first.observed.monotonic = second.observed.monotonic) : first = second :=
  List.inj_on_of_nodup_map coherent.distinct firstMember secondMember same

/-- What has been stored for one window after some arrivals: a value one of them
brought, and either the newest known one or an unknown stamped after it. -/
structure Holds (role : WindowRole) (known : QuotaSnapshot) (seen : List QuotaSnapshot)
    (stored : StoredWindow) : Prop where
  stamped : ∃ snapshot ∈ seen, stored.observed = snapshot.observed
  value : stored.window ≠ .unknown →
    ∃ snapshot ∈ seen, stored = ⟨snapshot.window role, snapshot.observed⟩
  newest : known ∈ seen → stored = ⟨known.window role, known.observed⟩ ∨
    (stored.window = .unknown ∧ known.observed.monotonic < stored.observed.monotonic)

theorem merged_cases (stored : StoredWindow) (incoming : QuotaWindow) (observed : ObservationStamp) :
    (stored.merged incoming observed = stored ∧
        (observed.monotonic < stored.observed.monotonic ∨
          (incoming = .unknown ∧ stored.effective observed ≠ .unknown))) ∨
      (stored.merged incoming observed = ⟨incoming, observed⟩ ∧
        stored.observed.monotonic ≤ observed.monotonic ∧
        (incoming = .unknown → stored.effective observed = .unknown)) := by
  unfold StoredWindow.merged
  split
  · rename_i older
    exact .inl ⟨rfl, .inl older⟩
  · rename_i notOlder
    have since := Nat.not_lt.mp notOlder
    cases incoming with
    | known utilization resetAt => exact .inr ⟨rfl, since, fun same => by cases same⟩
    | unknown =>
      dsimp only
      cases reads : stored.effective observed with
      | unknown => exact .inr ⟨rfl, since, fun _ => rfl⟩
      | known utilization resetAt => exact .inl ⟨rfl, .inr ⟨rfl, by simp⟩⟩

theorem Holds.merged {known incoming : QuotaSnapshot} {seen : List QuotaSnapshot}
    {stored : StoredWindow} (holds : Holds role known seen stored)
    (newestOf : ∀ snapshot ∈ incoming :: seen, snapshot.window role ≠ .unknown →
      snapshot.observed.monotonic ≤ known.observed.monotonic)
    (unique : ∀ snapshot ∈ incoming :: seen,
      snapshot.observed.monotonic = known.observed.monotonic → snapshot = known)
    (knows : known.window role ≠ .unknown) :
    Holds role known (incoming :: seen) (stored.merged (incoming.window role) incoming.observed) := by
  rcases merged_cases stored (incoming.window role) incoming.observed with
    ⟨kept, reason⟩ | ⟨replaced, since, lapsed⟩
  · rw [kept]
    refine ⟨?_, ?_, ?_⟩
    · obtain ⟨snapshot, member, same⟩ := holds.stamped
      exact ⟨snapshot, List.mem_cons_of_mem _ member, same⟩
    · intro present
      obtain ⟨snapshot, member, same⟩ := holds.value present
      exact ⟨snapshot, List.mem_cons_of_mem _ member, same⟩
    · intro member
      rcases List.mem_cons.mp member with same | before
      · subst same
        rcases reason with older | ⟨unknown, -⟩
        · right
          refine ⟨?_, older⟩
          by_contra present
          obtain ⟨snapshot, earlier, same⟩ := holds.value present
          have bound := newestOf snapshot (List.mem_cons_of_mem _ earlier) (by
            simpa [same] using present)
          rw [same] at older
          simp only at older
          omega
        · exact absurd unknown knows
      · exact holds.newest before
  · rw [replaced]
    refine ⟨⟨incoming, List.mem_cons_self, rfl⟩, fun _ => ⟨incoming, List.mem_cons_self, rfl⟩, ?_⟩
    intro member
    by_cases same : incoming = known
    · subst same
      exact .inl rfl
    · have before : known ∈ seen := by
        rcases List.mem_cons.mp member with equal | earlier
        · exact absurd equal.symm same
        · exact earlier
      have later : known.observed.monotonic < incoming.observed.monotonic := by
        have reached : known.observed.monotonic ≤ stored.observed.monotonic := by
          rcases holds.newest before with equal | ⟨-, after⟩
          · rw [equal]
          · exact after.le
        have different : incoming.observed.monotonic ≠ known.observed.monotonic :=
          fun equal => same (unique incoming List.mem_cons_self equal)
        omega
      right
      refine ⟨?_, later⟩
      by_contra present
      have bound := newestOf incoming List.mem_cons_self present
      omega

/-- One window through a series of arrivals. -/
def absorb (role : WindowRole) (stored : StoredWindow) (snapshot : QuotaSnapshot) : StoredWindow :=
  stored.merged (snapshot.window role) snapshot.observed

/-- The window stored after some arrivals, the first of them starting it. -/
def storedWindow (role : WindowRole) (first : QuotaSnapshot) (rest : List QuotaSnapshot) :
    StoredWindow :=
  rest.foldl (absorb role) ⟨first.window role, first.observed⟩

theorem part_foldl (stored : StoredReading) (rest : List QuotaSnapshot) :
    (rest.foldl .merged stored).part role = rest.foldl (absorb role) (stored.part role) := by
  induction rest generalizing stored with
  | nil => rfl
  | cons snapshot others ih =>
    have onward := ih (stored.merged snapshot)
    rw [StoredReading.part_merged] at onward
    exact onward

theorem reportedWindow_observeAll {store : QuotaStore} {key : SeatKey}
    (admitted : store.admits key = true) (unseen : store.seats.lookup key = none)
    (first : QuotaSnapshot) (rest : List QuotaSnapshot) :
    (store.observeAll key (first :: rest)).reportedWindow key role now =
      (storedWindow role first rest).effective now := by
  have stored := QuotaStore.observeAll_first admitted unseen first rest
  simp [QuotaStore.reportedWindow, QuotaStore.readingFor, stored, part_foldl, storedWindow]

theorem Holds.first (role : WindowRole) (known first : QuotaSnapshot) :
    Holds role known [first] ⟨first.window role, first.observed⟩ where
  stamped := ⟨first, List.mem_singleton_self first, rfl⟩
  value := fun _ => ⟨first, List.mem_singleton_self first, rfl⟩
  newest := fun member => .inl (by rw [List.mem_singleton.mp member])

/-- The invariant after every arrival, by induction on the arrivals left. -/
theorem Holds.foldl {known : QuotaSnapshot} {seen : List QuotaSnapshot} {stored : StoredWindow}
    (holds : Holds role known seen stored) (rest : List QuotaSnapshot)
    (newestOf : ∀ snapshot ∈ rest ++ seen, snapshot.window role ≠ .unknown →
      snapshot.observed.monotonic ≤ known.observed.monotonic)
    (unique : ∀ snapshot ∈ rest ++ seen,
      snapshot.observed.monotonic = known.observed.monotonic → snapshot = known)
    (knows : known.window role ≠ .unknown) :
    Holds role known (rest.reverse ++ seen) (rest.foldl (absorb role) stored) := by
  induction rest generalizing seen stored with
  | nil => exact holds
  | cons snapshot others ih =>
    have included (other : QuotaSnapshot) (member : other ∈ snapshot :: seen) :
        other ∈ (snapshot :: others) ++ seen := by
      rcases List.mem_cons.mp member with same | earlier
      · simp [same]
      · simp [earlier]
    have next : Holds role known (snapshot :: seen) (absorb role stored snapshot) :=
      holds.merged (fun other member => newestOf other (included other member))
        (fun other member => unique other (included other member)) knows
    have moved (other : QuotaSnapshot) (member : other ∈ others ++ snapshot :: seen) :
        other ∈ (snapshot :: others) ++ seen := by
      simp only [List.mem_append, List.mem_cons, List.cons_append] at member ⊢
      tauto
    have onward := ih next (fun other member => newestOf other (moved other member))
      (fun other member => unique other (moved other member))
    simpa using onward

/-- After every observation arrived, a window holds its newest known value or an
unknown stamped later. -/
theorem storedWindow_holds {known first : QuotaSnapshot} {rest : List QuotaSnapshot}
    (coherent : CoherentStamps observations) (permuted : (first :: rest).Perm observations)
    (newest : newestKnown role observations = some known) :
    storedWindow role first rest = ⟨known.window role, known.observed⟩ ∨
      ((storedWindow role first rest).window = .unknown ∧ ∃ snapshot ∈ observations,
        known.observed.monotonic < snapshot.observed.monotonic) := by
  obtain ⟨member, knows⟩ := newestKnown_mem newest
  have arrived (snapshot : QuotaSnapshot) (present : snapshot ∈ rest ++ [first]) :
      snapshot ∈ observations := by
    apply permuted.subset
    simp only [List.mem_append, List.mem_singleton] at present
    exact List.mem_cons.mpr present.symm
  have holds := (Holds.first role known first).foldl rest
    (fun snapshot present => le_newestKnown newest (arrived snapshot present))
    (fun snapshot present same => coherent.unique (arrived snapshot present) member same) knows
  have seen : known ∈ rest.reverse ++ [first] := by
    have present := permuted.symm.subset member
    simp only [List.mem_append, List.mem_reverse, List.mem_singleton]
    exact (List.mem_cons.mp present).symm
  rcases holds.newest seen with same | ⟨unknown, later⟩
  · exact .inl same
  · right
    obtain ⟨snapshot, present, stamp⟩ := holds.stamped
    refine ⟨unknown, snapshot, arrived snapshot (by simpa [or_comm] using present), ?_⟩
    rw [← stamp]
    exact later

theorem effective_unknown {stored : StoredWindow} (unknown : stored.window = .unknown) :
    stored.effective now = .unknown := by
  simp [StoredWindow.effective, unknown]

/-- With nothing known, nothing is ever stored. -/
theorem foldl_unknown {stored : StoredWindow} {rest : List QuotaSnapshot}
    (start : stored.window = .unknown)
    (unknown : ∀ snapshot ∈ rest, snapshot.window role = .unknown) :
    (rest.foldl (absorb role) stored).window = .unknown := by
  induction rest generalizing stored with
  | nil => exact start
  | cons snapshot others ih =>
    have absent := unknown snapshot List.mem_cons_self
    have next : (absorb role stored snapshot).window = .unknown := by
      rcases merged_cases stored (snapshot.window role) snapshot.observed with
        ⟨kept, -⟩ | ⟨replaced, -, -⟩
      · rw [absorb, kept]
        exact start
      · rw [absorb, replaced]
        exact absent
    exact ih next fun other member => unknown other (List.mem_cons_of_mem _ member)

/-- A stored unknown keeps out every known value stamped before it. -/
theorem foldl_shadowed {stored : StoredWindow} {rest : List QuotaSnapshot} {instant : Nat}
    (start : stored.window = .unknown) (stamp : instant ≤ stored.observed.monotonic)
    (older : ∀ snapshot ∈ rest, snapshot.window role ≠ .unknown →
      snapshot.observed.monotonic < instant) :
    (rest.foldl (absorb role) stored).window = .unknown := by
  induction rest generalizing stored with
  | nil => exact start
  | cons snapshot others ih =>
    have onward := fun other member => older other (List.mem_cons_of_mem snapshot member)
    rcases merged_cases stored (snapshot.window role) snapshot.observed with
      ⟨kept, -⟩ | ⟨replaced, since, -⟩
    · have same : absorb role stored snapshot = stored := kept
      rw [List.foldl_cons, same]
      exact ih start stamp onward
    · have same : absorb role stored snapshot = ⟨snapshot.window role, snapshot.observed⟩ := replaced
      have absent : snapshot.window role = .unknown := by
        by_contra knows
        have bound := older snapshot List.mem_cons_self knows
        omega
      rw [List.foldl_cons, same]
      exact ih absent (stamp.trans since) onward

theorem newestStamp_mem {newest : ObservationStamp} (found : newestStamp observations = some newest) :
    ∃ last ∈ observations, last.observed = newest := by
  obtain ⟨last, chosen, stamp⟩ := Option.map_eq_some_iff.mp found
  exact ⟨last, List.argmax_mem chosen, stamp⟩

theorem newestStamp_isSome {snapshot : QuotaSnapshot} (member : snapshot ∈ observations) :
    ∃ newest, newestStamp observations = some newest := by
  cases found : newestStamp observations with
  | some newest => exact ⟨newest, rfl⟩
  | none =>
    have empty := List.argmax_eq_none.mp (Option.map_eq_none_iff.mp found)
    rw [empty] at member
    cases member

theorem CoherentStamps.readAfter_newest (coherent : CoherentStamps observations)
    {newest : ObservationStamp} (found : newestStamp observations = some newest) :
    ReadAfter observations newest := by
  obtain ⟨last, chosen, stamp⟩ := Option.map_eq_some_iff.mp found
  have present := List.argmax_mem chosen
  intro snapshot member
  have before : snapshot.observed.monotonic ≤ last.observed.monotonic :=
    List.le_of_mem_argmax (f := fun snapshot : QuotaSnapshot => snapshot.observed.monotonic)
      member chosen
  rw [← stamp]
  exact ⟨before, coherent.ordered snapshot member last present before⟩

theorem readsAs_known {snapshot : QuotaSnapshot} {utilization : Utilization}
    {resetAt : ValidatedReset} (window : snapshot.window role = .known utilization resetAt) :
    snapshot.readsAs role now = .unknown ↔
      isFresh resetAt.at_ snapshot.observed now maxObservationAge = false := by
  unfold QuotaSnapshot.readsAs StoredWindow.effective
  simp only [window]
  cases isFresh resetAt.at_ snapshot.observed now maxObservationAge with
  | false => simp
  | true => simp

/-- What has lapsed at the newest stamp stays lapsed. -/
theorem readsAs_lapsed {known : QuotaSnapshot} {newest : ObservationStamp}
    (coherent : CoherentStamps observations) (member : known ∈ observations)
    (found : newestStamp observations = some newest) (after : ReadAfter observations now)
    (lapsed : known.readsAs role newest = .unknown) : known.readsAs role now = .unknown := by
  cases window : known.window role with
  | unknown => exact effective_unknown window
  | known utilization resetAt =>
    rw [readsAs_known window] at lapsed ⊢
    by_contra fresh
    obtain ⟨last, present, stamp⟩ := newestStamp_mem found
    have bound := after last present
    rw [stamp] at bound
    have since := (coherent.readAfter_newest found known member).1
    have still := isFresh_earlier (Bool.not_eq_false _ ▸ fresh) since bound.1 bound.2
    rw [lapsed] at still
    cases still

section Law
variable {store : QuotaStore} {key : SeatKey}

/-- Where no later unknown can shadow the newest known value, it is what every
arrival order reports. -/
theorem reportedWindow_eq (admitted : store.admits key = true)
    (unseen : store.seats.lookup key = none) (coherent : CoherentStamps observations)
    (harmless : LateUnknownHarmless role observations) (permuted : arrivals.Perm observations)
    (after : ReadAfter observations now) :
    (store.observeAll key arrivals).reportedWindow key role now =
      expectedWindow role observations now := by
  cases arrivals with
  | nil =>
    obtain rfl := List.nil_perm.mp permuted
    simp [QuotaStore.reportedWindow, QuotaStore.readingFor, QuotaStore.observeAll, unseen,
      expectedWindow, newestKnown]
  | cons first rest =>
    rw [reportedWindow_observeAll admitted unseen]
    unfold expectedWindow
    cases newest : newestKnown role observations with
    | none =>
      have unknown := newestKnown_eq_none newest
      apply effective_unknown
      apply foldl_unknown
      · exact unknown first (permuted.subset List.mem_cons_self)
      · exact fun snapshot member => unknown snapshot
          (permuted.subset (List.mem_cons_of_mem _ member))
    | some known =>
      have present := (newestKnown_mem newest).1
      rcases storedWindow_holds coherent permuted newest with same | ⟨unknown, later⟩
      · rw [same]
        rfl
      · obtain ⟨snapshot, member, later⟩ := later
        have absent : snapshot.window role = .unknown := by
          by_contra knows
          have bound := le_newestKnown newest member knows
          omega
        obtain ⟨last, found⟩ := newestStamp_isSome present
        rw [effective_unknown unknown]
        rcases harmless known newest last found with lapsed | earlier
        · exact (readsAs_lapsed coherent present found after lapsed).symm
        · have bound := earlier snapshot member absent
          omega

/-- An unknown that arrives first and outranks the newest known value while it is
still fresh hides it from a read at the newest stamp. -/
theorem shadowed_arrival (admitted : store.admits key = true)
    (unseen : store.seats.lookup key = none) (coherent : CoherentStamps observations)
    (harmful : ¬LateUnknownHarmless role observations) :
    ∃ arrivals, arrivals.Perm observations ∧ ∃ now, ReadAfter observations now ∧
      (store.observeAll key arrivals).reportedWindow key role now ≠
        expectedWindow role observations now := by
  unfold LateUnknownHarmless at harmful
  push Not at harmful
  obtain ⟨known, newest, last, found, fresh, unknown, member, absent, stamp⟩ := harmful
  refine ⟨unknown :: observations.erase unknown, (List.perm_cons_erase member).symm, last,
    coherent.readAfter_newest found, ?_⟩
  obtain ⟨present, knows⟩ := newestKnown_mem newest
  have later : known.observed.monotonic < unknown.observed.monotonic := by
    apply lt_of_le_of_ne stamp
    intro same
    rw [coherent.unique present member same] at knows
    exact knows absent
  have hidden : (storedWindow role unknown (observations.erase unknown)).window = .unknown := by
    apply foldl_shadowed absent le_rfl
    intro snapshot remaining shows
    exact (le_newestKnown newest (List.mem_of_mem_erase remaining) shows).trans_lt later
  have expected : expectedWindow role observations last = known.readsAs role last := by
    rw [expectedWindow, newest]
    rfl
  rw [reportedWindow_observeAll admitted unseen, effective_unknown hidden, expected]
  exact fun same => fresh same.symm

/-- Every arrival order reports the newest known value while it is fresh, at
every later read, exactly when no later unknown can shadow it. -/
theorem arrival_order_independent_iff (admitted : store.admits key = true)
    (unseen : store.seats.lookup key = none) (coherent : CoherentStamps observations) :
    (∀ arrivals, arrivals.Perm observations → ∀ now, ReadAfter observations now → ∀ role,
        (store.observeAll key arrivals).reportedWindow key role now =
          expectedWindow role observations now) ↔
      ∀ role, LateUnknownHarmless role observations := by
  constructor
  · intro independent role
    by_contra harmful
    obtain ⟨arrivals, permuted, now, after, differs⟩ :=
      shadowed_arrival admitted unseen coherent harmful
    exact differs (independent arrivals permuted now after role)
  · intro harmless arrivals permuted now after role
    exact reportedWindow_eq admitted unseen coherent (harmless role) permuted after

end Law

def sampleSeat : SeatKey := ⟨"codex"⟩
def sampleStore : QuotaStore := QuotaStore.empty.admitSeats {sampleSeat}
def exhausted : Utilization := { fraction := 1, nonneg := by decide, atMostOne := by decide }

/-- The fast window resets at 150 and is silent only after that. -/
def lapsedFast : List QuotaSnapshot :=
  [⟨⟨100, 10⟩, .known exhausted ⟨150⟩, .unknown, .included⟩,
   ⟨⟨200, 20⟩, .unknown, .known exhausted ⟨900⟩, .unknown⟩,
   ⟨⟨50, 5⟩, .known exhausted ⟨120⟩, .unknown, .unknown⟩]

theorem arrival_order_independent_lapsed :
    (∀ arrivals, arrivals.Perm lapsedFast → ∀ now, ReadAfter lapsedFast now → ∀ role,
        (sampleStore.observeAll sampleSeat arrivals).reportedWindow sampleSeat role now =
          expectedWindow role lapsedFast now) ↔
      ∀ role, LateUnknownHarmless role lapsedFast :=
  arrival_order_independent_iff (by simp [sampleStore, QuotaStore.admitSeats, QuotaStore.admits])
    (by decide) ⟨by decide, by decide⟩

/-- The fast window as one snapshot reports it, and a newer one silent on it. -/
def reportedFast : QuotaSnapshot := ⟨⟨100, 10⟩, .known exhausted ⟨900⟩, .unknown, .unknown⟩
def silentFast : QuotaSnapshot := ⟨⟨200, 20⟩, .unknown, .known exhausted ⟨900⟩, .unknown⟩

/-- The silent snapshot arrives first, and the fresh known value is dropped. -/
theorem late_known_dropped :
    CoherentStamps [reportedFast, silentFast] ∧
      ReadAfter [reportedFast, silentFast] silentFast.observed ∧
      [silentFast, reportedFast].Perm [reportedFast, silentFast] ∧
      (sampleStore.observeAll sampleSeat [silentFast, reportedFast]).reportedWindow sampleSeat .fast
          silentFast.observed = .unknown ∧
      expectedWindow .fast [reportedFast, silentFast] silentFast.observed = .known exhausted ⟨900⟩ := by
  refine ⟨⟨by decide, by decide⟩, ?_, List.Perm.swap .., by decide, by decide⟩
  unfold ReadAfter
  decide

end Routectl.Quota
