import Routectl.Oauth.World

/-! Whose record a refresh writes over: what every step leaves alone in the shared file, and
what overtakes a refresh between its second look and its commit. -/
namespace Routectl.Oauth
open Library

/-- The seat an action is about; a reload is about none. -/
def Action.seat : Action → Option String
  | .lock seat _ _ _ _ => some seat
  | .reread seat _ => some seat
  | .snapshot seat _ => some seat
  | .post seat _ _ => some seat
  | .commit seat _ => some seat
  | .startReload => none
  | .finishReload _ => none
  | .setProject seat _ _ => some seat
  | .clearProject seat _ _ => some seat
  | .login seat _ _ => some seat
  | .logout seat _ => some seat

/-- A record without its project id. -/
def lineage (record : TokenRecord) : TokenRecord := { record with cloudProjectId := none }

def Disk.lineage (disk : Disk) (seat : String) : Option TokenRecord :=
  (disk.record seat).map Oauth.lineage

def Phase.record : Phase → Option TokenRecord
  | .locked => none
  | .reread record => some record
  | .posting record _ => some record
  | .posted record _ _ => some record

/-- The record whose token the refresh of a seat consumes. -/
def OAuthStore.consuming (store : OAuthStore) (seat : String) : Option TokenRecord :=
  (store.phase seat).bind Phase.record

section Acting
variable {store next : OAuthStore} {disk after : Disk} {seat own : String} {action : Action}
variable {Report : Type} {mutate : CredentialsFile → Mutation Report}

/-- A commit writes the renewed record where the seat is still in the file, or nothing. -/
theorem commit_disk (store : OAuthStore) (seat : String) (disk : Disk) (outcome : Io)
    (genBefore : Nat) (renewed : TokenRecord) :
    (store.commit seat disk outcome genBefore renewed).1 = disk ∨
      store.reloadGen = genBefore ∧ store.loadError = none ∧ (disk.record seat).isSome ∧
        ∃ fresh, disk = .ok fresh ∧
          (store.commit seat disk outcome genBefore renewed).1 =
            .ok (fresh.insert seat renewed) := by
  have merged := merge_disk (store.release seat) disk outcome (OAuthStore.renew seat renewed)
  unfold OAuthStore.commit
  dsimp only
  split
  case isTrue => exact .inl rfl
  case isFalse unmoved =>
    have committed : ∀ written, written =
        ((store.release seat).merge disk outcome (OAuthStore.renew seat renewed)).1 →
        written = disk ∨
          store.reloadGen = genBefore ∧ store.loadError = none ∧ (disk.record seat).isSome ∧
            ∃ fresh, disk = .ok fresh ∧ written = .ok (fresh.insert seat renewed) := by
      rintro written rfl
      rcases merged with same | ⟨live, fresh, rfl, writes, written⟩
      · exact .inl same
      · unfold OAuthStore.renew at writes written
        cases present : fresh.lookup seat with
        | some found =>
          rw [present] at written
          exact .inr ⟨not_not.mp unmoved, live, by simp [Disk.record, present], fresh, rfl, written⟩
        | none =>
          rw [present] at writes
          cases writes
    split
    case h_1 failed => exact committed _ (congrArg Prod.fst failed).symm
    case h_2 succeeds =>
      split
      case isTrue => exact committed _ (congrArg Prod.fst succeeds).symm
      case isFalse => exact committed _ (congrArg Prod.fst succeeds).symm

theorem commit_unlanded (store : OAuthStore) (seat : String) (disk : Disk) {outcome : Io}
    (fails : outcome.lands = false) (genBefore : Nat) (renewed : TokenRecord) :
    (store.commit seat disk outcome genBefore renewed).1 = disk := by
  have same := merge_unlanded (store.release seat) disk fails (OAuthStore.renew seat renewed)
  unfold OAuthStore.commit
  dsimp only
  split
  case isTrue => rfl
  case isFalse =>
    split
    case h_1 failed => exact (congrArg Prod.fst failed).symm.trans same
    case h_2 succeeds =>
      rw [← (congrArg Prod.fst succeeds).symm.trans same]
      split
      case isTrue => rfl
      case isFalse => rfl

/-- What a step writes, it writes to its own seat, and only where the store is live. -/
def WritesOwn (store : OAuthStore) (action : Action) (disk after : Disk) : Prop :=
  after = disk ∨ store.loadError = none ∧ ∃ seat, action.seat = some seat ∧
    ∀ other, other ≠ seat → after.record other = disk.record other

theorem merge_writesOwn (ofSeat : OfSeat seat mutate) (about : action.seat = some seat)
    (store : OAuthStore) (disk : Disk) (outcome : Io) :
    WritesOwn store action disk (store.merge disk outcome mutate).1 := by
  rcases merge_disk store disk outcome mutate with same | ⟨live, fresh, rfl, _, written⟩
  · exact .inl same
  · refine .inr ⟨live, seat, about, ?_⟩
    intro other different
    rw [written]
    exact ofSeat.others fresh other different

theorem act_writesOwn (acts : store.act disk action = some (after, next)) :
    WritesOwn store action disk after := by
  cases action with
  | lock seat provider current force bypassCooldown =>
    obtain ⟨_, _, same⟩ := Option.map_eq_some_iff.mp acts
    cases same
    exact .inl rfl
  | reread seat now =>
    obtain ⟨_, _, _, rfl, _⟩ := act_reread acts
    exact .inl rfl
  | snapshot seat now =>
    obtain ⟨_, _, _, _, rfl, _⟩ := act_snapshot acts
    exact .inl rfl
  | post seat now reply =>
    obtain ⟨_, _, _, _, _, rfl, _⟩ := act_post acts
    exact .inl rfl
  | commit seat outcome =>
    obtain ⟨_, _, genBefore, renewed, _, _, rfl, _⟩ := act_commit acts
    rcases commit_disk store seat disk outcome genBefore renewed with
      same | ⟨_, live, _, fresh, rfl, written⟩
    · exact .inl same
    · refine .inr ⟨live, seat, rfl, ?_⟩
      intro other different
      rw [written]
      exact AList.lookup_insert_ne different
  | startReload =>
    cases acts
    exact .inl rfl
  | finishReload turn =>
    obtain ⟨_, _, same⟩ := Option.map_eq_some_iff.mp acts
    cases same
    exact .inl rfl
  | setProject seat projectId outcome =>
    cases acts
    exact merge_writesOwn (setProject_ofSeat seat projectId) rfl store disk outcome
  | clearProject seat expected outcome =>
    cases acts
    exact merge_writesOwn (clearProject_ofSeat seat expected) rfl store disk outcome
  | login seat record outcome =>
    obtain ⟨rfl, _, _⟩ := act_login acts
    exact merge_writesOwn (upsert_ofSeat seat record) rfl store disk outcome
  | logout seat outcome =>
    obtain ⟨rfl, _, _⟩ := act_logout acts
    exact merge_writesOwn (remove_ofSeat seat) rfl store disk outcome

theorem act_others (acts : store.act disk action = some (after, next))
    (different : action.seat ≠ some own) : after.record own = disk.record own := by
  rcases act_writesOwn acts with same | ⟨_, seat, about, others⟩
  · rw [same]
  · apply others
    rintro rfl
    exact different about

/-- A degraded store writes nothing. -/
theorem act_degraded (acts : store.act disk action = some (after, next))
    (degraded : store.loadError.isSome) : after = disk := by
  rcases act_writesOwn acts with same | ⟨live, _⟩
  · exact same
  · rw [live] at degraded
    cases degraded

theorem consuming_of_flight {flight : Flight} (held : store.flights.lookup own = some flight) :
    store.consuming own = flight.phase.record := by
  rw [OAuthStore.consuming, OAuthStore.phase, held]
  rfl

theorem frames_consuming (frames : OAuthStore.Frames own store next) (different : seat ≠ own) :
    next.consuming seat = store.consuming seat := by
  rw [OAuthStore.consuming, frames.phases seat different, OAuthStore.consuming]

theorem merge_consuming (store : OAuthStore) (disk : Disk) (outcome : Io)
    (mutate : CredentialsFile → Mutation Report) (seat : String) :
    (store.merge disk outcome mutate).2.1.consuming seat = store.consuming seat := by
  rcases merge_store store disk outcome mutate with same | ⟨fresh, _, merged⟩
  · rw [same]
  · rw [merged]
    rfl

theorem commit_consuming (store : OAuthStore) (own : String) (disk : Disk) (outcome : Io)
    (genBefore : Nat) (renewed : TokenRecord) (seat : String) :
    (store.commit own disk outcome genBefore renewed).2.1.consuming seat =
      (store.release own).consuming seat := by
  have merged := merge_consuming (store.release own) disk outcome (OAuthStore.renew own renewed) seat
  unfold OAuthStore.commit
  dsimp only
  split
  case isTrue => rfl
  case isFalse =>
    split
    case h_1 failed =>
      rw [failed] at merged
      exact merged
    case h_2 succeeds =>
      rw [succeeds] at merged
      split
      case isTrue => exact merged
      case isFalse => exact merged

/-- A refresh goes on with the record it had, ends, or takes up the one in the cache. -/
theorem act_consuming (acts : store.act disk action = some (after, next)) (seat : String) :
    next.consuming seat = store.consuming seat ∨ next.consuming seat = none ∨
      ∃ now record, action = .reread seat now ∧ store.file.lookup seat = some record ∧
        next.consuming seat = some record := by
  have framed : ∀ own, OAuthStore.Frames own store next →
      (next.consuming own = store.consuming own ∨ next.consuming own = none) →
      next.consuming seat = store.consuming seat ∨ next.consuming seat = none := by
    intro own frames mine
    by_cases same : seat = own
    · subst same
      exact mine
    · exact .inl (frames_consuming frames same)
  have carried : next.consuming seat = store.consuming seat ∨ next.consuming seat = none →
      next.consuming seat = store.consuming seat ∨ next.consuming seat = none ∨
        ∃ now record, action = .reread seat now ∧ store.file.lookup seat = some record ∧
          next.consuming seat = some record := by
    rintro (same | ended)
    · exact .inl same
    · exact .inr (.inl ended)
  cases action with
  | lock own provider current force bypassCooldown =>
    obtain ⟨_, taken, same⟩ := Option.map_eq_some_iff.mp acts
    cases same
    obtain ⟨frames, _, locked⟩ := OAuthStore.lockSeat_phase taken
    exact carried (framed own frames (.inr (by simp [OAuthStore.consuming, locked, Phase.record])))
  | reread own now =>
    obtain ⟨flight, _, _, rfl, rfl⟩ := act_reread acts
    obtain ⟨frames, ends | ⟨record, found, goes⟩⟩ := OAuthStore.reread_phase store own now flight
    · exact carried (framed own frames (.inr (by simp [OAuthStore.consuming, ends])))
    · by_cases mine : seat = own
      · subst mine
        exact .inr (.inr ⟨now, record, rfl, (OAuthStore.readRecord_ok found).2, by
          simp [OAuthStore.consuming, goes, Phase.record]⟩)
      · exact .inl (frames_consuming frames mine)
  | snapshot own now =>
    obtain ⟨flight, record, held, reread, rfl, rfl⟩ := act_snapshot acts
    have consumed := consuming_of_flight held
    obtain ⟨frames, ends | goes⟩ := OAuthStore.snapshot_phase store own now flight record
    · exact carried (framed own frames (.inr (by simp [OAuthStore.consuming, ends])))
    · exact carried (framed own frames (.inl (by
        rw [consumed, reread, OAuthStore.consuming, goes]
        rfl)))
  | post own now reply =>
    obtain ⟨flight, record, genBefore, held, posting, rfl, rfl⟩ := act_post acts
    have consumed := consuming_of_flight held
    cases reply with
    | error error =>
      obtain ⟨frames, ends⟩ := OAuthStore.answer_refused store own now flight record genBefore error
      exact carried (framed own frames (.inr (by simp [OAuthStore.consuming, ends])))
    | ok renewed =>
      obtain ⟨frames, goes⟩ :=
        OAuthStore.answer_accepted store own now flight record genBefore renewed
      exact carried (framed own frames (.inl (by
        rw [consumed, posting, OAuthStore.consuming, goes]
        rfl)))
  | commit own outcome =>
    obtain ⟨_, _, genBefore, renewed, _, _, rfl, rfl⟩ := act_commit acts
    have committed := commit_consuming store own disk outcome genBefore renewed seat
    rw [committed]
    by_cases mine : seat = own
    · subst mine
      exact .inr (.inl (by simp [OAuthStore.consuming]))
    · exact .inl (frames_consuming (OAuthStore.release_frames store own) mine)
  | startReload =>
    cases acts
    refine .inl ?_
    unfold OAuthStore.startReload
    split
    case h_1 => rfl
    case h_2 => rfl
  | finishReload turn =>
    obtain ⟨_, finished, same⟩ := Option.map_eq_some_iff.mp acts
    cases same
    obtain ⟨_, _, rfl⟩ := Option.map_eq_some_iff.mp finished
    exact .inl rfl
  | setProject own projectId outcome =>
    cases acts
    exact .inl (merge_consuming store disk outcome (OAuthStore.setProject own projectId) seat)
  | clearProject own expected outcome =>
    cases acts
    exact .inl (merge_consuming store disk outcome (OAuthStore.clearProject own expected) seat)
  | login own record outcome =>
    obtain ⟨_, _, rfl⟩ := act_login acts
    exact .inl (merge_consuming store disk outcome (OAuthStore.upsert own record) seat)
  | logout own outcome =>
    obtain ⟨_, _, rfl⟩ := act_logout acts
    exact .inl (merge_consuming store disk outcome (OAuthStore.remove own) seat)

end Acting

/-- A process and a seat whose refresh in it has been overtaken. -/
abbrev Overtaken := List (Nat × String)

/-- Another record for the seat, its project id aside, is in the file. -/
def Disk.replaces (after disk : Disk) (seat : String) : Bool :=
  (after.record seat).isSome && after.lineage seat ≠ disk.lineage seat

/-- A second look at a cache whose record is not the one in the file; and every step that
puts another record there, for all processes. -/
def noteOvertaken (world : World) (turn : World.Turn) (next : World) (overtaken : Overtaken) :
    Overtaken :=
  match world.processes[turn.process]?, turn.action with
  | some store, .reread seat _ =>
    if (store.file.lookup seat).map lineage = world.disk.lineage seat then
      overtaken.filter fun refresh => refresh ≠ (turn.process, seat)
    else (turn.process, seat) :: overtaken
  | _, action =>
    match action.seat with
    | some seat =>
      if next.disk.replaces world.disk seat then
        (List.range world.processes.length).map (fun process => (process, seat)) ++ overtaken
      else overtaken
    | none => overtaken

def contending : Machine (World × Overtaken) World.Turn := World.machine.watched noteOvertaken

/-- A commit of a live store whose write gets through, that no reload raced and that finds its
seat in the file, has not been overtaken. -/
def current (state : World × Overtaken) (turn : World.Turn) : Bool :=
  match turn.action, state.1.processes[turn.process]? with
  | .commit seat outcome, some store =>
    match store.phase seat with
    | some (.posted _ genBefore _) =>
      !(outcome.lands && store.loadError.isNone && store.reloadGen = genBefore &&
        (state.1.disk.record seat).isSome && (turn.process, seat) ∈ state.2)
    | _ => true
  | _, _ => true

abbrev Current (state : World × Overtaken) (turns : List World.Turn) : Prop :=
  contending.AllSteps (fun state turn => current state turn = true) state turns

/-- A step leaves the other seats alone, a degraded process the whole file, and a refresh
the record of its seat unless it is still the one whose token it consumed. -/
structure Respects (state : World × Overtaken) (turn : World.Turn) : Prop where
  others : ∀ next seat, contending.step state turn = some next → turn.action.seat ≠ some seat →
    next.1.disk.record seat = state.1.disk.record seat
  degraded : ∀ next store, contending.step state turn = some next →
    state.1.processes[turn.process]? = some store → store.loadError.isSome →
    next.1.disk = state.1.disk
  commits : ∀ next seat outcome, contending.step state turn = some next →
    turn.action = .commit seat outcome →
    next.1.disk.record seat = state.1.disk.record seat ∨
      ∃ store record, state.1.processes[turn.process]? = some store ∧
        store.consuming seat = some record ∧
        state.1.disk.lineage seat = some (lineage record)

section Runs
variable {state next : World × Overtaken} {turn : World.Turn} {turns : List World.Turn}

/-- Every refresh not overtaken consumes the record in the file, where the seat has one. -/
def Abreast (state : World × Overtaken) : Prop :=
  ∀ process store seat record, state.1.processes[process]? = some store →
    store.consuming seat = some record →
    (process, seat) ∈ state.2 ∨ state.1.disk.record seat = none ∨
      state.1.disk.lineage seat = some (lineage record)

theorem contending_step (step : contending.step state turn = some next) :
    ∃ store after renewed, state.1.processes[turn.process]? = some store ∧
      store.act state.1.disk turn.action = some (after, renewed) ∧
      next.1 = { disk := after, processes := state.1.processes.set turn.process renewed } ∧
      next.2 = noteOvertaken state.1 turn next.1 state.2 := by
  obtain ⟨world, stepped, rfl⟩ := World.machine.watched_step.mp step
  simp only [World.machine, World.step] at stepped
  split at stepped
  case h_1 store held =>
    obtain ⟨⟨after, renewed⟩, acts, rfl⟩ := Option.map_eq_some_iff.mp stepped
    exact ⟨store, after, renewed, held, acts, rfl, rfl⟩
  case h_2 => cases stepped

theorem mem_noteOvertaken {world after : World} {overtaken : Overtaken} {process : Nat}
    {seat : String} (member : (process, seat) ∈ overtaken)
    (onward : process = turn.process → ∀ now, turn.action ≠ .reread seat now) :
    (process, seat) ∈ noteOvertaken world turn after overtaken := by
  unfold noteOvertaken
  split
  case h_1 store own now _ rereads =>
    split
    case isTrue =>
      apply List.mem_filter.mpr
      refine ⟨member, decide_eq_true ?_⟩
      intro same
      obtain ⟨rfl, rfl⟩ := Prod.mk.inj same
      exact onward rfl now rereads
    case isFalse => exact List.mem_cons_of_mem _ member
  case h_2 =>
    split
    case h_1 =>
      split
      case isTrue => exact List.mem_append_right _ member
      case isFalse => exact member
    case h_2 => exact member

theorem replaced_noteOvertaken {world after : World} {overtaken : Overtaken} {process : Nat}
    {seat : String} (about : turn.action.seat = some seat)
    (writes : ∀ now, turn.action ≠ .reread seat now)
    (replaces : after.disk.replaces world.disk seat = true)
    (inside : process < world.processes.length) :
    (process, seat) ∈ noteOvertaken world turn after overtaken := by
  unfold noteOvertaken
  split
  case h_1 store own now _ rereads =>
    rw [rereads] at about
    obtain rfl := Option.some.inj about
    exact absurd rereads (writes now)
  case h_2 =>
    rw [about]
    dsimp only
    rw [if_pos replaces]
    apply List.mem_append_left
    exact List.mem_map.mpr ⟨process, List.mem_range.mpr inside, rfl⟩

theorem not_replaces {after disk : Disk} {seat : String}
    (kept : after.replaces disk seat = false) :
    after.record seat = none ∨ after.lineage seat = disk.lineage seat := by
  unfold Disk.replaces at kept
  cases present : after.record seat with
  | none => exact .inl rfl
  | some record =>
    rw [present] at kept
    exact .inr (by simpa using kept)

theorem lineage_eq_none {disk : Disk} {seat : String} :
    disk.lineage seat = none ↔ disk.record seat = none :=
  Option.map_eq_none_iff

/-- A refresh that goes on with its record stays abreast of the file, or is noted. -/
theorem stays_abreast {process : Nat} {seat : String} {record : TokenRecord}
    (step : contending.step state turn = some next)
    (inside : process < state.1.processes.length)
    (onward : process = turn.process → ∀ now, turn.action ≠ .reread seat now)
    (abreast : (process, seat) ∈ state.2 ∨ state.1.disk.record seat = none ∨
      state.1.disk.lineage seat = some (lineage record)) :
    (process, seat) ∈ next.2 ∨ next.1.disk.record seat = none ∨
      next.1.disk.lineage seat = some (lineage record) := by
  obtain ⟨store, after, renewed, held, acts, world, noted⟩ := contending_step step
  rcases abreast with member | disk
  · left
    rw [noted]
    exact mem_noteOvertaken member onward
  cases replaced : next.1.disk.replaces state.1.disk seat with
  | true =>
    have changed : next.1.disk.lineage seat ≠ state.1.disk.lineage seat := by
      unfold Disk.replaces at replaced
      simpa using (Bool.and_eq_true_iff.mp replaced).2
    have onDisk : next.1.disk = after := by rw [world]
    have about : turn.action.seat = some seat := by
      by_contra different
      have same := act_others acts different
      exact changed (by rw [onDisk, Disk.lineage, same, Disk.lineage])
    have writes : ∀ now, turn.action ≠ .reread seat now := by
      intro now rereads
      rw [rereads] at acts
      obtain ⟨_, _, _, same, _⟩ := act_reread acts
      exact changed (by rw [onDisk, same])
    left
    rw [noted]
    exact replaced_noteOvertaken about writes replaced inside
  | false =>
    right
    rcases not_replaces replaced with gone | same
    · exact .inl gone
    · rcases disk with gone | consumed
      · exact .inl (lineage_eq_none.mp (same.trans (lineage_eq_none.mpr gone)))
      · exact .inr (same.trans consumed)

/-- Every step keeps all refreshes abreast. -/
theorem step_abreast (abreast : Abreast state) (step : contending.step state turn = some next) :
    Abreast next := by
  intro process other seat record found consumes
  obtain ⟨store, after, renewed, held, acts, world, noted⟩ := contending_step step
  have taken : turn.process < state.1.processes.length := (List.getElem?_eq_some_iff.mp held).1
  rw [world] at found
  dsimp only at found
  by_cases mine : process = turn.process
  · subst mine
    rw [List.getElem?_set_self taken] at found
    obtain rfl := Option.some.inj found
    rcases act_consuming acts seat with same | ended | ⟨now, looked, rereads, cached, goes⟩
    · have consumed : store.consuming seat = some record := same ▸ consumes
      apply stays_abreast step taken
      · intro _ now rereads
        rw [rereads] at acts
        obtain ⟨flight, locks, locked, _⟩ := act_reread acts
        rw [consuming_of_flight locks, locked] at consumed
        cases consumed
      · exact abreast turn.process store seat record held consumed
    · rw [ended] at consumes
      cases consumes
    · obtain rfl := Option.some.inj (goes.symm.trans consumes)
      have onDisk : next.1.disk = state.1.disk := by
        rw [rereads] at acts
        obtain ⟨_, _, _, same, _⟩ := act_reread acts
        rw [world, same]
      by_cases agrees : (store.file.lookup seat).map lineage = state.1.disk.lineage seat
      · right; right
        rw [onDisk, ← agrees, cached]
        rfl
      · left
        rw [noted]
        unfold noteOvertaken
        rw [held, rereads]
        dsimp only
        rw [if_neg agrees]
        exact List.mem_cons_self
  · rw [List.getElem?_set_ne (Ne.symm mine)] at found
    exact stays_abreast step (List.getElem?_eq_some_iff.mp found).1
      (fun same => absurd same mine) (abreast process other seat record found consumes)

theorem step_respects (abreast : Abreast state) (fresh : current state turn = true)
    (step : contending.step state turn = some next) : Respects state turn := by
  obtain ⟨store, after, renewed, held, acts, world, noted⟩ := contending_step step
  have only : ∀ {other}, contending.step state turn = some other → other.1.disk = after := by
    intro other same
    obtain rfl := Option.some.inj (step.symm.trans same)
    rw [world]
  constructor
  case others =>
    intro other seat same different
    rw [only same]
    exact act_others acts different
  case degraded =>
    intro other found same present degraded
    obtain rfl := Option.some.inj (held.symm.trans present)
    rw [only same]
    exact act_degraded acts degraded
  case commits =>
    intro other seat outcome same commits
    rw [only same]
    rw [commits] at acts
    obtain ⟨flight, record, genBefore, given, locks, posted, rfl, _⟩ := act_commit acts
    have consumed : store.consuming seat = some record := by
      rw [consuming_of_flight locks, posted]
      rfl
    cases lands : outcome.lands with
    | false => exact .inl (by rw [commit_unlanded store seat state.1.disk lands genBefore given])
    | true =>
      rcases commit_disk store seat state.1.disk outcome genBefore given with
        kept | ⟨unmoved, live, present, _⟩
      · exact .inl (by rw [kept])
      · refine .inr ⟨store, record, held, consumed, ?_⟩
        have phase : store.phase seat = some (.posted record genBefore given) := by
          rw [OAuthStore.phase, locks]
          exact congrArg some posted
        have unnoted : (turn.process, seat) ∉ state.2 := by
          simpa [current, commits, held, phase, lands, live, unmoved, present] using fresh
        rcases abreast turn.process store seat record held consumed with noted | gone | same
        · exact absurd noted unnoted
        · rw [gone] at present
          cases present
        · exact same

/-- No refresh undoes a newer login or logout, where no commit finds its seat overtaken. -/
theorem refreshes_respect {world : World}
    (idle : ∀ store ∈ world.processes, store.flights = ∅)
    (fresh : Current (world, []) turns) :
    contending.AllSteps Respects (world, []) turns := by
  have abreast : Abreast (world, []) := by
    intro process store seat record found consumes
    have unlocked := idle store (List.mem_of_getElem? found)
    rw [OAuthStore.consuming, OAuthStore.phase, unlocked] at consumes
    cases consumes
  exact fresh.implies contending (fun _ _ _ holds _ step => step_abreast holds step)
    (fun _ _ _ holds meets step => step_respects holds meets step) abreast

def shared : Disk :=
  .ok ((∅ : CredentialsFile).insert "claude"
    { accessToken := "access-1", refreshToken := "refresh-1", expiresAtUnix := 0 })

def rotated : TokenRecord :=
  { accessToken := "access-2", refreshToken := "refresh-2", expiresAtUnix := 3600 }

def otherAccount : TokenRecord :=
  { accessToken := "access-9", refreshToken := "refresh-9", expiresAtUnix := 7200 }

/-- A daemon and a second process over one file. -/
def pair : World := { disk := shared, processes := [openOrDegraded shared, openOrDegraded shared] }

def refreshing : List World.Turn :=
  [⟨0, .lock "claude" "anthropic" rotated false false⟩, ⟨0, .reread "claude" 3000⟩,
    ⟨0, .snapshot "claude" 3000⟩, ⟨0, .post "claude" 3000 (.ok rotated)⟩]

def landing : World.Turn := ⟨0, .commit "claude" .done⟩

theorem undisturbed_refresh_respects :
    contending.AllSteps Respects (pair, [])
      (refreshing ++ [⟨1, .setProject "claude" "project" .done⟩, landing,
        ⟨1, .login "claude" otherAccount .done⟩]) := by
  apply refreshes_respect
  · intro store member
    simp [pair, openOrDegraded, shared] at member
    rw [member]
  · decide

/-- A login to the seat while its refresh waits for the endpoint is written over. -/
theorem login_overwritten :
    ∃ before after,
      contending.run (pair, []) (refreshing ++ [⟨1, .login "claude" otherAccount .done⟩]) =
        some before ∧
      before.1.disk.record "claude" = some otherAccount ∧
      contending.step before landing = some after ∧
      after.1.disk.record "claude" = some rotated ∧ ¬ Respects before landing := by
  refine ⟨_, _, rfl, rfl, rfl, rfl, ?_⟩
  intro respects
  rcases respects.commits _ "claude" .done rfl rfl with kept | ⟨store, record, held, consumed, same⟩
  · exact absurd kept (by decide)
  · cases held
    cases consumed
    exact absurd same (by decide)

end Runs
end Routectl.Oauth
