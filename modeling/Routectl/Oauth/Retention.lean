import Routectl.Oauth.Rotation

/-! What a committed refresh keeps of the record it replaces, over any interleaving of
processes, and what a cleared project id has to match. -/
namespace Routectl.Oauth
open Library

/-- The endpoint's last answer, by process and seat. -/
abbrev Answers := Nat → String → Option TokenRecord

def noteAnswer (_ : World) (turn : World.Turn) (_ : World) (answers : Answers) : Answers :=
  match turn.action with
  | .post own _ (.ok reply) => fun process seat =>
    if process = turn.process ∧ seat = own then some reply else answers process seat
  | _ => answers

/-- The world, and what the endpoint last answered. -/
def answering : Machine (World × Answers) World.Turn := World.machine.watched noteAnswer

/-- Each field that an answer leaves out is as it was stored. -/
structure FieldsKept (reply stored written : TokenRecord) : Prop where
  sessionId : reply.sessionId = none → written.sessionId = stored.sessionId
  cloudProjectId : reply.cloudProjectId = none → written.cloudProjectId = stored.cloudProjectId
  email : reply.account.email = none → written.account.email = stored.account.email
  accountId : reply.account.accountId = none → written.account.accountId = stored.account.accountId

/-- A refresh of one seat changed what the endpoint returned, and no other seat. -/
structure RefreshKept (seat : String) (reply : TokenRecord) (before after : Disk) : Prop where
  fields : ∀ stored, before.record seat = some stored →
    ∃ written, after.record seat = some written ∧ FieldsKept reply stored written
  siblings : ∀ sibling, sibling ≠ seat → after.record sibling = before.record sibling

def Disk.projectId (disk : Disk) (seat : String) : Option String :=
  (disk.record seat).bind fun record => record.cloudProjectId

/-- A project id that is gone is the one that was expected. -/
def ClearedExpected (seat expected : String) (before after : Disk) : Prop :=
  ∀ other projectId, before.projectId other = some projectId →
    after.projectId other ≠ some projectId → other = seat ∧ projectId = expected

/-- A step that commits a refresh keeps what the endpoint left out, and one that clears a
project id clears the expected one. -/
def keepsFields (state : World × Answers) (turn : World.Turn) : Prop :=
  match state.1.processes[turn.process]? with
  | some store =>
    match turn.action with
    | .commit seat outcome => ∀ snapshot genBefore renewed reply,
      store.phase seat = some (.posted snapshot genBefore renewed) →
      store.reloadGen = genBefore →
      (store.commit seat state.1.disk outcome genBefore renewed).2.2.isOk = true →
      state.2 turn.process seat = some reply →
      RefreshKept seat reply state.1.disk
        (store.commit seat state.1.disk outcome genBefore renewed).1
    | .clearProject seat expected outcome =>
      ClearedExpected seat expected state.1.disk
        (store.clearCloudProjectIdIfMatches state.1.disk outcome seat expected).1
    | _ => True
  | none => True

/-- A stored record without what the answer leaves out, but for the session id that the
refresh read before its request. -/
structure Spared (reply snapshot stored : TokenRecord) : Prop where
  sessionId : reply.sessionId = none → snapshot.sessionId = stored.sessionId
  cloudProjectId : reply.cloudProjectId = none → stored.cloudProjectId = none
  email : reply.account.email = none → stored.account.email = none
  accountId : reply.account.accountId = none → stored.account.accountId = none

/-- Where a refresh commits over a stored record, it is spared. -/
def sparesFields (state : World × Answers) (turn : World.Turn) : Prop :=
  match state.1.processes[turn.process]? with
  | some store =>
    match turn.action with
    | .commit seat outcome => ∀ snapshot renewed reply stored,
      store.phase seat = some (.posted snapshot store.reloadGen renewed) →
      store.loadError = none → outcome = .done → state.1.disk.record seat = some stored →
      state.2 turn.process seat = some reply → Spared reply snapshot stored
    | _ => True
  | none => True

section Committing
variable {store : OAuthStore} {seat : String} {disk : Disk} {outcome : Io} {renewed : TokenRecord}

theorem record_eq_some {stored : TokenRecord} (present : disk.record seat = some stored) :
    ∃ fresh, disk = .ok fresh ∧ fresh.lookup seat = some stored := by
  cases disk with
  | ok fresh => exact ⟨fresh, rfl, present⟩
  | error cause => cases present

theorem commit_isOk
    (succeeds : (store.commit seat disk outcome store.reloadGen renewed).2.2.isOk = true) :
    store.loadError = none ∧ outcome = .done ∧ ∃ stored, disk.record seat = some stored := by
  unfold OAuthStore.commit at succeeds
  dsimp only at succeeds
  rw [if_neg (not_not.mpr rfl)] at succeeds
  unfold OAuthStore.merge at succeeds
  have alive : (store.release seat).loadError = store.loadError := rfl
  rw [alive] at succeeds
  cases live : store.loadError with
  | some cause =>
    rw [live] at succeeds
    cases succeeds
  | none =>
    rw [live] at succeeds
    cases disk with
    | error cause =>
      cases outcome <;> cases succeeds
    | ok fresh =>
      cases present : fresh.lookup seat with
      | none =>
        cases outcome <;>
          simp [updateUnderLock, OAuthStore.renew, present, Except.isOk, Except.toBool] at succeeds
      | some stored =>
        cases outcome with
        | done => exact ⟨rfl, rfl, stored, present⟩
        | unlocked detail => cases succeeds
        | refused detail =>
          simp [updateUnderLock, OAuthStore.renew, present, Except.isOk, Except.toBool] at succeeds
        | unsynced detail =>
          simp [updateUnderLock, OAuthStore.renew, present, Except.isOk, Except.toBool] at succeeds

/-- The record a commit writes, all other seats as they were. -/
theorem commit_writes {stored : TokenRecord} (live : store.loadError = none)
    (present : disk.record seat = some stored) :
    (store.commit seat disk .done store.reloadGen renewed).2.2.isOk = true ∧
      (store.commit seat disk .done store.reloadGen renewed).1.record seat = some renewed ∧
      ∀ sibling, sibling ≠ seat →
        (store.commit seat disk .done store.reloadGen renewed).1.record sibling =
          disk.record sibling := by
  obtain ⟨fresh, rfl, found⟩ := record_eq_some present
  rw [commit_renews live found]
  refine ⟨rfl, AList.lookup_insert fresh, ?_⟩
  intro sibling different
  exact AList.lookup_insert_ne different

/-- An answer with the session id that was read before the request. -/
def carryOver (reply snapshot : TokenRecord) : TokenRecord :=
  { reply with sessionId := reply.sessionId.or snapshot.sessionId }

theorem fieldsKept_iff_spared (reply snapshot stored : TokenRecord) :
    FieldsKept reply stored (carryOver reply snapshot) ↔ Spared reply snapshot stored := by
  constructor
  · intro kept
    refine ⟨?_, ?_, ?_, ?_⟩
    · intro absent
      simpa [carryOver, absent] using kept.sessionId absent
    · intro absent
      simpa [carryOver, absent] using (kept.cloudProjectId absent).symm
    · intro absent
      simpa [carryOver, absent] using (kept.email absent).symm
    · intro absent
      simpa [carryOver, absent] using (kept.accountId absent).symm
  · intro spared
    refine ⟨?_, ?_, ?_, ?_⟩
    · intro absent
      simpa [carryOver, absent] using spared.sessionId absent
    · intro absent
      simp [carryOver, absent, spared.cloudProjectId absent]
    · intro absent
      simp [carryOver, absent, spared.email absent]
    · intro absent
      simp [carryOver, absent, spared.accountId absent]

theorem clearProject_cleared (store : OAuthStore) (disk : Disk) (outcome : Io)
    (seat expected : String) :
    ClearedExpected seat expected disk
      (store.clearCloudProjectIdIfMatches disk outcome seat expected).1 := by
  intro other projectId held gone
  unfold OAuthStore.clearCloudProjectIdIfMatches at gone
  obtain same | ⟨_, fresh, rfl, written, changed⟩ :=
    merge_disk store disk outcome (OAuthStore.clearProject seat expected)
  · rw [same] at gone
    exact absurd held gone
  · rw [changed] at gone
    by_cases own : other = seat
    · subst own
      refine ⟨rfl, ?_⟩
      have lookup : (fresh.lookup other).bind (fun record => record.cloudProjectId) =
          some projectId := held
      cases found : fresh.lookup other with
      | none => simp [found] at lookup
      | some record =>
        rw [found, Option.bind_some] at lookup
        by_cases matched : record.cloudProjectId = some expected
        · exact Option.some_inj.mp (lookup.symm.trans matched)
        · simp [OAuthStore.clearProject, found, matched] at written
    · have others := (clearProject_ofSeat seat expected).others fresh other own
      have same : Disk.projectId (.ok (OAuthStore.clearProject seat expected fresh).file) other =
          Disk.projectId (.ok fresh) other :=
        congrArg (fun record => record.bind fun record => record.cloudProjectId) others
      rw [same] at gone
      exact absurd held gone

end Committing

section Answering
variable {store next : OAuthStore} {seat own : String} {disk after : Disk}

theorem phase_merge {Report : Type} (store : OAuthStore) (disk : Disk) (outcome : Io)
    (mutate : CredentialsFile → Mutation Report) (seat : String) :
    (store.merge disk outcome mutate).2.1.phase seat = store.phase seat := by
  rw [OAuthStore.phase, (merge_view store disk outcome mutate).2, OAuthStore.phase]

theorem commit_phase (store : OAuthStore) (disk : Disk) (outcome : Io) (genBefore : Nat)
    (renewed : TokenRecord) :
    (store.commit seat disk outcome genBefore renewed).2.1.phase seat = none := by
  have merged := phase_merge (store.release seat) disk outcome (OAuthStore.renew seat renewed) seat
  rw [OAuthStore.phase_release] at merged
  unfold OAuthStore.commit
  dsimp only
  by_cases raced : store.reloadGen ≠ genBefore
  · rw [if_pos raced]
    exact OAuthStore.phase_release store seat
  · rw [if_neg raced]
    generalize (store.release seat).merge disk outcome (OAuthStore.renew seat renewed) =
      committed at merged ⊢
    obtain ⟨changed, kept, error | present⟩ := committed
    · exact merged
    · cases present
      · exact merged
      · exact merged

/-- A refresh waits to commit only with the answer it was last given. -/
theorem act_posted {action : Action} (acts : store.act disk action = some (after, next))
    {snapshot renewed : TokenRecord} {genBefore : Nat}
    (posted : next.phase seat = some (.posted snapshot genBefore renewed)) :
    (store.phase seat = some (.posted snapshot genBefore renewed) ∧
      ∀ now reply, action ≠ .post seat now (.ok reply)) ∨
      ∃ now reply, action = .post seat now (.ok reply) ∧ renewed = carryOver reply snapshot := by
  have framed : ∀ own, OAuthStore.Frames own store next → seat ≠ own →
      store.phase seat = some (.posted snapshot genBefore renewed) := by
    intro own frames different
    rw [← frames.phases seat different, posted]
  cases action with
  | lock own provider current force bypassCooldown =>
    obtain ⟨locked, taken, same⟩ := Option.map_eq_some_iff.mp acts
    obtain ⟨rfl, rfl⟩ := Prod.mk.inj same
    obtain ⟨frames, _, holds⟩ := OAuthStore.lockSeat_phase taken
    by_cases mine : seat = own
    · subst mine
      rw [holds] at posted
      cases posted
    · exact .inl ⟨framed own frames mine, by simp⟩
  | reread own now =>
    obtain ⟨flight, _, _, rfl, rfl⟩ := act_reread acts
    obtain ⟨frames, stage⟩ := OAuthStore.reread_phase store own now flight
    by_cases mine : seat = own
    · subst mine
      obtain ends | ⟨_, _, goes⟩ := stage
      · rw [ends] at posted
        cases posted
      · rw [goes] at posted
        cases posted
    · exact .inl ⟨framed own frames mine, by simp⟩
  | snapshot own now =>
    obtain ⟨flight, record, _, _, rfl, rfl⟩ := act_snapshot acts
    obtain ⟨frames, ends | goes⟩ := OAuthStore.snapshot_phase store own now flight record
    · by_cases mine : seat = own
      · subst mine
        rw [ends] at posted
        cases posted
      · exact .inl ⟨framed own frames mine, by simp⟩
    · by_cases mine : seat = own
      · subst mine
        rw [goes] at posted
        cases posted
      · exact .inl ⟨framed own frames mine, by simp⟩
  | post own now reply =>
    obtain ⟨flight, record, gen, _, _, rfl, rfl⟩ := act_post acts
    cases reply with
    | error error =>
      obtain ⟨frames, ends⟩ := OAuthStore.answer_refused store own now flight record gen error
      by_cases mine : seat = own
      · subst mine
        rw [ends] at posted
        cases posted
      · exact .inl ⟨framed own frames mine, by simp⟩
    | ok reply =>
      obtain ⟨frames, goes⟩ := OAuthStore.answer_accepted store own now flight record gen reply
      by_cases mine : seat = own
      · subst mine
        rw [goes] at posted
        cases posted
        exact .inr ⟨now, reply, rfl, rfl⟩
      · refine .inl ⟨framed own frames mine, ?_⟩
        intro _ _ same
        cases same
        exact mine rfl
  | commit own outcome =>
    obtain ⟨flight, record, gen, rotated, _, _, rfl, rfl⟩ := act_commit acts
    by_cases mine : seat = own
    · subst mine
      rw [commit_phase] at posted
      cases posted
    · obtain ⟨_, _, _, phase⟩ := commit_others mine store disk outcome gen rotated
      exact .inl ⟨by rw [← phase, posted], by simp⟩
  | startReload =>
    cases acts
    refine .inl ⟨?_, by simp⟩
    rw [← posted]
    cases disk <;> rfl
  | finishReload turn =>
    obtain ⟨swapped, finished, same⟩ := Option.map_eq_some_iff.mp acts
    obtain ⟨rfl, rfl⟩ := Prod.mk.inj same
    obtain ⟨file, _, rfl⟩ := Option.map_eq_some_iff.mp finished
    exact .inl ⟨posted, by simp⟩
  | setProject own projectId outcome =>
    cases acts
    have phase := phase_merge store disk outcome (OAuthStore.setProject own projectId) seat
    exact .inl ⟨phase.symm.trans posted, by simp⟩
  | clearProject own expected outcome =>
    cases acts
    have phase := phase_merge store disk outcome (OAuthStore.clearProject own expected) seat
    exact .inl ⟨phase.symm.trans posted, by simp⟩
  | login own record outcome =>
    obtain ⟨rfl, waits, rfl⟩ := act_login acts
    have phase := phase_merge store disk outcome (OAuthStore.upsert own record) seat
    exact .inl ⟨phase.symm.trans posted, by simp⟩
  | logout own outcome =>
    obtain ⟨rfl, waits, rfl⟩ := act_logout acts
    have phase := phase_merge store disk outcome (OAuthStore.remove own) seat
    exact .inl ⟨phase.symm.trans posted, by simp⟩

/-- Every refresh that waits to commit has its answer noted. -/
def AnswersNoted (state : World × Answers) : Prop :=
  ∀ process store seat snapshot genBefore renewed, state.1.processes[process]? = some store →
    store.phase seat = some (.posted snapshot genBefore renewed) →
      ∃ reply, state.2 process seat = some reply ∧ renewed = carryOver reply snapshot

theorem noteAnswer_other {before after : World} {turn : World.Turn} {process : Nat} {seat : String}
    {answers : Answers}
    (other : ∀ now reply, ¬ (process = turn.process ∧ turn.action = .post seat now (.ok reply))) :
    noteAnswer before turn after answers process seat = answers process seat := by
  obtain ⟨turning, action⟩ := turn
  cases action with
  | post own now reply =>
    cases reply with
    | error error => rfl
    | ok reply =>
      have different : ¬ (process = turning ∧ seat = own) := by
        rintro ⟨rfl, rfl⟩
        exact other now reply ⟨rfl, rfl⟩
      simp [noteAnswer, different]
  | _ => rfl

theorem answersNoted_preserves : answering.Preserves AnswersNoted := by
  intro state turn next noted step
  obtain ⟨world, stepped, rfl⟩ := World.machine.watched_step.mp step
  obtain ⟨⟨disk, processes⟩, answers⟩ := state
  obtain ⟨turning, action⟩ := turn
  change World.step ⟨disk, processes⟩ ⟨turning, action⟩ = some world at stepped
  unfold World.step at stepped
  cases found : processes[turning]? with
  | none => simp [found] at stepped
  | some store =>
    simp only [found] at stepped
    obtain ⟨⟨after, renewedStore⟩, acts, rfl⟩ := Option.map_eq_some_iff.mp stepped
    intro process held seat snapshot genBefore renewed there posted
    have there : (processes.set turning renewedStore)[process]? = some held := there
    rw [List.getElem?_set] at there
    by_cases mine : turning = process
    · subst mine
      have bound : turning < processes.length := by
        obtain ⟨bound, _⟩ := List.getElem?_eq_some_iff.mp found
        exact bound
      simp only [if_true, bound] at there
      cases there
      obtain ⟨before, other⟩ | ⟨now, reply, rfl, same⟩ := act_posted acts posted
      · obtain ⟨reply, known, same⟩ := noted turning store seat snapshot genBefore renewed found before
        refine ⟨reply, ?_, same⟩
        have kept := @noteAnswer_other ⟨disk, processes⟩
          ⟨after, processes.set turning renewedStore⟩ ⟨turning, action⟩ turning seat answers (by
            rintro now reply ⟨_, post⟩
            exact other now reply post)
        exact kept.trans known
      · exact ⟨reply, by simp [noteAnswer], same⟩
    · simp only [mine, if_false] at there
      obtain ⟨reply, known, same⟩ := noted process held seat snapshot genBefore renewed there posted
      refine ⟨reply, ?_, same⟩
      have kept := @noteAnswer_other ⟨disk, processes⟩
        ⟨after, processes.set turning renewedStore⟩ ⟨turning, action⟩ process seat answers (by
          rintro now reply ⟨same, _⟩
          exact mine same.symm)
      exact kept.trans known

end Answering

section Runs

theorem keepsFields_iff_sparesFields {state : World × Answers} {turn : World.Turn}
    (noted : AnswersNoted state) : keepsFields state turn ↔ sparesFields state turn := by
  obtain ⟨⟨disk, processes⟩, answers⟩ := state
  obtain ⟨process, action⟩ := turn
  unfold keepsFields sparesFields
  cases found : processes[process]? with
  | none => simp
  | some store =>
    simp only
    cases action with
    | commit seat outcome =>
      constructor
      · rintro keeps snapshot renewed reply stored posted live rfl present answered
        obtain ⟨known, same, rfl⟩ := noted process store seat _ _ _ found posted
        obtain rfl := Option.some_inj.mp (same.symm.trans answered)
        obtain ⟨succeeds, written, _⟩ := commit_writes live present
        have kept := keeps snapshot store.reloadGen _ known posted rfl succeeds same
        obtain ⟨after, there, fields⟩ := kept.fields stored present
        obtain rfl := Option.some_inj.mp (written.symm.trans there)
        exact (fieldsKept_iff_spared known snapshot stored).mp fields
      · rintro spares snapshot _ renewed reply posted rfl succeeds answered
        obtain ⟨known, same, rfl⟩ := noted process store seat _ _ _ found posted
        obtain rfl := Option.some_inj.mp (same.symm.trans answered)
        obtain ⟨live, rfl, stored, present⟩ := commit_isOk succeeds
        obtain ⟨_, written, siblings⟩ := commit_writes live present
        refine ⟨?_, siblings⟩
        intro other held
        obtain rfl := Option.some_inj.mp (present.symm.trans held)
        have spared := spares snapshot _ known stored posted live rfl present same
        exact ⟨_, written, (fieldsKept_iff_spared known snapshot stored).mpr spared⟩
    | clearProject seat expected outcome =>
      constructor
      · intro _
        trivial
      · intro _
        exact clearProject_cleared store disk outcome seat expected
    | _ => exact Iff.rfl

/-- Processes that opened the file at any time, over what it holds now. -/
def freshlyOpened (disk : Disk) (opened : List Disk) : World :=
  { disk, processes := opened.map openOrDegraded }

theorem freshlyOpened_noted (disk : Disk) (opened : List Disk) (answers : Answers) :
    AnswersNoted (freshlyOpened disk opened, answers) := by
  intro process store seat snapshot genBefore renewed held posted
  obtain ⟨opening, _, rfl⟩ := List.mem_map.mp (List.mem_of_getElem? held)
  cases opening with
  | ok file => cases posted
  | error cause => cases posted

/-- Over any run, every committed refresh keeps what the endpoint left out, and every cleared
project id was the expected one, exactly when each refresh commits over a record it spares. -/
theorem refresh_keeps_unsupplied_iff (disk : Disk) (opened : List Disk) (answers : Answers)
    (turns : List World.Turn) :
    answering.AllSteps keepsFields (freshlyOpened disk opened, answers) turns ↔
      answering.AllSteps sparesFields (freshlyOpened disk opened, answers) turns := by
  have noted := freshlyOpened_noted disk opened answers
  constructor
  · intro keeps
    exact keeps.implies answering
      (fun state turn next noted _ step => answersNoted_preserves state turn next noted step)
      (fun _ _ _ noted keeps _ => (keepsFields_iff_sparesFields noted).mp keeps) noted
  · intro spares
    exact spares.implies answering
      (fun state turn next noted _ step => answersNoted_preserves state turn next noted step)
      (fun _ _ _ noted spares _ => (keepsFields_iff_sparesFields noted).mpr spares) noted

/-- A project id resolved while the endpoint is asked for new tokens. -/
def resolvedInFlight : List World.Turn :=
  [⟨0, .lock "claude" "anthropic" renewal false false⟩, ⟨0, .reread "claude" 3000⟩,
    ⟨0, .snapshot "claude" 3000⟩, ⟨0, .setProject "claude" "projects/home" .done⟩,
    ⟨0, .post "claude" 3000 (.ok renewal)⟩, committing]

theorem project_id_lost_by_refresh :
    (∃ met, answering.run (freshlyOpened loggedIn [loggedIn], fun _ _ => none)
        resolvedInFlight = some met ∧ met.1.disk.projectId "claude" = none) ∧
      ¬ answering.AllSteps keepsFields (freshlyOpened loggedIn [loggedIn], fun _ _ => none)
        resolvedInFlight := by
  refine ⟨⟨_, rfl, by decide⟩, ?_⟩
  rintro ⟨_, _, _, _, _, keeps, _⟩
  have kept := keeps _ _ _ renewal rfl rfl rfl rfl
  obtain ⟨written, there, fields⟩ := kept.fields _ rfl
  have same := fields.cloudProjectId rfl
  cases there
  cases same

end Runs
end Routectl.Oauth
