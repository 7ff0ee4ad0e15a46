import Routectl.Oauth.World

/-! What the endpoint was shown and has issued for one seat, what of it the file keeps, and
which interleavings of reloads lose it. -/
namespace Routectl.Oauth
open Library

def tokenOf (record : Option TokenRecord) : Option String :=
  record.map fun record => record.refreshToken

def Disk.token (disk : Disk) (seat : String) : Option String := tokenOf (disk.record seat)

namespace OAuthStore

def token (store : OAuthStore) (seat : String) : Option String := tokenOf (store.file.lookup seat)

end OAuthStore

/-- What the endpoint has seen of a seat: the tokens it consumed, those shown to it again,
and the one that the last refresh to return was issued. -/
structure Rotations where
  consumed : List String := []
  replayed : List String := []
  issued : Option String := none
deriving Repr, DecidableEq

namespace Rotations

def present (rotations : Rotations) (token : String) : Rotations :=
  if token ∈ rotations.consumed then { rotations with replayed := token :: rotations.replayed }
  else rotations

def consume (rotations : Rotations) (token : String) : Rotations :=
  { rotations with consumed := token :: rotations.consumed }

def settle (rotations : Rotations) (token : String) : Refreshed → Rotations
  | .error (.oauth (.io _)) => rotations
  | _ => { rotations with issued := some token }

end Rotations

section Watching
variable (seat : String)

def noteRotation (store : OAuthStore) (disk : Disk) (action : Action) (rotations : Rotations) :
    Rotations :=
  match action with
  | .post own _ reply =>
    if own = seat then
      match store.phase own with
      | some (.posting record _) =>
        let presented := rotations.present record.refreshToken
        if reply.isOk then presented.consume record.refreshToken else presented
      | _ => rotations
    else rotations
  | .commit own outcome =>
    if own = seat then
      match store.phase own with
      | some (.posted _ genBefore renewed) =>
        rotations.settle renewed.refreshToken (store.commit own disk outcome genBefore renewed).2.2
      | _ => rotations
    else rotations
  | _ => rotations

def rotationNote (world : World) (turn : World.Turn) (_ : World) (rotations : Rotations) :
    Rotations :=
  match world.processes[turn.process]? with
  | some store => noteRotation seat store world.disk turn.action rotations
  | none => rotations

/-- The world, and what the endpoint has seen of the seat. -/
def rotating : Machine (World × Rotations) World.Turn := World.machine.watched (rotationNote seat)

/-- An endpoint that takes a refresh token once, and issues one it has not taken. -/
def takesOnce (store : OAuthStore) (action : Action) (rotations : Rotations) : Bool :=
  match action with
  | .post own _ (.ok renewed) =>
    if own = seat then
      match store.phase own with
      | some (.posting record _) =>
        record.refreshToken ∉ rotations.consumed &&
          renewed.refreshToken ∉ record.refreshToken :: rotations.consumed
      | _ => true
    else true
  | _ => true

/-- No login and no logout of the seat. -/
def staysIn (action : Action) : Bool :=
  match action with
  | .login own _ _ => own ≠ seat
  | .logout own _ => own ≠ seat
  | _ => true

/-- No reload came between the request of the seat and its commit, whose write goes through;
and a reload swaps in only what still carries the token that the file has for the seat. -/
def unraced (store : OAuthStore) (disk : Disk) (action : Action) : Bool :=
  match action with
  | .commit own outcome =>
    if own = seat then
      match store.phase own with
      | some (.posted _ genBefore _) => store.reloadGen = genBefore && outcome = .done
      | _ => true
    else true
  | .finishReload turn =>
    match store.reading[turn]? with
    | some file => tokenOf (file.lookup seat) = disk.token seat
    | none => true
  | _ => true

/-- What a guard says of the process whose turn it is. -/
def onTurn (guard : OAuthStore → Disk → Action → Rotations → Bool)
    (state : World × Rotations) (turn : World.Turn) : Prop :=
  match state.1.processes[turn.process]? with
  | some store => guard store state.1.disk turn.action state.2 = true
  | none => True

instance onTurn.decidable (guard : OAuthStore → Disk → Action → Rotations → Bool)
    (state : World × Rotations) (turn : World.Turn) : Decidable (onTurn guard state turn) :=
  match found : state.1.processes[turn.process]? with
  | some store =>
    decidable_of_iff (guard store state.1.disk turn.action state.2 = true) (by
      simp [onTurn, found])
  | none => .isTrue (by simp [onTurn, found])

abbrev TakesOnce (state : World × Rotations) (turns : List World.Turn) : Prop :=
  (rotating seat).AllSteps
    (onTurn fun store _ action rotations => takesOnce seat store action rotations) state turns

abbrev StaysIn (state : World × Rotations) (turns : List World.Turn) : Prop :=
  (rotating seat).AllSteps (onTurn fun _ _ action _ => staysIn seat action) state turns

abbrev Unraced (state : World × Rotations) (turns : List World.Turn) : Prop :=
  (rotating seat).AllSteps (onTurn fun store disk action _ => unraced seat store disk action)
    state turns

/-- The file carries what the last refresh to return was issued, and no consumed token was
shown again. -/
abbrev RotationKept (state : World × Rotations) : Prop :=
  (state.2.issued ≠ none → state.1.disk.token seat = state.2.issued) ∧ state.2.replayed = []

end Watching

/-- How far the refresh of a seat has come, as the tokens it is about. -/
inductive Stage where
  | free
  | locked
  | holding (token : String)
  | granted (token renewed : String)

def Stage.of : Option Phase → Stage
  | none => .free
  | some .locked => .locked
  | some (.reread record) => .holding record.refreshToken
  | some (.posting record _) => .holding record.refreshToken
  | some (.posted record _ renewed) => .granted record.refreshToken renewed.refreshToken

/-- One seat in one process: the tokens in the file and in the cache, and its refresh. -/
structure SeatView where
  stored : Option String
  cached : Option String
  live : Bool
  stage : Stage
  rotations : Rotations

def OAuthStore.view (store : OAuthStore) (disk : Disk) (seat : String) (rotations : Rotations) :
    SeatView where
  stored := disk.token seat
  cached := store.token seat
  live := store.loadError.isNone
  stage := .of (store.phase seat)
  rotations

/-- What can become of a seat where no reload is in the way. -/
inductive SeatView.Move (view : SeatView) : SeatView → Prop
  | quiet {cached : Option String} {live : Bool}
      (synced : cached = view.cached ∨ cached = view.stored)
      (alive : view.live = true → live = true) : Move view { view with cached, live }
  | lock (free : view.stage = .free) : Move view { view with stage := .locked }
  | leave (ungranted : ∀ token renewed, view.stage ≠ .granted token renewed) :
      Move view { view with stage := .free }
  | hold {token : String} (live : view.live = true) (cached : view.cached = some token)
      (locked : view.stage = .locked) : Move view { view with stage := .holding token }
  | refuse {token : String} (holding : view.stage = .holding token) :
      Move view { view with stage := .free, rotations := view.rotations.present token }
  | accept {token renewed : String} (holding : view.stage = .holding token)
      (fresh : renewed ∉ token :: view.rotations.consumed) :
      Move view { view with
        stage := .granted token renewed,
        rotations := (view.rotations.present token).consume token }
  | settle {token renewed : String} (granted : view.stage = .granted token renewed) :
      Move view { view with
        stored := some renewed, cached := some renewed, stage := .free,
        rotations := { view.rotations with issued := some renewed } }

/-- What a stage relies on. -/
def SeatView.Staged (view : SeatView) : Prop :=
  match view.stage with
  | .free => True
  | .locked => True
  | .holding token => view.live = true ∧ view.stored = some token
  | .granted token renewed =>
    view.live = true ∧ view.stored = some token ∧ renewed ∉ view.rotations.consumed

/-- The cache follows the file, and only a refresh that waits to commit leaves a consumed
token in it. -/
structure SeatView.Sound (view : SeatView) : Prop where
  cached : ∀ token, view.cached = some token → view.stored = some token
  staged : view.Staged
  unconsumed : (∀ token renewed, view.stage ≠ .granted token renewed) →
    ∀ token, view.stored = some token → token ∉ view.rotations.consumed
  issued : ∀ token, view.rotations.issued = some token → view.stored = some token
  replayed : view.rotations.replayed = []

section Moves
variable {view next : SeatView} {token : String}

theorem Rotations.present_unconsumed {rotations : Rotations}
    (unconsumed : token ∉ rotations.consumed) : rotations.present token = rotations :=
  if_neg unconsumed

theorem SeatView.Sound.holding (sound : view.Sound) (holding : view.stage = .holding token) :
    view.live = true ∧ view.stored = some token ∧ token ∉ view.rotations.consumed := by
  have staged := sound.staged
  unfold SeatView.Staged at staged
  rw [holding] at staged
  obtain ⟨live, stored⟩ := staged
  exact ⟨live, stored, sound.unconsumed (by simp [holding]) token stored⟩

theorem SeatView.Sound.granted {renewed : String} (sound : view.Sound)
    (granted : view.stage = .granted token renewed) :
    view.live = true ∧ view.stored = some token ∧ renewed ∉ view.rotations.consumed := by
  have staged := sound.staged
  unfold SeatView.Staged at staged
  rw [granted] at staged
  exact staged

/-- Every move keeps a seat sound. -/
theorem SeatView.Move.sound (move : view.Move next) (sound : view.Sound) : next.Sound := by
  cases move with
  | quiet synced alive =>
    have staged := sound.staged
    refine ⟨?_, ?_, sound.unconsumed, sound.issued, sound.replayed⟩
    case refine_1 =>
      rcases synced with rfl | rfl
      · exact sound.cached
      · exact fun _ stored => stored
    case refine_2 =>
      unfold SeatView.Staged at staged ⊢
      cases stage : view.stage with
      | free => trivial
      | locked => trivial
      | holding held =>
        rw [stage] at staged
        exact ⟨alive staged.1, staged.2⟩
      | granted held renewed =>
        rw [stage] at staged
        exact ⟨alive staged.1, staged.2⟩
  | lock free =>
    exact ⟨sound.cached, trivial, fun _ => sound.unconsumed (by simp [free]), sound.issued,
      sound.replayed⟩
  | leave ungranted =>
    exact ⟨sound.cached, trivial, fun _ => sound.unconsumed ungranted, sound.issued,
      sound.replayed⟩
  | hold live cached locked =>
    exact ⟨sound.cached, ⟨live, sound.cached _ cached⟩,
      fun _ => sound.unconsumed (by simp [locked]), sound.issued, sound.replayed⟩
  | refuse holding =>
    obtain ⟨_, _, unconsumed⟩ := sound.holding holding
    rw [Rotations.present_unconsumed unconsumed]
    exact ⟨sound.cached, trivial, fun _ => sound.unconsumed (by simp [holding]), sound.issued,
      sound.replayed⟩
  | accept holding fresh =>
    obtain ⟨live, stored, unconsumed⟩ := sound.holding holding
    rw [Rotations.present_unconsumed unconsumed]
    exact ⟨sound.cached, ⟨live, stored, fresh⟩, fun ungranted => absurd rfl (ungranted _ _),
      sound.issued, sound.replayed⟩
  | settle granted =>
    obtain ⟨_, _, fresh⟩ := sound.granted granted
    refine ⟨fun _ same => same, trivial, ?_, fun _ same => same, sound.replayed⟩
    intro _ held stored
    obtain rfl := Option.some.inj stored
    exact fresh

end Moves

section Simulation
variable {seat own : String} {store next : OAuthStore} {disk after : Disk}
variable {rotations : Rotations} {Report : Type} {mutate : CredentialsFile → Mutation Report}

/-- A mutation that leaves a seat its token. -/
def KeepsToken (seat : String) (mutate : CredentialsFile → Mutation Report) : Prop :=
  ∀ file, tokenOf ((mutate file).file.lookup seat) = tokenOf (file.lookup seat)

theorem OfSeat.keepsToken (ofSeat : OfSeat own mutate) (different : seat ≠ own) :
    KeepsToken seat mutate := by
  intro file
  rw [ofSeat.others file seat different]

theorem tokenOf_insert (file : CredentialsFile) {found changed : TokenRecord}
    (present : file.lookup own = some found)
    (same : changed.refreshToken = found.refreshToken) :
    tokenOf ((file.insert own changed).lookup seat) = tokenOf (file.lookup seat) := by
  by_cases mine : seat = own
  · subst mine
    rw [AList.lookup_insert, present]
    exact congrArg some same
  · rw [AList.lookup_insert_ne mine]

theorem setProject_keepsToken (seat own projectId : String) :
    KeepsToken seat (OAuthStore.setProject own projectId) := by
  intro file
  unfold OAuthStore.setProject
  split
  case h_1 found present => exact tokenOf_insert file present rfl
  case h_2 => rfl

theorem clearProject_keepsToken (seat own expected : String) :
    KeepsToken seat (OAuthStore.clearProject own expected) := by
  intro file
  unfold OAuthStore.clearProject
  split
  case h_1 found present =>
    split
    case isTrue => exact tokenOf_insert file present rfl
    case isFalse => rfl
  case h_2 => rfl

/-- A merge that leaves a seat its token leaves that in the file, and the cache with it or as
it was. -/
theorem merge_token (keeps : KeepsToken seat mutate) (store : OAuthStore) (disk : Disk)
    (outcome : Io) :
    (store.merge disk outcome mutate).1.token seat = disk.token seat ∧
      ((store.merge disk outcome mutate).2.1.token seat = store.token seat ∨
        (store.merge disk outcome mutate).2.1.token seat = disk.token seat) := by
  constructor
  case left =>
    rcases merge_disk store disk outcome mutate with same | ⟨_, fresh, rfl, _, written⟩
    · rw [same]
    · rw [written]
      exact keeps fresh
  case right =>
    rcases merge_store store disk outcome mutate with same | ⟨fresh, rfl, merged⟩
    · exact .inl (by rw [same])
    · rw [merged]
      exact .inr (keeps fresh)

theorem merge_view (store : OAuthStore) (disk : Disk) (outcome : Io)
    (mutate : CredentialsFile → Mutation Report) :
    (store.merge disk outcome mutate).2.1.loadError = store.loadError ∧
      (store.merge disk outcome mutate).2.1.flights = store.flights := by
  rcases merge_store store disk outcome mutate with same | ⟨fresh, _, merged⟩
  · rw [same]
    exact ⟨rfl, rfl⟩
  · rw [merged]
    exact ⟨rfl, rfl⟩

/-- A step that is about something else. -/
theorem quiet_view (stored : after.token seat = disk.token seat)
    (cached : next.token seat = store.token seat ∨ next.token seat = disk.token seat)
    (alive : store.loadError = none → next.loadError = none)
    (phase : next.phase seat = store.phase seat) :
    (store.view disk seat rotations).Move (next.view after seat rotations) := by
  have moved := @SeatView.Move.quiet (store.view disk seat rotations) (next.token seat)
    next.loadError.isNone cached (by
      intro live
      exact Option.isNone_iff_eq_none.mpr (alive (Option.isNone_iff_eq_none.mp live)))
  unfold OAuthStore.view at moved ⊢
  rw [phase, stored]
  exact moved

theorem frames_quiet (frames : OAuthStore.Frames own store next) (different : seat ≠ own) :
    (store.view disk seat rotations).Move (next.view disk seat rotations) := by
  apply quiet_view rfl
  · exact .inl (by rw [OAuthStore.token, frames.file, OAuthStore.token])
  · intro live
    rw [frames.loadError, live]
  · exact frames.phases seat different

/-- The step of the refresh of a seat that leaves cache and file alone. -/
theorem frames_view (frames : OAuthStore.Frames seat store next) :
    next.view disk seat rotations =
      { store.view disk seat rotations with stage := .of (next.phase seat) } := by
  unfold OAuthStore.view
  rw [frames.loadError, OAuthStore.token, frames.file, OAuthStore.token]

theorem merge_quiet (keeps : KeepsToken seat mutate) (store : OAuthStore) (disk : Disk)
    (outcome : Io) (rotations : Rotations) :
    (store.view disk seat rotations).Move
      ((store.merge disk outcome mutate).2.1.view (store.merge disk outcome mutate).1 seat
        rotations) := by
  obtain ⟨stored, cached⟩ := merge_token keeps store disk outcome
  obtain ⟨loadError, flights⟩ := merge_view store disk outcome mutate
  apply quiet_view stored cached
  · intro live
    rw [loadError, live]
  · rw [OAuthStore.phase, flights, OAuthStore.phase]

/-- A commit of another seat leaves the file its token of this one, and the cache with it or
as it was. -/
theorem commit_others (different : seat ≠ own) (store : OAuthStore) (disk : Disk) (outcome : Io)
    (genBefore : Nat) (renewed : TokenRecord) :
    (store.commit own disk outcome genBefore renewed).1.token seat = disk.token seat ∧
      ((store.commit own disk outcome genBefore renewed).2.1.token seat = store.token seat ∨
        (store.commit own disk outcome genBefore renewed).2.1.token seat = disk.token seat) ∧
      (store.commit own disk outcome genBefore renewed).2.1.loadError = store.loadError ∧
      (store.commit own disk outcome genBefore renewed).2.1.phase seat = store.phase seat := by
  have released := OAuthStore.release_frames store own
  have keeps := (renew_ofSeat own renewed).keepsToken different
  obtain ⟨stored, cached⟩ := merge_token keeps (store.release own) disk outcome
  obtain ⟨loadError, flights⟩ := merge_view (store.release own) disk outcome
    (OAuthStore.renew own renewed)
  have phases : ((store.release own).merge disk outcome (OAuthStore.renew own renewed)).2.1.phase
      seat = store.phase seat := by
    rw [OAuthStore.phase, flights]
    exact released.phases seat different
  unfold OAuthStore.commit
  dsimp only
  split
  case isTrue => exact ⟨rfl, .inl rfl, rfl, released.phases seat different⟩
  case isFalse =>
    split
    case h_1 failed =>
      rw [failed] at stored cached loadError phases
      exact ⟨stored, cached, loadError, phases⟩
    case h_2 succeeds =>
      rw [succeeds] at stored cached loadError phases
      split
      case isTrue => exact ⟨stored, cached, loadError, phases⟩
      case isFalse => exact ⟨stored, cached, loadError, phases⟩

theorem commit_quiet (different : seat ≠ own) (store : OAuthStore) (disk : Disk) (outcome : Io)
    (genBefore : Nat) (renewed : TokenRecord) (rotations : Rotations) :
    (store.view disk seat rotations).Move
      ((store.commit own disk outcome genBefore renewed).2.1.view
        (store.commit own disk outcome genBefore renewed).1 seat rotations) := by
  obtain ⟨stored, cached, loadError, phase⟩ :=
    commit_others different store disk outcome genBefore renewed
  apply quiet_view stored cached _ phase
  intro live
  rw [loadError, live]

/-- A commit that no reload raced. -/
theorem commit_renews {renewed found : TokenRecord} {fresh : CredentialsFile}
    (live : store.loadError = none) (present : fresh.lookup own = some found) :
    store.commit own (.ok fresh) .done store.reloadGen renewed =
      (.ok (fresh.insert own renewed),
        { store.release own with
          file := fresh.insert own renewed
          refreshCooldowns := store.refreshCooldowns.erase own },
        .ok renewed) := by
  have renews : OAuthStore.renew own renewed fresh =
      ⟨fresh.insert own renewed, .write, true⟩ := by
    unfold OAuthStore.renew
    rw [present]
  have merged : (store.release own).merge (.ok fresh) .done (OAuthStore.renew own renewed) =
      (.ok (fresh.insert own renewed),
        { store.release own with file := fresh.insert own renewed }, .ok true) := by
    have liveReleased : (store.release own).loadError = none := live
    simp [OAuthStore.merge, updateUnderLock, liveReleased, renews]
  unfold OAuthStore.commit
  dsimp only
  rw [if_neg (not_not.mpr rfl), merged]
  rfl

theorem phase_of_flight {flight : Flight} (held : store.flights.lookup own = some flight) :
    store.phase own = some flight.phase := by
  rw [OAuthStore.phase, held]
  rfl

theorem reread_moves {flight : Flight} {now : Nat} (held : store.flights.lookup own = some flight)
    (locked : flight.phase = .locked) :
    (store.view disk seat rotations).Move
      ((store.reread own now flight).1.view disk seat rotations) := by
  obtain ⟨frames, ends | ⟨record, found, goes⟩⟩ := OAuthStore.reread_phase store own now flight
  · by_cases mine : seat = own
    · subst mine
      rw [frames_view frames, ends]
      apply SeatView.Move.leave
      simp [OAuthStore.view, phase_of_flight held, locked, Stage.of]
    · exact frames_quiet frames mine
  · by_cases mine : seat = own
    · subst mine
      obtain ⟨live, present⟩ := OAuthStore.readRecord_ok found
      rw [frames_view frames, goes]
      apply SeatView.Move.hold
      · simp [OAuthStore.view, live]
      · simp [OAuthStore.view, OAuthStore.token, present, tokenOf]
      · simp [OAuthStore.view, phase_of_flight held, locked, Stage.of]
    · exact frames_quiet frames mine

theorem snapshot_moves {flight : Flight} {now : Nat} {record : TokenRecord}
    (held : store.flights.lookup own = some flight) (reread : flight.phase = .reread record) :
    (store.view disk seat rotations).Move
      ((store.snapshot own now flight record).1.view disk seat rotations) := by
  obtain ⟨frames, ends | goes⟩ := OAuthStore.snapshot_phase store own now flight record
  · by_cases mine : seat = own
    · subst mine
      rw [frames_view frames, ends]
      apply SeatView.Move.leave
      simp [OAuthStore.view, phase_of_flight held, reread, Stage.of]
    · exact frames_quiet frames mine
  · by_cases mine : seat = own
    · subst mine
      have stays : Stage.of (some (.posting record store.reloadGen)) = .of (store.phase seat) := by
        rw [phase_of_flight held, reread]
        rfl
      rw [frames_view frames, goes, stays]
      exact .quiet (.inl rfl) id
    · exact frames_quiet frames mine

theorem notePost_other (different : seat ≠ own) (now : Nat) (reply : Except OAuthError TokenRecord) :
    noteRotation seat store disk (.post own now reply) rotations = rotations :=
  if_neg (Ne.symm different)

theorem noteCommit_other (different : seat ≠ own) (outcome : Io) :
    noteRotation seat store disk (.commit own outcome) rotations = rotations :=
  if_neg (Ne.symm different)

theorem post_moves {flight : Flight} {now genBefore : Nat} {record : TokenRecord}
    {reply : Except OAuthError TokenRecord} (held : store.flights.lookup own = some flight)
    (posting : flight.phase = .posting record genBefore)
    (once : takesOnce seat store (.post own now reply) rotations = true) :
    (store.view disk seat rotations).Move
      ((store.answer own now flight record genBefore reply).1.view disk seat
        (noteRotation seat store disk (.post own now reply) rotations)) := by
  by_cases mine : seat = own
  · subst mine
    have waits : store.phase seat = some (.posting record genBefore) := by
      rw [phase_of_flight held, posting]
    have holding : (store.view disk seat rotations).stage = .holding record.refreshToken := by
      simp [OAuthStore.view, waits, Stage.of]
    cases reply with
    | error error =>
      obtain ⟨frames, ends⟩ :=
        OAuthStore.answer_refused store seat now flight record genBefore error
      have noted : noteRotation seat store disk (.post seat now (.error error)) rotations =
          rotations.present record.refreshToken := by
        simp [noteRotation, waits, Except.isOk, Except.toBool]
      rw [frames_view frames, ends, noted]
      exact .refuse holding
    | ok renewed =>
      obtain ⟨frames, goes⟩ :=
        OAuthStore.answer_accepted store seat now flight record genBefore renewed
      have noted : noteRotation seat store disk (.post seat now (.ok renewed)) rotations =
          (rotations.present record.refreshToken).consume record.refreshToken := by
        simp [noteRotation, waits, Except.isOk, Except.toBool]
      have fresh : renewed.refreshToken ∉ record.refreshToken :: rotations.consumed := by
        simp [takesOnce, waits] at once
        simp [once]
      rw [frames_view frames, goes, noted]
      exact .accept holding fresh
  · rw [notePost_other mine]
    cases reply with
    | error error =>
      exact frames_quiet
        (OAuthStore.answer_refused store own now flight record genBefore error).1 mine
    | ok renewed =>
      exact frames_quiet
        (OAuthStore.answer_accepted store own now flight record genBefore renewed).1 mine

theorem commit_moves {flight : Flight} {outcome : Io} {genBefore : Nat}
    {record renewed : TokenRecord} (held : store.flights.lookup own = some flight)
    (posted : flight.phase = .posted record genBefore renewed)
    (sound : (store.view disk seat rotations).Sound)
    (unraces : unraced seat store disk (.commit own outcome) = true) :
    (store.view disk seat rotations).Move
      ((store.commit own disk outcome genBefore renewed).2.1.view
        (store.commit own disk outcome genBefore renewed).1 seat
        (noteRotation seat store disk (.commit own outcome) rotations)) := by
  by_cases mine : seat = own
  · subst mine
    have waits : store.phase seat = some (.posted record genBefore renewed) := by
      rw [phase_of_flight held, posted]
    have granted : (store.view disk seat rotations).stage =
        .granted record.refreshToken renewed.refreshToken := by
      simp [OAuthStore.view, waits, Stage.of]
    obtain ⟨live, stored, _⟩ := sound.granted granted
    obtain ⟨rfl, rfl⟩ : store.reloadGen = genBefore ∧ outcome = .done := by
      simpa [unraced, waits] using unraces
    have liveStore : store.loadError = none := Option.isNone_iff_eq_none.mp live
    obtain ⟨found, present, _⟩ := Option.map_eq_some_iff.mp stored
    cases disk with
    | error cause => cases present
    | ok fresh =>
      have commits := @commit_renews _ _ renewed _ _ liveStore present
      have noted : noteRotation seat store (.ok fresh) (.commit seat .done) rotations =
          { rotations with issued := some renewed.refreshToken } := by
        simp [noteRotation, waits, commits, Rotations.settle]
      have settled := SeatView.Move.settle granted
      rw [noted, commits]
      simpa [OAuthStore.view, Disk.token, Disk.record, OAuthStore.token, tokenOf, Stage.of,
        OAuthStore.phase, OAuthStore.release] using settled
  · rw [noteCommit_other mine]
    exact commit_quiet mine store disk outcome genBefore renewed rotations

theorem startReload_moves (store : OAuthStore) (disk : Disk) :
    (store.view disk seat rotations).Move
      ((store.startReload disk).view disk seat rotations) := by
  unfold OAuthStore.startReload
  split
  case h_1 => exact .quiet (.inl rfl) id
  case h_2 => exact .quiet (.inl rfl) id

theorem finishReload_moves {turn : Nat} (swapped : store.finishReload turn = some next)
    (unraces : unraced seat store disk (.finishReload turn) = true) :
    (store.view disk seat rotations).Move (next.view disk seat rotations) := by
  obtain ⟨file, read, rfl⟩ := Option.map_eq_some_iff.mp swapped
  have carries : tokenOf (file.lookup seat) = disk.token seat := by
    simpa [unraced, read] using unraces
  apply quiet_view rfl
  · exact .inr carries
  · exact fun _ => rfl
  · rfl

/-- What a process does, seen from one seat that stays logged in, where no reload races its
refreshes. -/
theorem act_moves {action : Action} (acts : store.act disk action = some (after, next))
    (sound : (store.view disk seat rotations).Sound)
    (once : takesOnce seat store action rotations = true)
    (stays : staysIn seat action = true)
    (unraces : unraced seat store disk action = true) :
    (store.view disk seat rotations).Move
      (next.view after seat (noteRotation seat store disk action rotations)) := by
  cases action with
  | lock own provider current force bypassCooldown =>
    obtain ⟨locked, taken, same⟩ := Option.map_eq_some_iff.mp acts
    obtain ⟨rfl, rfl⟩ := Prod.mk.inj same
    obtain ⟨frames, free, holds⟩ := OAuthStore.lockSeat_phase taken
    by_cases mine : seat = own
    · subst mine
      have moved : (store.view disk seat rotations).Move _ := .lock (by
        simp [OAuthStore.view, free, Stage.of])
      rw [frames_view frames, holds]
      exact moved
    · exact frames_quiet frames mine
  | reread own now =>
    obtain ⟨flight, held, locked, rfl, rfl⟩ := act_reread acts
    exact reread_moves held locked
  | snapshot own now =>
    obtain ⟨flight, record, held, reread, rfl, rfl⟩ := act_snapshot acts
    exact snapshot_moves held reread
  | post own now reply =>
    obtain ⟨flight, record, genBefore, held, posting, rfl, rfl⟩ := act_post acts
    exact post_moves held posting once
  | commit own outcome =>
    obtain ⟨flight, record, genBefore, renewed, held, posted, rfl, rfl⟩ := act_commit acts
    exact commit_moves held posted sound unraces
  | startReload =>
    cases acts
    exact startReload_moves store disk
  | finishReload turn =>
    obtain ⟨swapped, finished, same⟩ := Option.map_eq_some_iff.mp acts
    obtain ⟨rfl, rfl⟩ := Prod.mk.inj same
    exact finishReload_moves finished unraces
  | setProject own projectId outcome =>
    cases acts
    exact merge_quiet (setProject_keepsToken seat own projectId) store disk outcome rotations
  | clearProject own expected outcome =>
    cases acts
    exact merge_quiet (clearProject_keepsToken seat own expected) store disk outcome rotations
  | login own record outcome =>
    have different : own ≠ seat := of_decide_eq_true stays
    obtain ⟨rfl, waits, rfl⟩ := act_login acts
    exact merge_quiet ((upsert_ofSeat own record).keepsToken different.symm) store disk outcome
      rotations
  | logout own outcome =>
    have different : own ≠ seat := of_decide_eq_true stays
    obtain ⟨rfl, waits, rfl⟩ := act_logout acts
    exact merge_quiet ((remove_ofSeat own).keepsToken different.symm) store disk outcome rotations

end Simulation

section Runs
variable {seat : String} {disk : Disk} {turns : List World.Turn}

/-- One process, its seat sound. -/
def SoundAlone (seat : String) (state : World × Rotations) : Prop :=
  ∃ store, state.1.processes = [store] ∧ (store.view state.1.disk seat state.2).Sound

theorem single_sound (seat : String) (disk : Disk) : SoundAlone seat (.single disk, {}) := by
  refine ⟨openOrDegraded disk, rfl, ?_⟩
  constructor
  case cached =>
    intro token cached
    cases disk with
    | ok file => exact cached
    | error error => cases cached
  case staged =>
    cases disk with
    | ok file => trivial
    | error error => trivial
  case unconsumed => exact fun _ _ _ => List.not_mem_nil
  case issued =>
    intro token missing
    cases missing
  case replayed => rfl

/-- A step of the one process keeps its seat sound where no reload is in the way. -/
theorem step_sound {state next : World × Rotations} {turn : World.Turn}
    (sound : SoundAlone seat state)
    (once : onTurn (fun store _ action rotations => takesOnce seat store action rotations) state turn)
    (stays : onTurn (fun _ _ action _ => staysIn seat action) state turn)
    (unraces : onTurn (fun store disk action _ => unraced seat store disk action) state turn)
    (step : (rotating seat).step state turn = some next) : SoundAlone seat next := by
  obtain ⟨store, alone, sound⟩ := sound
  obtain ⟨world, stepped, rfl⟩ := World.machine.watched_step.mp step
  obtain ⟨⟨disk, processes⟩, rotations⟩ := state
  obtain rfl : processes = [store] := alone
  obtain ⟨process, action⟩ := turn
  cases process with
  | zero =>
    obtain ⟨⟨after, renewed⟩, acts, rfl⟩ := Option.map_eq_some_iff.mp stepped
    exact ⟨renewed, rfl, (act_moves acts sound once stays unraces).sound sound⟩
  | succ other => cases stepped

/-- No accepted rotation is lost and no consumed token is shown again, where no reload comes
between a request and its commit or swaps in a file from before one. -/
theorem rotations_kept (once : TakesOnce seat (.single disk, {}) turns)
    (stays : StaysIn seat (.single disk, {}) turns)
    (unraces : Unraced seat (.single disk, {}) turns) :
    ∀ met, (rotating seat).Visits (.single disk, {}) turns met → RotationKept seat met := by
  intro met visits
  have guarded := Machine.AllSteps.and _ (Machine.AllSteps.and _ once stays) unraces
  obtain ⟨store, alone, sound⟩ := guarded.visits (rotating seat)
    (fun state turn next sound meets step =>
      step_sound sound meets.1.1 meets.1.2 meets.2 step)
    (single_sound seat disk) visits
  refine ⟨?_, sound.replayed⟩
  intro settled
  obtain ⟨token, issued⟩ := Option.ne_none_iff_exists'.mp settled
  exact (sound.issued token issued).trans issued.symm

def loggedIn : Disk :=
  .ok ((∅ : CredentialsFile).insert "claude"
    { accessToken := "access-1", refreshToken := "refresh-1", expiresAtUnix := 0 })

def renewal : TokenRecord :=
  { accessToken := "access-2", refreshToken := "refresh-2", expiresAtUnix := 3600 }

/-- A refresh of the seat up to the answer of the endpoint. -/
def requesting (reply : Except OAuthError TokenRecord) : List World.Turn :=
  [⟨0, .lock "claude" "anthropic" renewal false false⟩, ⟨0, .reread "claude" 3000⟩,
    ⟨0, .snapshot "claude" 3000⟩, ⟨0, .post "claude" 3000 reply⟩]

def committing : World.Turn := ⟨0, .commit "claude" .done⟩

def reloading : List World.Turn := [⟨0, .startReload⟩, ⟨0, .finishReload 0⟩]

def spaced : List World.Turn :=
  reloading ++ requesting (.ok renewal) ++ [committing] ++ reloading

theorem spaced_rotations_kept :
    ∃ met, (rotating "claude").run (.single loggedIn, {}) spaced = some met ∧
      RotationKept "claude" met := by
  refine ⟨_, rfl, ?_⟩
  exact @rotations_kept "claude" loggedIn spaced (by decide) (by decide) (by decide) _
    ⟨spaced, [], rfl, rfl⟩

/-- A reload between a request and its commit, and one that read the file before a commit. -/
def overtaken : List World.Turn := requesting (.ok renewal) ++ reloading ++ [committing]

def outdated : List World.Turn :=
  [⟨0, .startReload⟩] ++ requesting (.ok renewal) ++ [committing, ⟨0, .finishReload 0⟩] ++
    requesting (.error (.refreshExpired "anthropic"))

theorem rotation_lost :
    (TakesOnce "claude" (.single loggedIn, {}) overtaken ∧
      StaysIn "claude" (.single loggedIn, {}) overtaken ∧
      ∃ met, (rotating "claude").run (.single loggedIn, {}) overtaken = some met ∧
        met.2.issued = some "refresh-2" ∧ met.1.disk.token "claude" = some "refresh-1" ∧
        ¬ RotationKept "claude" met) ∧
      TakesOnce "claude" (.single loggedIn, {}) outdated ∧
      StaysIn "claude" (.single loggedIn, {}) outdated ∧
      ∃ met, (rotating "claude").run (.single loggedIn, {}) outdated = some met ∧
        met.2.replayed = ["refresh-1"] ∧ ¬ RotationKept "claude" met := by
  refine ⟨⟨by decide, by decide, _, rfl, by decide⟩, by decide, by decide, _, rfl, by decide⟩

end Runs
end Routectl.Oauth
