import Routectl.Library.Transition
import Routectl.Oauth.Refresh

/-! Any number of processes over one credentials file, each step of a refresh, a reload, a
login, a logout or a change of a project id a step of its own. -/
namespace Routectl.Oauth
open Library

inductive Action where
  | lock (seat provider : String) (current : TokenRecord) (force bypassCooldown : Bool)
  | reread (seat : String) (now : Nat)
  | snapshot (seat : String) (now : Nat)
  | post (seat : String) (now : Nat) (reply : Except OAuthError TokenRecord)
  | commit (seat : String) (outcome : Io)
  | startReload
  | finishReload (turn : Nat)
  | setProject (seat projectId : String) (outcome : Io)
  | clearProject (seat expected : String) (outcome : Io)
  | login (seat : String) (record : TokenRecord) (outcome : Io)
  | logout (seat : String) (outcome : Io)

/-- One action of a process, over the file that all share. -/
def OAuthStore.act (store : OAuthStore) (disk : Disk) : Action → Option (Disk × OAuthStore)
  | .lock seat provider current force bypassCooldown =>
    (store.lockSeat seat provider current force bypassCooldown).map fun store => (disk, store)
  | .reread seat now =>
    match store.flights.lookup seat with
    | some flight =>
      match flight.phase with
      | .locked => some (disk, (store.reread seat now flight).1)
      | _ => none
    | none => none
  | .snapshot seat now =>
    match store.flights.lookup seat with
    | some flight =>
      match flight.phase with
      | .reread record => some (disk, (store.snapshot seat now flight record).1)
      | _ => none
    | none => none
  | .post seat now reply =>
    match store.flights.lookup seat with
    | some flight =>
      match flight.phase with
      | .posting record genBefore =>
        some (disk, (store.answer seat now flight record genBefore reply).1)
      | _ => none
    | none => none
  | .commit seat outcome =>
    match store.flights.lookup seat with
    | some flight =>
      match flight.phase with
      | .posted _ genBefore renewed =>
        let (disk, store, _) := store.commit seat disk outcome genBefore renewed
        some (disk, store)
      | _ => none
    | none => none
  | .startReload => some (disk, store.startReload disk)
  | .finishReload turn => (store.finishReload turn).map fun store => (disk, store)
  | .setProject seat projectId outcome =>
    let (disk, store, _) := store.setCloudProjectId disk outcome seat projectId
    some (disk, store)
  | .clearProject seat expected outcome =>
    let (disk, store, _) := store.clearCloudProjectIdIfMatches disk outcome seat expected
    some (disk, store)
  | .login seat record outcome =>
    let (disk, store, _) := store.writeRecord disk outcome seat record
    some (disk, store)
  | .logout seat outcome =>
    let (disk, store, _) := store.removeProvider disk outcome seat
    some (disk, store)

section Acting
variable {store next : OAuthStore} {disk after : Disk} {seat : String} {now : Nat}

theorem act_reread (acts : store.act disk (.reread seat now) = some (after, next)) :
    ∃ flight, store.flights.lookup seat = some flight ∧ flight.phase = .locked ∧
      after = disk ∧ next = (store.reread seat now flight).1 := by
  simp only [OAuthStore.act] at acts
  split at acts
  case h_1 flight held =>
    split at acts
    case h_1 locked =>
      cases acts
      exact ⟨flight, held, locked, rfl, rfl⟩
    case h_2 => cases acts
  case h_2 => cases acts

theorem act_snapshot (acts : store.act disk (.snapshot seat now) = some (after, next)) :
    ∃ flight record, store.flights.lookup seat = some flight ∧ flight.phase = .reread record ∧
      after = disk ∧ next = (store.snapshot seat now flight record).1 := by
  simp only [OAuthStore.act] at acts
  split at acts
  case h_1 flight held =>
    split at acts
    case h_1 record reread =>
      cases acts
      exact ⟨flight, record, held, reread, rfl, rfl⟩
    case h_2 => cases acts
  case h_2 => cases acts

theorem act_post {reply : Except OAuthError TokenRecord}
    (acts : store.act disk (.post seat now reply) = some (after, next)) :
    ∃ flight record genBefore, store.flights.lookup seat = some flight ∧
      flight.phase = .posting record genBefore ∧
      after = disk ∧ next = (store.answer seat now flight record genBefore reply).1 := by
  simp only [OAuthStore.act] at acts
  split at acts
  case h_1 flight held =>
    split at acts
    case h_1 record genBefore posting =>
      cases acts
      exact ⟨flight, record, genBefore, held, posting, rfl, rfl⟩
    case h_2 => cases acts
  case h_2 => cases acts

theorem act_commit {outcome : Io} (acts : store.act disk (.commit seat outcome) = some (after, next)) :
    ∃ flight record genBefore renewed, store.flights.lookup seat = some flight ∧
      flight.phase = .posted record genBefore renewed ∧
      after = (store.commit seat disk outcome genBefore renewed).1 ∧
      next = (store.commit seat disk outcome genBefore renewed).2.1 := by
  simp only [OAuthStore.act] at acts
  split at acts
  case h_1 flight held =>
    split at acts
    case h_1 record genBefore renewed posted =>
      cases acts
      exact ⟨flight, record, genBefore, renewed, held, posted, rfl, rfl⟩
    case h_2 => cases acts
  case h_2 => cases acts

theorem act_login {record : TokenRecord} {outcome : Io}
    (acts : store.act disk (.login seat record outcome) = some (after, next)) :
    after = (store.merge disk outcome (OAuthStore.upsert seat record)).1 ∧
      ∃ waits, next = { (store.merge disk outcome (OAuthStore.upsert seat record)).2.1 with
        refreshCooldowns := waits } := by
  obtain ⟨disks, waits, stores⟩ := writeRecord_merges store disk outcome seat record
  obtain ⟨changed, renewed⟩ := Prod.mk.inj (Option.some.inj acts)
  exact ⟨changed.symm.trans disks, waits, renewed.symm.trans stores⟩

theorem act_logout {outcome : Io}
    (acts : store.act disk (.logout seat outcome) = some (after, next)) :
    after = (store.merge disk outcome (OAuthStore.remove seat)).1 ∧
      ∃ waits, next = { (store.merge disk outcome (OAuthStore.remove seat)).2.1 with
        refreshCooldowns := waits } := by
  obtain ⟨disks, waits, stores⟩ := removeProvider_merges store disk outcome seat
  obtain ⟨changed, renewed⟩ := Prod.mk.inj (Option.some.inj acts)
  exact ⟨changed.symm.trans disks, waits, renewed.symm.trans stores⟩

end Acting

/-- The file and the processes over it. -/
structure World where
  disk : Disk
  processes : List OAuthStore

namespace World

/-- One action of one process. -/
structure Turn where
  process : Nat
  action : Action

def step (world : World) (turn : Turn) : Option World :=
  match world.processes[turn.process]? with
  | some store =>
    (store.act world.disk turn.action).map fun (disk, store) =>
      { disk, processes := world.processes.set turn.process store }
  | none => none

def machine : Machine World Turn where
  step := World.step

/-- One process, started over the file. -/
def single (disk : Disk) : World := { disk, processes := [openOrDegraded disk] }

end World
end Routectl.Oauth
