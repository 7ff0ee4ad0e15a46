import Routectl.Library.KeyedMap

/-! The credentials file and the store of one process over it: every change is merged onto
what the file holds at that moment, and what it then holds becomes the cache. -/
namespace Routectl.Oauth
open Library

structure AccountInfo where
  email : Option String := none
  accountId : Option String := none
deriving Repr, DecidableEq

structure TokenRecord where
  accessToken : String
  refreshToken : String
  tokenType : String := "Bearer"
  expiresAtUnix : Nat
  scopes : List String := []
  account : AccountInfo := {}
  obtainedAtUnix : Nat := 0
  sessionId : Option String := none
  cloudProjectId : Option String := none
deriving Repr, DecidableEq

def TokenRecord.nearExpiry (record : TokenRecord) (leadSecs nowUnix : Nat) : Bool :=
  record.expiresAtUnix - nowUnix < leadSecs

/-- The records by seat. -/
abbrev CredentialsFile := KeyedMap String TokenRecord

inductive OAuthError where
  | notLoggedIn (seat : String)
  | schemaMismatch (found expected : Nat) (path : String)
  | corruptedFile (path detail : String)
  | degraded (cause : String)
  | tokenEndpoint (message : String)
  | refreshExpired (provider : String)
  | network (message : String)
  | io (detail : String)
  | internal (detail : String)
deriving Repr, DecidableEq

/-- The file as it loads; a missing one loads as empty. -/
abbrev Disk := Except OAuthError CredentialsFile

def Disk.record (disk : Disk) (seat : String) : Option TokenRecord :=
  match disk with
  | .ok file => file.lookup seat
  | .error _ => none

inductive WriteDirective where
  | write
  | skip
deriving Repr, DecidableEq

structure Mutation (Report : Type) where
  file : CredentialsFile
  directive : WriteDirective
  report : Report

/-- What comes of locking and writing the file: `unsynced` is a failure after the rename. -/
inductive Io where
  | done
  | unlocked (detail : String)
  | refused (detail : String)
  | unsynced (detail : String)
deriving Repr, DecidableEq

def updateUnderLock {Report : Type} (disk : Disk) (outcome : Io)
    (mutate : CredentialsFile → Mutation Report) :
    Disk × Except OAuthError (CredentialsFile × Report) :=
  match outcome with
  | .unlocked detail => (disk, .error (.io detail))
  | _ =>
    match disk with
    | .error cause => (disk, .error cause)
    | .ok fresh =>
      let mutation := mutate fresh
      match mutation.directive, outcome with
      | .skip, _ => (disk, .ok (mutation.file, mutation.report))
      | .write, .refused detail => (disk, .error (.io detail))
      | .write, .unsynced detail => (.ok mutation.file, .error (.io detail))
      | .write, _ => (.ok mutation.file, .ok (mutation.file, mutation.report))

structure SeatCooldown where
  consecutive : Nat := 0
  nextAllowedUnix : Nat := 0
  suppressed : Nat := 0
deriving Repr, DecidableEq

/-- Where a refresh that holds the lock of its seat stands. -/
inductive Phase where
  | locked
  | reread (record : TokenRecord)
  | posting (record : TokenRecord) (genBefore : Nat)
  | posted (record : TokenRecord) (genBefore : Nat) (renewed : TokenRecord)
deriving DecidableEq

structure Flight where
  provider : String
  current : TokenRecord
  force : Bool
  bypassCooldown : Bool
  phase : Phase := .locked
deriving DecidableEq

/-- One process: `flights` are the seats whose refresh lock is held, `reading` the files
that reloads have read and not yet swapped in. -/
structure OAuthStore where
  file : CredentialsFile := ∅
  loadError : Option String := none
  reloadGen : Nat := 0
  refreshCooldowns : KeyedMap String SeatCooldown := ∅
  flights : KeyedMap String Flight := ∅
  reading : List CredentialsFile := []

def sanitizeOpenError (error : OAuthError) : String :=
  let cause :=
    match error with
    | .schemaMismatch found expected _ =>
      "credentials store schema is v" ++ toString found ++ "; this binary expects v" ++
        toString expected ++
        "; upgrade routectl or delete credentials.json and re-run `routectl login`"
    | .corruptedFile _ _ => "oauth credentials file (credentials.json) is corrupted"
    | .io _ => "oauth credentials file (credentials.json) could not be read"
    | _ => "oauth credentials store (credentials.json) could not be opened"
  cause ++ "; fix the file and it reloads without restart"

/-- A store over a file that does not load is there, degraded. -/
def openOrDegraded : Disk → OAuthStore
  | .ok file => { file }
  | .error error => { loadError := some (sanitizeOpenError error) }

namespace OAuthStore
variable (store : OAuthStore)

def clearCooldown (seat : String) : OAuthStore :=
  { store with refreshCooldowns := store.refreshCooldowns.erase seat }

def readRecord (seat : String) : Except OAuthError TokenRecord :=
  match store.loadError with
  | some cause => .error (.degraded cause)
  | none =>
    match store.file.lookup seat with
    | some record => .ok record
    | none => .error (.notLoggedIn seat)

/-- A change of the file that is merged onto what it holds; a degraded store makes none. -/
def merge {Report : Type} (disk : Disk) (outcome : Io)
    (mutate : CredentialsFile → Mutation Report) : Disk × OAuthStore × Except OAuthError Report :=
  match store.loadError with
  | some cause => (disk, store, .error (.degraded cause))
  | none =>
    match updateUnderLock disk outcome mutate with
    | (disk, .error error) => (disk, store, .error error)
    | (disk, .ok (merged, report)) => (disk, { store with file := merged }, .ok report)

def setProject (seat projectId : String) (file : CredentialsFile) : Mutation Bool :=
  match file.lookup seat with
  | some record =>
    ⟨file.insert seat { record with cloudProjectId := some projectId }, .write, true⟩
  | none => ⟨file, .skip, false⟩

def setCloudProjectId (disk : Disk) (outcome : Io) (seat projectId : String) :
    Disk × OAuthStore × Except OAuthError Unit :=
  let (disk, merged, result) := store.merge disk outcome (setProject seat projectId)
  (disk, merged, result.bind fun found =>
    if found then .ok () else .error (.notLoggedIn seat))

def clearProject (seat expected : String) (file : CredentialsFile) : Mutation Bool :=
  match file.lookup seat with
  | some record =>
    if record.cloudProjectId = some expected then
      ⟨file.insert seat { record with cloudProjectId := none }, .write, true⟩
    else ⟨file, .skip, false⟩
  | none => ⟨file, .skip, false⟩

def clearCloudProjectIdIfMatches (disk : Disk) (outcome : Io) (seat expected : String) :
    Disk × OAuthStore × Except OAuthError Bool :=
  store.merge disk outcome (clearProject seat expected)

def upsert (seat : String) (record : TokenRecord) (file : CredentialsFile) : Mutation Unit :=
  ⟨file.insert seat record, .write, ()⟩

/-- A login. -/
def writeRecord (disk : Disk) (outcome : Io) (seat : String) (record : TokenRecord) :
    Disk × OAuthStore × Except OAuthError Unit :=
  let (disk, merged, result) := store.merge disk outcome (upsert seat record)
  (disk, if result.isOk then merged.clearCooldown seat else merged, result)

def remove (seat : String) (file : CredentialsFile) : Mutation Bool :=
  let wasPresent := (file.lookup seat).isSome
  ⟨file.erase seat, if wasPresent then .write else .skip, wasPresent⟩

/-- A logout. -/
def removeProvider (disk : Disk) (outcome : Io) (seat : String) :
    Disk × OAuthStore × Except OAuthError Bool :=
  let (disk, merged, result) := store.merge disk outcome (remove seat)
  (disk, if result.isOk then merged.clearCooldown seat else merged, result)

/-- A reload reads the file; where that fails nothing changes. -/
def startReload (disk : Disk) : OAuthStore :=
  match disk with
  | .ok file => { store with reading := store.reading ++ [file] }
  | .error _ => store

/-- What a reload has read becomes the cache, under one more generation. -/
def finishReload (turn : Nat) : Option OAuthStore :=
  store.reading[turn]?.map fun file =>
    { store with
      file
      loadError := none
      reloadGen := (store.reloadGen + 1) % 2 ^ 64
      refreshCooldowns := ∅
      reading := store.reading.eraseIdx turn }

end OAuthStore

section Merging
variable {Report : Type} {disk : Disk} {outcome : Io}
variable {mutate : CredentialsFile → Mutation Report}

/-- A mutation of one seat alone, which leaves the file as it is where it skips. -/
structure OfSeat (seat : String) (mutate : CredentialsFile → Mutation Report) : Prop where
  others : ∀ file other, other ≠ seat → (mutate file).file.lookup other = file.lookup other
  skips : ∀ file, (mutate file).directive = .skip → ∀ other,
    (mutate file).file.lookup other = file.lookup other

/-- What an update does to the file: nothing, or the mutation of what it held. -/
theorem updateUnderLock_disk (disk : Disk) (outcome : Io)
    (mutate : CredentialsFile → Mutation Report) :
    (updateUnderLock disk outcome mutate).1 = disk ∨
      ∃ fresh, disk = .ok fresh ∧ (mutate fresh).directive = .write ∧
        (updateUnderLock disk outcome mutate).1 = .ok (mutate fresh).file := by
  unfold updateUnderLock
  split
  case h_1 => exact .inl rfl
  case h_2 =>
    split
    case h_1 => exact .inl rfl
    case h_2 fresh =>
      dsimp only
      split
      case h_1 => exact .inl rfl
      case h_2 => exact .inl rfl
      case h_3 => exact .inr ⟨fresh, rfl, by assumption, rfl⟩
      case h_4 => exact .inr ⟨fresh, rfl, by assumption, rfl⟩

/-- An update that succeeds hands back the mutation of what the file held, which is now
what the file holds where the mutation is of one seat. -/
theorem updateUnderLock_ok {merged : CredentialsFile} {report : Report}
    (succeeds : (updateUnderLock disk outcome mutate).2 = .ok (merged, report)) :
    ∃ fresh, disk = .ok fresh ∧ merged = (mutate fresh).file ∧ report = (mutate fresh).report ∧
      ((mutate fresh).directive = .skip ∧ (updateUnderLock disk outcome mutate).1 = disk ∨
        (updateUnderLock disk outcome mutate).1 = .ok merged) := by
  unfold updateUnderLock at succeeds ⊢
  split at succeeds
  case h_1 => cases succeeds
  case h_2 =>
    split at succeeds
    case h_1 => cases succeeds
    case h_2 fresh =>
      refine ⟨fresh, rfl, ?_⟩
      dsimp only at succeeds ⊢
      split at succeeds
      case h_1 =>
        obtain ⟨rfl, rfl⟩ := Prod.mk.inj (Except.ok.inj succeeds)
        exact ⟨rfl, rfl, .inl ⟨by assumption, rfl⟩⟩
      case h_2 => cases succeeds
      case h_3 => cases succeeds
      case h_4 =>
        obtain ⟨rfl, rfl⟩ := Prod.mk.inj (Except.ok.inj succeeds)
        exact ⟨rfl, rfl, .inr rfl⟩

theorem merge_disk (store : OAuthStore) (disk : Disk) (outcome : Io)
    (mutate : CredentialsFile → Mutation Report) :
    (store.merge disk outcome mutate).1 = disk ∨
      store.loadError = none ∧ ∃ fresh, disk = .ok fresh ∧ (mutate fresh).directive = .write ∧
        (store.merge disk outcome mutate).1 = .ok (mutate fresh).file := by
  have updated := updateUnderLock_disk disk outcome mutate
  unfold OAuthStore.merge
  split
  case h_1 => exact .inl rfl
  case h_2 live =>
    split
    case h_1 failed =>
      rw [failed] at updated
      rcases updated with same | written
      · exact .inl same
      · exact .inr ⟨live, written⟩
    case h_2 merged =>
      rw [merged] at updated
      rcases updated with same | written
      · exact .inl same
      · exact .inr ⟨live, written⟩

/-- The new file gets to its place, whether or not the directory is synced behind it. -/
def Io.lands : Io → Bool
  | .done | .unsynced _ => true
  | .unlocked _ | .refused _ => false

theorem merge_unlanded (store : OAuthStore) (disk : Disk) {outcome : Io}
    (fails : outcome.lands = false) (mutate : CredentialsFile → Mutation Report) :
    (store.merge disk outcome mutate).1 = disk := by
  have same : (updateUnderLock disk outcome mutate).1 = disk := by
    unfold updateUnderLock
    cases outcome with
    | done => cases fails
    | unsynced => cases fails
    | unlocked => rfl
    | refused =>
      cases disk with
      | error => rfl
      | ok fresh =>
        dsimp only
        cases (mutate fresh).directive with
        | skip => rfl
        | write => rfl
  unfold OAuthStore.merge
  split
  case h_1 => rfl
  case h_2 =>
    split
    case h_1 failed => exact (congrArg Prod.fst failed).symm.trans same
    case h_2 merged => exact (congrArg Prod.fst merged).symm.trans same

/-- A login is a merge, but for the wait of its seat. -/
theorem writeRecord_merges (store : OAuthStore) (disk : Disk) (outcome : Io) (seat : String)
    (record : TokenRecord) :
    (store.writeRecord disk outcome seat record).1 =
        (store.merge disk outcome (OAuthStore.upsert seat record)).1 ∧
      ∃ waits, (store.writeRecord disk outcome seat record).2.1 =
        { (store.merge disk outcome (OAuthStore.upsert seat record)).2.1 with
          refreshCooldowns := waits } := by
  unfold OAuthStore.writeRecord
  refine ⟨rfl, ?_⟩
  dsimp only
  split
  case isTrue => exact ⟨_, rfl⟩
  case isFalse => exact ⟨_, rfl⟩

theorem removeProvider_merges (store : OAuthStore) (disk : Disk) (outcome : Io) (seat : String) :
    (store.removeProvider disk outcome seat).1 =
        (store.merge disk outcome (OAuthStore.remove seat)).1 ∧
      ∃ waits, (store.removeProvider disk outcome seat).2.1 =
        { (store.merge disk outcome (OAuthStore.remove seat)).2.1 with
          refreshCooldowns := waits } := by
  unfold OAuthStore.removeProvider
  refine ⟨rfl, ?_⟩
  dsimp only
  split
  case isTrue => exact ⟨_, rfl⟩
  case isFalse => exact ⟨_, rfl⟩

/-- A merge leaves the store as it is, or hands it the mutation of what the file held. -/
theorem merge_store (store : OAuthStore) (disk : Disk) (outcome : Io)
    (mutate : CredentialsFile → Mutation Report) :
    (store.merge disk outcome mutate).2.1 = store ∨
      ∃ fresh, disk = .ok fresh ∧
        (store.merge disk outcome mutate).2.1 = { store with file := (mutate fresh).file } := by
  unfold OAuthStore.merge
  split
  case h_1 => exact .inl rfl
  case h_2 =>
    split
    case h_1 => exact .inl rfl
    case h_2 succeeds =>
      obtain ⟨fresh, loaded, rfl, _⟩ := updateUnderLock_ok (congrArg Prod.snd succeeds)
      exact .inr ⟨fresh, loaded, rfl⟩

theorem setProject_ofSeat (seat projectId : String) :
    OfSeat seat (OAuthStore.setProject seat projectId) := by
  unfold OAuthStore.setProject
  constructor
  case others =>
    intro file other different
    split
    · exact AList.lookup_insert_ne different
    · rfl
  case skips =>
    intro file skipped other
    cases found : file.lookup seat with
    | some record => simp [found] at skipped
    | none => rfl

theorem clearProject_ofSeat (seat expected : String) :
    OfSeat seat (OAuthStore.clearProject seat expected) := by
  unfold OAuthStore.clearProject
  constructor
  case others =>
    intro file other different
    split
    · split
      · exact AList.lookup_insert_ne different
      · rfl
    · rfl
  case skips =>
    intro file skipped other
    cases found : file.lookup seat with
    | some record =>
      rw [found] at skipped
      dsimp only at skipped ⊢
      split at skipped
      case isTrue => cases skipped
      case isFalse different => rw [if_neg different]
    | none => rfl

theorem upsert_ofSeat (seat : String) (record : TokenRecord) :
    OfSeat seat (OAuthStore.upsert seat record) where
  others := fun _ _ different => AList.lookup_insert_ne different
  skips := fun _ skipped => nomatch skipped

theorem remove_ofSeat (seat : String) : OfSeat seat (OAuthStore.remove seat) where
  others := fun _ _ different => AList.lookup_erase_ne different
  skips := by
    intro file skipped other
    by_cases own : other = seat
    · subst own
      unfold OAuthStore.remove at skipped ⊢
      dsimp only at skipped ⊢
      split at skipped
      case isTrue => cases skipped
      case isFalse absent =>
        rw [AList.lookup_erase]
        exact (Option.not_isSome_iff_eq_none.mp absent).symm
    · exact AList.lookup_erase_ne own

end Merging
end Routectl.Oauth
