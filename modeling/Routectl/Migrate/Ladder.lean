import Mathlib.Data.List.Dedup
import Mathlib.Data.List.Sort
import Mathlib.Data.String.Basic
import Routectl.Dispatch.Classify
import Routectl.Library.Splitting
import Routectl.Migrate.Normalize

/-! The ladder that takes a config document from the version it was written at to the latest:
one rung a version, each a refusal or an edit. -/
namespace Routectl.Migrate
open Library Toml
open Routectl.Dispatch (BodyReader FailureClass classGuidanceForStatus)
open Routectl.Oauth (isWhitespace)

/-! ### Credential references and the names derived from them -/

inductive SecretRef where
  | env (name : String)
  | file (path : String)
  | oauth (provider : String) (label : Option String)
deriving Repr, DecidableEq

def SecretRef.parseOauth (rest : List Char) : Option SecretRef :=
  let (provider, label) := match splitOnce '#' rest with
    | some (provider, label) => (provider, some label)
    | none => (rest, none)
  if provider.isEmpty then none
  else if label.any fun label => label.all isWhitespace then none
  else some (.oauth (String.ofList provider) (label.map String.ofList))

def SecretRef.parse (uri : String) : Option SecretRef :=
  match "env://".toList.isPrefixOf? uri.toList with
  | some name => if name.isEmpty then none else some (.env (String.ofList name))
  | none =>
    match "file://".toList.isPrefixOf? uri.toList with
    | some path => if path.head? = some '/' then some (.file (String.ofList path)) else none
    | none =>
      if "literal:".toList.isPrefixOf uri.toList then none
      else ("oauth://".toList.isPrefixOf? uri.toList).bind SecretRef.parseOauth

inductive SeatNamingError where
  | unusableToken (kind token : String)
  | reservedLabel (label : String)
  | duplicateGeneratedName (name : String)
  | entryNameTaken (name : String)
  | poolNameTaken (name : String)
deriving Repr, DecidableEq

def SeatNamingError.display : SeatNamingError → String
  | .unusableToken kind token => kind ++ " `" ++ token ++
      "` cannot be used verbatim in a config entry name; only ASCII letters, digits, `-` and `_` " ++
      "are usable"
  | .reservedLabel label => "seat label `" ++ label ++
      "` is reserved: its entry name would collide with the default seat's"
  | .duplicateGeneratedName name => "two seats both generate the entry name `" ++ name ++ "`"
  | .entryNameTaken name => "entry name `" ++ name ++
      "` is already used by a provider entry with a different credential"
  | .poolNameTaken name => "pool name `" ++ name ++
      "` is already used by a provider entry or a model nickname; providers, pools and model " ++
      "nicknames share one namespace"

def isTokenChar (character : Char) : Bool :=
  character.isAlphanum || character = '-' || character = '_'

def checkToken (kind token : String) : Except SeatNamingError Unit :=
  if !token.toList.isEmpty && token.toList.all isTokenChar then .ok ()
  else .error (.unusableToken kind token)

def defaultSeatSuffix : String := "default"

def poolName (family : String) : Except SeatNamingError String := do
  checkToken "provider family" family
  pure family

def accountEntryName (family : String) (label : Option String) :
    Except SeatNamingError String := do
  checkToken "provider family" family
  match label with
  | none => pure (family ++ "-" ++ defaultSeatSuffix)
  | some label =>
    checkToken "seat label" label
    if label = defaultSeatSuffix then .error (.reservedLabel label)
    else pure (family ++ "-" ++ label)

/-- The name an entry called like its own family moves to, so that the pool can take the name. -/
def familyDefaultRename (entryName family : String) : Except SeatNamingError (Option String) := do
  let pool ← poolName family
  if entryName = pool then
    let renamed ← accountEntryName family none
    pure (some renamed)
  else pure none

/-! ### The rung from 1 to 2 and the one from 2 to 3 -/

structure StepOutcome where
  fromVersion : Nat
  toVersion : Nat
deriving Repr, DecidableEq

def setVersion (version : Nat) (doc : Entries) : Entries :=
  setKey "version" (.integer version) doc

def applyV1ToV2Doc (doc : Entries) : Entries := removeKey "cache_pricing" (setVersion 2 doc)

section RetryLists
variable (display : Toml → String) (reader : BodyReader)

/-- A malformed entry as it stands in the file; `display` prints arrays, tables and dates. -/
def renderEntry : Toml → String
  | .integer value => toString value
  | .float text => text
  | .string text => "\"" ++ text ++ "\""
  | .boolean value => if value then "true" else "false"
  | other => display other

/-- An entry as an HTTP status of 16 bits. -/
def asStatus (entry : Toml) : Option Nat :=
  entry.asInteger.bind fun value =>
    if 0 ≤ value ∧ value < 65536 then some value.toNat else none

def readStatusList (table : Entries) (key : String) :
    Except (List String) (Option (List Nat)) :=
  match (table.lookup key).bind asArray with
  | none => .ok none
  | some items =>
    let malformed := (items.filter fun entry => (asStatus entry).isNone).map (renderEntry display)
    if malformed.isEmpty then .ok (some (items.filterMap asStatus)) else .error malformed

/-- What to write by hand for a status: the class the taxonomy has for it and the others its
body may lift it to. -/
def guidanceForCode (code : Nat) (intendedFallback : Bool) : String :=
  let guidance := classGuidanceForStatus reader code
  match guidance.primary.classToken with
  | none => "status " ++ toString code ++ " has no failure class; remove it or classify by hand"
  | some primary =>
    let alternatives := guidance.alternatives.filterMap FailureClass.classToken
    let altNote := if alternatives.isEmpty then ""
      else " (may also classify as " ++ String.intercalate " / " alternatives ++ ")"
    "status " ++ toString code ++ " -> nearest class `" ++ primary ++ "`" ++ altNote ++
      "; set `[retry.classes." ++ primary ++ "].fallback = " ++
      (if intendedFallback then "true" else "false") ++ "`"

def refusalSource (allowlist denylist : Bool) : RefusalSource :=
  if allowlist && denylist then .both else if allowlist then .allowlist else .denylist

def retryList (doc : Entries) (key : String) : Except (List String) (Option (List Nat)) :=
  match tableAt "retry" doc with
  | some retry => readStatusList display retry key
  | none => .ok none

def malformedEntries : Except (List String) (Option (List Nat)) → List String
  | .error entries => entries
  | .ok _ => []

def statusCodes : Except (List String) (Option (List Nat)) → List Nat
  | .ok codes => codes.getD []
  | .error _ => []

def migrateV2ToV3 (doc : Entries) : Except Refusal (StepOutcome × Entries) :=
  let allowRead := retryList display doc "retry_allowlist"
  let denyRead := retryList display doc "retry_denylist"
  let allowBad := malformedEntries allowRead
  let denyBad := malformedEntries denyRead
  if !allowBad.isEmpty || !denyBad.isEmpty then
    .error (.malformed (refusalSource (!allowBad.isEmpty) (!denyBad.isEmpty)) (allowBad ++ denyBad))
  else
    let allowlist := statusCodes allowRead
    let denyCodes := statusCodes denyRead
    if !allowlist.isEmpty || !denyCodes.isEmpty then
      .error (.behaviorBearing (allowlist ++ denyCodes)
        (refusalSource (!allowlist.isEmpty) (!denyCodes.isEmpty))
        (allowlist.map (fun code => guidanceForCode reader code true) ++
          denyCodes.map fun code => guidanceForCode reader code false))
    else .ok (⟨2, 3⟩, setVersion 3 (withinTable "retry" (fun retry =>
      removeKey "retry_denylist" (removeKey "retry_allowlist" retry)) doc))

end RetryLists

/-! ### The rung from 3 to 4 -/

def providerSecretRefKey : String := "api_key_ref"
def seatSelectionKey : String := "seat_selection"

/-- The credential reference of a provider entry, where it is an OAuth one. -/
def oauthRefOfEntry (entry : Entries) : Option (String × Option String) :=
  match ((entry.lookup providerSecretRefKey).bind asStr).bind SecretRef.parse with
  | some (.oauth provider label) => some (provider, label)
  | _ => none

def oauthFamilyOfEntry (entry : Entries) : Option String := (oauthRefOfEntry entry).map Prod.fst

structure SeatPoolAccount where
  entryName : String
  secretRef : String
  alreadyPresent : Bool
deriving Repr, DecidableEq

/-- One provider entry's move into a pool, with an account entry for each labelled seat. -/
structure SeatPoolMove where
  entry : String
  renameTo : Option String
  pool : String
  accounts : List SeatPoolAccount
deriving Repr, DecidableEq

def SeatPoolMove.memberName (move : SeatPoolMove) : String := move.renameTo.getD move.entry

def hasEntry (section_ name : String) (doc : Entries) : Bool :=
  ((tableAt section_ doc).map (hasKey name)).getD false

def planFamilyRename (doc : Entries) (entryName family : String) :
    Except String (Option String) :=
  match familyDefaultRename entryName family with
  | .error error => .error ("[providers." ++ entryName ++
      "]: account entry name for provider family `" ++ family ++ "`: " ++ error.display)
  | .ok none => .ok none
  | .ok (some renamed) =>
    if hasEntry "providers" renamed doc then
      .error ("[providers." ++ entryName ++ "] holds the plain family name `" ++ family ++
        "`, which the `[pools." ++ family ++ "]` block must take, so the entry moves to `" ++
        renamed ++ "` -- but a `[providers." ++ renamed ++
        "]` entry already exists and authenticates with its own credential. " ++
        "Rename one of them by hand, then rerun")
    else .ok (some renamed)

def derivePoolName (doc : Entries) (entryName family : String) (entryVacatesPoolName : Bool) :
    Except String String :=
  match poolName family with
  | .error error => .error ("[providers." ++ entryName ++ "]: pool name for provider family `" ++
      family ++ "`: " ++ error.display)
  | .ok pool =>
    let heldByProvider := !entryVacatesPoolName && hasEntry "providers" pool doc
    let heldByModel := hasEntry "models" pool doc
    if hasEntry "pools" pool doc then
      .error ("[providers." ++ entryName ++ "]: a `[pools." ++ pool ++
        "]` block already exists; move the entry's `seat_selection` onto it by hand")
    else if heldByProvider || heldByModel then
      .error ("[providers." ++ entryName ++ "]: the pool name `" ++ pool ++
        "` is already used by a provider entry or a model nickname; providers, pools and model " ++
        "nicknames share one namespace -- rename the colliding entry, then rerun")
    else .ok pool

def planSeatPoolMove (doc : Entries) (entryName : String) : Except String SeatPoolMove :=
  match (tableAt "providers" doc).bind (tableAt entryName) with
  | none => .error ("[providers." ++ entryName ++ "] is not a table")
  | some entry =>
    match oauthFamilyOfEntry entry with
    | none => .error ("[providers." ++ entryName ++
        "] carries `seat_selection` but no `oauth://` `" ++ providerSecretRefKey ++
        "`, so no provider family names its pool")
    | some family => do
      let renameTo ← planFamilyRename doc entryName family
      let pool ← derivePoolName doc entryName family renameTo.isSome
      pure { entry := entryName, renameTo, pool, accounts := [] }

/-- Every model that names `source` names `target`. -/
def repointModelsAt (source target : String) (doc : Entries) : Entries :=
  withinTable "models" (fun models => models.map fun entry =>
    (entry.1, modifyTable (fun model =>
      if (model.lookup "provider").bind asStr = some source
      then setKey "provider" (.string target) model else model) entry.2)) doc

/-- A provider entry under a new name, its models following; nothing where the name is taken. -/
def renameProviderEntry (source target : String) (doc : Entries) : Entries :=
  match tableAt "providers" doc with
  | none => doc
  | some providers =>
    if hasKey target providers then doc
    else
      match providers.lookup source with
      | none => doc
      | some item => repointModelsAt source target
          (withinTable "providers" (fun providers => removeKey source providers ++ [(target, item)])
            doc)

/-- The knob of a provider entry and the document without it. -/
def takeProviderSeatSelection (doc : Entries) (entryName : String) : Option Toml × Entries :=
  let held := ((tableAt "providers" doc).bind (tableAt entryName)).bind fun entry =>
    (entry.lookup seatSelectionKey).bind asValue
  (held, withinTable "providers" (withinTable entryName (removeKey seatSelectionKey)) doc)

/-- A copy of a provider entry that carries an account's reference. -/
def cloneProviderEntry (source : String) (doc : Entries) (account : SeatPoolAccount) : Entries :=
  withinTable "providers" (fun providers =>
    if hasKey account.entryName providers then providers
    else
      match providers.lookup source with
      | none => providers
      | some item => withinTable account.entryName
          (setKey providerSecretRefKey (.string account.secretRef))
          (providers ++ [(account.entryName, item)])) doc

def upsertMembers (members : List String) (block : Entries) : Entries :=
  updateKey "members" (modifyArray fun items => appendNew items (members.map .string))
    (orInsert "members" (.array []) block)

def upsertPoolMembers (pool : String) (members : List String) (doc : Entries) : Entries :=
  updateKey "pools" (addWithin pool (modifyTable (upsertMembers members)))
    (orInsert "pools" (.table []) doc)

def writePoolBlock (pool : String) (members : List String) (selection : Option Toml)
    (doc : Entries) : Entries :=
  let upserted := upsertPoolMembers pool members doc
  match selection with
  | none => upserted
  | some value => withinTable "pools" (withinTable pool (setKey seatSelectionKey value)) upserted

/-- The rename runs first and takes the models along; then the knob, the accounts, the pool and
the models that the pool's seats stood for. -/
def applySeatPoolMove (doc : Entries) (move : SeatPoolMove) : Entries :=
  let renamed := match move.renameTo with
    | some target => renameProviderEntry move.entry target doc
    | none => doc
  let member := move.memberName
  let taken := takeProviderSeatSelection renamed member
  let cloned := move.accounts.foldl (cloneProviderEntry member) taken.2
  let pooled := writePoolBlock move.pool
    (member :: move.accounts.map SeatPoolAccount.entryName) taken.1 cloned
  if move.accounts.isEmpty then pooled else repointModelsAt member move.pool pooled

def providerEntriesWithSeatSelection (doc : Entries) : List String :=
  ((tableEntries "providers" doc).filter fun entry => hasKey seatSelectionKey entry.2).map Prod.fst

def collidingPoolDerivations (moves : List SeatPoolMove) : List String :=
  ((moves.map SeatPoolMove.pool).insertionSort (· ≤ ·)).dedup.filterMap fun pool =>
    let entries := (moves.filter fun move => move.pool = pool).map SeatPoolMove.entry
    if 1 < entries.length then
      some (String.intercalate ", " (entries.map fun entry => "[providers." ++ entry ++ "]") ++
        ": each carry `seat_selection` and each derive the pool name `" ++ pool ++
        "` from the same provider family; grouping them into one pool would merge accounts you " ++
        "kept separate and drop all but one `seat_selection` value -- write the " ++
        "`[pools.<name>]` blocks for this provider by hand, then rerun")
    else none

def plannedMove (planned : Except String SeatPoolMove) : Option SeatPoolMove :=
  match planned with
  | .ok move => some move
  | .error _ => none

def planProblem (planned : Except String SeatPoolMove) : Option String :=
  match planned with
  | .error problem => some problem
  | .ok _ => none

def migrateV3ToV4 (doc : Entries) : Except Refusal (StepOutcome × Entries) :=
  let planned := (providerEntriesWithSeatSelection doc).map (planSeatPoolMove doc)
  let moves := planned.filterMap plannedMove
  let problems := planned.filterMap planProblem ++ collidingPoolDerivations moves
  if problems.isEmpty then .ok (⟨3, 4⟩, setVersion 4 (moves.foldl applySeatPoolMove doc))
  else .error (.seatSelectionRelocation problems)

/-! ### The ladder -/

def latestMigrationVersion : Nat := 4

/-- Where a ladder stands: its document, the version that is, and its steps or its refusal. -/
structure Climb where
  doc : Entries
  version : Nat
  outcome : Except Refusal (List StepOutcome)

/-- A rung climbed where it applies; a refusal leaves the document and ends the ladder. -/
def Climb.rung (climb : Climb) (applies : Prop) [Decidable applies] (reached : Nat)
    (step : Entries → Except Refusal (List StepOutcome × Entries)) : Climb :=
  match climb.outcome with
  | .error _ => climb
  | .ok steps =>
    if applies then
      match step climb.doc with
      | .error refusal => { climb with outcome := .error refusal }
      | .ok (more, doc) => ⟨doc, reached, .ok (steps ++ more)⟩
    else climb

def oneStep (made : Except Refusal (StepOutcome × Entries)) :
    Except Refusal (List StepOutcome × Entries) :=
  made.map fun made => ([made.1], made.2)

/-- The same-version rung, a step where the document changed. -/
def normalizeStep (doc : Entries) : Except Refusal (List StepOutcome × Entries) :=
  (normalizeCapabilityOverrides doc).map fun made =>
    (if made.1 then [⟨latestMigrationVersion, latestMigrationVersion⟩] else [], made.2)

section Climbing
variable (display : Toml → String) (reader : BodyReader)

def applyConfigTransforms (doc : Entries) (rawVersion : Nat) : Climb :=
  let start : Climb := ⟨doc, rawVersion, .ok []⟩
  let second := start.rung (rawVersion ≤ 1) 2 fun doc => .ok ([⟨1, 2⟩], applyV1ToV2Doc doc)
  let third := second.rung (second.version = 2) 3 fun doc =>
    oneStep (migrateV2ToV3 display reader doc)
  let fourth := third.rung (third.version = 3) 4 fun doc => oneStep (migrateV3ToV4 doc)
  fourth.rung (rawVersion = latestMigrationVersion) latestMigrationVersion normalizeStep

end Climbing
end Routectl.Migrate
