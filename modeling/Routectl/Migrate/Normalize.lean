import Routectl.Library.Toml
import Routectl.Overrides.Registry

/-! The same-version normalization of a config document: legacy `unsupported_features` lists
fold into the override tables and their keys retire. -/
namespace Routectl.Migrate
open Library Toml
open Routectl.Overrides (modelSpec)

/-- Which retired key bore the behavior. -/
inductive RefusalSource where
  | allowlist
  | denylist
  | both
deriving Repr, DecidableEq

inductive Refusal where
  | behaviorBearing (codes : List Nat) (source : RefusalSource) (guidance : List String)
  | malformed (source : RefusalSource) (entries : List String)
  | egressAllowlist (fields : List String)
  | seatSelectionRelocation (entries : List String)
deriving Repr, DecidableEq

def arrayIsNonEmpty (key : String) (entries : Entries) : Bool :=
  match (entries.lookup key).bind asArray with
  | some items => !items.isEmpty
  | none => false

/-- The key and table of every entry of a table-like value that is itself table-like. -/
def tableEntries (name : String) (doc : Entries) : List (String × Entries) :=
  ((tableAt name doc).getD []).filterMap fun entry =>
    entry.2.asTableLike.map fun table => (entry.1, table)

def presentEgressAllowlists (doc : Entries) : List String :=
  (match tableAt "bedrock" doc with
  | some bedrock =>
    (if arrayIsNonEmpty "allowed_betas" bedrock then ["bedrock.allowed_betas"] else []) ++
    (if arrayIsNonEmpty "allowed_body_fields" bedrock then ["bedrock.allowed_body_fields"] else [])
  | none => []) ++
  ((tableEntries "providers" doc).filter fun entry =>
    arrayIsNonEmpty "allowed_betas" entry.2).map fun entry =>
      "providers." ++ entry.1 ++ ".allowed_betas"

def readUnsupportedFeatures (entries : Entries) : Option (List Toml) :=
  (entries.lookup "unsupported_features").bind asArray

structure UnsupportedFeaturesPlan where
  providerRemovals : List String
  modelRemovals : List String
  folds : List (String × List Toml)

/-- A provider's list, with the spec it folds under. -/
def providerList (entry : String × Entries) : Option (String × String × List Toml) :=
  (readUnsupportedFeatures entry.2).map fun values => (entry.1, entry.1, values)

/-- A model's list, where it names its provider. -/
def modelList (entry : String × Entries) : Option (String × String × List Toml) :=
  match readUnsupportedFeatures entry.2, (entry.2.lookup "provider").bind asStr with
  | some values, some provider => some (entry.1, modelSpec provider entry.1, values)
  | _, _ => none

def collectUnsupportedFeatures (doc : Entries) : UnsupportedFeaturesPlan :=
  let providers := (tableEntries "providers" doc).filterMap providerList
  let models := (tableEntries "models" doc).filterMap modelList
  { providerRemovals := providers.map Prod.fst
    modelRemovals := models.map Prod.fst
    folds := ((providers ++ models).map Prod.snd).filter fun fold => !fold.2.isEmpty }

/-- A value added at the end, unless it is a string already seen. -/
def pushNew (appended : List Toml × List String) (value : Toml) : List Toml × List String :=
  match value.asStr with
  | some text =>
    if text ∈ appended.2 then appended else (appended.1 ++ [value], appended.2 ++ [text])
  | none => (appended.1 ++ [value], appended.2)

def appendNew (items values : List Toml) : List Toml :=
  (values.foldl pushNew (items, items.filterMap asStr)).1

def appendUnsupported (values : List Toml) (entry : Entries) : Entries :=
  updateKey "unsupported" (modifyArray fun items => appendNew items values)
    (orInsert "unsupported" (.array []) entry)

/-- Overrides edited under parents that are there by then, unless they are no tables. -/
def withinOverrides (change : Toml → Toml) (doc : Entries) : Entries :=
  updateKey "capability" (addWithin "overrides" change) (orInsert "capability" (.table []) doc)

def appendUnsupportedOverride (doc : Entries) (spec : String) (values : List Toml) : Entries :=
  withinOverrides (addWithin spec (modifyTable (appendUnsupported values))) doc

/-- The legacy key removed from the named entries of a table. -/
def retire (name : String) (removals : List String) (doc : Entries) : Entries :=
  withinTable name (fun entries => removals.foldl (fun entries removed =>
    withinTable removed (removeKey "unsupported_features") entries) entries) doc

def normalizeCapabilityOverrides (doc : Entries) : Except Refusal (Bool × Entries) :=
  let egress := presentEgressAllowlists doc
  if !egress.isEmpty then .error (.egressAllowlist egress)
  else
    let plan := collectUnsupportedFeatures doc
    if plan.providerRemovals.isEmpty && plan.modelRemovals.isEmpty then .ok (false, doc)
    else
      let folded := plan.folds.foldl (fun doc fold => appendUnsupportedOverride doc fold.1 fold.2)
        doc
      .ok (true, retire "models" plan.modelRemovals (retire "providers" plan.providerRemovals folded))

end Routectl.Migrate
