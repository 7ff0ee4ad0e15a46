import Mathlib.Data.List.Destutter
import Mathlib.Data.List.Sort
import Routectl.Core.Capability
import Routectl.Filter.Strip
import Routectl.Library.KeyedMap
import Routectl.Registry.ProbeGuard

/-! The capability filter a dispatch chain passes before it is walked: every target is
consulted for every requested feature, and each consult may claim a re-probe. -/
namespace Routectl.Filter
open Routectl.Core Routectl.Registry Library

/-! The operator overrides, flattened to one verdict a cell, and the two-tier
lookup a concrete target goes through. -/

inductive OverrideVerdict where
  | routeAway
  | forceSupported
deriving Repr, DecidableEq

inductive OverrideProvenance where
  | providerStatic
  | modelStatic
  | override
deriving Repr, DecidableEq

/-- A target spec, `provider` or `provider:nickname`, and a canonical key. -/
structure CellKey where
  targetSpec : String
  capabilityKey : String
deriving Repr, DecidableEq

structure Cell where
  verdict : OverrideVerdict
  provenance : OverrideProvenance
deriving Repr, DecidableEq

structure OverrideRegistry where
  cells : KeyedMap CellKey Cell

/-- The model cell speaks before the provider cell. -/
def OverrideRegistry.resolve (registry : OverrideRegistry)
    (providerName nickname capabilityRaw providerKind : String) :
    Option (OverrideVerdict × OverrideProvenance) :=
  let capabilityKey := normalizeCapabilityKey capabilityRaw providerKind
  match registry.cells.lookup { targetSpec := providerName ++ ":" ++ nickname, capabilityKey } with
  | some cell => some (cell.verdict, cell.provenance)
  | none =>
    (registry.cells.lookup { targetSpec := providerName, capabilityKey }).map fun cell =>
      (cell.verdict, cell.provenance)

/-! ### The filter -/

inductive FilterSource where
  | providerStatic
  | modelStatic
  | override
  | learned
  | prior
deriving Repr, DecidableEq

def FilterSource.ofProvenance : OverrideProvenance → FilterSource
  | .providerStatic => .providerStatic
  | .modelStatic => .modelStatic
  | .override => .override

structure ResolvedModel where
  headerExtras : List (String × String)
  contextWindowTokens : Option Nat
deriving Repr, DecidableEq

structure DispatchTarget where
  providerName : String
  providerKind : Option String
  stateKey : String
  nickname : Option String
  stripCapabilities : List String
  model : ResolvedModel
  capabilities : KeyedMap String Bool

def DispatchTarget.capabilityPrior (target : DispatchTarget) (feature : String) : Option Bool :=
  target.capabilities.lookup feature

structure ProviderEntry where
  anthropicBetaFloor : List String
  headerExtras : List (String × String)
deriving Repr, DecidableEq

structure Config where
  capabilityEnabled : Bool
  essential : List String
  windowGateEnabled : Bool
  providers : KeyedMap String ProviderEntry

structure Router where
  config : Config
  overrideRegistry : OverrideRegistry
  registryGeneration : Nat

/-- `Error::NotImplemented`. -/
structure NotImplemented where
  provider : String
  detail : String
deriving Repr, DecidableEq

namespace Router
variable (router : Router)

/-- A stale read acts on nothing. -/
def actingNegativeWithGeneration (registry : LearnedCapabilityRegistry)
    (stateKey feature providerKind : String) (now : Nat) :
    LearnedCapabilityRegistry × RoutingDecision × Nat :=
  match registry.actingNegativeInGeneration router.registryGeneration stateKey feature providerKind
    now with
  | (after, some (decision, generation)) => (after, decision, generation)
  | (after, none) => (after, .allow, router.registryGeneration)

def isVerifiedWorkingOrFalse (registry : LearnedCapabilityRegistry)
    (stateKey feature providerKind : String) : Bool :=
  (registry.isVerifiedWorkingInGeneration router.registryGeneration stateKey feature
    providerKind).2.getD false

def betaPinnedForTarget (target : DispatchTarget) (feature : String) : Bool :=
  let tokens := stripBetaTokens feature
  if tokens.isEmpty then false
  else
    let providerEntry := router.config.providers.lookup target.providerName
    let providerFloor :=
      match providerEntry with
      | some entry => entry.anthropicBetaFloor
      | none => []
    let headerFloor :=
      operatorBetas (providerEntry.map ProviderEntry.headerExtras) target.model.headerExtras
    tokens.any fun token => providerFloor.contains token || headerFloor.contains token

def overrideForcesSupported (target : DispatchTarget) (feature providerKind : String) : Bool :=
  match router.overrideRegistry.resolve target.providerName (target.nickname.getD "") feature
    providerKind with
  | some (.forceSupported, _) => true
  | _ => false

/-- The override that routes the target away for this feature. -/
def routeAwayOverride (target : DispatchTarget) (feature : String) : Option FilterSource :=
  match router.overrideRegistry.resolve target.providerName (target.nickname.getD "") feature
    (target.providerKind.getD "") with
  | some (.routeAway, provenance) => some (.ofProvenance provenance)
  | _ => none

/-- A droppable capability that no operator floor pins to the wire. -/
def stripsInPlace (target : DispatchTarget) (feature : String) : Bool :=
  (effectiveActionFor feature router.config.essential).strips &&
    !router.betaPinnedForTarget target feature

end Router

/-- The learned pass over the features read so far. -/
structure LearnedScan where
  registry : LearnedCapabilityRegistry
  routeAway : Option String
  strip : List String
  learnedClaimed : List String
  admissions : List ProbeAdmission

section Consult
variable (router : Router) (target : DispatchTarget)

def learnedStep (providerKind : String) (now : Nat) (scan : LearnedScan) (feature : String) :
    LearnedScan :=
  if router.overrideForcesSupported target feature providerKind then scan
  else
    match router.actingNegativeWithGeneration scan.registry target.stateKey feature providerKind
      now with
    | (registry, .routeAway _ phase, _) =>
      if phase = .f1 && router.stripsInPlace target feature then
        { scan with
          registry,
          learnedClaimed := scan.learnedClaimed ++ [feature],
          strip := scan.strip ++ [normalizeCapabilityKey feature providerKind] }
      else
        { scan with
          registry,
          learnedClaimed := scan.learnedClaimed ++ [feature],
          routeAway := scan.routeAway.or (some feature) }
    | (registry, .probeAdmitted, readGeneration) =>
      { scan with
        registry,
        learnedClaimed := scan.learnedClaimed ++ [feature],
        admissions := scan.admissions ++
          [ProbeAdmission.granted target.stateKey feature providerKind readGeneration] }
    | (registry, .allow, _) => { scan with registry }

def learnedPass (providerKind : String) (now : Nat) (registry : LearnedCapabilityRegistry)
    (features : List String) (admissions : List ProbeAdmission) : LearnedScan :=
  features.foldl (learnedStep router target providerKind now)
    { registry, routeAway := none, strip := [], learnedClaimed := [], admissions }

def priorPass (providerKind : String) (scan : LearnedScan) (features : List String) :
    Option String :=
  features.find? fun feature =>
    !(scan.learnedClaimed.contains feature ||
      router.overrideForcesSupported target feature providerKind ||
      router.isVerifiedWorkingOrFalse scan.registry target.stateKey feature providerKind) &&
    target.capabilityPrior feature = some false

/-- `sort_unstable` and `dedup`. -/
def sortedKeys (keys : List String) : List String :=
  (keys.insertionSort (· ≤ ·)).destutter (· ≠ ·)

/-- What one target's consult leaves behind. -/
structure Consulted where
  registry : LearnedCapabilityRegistry
  verdict : Option (String × FilterSource)
  stripKeys : List String
  admissions : List ProbeAdmission

def unsupportedFeatureForTarget (registry : LearnedCapabilityRegistry) (now : Nat)
    (features : List String) (admissions : List ProbeAdmission) : Consulted :=
  match features.findSome? fun feature =>
    (router.routeAwayOverride target feature).map fun source => (feature, source) with
  | some verdict => { registry, verdict := some verdict, stripKeys := [], admissions }
  | none =>
    match router.config.capabilityEnabled, target.providerKind with
    | true, some providerKind =>
      let scan := learnedPass router target providerKind now registry features admissions
      match scan.routeAway with
      | some feature =>
        { registry := scan.registry, verdict := some (feature, .learned), stripKeys := [],
          admissions := scan.admissions }
      | none =>
        { registry := scan.registry,
          verdict := (priorPass router target providerKind scan features).map fun feature =>
            (feature, .prior),
          stripKeys := sortedKeys scan.strip,
          admissions := scan.admissions }
    | _, _ => { registry, verdict := none, stripKeys := [], admissions }

end Consult

/-- One target of the chain and what the clock shows when its consult starts. -/
structure Slated where
  target : DispatchTarget
  now : Nat

/-- The three buckets while the chain is consulted. -/
structure Buckets where
  registry : LearnedCapabilityRegistry
  supported : List DispatchTarget
  priorTail : List DispatchTarget
  learnedTail : List DispatchTarget
  admissions : List ProbeAdmission

def DispatchTarget.stripping (target : DispatchTarget) (stripKeys : List String) : DispatchTarget :=
  if stripKeys.isEmpty then target else { target with stripCapabilities := stripKeys }

section Chain
variable (router : Router) (features : List String)

def sortTarget (buckets : Buckets) (slated : Slated) : Buckets :=
  let target := slated.target
  let consulted :=
    unsupportedFeatureForTarget router target buckets.registry slated.now features
      buckets.admissions
  let after := { buckets with registry := consulted.registry, admissions := consulted.admissions }
  match consulted.verdict with
  | none => { after with supported := after.supported ++ [target.stripping consulted.stripKeys] }
  | some (_, .learned) => { after with learnedTail := after.learnedTail ++ [target] }
  | some (_, .prior) =>
    { after with priorTail := after.priorTail ++ [target.stripping consulted.stripKeys] }
  | some _ => after

def sortTargets (registry : LearnedCapabilityRegistry) (chain : List Slated)
    (admissions : List ProbeAdmission) : Buckets :=
  chain.foldl (sortTarget router features)
    { registry, supported := [], priorTail := [], learnedTail := [], admissions }

structure Filtered where
  registry : LearnedCapabilityRegistry
  admissions : List ProbeAdmission
  outcome : Except NotImplemented (List DispatchTarget)

def filterChainByFeatures (registry : LearnedCapabilityRegistry) (chain : List Slated)
    (aliasName : String) (admissions : List ProbeAdmission) : Filtered :=
  if features.isEmpty || chain.isEmpty then
    { registry, admissions, outcome := .ok (chain.map Slated.target) }
  else
    let buckets := sortTargets router features registry chain admissions
    let outcome :=
      if buckets.supported.isEmpty && buckets.priorTail.isEmpty && buckets.learnedTail.isEmpty then
        .error
          { provider := aliasName,
            detail := "no provider in chain supports features: " ++
              ", ".intercalate features }
      else .ok (buckets.supported ++ buckets.priorTail ++ buckets.learnedTail)
    { registry := buckets.registry, admissions := buckets.admissions, outcome }

end Chain

/-! The window pass behind the capability filter: a target that cannot hold the request is
skipped while another one can. -/

def windowMarginNumerator : Nat := 3
def windowMarginDenominator : Nat := 4

def exceedsWindowMargin (estimate window : Nat) : Bool :=
  window * windowMarginNumerator / windowMarginDenominator < estimate

section Window
variable (router : Router) (estimate : Nat) (corrected : DispatchTarget → Nat → Nat)

/-- `corrected` stands for the learned correction of the target's lane; an unconfirmed
window keeps the target. -/
def overflows (target : DispatchTarget) : Bool :=
  match target.model.contextWindowTokens with
  | none => false
  | some window => exceedsWindowMargin (corrected target estimate) window

def filterChainByWindow (chain : List DispatchTarget) : List DispatchTarget :=
  if !router.config.windowGateEnabled || chain.length ≤ 1 then chain
  else
    let skips := chain.countP (overflows estimate corrected)
    if skips = 0 || skips = chain.length then chain
    else
      let kept := chain.filter fun target => !overflows estimate corrected target
      if kept.isEmpty then chain.filter (overflows estimate corrected) else kept

variable {router estimate corrected} {chain : List DispatchTarget}

theorem filterChainByWindow_sublist :
    (filterChainByWindow router estimate corrected chain).Sublist chain := by
  unfold filterChainByWindow
  split
  · exact List.Sublist.refl chain
  · dsimp only
    split
    · exact List.Sublist.refl chain
    · split
      · exact List.filter_sublist
      · exact List.filter_sublist

/-- The window pass never empties a chain. -/
theorem filterChainByWindow_ne_nil (nonempty : chain ≠ []) :
    filterChainByWindow router estimate corrected chain ≠ [] := by
  unfold filterChainByWindow
  split
  · exact nonempty
  · dsimp only
    split
    · exact nonempty
    · split
      · rename_i kept
        have overflowing : ∀ target ∈ chain, overflows estimate corrected target = true := by
          simpa [List.filter_eq_nil_iff] using kept
        rw [List.filter_eq_self.mpr overflowing]
        exact nonempty
      · rename_i kept
        simpa using kept

end Window

end Routectl.Filter
