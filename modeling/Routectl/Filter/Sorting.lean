import Routectl.Filter.Consulting

/-! One target's whole consult: the bucket it lands in, the keys it strips and the
re-probes it is granted, each read off the slots the consult starts from. -/
namespace Routectl.Filter
open Routectl.Core Routectl.Registry Library

private theorem mem_destutter'_ne {key first : String} {keys : List String} :
    key ∈ keys.destutter' (· ≠ ·) first ↔ key = first ∨ key ∈ keys := by
  induction keys generalizing first with
  | nil => simp
  | cons next rest ih =>
    rw [List.destutter'_cons]
    by_cases same : first = next
    · subst same
      simp [ih]
    · simp [same, ih]

theorem mem_sortedKeys {key : String} {keys : List String} : key ∈ sortedKeys keys ↔ key ∈ keys := by
  unfold sortedKeys
  rw [← List.mem_insertionSort (α := String) (l := keys) (· ≤ ·)]
  cases keys.insertionSort (· ≤ ·) with
  | nil => rfl
  | cons first rest =>
    rw [List.destutter_cons', mem_destutter'_ne, List.mem_cons]

inductive Bucket where
  | kept
  | prior
  | learned
deriving Repr, DecidableEq

def Consulted.bucket (consulted : Consulted) : Option Bucket :=
  match consulted.verdict with
  | none => some .kept
  | some (_, .learned) => some .learned
  | some (_, .prior) => some .prior
  | some _ => none

section Target
variable (router : Router) (features : List String)

/-- An override routes the target away for some requested feature. -/
def hardDropped (target : DispatchTarget) : Bool :=
  features.any fun feature => (router.routeAwayOverride target feature).isSome

/-- The learned pass runs for this target, under this provider kind. -/
structure Consults (target : DispatchTarget) (providerKind : String) : Prop where
  survives : hardDropped router features target = false
  enabled : router.config.capabilityEnabled = true
  kind : target.providerKind = some providerKind

/-- The slots the target's consult reads. -/
def targetReads (registry : LearnedCapabilityRegistry) (slated : Slated) : List SlotRead :=
  match hardDropped router features slated.target, router.config.capabilityEnabled,
    slated.target.providerKind with
  | false, true, some providerKind =>
    readsOf router registry slated.target providerKind slated.now features
  | _, _, _ => []

variable (registry : LearnedCapabilityRegistry) (slots : RegistryKey → Option LearnedEntry)
  (slated : Slated) (providerKind : String)

def RoutedAway : Prop :=
  ∃ before feature, ReadAt features before feature ∧
    RoutesAwayAt router registry slated.target providerKind slated.now slots before feature

/-- The catalog asserts the feature absent, and nothing stronger speaks for it. -/
def PriorFlagged (feature : String) : Prop :=
  slated.target.capabilityPrior feature = some false ∧
    router.overrideForcesSupported slated.target feature providerKind = false ∧
    router.isVerifiedWorkingOrFalse registry slated.target.stateKey feature providerKind = false ∧
    (reads router registry slated.target providerKind feature = true →
      holds slots (makeKey slated.target.stateKey feature providerKind) = none)

structure ConsultOf (start : LearnedCapabilityRegistry) (consulted : Consulted) : Prop where
  readBy : ReadBy (targetReads router features registry slated) start consulted.registry
  dropped : consulted.bucket = none ↔ hardDropped router features slated.target = true
  learned : consulted.bucket = some .learned ↔
    ∃ providerKind, Consults router features slated.target providerKind ∧
      RoutedAway router features registry slots slated providerKind
  kept : consulted.bucket = some .kept ↔ hardDropped router features slated.target = false ∧
    ∀ providerKind, Consults router features slated.target providerKind →
      ¬RoutedAway router features registry slots slated providerKind ∧
        ∀ feature ∈ features, ¬PriorFlagged router registry slots slated providerKind feature
  stripped : ∀ key, key ∈ consulted.stripKeys ↔
    ∃ providerKind, Consults router features slated.target providerKind ∧
      ¬RoutedAway router features registry slots slated providerKind ∧
      ∃ before feature, ReadAt features before feature ∧
        StripsAt router registry slated.target providerKind slated.now slots before feature ∧
          normalizeCapabilityKey feature providerKind = key
  granted : ∀ admission ∈ consulted.admissions, admission.stateKey = slated.target.stateKey ∧
    Consults router features slated.target admission.providerKind
  distinct : (consulted.admissions.map ProbeAdmission.key).Nodup
  admitted : ∀ key, key ∈ consulted.admissions.map ProbeAdmission.key ↔
    key ∈ (targetReads router features registry slated).map SlotRead.key ∧
      Due slated.now slots key

end Target

section Appending
variable {router : Router} {target : DispatchTarget} {providerKind : String} {now : Nat}

private theorem learnedStep_append (front : List ProbeAdmission) (scan : LearnedScan)
    (feature : String) :
    learnedStep router target providerKind now
        { scan with admissions := front ++ scan.admissions } feature =
      { learnedStep router target providerKind now scan feature with
        admissions := front ++
          (learnedStep router target providerKind now scan feature).admissions } := by
  unfold learnedStep
  split
  · rfl
  · dsimp only
    split
    · split <;> rfl
    · simp
    · rfl

/-- The admissions handed in are carried in front, and nothing depends on them. -/
theorem learnedPass_append (registry : LearnedCapabilityRegistry) (features : List String)
    (front : List ProbeAdmission) :
    learnedPass router target providerKind now registry features front =
      { learnedPass router target providerKind now registry features [] with
        admissions := front ++
          (learnedPass router target providerKind now registry features []).admissions } := by
  induction features using List.reverseRecOn with
  | nil => simp [learnedPass]
  | append_singleton features feature ih =>
    unfold learnedPass at ih ⊢
    rw [List.foldl_append, List.foldl_append, ih]
    exact learnedStep_append front _ feature

theorem unsupportedFeatureForTarget_append (registry : LearnedCapabilityRegistry)
    (features : List String) (front : List ProbeAdmission) :
    unsupportedFeatureForTarget router target registry now features front =
      { unsupportedFeatureForTarget router target registry now features [] with
        admissions := front ++
          (unsupportedFeatureForTarget router target registry now features []).admissions } := by
  unfold unsupportedFeatureForTarget
  split
  · simp
  · split
    · rw [learnedPass_append]
      dsimp only
      split
      · rfl
      · rfl
    · simp

end Appending

section Consult
variable {router : Router} {features : List String} {registry : LearnedCapabilityRegistry}
  {slated : Slated}

private theorem hardDropped_of_found {verdict : String × FilterSource}
    (found : (features.findSome? fun feature =>
      (router.routeAwayOverride slated.target feature).map fun source => (feature, source)) =
        some verdict) : hardDropped router features slated.target = true := by
  obtain ⟨feature, member, mapped⟩ := List.exists_of_findSome?_eq_some found
  obtain ⟨source, held, -⟩ := Option.map_eq_some_iff.mp mapped
  exact List.any_eq_true.mpr ⟨feature, member, by simp [held]⟩

theorem hardDropped_of_missed
    (missed : (features.findSome? fun feature =>
      (router.routeAwayOverride slated.target feature).map fun source => (feature, source)) =
        none) : hardDropped router features slated.target = false := by
  rw [List.findSome?_eq_none_iff] at missed
  unfold hardDropped
  rw [List.any_eq_false]
  intro feature member
  have absent := missed feature member
  rw [Option.map_eq_none_iff] at absent
  simp [absent]

private theorem bucket_of_found {verdict : String × FilterSource} {consulted : Consulted}
    (found : (features.findSome? fun feature =>
      (router.routeAwayOverride slated.target feature).map fun source => (feature, source)) =
        some verdict) (spoken : consulted.verdict = some verdict) : consulted.bucket = none := by
  obtain ⟨feature, -, mapped⟩ := List.exists_of_findSome?_eq_some found
  obtain ⟨source, held, rfl⟩ := Option.map_eq_some_iff.mp mapped
  unfold Router.routeAwayOverride at held
  split at held
  · rename_i provenance resolved
    obtain rfl := Option.some.inj held
    unfold Consulted.bucket
    rw [spoken]
    cases provenance <;> rfl
  · cases held

/-- A feature the prior pass settles on is one the catalog flags. -/
private theorem priorPass_isSome {providerKind : String} {scan : LearnedScan}
    (scanned : ScanOf router registry slated.target providerKind slated.now
      (fun key => registry.entries.lookup key) features scan) :
    (priorPass router slated.target providerKind scan features).isSome = true ↔
      ∃ feature ∈ features, PriorFlagged router registry
        (fun key => registry.entries.lookup key) slated providerKind feature := by
  unfold priorPass
  rw [List.find?_isSome]
  apply exists_congr
  intro feature
  apply and_congr_right
  intro member
  rw [router.isVerifiedWorkingOrFalse_readBy registry _ _ _ scanned.readBy]
  simp only [PriorFlagged, Bool.and_eq_true, Bool.not_eq_true', Bool.or_eq_false_iff,
    decide_eq_true_eq, List.contains_eq_mem, decide_eq_false_iff_not, scanned.claimed, member,
    true_and, not_and, not_not]
  tauto

private theorem dropped_consultOf {verdict : String × FilterSource}
    (found : (features.findSome? fun feature =>
      (router.routeAwayOverride slated.target feature).map fun source => (feature, source)) =
        some verdict) :
    ConsultOf router features registry (fun key => registry.entries.lookup key) slated registry
      (unsupportedFeatureForTarget router slated.target registry slated.now features []) := by
  have dropped := hardDropped_of_found found
  have idle (providerKind : String) :
      ¬Consults router features slated.target providerKind := by
    intro consults
    simp [consults.survives] at dropped
  have quiet : targetReads router features registry slated = [] := by
    simp [targetReads, dropped]
  have same : unsupportedFeatureForTarget router slated.target registry slated.now features [] =
      { registry, verdict := some verdict, stripKeys := [], admissions := [] } := by
    unfold unsupportedFeatureForTarget
    rw [found]
  have bucket := bucket_of_found found (congrArg Consulted.verdict same)
  rw [same] at bucket ⊢
  exact
    { readBy := quiet ▸ ReadBy.refl registry
      dropped := by simp [bucket, dropped]
      learned := by simp [bucket, idle]
      kept := by simp [bucket, dropped]
      stripped := by simp [idle]
      granted := by simp
      distinct := List.nodup_nil
      admitted := by simp [quiet] }

private theorem idle_consultOf
    (missed : (features.findSome? fun feature =>
      (router.routeAwayOverride slated.target feature).map fun source => (feature, source)) = none)
    (idle : ∀ providerKind, ¬Consults router features slated.target providerKind) :
    ConsultOf router features registry (fun key => registry.entries.lookup key) slated registry
      (unsupportedFeatureForTarget router slated.target registry slated.now features []) := by
  have survives := hardDropped_of_missed missed
  have same : unsupportedFeatureForTarget router slated.target registry slated.now features [] =
      { registry, verdict := none, stripKeys := [], admissions := [] } := by
    unfold unsupportedFeatureForTarget
    rw [missed]
    dsimp only
    split
    · rename_i enabled kind
      exact absurd ⟨survives, enabled, kind⟩ (idle _)
    · rfl
  have quiet : targetReads router features registry slated = [] := by
    unfold targetReads
    split
    · rename_i enabled kind
      exact absurd ⟨survives, enabled, kind⟩ (idle _)
    · rfl
  rw [same]
  exact
    { readBy := quiet ▸ ReadBy.refl registry
      dropped := by simp [Consulted.bucket, survives]
      learned := by simp [Consulted.bucket, idle]
      kept := by simp [Consulted.bucket, survives, idle]
      stripped := by simp [idle]
      granted := by simp
      distinct := List.nodup_nil
      admitted := by simp [quiet] }

private theorem learned_consultOf {providerKind : String}
    (missed : (features.findSome? fun feature =>
      (router.routeAwayOverride slated.target feature).map fun source => (feature, source)) = none)
    (consults : Consults router features slated.target providerKind) :
    ConsultOf router features registry (fun key => registry.entries.lookup key) slated registry
      (unsupportedFeatureForTarget router slated.target registry slated.now features []) := by
  have only (other : String) :
      Consults router features slated.target other ↔ other = providerKind := by
    constructor
    · intro consults'
      exact Option.some.inj (consults'.kind.symm.trans consults.kind)
    · rintro rfl
      exact consults
  have listed : targetReads router features registry slated =
      readsOf router registry slated.target providerKind slated.now features := by
    simp [targetReads, consults.survives, consults.enabled, consults.kind]
  have scanned := @learnedPass_scanOf router registry slated.target providerKind slated.now features
  have prior := priorPass_isSome scanned
  have granted : ∀ admission ∈ (learnedPass router slated.target providerKind slated.now registry
      features []).admissions, admission.stateKey = slated.target.stateKey ∧
        Consults router features slated.target admission.providerKind := by
    intro admission member
    obtain ⟨state, kind⟩ := scanned.granted admission member
    exact ⟨state, kind ▸ consults⟩
  have routed : (learnedPass router slated.target providerKind slated.now registry features
      []).routeAway.isSome = true ↔ RoutedAway router features registry
        (fun key => registry.entries.lookup key) slated providerKind := scanned.routed
  unfold unsupportedFeatureForTarget
  rw [missed, consults.enabled, consults.kind]
  dsimp only
  split
  · rename_i feature away
    have sent := routed.mp (by simp [away])
    exact
      { readBy := listed ▸ scanned.readBy
        dropped := by simp [Consulted.bucket, consults.survives]
        learned := by simp [Consulted.bucket, only, sent]
        kept := by simp [Consulted.bucket, only, sent]
        stripped := by simp [only, sent]
        granted := granted
        distinct := scanned.distinct
        admitted := listed ▸ scanned.admitted }
  · rename_i stays
    have unsent : ¬RoutedAway router features registry
        (fun key => registry.entries.lookup key) slated providerKind := by
      intro sent
      simpa [stays] using routed.mpr sent
    have stripped : ∀ key, key ∈ sortedKeys (learnedPass router slated.target providerKind
        slated.now registry features []).strip ↔ ∃ providerKind,
          Consults router features slated.target providerKind ∧
            ¬RoutedAway router features registry (fun key => registry.entries.lookup key) slated
              providerKind ∧
            ∃ before feature, ReadAt features before feature ∧
              StripsAt router registry slated.target providerKind slated.now
                (fun key => registry.entries.lookup key) before feature ∧
              normalizeCapabilityKey feature providerKind = key := by
      intro key
      rw [mem_sortedKeys, scanned.stripped]
      simp [only, unsent]
    cases flagged : priorPass router slated.target providerKind
      (learnedPass router slated.target providerKind slated.now registry features []) features with
    | some feature =>
      obtain ⟨feature', member, found⟩ := prior.mp (by simp [flagged])
      exact
        { readBy := listed ▸ scanned.readBy
          dropped := by simp [Consulted.bucket, consults.survives]
          learned := by simp [Consulted.bucket, only, unsent]
          kept := by
            simp only [Consulted.bucket, Option.map_some, only, forall_eq]
            constructor
            · intro impossible
              cases impossible
            · rintro ⟨-, -, unflagged⟩
              exact absurd found (unflagged feature' member)
          stripped := stripped
          granted := granted
          distinct := scanned.distinct
          admitted := listed ▸ scanned.admitted }
    | none =>
      have unflagged : ∀ feature ∈ features, ¬PriorFlagged router registry
          (fun key => registry.entries.lookup key) slated providerKind feature := by
        intro feature member found
        simpa [flagged] using prior.mpr ⟨feature, member, found⟩
      exact
        { readBy := listed ▸ scanned.readBy
          dropped := by simp [Consulted.bucket, consults.survives]
          learned := by simp [Consulted.bucket, only, unsent]
          kept := by
            simp only [Consulted.bucket, Option.map_none, only, forall_eq, consults.survives,
              unsent, true_and, not_false_eq_true, true_iff]
            exact unflagged
          stripped := stripped
          granted := granted
          distinct := scanned.distinct
          admitted := listed ▸ scanned.admitted }

/-- A consult is what its starting slots make of it. -/
theorem unsupportedFeatureForTarget_consultOf :
    ConsultOf router features registry (fun key => registry.entries.lookup key) slated registry
      (unsupportedFeatureForTarget router slated.target registry slated.now features []) := by
  cases found : features.findSome? fun feature =>
    (router.routeAwayOverride slated.target feature).map fun source => (feature, source) with
  | some verdict => exact dropped_consultOf found
  | none =>
    by_cases consulted : ∃ providerKind, Consults router features slated.target providerKind
    · obtain ⟨providerKind, consults⟩ := consulted
      exact learned_consultOf found consults
    · exact idle_consultOf found (not_exists.mp consulted)

end Consult
end Routectl.Filter
