import Routectl.Canary.FieldCanary
import Routectl.Library.Transition

/-! The canary registry among its callers: the guards they hold, and where every
modified request has gone. -/
namespace Routectl.Canary
open Routectl.Core Library Registry

/-- One request charged to the lifetime alarm, and whether a confirmation had
vouched for it by then. -/
structure Charge where
  request : Nat
  vouched : Bool
deriving Repr, DecidableEq

/-- `issued` holds every modified request in order, and a request's number is its
place there; `counted` are those an identity's resident tally stands for. -/
structure Canaries where
  registry : FieldCanaryRegistry
  claims : List CanaryClaimGuard
  requests : List ModifiedRequestGuard
  issued : List ModifiedRequestGuard
  counted : FieldVerdictKey → List Nat
  vouched : List Nat
  charged : List Charge

inductive CanaryAction where
  | tickCadence (key : FieldVerdictKey) (incarnation : Nat)
  | claimCanary (key : FieldVerdictKey) (incarnation : Nat)
  | settle (position : Nat) (outcome : CanaryOutcome)
  | settleConfirmedAndCarry (position mintedIncarnation : Nat)
  | settleDisprovedIfCurrent (position : Nat)
  | dropClaim (position : Nat)
  | beginModifiedRequest (key : FieldVerdictKey) (incarnation : Nat)
  | dropRequest (position : Nat)
  | acknowledgeConfirmation (key : FieldVerdictKey) (incarnation observations : Nat)
  | seedFromRebuild (key : FieldVerdictKey) (incarnation confirmations : Nat) (dueImmediately : Bool)
  | reset (key : FieldVerdictKey)

namespace Canaries

def initial : Canaries :=
  { registry := .new, claims := [], requests := [], issued := [], counted := fun _ => [],
    vouched := [], charged := [] }

variable (canaries : Canaries)

/-- The slot of `key` stands at `incarnation`. -/
def owns (key : FieldVerdictKey) (incarnation : Nat) : Bool :=
  (canaries.registry.states.lookup key).any fun entry => entry.incarnation = incarnation

/-- The requests modified so far under one incarnation of an identity. -/
def begun (key : FieldVerdictKey) (incarnation : Nat) : List Nat :=
  (List.range canaries.issued.length).filter fun number =>
    canaries.issued[number]? = some ⟨key, incarnation⟩

def tally (registry : FieldCanaryRegistry) (key : FieldVerdictKey) : Nat :=
  ((registry.states.lookup key).map CanaryState.modifiedSinceConfirmation).getD 0

/-- A tally at zero stands for no request. -/
def recount (after : FieldCanaryRegistry) (key : FieldVerdictKey) : FieldVerdictKey → List Nat :=
  if tally after key = 0 then Function.update canaries.counted key [] else canaries.counted

/-- An operation on the slot of `key` that hands out or takes back no guard. -/
def touched (key : FieldVerdictKey) (after : FieldCanaryRegistry) : Canaries :=
  { canaries with registry := after, counted := canaries.recount after key }

/-- The requests a disproof of `key` charges now. -/
def affected (key : FieldVerdictKey) : List Nat :=
  (canaries.counted key).take (tally canaries.registry key)

/-- A claim ends at `position`: a confirmation vouches for the requests of its
incarnation, a disproof charges those still counted, where the claim owns the slot. -/
def concluded (position : Nat) (claim : CanaryClaimGuard) (outcome : Option CanaryOutcome)
    (after : FieldCanaryRegistry) : Canaries :=
  let owner := canaries.owns claim.key claim.incarnation
  { canaries.touched claim.key after with
    claims := canaries.claims.eraseIdx position,
    vouched :=
      if owner ∧ outcome = some .confirmed then
        canaries.vouched ++ canaries.begun claim.key claim.incarnation
      else canaries.vouched,
    charged :=
      if owner ∧ outcome = some .regressed then
        canaries.charged ++ (canaries.affected claim.key).map fun request =>
          ⟨request, canaries.vouched.contains request⟩
      else canaries.charged }

def step : CanaryAction → Option Canaries
  | .tickCadence key incarnation =>
    some (canaries.touched key (canaries.registry.tickCadence key incarnation).1)
  | .claimCanary key incarnation =>
    match canaries.registry.claimCanary key incarnation with
    | (after, none) => some (canaries.touched key after)
    | (after, some claim) =>
      some { canaries.touched key after with claims := canaries.claims ++ [claim] }
  | .settle position outcome =>
    canaries.claims[position]?.map fun claim =>
      canaries.concluded position claim (some outcome)
        (canaries.registry.settleCanary claim.key claim.incarnation outcome)
  | .settleConfirmedAndCarry position mintedIncarnation =>
    canaries.claims[position]?.map fun claim =>
      canaries.concluded position claim (some .confirmed)
        (canaries.registry.settleConfirmedAndCarry claim.key claim.incarnation mintedIncarnation)
  | .settleDisprovedIfCurrent position =>
    canaries.claims[position]?.map fun claim =>
      canaries.concluded position claim (some .regressed)
        (canaries.registry.settleDisprovedIfCurrent claim.key claim.incarnation).1
  | .dropClaim position =>
    canaries.claims[position]?.map fun claim =>
      canaries.concluded position claim none
        (canaries.registry.releaseCanaryClaim claim.key claim.incarnation)
  | .beginModifiedRequest key incarnation =>
    match canaries.registry.beginModifiedRequest key incarnation with
    | (after, none) => some (canaries.touched key after)
    | (after, some request) =>
      let counted := if canaries.owns key incarnation then canaries.counted key else []
      some { canaries with
        registry := after, requests := canaries.requests ++ [request],
        issued := canaries.issued ++ [request],
        counted := Function.update canaries.counted key (counted ++ [canaries.issued.length]) }
  | .dropRequest position =>
    canaries.requests[position]?.map fun request =>
      { canaries.touched request.key
          (canaries.registry.endModifiedRequest request.key request.incarnation) with
        requests := canaries.requests.eraseIdx position }
  | .acknowledgeConfirmation key incarnation observations =>
    some (canaries.touched key
      (canaries.registry.acknowledgeConfirmation key incarnation observations).1)
  | .seedFromRebuild key incarnation confirmations dueImmediately =>
    some (canaries.touched key
      (canaries.registry.seedFromRebuild key incarnation confirmations dueImmediately))
  | .reset key => some (canaries.touched key (canaries.registry.reset key))

def machine : Machine Canaries CanaryAction := ⟨step⟩

end Canaries

/-- How an admission finds a slot: held by a newer incarnation, seeded afresh, or
standing at the caller's own. -/
inductive Admitted (registry : FieldCanaryRegistry) (key : FieldVerdictKey)
    (incarnation confirmations : Nat) : CanaryState × IncarnationOrder → Prop where
  | stale (entry : CanaryState) (resident : registry.states.lookup key = some entry)
      (newer : incarnation < entry.incarnation) :
      Admitted registry key incarnation confirmations (entry, .stale)
  | seeded (order : IncarnationOrder) (accepted : order ≠ .stale)
      (older : ∀ entry, registry.states.lookup key = some entry → entry.incarnation < incarnation) :
      Admitted registry key incarnation confirmations (.fresh incarnation confirmations, order)
  | current (entry : CanaryState) (resident : registry.states.lookup key = some entry)
      (same : entry.incarnation = incarnation) :
      Admitted registry key incarnation confirmations (entry, .current)

section Slots
variable {registry : FieldCanaryRegistry} {key other : FieldVerdictKey}
  {incarnation confirmations : Nat} {entry : CanaryState}

theorem admit_admitted (registry : FieldCanaryRegistry) (key : FieldVerdictKey)
    (incarnation confirmations : Nat) :
    Admitted registry key incarnation confirmations
      (registry.admitted key incarnation confirmations) := by
  unfold FieldCanaryRegistry.admitted FieldCanaryRegistry.admitIncarnation
  cases resident : registry.states.lookup key with
  | none =>
    simp only [Option.getD_none, CanaryState.fresh, Nat.lt_irrefl, if_false, if_true]
    exact .seeded .current (by decide) (by simp [resident])
  | some entry =>
    rw [Option.getD_some]
    split
    · rename_i older
      refine .seeded .newer (by decide) ?_
      intro held same
      rw [resident] at same
      exact Option.some.inj same ▸ older
    · rename_i notOlder
      split
      · rename_i same
        exact .current entry resident same.symm
      · rename_i different
        exact .stale entry resident (by omega)

@[simp] theorem lookup_store_self : (registry.store key entry).states.lookup key = some entry :=
  AList.lookup_insert _

theorem lookup_store_ne (different : other ≠ key) :
    (registry.store key entry).states.lookup other = registry.states.lookup other :=
  AList.lookup_insert_ne different

theorem settleOwned_cases (registry : FieldCanaryRegistry) (key : FieldVerdictKey)
    (incarnation : Nat) (change : CanaryState → CanaryState) :
    ((∀ entry, registry.states.lookup key = some entry → entry.incarnation ≠ incarnation) ∧
        registry.settleOwned key incarnation change = registry) ∨
      ∃ entry, registry.states.lookup key = some entry ∧ entry.incarnation = incarnation ∧
        registry.settleOwned key incarnation change = registry.store key (change entry) := by
  unfold FieldCanaryRegistry.settleOwned
  cases resident : registry.states.lookup key with
  | none => exact .inl ⟨by simp, rfl⟩
  | some entry =>
    by_cases same : entry.incarnation = incarnation
    · exact .inr ⟨entry, rfl, same, by simp [same]⟩
    · left
      simp [same]

end Slots

/-- What an accepted admission keeps of the slot it found. -/
structure CanaryState.Keeps (entry change : CanaryState) : Prop where
  incarnation : change.incarnation = entry.incarnation
  outstanding : change.outstanding = entry.outstanding
  modified : change.modifiedSinceConfirmation = entry.modifiedSinceConfirmation
  claimed : change.canaryClaimed = entry.canaryClaimed

/-- A tick, an acknowledgement or a refused claim. -/
inductive Refreshed (registry : FieldCanaryRegistry) (key : FieldVerdictKey)
    (incarnation confirmations : Nat) : FieldCanaryRegistry → Prop where
  | refused : Refreshed registry key incarnation confirmations registry
  | stored {entry : CanaryState} {order : IncarnationOrder} (change : CanaryState)
      (admitted : Admitted registry key incarnation confirmations (entry, order))
      (accepted : order ≠ .stale) (keeps : entry.Keeps change) :
      Refreshed registry key incarnation confirmations (registry.store key change)

/-- How a claim ends on the slot it names; `minted` is where a confirmation carries it. -/
inductive Concluded (registry : FieldCanaryRegistry) (key : FieldVerdictKey) (incarnation : Nat) :
    Option CanaryOutcome → Option Nat → FieldCanaryRegistry → Prop where
  | foreign {outcome : Option CanaryOutcome} {minted : Option Nat}
      (other : ∀ entry, registry.states.lookup key = some entry → entry.incarnation ≠ incarnation) :
      Concluded registry key incarnation outcome minted registry
  | kept {outcome : Option CanaryOutcome} (entry change : CanaryState)
      (resident : registry.states.lookup key = some entry) (same : entry.incarnation = incarnation)
      (unproved : outcome ≠ some .confirmed ∧ outcome ≠ some .regressed)
      (stands : change.incarnation = entry.incarnation ∧ change.outstanding = entry.outstanding)
      (modified : change.modifiedSinceConfirmation = entry.modifiedSinceConfirmation)
      (released : change.canaryClaimed = false) :
      Concluded registry key incarnation outcome none (registry.store key change)
  | confirmed (entry change : CanaryState)
      (resident : registry.states.lookup key = some entry) (same : entry.incarnation = incarnation)
      (stands : change.incarnation = entry.incarnation ∧ change.outstanding = entry.outstanding)
      (modified : change.modifiedSinceConfirmation = 0) (released : change.canaryClaimed = false) :
      Concluded registry key incarnation (some .confirmed) none (registry.store key change)
  | carried (entry change : CanaryState) (minted : Nat)
      (resident : registry.states.lookup key = some entry) (same : entry.incarnation = incarnation)
      (moved : change.incarnation = minted ∧ change.outstanding = 0)
      (modified : change.modifiedSinceConfirmation = 0) (released : change.canaryClaimed = false) :
      Concluded registry key incarnation (some .confirmed) (some minted) (registry.store key change)
  | regressed (entry change : CanaryState)
      (resident : registry.states.lookup key = some entry) (same : entry.incarnation = incarnation)
      (stands : change.incarnation = entry.incarnation ∧ change.outstanding = entry.outstanding)
      (modified : change.modifiedSinceConfirmation = 0) (released : change.canaryClaimed = false) :
      Concluded registry key incarnation (some .regressed) none
        { registry.store key change with
          disprovedRequestsTotal :=
            (registry.disprovedRequestsTotal + entry.modifiedSinceConfirmation) % 2 ^ 64 }

section Operations
variable (registry : FieldCanaryRegistry) (key : FieldVerdictKey) (incarnation : Nat)

theorem tickCadence_refreshed :
    Refreshed registry key incarnation 0 (registry.tickCadence key incarnation).1 := by
  have admitted := admit_admitted registry key incarnation 0
  unfold FieldCanaryRegistry.tickCadence
  split
  · exact .refused
  · rename_i entry order accepted same
    rw [same] at admitted
    refine .stored _ admitted accepted ?_
    split <;> exact ⟨rfl, rfl, rfl, rfl⟩

theorem acknowledgeConfirmation_refreshed (observations : Nat) :
    Refreshed registry key incarnation observations
      (registry.acknowledgeConfirmation key incarnation observations).1 := by
  have admitted := admit_admitted registry key incarnation observations
  unfold FieldCanaryRegistry.acknowledgeConfirmation
  split
  · exact .refused
  · rename_i entry order accepted same
    rw [same] at admitted
    exact .stored _ admitted accepted ⟨rfl, rfl, rfl, rfl⟩

/-- A claim is refused without a trace, or taken on a slot that was free. -/
theorem claimCanary_cases :
    ((registry.claimCanary key incarnation).2 = none ∧
        Refreshed registry key incarnation 0 (registry.claimCanary key incarnation).1) ∨
      ∃ entry order, Admitted registry key incarnation 0 (entry, order) ∧ order ≠ .stale ∧
        entry.canaryClaimed = false ∧
        registry.claimCanary key incarnation =
          (registry.store key { entry with canaryClaimed := true, due := false },
            some ⟨key, incarnation⟩) := by
  have admitted := admit_admitted registry key incarnation 0
  unfold FieldCanaryRegistry.claimCanary
  split
  · exact .inl ⟨rfl, .refused⟩
  · rename_i entry order accepted same
    rw [same] at admitted
    split
    · exact .inl ⟨rfl, .stored _ admitted accepted ⟨rfl, rfl, rfl, rfl⟩⟩
    · rename_i free
      exact .inr ⟨entry, order, admitted, accepted, by simpa using free, rfl⟩

theorem beginModifiedRequest_cases :
    registry.beginModifiedRequest key incarnation = (registry, none) ∨
      ∃ entry order, Admitted registry key incarnation 0 (entry, order) ∧ order ≠ .stale ∧
        registry.beginModifiedRequest key incarnation =
          (registry.store key
            { entry with
              outstanding := min (entry.outstanding + 1) u64Max,
              modifiedSinceConfirmation := min (entry.modifiedSinceConfirmation + 1) u64Max },
            some ⟨key, incarnation⟩) := by
  have admitted := admit_admitted registry key incarnation 0
  unfold FieldCanaryRegistry.beginModifiedRequest
  split
  · exact .inl rfl
  · rename_i entry order accepted same
    rw [same] at admitted
    exact .inr ⟨entry, order, admitted, accepted, rfl⟩

theorem endModifiedRequest_cases :
    ((∀ entry, registry.states.lookup key = some entry → entry.incarnation ≠ incarnation) ∧
        registry.endModifiedRequest key incarnation = registry) ∨
      ∃ entry, registry.states.lookup key = some entry ∧ entry.incarnation = incarnation ∧
        registry.endModifiedRequest key incarnation =
          registry.store key { entry with outstanding := entry.outstanding - 1 } :=
  settleOwned_cases registry key incarnation _

theorem settleCanary_concluded (outcome : CanaryOutcome) :
    Concluded registry key incarnation (some outcome) none
      (registry.settleCanary key incarnation outcome) := by
  unfold FieldCanaryRegistry.settleCanary
  split
  · rename_i absent
    exact .foreign (by simp [absent])
  · rename_i entry resident
    split
    · rename_i other
      refine .foreign ?_
      intro held same
      rw [resident] at same
      exact Option.some.inj same ▸ other
    · rename_i same
      rw [not_not] at same
      cases outcome with
      | confirmed => exact .confirmed entry _ resident same ⟨rfl, rfl⟩ rfl rfl
      | regressed => exact .regressed entry _ resident same ⟨rfl, rfl⟩ rfl rfl
      | inconclusive => exact .kept entry _ resident same (by simp) ⟨rfl, rfl⟩ rfl rfl

theorem settleDisprovedIfCurrent_concluded :
    Concluded registry key incarnation (some .regressed) none
      (registry.settleDisprovedIfCurrent key incarnation).1 := by
  unfold FieldCanaryRegistry.settleDisprovedIfCurrent
  split
  · rename_i absent
    exact .foreign (by simp [absent])
  · rename_i entry resident
    split
    · rename_i other
      refine .foreign ?_
      intro held same
      rw [resident] at same
      exact Option.some.inj same ▸ other
    · rename_i same
      rw [not_not] at same
      exact .regressed entry _ resident same ⟨rfl, rfl⟩ rfl rfl

theorem settleConfirmedAndCarry_concluded (minted : Nat) :
    Concluded registry key incarnation (some .confirmed) (some minted)
      (registry.settleConfirmedAndCarry key incarnation minted) := by
  unfold FieldCanaryRegistry.settleConfirmedAndCarry
  rcases settleOwned_cases registry key incarnation _ with
    ⟨other, same⟩ | ⟨entry, resident, owned, same⟩
  · rw [same]
    exact .foreign other
  · rw [same]
    exact .carried entry _ minted resident owned ⟨rfl, rfl⟩ rfl rfl

theorem releaseCanaryClaim_concluded :
    Concluded registry key incarnation none none
      (registry.releaseCanaryClaim key incarnation) := by
  unfold FieldCanaryRegistry.releaseCanaryClaim
  rcases settleOwned_cases registry key incarnation _ with
    ⟨other, same⟩ | ⟨entry, resident, owned, same⟩
  · rw [same]
    exact .foreign other
  · rw [same]
    exact .kept entry _ resident owned (by simp) ⟨rfl, rfl⟩ rfl rfl

end Operations

/-- Every slot but the one of `key` is left alone. -/
def Local (before after : FieldCanaryRegistry) (key : FieldVerdictKey) : Prop :=
  ∀ other, other ≠ key → after.states.lookup other = before.states.lookup other

section Frames
variable {registry after : FieldCanaryRegistry} {key : FieldVerdictKey} {incarnation : Nat}

theorem local_store (registry : FieldCanaryRegistry) (key : FieldVerdictKey) (entry : CanaryState) :
    Local registry (registry.store key entry) key := fun _ different => lookup_store_ne different

theorem Refreshed.isLocal {confirmations : Nat}
    (refreshed : Refreshed registry key incarnation confirmations after) :
    Local registry after key := by
  cases refreshed with
  | refused => exact fun _ _ => rfl
  | stored change admitted accepted keeps => exact local_store registry key change

theorem endModifiedRequest_local (registry : FieldCanaryRegistry) (key : FieldVerdictKey)
    (incarnation : Nat) : Local registry (registry.endModifiedRequest key incarnation) key := by
  rcases endModifiedRequest_cases registry key incarnation with
    ⟨-, same⟩ | ⟨entry, -, -, same⟩
  · rw [same]
    exact fun _ _ => rfl
  · rw [same]
    exact local_store registry key _

theorem Concluded.isLocal {outcome : Option CanaryOutcome} {minted : Option Nat}
    (concluded : Concluded registry key incarnation outcome minted after) :
    Local registry after key := by
  cases concluded with
  | foreign other => exact fun _ _ => rfl
  | kept entry change => exact local_store registry key change
  | confirmed entry change => exact local_store registry key change
  | carried entry change => exact local_store registry key change
  | regressed entry change => exact local_store registry key change

end Frames
end Routectl.Canary
