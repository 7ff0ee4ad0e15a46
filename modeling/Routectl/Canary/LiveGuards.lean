import Routectl.Canary.Canaries

/-! The guards an incarnation has out: a slot counts them exactly, so long as it is
never opened anew at an incarnation some guard still names. -/
namespace Routectl.Canary
open Routectl.Core Library Registry

/-- The claims and requests alive for the incarnation a slot stands at. -/
structure CanaryState.Backed (entry : CanaryState) (key : FieldVerdictKey)
    (claims : List CanaryClaimGuard) (requests : List ModifiedRequestGuard) : Prop where
  claims : claims.count ⟨key, entry.incarnation⟩ = entry.canaryClaimed.toNat
  requests : entry.outstanding = requests.count ⟨key, entry.incarnation⟩

namespace Canaries
variable (canaries : Canaries)

def Live : Prop :=
  ∀ key entry, canaries.registry.states.lookup key = some entry →
    entry.Backed key canaries.claims canaries.requests

/-- A caller at `incarnation` would find the slot empty or older. -/
def opens (key : FieldVerdictKey) (incarnation : Nat) : Bool :=
  (canaries.registry.states.lookup key).all fun entry => entry.incarnation < incarnation

def named (claims : List CanaryClaimGuard) (requests : List ModifiedRequestGuard)
    (key : FieldVerdictKey) (incarnation : Nat) : Bool :=
  claims.contains ⟨key, incarnation⟩ || requests.contains ⟨key, incarnation⟩

/-- An admission at `incarnation` opens the slot only where no guard names it. -/
def OpensUnnamed (key : FieldVerdictKey) (incarnation : Nat) : Prop :=
  canaries.opens key incarnation = true →
    named canaries.claims canaries.requests key incarnation = false

instance (key : FieldVerdictKey) (incarnation : Nat) :
    Decidable (canaries.OpensUnnamed key incarnation) := by
  unfold OpensUnnamed
  infer_instance

/-- No step opens a slot, carries one or seeds one at an incarnation a guard handed
out before still names, nor runs an in-flight count past its word. -/
def Unforgetting : CanaryAction → Prop
  | .tickCadence key incarnation | .claimCanary key incarnation
  | .acknowledgeConfirmation key incarnation _ => canaries.OpensUnnamed key incarnation
  | .beginModifiedRequest key incarnation =>
    canaries.OpensUnnamed key incarnation ∧
      canaries.requests.count ⟨key, incarnation⟩ < u64Max
  | .seedFromRebuild key incarnation _ _ =>
    named canaries.claims canaries.requests key incarnation = false
  | .settleConfirmedAndCarry position minted =>
    ∀ claim ∈ canaries.claims[position]?, canaries.owns claim.key claim.incarnation = true →
      named (canaries.claims.eraseIdx position) canaries.requests claim.key minted = false
  | .settle _ _ | .settleDisprovedIfCurrent _ | .dropClaim _ | .dropRequest _ | .reset _ => True

instance : DecidablePred canaries.Unforgetting := fun action => by
  cases action <;> unfold Unforgetting <;> infer_instance

end Canaries

section Counts
variable {claims : List CanaryClaimGuard} {requests : List ModifiedRequestGuard}
  {key other : FieldVerdictKey} {incarnation : Nat} {entry : CanaryState}

theorem named_eq_false (unnamed : Canaries.named claims requests key incarnation = false) :
    claims.count ⟨key, incarnation⟩ = 0 ∧ requests.count ⟨key, incarnation⟩ = 0 := by
  simpa [Canaries.named, List.count_eq_zero] using unnamed

/-- A slot with no guard out and nothing claimed is backed. -/
theorem backed_of_unnamed (unnamed : Canaries.named claims requests key entry.incarnation = false)
    (free : entry.canaryClaimed = false) (idle : entry.outstanding = 0) :
    entry.Backed key claims requests := by
  obtain ⟨noClaim, noRequest⟩ := named_eq_false unnamed
  exact ⟨by rw [noClaim, free]; rfl, by rw [idle, noRequest]⟩

theorem count_eraseIdx {Guard : Type} [DecidableEq Guard] {guards : List Guard} {position : Nat}
    {guard : Guard} (present : guards[position]? = some guard) (counted : Guard) :
    guards.count counted =
      (guards.eraseIdx position).count counted + if guard = counted then 1 else 0 := by
  obtain ⟨inside, same⟩ := List.getElem?_eq_some_iff.mp present
  have split := List.getElem_cons_eraseIdx_perm inside
  rw [same] at split
  rw [← split.count_eq, List.count_cons]
  simp

end Counts

section Steps
variable {canaries next : Canaries} {after : FieldCanaryRegistry} {key : FieldVerdictKey}
  {incarnation : Nat}

theorem Admitted.backed {confirmations : Nat} {entry : CanaryState} {order : IncarnationOrder}
    (admitted : Admitted canaries.registry key incarnation confirmations (entry, order))
    (accepted : order ≠ .stale) (live : canaries.Live)
    (unnamed : canaries.OpensUnnamed key incarnation) :
    entry.incarnation = incarnation ∧ entry.Backed key canaries.claims canaries.requests := by
  cases admitted with
  | stale entry resident newer => exact absurd rfl accepted
  | seeded order accepted older =>
    refine ⟨rfl, backed_of_unnamed ?_ rfl rfl⟩
    apply unnamed
    rw [Canaries.opens]
    cases resident : canaries.registry.states.lookup key with
    | none => rfl
    | some held => simpa using older held resident
  | current entry resident same => exact ⟨same, live key entry resident⟩

/-- One slot changed, the guards of the other identities left as they were. -/
theorem Canaries.Live.at_slot (live : canaries.Live)
    (isLocal : Local canaries.registry next.registry key)
    (claims : ∀ other incarnation, other ≠ key →
      next.claims.count ⟨other, incarnation⟩ = canaries.claims.count ⟨other, incarnation⟩)
    (requests : ∀ other incarnation, other ≠ key →
      next.requests.count ⟨other, incarnation⟩ = canaries.requests.count ⟨other, incarnation⟩)
    (slot : ∀ entry, next.registry.states.lookup key = some entry →
      entry.Backed key next.claims next.requests) : next.Live := by
  intro other entry resident
  by_cases same : other = key
  · subst same
    exact slot entry resident
  · rw [isLocal other same] at resident
    obtain ⟨claimed, counted⟩ := live other entry resident
    exact ⟨(claims other _ same).trans claimed, counted.trans (requests other _ same).symm⟩

/-- The same, where no guard came or went. -/
theorem Canaries.Live.touched (live : canaries.Live) (isLocal : Local canaries.registry after key)
    (slot : ∀ entry, after.states.lookup key = some entry →
      entry.Backed key canaries.claims canaries.requests) : (canaries.touched key after).Live :=
  live.at_slot isLocal (fun _ _ _ => rfl) (fun _ _ _ => rfl) slot

theorem Refreshed.live {confirmations : Nat}
    (refreshed : Refreshed canaries.registry key incarnation confirmations after)
    (live : canaries.Live) (unnamed : canaries.OpensUnnamed key incarnation) :
    (canaries.touched key after).Live := by
  refine live.touched refreshed.isLocal ?_
  cases refreshed with
  | refused => exact live key
  | stored change admitted accepted keeps =>
    intro entry resident
    obtain rfl := Option.some.inj (lookup_store_self.symm.trans resident)
    obtain ⟨-, claims, requests⟩ := admitted.backed accepted live unnamed
    refine ⟨?_, ?_⟩
    · rw [keeps.incarnation, keeps.claimed]
      exact claims
    · rw [keeps.incarnation, keeps.outstanding]
      exact requests

theorem claim_live (live : canaries.Live) (unnamed : canaries.OpensUnnamed key incarnation)
    (step : canaries.step (.claimCanary key incarnation) = some next) : next.Live := by
  simp only [Canaries.step] at step
  rcases claimCanary_cases canaries.registry key incarnation with
    ⟨refused, refreshed⟩ | ⟨entry, order, admitted, accepted, free, claimed⟩
  · split at step
    · rename_i after taken
      obtain rfl := Option.some.inj step
      rw [taken] at refreshed
      exact refreshed.live live unnamed
    · rename_i after claim taken
      rw [taken] at refused
      cases refused
  · rw [claimed] at step
    obtain rfl := Option.some.inj step
    obtain ⟨same, claims, requests⟩ := admitted.backed accepted live unnamed
    refine live.at_slot (local_store _ key _) ?_ (fun _ _ _ => rfl) ?_
    · intro other named different
      simp [Ne.symm different]
    · intro change resident
      obtain rfl := Option.some.inj (lookup_store_self.symm.trans resident)
      rw [free, same] at claims
      refine ⟨?_, requests⟩
      simp [same, claims]

theorem begin_live (live : canaries.Live) (unnamed : canaries.OpensUnnamed key incarnation)
    (room : canaries.requests.count ⟨key, incarnation⟩ < u64Max)
    (step : canaries.step (.beginModifiedRequest key incarnation) = some next) : next.Live := by
  simp only [Canaries.step] at step
  rcases beginModifiedRequest_cases canaries.registry key incarnation with
    refused | ⟨entry, order, admitted, accepted, begun⟩
  · rw [refused] at step
    obtain rfl := Option.some.inj step
    exact live.touched (fun _ _ => rfl) (live key)
  · rw [begun] at step
    obtain rfl := Option.some.inj step
    obtain ⟨same, claims, requests⟩ := admitted.backed accepted live unnamed
    refine live.at_slot (local_store _ key _) (fun _ _ _ => rfl) ?_ ?_
    · intro other named different
      simp [Ne.symm different]
    · intro change resident
      obtain rfl := Option.some.inj (lookup_store_self.symm.trans resident)
      refine ⟨claims, ?_⟩
      rw [same] at requests ⊢
      rw [← requests] at room
      simp only [List.count_append, List.count_singleton_self, ← requests]
      omega

/-- A claim that ends leaves its slot free, and the others as they were. -/
theorem Concluded.live {position : Nat} {claim : CanaryClaimGuard} {outcome : Option CanaryOutcome}
    {minted : Option Nat}
    (concluded : Concluded canaries.registry claim.key claim.incarnation outcome minted after)
    (present : canaries.claims[position]? = some claim) (live : canaries.Live)
    (carries : ∀ carried ∈ minted, canaries.owns claim.key claim.incarnation = true →
      Canaries.named (canaries.claims.eraseIdx position) canaries.requests claim.key carried =
        false) :
    (canaries.concluded position claim outcome after).Live := by
  have counted (other : CanaryClaimGuard) := count_eraseIdx present other
  have released {entry change : CanaryState}
      (resident : canaries.registry.states.lookup claim.key = some entry)
      (same : entry.incarnation = claim.incarnation)
      (stands : change.incarnation = entry.incarnation ∧ change.outstanding = entry.outstanding)
      (free : change.canaryClaimed = false) :
      change.Backed claim.key (canaries.claims.eraseIdx position) canaries.requests := by
    obtain ⟨claims, requests⟩ := live claim.key entry resident
    refine ⟨?_, ?_⟩
    · have own := counted ⟨claim.key, entry.incarnation⟩
      rw [claims, same, if_pos rfl] at own
      have bounded := Bool.toNat_le entry.canaryClaimed
      rw [stands.1, same, free, Bool.toNat_false]
      omega
    · rw [stands.1, stands.2]
      exact requests
  refine live.at_slot (concluded.isLocal) ?_ (fun _ _ _ => rfl) ?_
  · intro other named different
    have apart : claim ≠ ⟨other, named⟩ := by
      rintro rfl
      exact different rfl
    have kept := counted ⟨other, named⟩
    rw [if_neg apart, Nat.add_zero] at kept
    exact kept.symm
  · intro slot resident
    cases concluded with
    | foreign other =>
      obtain ⟨claims, requests⟩ := live claim.key slot resident
      refine ⟨?_, requests⟩
      have apart : claim ≠ ⟨claim.key, slot.incarnation⟩ := by
        intro same
        exact other slot resident (congrArg CanaryClaimGuard.incarnation same).symm
      have kept := counted ⟨claim.key, slot.incarnation⟩
      rw [if_neg apart, Nat.add_zero, claims] at kept
      exact kept.symm
    | kept entry change held same unproved stands modified free =>
      obtain rfl := Option.some.inj (lookup_store_self.symm.trans resident)
      exact released held same stands free
    | confirmed entry change held same stands modified free =>
      obtain rfl := Option.some.inj (lookup_store_self.symm.trans resident)
      exact released held same stands free
    | regressed entry change held same stands modified free =>
      obtain rfl := Option.some.inj (lookup_store_self.symm.trans resident)
      exact released held same stands free
    | carried entry change minted held same moved modified free =>
      obtain rfl := Option.some.inj (lookup_store_self.symm.trans resident)
      refine backed_of_unnamed ?_ free moved.2
      rw [moved.1]
      exact carries minted rfl (by simp [Canaries.owns, held, same])

theorem drop_request_live (live : canaries.Live) {position : Nat}
    (step : canaries.step (.dropRequest position) = some next) : next.Live := by
  obtain ⟨request, present, rfl⟩ := Option.map_eq_some_iff.mp step
  have counted (other : ModifiedRequestGuard) := count_eraseIdx present other
  have isLocal := endModifiedRequest_local canaries.registry request.key request.incarnation
  refine live.at_slot isLocal (fun _ _ _ => rfl) ?_ ?_
  · intro other named different
    have apart : request ≠ ⟨other, named⟩ := by
      rintro rfl
      exact different rfl
    have kept := counted ⟨other, named⟩
    rw [if_neg apart, Nat.add_zero] at kept
    exact kept.symm
  · intro slot
    dsimp only [Canaries.touched]
    rcases endModifiedRequest_cases canaries.registry request.key request.incarnation with
      ⟨other, unchanged⟩ | ⟨entry, held, same, stored⟩
    · rw [unchanged]
      intro resident
      obtain ⟨claims, requests⟩ := live request.key slot resident
      refine ⟨claims, ?_⟩
      have apart : request ≠ ⟨request.key, slot.incarnation⟩ := by
        intro same
        exact other slot resident (congrArg ModifiedRequestGuard.incarnation same).symm
      have kept := counted ⟨request.key, slot.incarnation⟩
      rw [if_neg apart, Nat.add_zero] at kept
      exact requests.trans kept
    · rw [stored]
      intro resident
      obtain rfl := Option.some.inj (lookup_store_self.symm.trans resident)
      obtain ⟨claims, requests⟩ := live request.key entry held
      refine ⟨claims, ?_⟩
      have own := counted ⟨request.key, entry.incarnation⟩
      rw [same, if_pos rfl] at own
      rw [same] at requests ⊢
      dsimp only
      omega

/-- One step keeps the counts exact, unless it forgets a guard. -/
theorem step_live {action : CanaryAction} (live : canaries.Live)
    (unforgetting : canaries.Unforgetting action) (step : canaries.step action = some next) :
    next.Live := by
  cases action with
  | tickCadence key incarnation =>
    obtain rfl := Option.some.inj step
    exact (tickCadence_refreshed canaries.registry key incarnation).live live unforgetting
  | acknowledgeConfirmation key incarnation observations =>
    obtain rfl := Option.some.inj step
    have refreshed := acknowledgeConfirmation_refreshed canaries.registry key incarnation observations
    exact refreshed.live live unforgetting
  | claimCanary key incarnation => exact claim_live live unforgetting step
  | beginModifiedRequest key incarnation => exact begin_live live unforgetting.1 unforgetting.2 step
  | dropRequest position => exact drop_request_live live step
  | settle position outcome =>
    obtain ⟨claim, present, rfl⟩ := Option.map_eq_some_iff.mp step
    exact (settleCanary_concluded _ _ _ outcome).live present live (by simp)
  | settleDisprovedIfCurrent position =>
    obtain ⟨claim, present, rfl⟩ := Option.map_eq_some_iff.mp step
    exact (settleDisprovedIfCurrent_concluded _ _ _).live present live (by simp)
  | dropClaim position =>
    obtain ⟨claim, present, rfl⟩ := Option.map_eq_some_iff.mp step
    exact (releaseCanaryClaim_concluded _ _ _).live present live (by simp)
  | settleConfirmedAndCarry position minted =>
    obtain ⟨claim, present, rfl⟩ := Option.map_eq_some_iff.mp step
    refine (settleConfirmedAndCarry_concluded _ _ _ minted).live present live ?_
    intro carried same
    obtain rfl := Option.some.inj same
    exact unforgetting claim present
  | seedFromRebuild key incarnation confirmations dueImmediately =>
    obtain rfl := Option.some.inj step
    refine live.touched (local_store _ key _) ?_
    intro entry resident
    obtain rfl := Option.some.inj (lookup_store_self.symm.trans resident)
    cases dueImmediately with
    | false => exact backed_of_unnamed unforgetting rfl rfl
    | true => exact backed_of_unnamed unforgetting rfl rfl
  | reset key =>
    obtain rfl := Option.some.inj step
    refine live.touched ?_ ?_
    · intro other different
      exact AList.lookup_erase_ne different
    · intro entry resident
      simp [FieldCanaryRegistry.reset] at resident

end Steps
end Routectl.Canary
