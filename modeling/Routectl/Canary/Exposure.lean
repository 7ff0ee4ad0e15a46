import Routectl.Canary.LiveGuards

/-! The wrong-repair alarm: the tally of a slot stands for requests of its own
incarnation, and each leaves it once, vouched for or charged. -/
namespace Routectl.Canary
open Routectl.Core Library Registry

namespace Canaries

/-- Every tally covered by requests begun at the incarnation its slot stands at. -/
structure Counts (registry : FieldCanaryRegistry) (counted : FieldVerdictKey → List Nat)
    (issued : List ModifiedRequestGuard) : Prop where
  covers : ∀ key, tally registry key ≤ (counted key).length
  named : ∀ key, ∀ number ∈ counted key, ∃ entry,
    registry.states.lookup key = some entry ∧ issued[number]? = some ⟨key, entry.incarnation⟩
  distinct : ∀ key, (counted key).Nodup

structure Charged (canaries : Canaries) : Prop where
  counts : Counts canaries.registry canaries.counted canaries.issued
  unvouched : ∀ key, ∀ number ∈ canaries.counted key, number ∉ canaries.vouched
  uncharged : ∀ key, ∀ number ∈ canaries.counted key, ∀ charge ∈ canaries.charged,
    charge.request ≠ number
  once : (canaries.charged.map Charge.request).Nodup
  proper : ∀ charge ∈ canaries.charged,
    charge.vouched = false ∧ charge.request < canaries.issued.length
  known : ∀ number ∈ canaries.vouched, number < canaries.issued.length
  total : canaries.registry.disprovedRequestsTotal = canaries.charged.length % 2 ^ 64

end Canaries

/-- The tally of a slot is emptied, or kept at the incarnation it stands at. -/
def Retallied (registry after : FieldCanaryRegistry) (key : FieldVerdictKey) : Prop :=
  Canaries.tally after key = 0 ∨ ∃ entry change, registry.states.lookup key = some entry ∧
    after.states.lookup key = some change ∧ change.incarnation = entry.incarnation ∧
    change.modifiedSinceConfirmation = entry.modifiedSinceConfirmation

section Tallies
variable {canaries : Canaries} {registry after : FieldCanaryRegistry} {key other : FieldVerdictKey}
  {incarnation number : Nat} {entry change : CanaryState}

theorem tally_of_lookup (resident : registry.states.lookup key = some entry) :
    Canaries.tally registry key = entry.modifiedSinceConfirmation := by
  simp [Canaries.tally, resident]

theorem retallied_refl (registry : FieldCanaryRegistry) (key : FieldVerdictKey) :
    Retallied registry registry key := by
  cases resident : registry.states.lookup key with
  | none => exact .inl (by simp [Canaries.tally, resident])
  | some entry => exact .inr ⟨entry, entry, resident, resident, rfl, rfl⟩

theorem retallied_zero (modified : change.modifiedSinceConfirmation = 0) :
    Retallied registry (registry.store key change) key :=
  .inl ((tally_of_lookup lookup_store_self).trans modified)

theorem retallied_kept (resident : registry.states.lookup key = some entry)
    (stands : change.incarnation = entry.incarnation)
    (modified : change.modifiedSinceConfirmation = entry.modifiedSinceConfirmation) :
    Retallied registry (registry.store key change) key :=
  .inr ⟨entry, change, resident, lookup_store_self, stands, modified⟩

theorem Refreshed.retallied {confirmations : Nat}
    (refreshed : Refreshed registry key incarnation confirmations after) :
    Retallied registry after key := by
  cases refreshed with
  | refused => exact retallied_refl registry key
  | stored change admitted accepted keeps =>
    cases admitted with
    | stale entry resident newer => exact absurd rfl accepted
    | seeded order accepted older => exact retallied_zero keeps.modified
    | current entry resident same => exact retallied_kept resident keeps.incarnation keeps.modified

theorem mem_recount (member : number ∈ canaries.recount after key other) :
    number ∈ canaries.counted other ∧ (Canaries.tally after key = 0 → other ≠ key) := by
  unfold Canaries.recount at member
  split at member
  · rename_i empty
    by_cases same : other = key
    · subst same
      simp at member
    · rw [Function.update_of_ne same] at member
      exact ⟨member, fun _ => same⟩
  · rename_i standing
    exact ⟨member, fun empty => absurd empty standing⟩

theorem Canaries.Counts.recount
    (counts : Canaries.Counts canaries.registry canaries.counted canaries.issued)
    (isLocal : Local canaries.registry after key) (slot : Retallied canaries.registry after key) :
    Canaries.Counts after (canaries.recount after key) canaries.issued := by
  constructor
  · intro other
    by_cases same : other = key
    · subst same
      unfold Canaries.recount
      split
      · rename_i empty
        rw [empty]
        exact Nat.zero_le _
      · rename_i standing
        rcases slot with empty | ⟨entry, change, resident, settled, -, modified⟩
        · exact absurd empty standing
        · rw [tally_of_lookup settled, modified, ← tally_of_lookup resident]
          exact counts.covers other
    · have still : canaries.recount after key other = canaries.counted other := by
        unfold Canaries.recount
        split
        · exact Function.update_of_ne same _ _
        · rfl
      rw [still, Canaries.tally, isLocal other same]
      exact counts.covers other
  · intro other number member
    obtain ⟨standing, apart⟩ := mem_recount member
    obtain ⟨entry, resident, issued⟩ := counts.named other number standing
    by_cases same : other = key
    · subst same
      rcases slot with empty | ⟨held, change, found, settled, incarnation, -⟩
      · exact absurd rfl (apart empty)
      · rw [resident] at found
        obtain rfl := Option.some.inj found
        exact ⟨change, settled, by rw [incarnation, issued]⟩
    · exact ⟨entry, (isLocal other same).trans resident, issued⟩
  · intro other
    unfold Canaries.recount
    split
    · by_cases same : other = key
      · subst same
        simp
      · rw [Function.update_of_ne same]
        exact counts.distinct other
    · exact counts.distinct other

theorem mem_begun (member : number ∈ canaries.begun key incarnation) :
    canaries.issued[number]? = some ⟨key, incarnation⟩ ∧ number < canaries.issued.length := by
  obtain ⟨inside, same⟩ := List.mem_filter.mp member
  exact ⟨by simpa using same, List.mem_range.mp inside⟩

end Tallies

section Steps
variable {canaries next : Canaries} {after : FieldCanaryRegistry} {key : FieldVerdictKey}
  {incarnation : Nat}

theorem Canaries.Charged.touched (charged : canaries.Charged)
    (isLocal : Local canaries.registry after key) (slot : Retallied canaries.registry after key)
    (total : after.disprovedRequestsTotal = canaries.registry.disprovedRequestsTotal) :
    (canaries.touched key after).Charged where
  counts := charged.counts.recount isLocal slot
  unvouched := fun other number member => charged.unvouched other number (mem_recount member).1
  uncharged := fun other number member => charged.uncharged other number (mem_recount member).1
  once := charged.once
  proper := charged.proper
  known := charged.known
  total := total.trans charged.total

/-- Nothing but an owner's disproof moves the alarm. -/
theorem Refreshed.total {confirmations : Nat}
    (refreshed : Refreshed canaries.registry key incarnation confirmations after) :
    after.disprovedRequestsTotal = canaries.registry.disprovedRequestsTotal := by
  cases refreshed with
  | refused => rfl
  | stored change admitted accepted keeps => rfl

theorem Refreshed.charged {confirmations : Nat}
    (refreshed : Refreshed canaries.registry key incarnation confirmations after)
    (charged : canaries.Charged) : (canaries.touched key after).Charged :=
  charged.touched refreshed.isLocal refreshed.retallied refreshed.total

theorem owns_foreign (other : ∀ entry, canaries.registry.states.lookup key = some entry →
      entry.incarnation ≠ incarnation) : canaries.owns key incarnation = false := by
  unfold Canaries.owns
  cases resident : canaries.registry.states.lookup key with
  | none => rfl
  | some entry => simpa using other entry resident

theorem owns_resident {entry : CanaryState}
    (resident : canaries.registry.states.lookup key = some entry)
    (same : entry.incarnation = incarnation) : canaries.owns key incarnation = true := by
  simp [Canaries.owns, resident, same]

/-- A confirmation empties the tally before its requests are vouched for. -/
theorem confirmed_charged {position : Nat} {claim : CanaryClaimGuard} {change : CanaryState}
    (charged : canaries.Charged) (owner : canaries.owns claim.key claim.incarnation = true)
    (modified : change.modifiedSinceConfirmation = 0) :
    (canaries.concluded position claim (some .confirmed)
      (canaries.registry.store claim.key change)).Charged := by
  have empty : Canaries.tally (canaries.registry.store claim.key change) claim.key = 0 :=
    (tally_of_lookup lookup_store_self).trans modified
  constructor
  case counts => exact charged.counts.recount (local_store _ _ change) (retallied_zero modified)
  case unvouched =>
    intro other number member vouched
    obtain ⟨standing, apart⟩ := mem_recount member
    simp only [Canaries.concluded, owner, true_and, if_true] at vouched
    rcases List.mem_append.mp vouched with before | begun
    · exact charged.unvouched other number standing before
    · obtain ⟨entry, -, issued⟩ := charged.counts.named other number standing
      have same := issued.symm.trans (mem_begun begun).1
      exact apart empty (congrArg ModifiedRequestGuard.key (Option.some.inj same))
  case uncharged =>
    intro other number member charge settled
    simp only [Canaries.concluded, reduceCtorEq, Option.some.injEq, and_false, if_false] at settled
    exact charged.uncharged other number (mem_recount member).1 charge settled
  case once => simpa [Canaries.concluded] using charged.once
  case proper => simpa [Canaries.concluded, Canaries.touched] using charged.proper
  case known =>
    intro number vouched
    simp only [Canaries.concluded, owner, true_and, if_true] at vouched
    rcases List.mem_append.mp vouched with before | begun
    · exact charged.known number before
    · exact (mem_begun begun).2
  case total =>
    simpa [Canaries.concluded, Canaries.touched, FieldCanaryRegistry.store] using charged.total

/-- A disproof charges what the tally stood for, and leaves nothing of it. -/
theorem regressed_charged {position : Nat} {claim : CanaryClaimGuard} {entry change : CanaryState}
    (charged : canaries.Charged)
    (resident : canaries.registry.states.lookup claim.key = some entry)
    (same : entry.incarnation = claim.incarnation)
    (modified : change.modifiedSinceConfirmation = 0) :
    (canaries.concluded position claim (some .regressed)
      { canaries.registry.store claim.key change with
        disprovedRequestsTotal :=
          (canaries.registry.disprovedRequestsTotal + entry.modifiedSinceConfirmation) % 2 ^ 64
      }).Charged := by
  have owner : canaries.owns claim.key claim.incarnation = true := owns_resident resident same
  have empty : Canaries.tally (canaries.registry.store claim.key change) claim.key = 0 :=
    (tally_of_lookup lookup_store_self).trans modified
  have standing : ∀ number ∈ canaries.affected claim.key, number ∈ canaries.counted claim.key :=
    fun number member => List.mem_of_mem_take member
  have settled : (canaries.concluded position claim (some .regressed)
      { canaries.registry.store claim.key change with
        disprovedRequestsTotal :=
          (canaries.registry.disprovedRequestsTotal + entry.modifiedSinceConfirmation) % 2 ^ 64
      }).charged = canaries.charged ++ (canaries.affected claim.key).map fun request =>
        ⟨request, canaries.vouched.contains request⟩ := by
    simp [Canaries.concluded, owner]
  constructor
  case counts => exact charged.counts.recount (local_store _ _ change) (.inl empty)
  case unvouched =>
    intro other number member
    have kept := charged.unvouched other number (mem_recount member).1
    simpa [Canaries.concluded] using kept
  case uncharged =>
    intro other number member charge present named
    obtain ⟨still, apart⟩ := mem_recount member
    rw [settled] at present
    rcases List.mem_append.mp present with before | now
    · exact charged.uncharged other number still charge before named
    · obtain ⟨request, affected, rfl⟩ := List.mem_map.mp now
      obtain rfl : request = number := named
      obtain ⟨_, -, own⟩ := charged.counts.named claim.key request (standing request affected)
      obtain ⟨_, -, issued⟩ := charged.counts.named other request still
      have agree := issued.symm.trans own
      exact apart empty (congrArg ModifiedRequestGuard.key (Option.some.inj agree))
  case once =>
    rw [settled, List.map_append, List.map_map, List.nodup_append]
    refine ⟨charged.once, ?_, ?_⟩
    · have own : Charge.request ∘ (fun request =>
          (⟨request, canaries.vouched.contains request⟩ : Charge)) = id := rfl
      rw [own, List.map_id]
      exact (List.take_sublist _ _).nodup (charged.counts.distinct claim.key)
    · intro first before second now
      obtain ⟨charge, present, rfl⟩ := List.mem_map.mp before
      obtain ⟨request, affected, rfl⟩ := List.mem_map.mp now
      exact charged.uncharged claim.key request (standing request affected) charge present
  case proper =>
    intro charge present
    rw [settled] at present
    rcases List.mem_append.mp present with before | now
    · exact charged.proper charge before
    · obtain ⟨request, affected, rfl⟩ := List.mem_map.mp now
      have member := standing request affected
      obtain ⟨_, -, issued⟩ := charged.counts.named claim.key request member
      refine ⟨?_, (List.getElem?_eq_some_iff.mp issued).1⟩
      simpa using charged.unvouched claim.key request member
  case known =>
    intro number vouched
    exact charged.known number (by simpa [Canaries.concluded] using vouched)
  case total =>
    rw [settled, List.length_append, List.length_map, Canaries.affected, List.length_take,
      Nat.min_eq_left (charged.counts.covers claim.key), tally_of_lookup resident]
    show (canaries.registry.disprovedRequestsTotal + entry.modifiedSinceConfirmation) % 2 ^ 64 = _
    rw [charged.total, Nat.mod_add_mod]

/-- A claim that proves nothing, or owns nothing, moves no request. -/
theorem Canaries.Charged.released {position : Nat} {claim : CanaryClaimGuard}
    {outcome : Option CanaryOutcome} (charged : (canaries.touched claim.key after).Charged)
    (idle : canaries.owns claim.key claim.incarnation = false ∨
      outcome ≠ some .confirmed ∧ outcome ≠ some .regressed) :
    (canaries.concluded position claim outcome after).Charged := by
  have unmoved : canaries.concluded position claim outcome after =
      { canaries.touched claim.key after with claims := canaries.claims.eraseIdx position } := by
    rcases idle with foreign | ⟨unconfirmed, undisproved⟩
    · simp [Canaries.concluded, Canaries.touched, foreign]
    · simp [Canaries.concluded, Canaries.touched, unconfirmed, undisproved]
  rw [unmoved]
  exact ⟨charged.counts, charged.unvouched, charged.uncharged, charged.once, charged.proper,
    charged.known, charged.total⟩

theorem Concluded.charged {position : Nat} {claim : CanaryClaimGuard}
    {outcome : Option CanaryOutcome} {minted : Option Nat}
    (concluded : Concluded canaries.registry claim.key claim.incarnation outcome minted after)
    (charged : canaries.Charged) : (canaries.concluded position claim outcome after).Charged := by
  cases concluded with
  | foreign other =>
    have touched := charged.touched (fun _ _ => rfl) (retallied_refl canaries.registry claim.key) rfl
    exact touched.released (.inl (owns_foreign other))
  | kept entry change resident same unproved stands modified released =>
    have touched := charged.touched (local_store _ _ change)
      (retallied_kept resident stands.1 modified) rfl
    exact touched.released (.inr unproved)
  | confirmed entry change resident same stands modified released =>
    exact confirmed_charged charged (owns_resident resident same) modified
  | carried entry change minted resident same moved modified released =>
    exact confirmed_charged charged (owns_resident resident same) modified
  | regressed entry change resident same stands modified released =>
    exact regressed_charged charged resident same modified

/-- The requests a slot counts before one more joins them. -/
def Canaries.standing (canaries : Canaries) (key : FieldVerdictKey) (incarnation : Nat) : List Nat :=
  if canaries.owns key incarnation then canaries.counted key else []

theorem Admitted.standing {entry : CanaryState} {order : IncarnationOrder}
    (admitted : Admitted canaries.registry key incarnation 0 (entry, order))
    (accepted : order ≠ .stale) (charged : canaries.Charged) :
    entry.incarnation = incarnation ∧
      entry.modifiedSinceConfirmation ≤ (canaries.standing key incarnation).length ∧
      ∀ number ∈ canaries.standing key incarnation, number ∈ canaries.counted key ∧
        canaries.issued[number]? = some ⟨key, incarnation⟩ := by
  unfold Canaries.standing
  cases admitted with
  | stale entry resident newer => exact absurd rfl accepted
  | seeded order accepted older =>
    have foreign : canaries.owns key incarnation = false :=
      owns_foreign fun entry resident => (older entry resident).ne
    simp [foreign, CanaryState.fresh]
  | current entry resident same =>
    rw [if_pos (owns_resident resident same), ← tally_of_lookup resident]
    refine ⟨same, charged.counts.covers key, ?_⟩
    intro number member
    obtain ⟨held, found, issued⟩ := charged.counts.named key number member
    rw [resident] at found
    obtain rfl := Option.some.inj found
    exact ⟨member, same ▸ issued⟩

/-- The request begun joins the standing ones of its slot. -/
theorem Canaries.Counts.begun {change : CanaryState}
    (counts : Canaries.Counts canaries.registry canaries.counted canaries.issued)
    (same : change.incarnation = incarnation)
    (covered : change.modifiedSinceConfirmation ≤ (canaries.standing key incarnation).length + 1)
    (standing : ∀ number ∈ canaries.standing key incarnation, number ∈ canaries.counted key ∧
      canaries.issued[number]? = some ⟨key, incarnation⟩) :
    Canaries.Counts (canaries.registry.store key change)
      (Function.update canaries.counted key
        (canaries.standing key incarnation ++ [canaries.issued.length]))
      (canaries.issued ++ [⟨key, incarnation⟩]) := by
  have older : ∀ number ∈ canaries.standing key incarnation, number < canaries.issued.length :=
    fun number member => (List.getElem?_eq_some_iff.mp (standing number member).2).1
  constructor
  · intro other
    by_cases own : other = key
    · subst own
      rw [Function.update_self, tally_of_lookup lookup_store_self, List.length_append]
      exact covered
    · rw [Function.update_of_ne own, Canaries.tally, lookup_store_ne own]
      exact counts.covers other
  · intro other number member
    by_cases own : other = key
    · subst own
      rw [Function.update_self] at member
      refine ⟨change, lookup_store_self, ?_⟩
      rw [same]
      rcases List.mem_append.mp member with before | new
      · rw [List.getElem?_append_left (older number before)]
        exact (standing number before).2
      · rw [List.mem_singleton.mp new]
        simp
    · rw [Function.update_of_ne own] at member
      obtain ⟨held, resident, issued⟩ := counts.named other number member
      refine ⟨held, (lookup_store_ne own).trans resident, ?_⟩
      rw [List.getElem?_append_left (List.getElem?_eq_some_iff.mp issued).1]
      exact issued
  · intro other
    by_cases own : other = key
    · subst own
      rw [Function.update_self, List.nodup_append]
      refine ⟨?_, List.nodup_singleton _, ?_⟩
      · unfold Canaries.standing
        split
        · exact counts.distinct other
        · exact List.nodup_nil
      · intro first before second new
        rw [List.mem_singleton.mp new]
        exact (older first before).ne
    · rw [Function.update_of_ne own]
      exact counts.distinct other

theorem begin_charged (charged : canaries.Charged)
    (step : canaries.step (.beginModifiedRequest key incarnation) = some next) : next.Charged := by
  simp only [Canaries.step] at step
  rcases beginModifiedRequest_cases canaries.registry key incarnation with
    refused | ⟨entry, order, admitted, accepted, begun⟩
  · rw [refused] at step
    obtain rfl := Option.some.inj step
    exact charged.touched (fun _ _ => rfl) (retallied_refl canaries.registry key) rfl
  · rw [begun] at step
    obtain rfl := Option.some.inj step
    obtain ⟨same, covered, standing⟩ := admitted.standing accepted charged
    rw [← Canaries.standing]
    have known {other : FieldVerdictKey} {number : Nat}
        (member : number ∈ Function.update canaries.counted key
          (canaries.standing key incarnation ++ [canaries.issued.length]) other) :
        number ∈ canaries.counted other ∨ other = key ∧ number = canaries.issued.length := by
      by_cases own : other = key
      · subst own
        rw [Function.update_self] at member
        rcases List.mem_append.mp member with before | new
        · exact .inl (standing number before).1
        · exact .inr ⟨rfl, List.mem_singleton.mp new⟩
      · rw [Function.update_of_ne own] at member
        exact .inl member
    constructor
    case counts =>
      refine charged.counts.begun same ?_ standing
      exact (Nat.min_le_left _ _).trans (Nat.succ_le_succ covered)
    case unvouched =>
      intro other number member vouched
      rcases known member with before | ⟨-, rfl⟩
      · exact charged.unvouched other number before vouched
      · exact Nat.lt_irrefl _ (charged.known _ vouched)
    case uncharged =>
      intro other number member charge present named
      rcases known member with before | ⟨-, rfl⟩
      · exact charged.uncharged other number before charge present named
      · exact (charged.proper charge present).2.ne named
    case once => exact charged.once
    case proper =>
      intro charge present
      obtain ⟨unvouched, inside⟩ := charged.proper charge present
      exact ⟨unvouched, inside.trans_le (by simp)⟩
    case known =>
      intro number vouched
      exact (charged.known number vouched).trans_le (by simp)
    case total => exact charged.total

theorem step_charged : Canaries.machine.Preserves Canaries.Charged := by
  intro canaries action next charged step
  cases action with
  | tickCadence key incarnation =>
    obtain rfl := Option.some.inj step
    exact (tickCadence_refreshed canaries.registry key incarnation).charged charged
  | acknowledgeConfirmation key incarnation observations =>
    obtain rfl := Option.some.inj step
    exact (acknowledgeConfirmation_refreshed _ key incarnation observations).charged charged
  | claimCanary key incarnation =>
    simp only [Canaries.machine, Canaries.step] at step
    rcases claimCanary_cases canaries.registry key incarnation with
      ⟨refused, refreshed⟩ | ⟨entry, order, admitted, accepted, free, claimed⟩
    · split at step
      · rename_i after taken
        obtain rfl := Option.some.inj step
        rw [taken] at refreshed
        exact refreshed.charged charged
      · rename_i after claim taken
        rw [taken] at refused
        cases refused
    · rw [claimed] at step
      obtain rfl := Option.some.inj step
      have slot : Retallied canaries.registry (canaries.registry.store key
          { entry with canaryClaimed := true, due := false }) key := by
        cases admitted with
        | stale entry resident newer => exact absurd rfl accepted
        | seeded order accepted older => exact retallied_zero rfl
        | current entry resident same => exact retallied_kept resident rfl rfl
      have touched := charged.touched (local_store _ key _) slot rfl
      exact ⟨touched.counts, touched.unvouched, touched.uncharged, touched.once, touched.proper,
        touched.known, touched.total⟩
  | beginModifiedRequest key incarnation => exact begin_charged charged step
  | dropRequest position =>
    obtain ⟨request, present, rfl⟩ := Option.map_eq_some_iff.mp step
    have isLocal := endModifiedRequest_local canaries.registry request.key request.incarnation
    have slot : Retallied canaries.registry
        (canaries.registry.endModifiedRequest request.key request.incarnation) request.key ∧
        (canaries.registry.endModifiedRequest request.key
          request.incarnation).disprovedRequestsTotal =
            canaries.registry.disprovedRequestsTotal := by
      rcases endModifiedRequest_cases canaries.registry request.key request.incarnation with
        ⟨-, unchanged⟩ | ⟨entry, held, same, stored⟩
      · rw [unchanged]
        exact ⟨retallied_refl _ _, rfl⟩
      · rw [stored]
        exact ⟨retallied_kept held rfl rfl, rfl⟩
    have touched := charged.touched isLocal slot.1 slot.2
    exact ⟨touched.counts, touched.unvouched, touched.uncharged, touched.once, touched.proper,
      touched.known, touched.total⟩
  | settle position outcome =>
    obtain ⟨claim, present, rfl⟩ := Option.map_eq_some_iff.mp step
    exact (settleCanary_concluded _ _ _ outcome).charged charged
  | settleDisprovedIfCurrent position =>
    obtain ⟨claim, present, rfl⟩ := Option.map_eq_some_iff.mp step
    exact (settleDisprovedIfCurrent_concluded _ _ _).charged charged
  | dropClaim position =>
    obtain ⟨claim, present, rfl⟩ := Option.map_eq_some_iff.mp step
    exact (releaseCanaryClaim_concluded _ _ _).charged charged
  | settleConfirmedAndCarry position minted =>
    obtain ⟨claim, present, rfl⟩ := Option.map_eq_some_iff.mp step
    exact (settleConfirmedAndCarry_concluded _ _ _ minted).charged charged
  | seedFromRebuild key incarnation confirmations dueImmediately =>
    obtain rfl := Option.some.inj step
    refine charged.touched (local_store _ key _) (retallied_zero ?_) rfl
    cases dueImmediately <;> rfl
  | reset key =>
    obtain rfl := Option.some.inj step
    refine charged.touched ?_ (.inl ?_) rfl
    · intro other different
      exact AList.lookup_erase_ne different
    · simp [Canaries.tally, FieldCanaryRegistry.reset]

end Steps

/-! One canary an identity and exact exposure, over every run that never opens a slot
at an incarnation a live guard still names; and the run that does. -/

/-- What the guards and the alarm are to agree on at every instant. -/
structure Canaries.Accounted (canaries : Canaries) : Prop where
  single : ∀ key entry, canaries.registry.states.lookup key = some entry →
    canaries.claims.count ⟨key, entry.incarnation⟩ ≤ 1
  outstanding : ∀ key entry, canaries.registry.states.lookup key = some entry →
    entry.outstanding = canaries.requests.count ⟨key, entry.incarnation⟩
  once : (canaries.charged.map Charge.request).Nodup
  unvouched : ∀ charge ∈ canaries.charged, charge.vouched = false
  total : canaries.registry.disprovedRequestsTotal = canaries.charged.length % 2 ^ 64

theorem initial_charged : Canaries.initial.Charged where
  counts := ⟨fun _ => Nat.zero_le _, by simp [Canaries.initial], fun _ => List.nodup_nil⟩
  unvouched := by simp [Canaries.initial]
  uncharged := by simp [Canaries.initial]
  once := List.nodup_nil
  proper := by simp [Canaries.initial]
  known := by simp [Canaries.initial]
  total := rfl

/-- Where no step forgets a live guard, one canary at most runs for the resident
incarnation and its in-flight count is exact; and no request is charged twice, or
after a confirmation vouched for it. -/
theorem single_canary_and_exposure {actions : List CanaryAction} {canaries : Canaries}
    (unforgetting : Canaries.machine.AllSteps Canaries.Unforgetting .initial actions)
    (reached : Canaries.machine.run .initial actions = some canaries) : canaries.Accounted := by
  have charged : canaries.Charged := step_charged.run _ initial_charged reached
  have live : canaries.Live := by
    refine unforgetting.run _ ?_ ?_ reached
    · intro state action next kept guarded step
      exact step_live kept guarded step
    · intro key entry resident
      simp [Canaries.initial, FieldCanaryRegistry.new] at resident
  constructor
  · intro key entry resident
    rw [(live key entry resident).claims]
    exact Bool.toNat_le _
  · exact fun key entry resident => (live key entry resident).requests
  · exact charged.once
  · exact fun charge present => (charged.proper charge present).1
  · exact charged.total

section Runs

def sampling : FieldVerdictKey := ⟨"lane", "field:output_config", "anthropic"⟩

def canariesAfter (actions : List CanaryAction) : Canaries :=
  (Canaries.machine.run .initial actions).getD .initial

/-- A confirmed canary carries the identity on, a later one disproves it, and the
identity is dropped and learned anew. -/
def carriedThenDisproved : List CanaryAction :=
  [.beginModifiedRequest sampling 5, .claimCanary sampling 5, .settleConfirmedAndCarry 0 6,
    .beginModifiedRequest sampling 6, .claimCanary sampling 6, .dropRequest 0,
    .settleDisprovedIfCurrent 0, .reset sampling, .beginModifiedRequest sampling 7]

theorem single_canary_and_exposure_carried :
    (canariesAfter carriedThenDisproved).Accounted ∧
      (canariesAfter carriedThenDisproved).charged = [⟨1, false⟩] := by
  have reached : Canaries.machine.run .initial carriedThenDisproved =
      some (canariesAfter carriedThenDisproved) := rfl
  refine ⟨single_canary_and_exposure ?_ reached, rfl⟩
  decide

/-- Two requests find the identity due; the first claims its canary, the slot is
dropped under it, and the second claims at the incarnation it read before. -/
def claimedAcrossReset : List CanaryAction :=
  [.seedFromRebuild sampling 5 3 true, .tickCadence sampling 5, .tickCadence sampling 5,
    .claimCanary sampling 5, .reset sampling, .claimCanary sampling 5]

theorem canary_claimed_twice :
    ¬∀ actions canaries, Canaries.machine.run .initial actions = some canaries →
      canaries.Accounted := by
  intro accounted
  have reached : Canaries.machine.run .initial claimedAcrossReset =
      some (canariesAfter claimedAcrossReset) := rfl
  have single := (accounted _ _ reached).single sampling
    { CanaryState.fresh 5 0 with canaryClaimed := true } rfl
  exact absurd single (by decide)

end Runs

end Routectl.Canary
