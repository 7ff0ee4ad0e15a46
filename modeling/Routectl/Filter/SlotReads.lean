import Routectl.Filter.FeatureFilter

/-! What reading an acting negative does to the slots, one read and any number of reads
after another. -/
namespace Routectl.Filter
open Routectl.Core Routectl.Registry Library

structure SlotRead where
  key : RegistryKey
  now : Nat
deriving Repr, DecidableEq

/-- The phase of the negative that keeps an entry's traffic away. -/
def actingPhase (entry : LearnedEntry) : Option FailurePhase :=
  if entry.isActing then
    match entry.actingDecision with
    | .routeAway _ phase => some phase
    | _ => none
  else none

theorem actingPhase_of_due {entry : LearnedEntry} {now : Nat} (due : entry.probeDue now = true) :
    (actingPhase entry).isSome = true := by
  simp only [LearnedEntry.probeDue, Bool.and_eq_true, decide_eq_true_eq] at due
  obtain ⟨⟨⟨acting, decided⟩, -⟩, -⟩ := due
  have unprobed := entry.actingDecision_ne_probeAdmitted
  unfold actingPhase
  rw [if_pos acting]
  cases decision : entry.actingDecision with
  | allow => exact absurd decision decided
  | routeAway signal phase => rfl
  | probeAdmitted => exact absurd decision unprobed

theorem actingPhase_inFlight (entry : LearnedEntry) (claimed : Bool) :
    actingPhase { entry with inFlight := claimed } = actingPhase entry := rfl

section Slots
variable {reads later : List SlotRead} {key : RegistryKey} {slot : Option LearnedEntry} {now : Nat}

/-- A slot after every read of it claimed what was due. -/
def slotAfter (reads : List SlotRead) (key : RegistryKey) (slot : Option LearnedEntry) :
    Option LearnedEntry :=
  reads.foldl (fun slot read => if read.key = key then claimSlot slot read.now else slot) slot

@[simp] theorem slotAfter_nil : slotAfter [] key slot = slot := rfl

@[simp] theorem slotAfter_cons (read : SlotRead) :
    slotAfter (read :: reads) key slot =
      slotAfter reads key (if read.key = key then claimSlot slot read.now else slot) := rfl

@[simp] theorem slotAfter_append :
    slotAfter (reads ++ later) key slot = slotAfter later key (slotAfter reads key slot) :=
  List.foldl_append

/-- A read leaves the slot alone, or it was due and is claimed now. -/
theorem claimSlot_cases (slot : Option LearnedEntry) (now : Nat) :
    (claimSlot slot now = slot ∧ slot.any (·.probeDue now) = false) ∨
      ∃ entry, slot = some entry ∧ entry.probeDue now = true ∧
        claimSlot slot now = some { entry with inFlight := true } := by
  cases slot with
  | none => exact .inl ⟨rfl, rfl⟩
  | some entry =>
    cases due : entry.probeDue now with
    | false => exact .inl ⟨by simp [claimSlot, due], by simp [due]⟩
    | true => exact .inr ⟨entry, rfl, due, by simp [claimSlot, due]⟩

theorem probeDue_claimed (entry : LearnedEntry) (now : Nat) :
    ({ entry with inFlight := true } : LearnedEntry).probeDue now = false := by
  simp [LearnedEntry.probeDue]

theorem not_inFlight_of_due {entry : LearnedEntry} (due : entry.probeDue now = true) :
    entry.inFlight = false := by
  simp only [LearnedEntry.probeDue, Bool.and_eq_true] at due
  simpa using due.2

/-- However often it is read, a slot is as it was or has been claimed once. -/
theorem slotAfter_cases (reads : List SlotRead) (key : RegistryKey) (slot : Option LearnedEntry) :
    slotAfter reads key slot = slot ∨
      ∃ entry, slot = some entry ∧ entry.inFlight = false ∧
        slotAfter reads key slot = some { entry with inFlight := true } := by
  induction reads generalizing slot with
  | nil => exact .inl rfl
  | cons read reads ih =>
    rw [slotAfter_cons]
    by_cases same : read.key = key
    · rw [if_pos same]
      rcases claimSlot_cases slot read.now with ⟨kept, -⟩ | ⟨entry, rfl, due, claimed⟩
      · rw [kept]
        exact ih slot
      · refine .inr ⟨entry, rfl, not_inFlight_of_due due, ?_⟩
        rw [claimed]
        rcases ih (some { entry with inFlight := true }) with kept | ⟨other, found, free, -⟩
        · exact kept
        · obtain rfl := Option.some.inj found
          cases free
    · rw [if_neg same]
      exact ih slot

theorem slotAfter_phase (reads : List SlotRead) (key : RegistryKey) (slot : Option LearnedEntry) :
    (slotAfter reads key slot).bind actingPhase = slot.bind actingPhase := by
  rcases slotAfter_cases reads key slot with kept | ⟨entry, rfl, -, claimed⟩
  · rw [kept]
  · rw [claimed]
    exact actingPhase_inFlight entry true

theorem claimSlot_undue (slot : Option LearnedEntry) (now : Nat) :
    (claimSlot slot now).any (·.probeDue now) = false := by
  rcases claimSlot_cases slot now with ⟨kept, undue⟩ | ⟨entry, -, -, claimed⟩
  · rw [kept, undue]
  · rw [claimed]
    exact probeDue_claimed entry now

theorem claimSlot_of_undue (undue : slot.any (·.probeDue now) = false) : claimSlot slot now = slot := by
  rcases claimSlot_cases slot now with ⟨kept, -⟩ | ⟨entry, rfl, due, -⟩
  · exact kept
  · simp [due] at undue

/-- Reads at one instant do to a slot what one read does. -/
theorem slotAfter_instant (instant : ∀ read ∈ reads, read.now = now) :
    slotAfter reads key slot =
      if key ∈ reads.map SlotRead.key then claimSlot slot now else slot := by
  induction reads generalizing slot with
  | nil => rfl
  | cons read reads ih =>
    have later : ∀ read ∈ reads, read.now = now :=
      fun other member => instant other (List.mem_cons_of_mem read member)
    rw [slotAfter_cons, ih later]
    by_cases same : read.key = key
    · rw [if_pos same, instant read (by simp), claimSlot_of_undue (claimSlot_undue slot now)]
      simp [same]
    · simp [same, Ne.symm same]

theorem slotAfter_due (instant : ∀ read ∈ reads, read.now = now) :
    (slotAfter reads key slot).any (·.probeDue now) = true ↔
      slot.any (·.probeDue now) = true ∧ key ∉ reads.map SlotRead.key := by
  rw [slotAfter_instant instant]
  split
  · rename_i member
    simp [claimSlot_undue, member]
  · rename_i fresh
    simp [fresh]

end Slots

/-- Nothing but the slots these reads claimed has changed. -/
structure ReadBy (reads : List SlotRead) (registry after : LearnedCapabilityRegistry) : Prop where
  rest : after = { registry with entries := after.entries }
  slots : ∀ key, after.entries.lookup key = slotAfter reads key (registry.entries.lookup key)

namespace ReadBy
variable {reads later : List SlotRead} {registry middle after : LearnedCapabilityRegistry}

theorem refl (registry : LearnedCapabilityRegistry) : ReadBy [] registry registry where
  rest := rfl
  slots _ := rfl

theorem trans (first : ReadBy reads registry middle) (second : ReadBy later middle after) :
    ReadBy (reads ++ later) registry after where
  rest := by
    rw [second.rest, first.rest]
  slots key := by
    rw [second.slots, first.slots, slotAfter_append]

theorem admits_eq (read : ReadBy reads registry after) (generation : Nat) (feature : String) :
    after.admits generation feature = registry.admits generation feature := by
  rw [read.rest]
  rfl

theorem purgeLeases_eq (read : ReadBy reads registry after) :
    after.purgeLeases = registry.purgeLeases := by
  rw [read.rest]

end ReadBy

/-- What a read of one slot answers. -/
def readDecision (slot : Option LearnedEntry) (now : Nat) : RoutingDecision :=
  match slot with
  | none => .allow
  | some entry =>
    if !entry.isActing then .allow
    else if entry.probeDue now then .probeAdmitted
    else entry.actingDecision

section Decisions
variable {slot : Option LearnedEntry} {now : Nat}

theorem readDecision_allow_iff :
    readDecision slot now = .allow ↔ slot.bind actingPhase = none := by
  cases slot with
  | none => simp [readDecision]
  | some entry =>
    have unprobed := entry.actingDecision_ne_probeAdmitted
    simp only [readDecision, Option.bind_some]
    cases acting : entry.isActing with
    | false => simp [actingPhase, acting]
    | true =>
      cases due : entry.probeDue now with
      | true =>
        have held := actingPhase_of_due due
        simp [Option.isSome_iff_ne_none.mp held]
      | false =>
        cases decision : entry.actingDecision with
        | allow => simp [actingPhase, decision]
        | routeAway signal phase => simp [actingPhase, acting, decision]
        | probeAdmitted => exact absurd decision unprobed

theorem readDecision_probeAdmitted_iff :
    readDecision slot now = .probeAdmitted ↔ slot.any (·.probeDue now) = true := by
  cases slot with
  | none => simp [readDecision]
  | some entry =>
    have unprobed := entry.actingDecision_ne_probeAdmitted
    simp only [readDecision, Option.any_some]
    cases acting : entry.isActing with
    | false => simp [LearnedEntry.probeDue, acting]
    | true => cases due : entry.probeDue now <;> simp [unprobed]

theorem readDecision_routeAway_iff {phase : FailurePhase} :
    (∃ signal, readDecision slot now = .routeAway signal phase) ↔
      slot.bind actingPhase = some phase ∧ slot.any (·.probeDue now) = false := by
  cases slot with
  | none => simp [readDecision]
  | some entry =>
    simp only [readDecision, actingPhase, Option.bind_some, Option.any_some]
    cases entry.isActing <;> cases entry.probeDue now <;> cases entry.actingDecision <;> simp

end Decisions

theorem actingNegativeForIn_decision (entries : Entries) (key : RegistryKey) (now : Nat) :
    (actingNegativeForIn entries key now).2 = readDecision (entries.lookup key) now := by
  unfold actingNegativeForIn readDecision
  cases entries.lookup key with
  | none => rfl
  | some entry =>
    dsimp only
    cases acting : entry.isActing with
    | false => simp
    | true =>
      by_cases allowed : entry.actingDecision = .allow
      · simp [LearnedEntry.probeDue, allowed]
      · cases expired : entry.isExpired now with
        | false => simp [LearnedEntry.probeDue, allowed, expired]
        | true =>
          cases claimed : entry.inFlight with
          | false => simp [LearnedEntry.probeDue, acting, allowed, expired, claimed]
          | true => simp [LearnedEntry.probeDue, allowed, claimed]

namespace Router
variable (router : Router) (registry : LearnedCapabilityRegistry)
  (stateKey feature providerKind : String) (now : Nat)

/-- The read reaches its slot: the generation may act on the key, and no purge holds it. -/
def reaches : Bool :=
  registry.admits router.registryGeneration feature &&
    makeKey stateKey feature providerKind ∉ registry.purgeLeases

theorem actingNegativeWithGeneration_unreached
    (unreached : router.reaches registry stateKey feature providerKind = false) :
    router.actingNegativeWithGeneration registry stateKey feature providerKind now =
      (registry, .allow, router.registryGeneration) := by
  unfold actingNegativeWithGeneration LearnedCapabilityRegistry.actingNegativeInGeneration
    LearnedCapabilityRegistry.guardedRead
  cases admitted : registry.admits router.registryGeneration feature with
  | false => rw [LearnedCapabilityRegistry.guardedKeyed_stale admitted]
  | true =>
    have leased : makeKey stateKey feature providerKind ∈ registry.purgeLeases := by
      simpa [reaches, admitted] using unreached
    rw [LearnedCapabilityRegistry.guardedKeyed_reserved admitted leased]

theorem actingNegativeWithGeneration_reached
    (reached : router.reaches registry stateKey feature providerKind = true) :
    ∃ after, router.actingNegativeWithGeneration registry stateKey feature providerKind now =
        (after, readDecision (registry.entries.lookup (makeKey stateKey feature providerKind)) now,
          registry.effectivePersistenceGeneration) ∧
      ReadBy [⟨makeKey stateKey feature providerKind, now⟩] registry after := by
  simp only [reaches, Bool.and_eq_true, decide_eq_true_eq] at reached
  obtain ⟨admitted, unleased⟩ := reached
  obtain ⟨incarnation, same⟩ := LearnedCapabilityRegistry.guardedKeyed_read (fun entries _ =>
    actingNegativeForIn entries (makeKey stateKey feature providerKind) now) admitted unleased
  refine ⟨{ registry with entries := (actingNegativeForIn registry.entries
    (makeKey stateKey feature providerKind) now).1 }, ?_, ⟨rfl, ?_⟩⟩
  · unfold actingNegativeWithGeneration LearnedCapabilityRegistry.actingNegativeInGeneration
      LearnedCapabilityRegistry.guardedRead
    rw [same, actingNegativeForIn_decision]
  · intro other
    rw [slotAfter_cons, slotAfter_nil]
    by_cases here : makeKey stateKey feature providerKind = other
    · subst here
      rw [if_pos rfl]
      exact (actingNegativeForIn_spec registry.entries ∅ _ now).1
    · rw [if_neg here]
      exact actingNegativeForIn_others (Ne.symm here) now

theorem isVerifiedWorkingOrFalse_eq :
    router.isVerifiedWorkingOrFalse registry stateKey feature providerKind =
      (router.reaches registry stateKey feature providerKind &&
        isVerifiedWorkingIn registry.entries (makeKey stateKey feature providerKind)) := by
  unfold isVerifiedWorkingOrFalse LearnedCapabilityRegistry.isVerifiedWorkingInGeneration
    LearnedCapabilityRegistry.guardedRead
  cases admitted : registry.admits router.registryGeneration feature with
  | false =>
    rw [LearnedCapabilityRegistry.guardedKeyed_stale admitted]
    simp [reaches, admitted]
  | true =>
    by_cases leased : makeKey stateKey feature providerKind ∈ registry.purgeLeases
    · rw [LearnedCapabilityRegistry.guardedKeyed_reserved admitted leased]
      simp [reaches, leased]
    · obtain ⟨incarnation, same⟩ := LearnedCapabilityRegistry.guardedKeyed_read (fun entries _ =>
        (entries, isVerifiedWorkingIn entries (makeKey stateKey feature providerKind)))
        admitted leased
      rw [same]
      simp [reaches, admitted, leased]

theorem reaches_readBy {reads : List SlotRead} {after : LearnedCapabilityRegistry}
    (read : ReadBy reads registry after) :
    router.reaches after stateKey feature providerKind =
      router.reaches registry stateKey feature providerKind := by
  unfold reaches
  rw [read.admits_eq, read.purgeLeases_eq]

/-- Claims do not touch what the registry has verified. -/
theorem isVerifiedWorkingOrFalse_readBy {reads : List SlotRead} {after : LearnedCapabilityRegistry}
    (read : ReadBy reads registry after) :
    router.isVerifiedWorkingOrFalse after stateKey feature providerKind =
      router.isVerifiedWorkingOrFalse registry stateKey feature providerKind := by
  have verified : isVerifiedWorkingIn after.entries (makeKey stateKey feature providerKind) =
      isVerifiedWorkingIn registry.entries (makeKey stateKey feature providerKind) := by
    unfold isVerifiedWorkingIn
    rw [read.slots]
    rcases slotAfter_cases reads (makeKey stateKey feature providerKind)
      (registry.entries.lookup (makeKey stateKey feature providerKind))
      with kept | ⟨entry, found, -, claimed⟩
    · rw [kept]
    · rw [claimed, found]
      rfl
  rw [isVerifiedWorkingOrFalse_eq, isVerifiedWorkingOrFalse_eq, reaches_readBy router registry
    stateKey feature providerKind read, verified]

end Router
end Routectl.Filter
