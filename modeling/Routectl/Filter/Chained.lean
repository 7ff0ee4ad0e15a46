import Routectl.Filter.Sorting

/-! The consults of a whole chain: every one starts from the slots the reads before it
have left, and the slots claimed are the ones admitted. -/
namespace Routectl.Filter
open Routectl.Core Routectl.Registry Library

section Origin
variable {router : Router} {features : List String} {origin base : LearnedCapabilityRegistry}
  {earlier : List SlotRead}

private theorem reads_readBy (read : ReadBy earlier origin base) :
    reads router base = reads router origin := by
  funext target providerKind feature
  unfold reads
  rw [router.reaches_readBy origin _ _ _ read]

private theorem readsOf_readBy (read : ReadBy earlier origin base) :
    readsOf router base = readsOf router origin := by
  funext target providerKind now features
  unfold readsOf
  rw [reads_readBy read]

private theorem targetReads_readBy (read : ReadBy earlier origin base) :
    targetReads router features base = targetReads router features origin := by
  funext slated
  unfold targetReads
  rw [readsOf_readBy read]

private theorem refused_readBy (read : ReadBy earlier origin base) :
    Refused router base = Refused router origin := by
  funext target providerKind now slots before feature phase
  unfold Refused
  rw [readsOf_readBy read, reads_readBy read]

private theorem stripsAt_readBy (read : ReadBy earlier origin base) :
    StripsAt router base = StripsAt router origin := by
  funext target providerKind now slots before feature
  unfold StripsAt
  rw [refused_readBy read]

private theorem routedAway_readBy (read : ReadBy earlier origin base) :
    RoutedAway router features base = RoutedAway router features origin := by
  funext slots slated providerKind
  unfold RoutedAway RoutesAwayAt
  rw [refused_readBy read]

private theorem priorFlagged_readBy (read : ReadBy earlier origin base) :
    PriorFlagged router base = PriorFlagged router origin := by
  funext slots slated providerKind feature
  unfold PriorFlagged
  rw [reads_readBy read, router.isVerifiedWorkingOrFalse_readBy origin _ _ _ read]

/-- A consult in mid-chain, read off the registry the chain started from. -/
theorem ConsultOf.of_readBy {slots : RegistryKey → Option LearnedEntry} {slated : Slated}
    {start : LearnedCapabilityRegistry} {consulted : Consulted}
    (read : ReadBy earlier origin base)
    (consult : ConsultOf router features base slots slated start consulted) :
    ConsultOf router features origin slots slated start consulted where
  readBy := targetReads_readBy read ▸ consult.readBy
  dropped := consult.dropped
  learned := routedAway_readBy read ▸ consult.learned
  kept := by
    rw [← routedAway_readBy read, ← priorFlagged_readBy read]
    exact consult.kept
  stripped := by
    rw [← routedAway_readBy read, ← stripsAt_readBy read]
    exact consult.stripped
  granted := consult.granted
  distinct := consult.distinct
  admitted := targetReads_readBy read ▸ consult.admitted

end Origin

section Chain
variable (router : Router) (features : List String)

abbrev Ruling := Slated × Consulted

/-- What the loop decides for each target of the chain, in chain order. -/
def rulings (registry : LearnedCapabilityRegistry) : List Slated → List Ruling
  | [] => []
  | slated :: later =>
    let consulted :=
      unsupportedFeatureForTarget router slated.target registry slated.now features []
    (slated, consulted) :: rulings consulted.registry later

def registryAfter (registry : LearnedCapabilityRegistry) : List Slated → LearnedCapabilityRegistry
  | [] => registry
  | slated :: later =>
    registryAfter
      (unsupportedFeatureForTarget router slated.target registry slated.now features []).registry
      later

def chainReads (registry : LearnedCapabilityRegistry) (chain : List Slated) : List SlotRead :=
  chain.flatMap (targetReads router features registry)

/-- The slots a target finds when the ones before it have been consulted. -/
def slotsAfter (registry : LearnedCapabilityRegistry) (earlier : List Slated)
    (key : RegistryKey) : Option LearnedEntry :=
  slotAfter (chainReads router features registry earlier) key (registry.entries.lookup key)

variable {router features} {origin base : LearnedCapabilityRegistry} {chain front : List Slated}

theorem rulings_slated (registry : LearnedCapabilityRegistry) (chain : List Slated) :
    (rulings router features registry chain).map Prod.fst = chain := by
  induction chain generalizing registry with
  | nil => rfl
  | cons slated later ih => simp [rulings, ih]

theorem chainReads_snoc (registry : LearnedCapabilityRegistry) (slated : Slated) :
    chainReads router features registry (front ++ [slated]) =
      chainReads router features registry front ++ targetReads router features registry slated := by
  simp [chainReads]

private theorem consult_in_chain
    (read : ReadBy (chainReads router features origin front) origin base) (slated : Slated) :
    ConsultOf router features origin (slotsAfter router features origin front) slated base
      (unsupportedFeatureForTarget router slated.target base slated.now features []) := by
  have slots : (fun key => base.entries.lookup key) = slotsAfter router features origin front := by
    funext key
    exact read.slots key
  exact (slots ▸ unsupportedFeatureForTarget_consultOf).of_readBy read

private theorem readBy_snoc
    (read : ReadBy (chainReads router features origin front) origin base) (slated : Slated) :
    ReadBy (chainReads router features origin (front ++ [slated])) origin
      (unsupportedFeatureForTarget router slated.target base slated.now features []).registry := by
  rw [chainReads_snoc]
  exact read.trans (consult_in_chain read slated).readBy

private theorem readBy_after (read : ReadBy (chainReads router features origin front) origin base) :
    ReadBy (chainReads router features origin (front ++ chain)) origin
      (registryAfter router features base chain) := by
  induction chain generalizing front base with
  | nil => simpa [registryAfter] using read
  | cons slated later ih =>
    rw [registryAfter, List.append_cons]
    exact ih (readBy_snoc read slated)

theorem registryAfter_readBy (registry : LearnedCapabilityRegistry) (chain : List Slated) :
    ReadBy (chainReads router features registry chain) registry
      (registryAfter router features registry chain) := by
  have started : ReadBy (chainReads router features registry []) registry registry :=
    ReadBy.refl registry
  exact readBy_after started

private theorem ruling_from (read : ReadBy (chainReads router features origin front) origin base)
    {ruling : Ruling} (member : ruling ∈ rulings router features base chain) :
    ∃ earlier later start, chain = earlier ++ ruling.1 :: later ∧
      ConsultOf router features origin (slotsAfter router features origin (front ++ earlier))
        ruling.1 start ruling.2 := by
  induction chain generalizing front base with
  | nil => cases member
  | cons slated rest ih =>
    rcases List.mem_cons.mp member with rfl | later
    · exact ⟨[], rest, base, rfl, by simpa using consult_in_chain read slated⟩
    · obtain ⟨earlier, after, start, rfl, consult⟩ := ih (readBy_snoc read slated) later
      exact ⟨slated :: earlier, after, start, rfl, by simpa using consult⟩

/-- Every ruling is a consult from the slots the earlier targets left. -/
theorem consultOf_ruling {registry : LearnedCapabilityRegistry} {ruling : Ruling}
    (member : ruling ∈ rulings router features registry chain) :
    ∃ earlier later start, chain = earlier ++ ruling.1 :: later ∧
      ConsultOf router features registry (slotsAfter router features registry earlier)
        ruling.1 start ruling.2 := by
  have started : ReadBy (chainReads router features registry []) registry registry :=
    ReadBy.refl registry
  exact ruling_from started member

theorem exists_ruling {registry : LearnedCapabilityRegistry} {earlier later : List Slated}
    {slated : Slated} (split : chain = earlier ++ slated :: later) :
    ∃ consulted start, (slated, consulted) ∈ rulings router features registry chain ∧
      ConsultOf router features registry (slotsAfter router features registry earlier)
        slated start consulted := by
  subst split
  have started : ReadBy (chainReads router features registry []) registry registry :=
    ReadBy.refl registry
  suffices located : ∀ front base,
      ReadBy (chainReads router features registry front) registry base →
        ∃ consulted start,
          (slated, consulted) ∈ rulings router features base (earlier ++ slated :: later) ∧
            ConsultOf router features registry
              (slotsAfter router features registry (front ++ earlier)) slated start consulted from
    located [] registry started
  induction earlier with
  | nil =>
    intro front base read
    refine ⟨_, base, List.mem_cons_self, ?_⟩
    rw [List.append_nil]
    exact consult_in_chain read slated
  | cons first rest ih =>
    intro front base read
    obtain ⟨consulted, start, member, consult⟩ := ih _ _ (readBy_snoc read first)
    refine ⟨consulted, start, List.mem_cons_of_mem _ member, ?_⟩
    rw [List.append_assoc] at consult
    exact consult

end Chain

/-- The slot was free before and is claimed after. -/
def Claimed (before after : Option LearnedEntry) : Prop :=
  ∃ entry, before = some entry ∧ entry.inFlight = false ∧
    after = some { entry with inFlight := true }

section Claims
variable {reads later : List SlotRead} {key : RegistryKey} {slot : Option LearnedEntry} {now : Nat}

theorem Claimed.ne {before after : Option LearnedEntry} (claimed : Claimed before after) :
    after ≠ before := by
  obtain ⟨entry, rfl, free, rfl⟩ := claimed
  intro same
  have inFlight := congrArg LearnedEntry.inFlight (Option.some.inj same)
  simp [free] at inFlight

/-- A slot claimed once is not claimed again. -/
theorem claimed_append :
    (Claimed slot (slotAfter (reads ++ later) key slot) ↔
      Claimed slot (slotAfter reads key slot) ∨
        Claimed (slotAfter reads key slot)
          (slotAfter later key (slotAfter reads key slot))) ∧
      ¬(Claimed slot (slotAfter reads key slot) ∧
        Claimed (slotAfter reads key slot)
          (slotAfter later key (slotAfter reads key slot))) := by
  rw [slotAfter_append]
  rcases slotAfter_cases reads key slot with kept | ⟨entry, rfl, free, claimed⟩
  · rw [kept]
    have unclaimed : ¬Claimed slot slot := fun claimed => claimed.ne rfl
    simp [unclaimed]
  · rw [claimed]
    have first : Claimed (some entry) (some { entry with inFlight := true }) :=
      ⟨entry, rfl, free, rfl⟩
    have taken (after : Option LearnedEntry) :
        ¬Claimed (some { entry with inFlight := true }) after := by
      rintro ⟨other, found, free', -⟩
      obtain rfl := Option.some.inj found
      cases free'
    rcases slotAfter_cases later key (some { entry with inFlight := true }) with
      kept | ⟨other, found, free', -⟩
    · rw [kept]
      simp [first, taken]
    · obtain rfl := Option.some.inj found
      cases free'

/-- Reads at one instant claim the slots that are due. -/
theorem claimed_instant (instant : ∀ read ∈ reads, read.now = now) :
    Claimed slot (slotAfter reads key slot) ↔
      key ∈ reads.map SlotRead.key ∧ slot.any (·.probeDue now) = true := by
  rw [slotAfter_instant instant]
  have unclaimed : ¬Claimed slot slot := fun claimed => claimed.ne rfl
  split
  · rename_i member
    simp only [member, true_and]
    rcases claimSlot_cases slot now with ⟨kept, undue⟩ | ⟨entry, rfl, due, claimed⟩
    · rw [kept, undue]
      simp [unclaimed]
    · rw [claimed]
      have free := not_inFlight_of_due due
      simp only [Option.any_some, due, iff_true]
      exact ⟨entry, rfl, free, rfl⟩
  · rename_i fresh
    simp [unclaimed, fresh]

private theorem targetReads_now {router : Router} {features : List String}
    {registry : LearnedCapabilityRegistry} {slated : Slated} :
    ∀ read ∈ targetReads router features registry slated, read.now = slated.now := by
  unfold targetReads
  split
  · exact readsOf_now features
  · simp

/-- The admissions of a chain's rulings are the slots its reads claimed, each once. -/
theorem rulings_admitted {router : Router} {features : List String}
    (registry : LearnedCapabilityRegistry) (chain : List Slated) :
    (((rulings router features registry chain).flatMap fun ruling => ruling.2.admissions).map
        ProbeAdmission.key).Nodup ∧
      ∀ key, key ∈ ((rulings router features registry chain).flatMap fun ruling =>
          ruling.2.admissions).map ProbeAdmission.key ↔
        Claimed (registry.entries.lookup key)
          ((registryAfter router features registry chain).entries.lookup key) := by
  induction chain generalizing registry with
  | nil =>
    refine ⟨List.nodup_nil, fun key => ?_⟩
    have unclaimed : ¬Claimed (registry.entries.lookup key) (registry.entries.lookup key) :=
      fun claimed => claimed.ne rfl
    simp [rulings, registryAfter, unclaimed]
  | cons slated later ih =>
    have consult : ConsultOf router features registry (fun key => registry.entries.lookup key)
      slated registry (unsupportedFeatureForTarget router slated.target registry slated.now
        features []) := unsupportedFeatureForTarget_consultOf
    rw [rulings, registryAfter, List.flatMap_cons, List.map_append]
    obtain ⟨distinct, claimed⟩ := ih (unsupportedFeatureForTarget router slated.target registry
      slated.now features []).registry
    have after := @registryAfter_readBy router features
      (unsupportedFeatureForTarget router slated.target registry slated.now features []).registry
      later
    have here (key : RegistryKey) :
        key ∈ (unsupportedFeatureForTarget router slated.target registry slated.now features
          []).admissions.map ProbeAdmission.key ↔
            Claimed (registry.entries.lookup key) (slotAfter
              (targetReads router features registry slated) key (registry.entries.lookup key)) := by
      rw [consult.admitted, claimed_instant targetReads_now]
      rfl
    simp only [after.slots, consult.readBy.slots] at claimed ⊢
    have both (key : RegistryKey) := @claimed_append
      (targetReads router features registry slated)
      (chainReads router features (unsupportedFeatureForTarget router slated.target
        registry slated.now features []).registry later)
      key (registry.entries.lookup key)
    constructor
    · rw [List.nodup_append']
      refine ⟨consult.distinct, distinct, ?_⟩
      intro key first second
      exact (both key).2 ⟨(here key).mp first, (claimed key).mp second⟩
    · intro key
      rw [List.mem_append, here, claimed, ← slotAfter_append, (both key).1, slotAfter_append]

end Claims
end Routectl.Filter
