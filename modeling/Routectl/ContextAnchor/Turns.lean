import Routectl.ContextAnchor.Store
import Routectl.Library.Transition

/-! One store under any traffic: turns reserved, records read, tickets settled in any order
or dropped. What was published for a key never goes back. -/
namespace Routectl.ContextAnchor
open Library

/-- The store, the tickets that are out, and what has happened: the turns published by key,
and those of evicted records. -/
structure World where
  store : ContextAnchorStore := {}
  outstanding : List TurnTicket := []
  published : List (AnchorKey × Nat) := []
  evicted : List Nat := []

inductive Label where
  | reserve (key : AnchorKey)
  | read (key : AnchorKey)
  | settle (ticket : TurnTicket) (identity : RequestIdentity) (outcome : TurnOutcome)
  | drop (ticket : TurnTicket)

/-- The turns of the records that are gone from a map. -/
def leaving (before after : KeyedMap AnchorKey AnchorRecord) : List Nat :=
  (before.entries.filter fun entry => entry.1 ∉ after).map fun entry => entry.2.turn

def World.settle (world : World) (ticket : TurnTicket) (identity : RequestIdentity)
    (outcome : TurnOutcome) : World :=
  let (store, result) := world.store.settle ticket identity outcome
  { store
    outstanding := world.outstanding.erase ticket
    published :=
      if result = .published then world.published ++ [(ticket.key, ticket.turn)]
      else world.published
    evicted := world.evicted ++ leaving world.store.records store.records }

/-- A ticket is settled or dropped by its owner, once. -/
def World.step (world : World) : Label → Option World
  | .reserve key =>
    let (store, ticket) := world.store.reserveTurn key
    some { world with store, outstanding := world.outstanding ++ [ticket] }
  | .read key => some { world with store := (world.store.get key).1 }
  | .settle ticket identity outcome =>
    if ticket ∈ world.outstanding then some (world.settle ticket identity outcome) else none
  | .drop ticket =>
    if ticket ∈ world.outstanding then
      some { world with outstanding := world.outstanding.erase ticket }
    else none

def machine : Machine World Label := ⟨World.step⟩

section Order
variable {world next : World} {store : ContextAnchorStore} {key : AnchorKey} {turn : Nat}

/-- The resident record of a key has its newest published turn, and the mark covers the
turns of keys that are forgotten and no others. -/
structure Ordered (world : World) : Prop where
  latest : ∀ key record, world.store.records.lookup key = some record →
    (key, record.turn) ∈ world.published ∧
      ∀ turn, (key, turn) ∈ world.published → turn ≤ record.turn
  forgotten : ∀ key turn, (key, turn) ∈ world.published → world.store.records.lookup key = none →
    ∃ through, world.store.evictedThrough = some through ∧ turn ≤ through
  marked : ∀ through, world.store.evictedThrough = some through → through ∈ world.evicted

theorem mem_leaving {before after : KeyedMap AnchorKey AnchorRecord} {held : AnchorRecord}
    (resident : before.lookup key = some held) (gone : after.lookup key = none) :
    held.turn ∈ leaving before after := by
  apply List.mem_map.mpr
  refine ⟨⟨key, held⟩, List.mem_filter.mpr ⟨AList.mem_lookup_iff.mp resident, ?_⟩, rfl⟩
  simpa using AList.lookup_eq_none.mp gone

theorem ordered_new : Ordered {} where
  latest := fun _ _ found => nomatch found
  forgotten := fun _ _ published => nomatch published
  marked := fun _ marked => nomatch marked

/-- A turn that is let through is newer than all that was published under its key. -/
theorem Ordered.newest (ordered : Ordered world)
    (allowed : (world.store.newerHeld key turn || world.store.maybeNewerEvicted turn) = false) :
    ∀ earlier, (key, earlier) ∈ world.published → earlier ≤ turn := by
  obtain ⟨held, evicted⟩ := Bool.or_eq_false_iff.mp allowed
  unfold ContextAnchorStore.newerHeld at held
  unfold ContextAnchorStore.maybeNewerEvicted at evicted
  intro earlier published
  cases resident : world.store.records.lookup key with
  | some record =>
    have newest := (ordered.latest key record resident).2 earlier published
    rw [resident] at held
    have within : ¬ turn < record.turn := by simpa using held
    omega
  | none =>
    obtain ⟨through, mark, below⟩ := ordered.forgotten key earlier published resident
    rw [mark] at evicted
    have above : ¬ turn ≤ through := by simpa using evicted
    omega

/-- What is published stays in order. -/
theorem Ordered.publishes {record : AnchorRecord} {store : ContextAnchorStore}
    {outstanding : List TurnTicket} (ordered : Ordered world)
    (allowed : (world.store.newerHeld key record.turn ||
      world.store.maybeNewerEvicted record.turn) = false)
    (publishes : Publishes world.store key record store) :
    Ordered
      { store
        outstanding
        published := world.published ++ [(key, record.turn)]
        evicted := world.evicted ++ leaving world.store.records store.records } where
  latest := by
    intro other held found
    dsimp only at found ⊢
    by_cases own : other = key
    · subst own
      obtain rfl := Option.some.inj (publishes.written.symm.trans found)
      refine ⟨List.mem_append_right _ (List.mem_cons_self ..), ?_⟩
      intro turn published
      rcases List.mem_append.mp published with earlier | newest
      · exact ordered.newest allowed turn earlier
      · exact Nat.le_of_eq (Prod.mk.inj (List.mem_singleton.mp newest)).2
    · rcases publishes.others other own with kept | ⟨_, _, _, gone, _, _⟩
      · rw [kept] at found
        obtain ⟨carried, newest⟩ := ordered.latest other held found
        refine ⟨List.mem_append_left _ carried, ?_⟩
        intro turn published
        rcases List.mem_append.mp published with earlier | written
        · exact newest turn earlier
        · exact absurd (Prod.mk.inj (List.mem_singleton.mp written)).1 own
      · rw [gone] at found
        cases found
  forgotten := by
    intro other turn published missing
    dsimp only at published missing ⊢
    have different : other ≠ key := by
      rintro rfl
      rw [publishes.written] at missing
      cases missing
    have before : (other, turn) ∈ world.published := by
      rcases List.mem_append.mp published with earlier | written
      · exact earlier
      · exact absurd (Prod.mk.inj (List.mem_singleton.mp written)).1 different
    rcases publishes.others other different with kept | ⟨held, through, resident, _, mark, below⟩
    · rw [kept] at missing
      obtain ⟨through, mark, below⟩ := ordered.forgotten other turn before missing
      obtain ⟨higher, raised, le⟩ := publishes.raised through mark
      exact ⟨higher, raised, below.trans le⟩
    · exact ⟨through, mark, ((ordered.latest other held resident).2 turn before).trans below⟩
  marked := by
    intro through mark
    rcases publishes.marked through mark with before | ⟨other, held, resident, gone, rfl⟩
    · exact List.mem_append_left _ (ordered.marked through before)
    · exact List.mem_append_right _ (mem_leaving resident gone)

theorem leaving_self (records : KeyedMap AnchorKey AnchorRecord) : leaving records records = [] := by
  unfold leaving
  rw [List.map_eq_nil_iff, List.filter_eq_nil_iff]
  intro entry member
  have inside : entry.1 ∈ records := AList.mem_keys.mpr (List.mem_map_of_mem member)
  simp [inside]

theorem Ordered.settle (ordered : Ordered world) (ticket : TurnTicket)
    (identity : RequestIdentity) (outcome : TurnOutcome) :
    Ordered (world.settle ticket identity outcome) := by
  have unchanged : Ordered { world with outstanding := world.outstanding.erase ticket } :=
    ⟨ordered.latest, ordered.forgotten, ordered.marked⟩
  unfold World.settle ContextAnchorStore.settle
  cases measured : measuredRecord identity ticket.turn outcome with
  | none =>
    dsimp only
    rw [leaving_self, List.append_nil]
    exact unchanged
  | some record =>
    have same := measuredRecord_turn measured
    dsimp only
    rcases publish_cases world.store ticket.key record with
      ⟨_, refused⟩ | ⟨next, allowed, published, publishes⟩
    · rw [refused, leaving_self, List.append_nil]
      exact unchanged
    · rw [published]
      have kept := @Ordered.publishes world ticket.key record next
        (world.outstanding.erase ticket) ordered allowed publishes
      rw [same] at kept
      exact kept

theorem ordered_preserves : machine.Preserves Ordered := by
  intro world label next ordered step
  cases label with
  | reserve key =>
    cases step
    exact ⟨ordered.latest, ordered.forgotten, ordered.marked⟩
  | read key =>
    cases step
    have same (other : AnchorKey) : (world.store.get key).1.records.lookup other =
        world.store.records.lookup other := LruCache.lookup_get key other world.store.records
    constructor
    case latest =>
      intro other record found
      exact ordered.latest other record ((same other).symm.trans found)
    case forgotten =>
      intro other turn published missing
      exact ordered.forgotten other turn published ((same other).symm.trans missing)
    case marked => exact ordered.marked
  | settle ticket identity outcome =>
    change (if ticket ∈ world.outstanding then _ else _) = _ at step
    split at step
    case isTrue =>
      cases step
      exact ordered.settle ticket identity outcome
    case isFalse => cases step
  | drop ticket =>
    change (if ticket ∈ world.outstanding then _ else _) = _ at step
    split at step
    case isTrue =>
      cases step
      exact ⟨ordered.latest, ordered.forgotten, ordered.marked⟩
    case isFalse => cases step

end Order

section Settling
variable {labels : List Label} {world : World}

/-- What settling a ticket does, whenever and wherever it is settled. -/
structure Settles (world : World) (ticket : TurnTicket) (identity : RequestIdentity)
    (outcome : TurnOutcome) : Prop where
  newest : (world.store.settle ticket identity outcome).2 = .published →
    ∀ turn, (ticket.key, turn) ∈ world.published → turn ≤ ticket.turn
  unchanged : (world.store.settle ticket identity outcome).2 ≠ .published →
    (world.store.settle ticket identity outcome).1 = world.store
  accepted : (measuredRecord identity ticket.turn outcome).isSome →
    (∀ turn ∈ world.evicted, turn < ticket.turn) →
    (∀ held, world.store.records.lookup ticket.key = some held → held.turn < ticket.turn) →
    (world.store.settle ticket identity outcome).2 = .published

theorem Ordered.settles (ordered : Ordered world) (ticket : TurnTicket)
    (identity : RequestIdentity) (outcome : TurnOutcome) : Settles world ticket identity outcome := by
  cases measured : measuredRecord identity ticket.turn outcome with
  | none =>
    have settled : world.store.settle ticket identity outcome = (world.store, .notPublished) := by
      rw [ContextAnchorStore.settle, measured]
    constructor
    case newest => exact fun published => by rw [settled] at published; cases published
    case unchanged => exact fun _ => by rw [settled]
    case accepted => exact fun some => by rw [measured] at some; cases some
  | some record =>
    have same := measuredRecord_turn measured
    have settled : world.store.settle ticket identity outcome =
        world.store.publish ticket.key record := by
      rw [ContextAnchorStore.settle, measured]
    rcases publish_cases world.store ticket.key record with
      ⟨refused, superseded⟩ | ⟨next, allowed, published, _⟩
    · rw [superseded] at settled
      constructor
      case newest => exact fun published => by rw [settled] at published; cases published
      case unchanged => exact fun _ => by rw [settled]
      case accepted =>
        intro _ evicted held
        rw [same] at refused
        rcases Bool.or_eq_true_iff.mp refused with newer | forgotten
        · obtain ⟨record, resident, above⟩ := (Option.any_eq_true _ _).mp newer
          have below := held record resident
          have above := of_decide_eq_true above
          omega
        · obtain ⟨through, mark, above⟩ := (Option.any_eq_true _ _).mp forgotten
          have below := evicted through (ordered.marked through mark)
          have above := of_decide_eq_true above
          omega
    · rw [published] at settled
      rw [same] at allowed
      constructor
      case newest => exact fun _ => ordered.newest allowed
      case unchanged => exact fun other => absurd (congrArg Prod.snd settled) other
      case accepted => exact fun _ _ _ => congrArg Prod.snd settled

/-- Anchor turns never go backwards, in any run from an empty store. -/
theorem turns_monotone (reached : machine.run {} labels = some world) :
    (∀ ticket identity outcome, Settles world ticket identity outcome) ∧
      ∀ key record, world.store.records.lookup key = some record →
        (key, record.turn) ∈ world.published ∧
          ∀ turn, (key, turn) ∈ world.published → turn ≤ record.turn := by
  have ordered := ordered_preserves.run machine ordered_new reached
  exact ⟨ordered.settles, ordered.latest⟩

def quietLane : AnchorLane := ⟨"openai-compat", "glm", "glm-4.6", 1⟩

def quietIdentity : RequestIdentity :=
  ⟨1, some (List.Vector.replicate 32 0), none, 8, 2⟩

def quietKey : AnchorKey := ⟨"session", "model", by decide, by decide⟩

/-- Two turns of a key, the newer one settled first. -/
theorem late_settlement_superseded :
    let labels : List Label := [.reserve quietKey, .reserve quietKey,
      .settle ⟨quietKey, 1⟩ quietIdentity (.completed quietLane (some 9))]
    ∃ world, machine.run {} labels = some world ∧
      (world.store.settle ⟨quietKey, 0⟩ quietIdentity (.completed quietLane (some 9))).2 =
        .superseded ∧
      (∀ ticket identity outcome, Settles world ticket identity outcome) ∧
      ∀ key record, world.store.records.lookup key = some record →
        (key, record.turn) ∈ world.published ∧
          ∀ turn, (key, turn) ∈ world.published → turn ≤ record.turn := by
  intro labels
  refine ⟨_, rfl, rfl, ?_⟩
  exact @turns_monotone labels _ rfl

end Settling
end Routectl.ContextAnchor
