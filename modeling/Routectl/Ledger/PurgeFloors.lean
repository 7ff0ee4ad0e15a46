import Routectl.Ledger.Plane

/-! A committed purge cannot be undone by what its key emitted before it, and does
not stand in the way of what the key emits after it. -/
namespace Routectl.Ledger
open Routectl.Core Library Registry

namespace Plane
variable {hasher : RegistryKey → Nat → Nat} {plane next : Plane} {action : PlaneAction}

/-- A resident entry carries a number no older than anything its key emitted. -/
structure Dominated (plane : Plane) : Prop where
  entries : ∀ key entry, plane.world.registry.entries.lookup key = some entry →
    entry.incarnation ≤ plane.world.registry.nextIncarnation
  flights : ∀ flight ∈ plane.flights,
    flight.stamp.incarnation ≤ plane.world.registry.nextIncarnation
  resident : ∀ flight ∈ plane.flights, ∀ entry,
    plane.world.registry.entries.lookup flight.event.key = some entry →
      flight.stamp.incarnation ≤ entry.incarnation
  leases : ∀ live ∈ plane.world.leases,
    live.lease.incarnation ≤ plane.world.registry.nextIncarnation
  batches : ∀ batch ∈ plane.batches,
    batch.incarnation ≤ plane.world.registry.nextIncarnation
  floors : ∀ key floor, plane.floor key = some floor →
    floor ≤ plane.world.registry.nextIncarnation

namespace Dominated

theorem initial (decay inferredWindow maxEntries : Nat) :
    Dominated (initial decay inferredWindow maxEntries) := by
  constructor <;> simp [Plane.initial, World.initial, LearnedCapabilityRegistry.new, floor,
    Writer.empty]

/-- Whatever the registry does, its numbers stay ahead. -/
theorem world (dominated : Dominated plane) {moved : World} {action : Action}
    (step : plane.world.step hasher action = some moved) :
    Dominated { plane with world := moved } := by
  obtain ⟨counter, slots⟩ := World.step_advances step
  constructor
  · intro key entry resident
    rcases slots key entry resident with ⟨prior, before, same⟩ | ⟨fresh, now⟩
    · rw [← same]
      exact (dominated.entries key prior before).trans counter
    · rw [fresh, now]
  · intro flight member
    exact (dominated.flights flight member).trans counter
  · intro flight member entry resident
    rcases slots _ entry resident with ⟨prior, before, same⟩ | ⟨fresh, -⟩
    · rw [← same]
      exact dominated.resident flight member prior before
    · rw [fresh]
      exact (dominated.flights flight member).trans (Nat.le_succ _)
  · intro live member
    rcases World.step_leases step live member with ⟨prior, before, same⟩ | ⟨_, _, _, _, _, _, held, _⟩
    · rw [← same]
      exact (dominated.leases prior before).trans counter
    · rw [← live.lease.same]
      exact (dominated.entries _ _ held).trans counter
  · intro batch member
    exact (dominated.batches batch member).trans counter
  · intro key floor found
    exact (dominated.floors key floor found).trans counter

theorem emit {moved : World} {event : CapabilityEvent}
    {stamp : EventStamp}
    (stamped : Stamped plane.world.registry moved.registry event.key stamp)
    (moves : Dominated { plane with world := moved }) :
    Dominated { plane with world := moved, flights := ⟨event, stamp⟩ :: plane.flights } where
  entries := moves.entries
  flights := by
    intro flight member
    rcases List.mem_cons.mp member with rfl | older
    · exact (stamped.fresh.trans stamped.counter.symm).le
    · exact moves.flights flight older
  resident := by
    intro flight member entry resident
    rcases List.mem_cons.mp member with rfl | older
    · exact (stamped.slot entry resident).ge
    · exact moves.resident flight older entry resident
  leases := moves.leases
  batches := moves.batches
  floors := moves.floors

theorem commitBatch (dominated : Dominated plane) {batch : CapabilityBatch} {position : Nat}
    (present : plane.batches[position]? = some batch) (stored : Bool) :
    Dominated { plane with
      writer := (plane.writer.commitCapabilityBatch batch stored).1,
      batches := plane.batches.eraseIdx position } where
  entries := dominated.entries
  flights := dominated.flights
  resident := dominated.resident
  leases := dominated.leases
  batches := fun other member => dominated.batches other (List.mem_of_mem_eraseIdx member)
  floors := by
    intro key floor found
    have low := dominated.batches batch (List.mem_of_getElem? present)
    unfold Plane.floor Writer.commitCapabilityBatch at found
    split at found
    · exact raiseFloors_bound (dominated.floors key) (fun _ => low) found
    · exact dominated.floors key floor found

theorem deliver (dominated : Dominated plane) {flight : Flight} (position : Nat) (stored : Bool) :
    Dominated { plane with
      writer := (plane.writer.persistCapabilityEvent flight.event flight.stamp stored).1,
      flights := plane.flights.eraseIdx position } where
  entries := dominated.entries
  flights := fun other member => dominated.flights other (List.mem_of_mem_eraseIdx member)
  resident := fun other member => dominated.resident other (List.mem_of_mem_eraseIdx member)
  leases := dominated.leases
  batches := dominated.batches
  floors := by
    intro key floor found
    rw [Plane.floor, Writer.persistCapabilityEvent_floors] at found
    exact dominated.floors key floor found

theorem step (dominated : Dominated plane) (step : plane.step hasher action = some next) :
    Dominated next := by
  cases action with
  | registry action =>
    obtain ⟨world, moved, rfl⟩ := step_registry step
    exact dominated.world moved
  | emit action event =>
    obtain ⟨stamp, world, -, moved, stamped, rfl⟩ := step_emit step
    exact emit stamped (dominated.world moved)
  | submitPurge serial now revision =>
    obtain ⟨live, member, -, rfl⟩ := step_submitPurge step
    refine { dominated with batches := ?_ }
    intro batch queued
    rcases List.mem_cons.mp queued with rfl | older
    · exact dominated.leases live member
    · exact dominated.batches batch older
  | submitBoundary now revision queued =>
    obtain ⟨world, moved, same, writer, flights, queue⟩ := step_submitBoundary step
    subst same
    have moves := dominated.world moved
    refine ⟨moves.entries, ?_, ?_, moves.leases, ?_, ?_⟩
    · rw [flights]
      exact moves.flights
    · rw [flights]
      exact moves.resident
    · intro batch member
      rcases queue batch member with older | zero
      · exact moves.batches batch older
      · rw [zero]
        exact Nat.zero_le _
    · unfold Plane.floor
      rw [writer]
      exact moves.floors
  | commitBatch position stored =>
    obtain ⟨batch, present, rfl⟩ := step_commitBatch step
    exact dominated.commitBatch present stored
  | deliver position stored =>
    obtain ⟨flight, present, rfl⟩ := step_deliver step
    exact dominated.deliver position stored

end Dominated

theorem Reachable.dominated (reachable : Reachable hasher plane) : Dominated plane := by
  obtain ⟨decay, inferredWindow, maxEntries, actions, reached⟩ := reachable
  have preserves : (machine hasher).Preserves Dominated :=
    fun _ _ _ dominated step => dominated.step step
  exact preserves.run _ (Dominated.initial decay inferredWindow maxEntries) reached

/-- Everything that could still refuse a number on this key lies below it. -/
structure Clear (key : RegistryKey) (incarnation : Nat) (plane : Plane) : Prop where
  positive : 0 < incarnation
  leases : ∀ live ∈ plane.world.leases, live.lease.key = key →
    live.lease.incarnation < incarnation
  batches : ∀ batch ∈ plane.batches,
    (∃ event ∈ batch.events, event.verdict = Verdict.cleared.asStr ∧ event.key = key) →
      batch.incarnation < incarnation
  floors : ∀ floor, plane.floor key = some floor → floor < incarnation

/-- The step reserves no purge of this key. -/
def Quiet (key : RegistryKey) (plane : Plane) : PlaneAction → Prop
  | .registry (.preparePurge generation stateKey featureKeyRaw providerKind) =>
    makeKey stateKey featureKeyRaw providerKind = key →
      (plane.world.registry.preparePurge generation stateKey featureKeyRaw
        providerKind).2.isReserved = false
  | _ => True

namespace Clear
variable {key : RegistryKey} {incarnation : Nat}

/-- A fresh number is above everything in sight. -/
theorem emitted (dominated : Dominated plane) {action : Action} {event : CapabilityEvent}
    (step : plane.step hasher (.emit action event) = some next) :
    ∃ stamp, next.flights = ⟨event, stamp⟩ :: plane.flights ∧
      plane.world.registry.nextIncarnation < stamp.incarnation ∧
      ∀ key, Clear key stamp.incarnation next := by
  obtain ⟨stamp, world, mutates, moved, stamped, rfl⟩ := step_emit step
  have fresh : plane.world.registry.nextIncarnation < stamp.incarnation :=
    stamped.fresh ▸ Nat.lt_succ_self _
  refine ⟨stamp, rfl, fresh, fun key => ⟨Nat.zero_lt_of_lt fresh, ?_, ?_, ?_⟩⟩
  · intro live member _
    rcases World.step_leases moved live member with ⟨prior, before, same⟩ | ⟨_, _, _, _, prepares, -⟩
    · rw [← same]
      exact (dominated.leases prior before).trans_lt fresh
    · subst prepares
      cases mutates
  · intro batch member _
    exact (dominated.batches batch member).trans_lt fresh
  · intro floor found
    exact (dominated.floors key floor found).trans_lt fresh

theorem world (clear : Clear key incarnation plane) {moved : World} {action : Action}
    (step : plane.world.step hasher action = some moved)
    (quiet : Quiet key plane (.registry action)) :
    ∀ live ∈ moved.leases, live.lease.key = key → live.lease.incarnation < incarnation := by
  intro live member same
  rcases World.step_leases step live member with
    ⟨prior, before, kept⟩ | ⟨_, _, _, _, prepares, reserved, -, made⟩
  · rw [← kept]
    exact clear.leases prior before (by rw [kept, same])
  · subst prepares
    have refused := quiet (made.symm.trans same)
    rw [reserved] at refused
    cases refused

theorem step (clear : Clear key incarnation plane) (quiet : Quiet key plane action)
    (step : plane.step hasher action = some next) : Clear key incarnation next := by
  cases action with
  | registry action =>
    obtain ⟨world, moved, rfl⟩ := step_registry step
    exact { clear with leases := clear.world moved quiet }
  | emit action event =>
    obtain ⟨stamp, world, mutates, moved, -, rfl⟩ := step_emit step
    refine { clear with leases := clear.world moved ?_ }
    cases action with
    | preparePurge generation stateKey featureKeyRaw providerKind => cases mutates
    | _ => trivial
  | submitPurge serial now revision =>
    obtain ⟨live, member, -, rfl⟩ := step_submitPurge step
    refine { clear with batches := ?_ }
    intro batch queued clears
    rcases List.mem_cons.mp queued with rfl | older
    · obtain ⟨event, cleared, -, same⟩ := clears
      obtain rfl := List.mem_singleton.mp cleared
      exact clear.leases live member same
    · exact clear.batches batch older clears
  | submitBoundary now revision queued =>
    obtain ⟨world, moved, same, writer, -, queue⟩ := step_submitBoundary step
    subst same
    refine ⟨clear.positive, clear.world moved trivial, ?_, ?_⟩
    · intro batch member clears
      rcases queue batch member with older | zero
      · exact clear.batches batch older clears
      · rw [zero]
        exact clear.positive
    · unfold Plane.floor
      rw [writer]
      exact clear.floors
  | commitBatch position stored =>
    obtain ⟨batch, present, rfl⟩ := step_commitBatch step
    have own := clear.batches batch (List.mem_of_getElem? present)
    refine ⟨clear.positive, clear.leases, ?_, ?_⟩
    · exact fun other member => clear.batches other (List.mem_of_mem_eraseIdx member)
    · intro floor found
      unfold Plane.floor Writer.commitCapabilityBatch at found
      split at found
      · apply Nat.lt_of_le_pred clear.positive
        exact raiseFloors_bound (fun floor known => Nat.le_pred_of_lt (clear.floors floor known))
          (fun clears => Nat.le_pred_of_lt (own clears)) found
      · exact clear.floors floor found
  | deliver position stored =>
    obtain ⟨flight, present, rfl⟩ := step_deliver step
    refine { clear with floors := ?_ }
    intro floor found
    rw [Plane.floor, Writer.persistCapabilityEvent_floors] at found
    exact clear.floors floor found

/-- A number with nothing at or above it passes the purge floor. -/
theorem passes (clear : Clear key incarnation plane) {flight : Flight}
    (same : flight.event.key = key) (stamp : flight.stamp.incarnation = incarnation) (stored : Bool) :
    (plane.writer.persistCapabilityEvent flight.event flight.stamp stored).2 ≠
      .supersededByPurge := by
  intro superseded
  obtain ⟨-, floor, found, below⟩ := Writer.superseded_iff.mp superseded
  have above := clear.floors floor (same ▸ found)
  omega

end Clear

/-- Floors and numbers never go down, in one step or in a whole run. -/
structure Raises (before after : Plane) : Prop where
  counter : before.world.registry.nextIncarnation ≤ after.world.registry.nextIncarnation
  floors : ∀ key floor, before.floor key = some floor →
    ∃ raised, after.floor key = some raised ∧ floor ≤ raised

theorem Raises.refl (plane : Plane) : Raises plane plane where
  counter := Nat.le_refl _
  floors := fun _ floor found => ⟨floor, found, Nat.le_refl floor⟩

theorem Raises.trans {first second third : Plane} (early : Raises first second)
    (late : Raises second third) : Raises first third where
  counter := early.counter.trans late.counter
  floors := by
    intro key floor found
    obtain ⟨middle, next, below⟩ := early.floors key floor found
    obtain ⟨final, last, above⟩ := late.floors key middle next
    exact ⟨final, last, below.trans above⟩

theorem step_raises (step : plane.step hasher action = some next) : Raises plane next := by
  have kept (key : RegistryKey) (floor : Nat) (found : plane.floor key = some floor) :
      ∃ raised, plane.floor key = some raised ∧ floor ≤ raised := ⟨floor, found, Nat.le_refl floor⟩
  cases action with
  | registry action =>
    obtain ⟨world, moved, rfl⟩ := step_registry step
    exact ⟨(World.step_advances moved).counter, kept⟩
  | emit action event =>
    obtain ⟨stamp, world, -, moved, -, rfl⟩ := step_emit step
    exact ⟨(World.step_advances moved).counter, kept⟩
  | submitPurge serial now revision =>
    obtain ⟨live, member, -, rfl⟩ := step_submitPurge step
    exact ⟨Nat.le_refl _, kept⟩
  | submitBoundary now revision queued =>
    obtain ⟨world, moved, same, writer, -, -⟩ := step_submitBoundary step
    subst same
    refine ⟨(World.step_advances moved).counter, ?_⟩
    unfold Plane.floor
    rw [writer]
    exact kept
  | commitBatch position stored =>
    obtain ⟨batch, present, rfl⟩ := step_commitBatch step
    exact ⟨Nat.le_refl _, fun key floor found => Writer.le_commitCapabilityBatch batch found⟩
  | deliver position stored =>
    obtain ⟨flight, present, rfl⟩ := step_deliver step
    refine ⟨Nat.le_refl _, ?_⟩
    unfold Plane.floor
    rw [Writer.persistCapabilityEvent_floors]
    exact kept

theorem run_raises {actions : List PlaneAction} {final : Plane}
    (reached : (machine hasher).run plane actions = some final) : Raises plane final := by
  have anything : (machine hasher).Preserves fun _ => True := fun _ _ _ _ _ => trivial
  exact anything.run_relates _ Raises.refl (fun _ _ _ => Raises.trans)
    (fun _ _ _ _ step => step_raises step) trivial reached

theorem Reachable.run (reachable : Reachable hasher plane) (actions : List PlaneAction)
    {final : Plane} (reached : (machine hasher).run plane actions = some final) :
    Reachable hasher final := by
  obtain ⟨decay, inferredWindow, maxEntries, earlier, before⟩ := reachable
  exact ⟨decay, inferredWindow, maxEntries, earlier ++ actions,
    (machine hasher).run_append_eq_some.mpr ⟨plane, before, reached⟩⟩

theorem Reachable.step (reachable : Reachable hasher plane)
    (step : plane.step hasher action = some next) : Reachable hasher next :=
  reachable.run [action] (by
    rw [Machine.run_cons]
    simp [machine, step])

section Purge
variable (hasher)

/-- `prepare_purge` returns this lease. -/
def Reserves (plane next : Plane) (live : LiveLease) : Prop :=
  ∃ generation stateKey featureKeyRaw providerKind,
    plane.step hasher (.registry (.preparePurge generation stateKey featureKeyRaw providerKind)) =
      some next ∧ next.world.leases = live :: plane.world.leases

/-- The lease's cleared batch commits. -/
def Commits (plane next : Plane) (lease : PurgeLease) : Prop :=
  ∃ position now revision, plane.batches[position]? = some (purgeBatch lease now revision) ∧
    plane.step hasher (.commitBatch position true) = some next

/-- `finalize_purge` of the lease takes the entries lock. -/
def Finalizes (plane next : Plane) (live : LiveLease) : Prop :=
  plane.world.findLease live.serial = some live ∧
    plane.step hasher (.registry (.finalizeRemove live.serial)) = some next

/-- A mutation sends this event on its way. -/
def Emits (plane next : Plane) (flight : Flight) : Prop :=
  ∃ action, plane.step hasher (.emit action flight.event) = some next ∧
    next.flights = flight :: plane.flights

end Purge

/-- The captured number dominates everything the key emitted before. -/
theorem Reserves.captured {live : LiveLease} (reserves : Reserves hasher plane next live) :
    plane.world.registry.entries.lookup live.lease.key = some live.lease.captured ∧
      live ∈ next.world.leases := by
  obtain ⟨generation, stateKey, featureKeyRaw, providerKind, step, opened⟩ := reserves
  refine ⟨?_, by rw [opened]; exact List.mem_cons_self⟩
  obtain ⟨world, moved, rfl⟩ := step_registry step
  rcases World.step_preparePurge moved with kept | ⟨lease, -, resident, -, leases⟩
  · rw [kept] at opened
    exact absurd opened.symm (List.cons_ne_self _ _)
  · rw [leases] at opened
    obtain ⟨same, -⟩ := List.cons.inj opened
    subst same
    exact resident

theorem Commits.floor {lease : PurgeLease} (commits : Commits hasher plane next lease) :
    ∃ floor, next.floor lease.key = some floor ∧ lease.incarnation ≤ floor := by
  obtain ⟨position, now, revision, present, step⟩ := commits
  obtain ⟨batch, found, rfl⟩ := step_commitBatch step
  obtain rfl := Option.some.inj (present.symm.trans found)
  have clears : ∃ event ∈ (purgeBatch lease now revision).events,
      event.verdict = Verdict.cleared.asStr ∧ event.key = lease.key :=
    ⟨_, List.mem_singleton_self _, rfl, rfl⟩
  obtain ⟨event, member, cleared, same⟩ := clears
  have raised := raiseFloors_cleared lease.incarnation plane.writer.purgeFloors member cleared
  rw [same] at raised
  exact raised

/-- Once a purge has committed its clear and finalized, nothing its key emitted
before the purge is appended any more, everything it emits afterwards passes the
floor until the key's next purge is reserved, and no floor ever goes down. -/
theorem committed_purge_holds {start prepared ready committed opened finalized : Plane}
    {live : LiveLease} {settling waiting : List PlaneAction}
    (reachable : Reachable hasher start) (reserves : Reserves hasher start prepared live)
    (queued : (machine hasher).run prepared settling = some ready)
    (commits : Commits hasher ready committed live.lease)
    (waited : (machine hasher).run committed waiting = some opened)
    (finalizes : Finalizes hasher opened finalized live) :
    (∀ actions later, (machine hasher).run committed actions = some later →
        ∀ flight ∈ start.flights, flight.event.key = live.lease.key → ∀ stored,
          (later.writer.persistCapabilityEvent flight.event flight.stamp stored).1 =
            later.writer) ∧
      (∀ actions before after flight, (machine hasher).run finalized actions = some before →
        Emits hasher before after flight → flight.event.key = live.lease.key →
          live.lease.incarnation < flight.stamp.incarnation ∧
            ∀ rest later, (machine hasher).AllSteps (Quiet live.lease.key) after rest →
              (machine hasher).run after rest = some later → ∀ stored,
                (later.writer.persistCapabilityEvent flight.event flight.stamp stored).2 ≠
                  .supersededByPurge) ∧
      ∀ actions later, (machine hasher).run start actions = some later →
        ∀ key floor, start.floor key = some floor →
          ∃ raised, later.floor key = some raised ∧ floor ≤ raised := by
  have dominated := reachable.dominated
  obtain ⟨resident, held⟩ := reserves.captured
  obtain ⟨generation, stateKey, featureKeyRaw, providerKind, preparing, -⟩ := reserves
  have nowPrepared := reachable.step preparing
  obtain ⟨position, now, revision, present, committing⟩ := id commits
  have nowCommitted := (nowPrepared.run settling queued).step committing
  have nowFinalized := (nowCommitted.run waiting waited).step finalizes.2
  refine ⟨?_, ?_, ?_⟩
  · intro actions later reached flight member same stored
    obtain ⟨floor, found, captured⟩ := commits.floor
    obtain ⟨raised, last, above⟩ := (run_raises reached).floors _ floor found
    have older := dominated.resident flight member live.lease.captured (same ▸ resident)
    rw [live.lease.same] at older
    exact Writer.persistCapabilityEvent_below (same ▸ last) (older.trans (captured.trans above))
  · intro actions before after flight reached emits same
    obtain ⟨action, emitting, flights⟩ := emits
    have relearning := (nowFinalized.run actions reached).dominated
    obtain ⟨stamp, sent, fresh, clear⟩ := Clear.emitted relearning emitting
    have carried : flight.stamp = stamp :=
      congrArg Flight.stamp (List.cons.inj (flights.symm.trans sent)).1
    subst carried
    have low : live.lease.incarnation ≤ prepared.world.registry.nextIncarnation :=
      nowPrepared.dominated.leases live held
    have counter : prepared.world.registry.nextIncarnation ≤
        before.world.registry.nextIncarnation :=
      calc prepared.world.registry.nextIncarnation
        _ ≤ ready.world.registry.nextIncarnation := (run_raises queued).counter
        _ ≤ committed.world.registry.nextIncarnation := (step_raises committing).counter
        _ ≤ opened.world.registry.nextIncarnation := (run_raises waited).counter
        _ ≤ finalized.world.registry.nextIncarnation := (step_raises finalizes.2).counter
        _ ≤ before.world.registry.nextIncarnation := (run_raises reached).counter
    refine ⟨(low.trans counter).trans_lt fresh, ?_⟩
    intro rest later quiet onward stored
    have still : Clear live.lease.key flight.stamp.incarnation later :=
      Machine.AllSteps.run _ (fun _ _ _ clear quiet step => clear.step quiet step) quiet
        (clear live.lease.key) onward
    exact still.passes same rfl stored
  · intro actions later reached
    exact (run_raises reached).floors

section Sample

def unhashed : RegistryKey → Nat → Nat := fun _ _ => 0

def sampleKey : RegistryKey := ⟨"anthropic", "web_search"⟩

/-- A negative that acts at once. -/
def learning (now : Nat) : PlaneAction :=
  .emit (.call ⟨1, "anthropic", "web_search", "openai-compat",
      .observe .selfIdentifying .f1 .live none now⟩)
    ⟨now, "anthropic", "web_search", "broken", "f1", "live", "self-identifying", none, ⟨1, 1⟩⟩

def sampleAfter (actions : List PlaneAction) : Plane :=
  ((machine unhashed).run (initial 48 24 8) actions).getD (initial 48 24 8)

def sampleLease : PurgeLease :=
  { incarnation := 1, key := sampleKey,
    captured := ⟨1, .negative, .selfIdentifying, 1, 10, 10, 58, false, 0, .f1, .live, none⟩,
    generation := 1, same := rfl }

def purging : List PlaneAction :=
  [learning 10, .registry (.preparePurge 1 "anthropic" "web_search" "openai-compat"),
    .submitPurge 0 20 ⟨1, 1⟩, .commitBatch 0 true, .registry (.finalizeRemove 0)]

/-- The purge is finalized, and the negative learned anew. -/
def relearning : List PlaneAction :=
  purging ++ [.registry (.finalizeRelease 0), learning 30]

def relearned : Flight :=
  ⟨⟨30, "anthropic", "web_search", "broken", "f1", "live", "self-identifying", none, ⟨1, 1⟩⟩,
    ⟨1, 2⟩⟩

/-- The learn event of the purged version is still in flight when the clear
commits, and can never be appended; the one of a later version is. -/
theorem committed_purge_holds_delayed :
    (∃ flight ∈ (sampleAfter (purging.take 1)).flights, flight.event.key = sampleKey ∧
      ∀ stored, ((sampleAfter (purging.take 4)).writer.persistCapabilityEvent flight.event
        flight.stamp stored).1 = (sampleAfter (purging.take 4)).writer) ∧
      relearned ∈ (sampleAfter relearning).flights ∧
      ((sampleAfter relearning).writer.persistCapabilityEvent relearned.event
        relearned.stamp true).2 = .committed := by
  have reachable : Reachable unhashed (sampleAfter (purging.take 1)) :=
    ⟨48, 24, 8, purging.take 1, rfl⟩
  have reserves : Reserves unhashed (sampleAfter (purging.take 1)) (sampleAfter (purging.take 2))
      ⟨0, sampleLease, false⟩ := ⟨1, "anthropic", "web_search", "openai-compat", rfl, rfl⟩
  have queued : (machine unhashed).run (sampleAfter (purging.take 2)) [.submitPurge 0 20 ⟨1, 1⟩] =
      some (sampleAfter (purging.take 3)) := rfl
  have commits : Commits unhashed (sampleAfter (purging.take 3)) (sampleAfter (purging.take 4))
      sampleLease := ⟨0, 20, ⟨1, 1⟩, rfl, rfl⟩
  have waited : (machine unhashed).run (sampleAfter (purging.take 4)) [] =
      some (sampleAfter (purging.take 4)) := rfl
  have finalizes : Finalizes unhashed (sampleAfter (purging.take 4)) (sampleAfter purging)
      ⟨0, sampleLease, false⟩ := ⟨rfl, rfl⟩
  obtain ⟨dropped, fresh, -⟩ :=
    committed_purge_holds reachable reserves queued commits waited finalizes
  have released : (machine unhashed).run (sampleAfter purging) [.registry (.finalizeRelease 0)] =
      some (sampleAfter (relearning.take 6)) := rfl
  have emits : Emits unhashed (sampleAfter (relearning.take 6)) (sampleAfter relearning)
      relearned := ⟨.call ⟨1, "anthropic", "web_search", "openai-compat",
        .observe .selfIdentifying .f1 .live none 30⟩, rfl, rfl⟩
  obtain ⟨-, passes⟩ := fresh _ _ _ relearned released emits rfl
  have passed := passes [] _ trivial rfl true
  refine ⟨⟨_, List.mem_singleton_self _, rfl, dropped [] _ rfl _ (List.mem_singleton_self _) rfl⟩,
    List.mem_cons_self, ?_⟩
  revert passed
  decide

end Sample
end Plane
end Routectl.Ledger
