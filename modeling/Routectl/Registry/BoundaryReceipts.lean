import Routectl.Registry.World

/-! Boundary receipts are never reissued, so a settlement lands at most once
however receipts are replayed or crossed. -/
namespace Routectl.Registry
open Library
namespace World

/-- The receipts ever issued, newest first, against the registry's counters. -/
structure ReceiptInvariant (world : World) : Prop where
  bounded : ∀ receipt ∈ world.issued, receipt.id ≤ world.registry.nextReceiptId
  increasing : world.issued.Pairwise fun newer older => older.id < newer.id
  pending : ∀ receipt, world.registry.pendingGeneration = some receipt →
    receipt ∈ world.issued ∧ receipt ∉ world.settled ∧
      world.registry.generation < receipt.generation
  settledOnce : world.settled.Nodup
  settledIssued : ∀ receipt ∈ world.settled, receipt ∈ world.issued

theorem ReceiptInvariant.initial (decay inferredWindow maxEntries : Nat) :
    ReceiptInvariant (initial decay inferredWindow maxEntries) where
  bounded := by simp [World.initial]
  increasing := List.Pairwise.nil
  pending := by simp [World.initial, LearnedCapabilityRegistry.new]
  settledOnce := List.nodup_nil
  settledIssued := by simp [World.initial]

namespace ReceiptInvariant
variable {world next : World} {action : Action} {hasher : RegistryKey → Nat → Nat}

theorem distinct (invariant : ReceiptInvariant world) : world.issued.Nodup :=
  invariant.increasing.imp fun older same => by simp [same] at older

/-- The registry's receipt slots and the callers' history decide the invariant. -/
theorem of_registry (invariant : ReceiptInvariant world) (registry : LearnedCapabilityRegistry)
    (held : List ProbeAdmission) (leases : List LiveLease) (serial : Nat)
    (generation : registry.generation = world.registry.generation)
    (pending : registry.pendingGeneration = world.registry.pendingGeneration)
    (receipts : registry.nextReceiptId = world.registry.nextReceiptId) :
    ReceiptInvariant { world with registry, held, leases, nextSerial := serial } where
  bounded := by simpa [receipts] using invariant.bounded
  increasing := invariant.increasing
  pending := by simpa [pending, generation] using invariant.pending
  settledOnce := invariant.settledOnce
  settledIssued := invariant.settledIssued

theorem guarded (invariant : ReceiptInvariant world) {registry : LearnedCapabilityRegistry}
    {key : RegistryKey} {effect : Option LearnedEntry → Option LearnedEntry} {intent : Intent}
    (step : GuardedStep world.registry key effect intent registry) (held : List ProbeAdmission) :
    ReceiptInvariant { world with registry, held } :=
  invariant.of_registry registry held world.leases world.nextSerial step.generation_eq
    step.pendingGeneration_eq step.nextReceiptId_eq

theorem fresh (invariant : ReceiptInvariant world) {receipt earlier : BoundaryReceipt}
    (derived : receipt.id = world.registry.nextReceiptId + 1) (member : earlier ∈ world.issued) :
    earlier.id < receipt.id := by
  have bound := invariant.bounded earlier member
  omega

theorem cut (invariant : ReceiptInvariant world) (receipt : BoundaryReceipt)
    (derived : receipt = ⟨world.registry.generation + 1, world.registry.nextReceiptId + 1⟩) :
    ReceiptInvariant { world with
      registry := { world.registry with
        pendingGeneration := some receipt, nextReceiptId := world.registry.nextReceiptId + 1 },
      issued := receipt :: world.issued } where
  bounded := by
    intro other member
    rcases List.mem_cons.mp member with rfl | older
    · simp [derived]
    · exact Nat.le_succ_of_le (invariant.bounded other older)
  increasing := List.pairwise_cons.mpr
    ⟨fun _ older => invariant.fresh (by rw [derived]) older, invariant.increasing⟩
  pending := by
    intro other same
    cases same
    refine ⟨List.mem_cons_self, ?_, by simp [derived]⟩
    intro settled
    have older : receipt.id < receipt.id :=
      invariant.fresh (by rw [derived]) (invariant.settledIssued receipt settled)
    omega
  settledOnce := invariant.settledOnce
  settledIssued := fun other member => List.mem_cons_of_mem _ (invariant.settledIssued other member)

/-- A settlement empties the pending slot and retires its receipt. -/
theorem settle (invariant : ReceiptInvariant world) {receipt : BoundaryReceipt}
    (pending : world.registry.pendingGeneration = some receipt)
    (registry : LearnedCapabilityRegistry) (unpending : registry.pendingGeneration = none)
    (receipts : registry.nextReceiptId = world.registry.nextReceiptId) :
    ReceiptInvariant { world with registry, settled := receipt :: world.settled } := by
  obtain ⟨issued, unsettled, -⟩ := invariant.pending receipt pending
  exact
    { bounded := by simpa [receipts] using invariant.bounded
      increasing := invariant.increasing
      pending := by simp [unpending]
      settledOnce := List.nodup_cons.mpr ⟨unsettled, invariant.settledOnce⟩
      settledIssued := by
        intro other member
        rcases List.mem_cons.mp member with rfl | older
        · exact issued
        · exact invariant.settledIssued other older }

theorem moved (invariant : ReceiptInvariant world) (moved : Moved hasher world action next) :
    ReceiptInvariant next := by
  cases moved with
  | called call registry step => exact invariant.guarded step world.held
  | looked registry step => exact invariant.guarded step world.held
  | claimed granted registry step => exact invariant.guarded step _
  | settled admission present =>
    exact invariant.guarded (settleAdmission_step hasher world.registry admission _ _) _
  | unprepared => exact invariant
  | prepared lease key unpending resident unleased =>
    exact invariant.of_registry _ world.held _ _ rfl rfl rfl
  | removed live found open_ =>
    have same : (world.registry.finalizeRemove live.lease).1 =
        { world.registry with
          entries := (world.registry.finalizeRemove live.lease).1.entries } := by
      unfold LearnedCapabilityRegistry.finalizeRemove
      split
      · split <;> rfl
      · rfl
    rw [same]
    exact invariant.of_registry _ world.held _ _ rfl rfl rfl
  | released live found kind => exact invariant.of_registry _ world.held _ _ rfl rfl rfl
  | uncut => exact invariant
  | cut receipt unpending unleased derived => exact invariant.cut receipt derived
  | stale receipt other kind => exact invariant
  | regressed pending still =>
    obtain ⟨-, -, advances⟩ := invariant.pending _ pending
    omega
  | committed pending advances => exact invariant.settle pending _ rfl rfl
  | rolledBack pending => exact invariant.settle pending _ rfl rfl
  | retuned tuning => exact invariant.of_registry _ world.held _ _ rfl rfl rfl
  | rehashed entries permuted => exact invariant.of_registry _ world.held _ _ rfl rfl rfl

end ReceiptInvariant

theorem Reachable.receiptInvariant {hasher : RegistryKey → Nat → Nat} {world : World}
    (reachable : Reachable hasher world) : ReceiptInvariant world :=
  reachable.invariant hasher ReceiptInvariant.initial
    fun _ _ _ invariant step => invariant.moved (step_moved step)

/-- What a boundary's caller relies on, whichever receipts are presented. -/
structure ReceiptsSound (world : World) : Prop where
  single : ∀ inFlight, world.registry.pendingGeneration = some inFlight →
    ∀ (α : Type) (submit : List LearnedRegistryEntry → Nat → α) (admitted : α → Bool),
      world.registry.withBoundaryCut submit admitted = (world.registry, .busy inFlight.generation)
  distinct : world.issued.Nodup
  unused : ∀ (α : Type) (submit : List LearnedRegistryEntry → Nat → α) (admitted : α → Bool)
    registry outcome receipt,
    world.registry.withBoundaryCut submit admitted = (registry, .taken outcome receipt) →
    receipt ∉ world.issued
  appliedOnce : world.settled.Nodup
  spent : ∀ receipt ∈ world.settled, world.registry.pendingGeneration ≠ some receipt
  stale : ∀ receipt, world.registry.pendingGeneration ≠ some receipt →
    world.registry.commitBoundaryTransition receipt = (world.registry, .staleReceipt) ∧
      world.registry.rollbackPendingGeneration receipt = (world.registry, .staleReceipt)
  promoted : ∀ receipt registry generation pruned,
    world.registry.commitBoundaryTransition receipt = (registry, .applied generation pruned) →
    world.registry.generation < registry.generation ∧ registry.generation = receipt.generation ∧
      ∀ key, registry.entries.lookup key =
        if catalogIndependent key then world.registry.entries.lookup key else none

theorem boundary_receipts {hasher : RegistryKey → Nat → Nat} {world : World}
    (reachable : Reachable hasher world) : ReceiptsSound world := by
  have invariant := reachable.receiptInvariant
  refine
    { single := ?_
      distinct := invariant.distinct
      unused := ?_
      appliedOnce := invariant.settledOnce
      spent := ?_
      stale := ?_
      promoted := ?_ }
  · intro inFlight pending α submit admitted
    simp [LearnedCapabilityRegistry.withBoundaryCut, pending]
  · intro α submit admitted registry outcome receipt taken issued
    obtain ⟨-, -, -, -, -, -, derived, -⟩ := world.registry.withBoundaryCut_taken taken
    exact Nat.lt_irrefl _ (invariant.fresh (by rw [derived]) issued)
  · intro receipt settled pending
    exact (invariant.pending receipt pending).2.1 settled
  · intro receipt other
    exact ⟨LearnedCapabilityRegistry.commitBoundaryTransition_stale other,
      LearnedCapabilityRegistry.rollbackPendingGeneration_stale other⟩
  · intro receipt registry generation pruned applied
    by_cases pending : world.registry.pendingGeneration = some receipt
    · have advances := (invariant.pending receipt pending).2.2
      rw [LearnedCapabilityRegistry.commitBoundaryTransition_pending pending advances] at applied
      cases applied
      exact ⟨advances, rfl, fun key => KeyedMap.lookup_retain _ _ key⟩
    · rw [LearnedCapabilityRegistry.commitBoundaryTransition_stale pending] at applied
      cases applied

/-- A boundary rolled back, its generation number derived again, and the first
receipt presented against the second. -/
theorem boundary_receipts_rederived :
    ∃ world, (machine fun _ _ => 0).run (initial 48 1 1024)
        [.boundaryCut true, .rollback ⟨2, 2⟩, .boundaryCut true, .commit ⟨2, 2⟩] = some world ∧
      ReceiptsSound world := by
  obtain ⟨world, reached⟩ := Option.isSome_iff_exists.mp
    (by decide : ((machine fun _ _ => 0).run (initial 48 1 1024)
      [.boundaryCut true, .rollback ⟨2, 2⟩, .boundaryCut true, .commit ⟨2, 2⟩]).isSome = true)
  exact ⟨world, reached, boundary_receipts ⟨48, 1, 1024, _, reached⟩⟩

end World
end Routectl.Registry
