import Mathlib.Algebra.Order.Ring.Rat
import Mathlib.Data.List.Perm.Basic
import Mathlib.Order.WithBot

/-! Which seat of a pool a session is served from: dispatchability, the health
preference, the quota partition, and the rotation among the seats left tied. -/
namespace Routectl.Seats

inductive CircuitPhase where
  | closed
  | open_
  | halfOpenReady
deriving Repr, DecidableEq

/-- `none` is an unlimited seat. -/
structure CapacitySnapshot where
  rpmAvailable : Option Rat
  circuit : CircuitPhase
deriving DecidableEq

def CapacitySnapshot.isDispatchable (snapshot : CapacitySnapshot) : Bool :=
  snapshot.circuit ≠ .open_ && snapshot.rpmAvailable.all fun tokens => 1 ≤ tokens

/-- A seat's standing in the fast window; `remaining` is the unspent fraction. -/
inductive SeatQuota where
  | unknown
  | belowCap (remaining : Rat)
  | atCap (remaining : Rat)
deriving DecidableEq

inductive QuotaDecision where
  | dormant
  | belowCapTier
  | allCappedMostRemaining
  | mixedUnknownFallback
  | allUnknownFallback
deriving Repr, DecidableEq

/-- The candidates of highest score; nothing scores below negative infinity. -/
def highest {Score : Type*} [LinearOrder Score] [OrderBot Score] (score : Nat → Score)
    (candidates : List Nat) : List Nat :=
  let best := candidates.foldl (fun best index => max best (score index)) ⊥
  candidates.filter fun index => score index = best

section Partition
variable (quota : List SeatQuota)

/-- A seat past the end of `quota` reads unknown. -/
def tier (index : Nat) : SeatQuota := quota[index]?.getD .unknown

def tierRemaining (index : Nat) : WithBot Rat :=
  match quota[index]? with
  | some (.belowCap remaining) | some (.atCap remaining) => remaining
  | some .unknown | none => ⊥

def mostRemaining (candidates : List Nat) : List Nat := highest (tierRemaining quota) candidates

def isBelowCap : SeatQuota → Bool
  | .belowCap _ => true
  | .unknown | .atCap _ => false

/-- The tier quota decides on, or `none` to leave the ranking as it was. -/
def restrictByQuota (eligible : List Nat) : Option (List Nat) × QuotaDecision :=
  if quota.isEmpty || eligible.isEmpty then (none, .dormant)
  else
    let below := eligible.filter fun index => isBelowCap (tier quota index)
    if !below.isEmpty then (some (mostRemaining quota below), .belowCapTier)
    else if eligible.any fun index => tier quota index = .unknown then
      (none,
       if eligible.all fun index => tier quota index = .unknown then .allUnknownFallback
       else .mixedUnknownFallback)
    else (some (mostRemaining quota eligible), .allCappedMostRemaining)

end Partition

section Pick
variable (snapshots : List CapacitySnapshot)

def dispatchableAt (index : Nat) : Bool := snapshots[index]?.any CapacitySnapshot.isDispatchable

def closedAt (index : Nat) : Bool := snapshots[index]?.any fun snapshot => snapshot.circuit = .closed

/-- Dispatchable seats, without the half-open ones if any is closed. -/
def eligibleCandidates (candidates : List Nat) : List Nat :=
  let dispatchable := candidates.filter (dispatchableAt snapshots)
  if dispatchable.any (closedAt snapshots) then dispatchable.filter (closedAt snapshots)
  else dispatchable

/-- An unlimited seat has more headroom than any number. -/
def headroom (index : Nat) : WithBot (WithTop Rat) :=
  match snapshots[index]?.bind CapacitySnapshot.rpmAvailable with
  | none => ((⊤ : WithTop Rat) : WithBot (WithTop Rat))
  | some tokens => ((tokens : WithTop Rat) : WithBot (WithTop Rat))

def pickLeastLoaded (candidates : List Nat) (tiebreak : Nat) (quota : List SeatQuota) :
    Option Nat × QuotaDecision :=
  let preferred := eligibleCandidates snapshots candidates
  if preferred.isEmpty then (none, .dormant)
  else
    match restrictByQuota quota preferred with
    | (some tied, decision) => (tied[tiebreak % tied.length]?, decision)
    | (none, decision) =>
      let tied := highest (headroom snapshots) preferred
      (tied[tiebreak % tied.length]?, decision)

end Pick

inductive SelectionOutcome where
  | birth (home : Nat)
  | stay (home : Nat)
  | overflowRepin (home : Nat)
  | deferNoHealthy
deriving Repr, DecidableEq

/-- `home` first, then every other seat in ascending order. -/
def orderHomeFirst (home seatCount : Nat) : List Nat :=
  home :: (List.range seatCount).filter fun index => index ≠ home

def stickyLeastLoadedOrder (seatCount : Nat) (pinnedIndex : Option Nat) (alreadyRepinned : Bool)
    (snapshots : List CapacitySnapshot) (tiebreak : Nat) (quota : List SeatQuota) :
    List Nat × SelectionOutcome × QuotaDecision :=
  if seatCount ≤ 1 then (List.range seatCount, .stay 0, .dormant)
  else
    match pinnedIndex with
    | some home =>
      if dispatchableAt snapshots home then (orderHomeFirst home seatCount, .stay home, .dormant)
      else if alreadyRepinned then (orderHomeFirst home seatCount, .stay home, .dormant)
      else
        let siblings := (List.range seatCount).filter fun index => index ≠ home
        match pickLeastLoaded snapshots siblings tiebreak [] with
        | (some newHome, decision) =>
          (orderHomeFirst newHome seatCount, .overflowRepin newHome, decision)
        | (none, decision) => (orderHomeFirst home seatCount, .stay home, decision)
    | none =>
      match pickLeastLoaded snapshots (List.range seatCount) tiebreak quota with
      | (some home, decision) => (orderHomeFirst home seatCount, .birth home, decision)
      | (none, decision) => (orderHomeFirst 0 seatCount, .deferNoHealthy, decision)

section Orders
variable {home seatCount : Nat}

theorem orderHomeFirst_perm (inside : home < seatCount) :
    (orderHomeFirst home seatCount).Perm (List.range seatCount) := by
  have member : home ∈ List.range seatCount := List.mem_range.mpr inside
  have others : (List.range seatCount).erase home =
      (List.range seatCount).filter fun index => index ≠ home := by
    rw [List.nodup_range.erase_eq_filter home]
    apply List.filter_congr
    intro index _
    by_cases same : index = home
    · simp [same]
    · simp [same]
  unfold orderHomeFirst
  rw [← others]
  exact (List.perm_cons_erase member).symm

theorem orderHomeFirst_zero (some_ : 0 < seatCount) :
    orderHomeFirst 0 seatCount = List.range seatCount := by
  obtain ⟨count, rfl⟩ := Nat.exists_eq_succ_of_ne_zero (Nat.pos_iff_ne_zero.mp some_)
  rw [orderHomeFirst, List.range_succ_eq_map]
  have later : ((List.range count).map Nat.succ).filter (fun index => index ≠ 0) =
      (List.range count).map Nat.succ := by
    apply List.filter_eq_self.mpr
    intro index member
    obtain ⟨before, -, rfl⟩ := List.mem_map.mp member
    simp
  rw [List.filter_cons_of_neg (by simp), later]

end Orders

section Picks
variable {Score : Type*} [LinearOrder Score] [OrderBot Score] {score : Nat → Score}
  {candidates : List Nat} {snapshots : List CapacitySnapshot} {quota : List SeatQuota}
  {tiebreak index : Nat}

theorem highest_subset (member : index ∈ highest score candidates) : index ∈ candidates :=
  (List.mem_filter.mp member).1

omit [OrderBot Score] in
theorem foldl_max_attained (start : Score) :
    candidates.foldl (fun best index => max best (score index)) start = start ∨
      ∃ index ∈ candidates,
        candidates.foldl (fun best index => max best (score index)) start = score index := by
  induction candidates generalizing start with
  | nil => exact .inl rfl
  | cons first rest ih =>
    rw [List.foldl_cons]
    rcases ih (max start (score first)) with kept | ⟨index, member, attained⟩
    · rw [kept]
      rcases max_choice start (score first) with same | same
      · exact .inl same
      · exact .inr ⟨first, List.mem_cons_self, same⟩
    · exact .inr ⟨index, List.mem_cons_of_mem first member, attained⟩

omit [OrderBot Score] in
theorem le_foldl_max (start : Score) :
    start ≤ candidates.foldl (fun best index => max best (score index)) start := by
  induction candidates generalizing start with
  | nil => exact le_refl start
  | cons first rest ih => exact (le_max_left start _).trans (ih _)

/-- Some candidate is highest, so the rotation never runs over nothing. -/
theorem highest_ne_nil (some_ : candidates ≠ []) : highest score candidates ≠ [] := by
  cases candidates with
  | nil => exact absurd rfl some_
  | cons first rest =>
    have attained : ∃ index ∈ first :: rest,
        (first :: rest).foldl (fun best index => max best (score index)) ⊥ = score index := by
      rcases foldl_max_attained (⊥ : Score) with lowest | found
      · have above : max ⊥ (score first) ≤
            (first :: rest).foldl (fun best index => max best (score index)) ⊥ := le_foldl_max _
        rw [lowest, bot_sup_eq] at above
        exact ⟨first, List.mem_cons_self, lowest.trans (le_bot_iff.mp above).symm⟩
      · exact found
    obtain ⟨index, member, best⟩ := attained
    apply List.ne_nil_of_mem
    exact List.mem_filter.mpr ⟨member, decide_eq_true best.symm⟩

theorem restrictByQuota_some {eligible tied : List Nat} {decision : QuotaDecision}
    (restricted : restrictByQuota quota eligible = (some tied, decision)) :
    tied ≠ [] ∧ ∀ index ∈ tied, index ∈ eligible := by
  unfold restrictByQuota at restricted
  split at restricted
  · cases restricted
  · rename_i readable
    dsimp only at restricted
    split at restricted
    · rename_i below
      cases restricted
      refine ⟨highest_ne_nil (by simpa using below), ?_⟩
      intro index member
      exact (List.mem_filter.mp (highest_subset member)).1
    · split at restricted
      · cases restricted
      · cases restricted
        simp only [Bool.or_eq_true, not_or, List.isEmpty_iff] at readable
        exact ⟨highest_ne_nil readable.2, fun index member => highest_subset member⟩

theorem eligibleCandidates_mem (member : index ∈ eligibleCandidates snapshots candidates) :
    index ∈ candidates ∧ dispatchableAt snapshots index = true := by
  unfold eligibleCandidates at member
  dsimp only at member
  split at member
  · exact List.mem_filter.mp (List.mem_filter.mp member).1
  · exact List.mem_filter.mp member

theorem eligibleCandidates_ne_nil (member : index ∈ candidates)
    (dispatchable : dispatchableAt snapshots index = true) :
    eligibleCandidates snapshots candidates ≠ [] := by
  unfold eligibleCandidates
  dsimp only
  split
  · rename_i closed
    obtain ⟨healthy, inside, shut⟩ := List.any_eq_true.mp closed
    exact List.ne_nil_of_mem (List.mem_filter.mpr ⟨inside, shut⟩)
  · exact List.ne_nil_of_mem (List.mem_filter.mpr ⟨member, dispatchable⟩)

/-- The rotation over tied seats always lands on one of them. -/
theorem rotation_some {tied : List Nat} (some_ : tied ≠ []) (tiebreak : Nat) :
    ∃ index ∈ tied, tied[tiebreak % tied.length]? = some index := by
  have inside : tiebreak % tied.length < tied.length :=
    Nat.mod_lt _ (List.length_pos_iff.mpr some_)
  exact ⟨_, List.getElem_mem inside, List.getElem?_eq_getElem inside⟩

/-- A pick is some dispatchable candidate, and none only where no candidate is. -/
theorem pickLeastLoaded_spec (snapshots : List CapacitySnapshot) (candidates : List Nat)
    (tiebreak : Nat) (quota : List SeatQuota) :
    ((pickLeastLoaded snapshots candidates tiebreak quota).1 = none ∧
        ∀ index ∈ candidates, dispatchableAt snapshots index = false) ∨
      ∃ index ∈ candidates, dispatchableAt snapshots index = true ∧
        (pickLeastLoaded snapshots candidates tiebreak quota).1 = some index := by
  unfold pickLeastLoaded
  dsimp only
  split
  · rename_i nobody
    left
    refine ⟨rfl, fun index member => ?_⟩
    by_contra dispatchable
    exact eligibleCandidates_ne_nil member (by simpa using dispatchable)
      (List.isEmpty_iff.mp nobody)
  · rename_i somebody
    right
    split
    · rename_i tied decision restricted
      obtain ⟨some_, within⟩ := restrictByQuota_some restricted
      obtain ⟨index, member, picked⟩ := rotation_some some_ tiebreak
      obtain ⟨candidate, dispatchable⟩ := eligibleCandidates_mem (within index member)
      exact ⟨index, candidate, dispatchable, picked⟩
    · have some_ : highest (headroom snapshots) (eligibleCandidates snapshots candidates) ≠ [] :=
        highest_ne_nil (by simpa using somebody)
      obtain ⟨index, member, picked⟩ := rotation_some some_ tiebreak
      obtain ⟨candidate, dispatchable⟩ := eligibleCandidates_mem (highest_subset member)
      exact ⟨index, candidate, dispatchable, picked⟩

end Picks

/-- What a selection comes to: the walk order and what becomes of the pin. -/
inductive Chosen (seatCount : Nat) (snapshots : List CapacitySnapshot) :
    Option Nat → Bool → List Nat → SelectionOutcome → Prop where
  | lone {pinnedIndex : Option Nat} {alreadyRepinned : Bool} (few : seatCount ≤ 1) :
      Chosen seatCount snapshots pinnedIndex alreadyRepinned (List.range seatCount) (.stay 0)
  | kept {alreadyRepinned : Bool} (home : Nat) (several : 1 < seatCount) :
      Chosen seatCount snapshots (some home) alreadyRepinned (orderHomeFirst home seatCount)
        (.stay home)
  | moved (home newHome : Nat) (down : dispatchableAt snapshots home = false)
      (different : newHome ≠ home) (inside : newHome < seatCount)
      (healthy : dispatchableAt snapshots newHome = true) :
      Chosen seatCount snapshots (some home) false (orderHomeFirst newHome seatCount)
        (.overflowRepin newHome)
  | born {alreadyRepinned : Bool} (home : Nat) (inside : home < seatCount) :
      Chosen seatCount snapshots none alreadyRepinned (orderHomeFirst home seatCount)
        (.birth home)
  | deferred {alreadyRepinned : Bool} (several : 1 < seatCount) :
      Chosen seatCount snapshots none alreadyRepinned (orderHomeFirst 0 seatCount)
        .deferNoHealthy

theorem stickyLeastLoadedOrder_chosen (seatCount : Nat) (pinnedIndex : Option Nat)
    (alreadyRepinned : Bool) (snapshots : List CapacitySnapshot) (tiebreak : Nat)
    (quota : List SeatQuota) :
    Chosen seatCount snapshots pinnedIndex alreadyRepinned
      (stickyLeastLoadedOrder seatCount pinnedIndex alreadyRepinned snapshots tiebreak quota).1
      (stickyLeastLoadedOrder seatCount pinnedIndex alreadyRepinned snapshots tiebreak
        quota).2.1 := by
  unfold stickyLeastLoadedOrder
  split
  · rename_i few
    exact .lone few
  · rename_i many
    have several : 1 < seatCount := Nat.not_le.mp many
    cases pinnedIndex with
    | some home =>
      dsimp only
      split
      · exact .kept home several
      · rename_i down
        cases alreadyRepinned with
        | true => exact .kept home several
        | false =>
          simp only [Bool.false_eq_true, if_false]
          have spec := pickLeastLoaded_spec snapshots
            ((List.range seatCount).filter fun index => index ≠ home) tiebreak []
          split
          · rename_i newHome decision picked
            rw [picked] at spec
            obtain ⟨missed, -⟩ | ⟨index, member, healthy, same⟩ := spec
            · cases missed
            · obtain rfl := Option.some.inj same
              obtain ⟨inside, different⟩ := List.mem_filter.mp member
              exact .moved home newHome (by simpa using down) (of_decide_eq_true different)
                (List.mem_range.mp inside) healthy
          · exact .kept home several
    | none =>
      dsimp only
      have spec := pickLeastLoaded_spec snapshots (List.range seatCount) tiebreak quota
      split
      · rename_i home decision picked
        rw [picked] at spec
        obtain ⟨missed, -⟩ | ⟨index, member, healthy, same⟩ := spec
        · cases missed
        · obtain rfl := Option.some.inj same
          exact .born home (List.mem_range.mp member)
      · exact .deferred several

end Routectl.Seats
