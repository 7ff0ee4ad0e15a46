import Routectl.Library.LruCache
import Routectl.Library.Transition
import Routectl.Seats.Selection

/-! Sticky sessions: one pin a session and pool, written at birth and at the one
migration, beside the traffic of other sessions on the same pin map. -/
namespace Routectl.Seats
open Library

/-- A pool member, by its provider entry. -/
structure SeatTarget where
  providerName : String
deriving Repr, DecidableEq

def SeatTarget.stateKeyFor (seat : SeatTarget) (nickname : String) : String :=
  nickname ++ "#" ++ seat.providerName

structure SeatPin where
  member : String
  repinned : Bool
deriving Repr, DecidableEq

def stickyPinCapacity : Nat := 4096

structure StickyPins where
  pins : KeyedMap String SeatPin
  tiebreak : Nat

/-- The counter wraps as the machine word does. -/
def StickyPins.nextTiebreak (sticky : StickyPins) : StickyPins × Nat :=
  ({ sticky with tiebreak := (sticky.tiebreak + 1) % 2 ^ 64 }, sticky.tiebreak)

/-- What a request finds: its model, the gates' snapshots by state key, and the
quota tiers of the pool. -/
structure SeatRequest where
  nickname : String
  capacity : String → Option CapacitySnapshot
  quota : List SeatQuota

def gatherCapacitySnapshots (seats : List SeatTarget) (request : SeatRequest) :
    List CapacitySnapshot :=
  seats.map fun seat =>
    (request.capacity (seat.stateKeyFor request.nickname)).getD
      { rpmAvailable := some 0, circuit := .open_ }

/-- The pinned seat; a member that left the pool reads as a miss. -/
def pinnedSeat (seats : List SeatTarget) (pin : Option SeatPin) : Option (Nat × Bool) :=
  pin.bind fun pin =>
    (seats.findIdx? fun seat => seat.providerName = pin.member).map fun index =>
      (index, pin.repinned)

def writePin (sticky : StickyPins) (key : String) (seats : List SeatTarget) (home : Nat)
    (repinned : Bool) : StickyPins :=
  match seats[home]? with
  | none => sticky
  | some seat =>
    { sticky with
      pins := LruCache.put stickyPinCapacity key { member := seat.providerName, repinned }
        sticky.pins }

def applyStickyOutcome (sticky : StickyPins) (key : String) (seats : List SeatTarget) :
    SelectionOutcome → StickyPins × String
  | .birth home => (writePin sticky key seats home false, "birth_pick")
  | .overflowRepin home => (writePin sticky key seats home true, "overflow_repin")
  | .stay _ => (sticky, "sticky_stay")
  | .deferNoHealthy => (sticky, "defer_no_healthy")

def willAttemptPick (snapshots : List CapacitySnapshot) : Option (Nat × Bool) → Bool
  | none => true
  | some (home, repinned) => !dispatchableAt snapshots home && !repinned

/-- Quota is read for a birth only, and a stay takes no tiebreak. -/
def stickySeatOrder (sticky : StickyPins) (seats : List SeatTarget) (key : String)
    (request : SeatRequest) : StickyPins × List Nat × String :=
  let (pins, found) := LruCache.get key sticky.pins
  let pin := pinnedSeat seats found
  let snapshots := gatherCapacitySnapshots seats request
  let (counted, tiebreak) :=
    if willAttemptPick snapshots pin then StickyPins.nextTiebreak { sticky with pins }
    else ({ sticky with pins }, 0)
  let quota := if pin.isNone then request.quota else []
  let (order, outcome, _) :=
    stickyLeastLoadedOrder seats.length (pin.map Prod.fst) (pin.any Prod.snd) snapshots tiebreak
      quota
  let (settled, token) := applyStickyOutcome counted key seats outcome
  (settled, order, token)

def StickyPins.pinOf (sticky : StickyPins) (key : String) : Option SeatPin :=
  sticky.pins.lookup key

section Request
variable {sticky : StickyPins} {seats : List SeatTarget} {key : String} {request : SeatRequest}

/-- Once a pin resolves, quota reaches nothing a request does. -/
theorem stickySeatOrder_quota (pinned : pinnedSeat seats (sticky.pinOf key) ≠ none)
    (quota : List SeatQuota) :
    stickySeatOrder sticky seats key { request with quota } =
      stickySeatOrder sticky seats key request := by
  have found : (LruCache.get key sticky.pins).2 = sticky.pinOf key := LruCache.get_value key _
  unfold stickySeatOrder
  dsimp only
  rw [found]
  cases resolved : pinnedSeat seats (sticky.pinOf key) with
  | none => exact absurd resolved pinned
  | some home => rfl

theorem pinnedSeat_some {pin : SeatPin} {index : Nat} {repinned : Bool}
    (resolved : pinnedSeat seats (some pin) = some (index, repinned)) :
    repinned = pin.repinned ∧ ∃ seat, seats[index]? = some seat ∧
      seat.providerName = pin.member := by
  obtain ⟨position, located, same⟩ := Option.map_eq_some_iff.mp resolved
  obtain ⟨bound, named, -⟩ := List.findIdx?_eq_some_iff_getElem.mp located
  obtain ⟨rfl, rfl⟩ := Prod.mk.inj same
  exact ⟨rfl, _, List.getElem?_eq_getElem bound, of_decide_eq_true named⟩

/-- A member of the pool resolves. -/
theorem pinnedSeat_resolves {pin : SeatPin}
    (member : ∃ seat ∈ seats, seat.providerName = pin.member) :
    ∃ home, pinnedSeat seats (some pin) = some (home, pin.repinned) := by
  obtain ⟨seat, inside, named⟩ := member
  cases located : seats.findIdx? fun seat => seat.providerName = pin.member with
  | none =>
    have unnamed := List.findIdx?_eq_none_iff.mp located seat inside
    exact absurd named (of_decide_eq_false unnamed)
  | some home => exact ⟨home, by simp [pinnedSeat, located]⟩

/-- The pin an outcome leaves. -/
def SelectionOutcome.pin (seats : List SeatTarget) (before : Option SeatPin) :
    SelectionOutcome → Option SeatPin
  | .birth home => (seats[home]?.map fun seat => ⟨seat.providerName, false⟩).or before
  | .overflowRepin home => (seats[home]?.map fun seat => ⟨seat.providerName, true⟩).or before
  | .stay _ | .deferNoHealthy => before

theorem writePin_pinOf (home : Nat) (repinned : Bool) :
    (writePin sticky key seats home repinned).pinOf key =
      (seats[home]?.map fun seat => ⟨seat.providerName, repinned⟩).or (sticky.pinOf key) := by
  unfold writePin
  cases seats[home]? with
  | none => rfl
  | some seat => exact LruCache.lookup_put_self (by decide)

theorem writePin_other {other : String} (different : other ≠ key) (home : Nat) (repinned : Bool) :
    (writePin sticky key seats home repinned).pinOf other = sticky.pinOf other ∨
      (writePin sticky key seats home repinned).pinOf other = none := by
  unfold writePin
  cases seats[home]? with
  | none => exact .inl rfl
  | some seat => exact LruCache.lookup_put_other different

theorem applyStickyOutcome_pinOf (outcome : SelectionOutcome) :
    (applyStickyOutcome sticky key seats outcome).1.pinOf key =
      outcome.pin seats (sticky.pinOf key) := by
  cases outcome with
  | birth home => exact writePin_pinOf home false
  | overflowRepin home => exact writePin_pinOf home true
  | stay home => rfl
  | deferNoHealthy => rfl

theorem applyStickyOutcome_other {other : String} (different : other ≠ key)
    (outcome : SelectionOutcome) :
    (applyStickyOutcome sticky key seats outcome).1.pinOf other = sticky.pinOf other ∨
      (applyStickyOutcome sticky key seats outcome).1.pinOf other = none := by
  cases outcome with
  | birth home => exact writePin_other different home false
  | overflowRepin home => exact writePin_other different home true
  | stay home => exact .inl rfl
  | deferNoHealthy => exact .inl rfl

/-- One request: a selection over its snapshots, and the pin this leaves. -/
theorem stickySeatOrder_spec (sticky : StickyPins) (seats : List SeatTarget) (key : String)
    (request : SeatRequest) :
    ∃ outcome, Chosen seats.length (gatherCapacitySnapshots seats request)
        ((pinnedSeat seats (sticky.pinOf key)).map Prod.fst)
        ((pinnedSeat seats (sticky.pinOf key)).any Prod.snd)
        (stickySeatOrder sticky seats key request).2.1 outcome ∧
      (stickySeatOrder sticky seats key request).1.pinOf key =
        outcome.pin seats (sticky.pinOf key) ∧
      ∀ other, other ≠ key →
        (stickySeatOrder sticky seats key request).1.pinOf other = sticky.pinOf other ∨
          (stickySeatOrder sticky seats key request).1.pinOf other = none := by
  have found : (LruCache.get key sticky.pins).2 = sticky.pinOf key := LruCache.get_value key _
  have touched (other : String) : (LruCache.get key sticky.pins).1.lookup other =
      sticky.pinOf other := LruCache.lookup_get key other _
  unfold stickySeatOrder
  dsimp only
  rw [found]
  have kept (attempt : Bool) (other : String) :
      (if attempt then StickyPins.nextTiebreak
          { sticky with pins := (LruCache.get key sticky.pins).1 }
        else ({ sticky with pins := (LruCache.get key sticky.pins).1 }, 0)).1.pinOf other =
      sticky.pinOf other := by
    cases attempt <;> exact LruCache.lookup_get key other _
  refine ⟨_, stickyLeastLoadedOrder_chosen _ _ _ _ _ _, ?_, ?_⟩
  · rw [applyStickyOutcome_pinOf, kept]
  · intro other different
    exact (applyStickyOutcome_other different _).imp_left fun same => same.trans (kept _ other)

end Request

/-- One served request of the session, between two states of the pin map. -/
structure Served where
  before : StickyPins
  request : SeatRequest
  after : StickyPins
  order : List Nat

/-- A session's requests among the others', and the member it was pinned to after
every step. -/
structure Conversation where
  sticky : StickyPins
  trace : List (Option String)
  served : List Served

inductive StickyAction where
  | own (request : SeatRequest)
  | other (key : String) (seats : List SeatTarget) (request : SeatRequest)
  | keyless

namespace Conversation
variable (session : String) (seats : List SeatTarget)

def start (sticky : StickyPins) : Conversation := { sticky, trace := [], served := [] }

def memberOf (sticky : StickyPins) : Option String := (sticky.pinOf session).map SeatPin.member

/-- Another session's request, on any pool, that would evict the pin is refused. -/
def step (conversation : Conversation) : StickyAction → Option Conversation
  | .own request =>
    let (after, order, _) := stickySeatOrder conversation.sticky seats session request
    some {
      sticky := after,
      trace := conversation.trace ++ [memberOf session after],
      served :=
        conversation.served ++ [{ before := conversation.sticky, request, after, order }] }
  | .other key pool request =>
    if key = session then none
    else
      let (after, _, _) := stickySeatOrder conversation.sticky pool key request
      if (conversation.sticky.pinOf session).isSome && (after.pinOf session).isNone then none
      else
        some { conversation with
          sticky := after, trace := conversation.trace ++ [memberOf session after] }
  | .keyless =>
    let (after, _) := conversation.sticky.nextTiebreak
    some { conversation with
      sticky := after, trace := conversation.trace ++ [memberOf session after] }

def machine : Machine Conversation StickyAction := ⟨step session seats⟩

end Conversation

/-- How far a session has come: unpinned, on its first seat, or moved off it. -/
inductive Phase (seats : List SeatTarget) : Option SeatPin → List (Option String) → Prop where
  | unpinned (idle : Nat) : Phase seats none (List.replicate idle none)
  | settled (idle stayed : Nat) (member : String)
      (present : ∃ seat ∈ seats, seat.providerName = member) :
      Phase seats (some ⟨member, false⟩)
        (List.replicate idle none ++ List.replicate stayed (some member))
  | migrated (idle stayed since : Nat) (first second : String)
      (present : ∃ seat ∈ seats, seat.providerName = second) :
      Phase seats (some ⟨second, true⟩)
        (List.replicate idle none ++ List.replicate stayed (some first) ++
          List.replicate since (some second))

/-- What every request of the session keeps to. -/
structure Served.Keeps (session : String) (seats : List SeatTarget) (served : Served) : Prop where
  perm : served.order.Perm (List.range seats.length)
  leads : ∀ pin, served.after.pinOf session = some pin →
    ∃ home seat, served.order.head? = some home ∧ seats[home]? = some seat ∧
      seat.providerName = pin.member
  fillFirst : served.after.pinOf session = none → served.order = List.range seats.length
  moves : ∀ pin next, served.before.pinOf session = some pin →
    served.after.pinOf session = some next → next.member ≠ pin.member →
    ∃ home sibling repinned,
      pinnedSeat seats (some pin) = some (home, repinned) ∧
      dispatchableAt (gatherCapacitySnapshots seats served.request) home = false ∧
      sibling ≠ home ∧
      dispatchableAt (gatherCapacitySnapshots seats served.request) sibling = true
  unquoted : served.before.pinOf session ≠ none → ∀ quota,
    (stickySeatOrder served.before seats session { served.request with quota }).1 =
        served.after ∧
      (stickySeatOrder served.before seats session { served.request with quota }).2.1 =
        served.order

section Runs
variable {session : String} {seats : List SeatTarget} {sticky : StickyPins}
  {trace : List (Option String)}

theorem Phase.resolves {pin : SeatPin} (phase : Phase seats (some pin) trace) :
    ∃ home seat, pinnedSeat seats (some pin) = some (home, pin.repinned) ∧
      seats[home]? = some seat ∧ seat.providerName = pin.member := by
  have present : ∃ seat ∈ seats, seat.providerName = pin.member := by
    cases phase with
    | settled idle stayed member present => exact present
    | migrated idle stayed since first second present => exact present
  obtain ⟨home, resolved⟩ := pinnedSeat_resolves present
  obtain ⟨-, seat, found, named⟩ := pinnedSeat_some resolved
  exact ⟨home, seat, resolved, found, named⟩

/-- A step that leaves the pin alone lengthens the last stretch of the trace. -/
theorem Phase.stay {pin : Option SeatPin} (phase : Phase seats pin trace) :
    Phase seats pin (trace ++ [pin.map SeatPin.member]) := by
  cases phase with
  | unpinned idle =>
    have longer : Phase seats none (List.replicate (idle + 1) none) := .unpinned (idle + 1)
    rw [List.replicate_succ'] at longer
    exact longer
  | settled idle stayed member present =>
    have longer := Phase.settled idle (stayed + 1) member present
    rw [List.replicate_succ', ← List.append_assoc] at longer
    exact longer
  | migrated idle stayed since first second present =>
    have longer := Phase.migrated idle stayed (since + 1) first second present
    rw [List.replicate_succ', ← List.append_assoc] at longer
    exact longer

theorem Phase.birth {seat : SeatTarget} (phase : Phase seats none trace) (member : seat ∈ seats) :
    Phase seats (some ⟨seat.providerName, false⟩) (trace ++ [some seat.providerName]) := by
  cases phase with
  | unpinned idle => exact Phase.settled idle 1 seat.providerName ⟨seat, member, rfl⟩

theorem Phase.migrate {first : String} {seat : SeatTarget}
    (phase : Phase seats (some ⟨first, false⟩) trace) (member : seat ∈ seats) :
    Phase seats (some ⟨seat.providerName, true⟩) (trace ++ [some seat.providerName]) := by
  cases phase with
  | settled idle stayed =>
    exact Phase.migrated idle stayed 1 first seat.providerName ⟨seat, member, rfl⟩

/-- One request of the session: the pin moves along its phases, and the order keeps
to the pin. -/
theorem request_keeps (phase : Phase seats (sticky.pinOf session) trace) (request : SeatRequest) :
    Phase seats ((stickySeatOrder sticky seats session request).1.pinOf session)
        (trace ++ [Conversation.memberOf session
          (stickySeatOrder sticky seats session request).1]) ∧
      Served.Keeps session seats
        { before := sticky, request, after := (stickySeatOrder sticky seats session request).1,
          order := (stickySeatOrder sticky seats session request).2.1 } := by
  obtain ⟨outcome, chosen, written, -⟩ := stickySeatOrder_spec sticky seats session request
  have unquoted : sticky.pinOf session ≠ none → ∀ quota,
      (stickySeatOrder sticky seats session { request with quota }) =
        stickySeatOrder sticky seats session request := by
    intro held quota
    apply stickySeatOrder_quota
    cases pin : sticky.pinOf session with
    | none => exact absurd pin held
    | some pin_ =>
      rw [pin] at phase
      obtain ⟨home, seat, resolved, -⟩ := phase.resolves
      rw [resolved]
      simp
  generalize stickySeatOrder sticky seats session request = result at chosen written unquoted ⊢
  obtain ⟨after, order, token⟩ := result
  dsimp only at chosen written unquoted ⊢
  unfold Conversation.memberOf
  rw [written]
  cases pin : sticky.pinOf session with
  | none =>
    rw [pin] at phase chosen written
    cases chosen with
    | lone few =>
      refine ⟨phase.stay, List.Perm.refl _, ?_, fun _ => rfl, ?_, ?_⟩
      · intro held same
        cases written.symm.trans same
      · intro held next same
        cases pin.symm.trans same
      · exact fun held => absurd pin held
    | born home inside =>
      have found := List.getElem?_eq_getElem inside
      simp only [SelectionOutcome.pin, found, Option.map_some, Option.some_or] at written ⊢
      refine ⟨phase.birth (List.getElem_mem inside), orderHomeFirst_perm inside, ?_, ?_, ?_, ?_⟩
      · intro held same
        obtain rfl := Option.some.inj (written.symm.trans same)
        exact ⟨home, seats[home], rfl, found, rfl⟩
      · intro missing
        cases written.symm.trans missing
      · intro held next same
        cases pin.symm.trans same
      · exact fun held => absurd pin held
    | deferred several =>
      have first := orderHomeFirst_zero (Nat.zero_lt_of_lt several)
      refine ⟨phase.stay, first ▸ List.Perm.refl _, ?_, fun _ => first, ?_, ?_⟩
      · intro held same
        cases written.symm.trans same
      · intro held next same
        cases pin.symm.trans same
      · exact fun held => absurd pin held
  | some held =>
    obtain ⟨member, repinned⟩ := held
    rw [pin] at phase chosen written
    obtain ⟨home, seat, resolved, found, named⟩ := phase.resolves
    have bound : home < seats.length := (List.getElem?_eq_some_iff.mp found).1
    have same (quota : List SeatQuota) :=
      unquoted (by simp [pin]) quota
    rw [resolved] at chosen
    simp only [Option.map_some, Option.any_some] at chosen
    have stays (led : order.head? = some home) (perm : order.Perm (List.range seats.length))
        (kept : after.pinOf session = some ⟨member, repinned⟩) :
        Served.Keeps session seats { before := sticky, request, after, order } := by
      refine ⟨perm, ?_, ?_, ?_, ?_⟩
      · intro other reads
        obtain rfl := Option.some.inj (kept.symm.trans reads)
        exact ⟨home, seat, led, found, named⟩
      · intro missing
        cases kept.symm.trans missing
      · intro before next was is different
        obtain rfl := Option.some.inj (pin.symm.trans was)
        obtain rfl := Option.some.inj (kept.symm.trans is)
        exact absurd rfl different
      · intro _ quota
        rw [same quota]
        exact ⟨rfl, rfl⟩
    cases chosen with
    | lone few =>
      refine ⟨phase.stay, stays ?_ (List.Perm.refl _) written⟩
      have only : seats.length = 1 := by omega
      have first : home = 0 := by omega
      rw [only, first]
      rfl
    | kept =>
      exact ⟨phase.stay, stays rfl (orderHomeFirst_perm bound) written⟩
    | moved _ newHome down different inside healthy =>
      have place := List.getElem?_eq_getElem inside
      simp only [SelectionOutcome.pin, place, Option.map_some, Option.some_or] at written ⊢
      refine ⟨phase.migrate (List.getElem_mem inside), orderHomeFirst_perm inside, ?_, ?_, ?_, ?_⟩
      · intro other reads
        obtain rfl := Option.some.inj (written.symm.trans reads)
        exact ⟨newHome, seats[newHome], rfl, place, rfl⟩
      · intro missing
        cases written.symm.trans missing
      · intro before next was _ _
        obtain rfl := Option.some.inj (pin.symm.trans was)
        exact ⟨home, newHome, false, resolved, down, different, healthy⟩
      · intro _ quota
        rw [same quota]
        exact ⟨rfl, rfl⟩

/-- Between two requests of the session its pin does not move. -/
inductive Linked (session : String) : List Served → Option SeatPin → Prop where
  | start : Linked session [] none
  | request {done : List Served} {served : Served}
      (before : Linked session done (served.before.pinOf session)) :
      Linked session (done ++ [served]) (served.after.pinOf session)

/-- The pin in its phase, and every request served so far kept to it. -/
structure Conversation.Steady (session : String) (seats : List SeatTarget)
    (conversation : Conversation) : Prop where
  phase : Phase seats (conversation.sticky.pinOf session) conversation.trace
  linked : Linked session conversation.served (conversation.sticky.pinOf session)
  keeps : ∀ served ∈ conversation.served, served.Keeps session seats

theorem Conversation.step_steady :
    (Conversation.machine session seats).Preserves (Conversation.Steady session seats) := by
  intro conversation action next steady step
  cases action with
  | own request =>
    obtain rfl := Option.some.inj step
    obtain ⟨phase, kept⟩ := request_keeps steady.phase request
    refine ⟨phase, steady.linked.request, ?_⟩
    intro served member
    rcases List.mem_append.mp member with older | fresh
    · exact steady.keeps served older
    · exact List.mem_singleton.mp fresh ▸ kept
  | other key pool request =>
    simp only [Conversation.machine, Conversation.step] at step
    split at step
    · cases step
    · rename_i foreign
      split at step
      · cases step
      · rename_i resident
        obtain rfl := Option.some.inj step
        obtain ⟨-, -, -, others⟩ :=
          stickySeatOrder_spec conversation.sticky pool key request
        have same : (stickySeatOrder conversation.sticky pool key request).1.pinOf session =
            conversation.sticky.pinOf session := by
          rcases others session (Ne.symm foreign) with kept | gone
          · exact kept
          · rw [gone]
            cases held : conversation.sticky.pinOf session with
            | none => rfl
            | some pin => simp [held, gone] at resident
        refine ⟨?_, same.symm ▸ steady.linked, steady.keeps⟩
        dsimp only
        rw [Conversation.memberOf, same]
        exact steady.phase.stay
  | keyless =>
    obtain rfl := Option.some.inj step
    exact ⟨steady.phase.stay, steady.linked, steady.keeps⟩

/-- A session is pinned to nothing, then to one member, then to at most one other;
it moves only off a seat that cannot serve onto one that can, whatever the quota,
and every order is all seats with the pinned one first. -/
theorem sticky_session_migrates_once {session : String} {seats : List SeatTarget}
    {sticky : StickyPins} (unpinned : sticky.pinOf session = none) {actions : List StickyAction}
    {final : Conversation}
    (reached : (Conversation.machine session seats).run (.start sticky) actions = some final) :
    (∃ idle stayed since first second, final.trace =
        List.replicate idle none ++ List.replicate stayed (some first) ++
          List.replicate since (some second)) ∧
      Linked session final.served (final.sticky.pinOf session) ∧
      ∀ served ∈ final.served, served.Keeps session seats := by
  have initial : (Conversation.start sticky).Steady session seats := by
    have none_ : (Conversation.start sticky).sticky.pinOf session = none := unpinned
    refine ⟨?_, ?_, fun served member => by cases member⟩
    · rw [none_]
      exact Phase.unpinned 0
    · rw [none_]
      exact .start
  have steady : final.Steady session seats := Conversation.step_steady.run _ initial reached
  refine ⟨?_, steady.linked, steady.keeps⟩
  have phase := steady.phase
  generalize final.sticky.pinOf session = pin, final.trace = trace at phase
  cases phase with
  | unpinned idle => exact ⟨idle, 0, 0, "", "", by simp⟩
  | settled idle stayed member => exact ⟨idle, stayed, 0, member, "", by simp⟩
  | migrated idle stayed since first second => exact ⟨idle, stayed, since, first, second, rfl⟩

end Runs

section Sample

def fresh : StickyPins := { pins := ∅, tiebreak := 0 }

def pair : List SeatTarget := [⟨"a"⟩, ⟨"b"⟩]

/-- A request that finds one member's gate open and the other closed. -/
def without (down : String) : SeatRequest :=
  { nickname := "model",
    capacity := fun key =>
      some { rpmAvailable := none,
             circuit := if key = "model#" ++ down then .open_ else .closed },
    quota := [] }

def homeDownAndBack : List StickyAction :=
  [.own (without ""), .own (without "a"), .own (without "b")]

def conversationAfter (actions : List StickyAction) : Conversation :=
  ((Conversation.machine "session" pair).run (.start fresh) actions).getD (.start fresh)

/-- The home goes down and comes back: one move, and no way back. -/
theorem sticky_session_moves_and_stays :
    (conversationAfter homeDownAndBack).trace = [some "a", some "b", some "b"] ∧
      ∀ served ∈ (conversationAfter homeDownAndBack).served, served.Keeps "session" pair := by
  have unpinned : fresh.pinOf "session" = none := rfl
  have reached : (Conversation.machine "session" pair).run (.start fresh) homeDownAndBack =
      some (conversationAfter homeDownAndBack) := rfl
  exact ⟨rfl, (sticky_session_migrates_once unpinned reached).2.2⟩

end Sample
end Routectl.Seats
