import Routectl.Learn.ReplayCarry
import Routectl.Library.Claims
import Routectl.Library.Transition

/-! All requests that carry reasoning artifacts, in every interleaving: who holds which pair, and
what the registry learns. -/
namespace Routectl.Learn
open Routectl.Core Library Registry Ledger
open Routectl.Replay (Message ReplayScheme)

structure Replaying where
  learned : LearnedCapabilityRegistry
  inFlight : Finset ReplayLearnKey := ∅
  carries : KeyedMap Nat Carry := ∅

/-- `elsewhere` is whatever else happens to the shared registry. -/
inductive ReplayLabel where
  | arrive (request : Nat) (provider providerKind : String) (lane : ReplayScheme)
      (generation : Nat) (messages : List Message)
  | act (request : Nat) (action : CarryAct)
  | elsewhere (learned : LearnedCapabilityRegistry)

namespace Replaying

def step (world : Replaying) : ReplayLabel → Option Replaying
  | .arrive request provider providerKind lane generation messages =>
    match world.carries.lookup request with
    | some _ => none
    | none =>
      some { world with
        carries := world.carries.insert request
          (.arrived provider providerKind lane generation messages) }
  | .act request action =>
    match world.carries.lookup request with
    | none => none
    | some carry =>
      (carry.act world.learned world.inFlight action).map fun (learned, inFlight, after) =>
        { learned, inFlight, carries := world.carries.insert request after }
  | .elsewhere learned => some { world with learned }

def machine : Machine Replaying ReplayLabel := ⟨step⟩

/-- The pairs a request has claimed. -/
def holds (world : Replaying) (request : Nat) : List ReplayLearnKey :=
  match world.carries.lookup request with
  | none => []
  | some carry => carry.keys

end Replaying

/-- The guards a request holds are those of what it carries. -/
def Carry.Sound (carry : Carry) : Prop :=
  match carry.phase with
  | .admitting remaining =>
    remaining ≠ [] ∧ carry.keys ++ remaining.map carry.pair = carry.schemes.map carry.pair
  | .dropping _ => True
  | .sending .unplanned => carry.guards = [] ∧ (carry.lane = .gray ∨ carry.schemes = [])
  | .sending .superseded => carry.guards = []
  | .sending .held => carry.keys = carry.schemes.map carry.pair
  | .sending .repaired => carry.schemes = []
  | .settling _ => True
  | .releasing _ _ => carry.guards ≠ []
  | .ended => carry.guards = []

section Worlds
variable {learned : LearnedCapabilityRegistry} {inFlight : Finset ReplayLearnKey} {carry : Carry}
variable {action : CarryAct} {after : LearnedCapabilityRegistry × Finset ReplayLearnKey × Carry}
variable {world next : Replaying} {label : ReplayLabel} {labels : List ReplayLabel}

theorem arrived_sound (provider providerKind : String) (lane : ReplayScheme) (generation : Nat)
    (messages : List Message) :
    (Carry.arrived provider providerKind lane generation messages).Sound := by
  by_cases gray : lane = .gray
  · simp only [Carry.arrived, Carry.Sound, if_pos gray]
    exact ⟨trivial, Or.inl gray⟩
  · cases found : nonportableSchemes messages lane with
    | nil =>
      simp only [Carry.arrived, Carry.Sound, if_neg gray, found]
      exact ⟨trivial, Or.inr found⟩
    | cons scheme rest =>
      simp only [Carry.arrived, Carry.Sound, if_neg gray, found]
      refine ⟨List.cons_ne_nil scheme rest, ?_⟩
      simp only [Carry.keys, Carry.schemes, found]
      rfl

theorem stripped_schemes (carry : Carry) : carry.stripped.schemes = [] := nonportableSchemes_strip

theorem acted_sound (sound : carry.Sound) (acted : carry.Acted learned inFlight action after) :
    after.2.2.Sound := by
  cases acted with
  | admitted scheme rest now guard stood free own =>
    simp only [Carry.Sound, stood] at sound
    obtain ⟨-, shared⟩ := sound
    have moved : (carry.guards ++ [guard]).map ReplayProbeGuard.key ++ rest.map carry.pair =
        carry.schemes.map carry.pair := by
      rw [← shared, List.map_append, List.map_singleton, own, List.append_assoc]
      rfl
    cases rest with
    | nil =>
      rw [List.map_nil, List.append_nil] at moved
      exact moved
    | cons following later => exact ⟨List.cons_ne_nil following later, moved⟩
  | refused scheme rest now onward stood goes => exact trivial
  | dropped onward guard rest stood held =>
    simp only [Carry.Sound, stood]
  | released repaired row guard rest stood held => exact trivial
  | stripped stood empty => exact ⟨empty, Or.inr (stripped_schemes carry)⟩
  | unchanged stood empty => exact empty
  | concluded stood empty => exact empty
  | rejected stood => exact stripped_schemes carry
  | succeeded plan repaired stood which => exact trivial
  | answered plan stood which =>
    obtain rfl | rfl := which
    · simp only [Carry.Sound, stood] at sound
      exact sound.1
    · simp only [Carry.Sound, stood] at sound
      exact sound
  | committed guard rest now stood held =>
    simp [Carry.Sound, held]
  | cleared guard rest now stood held =>
    simp [Carry.Sound, held]
  | abandoned plan stood => exact trivial

/-- A request's step claims a free pair, gives one back, or keeps what it holds. -/
theorem acted_exclusive {holds : Nat → List ReplayLearnKey} {request : Nat}
    (exclusive : Exclusive inFlight holds) (own : holds request = carry.keys)
    (acted : carry.Acted learned inFlight action after) :
    Exclusive after.2.1 (Function.update holds request after.2.2.keys) := by
  have kept : Exclusive inFlight (Function.update holds request carry.keys) :=
    exclusive.congr fun other => by rw [← own, Function.update_eq_self]
  cases acted with
  | admitted scheme rest now guard stood free owned =>
    have claimed := exclusive.claim free request
    rw [own] at claimed
    simpa only [Carry.keys, List.map_append, List.map_cons, List.map_nil] using claimed
  | dropped onward guard rest stood held =>
    rw [Carry.keys, held] at own
    exact exclusive.release own
  | released repaired row guard rest stood held =>
    rw [Carry.keys, held] at own
    exact exclusive.release own
  | refused scheme rest now onward stood goes => exact kept
  | stripped stood empty => exact kept
  | unchanged stood empty => exact kept
  | concluded stood empty => exact kept
  | rejected stood => exact kept
  | succeeded plan repaired stood which => exact kept
  | answered plan stood which => exact kept
  | committed guard rest now stood held => exact kept
  | cleared guard rest now stood held => exact kept
  | abandoned plan stood => exact kept

/-- What a step of the world is. -/
theorem step_cases (stepped : world.step label = some next) :
    (∃ request provider providerKind lane generation messages,
      label = .arrive request provider providerKind lane generation messages ∧
      world.carries.lookup request = none ∧
      next = { world with
        carries := world.carries.insert request
          (.arrived provider providerKind lane generation messages) }) ∨
    (∃ request action carry after, label = .act request action ∧
      world.carries.lookup request = some carry ∧
      carry.Acted world.learned world.inFlight action after ∧
      next = ⟨after.1, after.2.1, world.carries.insert request after.2.2⟩) ∨
    ∃ learned, label = .elsewhere learned ∧ next = { world with learned } := by
  cases label with
  | arrive request provider providerKind lane generation messages =>
    simp only [Replaying.step] at stepped
    cases held : world.carries.lookup request with
    | some carry =>
      rw [held] at stepped
      cases stepped
    | none =>
      rw [held] at stepped
      exact Or.inl ⟨_, _, _, _, _, _, rfl, held, (Option.some.inj stepped).symm⟩
  | act request action =>
    simp only [Replaying.step] at stepped
    cases held : world.carries.lookup request with
    | none =>
      rw [held] at stepped
      cases stepped
    | some carry =>
      rw [held] at stepped
      obtain ⟨after, acts, rfl⟩ := Option.map_eq_some_iff.mp stepped
      exact Or.inr (Or.inl ⟨_, _, _, after, rfl, held, act_cases acts, rfl⟩)
  | elsewhere learned =>
    exact Or.inr (Or.inr ⟨learned, rfl, (Option.some.inj stepped).symm⟩)

/-- The claimed pairs are shared out among the requests, each of which holds those of what it
carries. -/
structure SingleFlight (world : Replaying) : Prop where
  exclusive : Exclusive world.inFlight world.holds
  sound : ∀ request carry, world.carries.lookup request = some carry → carry.Sound

theorem holds_insert (carries : KeyedMap Nat Carry) (request : Nat) (carry : Carry)
    (learned' : LearnedCapabilityRegistry) (claimed : Finset ReplayLearnKey) (other : Nat) :
    (⟨learned', claimed, carries.insert request carry⟩ : Replaying).holds other =
      Function.update (⟨learned', claimed, carries⟩ : Replaying).holds request carry.keys other := by
  by_cases same : other = request
  · subst same
    simp [Replaying.holds]
  · simp [Replaying.holds, same]

theorem sound_insert (sound : ∀ request carry, world.carries.lookup request = some carry →
      carry.Sound) {request : Nat} (here : carry.Sound) :
    ∀ other found, (world.carries.insert request carry).lookup other = some found →
      found.Sound := by
  intro other found held
  by_cases same : other = request
  · subst same
    rw [AList.lookup_insert] at held
    exact Option.some.inj held ▸ here
  · rw [AList.lookup_insert_ne same] at held
    exact sound other found held

theorem step_singleFlight : Replaying.machine.Preserves SingleFlight := by
  intro world label next flight stepped
  obtain ⟨request, provider, providerKind, lane, generation, messages, rfl, free, rfl⟩ |
    ⟨request, action, carry, after, rfl, held, acted, rfl⟩ | ⟨learned, rfl, rfl⟩ :=
    step_cases stepped
  · refine ⟨?_, sound_insert flight.sound (arrived_sound ..)⟩
    apply flight.exclusive.congr
    intro other
    rw [holds_insert]
    by_cases same : other = request
    · subst same
      simp [Replaying.holds, free, Carry.arrived, Carry.keys]
    · rw [Function.update_of_ne same]
  · have own : world.holds request = carry.keys := by simp [Replaying.holds, held]
    refine ⟨?_, sound_insert flight.sound (acted_sound (flight.sound request carry held) acted)⟩
    exact (acted_exclusive flight.exclusive own acted).congr fun other => holds_insert ..
  · exact ⟨flight.exclusive, flight.sound⟩

theorem run_singleFlight (ran : Replaying.machine.run { learned } labels = some world) :
    SingleFlight world := by
  apply step_singleFlight.run _ _ ran
  constructor
  · exact Exclusive.unclaimed.congr fun request => rfl
  · intro request carry held
    cases held

/-- A request is out with artifacts the lane is not proven to accept. -/
structure Carry.Probes (carry : Carry) (scheme : ReplayScheme) : Prop where
  out : ∃ plan, carry.phase = .sending plan ∧ plan ≠ .superseded
  lane : carry.lane ≠ .gray
  sends : scheme ∈ carry.schemes

theorem Carry.Sound.held_of_probes (sound : carry.Sound) {scheme : ReplayScheme}
    (probes : carry.Probes scheme) : carry.pair scheme ∈ carry.keys := by
  obtain ⟨⟨plan, stood, current⟩, lane, sends⟩ := probes
  cases plan with
  | unplanned =>
    simp only [Carry.Sound, stood] at sound
    obtain gray | nothing := sound.2
    · exact absurd gray lane
    · rw [nothing] at sends
      cases sends
  | superseded => exact absurd rfl current
  | held =>
    simp only [Carry.Sound, stood] at sound
    rw [sound]
    exact List.mem_map_of_mem sends
  | repaired =>
    simp only [Carry.Sound, stood] at sound
    rw [sound] at sends
    cases sends

/-- Whatever the requests do and whatever happens to the registry meanwhile, the claimed pairs are
those of the guards still held, each held once: a pair is never latched, and free once the
requests have ended. -/
theorem replay_single_flight (ran : Replaying.machine.run { learned } labels = some world) :
    (∀ key, key ∈ world.inFlight ↔
      ∃ request carry, world.carries.lookup request = some carry ∧ key ∈ carry.keys) ∧
    (∀ first second key, key ∈ world.holds first → key ∈ world.holds second → first = second) ∧
    (∀ request, (world.holds request).Nodup) ∧
    ((∀ request carry, world.carries.lookup request = some carry → carry.phase = .ended) →
      world.inFlight = ∅) := by
  obtain ⟨exclusive, sound⟩ := run_singleFlight ran
  refine ⟨?_, exclusive.apart, exclusive.once, ?_⟩
  · intro key
    rw [exclusive.claimed_iff key]
    constructor
    · intro claimed
      obtain ⟨request, held⟩ := claimed
      unfold Replaying.holds at held
      split at held
      · cases held
      · rename_i carry found
        exact ⟨request, carry, found, held⟩
    · intro claimed
      obtain ⟨request, carry, found, held⟩ := claimed
      refine ⟨request, ?_⟩
      simp only [Replaying.holds, found]
      exact held
  · intro ended
    apply exclusive.idle
    intro request
    unfold Replaying.holds
    split
    · rfl
    · rename_i carry found
      have settled := sound request carry found
      simp only [Carry.Sound, ended request carry found] at settled
      simp only [Carry.keys, settled, List.map_nil]

/-- At any time one request at most is out with unproven artifacts of a scheme to a lane of a
provider, unless its router was superseded, and it holds the pair. -/
theorem one_carrier_a_pair (ran : Replaying.machine.run { learned } labels = some world)
    {first second : Nat} {carry other : Carry} {scheme : ReplayScheme}
    (here : world.carries.lookup first = some carry)
    (there : world.carries.lookup second = some other)
    (probes : carry.Probes scheme) (probesToo : other.Probes scheme)
    (same : carry.pair scheme = other.pair scheme) :
    first = second ∧ carry.pair scheme ∈ world.inFlight := by
  obtain ⟨exclusive, sound⟩ := run_singleFlight ran
  have held := (sound first carry here).held_of_probes probes
  have shared := (sound second other there).held_of_probes probesToo
  have mine : carry.pair scheme ∈ world.holds first := by
    simp only [Replaying.holds, here]
    exact held
  have theirs : carry.pair scheme ∈ world.holds second := by
    simp only [Replaying.holds, there]
    exact same ▸ shared
  exact ⟨exclusive.apart first second _ mine theirs, (exclusive.claimed_iff _).mpr ⟨first, mine⟩⟩

/-- A turn with an artifact of no established scheme. -/
def sealedTurn : Message :=
  { role := .assistant, content := .null,
    reasoningDetails := [⟨.encrypted, some "rs_1", none, none, .string "sealed"⟩] }

def emptyRegistry : LearnedCapabilityRegistry := .new 3600 600 8

/-- The second request comes while the first is out, and goes stripped. -/
def peerProbed : List ReplayLabel :=
  [.arrive 0 "seat" "openai-responses" .codex 1 [sealedTurn],
   .arrive 1 "seat" "openai-responses" .codex 1 [sealedTurn],
   .act 0 (.tryAdmit 5), .act 1 (.tryAdmit 6), .act 1 .finish]

def probingCarry : Carry :=
  { Carry.arrived "seat" "openai-responses" .codex 1 [sealedTurn] with
    guards := [⟨.new "seat" "openai-responses" .codex .gray, 1⟩], phase := .sending .held }

def peerProbedWorld : Replaying :=
  (Replaying.machine.run { learned := emptyRegistry } peerProbed).getD { learned := emptyRegistry }

theorem peerProbed_run :
    Replaying.machine.run { learned := emptyRegistry } peerProbed = some peerProbedWorld := rfl

theorem peers_fly_singly : peerProbedWorld.inFlight.card = 1 ∧
    ∀ first second key, key ∈ peerProbedWorld.holds first → key ∈ peerProbedWorld.holds second →
      first = second :=
  ⟨rfl, (replay_single_flight peerProbed_run).2.1⟩

theorem probing_carry_holds : 0 = 0 ∧ probingCarry.pair .gray ∈ peerProbedWorld.inFlight :=
  have probes : probingCarry.Probes .gray :=
    ⟨⟨.held, rfl, by decide⟩, by decide, List.mem_cons_self⟩
  one_carrier_a_pair peerProbed_run rfl rfl probes probes rfl

/-! ### What is learned -/

/-- What a step writes, and what it adds to the rows. -/
theorem acted_writes (acted : carry.Acted learned inFlight action after) :
    (after.1 = learned ∧ after.2.2.told = carry.told) ∨
    (∃ (guard : ReplayProbeGuard) (now : Nat), carry.phase = .settling true ∧ after.1 = (guard.commit learned now).1 ∧
      after.2.2.told = carry.told ++ ((guard.commit learned now).2.map .learned).toList) ∨
    (∃ guard : ReplayProbeGuard, carry.phase = .settling false ∧ after.1 = (guard.clear learned).1 ∧
      after.2.2.told = carry.told ++ ((guard.clear learned).2.map .cleared).toList) := by
  cases acted with
  | admitted scheme rest now guard stood free own =>
    left
    cases rest with
    | nil => simp [Carry.told, stood]
    | cons following later => simp [Carry.told, stood]
  | refused scheme rest now onward stood goes => simp [Carry.told, stood]
  | dropped onward guard rest stood held => simp [Carry.told, stood]
  | released repaired row guard rest stood held => simp [Carry.told, stood]
  | stripped stood empty => simp [Carry.told, stood, Carry.stripped]
  | unchanged stood empty => simp [Carry.told, stood]
  | concluded stood empty =>
    obtain stood | ⟨repaired, stood⟩ := stood
    · simp [Carry.told, stood]
    · simp [Carry.told, stood]
  | rejected stood => simp [Carry.told, stood, Carry.stripped]
  | succeeded plan repaired stood which => simp [Carry.told, stood]
  | answered plan stood which => simp [Carry.told, stood]
  | committed guard rest now stood held =>
    right
    left
    exact ⟨guard, now, stood, rfl, by simp [Carry.told, stood]⟩
  | cleared guard rest now stood held =>
    right
    right
    exact ⟨guard, stood, rfl, by simp [Carry.told, stood]⟩
  | abandoned plan stood => simp [Carry.told, stood]

/-- A request was rejected, and its repair went through. -/
def Confirmed (acts : List CarryAct) : Prop := [CarryAct.reject, .succeed].Sublist acts

/-- A request went through as it was first sent. -/
def Unrejected (acts : List CarryAct) : Prop := .succeed ∈ acts ∧ .reject ∉ acts

def LearnedOnly (rows : List ReplayRow) : Prop := ∀ event, .cleared event ∉ rows
def ClearedOnly (rows : List ReplayRow) : Prop := ∀ event, .learned event ∉ rows

/-- What a request's steps so far say of its phase and its rows. -/
def Carry.Explained (acts : List CarryAct) (carry : Carry) : Prop :=
  match carry.phase with
  | .sending .repaired => .reject ∈ acts ∧ carry.rows = []
  | .dropping .finished => carry.rows = []
  | .admitting _ | .sending _ | .dropping _ => .reject ∉ acts ∧ carry.rows = []
  | .settling true | .releasing true _ => Confirmed acts ∧ LearnedOnly carry.told
  | .settling false | .releasing false _ => Unrejected acts ∧ ClearedOnly carry.told
  | .ended => carry.rows = [] ∨ (Confirmed acts ∧ LearnedOnly carry.rows) ∨
      (Unrejected acts ∧ ClearedOnly carry.rows)

theorem Confirmed.append {acts : List CarryAct} (confirmed : Confirmed acts) (action : CarryAct) :
    Confirmed (acts ++ [action]) := confirmed.trans (List.sublist_append_left acts [action])

theorem Unrejected.append {acts : List CarryAct} (unrejected : Unrejected acts)
    (other : action ≠ .reject) : Unrejected (acts ++ [action]) := by
  refine ⟨List.mem_append_left _ unrejected.1, ?_⟩
  intro rejected
  obtain earlier | now := List.mem_append.mp rejected
  · exact unrejected.2 earlier
  · exact other (List.mem_singleton.mp now).symm

theorem acted_explained {acts : List CarryAct} (explained : carry.Explained acts)
    (acted : carry.Acted learned inFlight action after) :
    after.2.2.Explained (acts ++ [action]) := by
  cases acted with
  | admitted scheme rest now guard stood free own =>
    simp only [Carry.Explained, stood] at explained
    cases rest with
    | nil => simpa [Carry.Explained] using explained
    | cons following later => simpa [Carry.Explained] using explained
  | refused scheme rest now onward stood goes =>
    simp only [Carry.Explained, stood] at explained
    cases onward with
    | finished => exact absurd rfl goes
    | stripped => simpa [Carry.Explained] using explained
    | unchanged => simpa [Carry.Explained] using explained
  | dropped onward guard rest stood held =>
    cases onward with
    | finished =>
      simp only [Carry.Explained, stood] at explained ⊢
      exact explained
    | stripped => simpa [Carry.Explained, stood] using explained
    | unchanged => simpa [Carry.Explained, stood] using explained
  | released repaired row guard rest stood held =>
    cases repaired with
    | false =>
      simp only [Carry.Explained, Carry.told, stood] at explained ⊢
      exact ⟨explained.1.append (by simp), explained.2⟩
    | true =>
      simp only [Carry.Explained, Carry.told, stood] at explained ⊢
      exact ⟨explained.1.append _, explained.2⟩
  | stripped stood empty => simpa [Carry.Explained, stood, Carry.stripped] using explained
  | unchanged stood empty => simpa [Carry.Explained, stood] using explained
  | concluded stood empty =>
    obtain stood | ⟨repaired, stood⟩ := stood
    · simp only [Carry.Explained, stood] at explained ⊢
      exact Or.inl explained
    · cases repaired with
      | false =>
        simp only [Carry.Explained, Carry.told, stood] at explained ⊢
        exact Or.inr (Or.inr ⟨explained.1.append (by simp), explained.2⟩)
      | true =>
        simp only [Carry.Explained, Carry.told, stood] at explained ⊢
        exact Or.inr (Or.inl ⟨explained.1.append _, explained.2⟩)
  | rejected stood =>
    simp only [Carry.Explained, stood] at explained
    simp [Carry.Explained, Carry.stripped, explained.2]
  | succeeded plan repaired stood which =>
    cases repaired with
    | false =>
      obtain rfl : plan = .held := which
      simp only [Carry.Explained, stood] at explained
      simp [Carry.Explained, Carry.told, Unrejected, ClearedOnly, explained]
    | true =>
      obtain rfl : plan = .repaired := which
      simp only [Carry.Explained, stood] at explained
      refine ⟨?_, ?_⟩
      · have rejected : [CarryAct.reject].Sublist acts :=
          List.singleton_sublist.mpr explained.1
        exact rejected.append (List.Sublist.refl [CarryAct.succeed])
      · simp [Carry.told, LearnedOnly, explained]
  | answered plan stood which =>
    obtain rfl | rfl := which
    · simp only [Carry.Explained, stood] at explained ⊢
      exact Or.inl explained.2
    · simp only [Carry.Explained, stood] at explained ⊢
      exact Or.inl explained.2
  | committed guard rest now stood held =>
    simp only [Carry.Explained, Carry.told, stood] at explained ⊢
    refine ⟨explained.1.append _, ?_⟩
    intro event told
    obtain earlier | added := List.mem_append.mp told
    · exact explained.2 event earlier
    · obtain ⟨row, -, same⟩ := Option.map_eq_some_iff.mp (Option.mem_toList.mp added)
      cases same
  | cleared guard rest now stood held =>
    simp only [Carry.Explained, Carry.told, stood] at explained ⊢
    refine ⟨explained.1.append (by simp), ?_⟩
    intro event told
    obtain earlier | added := List.mem_append.mp told
    · exact explained.2 event earlier
    · obtain ⟨row, -, same⟩ := Option.map_eq_some_iff.mp (Option.mem_toList.mp added)
      cases same
  | abandoned plan stood =>
    cases plan with
    | repaired =>
      simp only [Carry.Explained, stood] at explained ⊢
      exact explained.2
    | unplanned =>
      simp only [Carry.Explained, stood] at explained ⊢
      exact explained.2
    | superseded =>
      simp only [Carry.Explained, stood] at explained ⊢
      exact explained.2
    | held =>
      simp only [Carry.Explained, stood] at explained ⊢
      exact explained.2

theorem explained_told {acts : List CarryAct} (explained : carry.Explained acts) :
    carry.told = [] ∨ (Confirmed acts ∧ LearnedOnly carry.told) ∨
      (Unrejected acts ∧ ClearedOnly carry.told) := by
  cases stood : carry.phase with
  | admitting remaining =>
    simp only [Carry.Explained, stood] at explained
    simp [Carry.told, stood, explained]
  | dropping onward =>
    cases onward with
    | finished =>
      simp only [Carry.Explained, stood] at explained
      simp [Carry.told, stood, explained]
    | stripped =>
      simp only [Carry.Explained, stood] at explained
      simp [Carry.told, stood, explained]
    | unchanged =>
      simp only [Carry.Explained, stood] at explained
      simp [Carry.told, stood, explained]
  | sending plan =>
    left
    cases plan with
    | repaired =>
      simp only [Carry.Explained, stood] at explained
      simp [Carry.told, stood, explained]
    | unplanned =>
      simp only [Carry.Explained, stood] at explained
      simp [Carry.told, stood, explained]
    | superseded =>
      simp only [Carry.Explained, stood] at explained
      simp [Carry.told, stood, explained]
    | held =>
      simp only [Carry.Explained, stood] at explained
      simp [Carry.told, stood, explained]
  | settling repaired =>
    cases repaired with
    | true =>
      simp only [Carry.Explained, stood] at explained
      exact Or.inr (Or.inl explained)
    | false =>
      simp only [Carry.Explained, stood] at explained
      exact Or.inr (Or.inr explained)
  | releasing repaired row =>
    cases repaired with
    | true =>
      simp only [Carry.Explained, stood] at explained
      exact Or.inr (Or.inl explained)
    | false =>
      simp only [Carry.Explained, stood] at explained
      exact Or.inr (Or.inr explained)
  | ended =>
    simp only [Carry.Explained, stood] at explained
    simpa only [Carry.told, stood] using explained

/-- What one request did along a run. -/
def actsOf (request : Nat) (labels : List ReplayLabel) : List CarryAct :=
  labels.filterMap fun
    | .act other action => if other = request then some action else none
    | _ => none

/-- Why an entry is resident: it was there at the start, came from elsewhere, or is told by a
request's row, at its incarnation. -/
def Originates (start : LearnedCapabilityRegistry) (labels : List ReplayLabel)
    (carries : KeyedMap Nat Carry) (key : RegistryKey) (entry : LearnedEntry) : Prop :=
  start.entries.lookup key = some entry ∨
  (∃ other, .elsewhere other ∈ labels ∧ other.entries.lookup key = some entry) ∨
  ∃ request carry event, carries.lookup request = some carry ∧ .learned event ∈ carry.told ∧
    event.incarnation = entry.incarnation ∧
    (⟨event.stateKey, event.capabilityKey⟩ : RegistryKey) = key

/-- Every request is explained by its acts, every resident entry has an origin. -/
structure Traced (start : LearnedCapabilityRegistry) (labels : List ReplayLabel)
    (world : Replaying) : Prop where
  absent : ∀ request, world.carries.lookup request = none → actsOf request labels = []
  explained : ∀ request carry, world.carries.lookup request = some carry →
    carry.Explained (actsOf request labels)
  resident : ∀ key entry, world.learned.entries.lookup key = some entry →
    Originates start labels world.carries key entry

theorem actsOf_concat_other {request : Nat} (apart : ∀ action, label ≠ .act request action) :
    actsOf request (labels ++ [label]) = actsOf request labels := by
  rw [actsOf, List.filterMap_append]
  cases label with
  | arrive other provider providerKind lane generation messages => simp [actsOf]
  | elsewhere other => simp [actsOf]
  | act other done =>
    have different : other ≠ request := by
      intro same
      exact apart done (same ▸ rfl)
    simp [actsOf, different]

theorem actsOf_concat_self (request : Nat) (labels : List ReplayLabel) (action : CarryAct) :
    actsOf request (labels ++ [.act request action]) = actsOf request labels ++ [action] := by
  simp [actsOf, List.filterMap_append]

theorem arrived_explained (provider providerKind : String) (lane : ReplayScheme)
    (generation : Nat) (messages : List Message) :
    (Carry.arrived provider providerKind lane generation messages).Explained [] := by
  unfold Carry.arrived
  split
  · simp [Carry.Explained]
  · cases nonportableSchemes messages lane with
    | nil => simp [Carry.Explained]
    | cons scheme rest => simp [Carry.Explained]

/-- An origin stands as long as the rows of every request do. -/
theorem Originates.onward {start : LearnedCapabilityRegistry} {carries later : KeyedMap Nat Carry}
    {key : RegistryKey} {entry : LearnedEntry}
    (origin : Originates start labels carries key entry) (label : ReplayLabel)
    (grown : ∀ request carry, carries.lookup request = some carry →
      ∃ following, later.lookup request = some following ∧
        ∀ row ∈ carry.told, row ∈ following.told) :
    Originates start (labels ++ [label]) later key entry := by
  obtain kept | ⟨other, put, there⟩ | ⟨request, carry, event, found, told, spec⟩ := origin
  · exact Or.inl kept
  · exact Or.inr (Or.inl ⟨other, List.mem_append_left _ put, there⟩)
  · obtain ⟨following, present, more⟩ := grown request carry found
    exact Or.inr (Or.inr ⟨request, following, event, present, more _ told, spec⟩)

theorem acted_told (acted : carry.Acted learned inFlight action after) :
    ∀ row ∈ carry.told, row ∈ after.2.2.told := by
  intro row told
  obtain ⟨-, same⟩ | ⟨guard, now, -, -, more⟩ | ⟨guard, -, -, more⟩ := acted_writes acted
  · rw [same]
    exact told
  · rw [more]
    exact List.mem_append_left _ told
  · rw [more]
    exact List.mem_append_left _ told

theorem acted_grown {carries : KeyedMap Nat Carry} {request : Nat}
    (held : carries.lookup request = some carry)
    (acted : carry.Acted learned inFlight action after) :
    ∀ other found, carries.lookup other = some found →
      ∃ following, (carries.insert request after.2.2).lookup other = some following ∧
        ∀ row ∈ found.told, row ∈ following.told := by
  intro other found present
  by_cases same : other = request
  · subst same
    obtain rfl := Option.some.inj (held.symm.trans present)
    exact ⟨after.2.2, AList.lookup_insert _, acted_told acted⟩
  · exact ⟨found, (AList.lookup_insert_ne same).trans present, fun row told => told⟩

theorem acted_resident {start : LearnedCapabilityRegistry} {request : Nat} {key : RegistryKey}
    {entry : LearnedEntry} (traced : Traced start labels world)
    (held : world.carries.lookup request = some carry)
    (acted : carry.Acted world.learned world.inFlight action after)
    (resident : after.1.entries.lookup key = some entry) :
    Originates start (labels ++ [.act request action]) (world.carries.insert request after.2.2)
      key entry := by
  have onward := fun earlier => (traced.resident key entry earlier).onward (.act request action)
    (acted_grown held acted)
  obtain ⟨same, -⟩ | ⟨guard, now, -, written, more⟩ | ⟨guard, -, written, -⟩ := acted_writes acted
  · rw [same] at resident
    exact onward resident
  · rw [written] at resident
    obtain earlier | ⟨event, emitted, incarnation, own⟩ := commit_resident resident
    · exact onward earlier
    · refine Or.inr (Or.inr ⟨request, after.2.2, event, AList.lookup_insert _, ?_, incarnation,
        own⟩)
      rw [more, emitted]
      exact List.mem_append_right _ List.mem_cons_self
  · rw [written] at resident
    exact onward (clear_resident resident)

theorem step_traced {start : LearnedCapabilityRegistry} (traced : Traced start labels world)
    (stepped : world.step label = some next) : Traced start (labels ++ [label]) next := by
  obtain ⟨request, provider, providerKind, lane, generation, messages, rfl, free, rfl⟩ |
    ⟨request, action, carry, after, rfl, held, acted, rfl⟩ | ⟨learned, rfl, rfl⟩ :=
    step_cases stepped
  · have quiet : ∀ other, actsOf other (labels ++ [.arrive request provider providerKind lane
        generation messages]) = actsOf other labels :=
      fun other => actsOf_concat_other fun action same => by cases same
    constructor
    · intro other missing
      rw [quiet]
      by_cases same : other = request
      · subst same
        exact traced.absent other free
      · rw [AList.lookup_insert_ne same] at missing
        exact traced.absent other missing
    · intro other carry found
      rw [quiet]
      by_cases same : other = request
      · subst same
        rw [AList.lookup_insert] at found
        obtain rfl := Option.some.inj found
        rw [traced.absent other free]
        exact arrived_explained ..
      · rw [AList.lookup_insert_ne same] at found
        exact traced.explained other carry found
    · intro key entry resident
      apply (traced.resident key entry resident).onward
      intro other carry found
      have apart : other ≠ request := by
        intro same
        rw [same, free] at found
        cases found
      exact ⟨carry, (AList.lookup_insert_ne apart).trans found, fun row told => told⟩
  · constructor
    · intro other missing
      have apart : other ≠ request := by
        intro same
        subst same
        rw [AList.lookup_insert] at missing
        cases missing
      rw [AList.lookup_insert_ne apart] at missing
      rw [actsOf_concat_other fun done same => apart (ReplayLabel.act.inj same).1.symm]
      exact traced.absent other missing
    · intro other carry' found
      by_cases same : other = request
      · subst same
        rw [AList.lookup_insert] at found
        obtain rfl := Option.some.inj found
        rw [actsOf_concat_self]
        exact acted_explained (traced.explained other carry held) acted
      · rw [AList.lookup_insert_ne same] at found
        rw [actsOf_concat_other fun done equal => same (ReplayLabel.act.inj equal).1.symm]
        exact traced.explained other carry' found
    · intro key entry resident
      exact acted_resident traced held acted resident
  · have quiet : ∀ other, actsOf other (labels ++ [.elsewhere learned]) = actsOf other labels :=
      fun other => actsOf_concat_other fun action same => by cases same
    constructor
    · intro other missing
      rw [quiet]
      exact traced.absent other missing
    · intro other carry found
      rw [quiet]
      exact traced.explained other carry found
    · intro key entry resident
      exact Or.inr (Or.inl ⟨learned, List.mem_append_right _ List.mem_cons_self, resident⟩)

theorem run_traced (ran : Replaying.machine.run { learned } labels = some world) :
    Traced learned labels world := by
  induction labels using List.reverseRecOn generalizing world with
  | nil =>
    obtain rfl := Option.some.inj ran
    constructor
    · intro request missing
      rfl
    · intro request carry held
      cases held
    · intro key entry resident
      exact Or.inl resident
  | append_singleton earlier label ih =>
    obtain ⟨middle, reached, last⟩ := Replaying.machine.run_append_eq_some.mp ran
    obtain ⟨final, stepped, done⟩ := Replaying.machine.run_cons_eq_some.mp last
    obtain rfl := Option.some.inj done
    exact step_traced (ih reached) stepped

/-- A negative is learned from a rejection that its repair confirmed, and cleared by a carry that
was never rejected: each entry was there before, came from elsewhere, or is told by such a
request's row, and there are no other rows. -/
theorem replay_learns_from_repairs (ran : Replaying.machine.run { learned } labels = some world) :
    (∀ key entry, world.learned.entries.lookup key = some entry →
      Originates learned labels world.carries key entry) ∧
    ∀ request carry, world.carries.lookup request = some carry →
      (∀ event, .learned event ∈ carry.told → Confirmed (actsOf request labels)) ∧
      ∀ event, .cleared event ∈ carry.told → Unrejected (actsOf request labels) := by
  have traced := run_traced ran
  refine ⟨traced.resident, ?_⟩
  intro request carry held
  have told := explained_told (traced.explained request carry held)
  constructor
  · intro event learned
    obtain nothing | ⟨confirmed, -⟩ | ⟨-, cleared⟩ := told
    · rw [nothing] at learned
      cases learned
    · exact confirmed
    · exact absurd learned (cleared event)
  · intro event cleared
    obtain nothing | ⟨-, learned⟩ | ⟨unrejected, -⟩ := told
    · rw [nothing] at cleared
      cases cleared
    · exact absurd cleared (learned event)
    · exact unrejected

/-- A rejection, and the repair that confirms it. -/
def repairConfirmed : List ReplayLabel :=
  [.arrive 0 "seat" "openai-responses" .codex 1 [sealedTurn], .act 0 (.tryAdmit 5), .act 0 .reject,
   .act 0 .succeed, .act 0 (.settle 9), .act 0 .release, .act 0 .finish]

def repairConfirmedWorld : Replaying :=
  (Replaying.machine.run { learned := emptyRegistry } repairConfirmed).getD
    { learned := emptyRegistry }

theorem repairConfirmed_run : Replaying.machine.run { learned := emptyRegistry } repairConfirmed =
    some repairConfirmedWorld := rfl

theorem confirmed_repair_is_learned :
    (repairConfirmedWorld.learned.entries.lookup ⟨"seat#codex", "reasoning_replay:gray"⟩).isSome ∧
      ∀ key entry, repairConfirmedWorld.learned.entries.lookup key = some entry →
        Originates emptyRegistry repairConfirmed repairConfirmedWorld.carries key entry :=
  ⟨rfl, (replay_learns_from_repairs repairConfirmed_run).1⟩

end Worlds
end Routectl.Learn
