import Mathlib.Data.Vector.Basic
import Routectl.Library.LruCache

/-! The session anchor of the context meter: a bounded map of records in recency order,
each under the turn that was reserved for it. -/
namespace Routectl.ContextAnchor
open Library

def maxAnchorSessionKeyBytes : Nat := 256
def maxAnchorModelBytes : Nat := 256

/-- A session and the model it asked for, within their bounds. -/
structure AnchorKey where
  sessionKey : String
  requestedModel : String
  sessionBounded : sessionKey.utf8ByteSize ≤ maxAnchorSessionKeyBytes
  modelBounded : requestedModel.utf8ByteSize ≤ maxAnchorModelBytes
deriving DecidableEq

/-- No key where a part is over its bound: the request is then not anchored. -/
def AnchorKey.new (sessionKey requestedModel : String) : Option AnchorKey :=
  if bounded : sessionKey.utf8ByteSize ≤ maxAnchorSessionKeyBytes ∧
      requestedModel.utf8ByteSize ≤ maxAnchorModelBytes then
    some ⟨sessionKey, requestedModel, bounded.1, bounded.2⟩
  else none

structure AnchorLane where
  providerKind : String
  nickname : String
  upstreamModel : String
  generation : Nat
deriving Repr, DecidableEq

abbrev PrefixDigest := List.Vector UInt8 32

/-- What a request contributes; no digest where it could not be hashed. -/
structure RequestIdentity where
  messageCount : Nat
  digest : Option PrefixDigest
  priorPrefix : Option (Nat × PrefixDigest)
  normalizedBytes : Nat
  normalizedEstimate : Nat

structure AnchorRecord where
  messageCount : Nat
  prefixDigest : PrefixDigest
  normalizedEstimate : Nat
  actualInput : Nat
  lane : AnchorLane
  turn : Nat

structure TurnTicket where
  key : AnchorKey
  turn : Nat
deriving DecidableEq

inductive TurnOutcome where
  | completed (servedLane : AnchorLane) (cacheInclusiveInput : Option Nat)
  | failed
  | cancelled

inductive SettleOutcome where
  | published
  | superseded
  | notPublished
deriving Repr, DecidableEq

def anchorCapacity : Nat := 4096

/-- `evictedThrough` is the newest turn that any evicted record carried. -/
structure ContextAnchorStore where
  records : KeyedMap AnchorKey AnchorRecord := ∅
  evictedThrough : Option Nat := none
  nextTurn : Nat := 0

/-- The record a turn would publish: of a completion that reported its input and whose
request was hashed. -/
def measuredRecord (identity : RequestIdentity) (turn : Nat) : TurnOutcome → Option AnchorRecord
  | .completed servedLane (some actualInput) =>
    identity.digest.map fun prefixDigest =>
      { messageCount := identity.messageCount
        prefixDigest
        normalizedEstimate := identity.normalizedEstimate
        actualInput
        lane := servedLane
        turn }
  | _ => none

namespace ContextAnchorStore
variable (store : ContextAnchorStore)

def get (key : AnchorKey) : ContextAnchorStore × Option AnchorRecord :=
  let (records, record) := LruCache.get key store.records
  ({ store with records }, record)

/-- The counter wraps as the machine word does. -/
def reserveTurn (key : AnchorKey) : ContextAnchorStore × TurnTicket :=
  ({ store with nextTurn := (store.nextTurn + 1) % 2 ^ 64 }, { key, turn := store.nextTurn })

/-- A newer turn holds the key. -/
def newerHeld (key : AnchorKey) (turn : Nat) : Bool :=
  (store.records.lookup key).any fun held => turn < held.turn

/-- A newer turn may have held the key and been forgotten. -/
def maybeNewerEvicted (turn : Nat) : Bool :=
  store.evictedThrough.any fun through => turn ≤ through

def publish (key : AnchorKey) (record : AnchorRecord) : ContextAnchorStore × SettleOutcome :=
  if store.newerHeld key record.turn || store.maybeNewerEvicted record.turn then
    (store, .superseded)
  else
    match LruCache.push anchorCapacity key record store.records with
    | (records, some (evictedKey, evicted)) =>
      ({ store with
          records
          evictedThrough :=
            if evictedKey = key then store.evictedThrough
            else some ((store.evictedThrough.map fun through =>
              max through evicted.turn).getD evicted.turn) }, .published)
    | (records, none) => ({ store with records }, .published)

def settle (ticket : TurnTicket) (identity : RequestIdentity) (outcome : TurnOutcome) :
    ContextAnchorStore × SettleOutcome :=
  match measuredRecord identity ticket.turn outcome with
  | none => (store, .notPublished)
  | some record => store.publish ticket.key record

end ContextAnchorStore

section Publishing
variable {store : ContextAnchorStore} {key other : AnchorKey} {record : AnchorRecord}

theorem measuredRecord_turn {identity : RequestIdentity} {turn : Nat} {outcome : TurnOutcome}
    (measured : measuredRecord identity turn outcome = some record) : record.turn = turn := by
  unfold measuredRecord at measured
  split at measured
  case h_1 =>
    obtain ⟨_, _, rfl⟩ := Option.map_eq_some_iff.mp measured
    rfl
  case h_2 => cases measured

theorem anchorCapacity_pos : 0 < anchorCapacity := by decide

/-- A record put under its key: others stay or are marked as they leave. -/
structure Publishes (store : ContextAnchorStore) (key : AnchorKey) (record : AnchorRecord)
    (next : ContextAnchorStore) : Prop where
  written : next.records.lookup key = some record
  raised : ∀ through, store.evictedThrough = some through →
    ∃ higher, next.evictedThrough = some higher ∧ through ≤ higher
  others : ∀ other, other ≠ key → next.records.lookup other = store.records.lookup other ∨
    ∃ held through, store.records.lookup other = some held ∧ next.records.lookup other = none ∧
      next.evictedThrough = some through ∧ held.turn ≤ through
  marked : ∀ through, next.evictedThrough = some through →
    store.evictedThrough = some through ∨ ∃ other held, store.records.lookup other = some held ∧
      next.records.lookup other = none ∧ held.turn = through

/-- A publication is refused and changes nothing, or no newer turn may hold the key. -/
theorem publish_cases (store : ContextAnchorStore) (key : AnchorKey) (record : AnchorRecord) :
    ((store.newerHeld key record.turn || store.maybeNewerEvicted record.turn) = true ∧
        store.publish key record = (store, .superseded)) ∨
      ∃ next, (store.newerHeld key record.turn || store.maybeNewerEvicted record.turn) = false ∧
        store.publish key record = (next, .published) ∧ Publishes store key record next := by
  unfold ContextAnchorStore.publish
  split
  case isTrue refused => exact .inl ⟨refused, rfl⟩
  case isFalse allowed =>
    right
    have written := @LruCache.lookup_push_self _ _ _ store.records key record _ anchorCapacity_pos
    have others {other : AnchorKey} (different : other ≠ key) :=
      @LruCache.lookup_push_other _ _ _ store.records key other record anchorCapacity different
    split
    case h_1 records evictedKey evicted pushed =>
      rw [pushed] at written
      refine ⟨_, Bool.eq_false_iff.mpr allowed, rfl, written, ?_, ?_, ?_⟩
      · intro through marked
        dsimp only
        split
        case isTrue => exact ⟨through, marked, Nat.le_refl _⟩
        case isFalse =>
          rw [marked]
          exact ⟨_, rfl, Nat.le_max_left _ _⟩
      · intro other different
        rcases others different with kept | ⟨held, resident, left, gone⟩
        · rw [pushed] at kept
          exact .inl kept
        · rw [pushed] at left gone
          obtain ⟨rfl, rfl⟩ := Prod.mk.inj (Option.some.inj left)
          right
          dsimp only
          rw [if_neg different]
          cases marked : store.evictedThrough with
          | none => exact ⟨evicted, evicted.turn, resident, gone, rfl, Nat.le_refl _⟩
          | some through =>
            exact ⟨evicted, max through evicted.turn, resident, gone, rfl, Nat.le_max_right _ _⟩
      · intro through marked
        dsimp only at marked
        split at marked
        case isTrue => exact .inl marked
        case isFalse different =>
          have evicts := LruCache.push_evicts different (congrArg Prod.snd pushed)
          rw [pushed] at evicts
          cases before : store.evictedThrough with
          | none =>
            rw [before] at marked
            exact .inr ⟨evictedKey, evicted, evicts.1, evicts.2, Option.some.inj marked⟩
          | some earlier =>
            rw [before] at marked
            have highest : max earlier evicted.turn = through := Option.some.inj marked
            rcases Nat.le_total evicted.turn earlier with le | le
            · rw [Nat.max_eq_left le] at highest
              exact .inl (congrArg some highest)
            · rw [Nat.max_eq_right le] at highest
              exact .inr ⟨evictedKey, evicted, evicts.1, evicts.2, highest⟩
    case h_2 records pushed =>
      rw [pushed] at written
      refine ⟨_, Bool.eq_false_iff.mpr allowed, rfl, written,
        fun through marked => ⟨through, marked, Nat.le_refl _⟩, ?_, fun through => .inl⟩
      intro other different
      rcases others different with kept | ⟨held, resident, left, gone⟩
      · rw [pushed] at kept
        exact .inl kept
      · rw [pushed] at left
        cases left

end Publishing
end Routectl.ContextAnchor
