import Routectl.Library.Decimal
import Routectl.Library.KeyedMap
import Routectl.Registry.Entry

/-! The paid-probe reservation: the key and the count a unit is stored under, and the
one immediate transaction that spends it. -/
namespace Routectl.Usage
open Library Registry

def msPerUtcDay : Int := 86400000
def reservationKeyPrefix : String := "paid_probe_reservation:v1"

inductive MalformedUnits where
  | empty
  | leadingZero
  | nonDigit
  | overflow
deriving Repr, DecidableEq

/-- Floored, so an instant before the epoch lands on one day as well. -/
def utcDayFromEpochMs (epochMs : Int) : Int := epochMs / msPerUtcDay

def hexDigits : List Char :=
  ['0', '1', '2', '3', '4', '5', '6', '7', '8', '9', 'a', 'b', 'c', 'd', 'e', 'f']

def hexByte (byte : UInt8) : List Char :=
  [hexDigits.getD (byte.toNat / 16) '0', hexDigits.getD (byte.toNat % 16) '0']

def asBytes (text : String) : List UInt8 := text.toList.flatMap String.utf8EncodeChar

def reservationKey (utcDay : Int) (provider : String) : String :=
  reservationKeyPrefix ++ ":" ++ utcDay.repr ++ ":" ++
    String.ofList ((asBytes provider).flatMap hexByte)

def formatUnits (units : Nat) : String := units.repr

def parseUnits (raw : String) : Except MalformedUnits Nat :=
  if raw.toList = [] then .error .empty
  else if !raw.toList.all Char.isDigit then .error .nonDigit
  else if 1 < raw.toList.length && raw.toList.head? = some '0' then .error .leadingZero
  else
    let units := Nat.ofDigitChars 10 raw.toList 0
    if u32Max < units then .error .overflow else .ok units

inductive StoredReservation where
  | committed (utcDay : Int) (used cap : Nat)
  | capExhausted
  | malformedState
  | writeFailed
deriving Repr, DecidableEq

/-- Where the storage may fail a reservation, an unopened database included. -/
inductive StorageFault where
  | connection
  | transaction
  | select
  | upsert
  | commit
deriving Repr, DecidableEq

/-- The control table; a transaction that does not commit leaves it as it was. -/
abbrev Meta := KeyedMap String String

def reserveOneUnit (stored : Meta) (provider : String) (cap : Nat) (nowEpochMs : Int)
    (fault : Option StorageFault) : Meta × StoredReservation :=
  let utcDay := utcDayFromEpochMs nowEpochMs
  let key := reservationKey utcDay provider
  if fault = some .connection || fault = some .transaction || fault = some .select then
    (stored, .writeFailed)
  else
    match ((stored.lookup key).map parseUnits).getD (.ok 0) with
    | .error _ => (stored, .malformedState)
    | .ok used =>
      if u32Max < used + 1 then (stored, .capExhausted)
      else if cap < used + 1 then (stored, .capExhausted)
      else if fault = some .upsert || fault = some .commit then (stored, .writeFailed)
      else
        (stored.insert key (formatUnits (used + 1)), .committed utcDay (used + 1) cap)

section Units

theorem parseUnits_ok_iff {raw : String} {units : Nat} :
    parseUnits raw = .ok units ↔ units ≤ u32Max ∧ raw = formatUnits units := by
  constructor
  · intro parsed
    unfold parseUnits at parsed
    split at parsed
    · cases parsed
    · rename_i nonempty
      split at parsed
      · cases parsed
      · rename_i digit
        split at parsed
        · cases parsed
        · rename_i unpadded
          dsimp only at parsed
          split at parsed
          · cases parsed
          · rename_i small
            obtain rfl := Except.ok.inj parsed
            have canonical : Decimal.Canonical raw.toList :=
              { nonempty
                digit := by simpa using digit
                unpadded := by simpa using unpadded }
            refine ⟨Nat.not_lt.mp small, ?_⟩
            rw [formatUnits, Nat.repr_eq_ofList_toDigits, Decimal.toDigits_ofDigitChars canonical,
              String.ofList_toList]
  · rintro ⟨small, rfl⟩
    have canonical := Decimal.canonical_toDigits units
    have padded : ¬((1 < (Nat.toDigits 10 units).length &&
        decide ((Nat.toDigits 10 units).head? = some '0')) = true) := by
      simpa using canonical.unpadded
    have digit : (Nat.toDigits 10 units).all Char.isDigit = true :=
      List.all_eq_true.mpr canonical.digit
    unfold parseUnits formatUnits
    rw [Nat.toList_repr, if_neg canonical.nonempty, digit, if_neg (by simp), if_neg padded]
    simp [Nat.not_lt.mpr small]

end Units

section Keys

theorem hexDigit_injective {first second : Nat} (inside : first < 16) (within : second < 16)
    (same : hexDigits.getD first '0' = hexDigits.getD second '0') : first = second := by
  have table : ∀ first < 16, ∀ second < 16,
      hexDigits.getD first '0' = hexDigits.getD second '0' → first = second := by decide
  exact table first inside second within same

theorem hexByte_injective {first second : UInt8} (same : hexByte first = hexByte second) :
    first = second := by
  obtain ⟨high, low⟩ : hexDigits.getD (first.toNat / 16) '0' =
      hexDigits.getD (second.toNat / 16) '0' ∧
        hexDigits.getD (first.toNat % 16) '0' = hexDigits.getD (second.toNat % 16) '0' := by
    simpa [hexByte] using same
  have bound := first.toNat_lt
  have other := second.toNat_lt
  have quotients := hexDigit_injective (by omega) (by omega) high
  have remainders := hexDigit_injective (by omega) (by omega) low
  exact UInt8.toNat_inj.mp (by omega)

theorem hex_injective {first second : List UInt8}
    (same : first.flatMap hexByte = second.flatMap hexByte) : first = second := by
  induction first generalizing second with
  | nil =>
    cases second with
    | nil => rfl
    | cons byte rest => simp [hexByte] at same
  | cons byte rest ih =>
    cases second with
    | nil => simp [hexByte] at same
    | cons other others =>
      rw [List.flatMap_cons, List.flatMap_cons] at same
      obtain ⟨head, tail⟩ := List.append_inj same rfl
      rw [hexByte_injective head, ih tail]

theorem hex_unseparated (bytes : List UInt8) : ':' ∉ bytes.flatMap hexByte := by
  have table : ∀ digit < 16, ':' ≠ hexDigits.getD digit '0' := by decide
  intro member
  obtain ⟨byte, -, inside⟩ := List.mem_flatMap.mp member
  have bound := byte.toNat_lt
  rcases List.mem_pair.mp inside with high | low
  · exact table _ (by omega) high
  · exact table _ (by omega) low

theorem asBytes_injective {first second : String} (same : asBytes first = asBytes second) :
    first = second := by
  have encoded : first.toList.utf8Encode = second.toList.utf8Encode :=
    congrArg List.toByteArray same
  rw [String.utf8Encode_toList, String.utf8Encode_toList] at encoded
  exact String.toByteArray_inj.mp encoded

theorem repr_unseparated (day : Int) : ':' ∉ day.repr.toList := by
  have digits (number : Nat) : ':' ∉ number.repr.toList := by
    intro member
    rw [Nat.toList_repr] at member
    exact absurd (Nat.isDigit_of_mem_toDigits (by decide) (by decide) member) (by decide)
  rw [Int.repr_eq_if]
  split
  · exact digits _
  · rw [String.toList_append, List.mem_append, not_or]
    exact ⟨by decide, digits _⟩

theorem repr_injective {first second : Int} (same : first.repr = second.repr) :
    first = second := by
  have printed {number other : Nat} (same : number.repr = other.repr) : number = other := by
    have digits := congrArg String.toList same
    rw [Nat.toList_repr, Nat.toList_repr] at digits
    rw [← @Nat.ofDigitChars_ten_toDigits number, digits, Nat.ofDigitChars_ten_toDigits]
  have signed (number other : Nat) : number.repr ≠ "-" ++ other.repr := by
    intro same
    have first : '-' ∈ number.repr.toList := by simp [same]
    rw [Nat.toList_repr] at first
    exact absurd (Nat.isDigit_of_mem_toDigits (by decide) (by decide) first) (by decide)
  rw [Int.repr_eq_if, Int.repr_eq_if] at same
  split at same
  · split at same
    · have equal := printed same
      omega
    · exact absurd same (signed _ _)
  · split at same
    · exact absurd same.symm (signed _ _)
    · have equal := printed (String.append_right_inj _ |>.mp same)
      omega

/-- Distinct provider days never share a key, whatever the provider is named. -/
theorem reservationKey_injective {firstDay secondDay : Int} {first second : String}
    (same : reservationKey firstDay first = reservationKey secondDay second) :
    firstDay = secondDay ∧ first = second := by
  have keys : firstDay.repr.toList ++ ':' :: (asBytes first).flatMap hexByte =
      secondDay.repr.toList ++ ':' :: (asBytes second).flatMap hexByte := by
    have lists := congrArg String.toList same
    simpa [reservationKey] using lists
  obtain ⟨days, -, providers⟩ := (List.append_cons_inj_of_notMem (repr_unseparated firstDay)
    (hex_unseparated (asBytes first))).mp keys
  exact ⟨repr_injective (String.toList_inj.mp days), asBytes_injective (hex_injective providers)⟩

end Keys
end Routectl.Usage
