import Mathlib.Algebra.Ring.Nat
import Mathlib.Data.List.Basic

/-! JSON values and their compact text, as bytes. A number is held as its own
text, and an object keeps its fields in the order they are written. -/
namespace Library

inductive Json where
  | null
  | bool (value : Bool)
  | number (text : String)
  | string (text : String)
  | array (items : List Json)
  | object (fields : List (String × Json))

namespace Json

/-- A field of an object; no other value has any. -/
def field (name : String) : Json → Option Json
  | .object fields => fields.lookup name
  | _ => none

def asStr : Json → Option String
  | .string text => some text
  | _ => none

/-- A number written without sign, fraction or exponent, where 64 bits hold it. -/
def asU64 : Json → Option Nat
  | .number text =>
    let digits := text.toList
    if digits ≠ [] ∧ digits.all Char.isDigit ∧ Nat.ofDigitChars 10 digits 0 < 2 ^ 64 then
      some (Nat.ofDigitChars 10 digits 0)
    else none
  | _ => none

/-- A printed number of 64 bits is read back. -/
theorem asU64_toString {value : Nat} (small : value < 2 ^ 64) :
    asU64 (.number (toString value)) = some value := by
  have digits : (toString value).toList = Nat.toDigits 10 value := by
    rw [Nat.toString_eq_repr, Nat.toList_repr]
  unfold asU64
  dsimp only
  rw [digits, Nat.ofDigitChars_ten_toDigits]
  apply if_pos
  refine ⟨Nat.toDigits_ne_nil, ?_, small⟩
  rw [List.all_eq_true]
  exact fun _ member => Nat.isDigit_of_mem_toDigits (by decide) (by decide) member

def hexDigit (digit : Nat) : Char :=
  if digit < 10 then Char.ofNat (48 + digit) else Char.ofNat (87 + digit)

/-- The short escapes, `u00xx` for every other control character. -/
def escaped (character : Char) : List Char :=
  match character.toNat with
  | 0x22 => ['\\', '"']
  | 0x5c => ['\\', '\\']
  | 0x08 => ['\\', 'b']
  | 0x09 => ['\\', 't']
  | 0x0a => ['\\', 'n']
  | 0x0c => ['\\', 'f']
  | 0x0d => ['\\', 'r']
  | code =>
    if code < 0x20 then ['\\', 'u', '0', '0', hexDigit (code / 16), hexDigit (code % 16)]
    else [character]

def quoted (text : String) : List Char := '"' :: text.toList.flatMap escaped ++ ['"']

mutual
/-- The compact text of a value. -/
def compact : Json → List Char
  | .null => ['n', 'u', 'l', 'l']
  | .bool true => ['t', 'r', 'u', 'e']
  | .bool false => ['f', 'a', 'l', 's', 'e']
  | .number text => text.toList
  | .string text => quoted text
  | .array items => '[' :: (itemTail items).drop 1 ++ [']']
  | .object fields => '\x7b' :: (fieldTail fields).drop 1 ++ ['\x7d']

/-- Every item with the comma before it. -/
def itemTail : List Json → List Char
  | [] => []
  | item :: rest => ',' :: compact item ++ itemTail rest

/-- Every field with the comma before it. -/
def fieldTail : List (String × Json) → List Char
  | [] => []
  | (name, value) :: rest => ',' :: quoted name ++ ':' :: compact value ++ fieldTail rest
end

def encoded (text : List Char) : List UInt8 := text.flatMap String.utf8EncodeChar

/-- The compact text in UTF-8. -/
def bytes (value : Json) : List UInt8 := encoded value.compact

def byteLength (value : Json) : Nat := value.bytes.length

@[simp] theorem encoded_append (first second : List Char) :
    encoded (first ++ second) = encoded first ++ encoded second := List.flatMap_append

@[simp] theorem encoded_cons (character : Char) (rest : List Char) :
    encoded (character :: rest) = String.utf8EncodeChar character ++ encoded rest := rfl

theorem encoded_injective {first second : List Char} (same : encoded first = encoded second) :
    first = second := by
  have texts : (String.ofList first).toList.utf8Encode =
      (String.ofList second).toList.utf8Encode := by
    rw [String.toList_ofList, String.toList_ofList]
    exact congrArg List.toByteArray same
  rw [String.utf8Encode_toList, String.utf8Encode_toList] at texts
  exact String.ofList_injective (String.toByteArray_inj.mp texts)

theorem hexDigit_injective {first second : Nat} (inside : first < 16) (within : second < 16)
    (same : hexDigit first = hexDigit second) : first = second := by
  have table : ∀ first < 16, ∀ second < 16,
      hexDigit first = hexDigit second → first = second := by decide
  exact table first inside second within same

theorem itemTail_append (items more : List Json) :
    itemTail (items ++ more) = itemTail items ++ itemTail more := by
  induction items with
  | nil => simp [itemTail]
  | cons item rest ih => simp [itemTail, ih]

theorem fieldTail_append (fields more : List (String × Json)) :
    fieldTail (fields ++ more) = fieldTail fields ++ fieldTail more := by
  induction fields with
  | nil => simp [fieldTail]
  | cons field rest ih => simp [fieldTail, ih]

/-- An array only gets longer when items are appended. -/
theorem byteLength_array_append (items more : List Json) :
    (array items).byteLength ≤ (array (items ++ more)).byteLength := by
  have longer : (encoded ((itemTail items).drop 1)).length ≤
      (encoded ((itemTail (items ++ more)).drop 1)).length := by
    rw [itemTail_append]
    cases itemTail items with
    | nil => simp [encoded]
    | cons character rest =>
      simp only [List.cons_append, List.drop_succ_cons, List.drop_zero, encoded_append,
        List.length_append]
      omega
  simp only [byteLength, bytes, compact, encoded_append, encoded_cons, List.length_append,
    List.cons_append]
  omega

/-- An object gets no shorter when a later field's value gets no shorter. -/
theorem byteLength_object_field {before after : List (String × Json)} {name : String}
    {value longer : Json} (grows : value.byteLength ≤ longer.byteLength) (first : before ≠ []) :
    (object (before ++ (name, value) :: after)).byteLength ≤
      (object (before ++ (name, longer) :: after)).byteLength := by
  cases before with
  | nil => exact absurd rfl first
  | cons field rest =>
    obtain ⟨fieldName, fieldValue⟩ := field
    simp only [byteLength, bytes] at grows
    simp only [byteLength, bytes, compact, fieldTail, fieldTail_append, List.cons_append,
      List.drop_succ_cons, List.drop_zero, encoded_append, encoded_cons, List.length_append]
    omega

end Json
end Library
