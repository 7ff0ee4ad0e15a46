import Routectl.Library.Splitting
import Routectl.Trim.SteadyState

/-! Tool-call ids in the charset that every upstream accepts: as they are, escaped, or folded
to a digest. -/
namespace Routectl.Replay
open Library

def escapePrefix : String := "esc_"
def digestPrefix : String := "esct_"
def escapeByte : UInt8 := 95
def maxToolIdLen : Nat := 64
def digestHexLen : Nat := 16

def isAllowedToolIdByte (byte : UInt8) : Bool :=
  (48 ≤ byte && byte ≤ 57) || (65 ≤ byte && byte ≤ 90) || (97 ≤ byte && byte ≤ 122) ||
    byte = 95 || byte = 45

def idBytes (id : String) : List UInt8 := Json.encoded id.toList

def isWireSafe (id : String) : Bool :=
  (idBytes id).all isAllowedToolIdByte && !escapePrefix.toList.isPrefixOf id.toList &&
    !digestPrefix.toList.isPrefixOf id.toList

def fnv1a64 (bytes : List UInt8) : UInt64 := Trim.fnv1aHash bytes

def escapedBody (id : String) : List Char :=
  (idBytes id).flatMap fun byte =>
    if isAllowedToolIdByte byte && byte ≠ escapeByte then [Char.ofNat byte.toNat]
    else ['_', Json.hexDigit (byte.toNat / 16), Json.hexDigit (byte.toNat % 16)]

def digestHex (digest : Nat) : List Char :=
  (List.range digestHexLen).map fun place =>
    Json.hexDigit (digest / 16 ^ (digestHexLen - 1 - place) % 16)

/-- The prefix is for a reader's eye, the digest is of the raw id. -/
def digestForm (raw : String) (body : List Char) : String :=
  let keep := maxToolIdLen - digestPrefix.length - 1 - digestHexLen
  digestPrefix ++ String.ofList (body.take keep) ++ "_" ++
    String.ofList (digestHex (fnv1a64 (idBytes raw)).toNat)

def sanitizeToolId (id : String) : String :=
  if isWireSafe id then
    if maxToolIdLen < (idBytes id).length then digestForm id id.toList else id
  else
    let body := escapedBody id
    if maxToolIdLen < escapePrefix.length + body.length then digestForm id body
    else escapePrefix ++ String.ofList body

/-- An id that goes over the wire as it is. -/
def Verbatim (id : String) : Prop := isWireSafe id = true ∧ (idBytes id).length ≤ maxToolIdLen

theorem sanitizeToolId_verbatim {id : String} (verbatim : Verbatim id) :
    sanitizeToolId id = id := by
  obtain ⟨safe, short⟩ := verbatim
  unfold sanitizeToolId
  rw [if_pos safe, if_neg (Nat.not_lt.mpr short)]

/-- The image is an over-long id folded around its digest. -/
def FoldsToDigest (id : String) : Prop := ∃ body, sanitizeToolId id = digestForm id body

section Charset
variable {text more : List Char}

def byteChar (byte : UInt8) : Char := Char.ofNat byte.toNat

/-- A text of accepted characters, one byte each. -/
def WireText (text : List Char) : Prop :=
  ∃ bytes : List UInt8, bytes.all isAllowedToolIdByte = true ∧ text = bytes.map byteChar

theorem allowed_ascii {byte : UInt8} (allowed : isAllowedToolIdByte byte = true) :
    byte.toNat < 128 := by
  simp only [isAllowedToolIdByte, Bool.or_eq_true, Bool.and_eq_true, decide_eq_true_eq,
    UInt8.le_iff_toNat_le, ← UInt8.toNat_inj, UInt8.reduceToNat] at allowed
  omega

theorem byteChar_toNat (byte : UInt8) : (byteChar byte).toNat = byte.toNat := by
  have bound := byte.toNat_lt
  have valid : byte.toNat.isValidChar := Or.inl (by omega)
  rw [byteChar, Char.ofNat, dif_pos valid]
  rfl

theorem byteChar_injective {byte other : UInt8} (same : byteChar byte = byteChar other) :
    byte = other := by
  have numbers := congrArg Char.toNat same
  rw [byteChar_toNat, byteChar_toNat] at numbers
  exact UInt8.toNat_inj.mp numbers

theorem utf8EncodeChar_byteChar {byte : UInt8} (ascii : byte.toNat < 128) :
    String.utf8EncodeChar (byteChar byte) = [byte] := by
  have value : (byteChar byte).val.toNat = byte.toNat := byteChar_toNat byte
  rw [String.utf8EncodeChar, value]
  rw [if_pos (show byte.toNat ≤ 0x7f by omega), UInt8.ofNat_toNat]

theorem encoded_map_byteChar {bytes : List UInt8}
    (allowed : bytes.all isAllowedToolIdByte = true) :
    Json.encoded (bytes.map byteChar) = bytes := by
  induction bytes with
  | nil => rfl
  | cons byte rest ih =>
    rw [List.all_cons, Bool.and_eq_true] at allowed
    have head := utf8EncodeChar_byteChar (allowed_ascii allowed.1)
    rw [List.map_cons, Json.encoded_cons, ih allowed.2, head]
    rfl

theorem WireText.append (first : WireText text) (second : WireText more) :
    WireText (text ++ more) := by
  obtain ⟨bytes, allowed, rfl⟩ := first
  obtain ⟨rest, others, rfl⟩ := second
  refine ⟨bytes ++ rest, ?_, List.map_append.symm⟩
  rw [List.all_append, allowed, others]
  rfl

theorem WireText.take (wire : WireText text) (count : Nat) : WireText (text.take count) := by
  obtain ⟨bytes, allowed, rfl⟩ := wire
  refine ⟨bytes.take count, ?_, List.map_take.symm⟩
  rw [List.all_eq_true] at allowed ⊢
  exact fun byte member => allowed byte (List.mem_of_mem_take member)

theorem WireText.flatMap {Item : Type} {part : Item → List Char}
    (parts : ∀ item, WireText (part item)) (items : List Item) :
    WireText (items.flatMap part) := by
  induction items with
  | nil => exact ⟨[], rfl, rfl⟩
  | cons item rest ih =>
    rw [List.flatMap_cons]
    exact (parts item).append ih

theorem WireText.all_allowed (wire : WireText text) :
    (Json.encoded text).all isAllowedToolIdByte = true := by
  obtain ⟨bytes, allowed, rfl⟩ := wire
  rwa [encoded_map_byteChar allowed]

theorem WireText.length_encoded (wire : WireText text) :
    (Json.encoded text).length = text.length := by
  obtain ⟨bytes, allowed, rfl⟩ := wire
  rw [encoded_map_byteChar allowed, List.length_map]

theorem wireText_of_allowed {id : String}
    (allowed : (idBytes id).all isAllowedToolIdByte = true) : WireText id.toList := by
  refine ⟨idBytes id, allowed, ?_⟩
  apply Json.encoded_injective
  rw [encoded_map_byteChar allowed]
  rfl

theorem wireText_hexDigit {digit : Nat} (inside : digit < 16) :
    WireText [Json.hexDigit digit] := by
  have table : ∀ digit < 16,
      isAllowedToolIdByte (UInt8.ofNat (Json.hexDigit digit).toNat) = true ∧
        byteChar (UInt8.ofNat (Json.hexDigit digit).toNat) = Json.hexDigit digit := by decide
  obtain ⟨allowed, same⟩ := table digit inside
  refine ⟨[UInt8.ofNat (Json.hexDigit digit).toNat], ?_, ?_⟩
  · rw [List.all_cons, allowed]
    rfl
  · rw [List.map_singleton, same]

end Charset

section Escaping

def escapedByte (byte : UInt8) : List Char :=
  if isAllowedToolIdByte byte && byte ≠ escapeByte then [byteChar byte]
  else ['_', Json.hexDigit (byte.toNat / 16), Json.hexDigit (byte.toNat % 16)]

theorem wireText_underscore : WireText ['_'] := ⟨[escapeByte], by decide, by decide⟩

theorem wireText_escapedByte (byte : UInt8) : WireText (escapedByte byte) := by
  have bound := byte.toNat_lt
  unfold escapedByte
  split
  case isTrue plain =>
    rw [Bool.and_eq_true] at plain
    refine ⟨[byte], ?_, rfl⟩
    rw [List.all_cons, plain.1]
    rfl
  case isFalse =>
    have high : WireText [Json.hexDigit (byte.toNat / 16)] := wireText_hexDigit (by omega)
    have low : WireText [Json.hexDigit (byte.toNat % 16)] := wireText_hexDigit (by omega)
    exact wireText_underscore.append (high.append low)

theorem byteChar_escapeByte : byteChar escapeByte = '_' := by decide

theorem escapedByte_settled (byte other : UInt8) (rest more : List Char)
    (same : escapedByte byte ++ rest = escapedByte other ++ more) : byte = other := by
  have bound := byte.toNat_lt
  have limit := other.toNat_lt
  have marked {plain : UInt8} (safe : (isAllowedToolIdByte plain && plain ≠ escapeByte) = true)
      (collides : byteChar plain = '_') : False := by
    rw [← byteChar_escapeByte] at collides
    rw [byteChar_injective collides] at safe
    simp at safe
  unfold escapedByte at same
  split at same
  case isTrue plain =>
    split at same
    case isTrue =>
      exact byteChar_injective (List.cons.inj same).1
    case isFalse => exact (marked plain (List.cons.inj same).1).elim
  case isFalse =>
    split at same
    case isTrue plain => exact (marked plain (List.cons.inj same).1.symm).elim
    case isFalse =>
      obtain ⟨high, tail⟩ := List.cons.inj (List.cons.inj same).2
      have low := (List.cons.inj tail).1
      have quotients := Json.hexDigit_injective (by omega) (by omega) high
      have remainders := Json.hexDigit_injective (by omega) (by omega) low
      exact UInt8.toNat_inj.mp (by omega)

theorem escapedByte_ne_nil (byte : UInt8) : escapedByte byte ≠ [] := by
  unfold escapedByte
  split <;> exact List.cons_ne_nil _ _

theorem escapedBody_injective {first second : String}
    (same : escapedBody first = escapedBody second) : first = second := by
  have bytes := flatMap_injective escapedByte_ne_nil escapedByte_settled same
  exact String.toList_inj.mp (Json.encoded_injective bytes)

theorem wireText_escapedBody (id : String) : WireText (escapedBody id) :=
  WireText.flatMap wireText_escapedByte (idBytes id)

end Escaping

section Digest

theorem mod_pow_unique {base first second : Nat} (count : Nat)
    (digits : ∀ place < count, first / base ^ place % base = second / base ^ place % base) :
    first % base ^ count = second % base ^ count := by
  induction count with
  | zero => rw [Nat.pow_zero, Nat.mod_one, Nat.mod_one]
  | succ count ih =>
    rw [Nat.mod_pow_succ, Nat.mod_pow_succ, digits count (Nat.lt_succ_self count)]
    rw [ih fun place below => digits place (Nat.lt_succ_of_lt below)]

theorem length_digestHex (digest : Nat) : (digestHex digest).length = digestHexLen := by
  rw [digestHex, List.length_map, List.length_range]

theorem digestHex_injective {first second : UInt64}
    (same : digestHex first.toNat = digestHex second.toNat) : first = second := by
  have digits : ∀ place < 16, first.toNat / 16 ^ place % 16 = second.toNat / 16 ^ place % 16 := by
    intro place below
    have printed := List.map_inj_left.mp same (15 - place)
      (List.mem_range.mpr (Nat.lt_of_le_of_lt (Nat.sub_le 15 place) (by decide)))
    have there : digestHexLen - 1 - (15 - place) = place := by
      unfold digestHexLen
      omega
    rw [there] at printed
    exact Json.hexDigit_injective (Nat.mod_lt _ (by decide)) (Nat.mod_lt _ (by decide)) printed
  have numbers := mod_pow_unique 16 digits
  have below (digest : UInt64) : digest.toNat < 16 ^ 16 :=
    Nat.lt_of_lt_of_eq digest.toNat_lt (by simp)
  rw [Nat.mod_eq_of_lt (below first), Nat.mod_eq_of_lt (below second)] at numbers
  exact UInt64.toNat_inj.mp numbers

theorem wireText_digestHex (digest : Nat) : WireText (digestHex digest) := by
  have digit (place : Nat) :
      WireText [Json.hexDigit (digest / 16 ^ (digestHexLen - 1 - place) % 16)] :=
    wireText_hexDigit (Nat.mod_lt _ (by decide))
  rw [digestHex, List.map_eq_flatMap]
  exact WireText.flatMap digit _

theorem digestForm_toList (raw : String) (body : List Char) :
    (digestForm raw body).toList =
      digestPrefix.toList ++ body.take 42 ++ ['_'] ++ digestHex (fnv1a64 (idBytes raw)).toNat := by
  rw [digestForm]
  simp only [String.toList_append, String.toList_ofList]
  rfl

theorem wireText_digestForm (raw : String) {body : List Char} (wire : WireText body) :
    WireText (digestForm raw body).toList := by
  have marker : WireText digestPrefix.toList := ⟨idBytes digestPrefix, by decide, by decide⟩
  rw [digestForm_toList]
  exact ((marker.append (wire.take 42)).append wireText_underscore).append (wireText_digestHex _)

theorem length_digestForm (raw : String) {body : List Char} (long : 42 ≤ body.length) :
    (digestForm raw body).toList.length = maxToolIdLen := by
  have marker : digestPrefix.toList.length = 5 := by decide
  rw [digestForm_toList]
  simp only [List.length_append, length_digestHex, List.length_take, marker, digestHexLen,
    maxToolIdLen, List.length_singleton]
  omega

theorem digest_eq_of_digestForm_eq {first second : String} {body other : List Char}
    (same : digestForm first body = digestForm second other) :
    fnv1a64 (idBytes first) = fnv1a64 (idBytes second) := by
  have texts := congrArg String.toList same
  rw [digestForm_toList, digestForm_toList] at texts
  have lengths : (digestHex (fnv1a64 (idBytes first)).toNat).length =
      (digestHex (fnv1a64 (idBytes second)).toNat).length := by
    rw [length_digestHex, length_digestHex]
  exact digestHex_injective (List.append_inj_right' texts lengths)

end Digest

section Images
variable {first second : String}

/-- What an id is sent as: itself, its escape, or a digest that fills the ceiling. -/
inductive Image (id : String) : String → Prop where
  | verbatim (verbatim : Verbatim id) : Image id id
  | escaped (short : escapePrefix.length + (escapedBody id).length ≤ maxToolIdLen) :
      Image id (escapePrefix ++ String.ofList (escapedBody id))
  | digest (body : List Char) (wire : WireText body) (long : 42 ≤ body.length) :
      Image id (digestForm id body)

theorem sanitizeToolId_image (id : String) : Image id (sanitizeToolId id) := by
  have marker : escapePrefix.length = 4 := by decide
  unfold sanitizeToolId
  split
  case isTrue safe =>
    have allowed : (idBytes id).all isAllowedToolIdByte = true := by
      simp only [isWireSafe, Bool.and_eq_true] at safe
      exact safe.1.1
    have wire := wireText_of_allowed allowed
    have size : (idBytes id).length = id.toList.length := wire.length_encoded
    split
    case isTrue exceeds =>
      apply Image.digest id.toList wire
      rw [size, maxToolIdLen] at exceeds
      omega
    case isFalse under => exact Image.verbatim ⟨safe, Nat.not_lt.mp under⟩
  case isFalse =>
    dsimp only
    split
    case isTrue exceeds =>
      apply Image.digest (escapedBody id) (wireText_escapedBody id)
      rw [marker, maxToolIdLen] at exceeds
      omega
    case isFalse under => exact Image.escaped (Nat.not_lt.mp under)

theorem Image.wire {id image : String} (sent : Image id image) :
    WireText image.toList ∧ image.toList.length ≤ maxToolIdLen := by
  cases sent with
  | verbatim verbatim =>
    obtain ⟨safe, short⟩ := verbatim
    simp only [isWireSafe, Bool.and_eq_true] at safe
    have wire := wireText_of_allowed safe.1.1
    exact ⟨wire, wire.length_encoded ▸ short⟩
  | escaped short =>
    have marker : WireText escapePrefix.toList := ⟨idBytes escapePrefix, by decide, by decide⟩
    rw [String.toList_append, String.toList_ofList]
    refine ⟨marker.append (wireText_escapedBody id), ?_⟩
    rw [List.length_append, String.length_toList]
    exact short
  | digest body wire long =>
    exact ⟨wireText_digestForm id wire, Nat.le_of_eq (length_digestForm id long)⟩

theorem isPrefixOf_escaped (body : List Char) :
    escapePrefix.toList.isPrefixOf (escapePrefix ++ String.ofList body).toList = true := by
  rw [String.toList_append, List.isPrefixOf_iff_prefix]
  exact List.prefix_append _ _

theorem isPrefixOf_digestForm (raw : String) (body : List Char) :
    digestPrefix.toList.isPrefixOf (digestForm raw body).toList = true := by
  rw [digestForm_toList, List.isPrefixOf_iff_prefix, List.append_assoc, List.append_assoc]
  exact List.prefix_append _ _

theorem Verbatim.unmarked {id : String} (verbatim : Verbatim id) :
    escapePrefix.toList.isPrefixOf id.toList = false ∧
      digestPrefix.toList.isPrefixOf id.toList = false := by
  have safe := verbatim.1
  simp only [isWireSafe, Bool.and_eq_true, Bool.not_eq_true'] at safe
  exact ⟨safe.1.2, safe.2⟩

theorem Verbatim.unfolded {id : String} (verbatim : Verbatim id) : ¬ FoldsToDigest id := by
  rintro ⟨body, folded⟩
  have marked := isPrefixOf_digestForm id body
  rw [← folded, sanitizeToolId_verbatim verbatim, verbatim.unmarked.2] at marked
  cases marked

theorem escaped_ne_digestForm (raw : String) (body other : List Char) :
    escapePrefix ++ String.ofList body ≠ digestForm raw other := by
  intro same
  have texts := congrArg String.toList same
  rw [digestForm_toList, String.toList_append] at texts
  have fourth := congrArg (fun text => text[3]?) texts
  simp [escapePrefix, digestPrefix] at fourth

/-- Two ids share an image only where both are folded. -/
theorem Image.shared {image : String} (sent : Image first image) (also : Image second image) :
    first = second ∨
      (∃ body, image = digestForm first body) ∧ (∃ body, image = digestForm second body) := by
  generalize named : image = other at also
  cases sent with
  | verbatim verbatim =>
    cases also with
    | verbatim => exact Or.inl named
    | escaped =>
      have marked := isPrefixOf_escaped (escapedBody second)
      rw [← named, verbatim.unmarked.1] at marked
      cases marked
    | digest body =>
      have marked := isPrefixOf_digestForm second body
      rw [← named, verbatim.unmarked.2] at marked
      cases marked
  | escaped =>
    cases also with
    | verbatim verbatim =>
      have marked := isPrefixOf_escaped (escapedBody first)
      rw [named, verbatim.unmarked.1] at marked
      cases marked
    | escaped =>
      have texts := congrArg String.toList named
      rw [String.toList_append, String.toList_append] at texts
      have bodies := String.ofList_injective (String.toList_inj.mp (List.append_cancel_left texts))
      exact Or.inl (escapedBody_injective bodies)
    | digest body => exact absurd named (escaped_ne_digestForm second _ body)
  | digest body =>
    cases also with
    | verbatim verbatim =>
      have marked := isPrefixOf_digestForm first body
      rw [named, verbatim.unmarked.2] at marked
      cases marked
    | escaped => exact absurd named.symm (escaped_ne_digestForm first _ body)
    | digest other => exact Or.inr ⟨⟨body, named.symm⟩, ⟨other, rfl⟩⟩

/-- Every image is legal, a legal id outside the two namespaces is its own image, and two ids
share an image only where both are folded over one digest. -/
theorem sanitizeToolId_injective_below_the_ceiling :
    (∀ id, (idBytes (sanitizeToolId id)).all isAllowedToolIdByte = true ∧
      (idBytes (sanitizeToolId id)).length ≤ 64) ∧
    (∀ id, (idBytes id).all isAllowedToolIdByte = true → (idBytes id).length ≤ 64 →
      escapePrefix.toList.isPrefixOf id.toList = false →
      digestPrefix.toList.isPrefixOf id.toList = false → sanitizeToolId id = id) ∧
    (∀ first second, first ≠ second → sanitizeToolId first = sanitizeToolId second →
      FoldsToDigest first ∧ FoldsToDigest second ∧
        fnv1a64 (idBytes first) = fnv1a64 (idBytes second)) := by
  refine ⟨?_, ?_, ?_⟩
  · intro id
    obtain ⟨wire, short⟩ := (sanitizeToolId_image id).wire
    exact ⟨wire.all_allowed, wire.length_encoded ▸ short⟩
  · intro id allowed short plain undigested
    apply sanitizeToolId_verbatim
    refine ⟨?_, short⟩
    rw [isWireSafe, allowed, plain, undigested]
    rfl
  · intro first second different same
    have sent := sanitizeToolId_image first
    have also := sanitizeToolId_image second
    rw [← same] at also
    rcases sent.shared also with equal | ⟨⟨body, folded⟩, ⟨other, likewise⟩⟩
    · exact absurd equal different
    · refine ⟨⟨body, folded⟩, ⟨other, same ▸ likewise⟩, ?_⟩
      exact digest_eq_of_digestForm_eq (folded.symm.trans likewise)

/-- A raw id that impersonates an escaped one is escaped itself. -/
theorem impersonation_stays_apart :
    sanitizeToolId "call.1" = "esc_call_2e1" ∧
      sanitizeToolId "call.1" ≠ sanitizeToolId "esc_call_2e1" := by
  have escaped : sanitizeToolId "call.1" = "esc_call_2e1" := by decide
  refine ⟨escaped, ?_⟩
  intro same
  obtain ⟨⟨body, folded⟩, -, -⟩ :=
    sanitizeToolId_injective_below_the_ceiling.2.2 _ _ (by decide) same
  rw [escaped] at folded
  exact escaped_ne_digestForm _ "call_2e1".toList body folded

end Images

end Routectl.Replay
