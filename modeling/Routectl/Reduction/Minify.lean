import Routectl.Library.JsonTokens

/-! The whitespace a JSON text can do without: the byte lexer that leaves it out and the
guards a stripped text has to pass. The JSON parser is the caller's. -/
namespace Routectl.Reduction
open Library JsonTokens

inductive StringMinifyOutcome where
  | compressed (minified : String)
  | skipped
  | rejected
deriving DecidableEq

/-- The bytes still to be written, in a string literal or outside one. In a literal a
backslash is copied with the byte after it. -/
def stripLoop : Bool → List UInt8 → List UInt8
  | _, [] => []
  | true, b :: rest =>
    if b = 0x5C then
      match rest with
      | [] => [b]
      | next :: later => b :: next :: stripLoop true later
    else b :: stripLoop (b ≠ 0x22) rest
  | false, b :: rest =>
    if b = 0x22 then b :: stripLoop true rest
    else if b = 0x20 || b = 0x09 || b = 0x0A || b = 0x0D then stripLoop false rest
    else b :: stripLoop false rest

def stripInsignificantWhitespace (s : String) : Option String :=
  String.fromUTF8? (stripLoop false s.toUTF8.data.toList).toByteArray

section Guards
variable {Value : Type} [BEq Value] (fromStr : String → Option Value)

def acceptIfLossless (original : Value) (candidate : String) : StringMinifyOutcome :=
  match fromStr candidate with
  | none => .rejected
  | some reparsed => if reparsed != original then .rejected else .compressed candidate

def classifyJsonString (s : String) : StringMinifyOutcome :=
  match fromStr s with
  | none => .skipped
  | some original =>
    match stripInsignificantWhitespace s with
    | none => .skipped
    | some minified =>
      if minified.utf8ByteSize ≥ s.utf8ByteSize then .skipped
      else acceptIfLossless fromStr original minified

def minifyJsonWhitespace (s : String) : Option String :=
  match classifyJsonString fromStr s with
  | .compressed minified => some minified
  | .skipped | .rejected => none

/-- What is asked of the parser: it reads JSON documents only, and reads a document by
its tokens. -/
structure ReadsJson (fromStr : String → Option Value) : Prop where
  document : ∀ {text value}, fromStr text = some value → Document text
  spelling : ∀ {text value other}, fromStr text = some value → tokens other = tokens text →
    fromStr other = some value

end Guards

section Bytes

theorem encodeChar_cases (character : Char) :
    (String.utf8EncodeChar character = [character.toUInt8] ∧
        character.toUInt8.toNat = character.toNat ∧ character.toNat < 128) ∨
      (∀ byte ∈ String.utf8EncodeChar character, 128 ≤ byte.toNat) ∧ 128 ≤ character.toNat := by
  by_cases ascii : character.toNat < 128
  · left
    refine ⟨String.utf8EncodeChar_eq_singleton ?_, ?_, ascii⟩
    · rw [Char.utf8Size_eq_one_iff, UInt32.le_iff_toNat_le]
      exact Nat.le_of_lt_succ ascii
    · have reduced : character.toUInt8.toNat = character.toNat % 256 :=
        UInt32.toNat_toUInt8 character.val
      rw [reduced, Nat.mod_eq_of_lt (by omega)]
  · right
    refine ⟨?_, Nat.not_lt.mp ascii⟩
    intro byte member
    have large : ¬ character.val.toNat ≤ 127 := fun small => ascii (Nat.lt_succ_of_le small)
    rw [String.utf8EncodeChar, if_neg large] at member
    split_ifs at member
    all_goals
      simp only [List.mem_cons, List.not_mem_nil, or_false] at member
      rcases member with rfl | rfl | rfl | rfl
      all_goals
        simp only [UInt8.toNat_ofNat']
        omega

theorem stripLoop_inside (byte : UInt8) (plain : byte ≠ 0x5C) (rest : List UInt8) :
    stripLoop true (byte :: rest) = byte :: stripLoop (byte ≠ 0x22) rest := by
  cases rest with
  | nil => simp [stripLoop]
  | cons next later => simp [stripLoop, plain]

/-- Bytes beyond ASCII are copied. -/
theorem stripLoop_high {high : List UInt8} (large : ∀ byte ∈ high, 128 ≤ byte.toNat)
    (inString : Bool) (rest : List UInt8) :
    stripLoop inString (high ++ rest) = high ++ stripLoop inString rest := by
  induction high with
  | nil => rfl
  | cons byte others ih =>
    have kept := ih fun byte member => large byte (List.mem_cons_of_mem _ member)
    have big := large byte List.mem_cons_self
    have plain : ∀ code : UInt8, code.toNat < 128 → byte ≠ code := by
      rintro code small rfl
      omega
    rw [List.cons_append, List.cons_append]
    cases inString with
    | true =>
      rw [stripLoop_inside byte (plain _ (by decide)), decide_eq_true (plain _ (by decide)), kept]
    | false =>
      have quote := plain 0x22 (by decide)
      have blank := plain 0x20 (by decide)
      have tab := plain 0x09 (by decide)
      have feed := plain 0x0A (by decide)
      have return_ := plain 0x0D (by decide)
      simp [stripLoop, quote, blank, tab, feed, return_, kept]

/-- The lexer's loop, taken up again after some characters. -/
def resumed : LexState → List UInt8 → List UInt8
  | .outside, bytes => stripLoop false bytes
  | .inside, bytes => stripLoop true bytes
  | .escaped, [] => []
  | .escaped, next :: later => next :: stripLoop true later

theorem stripLoop_backslash (rest : List UInt8) :
    stripLoop true (0x5C :: rest) = 0x5C :: resumed .escaped rest := by
  cases rest with
  | nil => rfl
  | cons next later => simp [stripLoop, resumed]

/-- On the bytes of a text the loop leaves out the whitespace outside its literals. -/
theorem resumed_encoded (place : LexState) (text : List Char) :
    resumed place (Json.encoded text) = Json.encoded (kept place text) := by
  induction text generalizing place with
  | nil => cases place <;> rfl
  | cons character rest ih =>
    rw [Json.encoded_cons]
    rcases encodeChar_cases character with ⟨single, code, ascii⟩ | ⟨high, large⟩
    case inl =>
      have reads (other : Char) (byte : UInt8) (same : other.toNat = byte.toNat) :
          character.toUInt8 = byte ↔ character = other := by
        rw [← UInt8.toNat_inj, code, ← same, Char.toNat_inj]
      have quote := reads '"' 0x22 rfl
      have backslash := reads '\\' 0x5C rfl
      have blank := reads ' ' 0x20 rfl
      have tab := reads '\t' 0x09 rfl
      have feed := reads '\n' 0x0A rfl
      have return_ := reads '\r' 0x0D rfl
      have spaces : (character.toUInt8 = 0x20 || character.toUInt8 = 0x09 ||
          character.toUInt8 = 0x0A || character.toUInt8 = 0x0D) = space character := by
        simp only [space, blank, tab, feed, return_]
      have printed (after : LexState) : Json.encoded (character :: kept after rest) =
          character.toUInt8 :: resumed after (Json.encoded rest) := by
        rw [Json.encoded_cons, single, ih]
        rfl
      rw [single, List.singleton_append, kept]
      cases place with
      | outside =>
        change stripLoop false _ = _
        rw [stripLoop, spaces, decide_eq_true rfl, Bool.true_and]
        by_cases opens : character = '"'
        · rw [if_pos (quote.mpr opens), if_neg (by simp [opens, space]), printed, LexState.after,
            if_pos opens]
          rfl
        · rw [if_neg (mt quote.mp opens)]
          split
          case isTrue => exact ih .outside
          case isFalse =>
            rw [printed, LexState.after, if_neg opens]
            rfl
      | inside =>
        change stripLoop true _ = _
        rw [if_neg (by simp), printed, LexState.after]
        by_cases escapes : character = '\\'
        · rw [backslash.mpr escapes, stripLoop_backslash, if_neg (by simp [escapes]),
            if_pos escapes]
        · rw [stripLoop_inside _ (mt backslash.mp escapes), if_neg escapes]
          by_cases closes : character = '"'
          · rw [quote.mpr closes, if_pos closes]
            rfl
          · have open_ : character.toUInt8 ≠ 0x22 := mt quote.mp closes
            rw [if_neg closes, decide_eq_true open_]
            rfl
      | escaped =>
        rw [if_neg (by simp), printed]
        rfl
    case inr =>
      have plain (other : Char) (small : other.toNat < 128) : character ≠ other := by
        rintro rfl
        omega
      have quote := plain '"' (by decide)
      have backslash := plain '\\' (by decide)
      have printed : space character = false := by
        simp [space, plain ' ' (by decide), plain '\t' (by decide), plain '\n' (by decide),
          plain '\r' (by decide)]
      rw [kept, if_neg (by simp [printed]), Json.encoded_cons, ← ih]
      cases place with
      | outside =>
        rw [LexState.after, if_neg quote]
        exact stripLoop_high high false _
      | inside =>
        rw [LexState.after, if_neg quote, if_neg backslash]
        exact stripLoop_high high true _
      | escaped =>
        cases spelling : String.utf8EncodeChar character with
        | nil => exact absurd spelling String.utf8EncodeChar_ne_nil
        | cons first others =>
          rw [spelling] at high
          have more := stripLoop_high (fun byte member => high byte (.tail _ member)) true
            (Json.encoded rest)
          exact congrArg (first :: ·) more

theorem bytes_eq_encoded (s : String) : s.toUTF8.data.toList = Json.encoded s.toList := by
  have bytes : s.toUTF8 = s.toList.utf8Encode := String.utf8Encode_toList.symm
  rw [bytes]
  exact List.toList_data_toByteArray

theorem utf8ByteSize_eq_encoded (s : String) :
    s.utf8ByteSize = (Json.encoded s.toList).length := by
  rw [← bytes_eq_encoded]
  rfl

/-- The text without the whitespace outside its literals. -/
def stripped (s : String) : String := String.ofList (kept .outside s.toList)

/-- No whitespace stands outside the literals of a text. -/
def compact (s : String) : Bool := unspaced .outside s.toList

theorem stripInsignificantWhitespace_eq (s : String) :
    stripInsignificantWhitespace s = some (stripped s) := by
  have loop : stripLoop false s.toUTF8.data.toList = Json.encoded (stripped s).toList := by
    rw [bytes_eq_encoded, stripped, String.toList_ofList]
    exact resumed_encoded .outside s.toList
  have valid : (Json.encoded (stripped s).toList).toByteArray.IsValidUTF8 := .intro _ rfl
  rw [stripInsignificantWhitespace, loop, String.fromUTF8?, dif_pos valid]
  exact congrArg some (String.toByteArray_inj.mp String.utf8Encode_toList)

theorem no_shorter_iff (s : String) :
    (stripped s).utf8ByteSize ≥ s.utf8ByteSize ↔ compact s = true := by
  rw [utf8ByteSize_eq_encoded, utf8ByteSize_eq_encoded, stripped, String.toList_ofList]
  exact encoded_le_kept_iff

theorem compact_stripped (s : String) : compact (stripped s) = true := by
  rw [compact, stripped, String.toList_ofList]
  exact unspaced_kept .outside s.toList

end Bytes

section Classified
variable {Value : Type} [BEq Value] {fromStr : String → Option Value}

theorem classify_unread {s : String} (unread : fromStr s = none) :
    classifyJsonString fromStr s = .skipped := by
  rw [classifyJsonString, unread]

/-- A text the parser reads is stripped where there is something to strip. -/
theorem classify_read [ReflBEq Value] (reads : ReadsJson fromStr) {s : String} {value : Value}
    (accepted : fromStr s = some value) :
    classifyJsonString fromStr s =
      if compact s then .skipped else .compressed (stripped s) := by
  have again : fromStr (stripped s) = some value :=
    reads.spelling accepted (reads.document accepted).tokens_kept
  simp only [classifyJsonString, accepted, stripInsignificantWhitespace_eq, no_shorter_iff]
  split
  case isTrue => rfl
  case isFalse => simp [acceptIfLossless, again, bne]

theorem classify_never_rejects [ReflBEq Value] (reads : ReadsJson fromStr) (s : String) :
    classifyJsonString fromStr s ≠ .rejected := by
  cases accepted : fromStr s with
  | none =>
    rw [classify_unread accepted]
    simp
  | some value =>
    rw [classify_read reads accepted]
    split
    all_goals simp

theorem minify_read [ReflBEq Value] (reads : ReadsJson fromStr) {s : String} {value : Value}
    (accepted : fromStr s = some value) :
    minifyJsonWhitespace fromStr s = if compact s then none else some (stripped s) := by
  rw [minifyJsonWhitespace, classify_read reads accepted]
  by_cases small : compact s = true
  · rw [if_pos small, if_pos small]
  · rw [if_neg small, if_neg small]

/-- The minified text has the tokens of the text, and nothing left to strip. -/
theorem minified_read [ReflBEq Value] (reads : ReadsJson fromStr) {s : String} {value : Value}
    (accepted : fromStr s = some value) :
    tokens (stripped s) = tokens s ∧ fromStr (stripped s) = some value ∧
      minifyJsonWhitespace fromStr (stripped s) = none := by
  have same : tokens (stripped s) = tokens s := (reads.document accepted).tokens_kept
  have again := reads.spelling accepted same
  refine ⟨same, again, ?_⟩
  rw [minify_read reads again, compact_stripped, if_pos rfl]

end Classified
end Routectl.Reduction
