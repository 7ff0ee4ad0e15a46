import Mathlib.Tactic.IntervalCases
import Routectl.Library.JsonTree

/-! Compact JSON text tells the value it was written from, also where more text follows. -/
namespace Library.Json

def numberChars : List Char := "+-.0123456789Ee".toList

mutual
/-- Every number is written with the characters of numbers. -/
def numeric : Json → Bool
  | .number text => text.toList ≠ [] && text.toList.all (numberChars.contains ·)
  | .array items => numericItems items
  | .object fields => numericFields fields
  | _ => true

def numericItems : List Json → Bool
  | [] => true
  | item :: rest => numeric item && numericItems rest

def numericFields : List (String × Json) → Bool
  | [] => true
  | (_, value) :: rest => numeric value && numericFields rest
end

theorem numericItems_iff {items : List Json} :
    numericItems items = true ↔ ∀ item ∈ items, numeric item = true := by
  induction items with
  | nil => simp [numericItems]
  | cons item rest ih => simp [numericItems, ih]

theorem numericFields_iff {fields : List (String × Json)} :
    numericFields fields = true ↔ ∀ entry ∈ fields, numeric entry.2 = true := by
  induction fields with
  | nil => simp [numericFields]
  | cons entry rest ih => simp [numericFields, ih]

section Strings

def hexValue (digit : Char) : Nat :=
  if digit.toNat < 58 then digit.toNat - 48 else digit.toNat - 87

/-- The character that an escaped text starts with. -/
def leading : List Char → Option Char
  | '\\' :: '"' :: _ => some '"'
  | '\\' :: '\\' :: _ => some '\\'
  | '\\' :: 'b' :: _ => some (Char.ofNat 8)
  | '\\' :: 't' :: _ => some (Char.ofNat 9)
  | '\\' :: 'n' :: _ => some (Char.ofNat 10)
  | '\\' :: 'f' :: _ => some (Char.ofNat 12)
  | '\\' :: 'r' :: _ => some (Char.ofNat 13)
  | '\\' :: 'u' :: '0' :: '0' :: high :: low :: _ =>
    some (Char.ofNat (16 * hexValue high + hexValue low))
  | character :: _ => some character
  | [] => none

theorem escaped_plain {character : Char} (printable : 0x20 ≤ character.toNat)
    (quote : character ≠ '"') (backslash : character ≠ '\\') :
    escaped character = [character] := by
  have quoteCode : character.toNat ≠ 0x22 := fun code =>
    quote (by rw [← Char.ofNat_toNat character, code])
  have backslashCode : character.toNat ≠ 0x5c := fun code =>
    backslash (by rw [← Char.ofNat_toNat character, code])
  unfold escaped
  split
  case h_8 => exact if_neg (Nat.not_lt.mpr printable)
  all_goals omega

theorem leading_escaped (character : Char) (rest : List Char) :
    leading (escaped character ++ rest) = some character := by
  by_cases quote : character = '"'
  · subst quote
    rfl
  by_cases backslash : character = '\\'
  · subst backslash
    rfl
  by_cases control : character.toNat < 0x20
  · have printed := Char.ofNat_toNat character
    rw [← printed]
    generalize character.toNat = code at control
    interval_cases code <;> rfl
  · rw [escaped_plain (Nat.not_lt.mp control) quote backslash]
    unfold leading
    split <;> simp_all

theorem escaped_settled (character other : Char) (rest more : List Char)
    (same : escaped character ++ rest = escaped other ++ more) : character = other := by
  have first := leading_escaped character rest
  rw [same, leading_escaped] at first
  exact (Option.some.inj first).symm

theorem head_escaped (character : Char) (rest : List Char) :
    (escaped character ++ rest).head? ≠ some '"' := by
  intro starts
  by_cases quote : character = '"'
  · subst quote
    cases starts
  by_cases backslash : character = '\\'
  · subst backslash
    cases starts
  by_cases control : character.toNat < 0x20
  · have printed := Char.ofNat_toNat character
    rw [← printed] at starts
    generalize character.toNat = code at control starts
    interval_cases code <;> cases starts
  · rw [escaped_plain (Nat.not_lt.mp control) quote backslash] at starts
    exact quote (Option.some.inj starts)

/-- A quoted text ends where it was closed, whatever follows. -/
theorem quoted_cancel {first second : String} {rest more : List Char}
    (same : quoted first ++ rest = quoted second ++ more) : first = second ∧ rest = more := by
  have bodies : first.toList.flatMap escaped ++ '"' :: rest =
      second.toList.flatMap escaped ++ '"' :: more := by
    have tails := (List.cons.inj same).2
    simpa [List.append_assoc] using tails
  suffices texts : first.toList = second.toList ∧ rest = more from
    ⟨String.toList_inj.mp texts.1, texts.2⟩
  generalize first.toList = text at bodies ⊢
  generalize second.toList = other at bodies ⊢
  induction text generalizing other with
  | nil =>
    cases other with
    | nil => exact ⟨rfl, (List.cons.inj bodies).2⟩
    | cons character others =>
      rw [List.flatMap_cons, List.append_assoc] at bodies
      exact absurd (congrArg List.head? bodies).symm (head_escaped character _)
  | cons character text ih =>
    cases other with
    | nil =>
      rw [List.flatMap_cons, List.append_assoc] at bodies
      exact absurd (congrArg List.head? bodies) (head_escaped character _)
    | cons next others =>
      rw [List.flatMap_cons, List.flatMap_cons, List.append_assoc, List.append_assoc] at bodies
      obtain rfl := escaped_settled character next _ _ bodies
      obtain ⟨texts, tails⟩ := ih others (List.append_cancel_left bodies)
      exact ⟨by rw [texts], tails⟩

end Strings

section Values
variable {rest more : List Char}

/-- The text does not go on with a number's character. -/
def Stops (rest : List Char) : Prop :=
  ∀ character ∈ rest.head?, numberChars.contains character = false

theorem stops_cons {character : Char} (rest : List Char)
    (other : numberChars.contains character = false) : Stops (character :: rest) := by
  intro next starts
  cases starts
  exact other

theorem takeWhile_run {run : List Char} (run_ : run.all (numberChars.contains ·) = true)
    (stops : Stops rest) : (run ++ rest).takeWhile (numberChars.contains ·) = run := by
  rw [List.takeWhile_append_of_pos (by simpa using run_)]
  cases rest with
  | nil => simp
  | cons character tail =>
    have other := stops character rfl
    rw [List.takeWhile_cons_of_neg (by rw [other]; decide), List.append_nil]

theorem number_cancel {first second : List Char}
    (firstRun : first.all (numberChars.contains ·) = true)
    (secondRun : second.all (numberChars.contains ·) = true)
    (stops : Stops rest) (stopsToo : Stops more) (same : first ++ rest = second ++ more) :
    first = second ∧ rest = more := by
  have runs := takeWhile_run firstRun stops
  rw [same, takeWhile_run secondRun stopsToo] at runs
  subst runs
  exact ⟨rfl, List.append_cancel_left same⟩

def textKind (text : List Char) : Nat :=
  match text.head? with
  | some 'n' => 0
  | some 't' => 1
  | some 'f' => 1
  | some '"' => 3
  | some '[' => 4
  | some '\x7b' => 5
  | _ => 2

theorem textKind_number {character : Char} (number : numberChars.contains character = true)
    (tail : List Char) : textKind (character :: tail) = 2 := by
  have member : character ∈ numberChars := by simpa using number
  unfold textKind
  split
  case h_7 => rfl
  all_goals
    rename_i starts
    cases starts
    exact absurd member (by decide)

theorem number_head {text : String} (plain : numeric (.number text) = true) :
    ∃ character tail, text.toList = character :: tail ∧
      numberChars.contains character = true := by
  rw [numeric, Bool.and_eq_true] at plain
  obtain ⟨nonempty, run⟩ := plain
  cases spelled : text.toList with
  | nil => simp [spelled] at nonempty
  | cons character tail =>
    rw [spelled, List.all_cons, Bool.and_eq_true] at run
    exact ⟨character, tail, rfl, run.1⟩

theorem textKind_compact {value : Json} (plain : value.numeric = true) (rest : List Char) :
    textKind (value.compact ++ rest) = value.kind := by
  cases value with
  | bool flag => cases flag <;> rfl
  | number text =>
    obtain ⟨character, tail, spelled, number⟩ := number_head plain
    rw [compact, spelled]
    exact textKind_number number _
  | _ => rfl

section Listed
variable {Entry : Type} {body : Entry → List Char} {close : Char} {entries others : List Entry}

/-- Every entry with the comma before it. -/
def tail (body : Entry → List Char) (entries : List Entry) : List Char :=
  entries.flatMap fun entry => ',' :: body entry

theorem tail_cons (entry : Entry) (entries : List Entry) :
    tail body (entry :: entries) = ',' :: (body entry ++ tail body entries) := by
  rw [tail, List.flatMap_cons]
  rfl

theorem stops_tail (stop : numberChars.contains close = false) (entries : List Entry)
    (rest : List Char) : Stops (tail body entries ++ close :: rest) := by
  cases entries with
  | nil => exact stops_cons rest stop
  | cons entry entries => exact stops_cons _ (by decide)

/-- The entry that is read first is told from any other. -/
def Told (body : Entry → List Char) (plain : Entry → Prop) (entry : Entry) : Prop :=
  ∀ (other : Entry) (rest more : List Char), plain other → Stops rest → Stops more →
    body entry ++ rest = body other ++ more → entry = other ∧ rest = more

variable {plain : Entry → Prop}

theorem tail_cancel (comma : close ≠ ',') (stop : numberChars.contains close = false)
    (told : ∀ entry ∈ entries, Told body plain entry) (plains : ∀ other ∈ others, plain other)
    (same : tail body entries ++ close :: rest = tail body others ++ close :: more) :
    entries = others ∧ rest = more := by
  induction entries generalizing others with
  | nil =>
    cases others with
    | nil => exact ⟨rfl, (List.cons.inj same).2⟩
    | cons => exact absurd (List.cons.inj same).1 comma
  | cons entry entries ih =>
    cases others with
    | nil => exact absurd (List.cons.inj same).1.symm comma
    | cons other others =>
      have texts : body entry ++ (tail body entries ++ close :: rest) =
          body other ++ (tail body others ++ close :: more) := by
        rw [tail_cons, tail_cons] at same
        have tails : body entry ++ tail body entries ++ close :: rest =
            body other ++ tail body others ++ close :: more := (List.cons.inj same).2
        rwa [List.append_assoc, List.append_assoc] at tails
      obtain ⟨rfl, later⟩ := told entry List.mem_cons_self other _ _
        (plains other List.mem_cons_self) (stops_tail stop entries rest)
        (stops_tail stop others more) texts
      obtain ⟨rfl, ends⟩ := ih (fun item member => told item (List.mem_cons_of_mem entry member))
        (fun item member => plains item (List.mem_cons_of_mem entry member)) later
      exact ⟨rfl, ends⟩

/-- The first entry stands without its comma. -/
theorem listed_cancel (comma : close ≠ ',') (stop : numberChars.contains close = false)
    (opens : ∀ entry, plain entry → ∀ rest, (body entry ++ rest).head? ≠ some close)
    (told : ∀ entry ∈ entries, Told body plain entry) (plainEntries : ∀ entry ∈ entries, plain entry)
    (plains : ∀ other ∈ others, plain other)
    (same : (tail body entries).drop 1 ++ close :: rest =
      (tail body others).drop 1 ++ close :: more) : entries = others ∧ rest = more := by
  cases entries with
  | nil =>
    cases others with
    | nil => exact ⟨rfl, (List.cons.inj same).2⟩
    | cons other others =>
      have starts := congrArg List.head? same
      rw [tail_cons, List.drop_succ_cons, List.drop_zero, List.append_assoc] at starts
      exact absurd starts.symm (opens other (plains other List.mem_cons_self) _)
  | cons entry entries =>
    cases others with
    | nil =>
      have starts := congrArg List.head? same
      rw [tail_cons, List.drop_succ_cons, List.drop_zero, List.append_assoc] at starts
      exact absurd starts (opens entry (plainEntries entry List.mem_cons_self) _)
    | cons other others =>
      exact tail_cancel comma stop told plains (congrArg (',' :: ·) same)

end Listed

theorem itemTail_eq_tail (items : List Json) : itemTail items = tail compact items := by
  induction items with
  | nil => rfl
  | cons item rest ih =>
    rw [itemTail, ih]
    rfl

def fieldText (entry : String × Json) : List Char := quoted entry.1 ++ ':' :: entry.2.compact

theorem fieldTail_eq_tail (fields : List (String × Json)) :
    fieldTail fields = tail fieldText fields := by
  induction fields with
  | nil => rfl
  | cons entry rest ih =>
    rw [fieldTail, ih]
    simp [tail, fieldText, List.append_assoc]

theorem opens_compact {value : Json} (plain : value.numeric = true) (rest : List Char) :
    (value.compact ++ rest).head? ≠ some ']' := by
  intro starts
  have kinds := textKind_compact plain rest
  cases value with
  | number text =>
    obtain ⟨character, tail, spelled, number⟩ := number_head plain
    rw [compact, spelled] at starts
    cases starts
    exact absurd number (by decide)
  | bool flag => cases flag <;> cases starts
  | _ => cases starts

/-- A value's text ends where the value was closed, whatever follows. -/
theorem compact_told (value : Json) (plain : value.numeric = true) :
    Told compact (fun other => other.numeric = true) value := by
  intro other rest more plainOther stops stopsToo same
  have kinds : value.kind = other.kind := by
    rw [← textKind_compact plain rest, same, textKind_compact plainOther more]
  induction value using treeInduction generalizing other rest more with
  | null =>
    cases other with
    | null => exact ⟨rfl, List.append_cancel_left same⟩
    | _ => cases kinds
  | bool flag =>
    cases other with
    | bool second =>
      cases flag <;> cases second
      · exact ⟨rfl, List.append_cancel_left same⟩
      · cases same
      · cases same
      · exact ⟨rfl, List.append_cancel_left same⟩
    | _ => cases kinds
  | number text =>
    cases other with
    | number second =>
      rw [numeric, Bool.and_eq_true] at plain plainOther
      obtain ⟨texts, tails⟩ := number_cancel plain.2 plainOther.2 stops stopsToo same
      exact ⟨by rw [String.toList_inj.mp texts], tails⟩
    | _ => cases kinds
  | string text =>
    cases other with
    | string second =>
      obtain ⟨rfl, tails⟩ := quoted_cancel same
      exact ⟨rfl, tails⟩
    | _ => cases kinds
  | array items ih =>
    cases other with
    | array others =>
      rw [numeric, numericItems_iff] at plain plainOther
      have bodies : (tail compact items).drop 1 ++ ']' :: rest =
          (tail compact others).drop 1 ++ ']' :: more := by
        rw [compact, compact, itemTail_eq_tail, itemTail_eq_tail] at same
        have tails : (tail compact items).drop 1 ++ [']'] ++ rest =
            (tail compact others).drop 1 ++ [']'] ++ more := (List.cons.inj same).2
        rwa [List.append_assoc, List.append_assoc] at tails
      have told (item : Json) (member : item ∈ items) :
          Told compact (fun other => other.numeric = true) item := by
        intro other rest more plainOther stops stopsToo same
        apply ih item member (plain item member) other rest more plainOther stops stopsToo same
        rw [← textKind_compact (plain item member) rest, same, textKind_compact plainOther more]
      obtain ⟨rfl, tails⟩ := listed_cancel (by decide) (by decide)
        (fun _ => opens_compact) told plain plainOther bodies
      exact ⟨rfl, tails⟩
    | _ => cases kinds
  | object fields ih =>
    cases other with
    | object others =>
      rw [numeric, numericFields_iff] at plain plainOther
      have bodies : (tail fieldText fields).drop 1 ++ '\x7d' :: rest =
          (tail fieldText others).drop 1 ++ '\x7d' :: more := by
        rw [compact, compact, fieldTail_eq_tail, fieldTail_eq_tail] at same
        have tails : (tail fieldText fields).drop 1 ++ ['\x7d'] ++ rest =
            (tail fieldText others).drop 1 ++ ['\x7d'] ++ more := (List.cons.inj same).2
        rwa [List.append_assoc, List.append_assoc] at tails
      have told (entry : String × Json) (member : entry ∈ fields) :
          Told fieldText (fun other => other.2.numeric = true) entry := by
        rintro ⟨name, other⟩ rest more plainOther stops stopsToo same
        rw [fieldText, fieldText, List.append_assoc, List.append_assoc] at same
        obtain ⟨names, texts⟩ := quoted_cancel same
        have values : entry.2.compact ++ rest = other.compact ++ more := (List.cons.inj texts).2
        have value := ih entry member (plain entry member) other rest more plainOther stops
          stopsToo values (by
            rw [← textKind_compact (plain entry member) rest, values,
              textKind_compact plainOther more])
        exact ⟨Prod.ext names value.1, value.2⟩
      obtain ⟨rfl, tails⟩ := listed_cancel (by decide) (by decide)
        (fun entry _ rest => by simp [fieldText, quoted]) told plain plainOther bodies
      exact ⟨rfl, tails⟩
    | _ => cases kinds

end Values
end Library.Json
