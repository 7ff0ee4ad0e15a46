import Mathlib.Data.List.Chain
import Routectl.Library.Json

/-! JSON text as tokens with whitespace between them: where in a text a character
stands, the text with the whitespace between its tokens left out, and the documents
that the grammar derives. -/
namespace Library.JsonTokens

inductive Token where
  | punct (character : Char)
  | literal (body : List Char)
  | word (characters : List Char)
deriving DecidableEq

def Token.spelling : Token → List Char
  | .punct character => [character]
  | .literal body => '"' :: (body ++ ['"'])
  | .word characters => characters

def spelled (tokens : List Token) : List Char := tokens.flatMap Token.spelling

def space (character : Char) : Bool :=
  character = ' ' || character = '\t' || character = '\n' || character = '\r'

def punctuation (character : Char) : Bool := ":,[]\x7b\x7d".toList.contains character

inductive LexState where
  | outside
  | inside
  | escaped
deriving DecidableEq

/-- Where the next character stands: a quote opens and closes a literal, and a
backslash in a literal takes the character after it along. -/
def LexState.after (place : LexState) (character : Char) : LexState :=
  match place with
  | .outside => if character = '"' then .inside else .outside
  | .inside =>
    if character = '"' then .outside else if character = '\\' then .escaped else .inside
  | .escaped => .inside

/-- No whitespace stands outside a literal. -/
def unspaced : LexState → List Char → Bool
  | _, [] => true
  | place, character :: rest =>
    !(place = .outside && space character) && unspaced (place.after character) rest

/-- The text without the whitespace outside its literals. -/
def kept : LexState → List Char → List Char
  | _, [] => []
  | place, character :: rest =>
    if place = .outside && space character then kept place rest
    else character :: kept (place.after character) rest

def finished (word : List Char) : List Token := if word = [] then [] else [.word word]

/-- The tokens of a text, after the characters of the token it starts in. -/
def lex : LexState → List Char → List Char → Option (List Token)
  | .outside, word, [] => some (finished word)
  | .outside, word, character :: rest =>
    if character = '"' then (lex .inside [] rest).map (finished word ++ ·)
    else if space character then (lex .outside [] rest).map (finished word ++ ·)
    else if punctuation character then
      (lex .outside [] rest).map (finished word ++ .punct character :: ·)
    else lex .outside (word ++ [character]) rest
  | .inside, body, character :: rest =>
    if character = '"' then (lex .outside [] rest).map (.literal body :: ·)
    else lex (if character = '\\' then .escaped else .inside) (body ++ [character]) rest
  | .escaped, body, character :: rest => lex .inside (body ++ [character]) rest
  | _, _, [] => none

def tokens (text : String) : Option (List Token) := lex .outside [] text.toList

section Stripping
variable {place : LexState} {text : List Char}

theorem kept_eq_self (compact : unspaced place text = true) : kept place text = text := by
  induction text generalizing place with
  | nil => rfl
  | cons character rest ih =>
    simp only [unspaced, Bool.and_eq_true, Bool.not_eq_true'] at compact
    rw [kept, if_neg (by simp [compact.1]), ih compact.2]

theorem unspaced_kept (place : LexState) (text : List Char) :
    unspaced place (kept place text) = true := by
  induction text generalizing place with
  | nil => rfl
  | cons character rest ih =>
    rw [kept]
    split
    case isTrue => exact ih place
    case isFalse printed =>
      rw [unspaced, ih, Bool.eq_false_iff.mpr printed]
      rfl

theorem encoded_kept_le (place : LexState) (text : List Char) :
    (Json.encoded (kept place text)).length ≤ (Json.encoded text).length := by
  induction text generalizing place with
  | nil => exact le_rfl
  | cons character rest ih =>
    rw [kept]
    split
    case isTrue =>
      rw [Json.encoded_cons, List.length_append]
      exact (ih place).trans (Nat.le_add_left _ _)
    case isFalse =>
      rw [Json.encoded_cons, Json.encoded_cons, List.length_append, List.length_append]
      exact Nat.add_le_add_left (ih _) _

theorem encoded_kept_lt (spaced : unspaced place text = false) :
    (Json.encoded (kept place text)).length < (Json.encoded text).length := by
  induction text generalizing place with
  | nil => cases spaced
  | cons character rest ih =>
    rw [kept, Json.encoded_cons, List.length_append]
    split
    case isTrue =>
      have shorter := encoded_kept_le place rest
      have width := Char.utf8Size_pos character
      rw [String.length_utf8EncodeChar]
      omega
    case isFalse printed =>
      have later : unspaced (place.after character) rest = false := by
        simpa [unspaced, printed] using spaced
      rw [Json.encoded_cons, List.length_append]
      exact Nat.add_lt_add_left (ih later) _

/-- The stripped text is no shorter just when there is nothing to strip. -/
theorem encoded_le_kept_iff :
    (Json.encoded text).length ≤ (Json.encoded (kept place text)).length ↔
      unspaced place text = true := by
  constructor
  · intro noShorter
    by_contra spaced
    exact absurd (encoded_kept_lt (Bool.eq_false_iff.mpr spaced)) (Nat.not_lt.mpr noShorter)
  · intro compact
    rw [kept_eq_self compact]

end Stripping

section Words

/-- No two words stand side by side. -/
def Apart (tokens : List Token) : Prop :=
  tokens.IsChain fun token next =>
    ∀ characters others, token = .word characters → next ≠ .word others

def StartsWithWord (tokens : List Token) : Prop := ∃ characters rest, tokens = .word characters :: rest

/-- Once a word has begun, a word is read. -/
theorem lex_word {word text : List Char} {tokens : List Token} (begun : word ≠ [])
    (lexed : lex .outside word text = some tokens) : StartsWithWord tokens := by
  induction text generalizing word with
  | nil =>
    rw [lex, finished, if_neg begun] at lexed
    exact ⟨word, [], (Option.some.inj lexed).symm⟩
  | cons character rest ih =>
    rw [lex, finished, if_neg begun] at lexed
    split_ifs at lexed
    case neg => exact ih (by simp) lexed
    all_goals
      obtain ⟨others, _, rfl⟩ := Option.map_eq_some_iff.mp lexed
      exact ⟨word, _, rfl⟩

theorem space_head_kept (text : List Char) (character : Char) (rest : List Char)
    (starts : kept .outside text = character :: rest) : space character = false := by
  have compact := unspaced_kept .outside text
  rw [starts] at compact
  simp only [unspaced, Bool.and_eq_true, Bool.not_eq_true'] at compact
  simpa using compact.1

/-- A word ends where the text goes on with no whitespace and no other word. -/
theorem lex_ends_word {text : List Char} {tokens : List Token} (word : List Char)
    (printed : ∀ character rest, text = character :: rest → space character = false)
    (wordless : ¬ StartsWithWord tokens) (lexed : lex .outside [] text = some tokens) :
    lex .outside word text = some (finished word ++ tokens) := by
  cases text with
  | nil =>
    obtain rfl : [] = tokens := Option.some.inj lexed
    rw [List.append_nil]
    rfl
  | cons character rest =>
    have visible := printed character rest rfl
    rw [lex] at lexed ⊢
    split_ifs at lexed ⊢ with quoted blank separates
    case pos =>
      obtain ⟨others, read, rfl⟩ := Option.map_eq_some_iff.mp lexed
      rw [read]
      rfl
    case pos => rw [visible] at blank; cases blank
    case pos =>
      obtain ⟨others, read, rfl⟩ := Option.map_eq_some_iff.mp lexed
      rw [read]
      rfl
    case neg => exact absurd (lex_word (by simp) lexed) wordless

theorem wordless_after {word : List Char} {others : List Token} (begun : word ≠ [])
    (apart : Apart (finished word ++ others)) : ¬ StartsWithWord others := by
  rintro ⟨next, rest, rfl⟩
  rw [finished, if_neg begun] at apart
  have sides := (List.isChain_cons.mp apart).1
  exact sides (.word next) rfl word next rfl rfl

/-- Leaving the whitespace out keeps the tokens, where no two words stand side by side. -/
theorem lex_kept {place : LexState} {pending text : List Char} {tokens : List Token}
    (lexed : lex place pending text = some tokens) (apart : Apart tokens) :
    lex place pending (kept place text) = some tokens := by
  induction text generalizing place pending tokens with
  | nil => exact lexed
  | cons character rest ih =>
    cases place with
    | inside =>
      rw [lex] at lexed
      rw [kept, if_neg (by simp), lex, LexState.after]
      split_ifs at lexed ⊢ with closes
      case pos =>
        obtain ⟨others, read, rfl⟩ := Option.map_eq_some_iff.mp lexed
        rw [ih read apart.tail]
        rfl
      all_goals exact ih lexed apart
    | escaped =>
      rw [lex] at lexed
      rw [kept, if_neg (by simp), lex, LexState.after]
      exact ih lexed apart
    | outside =>
      rw [lex] at lexed
      by_cases opens : character = '"'
      · subst opens
        rw [if_pos rfl] at lexed
        obtain ⟨others, read, rfl⟩ := Option.map_eq_some_iff.mp lexed
        rw [kept, if_neg (by decide), lex, if_pos rfl, LexState.after, if_pos rfl,
          ih read apart.right_of_append]
        rfl
      · rw [if_neg opens] at lexed
        by_cases blank : space character = true
        · rw [if_pos blank] at lexed
          obtain ⟨others, read, rfl⟩ := Option.map_eq_some_iff.mp lexed
          have again := ih read apart.right_of_append
          rw [kept, if_pos (by simp [blank])]
          by_cases fresh : pending = []
          · rw [fresh]
            exact again
          · exact lex_ends_word pending (space_head_kept rest) (wordless_after fresh apart) again
        · rw [if_neg blank] at lexed
          rw [kept, if_neg (by simp [blank]), lex, if_neg opens, if_neg blank, LexState.after,
            if_neg opens]
          split_ifs at lexed ⊢ with separates
          case pos =>
            obtain ⟨others, read, rfl⟩ := Option.map_eq_some_iff.mp lexed
            rw [ih read apart.right_of_append.tail]
            rfl
          case neg => exact ih lexed apart

end Words

section Grammar

/-- The characters between the quotes of a literal. -/
inductive Body : List Char → Prop where
  | empty : Body []
  | plain {character : Char} {rest : List Char} (printable : 0x20 ≤ character.toNat)
      (noQuote : character ≠ '"') (noBackslash : character ≠ '\\') (others : Body rest) :
      Body (character :: rest)
  | short {character : Char} {rest : List Char}
      (known : character ∈ "\"\\/bfnrt".toList) (others : Body rest) :
      Body ('\\' :: character :: rest)
  | unicode {digits rest : List Char} (four : digits.length = 4)
      (hex : ∀ digit ∈ digits, digit ∈ "0123456789abcdefABCDEF".toList) (others : Body rest) :
      Body ('\\' :: 'u' :: (digits ++ rest))

def Digits (text : List Char) : Prop := text ≠ [] ∧ ∀ digit ∈ text, digit.isDigit = true

theorem digits_of_all {text : List Char} (nonempty : text ≠ [])
    (all : text.all Char.isDigit = true) : Digits text := ⟨nonempty, List.all_eq_true.mp all⟩

/-- A number: a sign, an integer with no leading zero, a fraction and an exponent. -/
def Number (text : List Char) : Prop :=
  ∃ sign whole fraction exponent, text = sign ++ whole ++ fraction ++ exponent ∧
    (sign = [] ∨ sign = ['-']) ∧
    (Digits whole ∧ (whole = ['0'] ∨ whole.head? ≠ some '0')) ∧
    (fraction = [] ∨ ∃ digits, Digits digits ∧ fraction = '.' :: digits) ∧
    (exponent = [] ∨ ∃ mark turn digits, (mark = 'e' ∨ mark = 'E') ∧
      (turn = [] ∨ turn = ['+'] ∨ turn = ['-']) ∧ Digits digits ∧
      exponent = mark :: (turn ++ digits))

def Word (text : List Char) : Prop :=
  text = "true".toList ∨ text = "false".toList ∨ text = "null".toList ∨ Number text

inductive Part where
  | value
  | items
  | fields

/-- The tokens of a value, of an array's items and of an object's fields. -/
inductive Derives : Part → List Token → Prop where
  | word {characters : List Char} (spelt : Word characters) : Derives .value [.word characters]
  | literal {body : List Char} (closed : Body body) : Derives .value [.literal body]
  | emptyArray : Derives .value [.punct '[', .punct ']']
  | array {items : List Token} (listed : Derives .items items) :
      Derives .value (.punct '[' :: (items ++ [.punct ']']))
  | emptyObject : Derives .value [.punct '\x7b', .punct '\x7d']
  | object {fields : List Token} (listed : Derives .fields fields) :
      Derives .value (.punct '\x7b' :: (fields ++ [.punct '\x7d']))
  | lastItem {value : List Token} (last : Derives .value value) : Derives .items value
  | item {value items : List Token} (first : Derives .value value)
      (others : Derives .items items) : Derives .items (value ++ .punct ',' :: items)
  | lastField {key : List Char} {value : List Token} (named : Body key)
      (last : Derives .value value) : Derives .fields (.literal key :: .punct ':' :: value)
  | field {key : List Char} {value fields : List Token} (named : Body key)
      (first : Derives .value value) (others : Derives .fields fields) :
      Derives .fields (.literal key :: .punct ':' :: (value ++ .punct ',' :: fields))

def Document (text : String) : Prop := ∃ parsed, tokens text = some parsed ∧ Derives .value parsed

/-- A token that is no word stands next to any other. -/
theorem Apart.cons {token : Token} {others : List Token}
    (wordless : ∀ characters, token ≠ .word characters) (behind : Apart others) :
    Apart (token :: others) :=
  List.isChain_cons.mpr ⟨fun _ _ characters _ word => absurd word (wordless characters), behind⟩

theorem Apart.around {first second : List Token} (character : Char) (before : Apart first)
    (behind : Apart second) : Apart (first ++ .punct character :: second) := by
  apply List.isChain_append.mpr
  refine ⟨before, behind.cons (by simp), ?_⟩
  intro token _ next starts characters others _
  obtain rfl : Token.punct character = next := Option.some.inj starts
  simp

/-- The tokens of a value have punctuation between any two words. -/
theorem Derives.apart {part : Part} {parsed : List Token} (derived : Derives part parsed) :
    Apart parsed := by
  have none : Apart [] := List.isChain_nil
  induction derived with
  | word | literal => exact List.isChain_singleton _
  | emptyArray | emptyObject => exact (none.cons (by simp)).cons (by simp)
  | array _ ih | object _ ih => exact (ih.around _ none).cons (by simp)
  | lastItem _ ih => exact ih
  | item _ _ first others => exact first.around ',' others
  | lastField _ _ ih => exact (ih.cons (by simp)).cons (by simp)
  | field _ _ _ first others => exact ((first.around ',' others).cons (by simp)).cons (by simp)

theorem Document.tokens_kept {text : String} (document : Document text) :
    tokens (String.ofList (kept .outside text.toList)) = tokens text := by
  obtain ⟨parsed, lexed, derived⟩ := document
  rw [tokens, String.toList_ofList, lexed]
  exact lex_kept lexed derived.apart

end Grammar

end Library.JsonTokens
