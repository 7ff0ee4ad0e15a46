import Mathlib.Data.List.Infix
import Mathlib.Logic.Function.Basic

/-! Text in two sides, each left by a tag of its own. A reader takes it symbol by symbol and
holds back the beginning of a tag until the tag is whole or broken off. -/
namespace Library

/-- Tags that begin and end with symbols found nowhere else in them. -/
structure Delimiters (Side Symbol : Type*) where
  other : Side → Side
  other_ne : ∀ side, other side ≠ side
  other_other : ∀ side, other (other side) = side
  first : Symbol
  last : Symbol
  body : Side → List Symbol
  first_ne_last : first ≠ last
  first_notMem : ∀ side, first ∉ body side
  last_notMem : ∀ side, last ∉ body side
  body_ne : ∀ side, body (other side) ≠ body side

namespace Delimiters
variable {Side Symbol : Type*} (tags : Delimiters Side Symbol)

/-- The tag that leaves a side. -/
def tag (side : Side) : List Symbol := tags.first :: (tags.body side ++ [tags.last])

/-- The beginning of a tag, short of the whole. -/
def Partial (side : Side) (held : List Symbol) : Prop :=
  held <+: tags.tag side ∧ held ≠ tags.tag side

section Partial
variable {tags} {side : Side} {held rest : List Symbol} {symbol : Symbol}

theorem partial_nil : tags.Partial side [] := ⟨List.nil_prefix, (List.cons_ne_nil _ _).symm⟩

theorem partial_init : tags.Partial side (tags.first :: tags.body side) := by
  refine ⟨⟨[tags.last], rfl⟩, ?_⟩
  intro whole
  have lengths := congrArg List.length whole
  simp [tag] at lengths

theorem Partial.init (part : tags.Partial side held) :
    held <+: tags.first :: tags.body side := by
  obtain ⟨⟨rest, split⟩, short⟩ := part
  rcases List.eq_nil_or_concat rest with rfl | ⟨front, final, rfl⟩
  · rw [List.append_nil] at split
    exact absurd split short
  · rw [tag, ← List.cons_append, List.concat_eq_append, ← List.append_assoc] at split
    exact ⟨front, (List.append_inj' split rfl).1⟩

theorem Partial.last_notMem (part : tags.Partial side held) : tags.last ∉ held := by
  intro member
  rcases List.mem_cons.mp (part.init.subset member) with same | inside
  · exact tags.first_ne_last same.symm
  · exact tags.last_notMem side inside

/-- The first symbol stands at the head of a beginning only. -/
theorem Partial.first_notMem_tail (part : tags.Partial side (symbol :: rest)) :
    symbol = tags.first ∧ tags.first ∉ rest := by
  obtain ⟨more, split⟩ := part.init
  rw [List.cons_append] at split
  obtain ⟨same, tail⟩ := List.cons.inj split
  refine ⟨same, ?_⟩
  intro member
  exact tags.first_notMem side (tail ▸ List.mem_append_left _ member)

theorem Partial.of_append (part : tags.Partial side (held ++ rest)) :
    tags.Partial side held := by
  refine ⟨(List.prefix_append held rest).trans part.1, ?_⟩
  rintro rfl
  have whole := part.1.eq_of_length_le (by rw [List.length_append]; omega)
  exact part.2 whole

/-- Two beginnings that end the same text are one. -/
theorem Partial.suffix_unique {text front : List Symbol} (part : tags.Partial side held)
    (also : tags.Partial side front) (nonempty : held ≠ []) (filled : front ≠ [])
    (ends : held <:+ text) (likewise : front <:+ text) : held = front := by
  have shorter {one two : List Symbol} (part : tags.Partial side one)
      (also : tags.Partial side two) (nonempty : one ≠ []) (inside : one <:+ two) : one = two := by
    obtain ⟨front, split⟩ := inside
    cases front with
    | nil => exact split
    | cons head front =>
      cases one with
      | nil => exact absurd rfl nonempty
      | cons symbol rest =>
        rw [← split, List.cons_append] at also
        have clear := also.first_notMem_tail.2
        rw [← part.first_notMem_tail.1] at clear
        exact absurd (List.mem_append_right _ (List.mem_cons_self ..)) clear
  rcases List.suffix_or_suffix_of_suffix ends likewise with inside | inside
  · exact shorter part also nonempty inside
  · exact (shorter also part filled inside).symm

/-- A beginning of a tag that ends the text from a fresh first symbol on. -/
theorem Partial.suffix_of_first {ending front : List Symbol} (part : tags.Partial side ending)
    (ends : ending <:+ front ++ tags.first :: rest) : ending <:+ tags.first :: rest := by
  rcases List.suffix_or_suffix_of_suffix ends (List.suffix_append _ _) with inside | around
  · exact inside
  · obtain ⟨more, split⟩ := around
    cases more with
    | nil => exact split ▸ List.suffix_refl _
    | cons head more =>
      rw [← split, List.cons_append] at part
      exact absurd (List.mem_append_right _ (List.mem_cons_self ..)) part.first_notMem_tail.2

/-- A broken beginning is in no beginning that ends the text. -/
theorem Partial.suffix_of_plain {ending : List Symbol} (part : tags.Partial side ending)
    (begun : tags.Partial side held) (plain : symbol ≠ tags.first)
    (broken : ¬ held ++ [symbol] <+: tags.tag side) (ends : ending <:+ held ++ symbol :: rest) :
    ending <:+ rest := by
  rw [← List.singleton_append, ← List.append_assoc] at ends
  rcases List.suffix_or_suffix_of_suffix ends (List.suffix_append _ _) with inside | ⟨front, split⟩
  · exact inside
  · rcases List.eq_nil_or_concat front with rfl | ⟨start, final, rfl⟩
    · exact split ▸ List.suffix_refl _
    · rw [List.concat_eq_append] at split
      have within : start ++ [final] <:+ held ++ [symbol] := by
        rw [← split] at ends
        obtain ⟨before, same⟩ := ends
        rw [← List.append_assoc] at same
        exact ⟨before, List.append_cancel_right same⟩
      obtain ⟨before, same⟩ := within
      rw [← List.append_assoc] at same
      obtain ⟨trunk, tip⟩ := List.append_inj' same rfl
      obtain rfl := (List.cons.inj tip).1
      rw [← split] at part
      have head : tags.Partial side (start ++ [final]) := part.of_append
      cases start with
      | nil => exact absurd head.first_notMem_tail.1 plain
      | cons symbol start =>
        have filled : held ≠ [] := by
          rintro rfl
          exact List.append_ne_nil_of_right_ne_nil _ (List.cons_ne_nil _ _) trunk
        have whole := head.of_append.suffix_unique begun (List.cons_ne_nil _ _) filled
          ⟨before, trunk⟩ (List.suffix_refl held)
        exact absurd (whole ▸ head.1) broken

end Partial

variable [DecidableEq Side] [DecidableEq Symbol]

/-- A text on one side, nothing on the other. -/
def only (side : Side) (text : List Symbol) : Side → List Symbol :=
  fun place => if place = side then text else []

omit [DecidableEq Symbol] in
@[simp] theorem only_self (side : Side) (text : List Symbol) : only side text side = text :=
  if_pos rfl

omit [DecidableEq Symbol] in
theorem only_ne {side place : Side} (different : place ≠ side) (text : List Symbol) :
    only side text place = [] := if_neg different

/-- One symbol: where the reader is then, what it holds, and what it lets go on its side. -/
def step (side : Side) (held : List Symbol) (symbol : Symbol) :
    (Side × List Symbol) × List Symbol :=
  if held ++ [symbol] = tags.tag side then ((tags.other side, []), [])
  else if held ++ [symbol] <+: tags.tag side then ((side, held ++ [symbol]), [])
  else if symbol = tags.first then ((side, [symbol]), held)
  else ((side, []), held ++ [symbol])

def read (side : Side) (held : List Symbol) :
    List Symbol → (Side × List Symbol) × (Side → List Symbol)
  | [] => ((side, held), fun _ => [])
  | symbol :: rest =>
    let taken := tags.step side held symbol
    let later := read taken.1.1 taken.1.2 rest
    (later.1, fun place => only side taken.2 place ++ later.2 place)

section Step
variable {tags} {side place : Side} {held rest text : List Symbol} {symbol : Symbol}

omit [DecidableEq Side] [DecidableEq Symbol] in
theorem partial_first : tags.Partial side [tags.first] := by
  refine ⟨⟨tags.body side ++ [tags.last], rfl⟩, ?_⟩
  intro whole
  have empty := (List.cons.inj whole).2
  exact List.append_ne_nil_of_right_ne_nil _ (List.cons_ne_nil _ _) empty.symm

/-- What a symbol does: it ends the tag, carries it on, begins one afresh, or is text. -/
inductive Stepped (tags : Delimiters Side Symbol) (side : Side) (held : List Symbol)
    (symbol : Symbol) : (Side × List Symbol) × List Symbol → Prop
  | matched (whole : held ++ [symbol] = tags.tag side) :
      Stepped tags side held symbol ((tags.other side, []), [])
  | grown (part : tags.Partial side (held ++ [symbol])) :
      Stepped tags side held symbol ((side, held ++ [symbol]), [])
  | restarted (opens : symbol = tags.first) (nonempty : held ≠ []) :
      Stepped tags side held symbol ((side, [symbol]), held)
  | passed (plain : symbol ≠ tags.first) (broken : ¬ held ++ [symbol] <+: tags.tag side) :
      Stepped tags side held symbol ((side, []), held ++ [symbol])

omit [DecidableEq Side] in
variable (tags) in
theorem stepped (side : Side) (held : List Symbol) (symbol : Symbol) :
    Stepped tags side held symbol (tags.step side held symbol) := by
  unfold step
  split
  case isTrue whole => exact .matched whole
  case isFalse short =>
    split
    case isTrue begins => exact .grown ⟨begins, short⟩
    case isFalse broken =>
      split
      case isTrue opens =>
        apply Stepped.restarted opens
        rintro rfl
        subst opens
        exact broken partial_first.1
      case isFalse plain => exact .passed plain broken

omit [DecidableEq Side] in
variable (tags) in
theorem partial_step (side : Side) (held : List Symbol) (symbol : Symbol) :
    tags.Partial (tags.step side held symbol).1.1 (tags.step side held symbol).1.2 := by
  have taken := stepped tags side held symbol
  generalize tags.step side held symbol = result at taken
  cases taken with
  | matched => exact partial_nil
  | grown part => exact part
  | restarted opens => exact opens ▸ partial_first
  | passed => exact partial_nil

theorem partial_read (part : tags.Partial side held) (text : List Symbol) :
    tags.Partial (tags.read side held text).1.1 (tags.read side held text).1.2 := by
  induction text generalizing side held with
  | nil => exact part
  | cons symbol rest ih => exact ih (partial_step tags side held symbol)

theorem read_append (side : Side) (held text more : List Symbol) :
    tags.read side held (text ++ more) =
      ((tags.read (tags.read side held text).1.1 (tags.read side held text).1.2 more).1,
        fun place => (tags.read side held text).2 place ++
          (tags.read (tags.read side held text).1.1 (tags.read side held text).1.2 more).2
            place) := by
  induction text generalizing side held with
  | nil => rfl
  | cons symbol rest ih =>
    simp only [List.cons_append, read, ih, List.append_assoc]

/-- Reading on from a beginning is reading the beginning first. -/
theorem read_held (part : tags.Partial side held) (text : List Symbol) :
    tags.read side [] (held ++ text) = tags.read side held text := by
  have opening (front : List Symbol) (whole : tags.Partial side (front ++ [])) :
      tags.read side [] front = ((side, front), fun _ => []) := by
    induction front using List.reverseRecOn with
    | nil => rfl
    | append_singleton front symbol ih =>
      rw [List.append_nil] at whole
      have before : tags.Partial side front := whole.of_append
      rw [read_append, ih (by rwa [List.append_nil])]
      have taken : tags.step side front symbol = ((side, front ++ [symbol]), []) := by
        rw [step, if_neg whole.2, if_pos whole.1]
      simp only [read, taken, List.append_nil, only, ite_self]
  rw [read_append, opening held (by rwa [List.append_nil])]
  rfl

/-- A text without its side's tag is let go up to a beginning that may end it. -/
theorem read_untagged (part : tags.Partial side held)
    (clear : ¬ tags.tag side <:+: held ++ text) :
    ∃ front final, held ++ text = front ++ final ∧
      tags.read side held text = ((side, final), only side front) ∧
      ∀ ending, ending ≠ [] → tags.Partial side ending → ending <:+ held ++ text →
        ending = final := by
  induction text generalizing held with
  | nil =>
    refine ⟨[], held, List.append_nil held, ?_, ?_⟩
    · have nothing : only side ([] : List Symbol) = fun _ => [] := by
        funext place
        exact ite_self _
      rw [read, nothing]
    · intro ending nonempty begins ends
      rw [List.append_nil] at ends
      have filled : held ≠ [] := by
        rintro rfl
        exact nonempty (List.suffix_nil.mp ends)
      exact begins.suffix_unique part nonempty filled ends (List.suffix_refl held)
  | cons symbol rest ih =>
    have taken := stepped tags side held symbol
    have joined (front text : List Symbol) (place : Side) :
        only side front place ++ only side text place = only side (front ++ text) place := by
      unfold only
      split <;> rfl
    rw [read]
    generalize tags.step side held symbol = result at taken
    cases taken with
    | matched whole =>
      refine absurd ⟨[], rest, ?_⟩ clear
      rw [List.nil_append, ← whole, List.append_assoc, List.singleton_append]
    | grown begun =>
      rw [← List.singleton_append, ← List.append_assoc] at clear
      obtain ⟨front, final, split, same, least⟩ := ih begun clear
      rw [List.append_assoc, List.singleton_append] at split least
      refine ⟨front, final, split, ?_, least⟩
      simp only [same, joined, List.nil_append]
    | restarted opens nonempty =>
      have begun : tags.Partial side [symbol] := opens ▸ partial_first
      obtain ⟨front, final, split, same, least⟩ := ih begun fun inside =>
        clear (inside.trans (List.suffix_append held _).isInfix)
      refine ⟨held ++ front, final, ?_, ?_, ?_⟩
      · rw [List.append_assoc, ← split]
        rfl
      · simp only [same, joined]
      · intro ending nonempty begins ends
        apply least ending nonempty begins
        subst opens
        exact begins.suffix_of_first ends
    | passed plain broken =>
      obtain ⟨front, final, split, same, least⟩ := ih partial_nil fun inside =>
        clear (inside.trans ((List.suffix_cons symbol rest).trans
          (List.suffix_append held _)).isInfix)
      refine ⟨held ++ [symbol] ++ front, final, ?_, ?_, ?_⟩
      · rw [List.append_assoc, List.append_assoc, ← split]
        rfl
      · simp only [same, joined]
      · intro ending nonempty begins ends
        exact least ending nonempty begins (begins.suffix_of_plain part plain broken ends)

/-- Up to its tag a side's text is let go, and what follows is read on the other side. -/
theorem read_tagged {before after : List Symbol}
    (clear : ¬ tags.tag side <:+: before ++ tags.first :: tags.body side) :
    tags.read side [] (before ++ tags.tag side ++ after) =
      ((tags.read (tags.other side) [] after).1,
        fun place => only side before place ++ (tags.read (tags.other side) [] after).2 place) := by
  have begun : tags.Partial side (tags.first :: tags.body side) := partial_init
  rw [← List.nil_append (before ++ _)] at clear
  obtain ⟨front, final, split, same, least⟩ := read_untagged partial_nil clear
  have held := least _ (List.cons_ne_nil _ _) begun (List.suffix_append _ _)
  subst held
  rw [List.nil_append] at split
  obtain rfl := List.append_cancel_right split
  have ended : tags.step side (tags.first :: tags.body side) tags.last =
      ((tags.other side, []), []) := if_pos rfl
  have shape : before ++ tags.tag side ++ after =
      (before ++ tags.first :: tags.body side) ++ tags.last :: after := by
    simp [tag]
  rw [shape, read_append, same, read, ended]
  have nothing (place : Side) : only side ([] : List Symbol) place = [] := ite_self _
  simp only [nothing, List.nil_append]

omit [DecidableEq Side] in
theorem step_nil_first (side : Side) :
    tags.step side [] tags.first = ((side, [tags.first]), []) := by
  have begun : tags.Partial side [tags.first] := partial_first
  rw [step, List.nil_append, if_neg begun.2, if_pos begun.1]

omit [DecidableEq Side] in
theorem step_nil_plain (plain : symbol ≠ tags.first) :
    tags.step side [] symbol = ((side, []), [symbol]) := by
  have broken : ¬ [symbol] <+: tags.tag side := by
    rintro ⟨rest, split⟩
    exact plain (List.cons.inj split).1
  have short : [symbol] ≠ tags.tag side := fun whole => broken (whole ▸ List.prefix_refl _)
  rw [step, List.nil_append, if_neg short, if_neg broken, if_neg plain]

end Step

section Shadow
variable {tags} {side place : Side} {held caught rest text : List Symbol} {symbol : Symbol}
variable {written said : Side → List Symbol}

/-- A reader that may hold back, besides, the end of what is written already: `held` stands
written nowhere, the shadow's `caught` and its `said` make up the same text. -/
structure Shadow (tags : Delimiters Side Symbol) (side : Side) (held caught : List Symbol)
    (written said : Side → List Symbol) : Prop where
  begun : tags.Partial side held
  begins : tags.Partial side caught
  behind : caught = held ∨ held = []
  here : said side ++ caught = written side ++ held
  elsewhere : ∀ place, place ≠ side → said place = written place

omit [DecidableEq Side] [DecidableEq Symbol] in
/-- The shadow catches what the reader lets go. -/
theorem Shadow.catch_ {again : List Symbol} {spoken : Side → List Symbol}
    (shadow : Shadow tags side held caught written said) (begins : tags.Partial side again)
    (moved : again = caught ∨ caught = []) (here : spoken side ++ again = said side ++ caught)
    (elsewhere : ∀ place, place ≠ side → spoken place = said place) :
    Shadow tags side held again written spoken where
  begun := shadow.begun
  begins := begins
  behind := by
    rcases moved with rfl | rfl
    · exact shadow.behind
    · exact Or.inr (shadow.behind.elim Eq.symm id)
  here := here.trans shadow.here
  elsewhere place different := (elsewhere place different).trans (shadow.elsewhere place different)

/-- Where no tag comes together in what is written, the shadow stays with the reader. -/
theorem Shadow.step (shadow : Shadow tags side held caught written said) (symbol : Symbol)
    (clear : ¬ tags.tag side <:+:
      written side ++ only side (tags.step side held symbol).2 side) :
    (tags.step side caught symbol).1.1 = (tags.step side held symbol).1.1 ∧
      Shadow tags (tags.step side held symbol).1.1 (tags.step side held symbol).1.2
        (tags.step side caught symbol).1.2
        (fun place => written place ++ only side (tags.step side held symbol).2 place)
        (fun place => said place ++ only side (tags.step side caught symbol).2 place) := by
  rcases shadow.behind with same | empty
  · subst same
    have equal : said = written := by
      funext place
      by_cases at_ : place = side
      · subst at_
        exact List.append_cancel_right shadow.here
      · exact shadow.elsewhere place at_
    subst equal
    exact ⟨rfl, partial_step tags _ _ _, partial_step tags _ _ _, Or.inl rfl, rfl, fun _ _ => rfl⟩
  · subst empty
    obtain ⟨begun, begins, -, here, elsewhere⟩ := shadow
    rw [List.append_nil] at here
    have apart (one two : List Symbol) (place : Side) (different : place ≠ side) :
        said place ++ only side one place = written place ++ only side two place := by
      rw [only_ne different, only_ne different, elsewhere place different]
    have taken := stepped tags side caught symbol
    by_cases opens : symbol = tags.first
    · subst opens
      rw [step_nil_first]
      generalize tags.step side caught tags.first = result at taken
      cases taken with
      | matched whole =>
        rw [tag, ← List.cons_append] at whole
        have tip := (List.append_inj' whole rfl).2
        exact absurd (List.cons.inj tip).1 tags.first_ne_last
      | grown part =>
        have bare : caught = [] := by
          cases caught with
          | nil => rfl
          | cons head tail =>
            exact absurd (List.mem_append_right _ (List.mem_singleton_self _))
              part.first_notMem_tail.2
        subst bare
        rw [List.append_nil] at here
        refine ⟨rfl, partial_first, partial_first, Or.inl rfl, ?_, apart _ _⟩
        rw [here]
        rfl
      | restarted =>
        refine ⟨rfl, partial_first, partial_first, Or.inl rfl, ?_, apart _ _⟩
        rw [only_self, only_self, here, List.append_nil]
      | passed plain => exact absurd rfl plain
    · rw [step_nil_plain opens] at clear ⊢
      rw [only_self, ← here] at clear
      generalize tags.step side caught symbol = result at taken
      cases taken with
      | matched whole =>
        rw [List.append_assoc, whole] at clear
        exact absurd (List.suffix_append _ _).isInfix clear
      | grown part =>
        refine ⟨rfl, partial_nil, part, Or.inr rfl, ?_, apart _ _⟩
        rw [only_self, only_self, ← here, List.append_nil, List.append_nil, List.append_assoc]
      | restarted same => exact absurd same opens
      | passed =>
        refine ⟨rfl, partial_nil, partial_nil, Or.inl rfl, ?_, apart _ _⟩
        simp only [only_self, ← here, List.append_assoc, List.append_nil]

theorem Shadow.read (shadow : Shadow tags side held caught written said) (text : List Symbol)
    (clear : ∀ place, ¬ tags.tag place <:+:
      written place ++ (tags.read side held text).2 place) :
    (tags.read side caught text).1.1 = (tags.read side held text).1.1 ∧
      Shadow tags (tags.read side held text).1.1 (tags.read side held text).1.2
        (tags.read side caught text).1.2
        (fun place => written place ++ (tags.read side held text).2 place)
        (fun place => said place ++ (tags.read side caught text).2 place) := by
  induction text generalizing side held caught written said with
  | nil => simpa [Delimiters.read] using shadow
  | cons symbol rest ih =>
    simp only [Delimiters.read, ← List.append_assoc] at clear ⊢
    obtain ⟨same, after⟩ := shadow.step symbol fun inside =>
      clear side (inside.trans (List.prefix_append _ _).isInfix)
    rw [same]
    exact ih after clear

end Shadow
section Joining
variable {tags} {side place : Side} {held text buffer : List Symbol} {symbol : Symbol}

theorem read_concat (side : Side) (held text : List Symbol) (symbol : Symbol) :
    tags.read side held (text ++ [symbol]) =
      ((tags.step (tags.read side held text).1.1 (tags.read side held text).1.2 symbol).1,
        fun place => (tags.read side held text).2 place ++
          only (tags.read side held text).1.1
            (tags.step (tags.read side held text).1.1 (tags.read side held text).1.2 symbol).2
            place) := by
  rw [read_append]
  simp only [read, List.append_nil]

omit [DecidableEq Side] [DecidableEq Symbol] in
theorem first_notMem_rest (side : Side) : tags.first ∉ tags.body side ++ [tags.last] := by
  intro member
  rcases List.mem_append.mp member with inside | tip
  · exact tags.first_notMem side inside
  · exact tags.first_ne_last (List.mem_singleton.mp tip)

omit [DecidableEq Side] [DecidableEq Symbol] in
/-- A beginning of a tag brings no tag together with what stands before it. -/
theorem Partial.infix_append (part : tags.Partial side held)
    (joined : tags.tag side <:+: buffer ++ held) : tags.tag side <:+: buffer := by
  rcases List.infix_append_iff_ne_nil.mp joined with before | inside | ⟨front, back, nonempty,
    filled, split, -, begins⟩
  · exact before
  · have member : tags.last ∈ tags.tag side := by simp [tag]
    exact absurd (inside.subset member) part.last_notMem
  · cases back with
    | nil => exact absurd rfl filled
    | cons head back =>
      obtain ⟨more, rfl⟩ := begins
      have opens := part.first_notMem_tail.1
      subst opens
      cases front with
      | nil => exact absurd rfl nonempty
      | cons other front =>
        have rest := (List.cons.inj split).2
        have member : tags.first ∈ tags.body side ++ [tags.last] :=
          rest ▸ List.mem_append_right _ (List.mem_cons_self ..)
        exact absurd member (first_notMem_rest side)

omit [DecidableEq Side] in
/-- A tag comes together by one symbol, which finds nothing held. -/
theorem step_joins (part : tags.Partial side held)
    (joined : tags.tag side <:+: buffer ++ (tags.step side held symbol).2)
    (clear : ¬ tags.tag side <:+: buffer) :
    held = [] ∧ ∃ front, front ++ [symbol] = tags.tag side ∧ front <:+ buffer := by
  have taken := stepped tags side held symbol
  generalize tags.step side held symbol = result at taken joined
  cases taken with
  | matched => exact absurd (by rwa [List.append_nil] at joined) clear
  | grown => exact absurd (by rwa [List.append_nil] at joined) clear
  | restarted => exact absurd (part.infix_append joined) clear
  | passed plain broken =>
    rw [← List.append_assoc] at joined
    rcases List.infix_concat_iff.mp joined with ends | before
    · obtain ⟨more, split⟩ := ends
      rw [tag, ← List.cons_append, ← List.append_assoc] at split
      obtain ⟨trunk, tip⟩ := List.append_inj' split rfl
      obtain rfl := (List.cons.inj tip).1
      have begun : tags.Partial side (tags.first :: tags.body side) := partial_init
      cases held with
      | nil =>
        rw [List.append_nil] at trunk
        exact ⟨rfl, _, rfl, more, trunk⟩
      | cons head tail =>
        have same := begun.suffix_unique part (List.cons_ne_nil _ _) (List.cons_ne_nil _ _)
          ⟨more, trunk⟩ (List.suffix_append _ _)
        refine absurd ?_ broken
        rw [← same]
        exact List.prefix_refl _
    · exact absurd (part.infix_append before) clear

/-- Where a tag has come together, it did so at some symbol of the text. -/
theorem read_joins (part : tags.Partial side held)
    (joined : tags.tag place <:+: (tags.read side held text).2 place) :
    ∃ before symbol after front, text = before ++ symbol :: after ∧
      (tags.read side held before).1 = (place, []) ∧ front ++ [symbol] = tags.tag place ∧
      front <:+ (tags.read side held before).2 place := by
  induction text using List.reverseRecOn with
  | nil => exact absurd (List.infix_nil.mp joined) (List.cons_ne_nil _ _)
  | append_singleton text symbol ih =>
    by_cases already : tags.tag place <:+: (tags.read side held text).2 place
    · obtain ⟨before, tip, after, front, split, rest⟩ := ih already
      refine ⟨before, tip, after ++ [symbol], front, ?_, rest⟩
      rw [split, List.append_assoc, List.cons_append]
    · rw [read_concat] at joined
      dsimp only at joined
      have at_ : place = (tags.read side held text).1.1 := by
        by_contra different
        rw [only_ne different, List.append_nil] at joined
        exact already joined
      subst at_
      rw [only_self] at joined
      obtain ⟨empty, front, whole, ends⟩ := step_joins (partial_read part text) joined already
      exact ⟨text, symbol, [], front, rfl, Prod.ext rfl empty, whole, ends⟩

end Joining

section Sides
variable {tags} {side : Side} {held hidden text : List Symbol} {symbol : Symbol}

omit [DecidableEq Side] in
/-- Where a symbol ends no tag, what is held is nothing, the first symbol or one symbol more. -/
theorem step_held (unmatched : held ++ [symbol] ≠ tags.tag side) :
    (tags.step side held symbol).1.1 = side ∧
      ((tags.step side held symbol).1.2 = [] ∨
        symbol = tags.first ∧ (tags.step side held symbol).1.2 = [tags.first] ∨
        held ≠ [] ∧ (tags.step side held symbol).1.2 = held ++ [symbol]) := by
  have taken := stepped tags side held symbol
  generalize tags.step side held symbol = result at taken
  cases taken with
  | matched whole => exact absurd whole unmatched
  | grown part =>
    refine ⟨rfl, Or.inr ?_⟩
    cases held with
    | nil =>
      have opens := part.first_notMem_tail.1
      subst opens
      exact Or.inl ⟨rfl, rfl⟩
    | cons head tail => exact Or.inr ⟨List.cons_ne_nil _ _, rfl⟩
  | restarted opens => exact ⟨rfl, Or.inr (Or.inl ⟨opens, by rw [opens]⟩)⟩
  | passed => exact ⟨rfl, Or.inl rfl⟩

omit [DecidableEq Side] in
/-- The last symbol is text to a reader of the other side. -/
theorem step_last (unmatched : held ++ [tags.last] ≠ tags.tag side) :
    tags.step side held tags.last = ((side, []), held ++ [tags.last]) := by
  have taken := stepped tags side held tags.last
  generalize tags.step side held tags.last = result at taken
  cases taken with
  | matched whole => exact absurd whole unmatched
  | grown part => exact absurd (List.mem_append_right _ (List.mem_singleton_self _)) part.last_notMem
  | restarted opens => exact absurd opens.symm tags.first_ne_last
  | passed => rfl

omit [DecidableEq Side] in
theorem Partial.count_last (part : tags.Partial side held) : held.count tags.last = 0 :=
  List.count_eq_zero.mpr part.last_notMem

/-- What two readers hold who take one text on the two sides. -/
def Aligned (held hidden : List Symbol) : Prop := held = [] ∨ hidden = [] ∨ held = hidden

omit [DecidableEq Side] [DecidableEq Symbol] in
theorem tag_init_ne {front : List Symbol} (whole : front ++ [symbol] = tags.tag side) :
    symbol = tags.last ∧ front = tags.first :: tags.body side := by
  rw [tag, ← List.cons_append] at whole
  obtain ⟨trunk, tip⟩ := List.append_inj' whole rfl
  exact ⟨(List.cons.inj tip).1, trunk⟩

omit [DecidableEq Side] [DecidableEq Symbol] in
theorem Aligned.apart (aligned : Aligned held hidden)
    (whole : held ++ [symbol] = tags.tag side) :
    hidden ++ [symbol] ≠ tags.tag (tags.other side) := by
  intro also
  have here := (tag_init_ne whole).2
  have there := (tag_init_ne also).2
  rcases aligned with rfl | rfl | rfl
  · cases here
  · cases there
  · exact tags.body_ne side (List.cons.inj (there.symm.trans here)).2

omit [DecidableEq Side] in
/-- A symbol that ends no tag leaves the readers aligned. -/
theorem Aligned.step (part : tags.Partial side held)
    (also : tags.Partial (tags.other side) hidden) (aligned : Aligned held hidden)
    (unmatched : held ++ [symbol] ≠ tags.tag side)
    (likewise : hidden ++ [symbol] ≠ tags.tag (tags.other side)) :
    Aligned (tags.step side held symbol).1.2
      (tags.step (tags.other side) hidden symbol).1.2 := by
  have plain {place : Side} {front : List Symbol} (begun : tags.Partial place front)
      (nonempty : front ≠ []) (more : tags.Partial place (front ++ [symbol])) :
      symbol ≠ tags.first := by
    cases front with
    | nil => exact absurd rfl nonempty
    | cons head tail =>
      rintro rfl
      exact absurd (List.mem_append_right _ (List.mem_singleton_self _)) more.first_notMem_tail.2
  have kept := partial_step tags side held symbol
  have keeps := partial_step tags (tags.other side) hidden symbol
  obtain ⟨stays, here⟩ := step_held unmatched
  obtain ⟨remains, there⟩ := step_held likewise
  rw [stays] at kept
  rw [remains] at keeps
  rcases here with empty | ⟨opens, first⟩ | ⟨nonempty, grown⟩
  · exact Or.inl empty
  · rcases there with empty | ⟨-, second⟩ | ⟨filled, longer⟩
    · exact Or.inr (Or.inl empty)
    · exact Or.inr (Or.inr (first.trans second.symm))
    · rw [longer] at keeps
      exact absurd opens (plain also filled keeps)
  · rw [grown] at kept
    rcases there with empty | ⟨opens, -⟩ | ⟨filled, longer⟩
    · exact Or.inr (Or.inl empty)
    · exact absurd opens (plain part nonempty kept)
    · rcases aligned with empty | empty | same
      · exact absurd empty nonempty
      · exact absurd empty filled
      · refine Or.inr (Or.inr ?_)
        rw [grown, longer, same]

/-- The side a reader begins on gets at least as many last symbols as it does from a reader who
begins on the other. -/
theorem count_last_le (part : tags.Partial side held)
    (also : tags.Partial (tags.other side) hidden) (aligned : Aligned held hidden)
    (text : List Symbol) :
    ((tags.read (tags.other side) hidden text).2 side).count tags.last ≤
      ((tags.read side held text).2 side).count tags.last := by
  induction text generalizing held hidden with
  | nil => exact Nat.le_refl _
  | cons symbol rest ih =>
    have unseen (out : List Symbol) : only (tags.other side) out side = [] :=
      only_ne (tags.other_ne side).symm out
    simp only [read, List.count_append, unseen, List.count_nil, Nat.zero_add, only_self]
    by_cases whole : held ++ [symbol] = tags.tag side
    · obtain rfl := (tag_init_ne whole).1
      have passed := step_last (aligned.apart whole)
      have matched : tags.step side held tags.last = ((tags.other side, []), []) := if_pos whole
      rw [passed, matched]
      exact Nat.le_add_left _ _
    · by_cases likewise : hidden ++ [symbol] = tags.tag (tags.other side)
      · obtain rfl := (tag_init_ne likewise).1
        have passed := step_last whole
        have matched : tags.step (tags.other side) hidden tags.last =
            ((tags.other (tags.other side), []), []) := if_pos likewise
        rw [passed, matched, tags.other_other]
        exact Nat.le_add_left _ _
      · have stays := (step_held whole).1
        have remains := (step_held likewise).1
        have kept := partial_step tags side held symbol
        have keeps := partial_step tags (tags.other side) hidden symbol
        have after := aligned.step part also whole likewise
        rw [stays] at kept ⊢
        rw [remains] at keeps ⊢
        exact Nat.le_add_left_of_le (ih kept keeps after)

end Sides
end Delimiters
end Library
