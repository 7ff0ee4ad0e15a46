import Routectl.Library.Delimiters
import Routectl.Schema.Chunk

/-! Thinking tags taken out of streamed content. One accumulator splits every delta and holds
back the end of a delta where a tag may begin. -/
namespace Routectl.OpenaiCompat
open Library Schema

inductive ThinkState where
  | outside
  | inside
deriving Repr, DecidableEq

def ThinkState.other : ThinkState → ThinkState
  | .outside => .inside
  | .inside => .outside

/-- The tag that ends a state. -/
def ThinkState.tag : ThinkState → List Char
  | .outside => "<think>".toList
  | .inside => "</think>".toList

/-- The two texts a delta is split into. -/
structure Split where
  outside : List Char := []
  inside : List Char := []
deriving Repr, DecidableEq

def Split.push (split : Split) (state : ThinkState) (text : List Char) : Split :=
  match state with
  | .outside => { split with outside := split.outside ++ text }
  | .inside => { split with inside := split.inside ++ text }

def Split.at_ (split : Split) : ThinkState → List Char
  | .outside => split.outside
  | .inside => split.inside

/-- What stands before the first place of a tag, and what after it. -/
def findTag (tag : List Char) : List Char → Option (List Char × List Char)
  | [] => none
  | symbol :: rest =>
    if tag <+: symbol :: rest then some ([], (symbol :: rest).drop tag.length)
    else (findTag tag rest).map fun parts => (symbol :: parts.1, parts.2)

/-- The length of the longest end of a text that begins a tag without completing it. -/
def longestPartialTagSuffix (text tag : List Char) : Nat :=
  ((List.range (min tag.length text.length)).reverse.map (· + 1)).find? (fun count =>
    (text.drop (text.length - count)).length < tag.length &&
      (text.drop (text.length - count)).isPrefixOf tag) |>.getD 0

/-- One pass for each tag found. -/
def splitLoop : Nat → ThinkState → Split → List Char → ThinkState × Split
  | 0, state, split, remaining => (state, split.push state remaining)
  | passes + 1, state, split, remaining =>
    match findTag state.tag remaining with
    | some (before, after) => splitLoop passes state.other (split.push state before) after
    | none => (state, split.push state remaining)

structure ThinkTagAccumulator where
  state : ThinkState := .outside
  chunkIndex : Nat := 0
  pending : List Char := []
deriving Repr, DecidableEq

namespace ThinkTagAccumulator

def takePending (accumulator : ThinkTagAccumulator) : Option (List Char) × ThinkTagAccumulator :=
  if accumulator.pending = [] then (none, accumulator)
  else (some accumulator.pending, { accumulator with pending := [] })

def splitThinkTags (accumulator : ThinkTagAccumulator) (text : List Char) :
    Split × ThinkTagAccumulator :=
  let combined := accumulator.pending ++ text
  let (state, split) := splitLoop combined.length accumulator.state {} combined
  let written := split.at_ state
  let cut := longestPartialTagSuffix written state.tag
  let kept := written.take (written.length - cut)
  let pending := written.drop (written.length - cut)
  (match state with
    | .outside => { split with outside := kept }
    | .inside => { split with inside := kept },
    { accumulator with state, pending })

/-- One delta: its split, and the count of the deltas that had any reasoning. -/
def takeDelta (accumulator : ThinkTagAccumulator) (text : List Char) :
    Split × ThinkTagAccumulator :=
  let (split, next) := accumulator.splitThinkTags text
  (split,
    if split.inside = [] then next
    else { next with chunkIndex := min (next.chunkIndex + 1) (2 ^ 32 - 1) })

/-- The deltas of a stream in their order, each with its choice. -/
def splitDeltas (accumulator : ThinkTagAccumulator) :
    List (Nat × List Char) → List (Nat × Split) × ThinkTagAccumulator
  | [] => ([], accumulator)
  | (choice, text) :: rest =>
    let (split, next) := accumulator.takeDelta text
    let (splits, final) := splitDeltas next rest
    ((choice, split) :: splits, final)

end ThinkTagAccumulator

/-- The two tags as delimiters of the two states. -/
def thinkTags : Delimiters ThinkState Char where
  other := ThinkState.other
  other_ne := fun
    | .outside => by decide
    | .inside => by decide
  other_other := fun
    | .outside => rfl
    | .inside => rfl
  first := '<'
  last := '>'
  body := fun
    | .outside => "think".toList
    | .inside => "/think".toList
  first_ne_last := by decide
  first_notMem := fun
    | .outside => by decide
    | .inside => by decide
  last_notMem := fun
    | .outside => by decide
    | .inside => by decide
  body_ne := fun
    | .outside => by decide
    | .inside => by decide

section Splitting
variable {state : ThinkState} {text before after : List Char}

theorem thinkTags_tag (state : ThinkState) : thinkTags.tag state = state.tag := by
  cases state with
  | outside => decide
  | inside => decide

theorem thinkTags_init (state : ThinkState) :
    thinkTags.first :: thinkTags.body state ++ [thinkTags.last] = state.tag :=
  thinkTags_tag state

theorem findTag_none (missing : findTag state.tag text = none) :
    ¬ state.tag <:+: text := by
  induction text with
  | nil =>
    rw [List.infix_nil]
    cases state with
    | outside => decide
    | inside => decide
  | cons symbol rest ih =>
    rw [findTag] at missing
    split at missing
    · cases missing
    · rename_i elsewhere
      rw [List.infix_cons_iff, not_or]
      exact ⟨elsewhere, ih (Option.map_eq_none_iff.mp missing)⟩

theorem findTag_some (found : findTag state.tag text = some (before, after)) :
    text = before ++ state.tag ++ after ∧
      ¬ state.tag <:+: before ++ thinkTags.first :: thinkTags.body state := by
  induction text generalizing before with
  | nil => cases found
  | cons symbol rest ih =>
    rw [findTag] at found
    split at found
    · rename_i begins
      cases found
      refine ⟨(List.prefix_iff_eq_append.mp begins).symm, ?_⟩
      intro inside
      have short := inside.length_le
      cases state with
      | outside => exact absurd short (by decide)
      | inside => exact absurd short (by decide)
    · rename_i elsewhere
      obtain ⟨⟨front, back⟩, later, same⟩ := Option.map_eq_some_iff.mp found
      cases same
      obtain ⟨split, clear⟩ := ih later
      refine ⟨by rw [split]; rfl, ?_⟩
      rw [List.cons_append, List.infix_cons_iff, not_or]
      refine ⟨?_, clear⟩
      intro begins
      apply elsewhere
      refine begins.trans ⟨thinkTags.last :: back, ?_⟩
      rw [split, ← thinkTags_init state]
      simp only [List.cons_append, List.append_assoc, List.nil_append]

theorem Split.push_at (split : Split) (state place : ThinkState) (text : List Char) :
    (split.push state text).at_ place = split.at_ place ++ Delimiters.only state text place := by
  cases state <;> cases place <;> simp [push, at_, Delimiters.only]

/-- The loop writes what a reader lets go, and what the reader still holds. -/
theorem splitLoop_reads {passes : Nat} (split : Split) (enough : text.length ≤ passes) :
    (splitLoop passes state split text).1 = (thinkTags.read state [] text).1.1 ∧
      ∀ place, (splitLoop passes state split text).2.at_ place =
        split.at_ place ++ ((thinkTags.read state [] text).2 place ++
          Delimiters.only (thinkTags.read state [] text).1.1 (thinkTags.read state [] text).1.2
            place) := by
  induction passes generalizing state split text with
  | zero =>
    obtain rfl := List.length_eq_zero_iff.mp (Nat.le_zero.mp enough)
    refine ⟨rfl, ?_⟩
    intro place
    rw [splitLoop, Split.push_at]
    rfl
  | succ passes ih =>
    rw [splitLoop]
    split
    · rename_i before after found
      obtain ⟨rfl, clear⟩ := findTag_some found
      rw [← thinkTags_tag] at clear
      have shorter : after.length ≤ passes := by
        have positive : 0 < state.tag.length := by cases state <;> decide
        simp only [List.length_append] at enough
        omega
      obtain ⟨same, written⟩ := ih (split.push state before) shorter
      have reading : thinkTags.read state [] (before ++ state.tag ++ after) =
          ((thinkTags.read state.other [] after).1, fun place =>
            Delimiters.only state before place ++
              (thinkTags.read state.other [] after).2 place) := by
        rw [← thinkTags_tag]
        exact Delimiters.read_tagged clear
      rw [reading]
      refine ⟨same, ?_⟩
      intro place
      rw [written, Split.push_at]
      simp only [List.append_assoc]
    · rename_i missing
      have clear := findTag_none missing
      rw [← thinkTags_tag, ← List.nil_append text] at clear
      obtain ⟨front, final, cut, reading, -⟩ :=
        Delimiters.read_untagged Delimiters.partial_nil clear
      rw [List.nil_append] at cut
      rw [reading]
      refine ⟨rfl, ?_⟩
      intro place
      rw [Split.push_at, cut]
      by_cases same : place = state
      · simp only [same, Delimiters.only_self]
      · simp only [Delimiters.only_ne same, List.append_nil]

end Splitting

section Holding
variable {state : ThinkState} {text ending : List Char}

/-- The end that is cut off begins the tag, and no other end does. -/
theorem longestPartialTagSuffix_spec (state : ThinkState) (text : List Char) :
    thinkTags.Partial state
        (text.drop (text.length - longestPartialTagSuffix text state.tag)) ∧
      ∀ ending, ending ≠ [] → thinkTags.Partial state ending → ending <:+ text →
        ending = text.drop (text.length - longestPartialTagSuffix text state.tag) := by
  unfold longestPartialTagSuffix
  cases found : ((List.range (min state.tag.length text.length)).reverse.map (· + 1)).find?
      (fun count => (text.drop (text.length - count)).length < state.tag.length &&
        (text.drop (text.length - count)).isPrefixOf state.tag) with
  | some count =>
    have good := List.find?_some found
    obtain ⟨place, inside, rfl⟩ := List.mem_map.mp (List.mem_of_find?_eq_some found)
    rw [List.mem_reverse, List.mem_range] at inside
    rw [Bool.and_eq_true, decide_eq_true_eq, List.isPrefixOf_iff_prefix] at good
    rw [Option.getD_some]
    have part : thinkTags.Partial state (text.drop (text.length - (place + 1))) := by
      refine ⟨by rw [thinkTags_tag]; exact good.2, ?_⟩
      intro whole
      rw [whole, thinkTags_tag] at good
      exact absurd good.1 (Nat.lt_irrefl _)
    have nonempty : text.drop (text.length - (place + 1)) ≠ [] := by
      intro empty
      have short := List.drop_eq_nil_iff.mp empty
      omega
    refine ⟨part, ?_⟩
    intro ending filled begins ends
    exact begins.suffix_unique part filled nonempty ends (List.drop_suffix _ _)
  | none =>
    rw [Option.getD_none, Nat.sub_zero, List.drop_length]
    refine ⟨Delimiters.partial_nil, ?_⟩
    intro ending filled begins ends
    have within := ends.length_le
    have positive : 0 < ending.length := List.length_pos_of_ne_nil filled
    have whole : ending.length < state.tag.length := by
      have bound := begins.1.length_le
      rw [thinkTags_tag] at bound
      refine Nat.lt_of_le_of_ne bound fun same => begins.2 ?_
      exact begins.1.eq_of_length (by rw [thinkTags_tag, same])
    have cut : text.drop (text.length - ending.length) = ending :=
      (List.suffix_iff_eq_drop.mp ends).symm
    have member : ending.length ∈
        (List.range (min state.tag.length text.length)).reverse.map (· + 1) := by
      refine List.mem_map.mpr ⟨ending.length - 1, ?_, by omega⟩
      rw [List.mem_reverse, List.mem_range]
      omega
    have bad := List.find?_eq_none.mp found _ member
    rw [cut, Bool.and_eq_true, decide_eq_true_eq, List.isPrefixOf_iff_prefix] at bad
    exact absurd ⟨whole, thinkTags_tag state ▸ begins.1⟩ bad

end Holding

section Delta
variable {accumulator : ThinkTagAccumulator} {text : List Char}

/-- One delta against the reader that takes it symbol by symbol. -/
structure Splits (reading : (ThinkState × List Char) × (ThinkState → List Char))
    (split : Split) (next : ThinkTagAccumulator) : Prop where
  state : next.state = reading.1.1
  begins : thinkTags.Partial next.state next.pending
  here : split.at_ next.state ++ next.pending = reading.2 next.state ++ reading.1.2
  elsewhere : ∀ place, place ≠ next.state → split.at_ place = reading.2 place
  longest : ∀ ending, ending ≠ [] → thinkTags.Partial next.state ending →
    ending <:+ reading.2 next.state ++ reading.1.2 → ending = next.pending

theorem splitThinkTags_splits
    (begun : thinkTags.Partial accumulator.state accumulator.pending) (text : List Char) :
    Splits (thinkTags.read accumulator.state accumulator.pending text)
      (accumulator.splitThinkTags text).1 (accumulator.splitThinkTags text).2 := by
  unfold ThinkTagAccumulator.splitThinkTags
  have looped := @splitLoop_reads accumulator.state _ _ {}
    (Nat.le_refl (accumulator.pending ++ text).length)
  rw [Delimiters.read_held begun] at looped
  dsimp only
  generalize splitLoop (accumulator.pending ++ text).length accumulator.state {}
    (accumulator.pending ++ text) = outcome at looped ⊢
  generalize thinkTags.read accumulator.state accumulator.pending text = reading at looped ⊢
  obtain ⟨state, split⟩ := outcome
  obtain ⟨⟨place, held⟩, said⟩ := reading
  obtain ⟨same, written⟩ := looped
  dsimp only at same written ⊢
  subst same
  have here : split.at_ state = said state ++ held := by
    rw [written, Delimiters.only_self]
    cases state <;> rfl
  have elsewhere (place : ThinkState) (different : place ≠ state) :
      split.at_ place = said place := by
    rw [written, Delimiters.only_ne different, List.append_nil]
    cases place <;> rfl
  obtain ⟨begins, longest⟩ := longestPartialTagSuffix_spec state (split.at_ state)
  constructor
  · rfl
  · exact begins
  · rw [← here]
    cases state <;> exact List.take_append_drop _ _
  · intro place different
    refine Eq.trans ?_ (elsewhere place different)
    cases state <;> cases place <;> first | rfl | exact absurd rfl different
  · intro ending nonempty part ends
    rw [← here] at ends
    exact longest ending nonempty part ends

/-- What the reader holds is held back, or something already let go is. -/
theorem Splits.moved {reading : (ThinkState × List Char) × (ThinkState → List Char)}
    {split : Split} {next : ThinkTagAccumulator} (splits : Splits reading split next)
    (part : thinkTags.Partial reading.1.1 reading.1.2) :
    next.pending = reading.1.2 ∨ reading.1.2 = [] := by
  by_cases empty : reading.1.2 = []
  · exact Or.inr empty
  · rw [← splits.state] at part
    exact Or.inl (splits.longest _ empty part (List.suffix_append _ _)).symm

theorem takeDelta_splits
    (begun : thinkTags.Partial accumulator.state accumulator.pending) (text : List Char) :
    Splits (thinkTags.read accumulator.state accumulator.pending text)
      (accumulator.takeDelta text).1 (accumulator.takeDelta text).2 := by
  have splits := splitThinkTags_splits begun text
  unfold ThinkTagAccumulator.takeDelta
  dsimp only
  split
  · exact splits
  · exact ⟨splits.state, splits.begins, splits.here, splits.elsewhere, splits.longest⟩

end Delta

section Stream
variable {accumulator : ThinkTagAccumulator} {deltas : List (Nat × List Char)}
variable {state : ThinkState} {held text : List Char} {written said : ThinkState → List Char}

def textOf (deltas : List (Nat × List Char)) : List Char := deltas.flatMap Prod.snd

def total (splits : List (Nat × Split)) (place : ThinkState) : List Char :=
  splits.flatMap fun split => split.2.at_ place

/-- What a stream shows and what it keeps as reasoning, the flush at its end included. -/
def wholeSplit (deltas : List (Nat × List Char)) : Split :=
  let (splits, final) := ThinkTagAccumulator.splitDeltas {} deltas
  { outside := total splits .outside ++ final.pending
    inside := total splits .inside }

/-- The split of a text taken symbol by symbol. -/
def readSplit (text : List Char) : Split :=
  let reading := thinkTags.read .outside [] text
  { outside := reading.2 .outside ++ reading.1.2
    inside := reading.2 .inside }

/-- A tag comes together from both sides of a tag between, or the text ends in reasoning and
an end of it that begins the closing tag stands on both sides of a tag. -/
def Rejoins (text : List Char) : Prop :=
  (∃ place, place.tag <:+: (thinkTags.read .outside [] text).2 place) ∨
    (thinkTags.read .outside [] text).1 = (.inside, []) ∧
      ∃ ending, ending ≠ [] ∧ thinkTags.Partial .inside ending ∧
        ending <:+ (thinkTags.read .outside [] text).2 .inside

theorem takeDelta_shadow
    (shadow : thinkTags.Shadow accumulator.state held accumulator.pending written said)
    (clear : ∀ place, ¬ thinkTags.tag place <:+:
      written place ++ (thinkTags.read accumulator.state held text).2 place) :
    (accumulator.takeDelta text).2.state = (thinkTags.read accumulator.state held text).1.1 ∧
      thinkTags.Shadow (accumulator.takeDelta text).2.state
        (thinkTags.read accumulator.state held text).1.2 (accumulator.takeDelta text).2.pending
        (fun place => written place ++ (thinkTags.read accumulator.state held text).2 place)
        (fun place => said place ++ (accumulator.takeDelta text).1.at_ place) := by
  obtain ⟨same, after⟩ := shadow.read text clear
  have splits := takeDelta_splits shadow.begins text
  have moved := splits.moved (Delimiters.partial_read shadow.begins text)
  have here := splits.here
  have state := splits.state.trans same
  rw [← state] at after
  refine ⟨state, after.catch_ splits.begins moved ?_ ?_⟩
  · rw [List.append_assoc, here, List.append_assoc]
  · intro place different
    rw [splits.elsewhere place different]

theorem splitDeltas_shadow
    (shadow : thinkTags.Shadow accumulator.state held accumulator.pending written said)
    (clear : ∀ place, ¬ thinkTags.tag place <:+:
      written place ++ (thinkTags.read accumulator.state held (textOf deltas)).2 place) :
    (accumulator.splitDeltas deltas).2.state =
        (thinkTags.read accumulator.state held (textOf deltas)).1.1 ∧
      thinkTags.Shadow (accumulator.splitDeltas deltas).2.state
        (thinkTags.read accumulator.state held (textOf deltas)).1.2
        (accumulator.splitDeltas deltas).2.pending
        (fun place => written place ++
          (thinkTags.read accumulator.state held (textOf deltas)).2 place)
        (fun place => said place ++ total (accumulator.splitDeltas deltas).1 place) := by
  induction deltas generalizing accumulator held written said with
  | nil =>
    refine ⟨rfl, ?_⟩
    simpa [ThinkTagAccumulator.splitDeltas, textOf, total, Delimiters.read] using shadow
  | cons delta rest ih =>
    obtain ⟨choice, text⟩ := delta
    have joined : textOf ((choice, text) :: rest) = text ++ textOf rest := rfl
    rw [joined, Delimiters.read_append] at clear ⊢
    dsimp only at clear ⊢
    obtain ⟨same, after⟩ := @takeDelta_shadow _ _ text _ _ shadow fun place inside =>
      clear place (inside.trans (by
        rw [← List.append_assoc]
        exact (List.prefix_append _ _).isInfix))
    rw [← same] at clear ⊢
    obtain ⟨state, shadowed⟩ := ih after fun place => by
      rw [List.append_assoc]
      exact clear place
    refine ⟨state, ?_⟩
    simp only [List.append_assoc] at shadowed
    exact shadowed

/-- Where nothing rejoins, every cut of a text splits it as the reader does. -/
theorem wholeSplit_eq_readSplit (whole : ¬ Rejoins (textOf deltas)) :
    wholeSplit deltas = readSplit (textOf deltas) := by
  obtain ⟨apart, closed⟩ := not_or.mp whole
  have start : thinkTags.Shadow .outside [] [] (fun _ => []) (fun _ => []) :=
    ⟨Delimiters.partial_nil, Delimiters.partial_nil, Or.inl rfl, rfl, fun _ _ => rfl⟩
  have outcome := @splitDeltas_shadow {} deltas [] _ _ start fun place inside =>
    apart ⟨place, by rwa [← thinkTags_tag]⟩
  unfold wholeSplit readSplit
  generalize ThinkTagAccumulator.splitDeltas {} deltas = run at outcome ⊢
  change run.2.state = (thinkTags.read .outside [] (textOf deltas)).1.1 ∧
    thinkTags.Shadow run.2.state (thinkTags.read .outside [] (textOf deltas)).1.2 run.2.pending
      (fun place => (thinkTags.read .outside [] (textOf deltas)).2 place)
      (fun place => total run.1 place) at outcome
  generalize thinkTags.read .outside [] (textOf deltas) = reading at outcome closed ⊢
  obtain ⟨splits, final⟩ := run
  obtain ⟨⟨state, held⟩, written⟩ := reading
  obtain ⟨same, -, begins, behind, here, elsewhere⟩ := outcome
  dsimp only at same begins behind here elsewhere closed ⊢
  rw [same] at begins here elsewhere
  cases state with
  | outside => rw [here, elsewhere .inside nofun]
  | inside =>
    have caught : final.pending = held := by
      rcases behind with same | rfl
      · exact same
      · by_contra nonempty
        rw [List.append_nil] at here
        exact closed ⟨rfl, final.pending, nonempty, begins, ⟨_, here⟩⟩
    rw [caught] at here ⊢
    rw [elsewhere .outside nofun, List.append_cancel_right here]

theorem takeDelta_symbol (symbol : Char)
    (begun : thinkTags.Partial accumulator.state accumulator.pending) :
    (accumulator.takeDelta [symbol]).2.state =
        (thinkTags.step accumulator.state accumulator.pending symbol).1.1 ∧
      (accumulator.takeDelta [symbol]).2.pending =
        (thinkTags.step accumulator.state accumulator.pending symbol).1.2 ∧
      ∀ place, (accumulator.takeDelta [symbol]).1.at_ place =
        Delimiters.only accumulator.state
          (thinkTags.step accumulator.state accumulator.pending symbol).2 place := by
  obtain ⟨state, begins, here, elsewhere, longest⟩ := takeDelta_splits begun [symbol]
  have moved := (takeDelta_splits begun [symbol]).moved (Delimiters.partial_read begun [symbol])
  have taken := Delimiters.stepped thinkTags accumulator.state accumulator.pending symbol
  simp only [Delimiters.read, List.append_nil] at state here elsewhere moved
  generalize thinkTags.step accumulator.state accumulator.pending symbol = step at *
  generalize accumulator.takeDelta [symbol] = outcome at *
  have pending : outcome.2.pending = step.1.2 := by
    rcases moved with same | empty
    · exact same
    · cases taken with
      | matched whole =>
        rw [state, Delimiters.only_ne (thinkTags.other_ne _)] at here
        exact (List.append_eq_nil_iff.mp here).2
      | grown => exact absurd empty (List.append_ne_nil_of_right_ne_nil _ (List.cons_ne_nil _ _))
      | restarted => exact absurd empty (List.cons_ne_nil _ _)
      | passed plain broken =>
        rw [state] at here begins
        rw [Delimiters.only_self, List.append_nil] at here
        exact List.suffix_nil.mp (begins.suffix_of_plain begun plain broken ⟨_, here⟩)
  refine ⟨state, pending, ?_⟩
  intro place
  by_cases same : place = outcome.2.state
  · rw [pending] at here
    rw [same]
    exact List.append_cancel_right here
  · exact elsewhere place same

/-- A text cut at every symbol is split as the reader does, whatever it is. -/
theorem splitDeltas_symbols (choice : Nat) (text : List Char)
    (begun : thinkTags.Partial accumulator.state accumulator.pending) :
    let run := accumulator.splitDeltas (text.map fun symbol => (choice, [symbol]))
    let reading := thinkTags.read accumulator.state accumulator.pending text
    (run.2.state, run.2.pending) = reading.1 ∧ ∀ place, total run.1 place = reading.2 place := by
  induction text generalizing accumulator with
  | nil => exact ⟨rfl, fun _ => rfl⟩
  | cons symbol rest ih =>
    obtain ⟨state, pending, written⟩ := takeDelta_symbol symbol begun
    have part := Delimiters.partial_step thinkTags accumulator.state accumulator.pending symbol
    rw [← state, ← pending] at part
    obtain ⟨ends, later⟩ := ih part
    rw [state, pending] at ends later
    refine ⟨ends, ?_⟩
    intro place
    have joined : total (accumulator.splitDeltas
        ((symbol :: rest).map fun symbol => (choice, [symbol]))).1 place =
          (accumulator.takeDelta [symbol]).1.at_ place ++
            total ((accumulator.takeDelta [symbol]).2.splitDeltas
              (rest.map fun symbol => (choice, [symbol]))).1 place := rfl
    rw [joined, written, later]
    rfl

theorem wholeSplit_symbols (choice : Nat) (text : List Char) :
    wholeSplit (text.map fun symbol => (choice, [symbol])) = readSplit text := by
  have outcome := @splitDeltas_symbols {} choice text Delimiters.partial_nil
  unfold wholeSplit readSplit
  generalize ThinkTagAccumulator.splitDeltas {} _ = run at outcome ⊢
  obtain ⟨ends, written⟩ := outcome
  change _ = (thinkTags.read .outside [] text).1 at ends
  change ∀ place, _ = (thinkTags.read .outside [] text).2 place at written
  dsimp only
  rw [← ends, written, written]

end Stream

section Rejoining
variable {text before after : List Char} {place : ThinkState}

/-- A text that ends in reasoning with a beginning of the closing tag from before its last
tag: in one delta, that beginning is shown. -/
theorem wholeSplit_closing {ending : List Char} (choice : Nat) (nonempty : ending ≠ [])
    (inside : (thinkTags.read .outside [] text).1 = (.inside, []))
    (begins : thinkTags.Partial .inside ending)
    (ends : ending <:+ (thinkTags.read .outside [] text).2 .inside) :
    wholeSplit [(choice, text)] ≠ readSplit text := by
  have splits := @takeDelta_splits {} Delimiters.partial_nil text
  change Splits (thinkTags.read .outside [] text) _ _ at splits
  have run : wholeSplit [(choice, text)] =
      { outside := (ThinkTagAccumulator.takeDelta {} text).1.outside ++ [] ++
          (ThinkTagAccumulator.takeDelta {} text).2.pending
        inside := (ThinkTagAccumulator.takeDelta {} text).1.inside ++ [] } := rfl
  rw [run]
  unfold readSplit
  generalize thinkTags.read .outside [] text = reading at inside ends splits ⊢
  generalize ThinkTagAccumulator.takeDelta {} text = outcome at splits ⊢
  obtain ⟨⟨state, held⟩, written⟩ := reading
  obtain ⟨rfl, rfl⟩ := Prod.mk.inj inside
  obtain ⟨state, -, -, elsewhere, longest⟩ := splits
  dsimp only at state elsewhere longest ends ⊢
  rw [state] at elsewhere longest
  have caught := longest ending nonempty begins (by rwa [List.append_nil])
  have shown : outcome.1.outside = written .outside := elsewhere .outside nofun
  intro same
  have outsides := congrArg Split.outside same
  dsimp only at outsides
  rw [← caught, shown, List.append_nil] at outsides
  exact nonempty (List.self_eq_append_right.mp outsides.symm)

/-- No closing symbol is held back. -/
theorem Splits.count {reading : (ThinkState × List Char) × (ThinkState → List Char)}
    {split : Split} {next : ThinkTagAccumulator} (splits : Splits reading split next)
    (part : thinkTags.Partial reading.1.1 reading.1.2) (place : ThinkState) :
    (split.at_ place).count thinkTags.last = (reading.2 place).count thinkTags.last := by
  by_cases same : place = next.state
  · have lengths := congrArg (List.count thinkTags.last) splits.here
    rw [List.count_append, List.count_append, splits.begins.count_last, part.count_last] at lengths
    rw [same]
    exact lengths
  · rw [splits.elsewhere place same]

theorem readSplit_count (text : List Char) (place : ThinkState) :
    ((readSplit text).at_ place).count thinkTags.last =
      ((thinkTags.read .outside [] text).2 place).count thinkTags.last := by
  have part : thinkTags.Partial _ (thinkTags.read .outside [] text).1.2 :=
    Delimiters.partial_read Delimiters.partial_nil text
  cases place with
  | outside =>
    show ((thinkTags.read .outside [] text).2 .outside ++
      (thinkTags.read .outside [] text).1.2).count thinkTags.last = _
    rw [List.count_append, part.count_last, Nat.add_zero]
  | inside => rfl

/-- A text cut right before the symbol that brings a tag together: the tag is taken for one. -/
theorem wholeSplit_joined {front : List Char} {symbol : Char} (choice : Nat)
    (there : (thinkTags.read .outside [] before).1 = (place, []))
    (whole : front ++ [symbol] = thinkTags.tag place)
    (ends : front <:+ (thinkTags.read .outside [] before).2 place) :
    wholeSplit [(choice, before), (choice, symbol :: after)] ≠
      readSplit (before ++ symbol :: after) := by
  obtain ⟨rfl, rfl⟩ := Delimiters.tag_init_ne whole
  have first := @takeDelta_splits {} Delimiters.partial_nil before
  change Splits (thinkTags.read .outside [] before) _ _ at first
  have parted : thinkTags.Partial _ (thinkTags.read .outside [] before).1.2 :=
    Delimiters.partial_read Delimiters.partial_nil before
  have counted := first.count parted place
  generalize ran : ThinkTagAccumulator.takeDelta {} before = one at first counted
  have state : one.2.state = place := first.state.trans (congrArg Prod.fst there)
  have empty : (thinkTags.read .outside [] before).1.2 = [] := congrArg Prod.snd there
  have caught : one.2.pending = thinkTags.first :: thinkTags.body place := by
    refine (first.longest _ (List.cons_ne_nil _ _) ?_ ?_).symm
    · rw [state]
      exact Delimiters.partial_init
    · rw [state, empty, List.append_nil]
      exact ends
  have matched : thinkTags.step place (thinkTags.first :: thinkTags.body place) thinkTags.last =
      ((thinkTags.other place, []), []) := if_pos whole
  have plain : thinkTags.step place [] thinkTags.last = ((place, []), [thinkTags.last]) :=
    Delimiters.step_nil_plain thinkTags.first_ne_last.symm
  have second := takeDelta_splits first.begins (thinkTags.last :: after)
  have recounted := second.count (Delimiters.partial_read first.begins _) place
  have flushed := second.begins.count_last
  rw [state, caught, Delimiters.read, matched] at recounted
  generalize took : one.2.takeDelta (thinkTags.last :: after) = two at recounted flushed
  have outcome : wholeSplit [(choice, before), (choice, thinkTags.last :: after)] =
      { outside := one.1.outside ++ (two.1.outside ++ []) ++ two.2.pending
        inside := one.1.inside ++ (two.1.inside ++ []) } := by
    rw [← took, ← ran]
    rfl
  have cut : ((wholeSplit [(choice, before), (choice, thinkTags.last :: after)]).at_
      place).count thinkTags.last =
        (one.1.at_ place).count thinkTags.last + (two.1.at_ place).count thinkTags.last := by
    rw [outcome]
    cases place <;> simp [Split.at_, List.count_append, flushed]
  have fewer := @Delimiters.count_last_le _ _ thinkTags _ _ place [] []
    Delimiters.partial_nil Delimiters.partial_nil (Or.inl rfl) after
  intro same
  have counts := congrArg (fun split => (split.at_ place).count thinkTags.last) same
  rw [cut, counted, recounted, readSplit_count, Delimiters.read_append, there] at counts
  simp only [Delimiters.read, plain, List.count_append, Delimiters.only_self,
    List.count_nil, List.count_singleton_self] at counts
  omega

/-- Where something rejoins, some cut of the text is split otherwise than the reader does. -/
theorem exists_cut_of_rejoins (choice : Nat) (rejoins : Rejoins text) :
    ∃ deltas, (∀ delta ∈ deltas, delta.1 = choice) ∧ textOf deltas = text ∧
      wholeSplit deltas ≠ readSplit text := by
  rcases rejoins with ⟨place, joined⟩ | ⟨inside, ending, nonempty, begins, ends⟩
  · rw [← thinkTags_tag] at joined
    obtain ⟨before, symbol, after, front, rfl, there, whole, ends⟩ :=
      Delimiters.read_joins Delimiters.partial_nil joined
    refine ⟨[(choice, before), (choice, symbol :: after)], ?_, ?_, ?_⟩
    · intro delta member
      rcases List.mem_pair.mp member with rfl | rfl <;> rfl
    · rw [textOf, List.flatMap_cons, List.flatMap_singleton]
    · exact wholeSplit_joined choice there whole ends
  · refine ⟨[(choice, text)], ?_, ?_, ?_⟩
    · intro delta member
      rw [List.mem_singleton.mp member]
    · rw [textOf, List.flatMap_singleton]
    · exact wholeSplit_closing choice nonempty inside begins ends

/-- A text is split alike however it is cut exactly where nothing in it rejoins. -/
theorem cuts_agree_iff (choice : Nat) (text : List Char) :
    (∀ deltas, (∀ delta ∈ deltas, delta.1 = choice) → textOf deltas = text →
      wholeSplit deltas = wholeSplit [(choice, text)]) ↔ ¬ Rejoins text := by
  have whole : textOf [(choice, text)] = text := by
    rw [textOf, List.flatMap_singleton]
  constructor
  · intro agree rejoins
    obtain ⟨deltas, one, cut, differs⟩ := exists_cut_of_rejoins choice rejoins
    apply differs
    have symbols : textOf (text.map fun symbol => (choice, [symbol])) = text := by
      rw [textOf, List.flatMap_map]
      exact List.flatMap_singleton' text
    have finest := agree _ (fun delta member => by
      obtain ⟨symbol, -, rfl⟩ := List.mem_map.mp member
      rfl) symbols
    rw [agree deltas one cut, ← finest, wholeSplit_symbols]
  · intro apart deltas _ cut
    rw [wholeSplit_eq_readSplit (cut ▸ apart), cut,
      wholeSplit_eq_readSplit (whole.symm ▸ apart), whole]

end Rejoining
end Routectl.OpenaiCompat
