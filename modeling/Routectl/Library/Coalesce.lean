import Mathlib.Data.List.Chain
import Mathlib.Data.List.TakeWhile

/-! Runs of items under one key: appending joins the last run where the key is the same, and
what comes out is the only list of runs that tells the same items with no two neighbours alike. -/
namespace Library
universe u v

structure KeyedRun (Key : Type u) (Item : Type v) where
  key : Key
  items : List Item

namespace KeyedRun
variable {Key : Type u} {Item : Type v}

/-- The items in order, each with the key it stands under. -/
def told (runs : List (KeyedRun Key Item)) : List (Key × Item) :=
  runs.flatMap fun run => run.items.map fun item => (run.key, item)

/-- Neighbours differ, and no run is empty. -/
structure Coalesced (runs : List (KeyedRun Key Item)) : Prop where
  alternating : runs.IsChain fun before after => before.key ≠ after.key
  inhabited : ∀ run ∈ runs, run.items ≠ []

variable {runs others : List (KeyedRun Key Item)} {run : KeyedRun Key Item}

@[simp] theorem told_nil : told ([] : List (KeyedRun Key Item)) = [] := rfl

@[simp] theorem told_cons (run : KeyedRun Key Item) (runs : List (KeyedRun Key Item)) :
    told (run :: runs) = run.items.map (fun item => (run.key, item)) ++ told runs := rfl

@[simp] theorem told_append (runs others : List (KeyedRun Key Item)) :
    told (runs ++ others) = told runs ++ told others := List.flatMap_append

theorem map_snd_told (runs : List (KeyedRun Key Item)) :
    (told runs).map Prod.snd = runs.flatMap items := by
  induction runs with
  | nil => rfl
  | cons run rest ih =>
    have here : (run.items.map fun item => (run.key, item)).map Prod.snd = run.items := by
      simp [Function.comp_def]
    rw [told_cons, List.map_append, here, ih, List.flatMap_cons]

theorem coalesced_nil : Coalesced ([] : List (KeyedRun Key Item)) :=
  ⟨List.isChain_nil, fun _ member => absurd member List.not_mem_nil⟩

theorem Coalesced.tail (coalesced : Coalesced (run :: runs)) : Coalesced runs :=
  ⟨coalesced.alternating.tail,
    fun other member => coalesced.inhabited other (List.mem_cons_of_mem _ member)⟩

/-- Behind a run the next item stands under another key. -/
theorem Coalesced.turns (coalesced : Coalesced (run :: runs)) :
    ∀ entry ∈ (told runs).head?, entry.1 ≠ run.key := by
  intro entry first
  cases runs with
  | nil => cases first
  | cons next rest =>
    have differs : run.key ≠ next.key := (List.isChain_cons_cons.mp coalesced.alternating).1
    have holds : next.items ≠ [] :=
      coalesced.inhabited next (List.mem_cons_of_mem _ List.mem_cons_self)
    obtain ⟨item, others, items⟩ := List.exists_cons_of_ne_nil holds
    rw [told_cons, items] at first
    obtain rfl : (next.key, item) = entry := by simpa using first
    exact Ne.symm differs

theorem told_filter (turns : List (KeyedRun Key Item)) :
    told (turns.filter fun run => !run.items.isEmpty) = told turns := by
  induction turns with
  | nil => rfl
  | cons run rest ih =>
    cases items : run.items with
    | nil => simp [items, ih]
    | cons item more => simp [items, ih]

/-- A run tells an item where the list does. -/
theorem exists_run {front rest : List (Key × Item)} {key : Key} {item : Item}
    (same : told runs = front ++ (key, item) :: rest) :
    ∃ before run after held others, runs = before ++ run :: after ∧ run.key = key ∧
      run.items = held ++ item :: others ∧
      rest = others.map (fun other => (key, other)) ++ told after := by
  induction runs generalizing front with
  | nil =>
    rw [told_nil] at same
    cases front <;> cases same
  | cons run later ih =>
    rw [told_cons] at same
    obtain ⟨held, here, back⟩ | ⟨behind, here, back⟩ := List.append_eq_append_iff.mp same
    · obtain ⟨before, found, after, early, others, parts, stands, items, tail⟩ := ih back
      exact ⟨run :: before, found, after, early, others, by rw [parts]; rfl, stands, items, tail⟩
    · cases behind with
      | nil =>
        rw [List.nil_append] at back
        obtain ⟨before, found, after, early, others, parts, stands, items, tail⟩ :=
          @ih [] back.symm
        exact ⟨run :: before, found, after, early, others, by rw [parts]; rfl, stands, items, tail⟩
      | cons entry behind =>
        rw [List.cons_append, List.cons.injEq] at back
        obtain ⟨rfl, rest_eq⟩ := back
        obtain ⟨held, carried, split, heldMap, carriedMap⟩ := List.map_eq_append_iff.mp here
        obtain ⟨first, others, rfl, firstMap, othersMap⟩ := List.map_eq_cons_iff.mp carriedMap
        obtain ⟨stands, rfl⟩ := Prod.mk.inj firstMap
        refine ⟨[], run, later, held, others, rfl, stands, split, ?_⟩
        rw [rest_eq, ← othersMap, stands]

section Unique
variable [DecidableEq Key]

theorem Coalesced.takeWhile (coalesced : Coalesced (run :: runs)) :
    (told (run :: runs)).takeWhile (fun entry => entry.1 = run.key) =
      run.items.map fun item => (run.key, item) := by
  rw [told_cons, List.takeWhile_append_of_pos (by simp)]
  have turns := coalesced.turns
  cases later : told runs with
  | nil => simp
  | cons entry rest =>
    have other : entry.1 ≠ run.key := turns entry (by rw [later]; rfl)
    simp [other]

theorem Coalesced.dropWhile (coalesced : Coalesced (run :: runs)) :
    (told (run :: runs)).dropWhile (fun entry => entry.1 = run.key) = told runs := by
  rw [told_cons, List.dropWhile_append_of_pos (by simp)]
  have turns := coalesced.turns
  cases later : told runs with
  | nil => rfl
  | cons entry rest =>
    have other : entry.1 ≠ run.key := turns entry (by rw [later]; rfl)
    simp [other]

/-- The items and their keys leave one way to put them into runs. -/
theorem Coalesced.unique (coalesced : Coalesced runs) (other : Coalesced others)
    (same : told runs = told others) : runs = others := by
  induction runs generalizing others with
  | nil =>
    cases others with
    | nil => rfl
    | cons run rest =>
      obtain ⟨item, more, items⟩ := List.exists_cons_of_ne_nil (other.inhabited run List.mem_cons_self)
      rw [told_nil, told_cons, items] at same
      cases same
  | cons run rest ih =>
    cases others with
    | nil =>
      obtain ⟨item, more, items⟩ :=
        List.exists_cons_of_ne_nil (coalesced.inhabited run List.mem_cons_self)
      rw [told_nil, told_cons, items] at same
      cases same
    | cons second others =>
      have key : run.key = second.key := by
        obtain ⟨item, more, items⟩ :=
          List.exists_cons_of_ne_nil (coalesced.inhabited run List.mem_cons_self)
        obtain ⟨held, later, carried⟩ :=
          List.exists_cons_of_ne_nil (other.inhabited second List.mem_cons_self)
        rw [told_cons, told_cons, items, carried] at same
        exact congrArg Prod.fst (List.cons.inj same).1
      have items : run.items = second.items := by
        have taken := coalesced.takeWhile
        rw [same, key, other.takeWhile] at taken
        have values := congrArg (List.map Prod.snd) taken
        simpa [Function.comp_def] using values.symm
      have tails : told rest = told others := by
        have dropped := coalesced.dropWhile
        rw [same, key, other.dropWhile] at dropped
        exact dropped.symm
      rw [ih coalesced.tail other.tail tails]
      obtain ⟨first, held⟩ := run
      obtain ⟨last, carried⟩ := second
      obtain rfl : first = last := key
      obtain rfl : held = carried := items
      rfl

/-- Two items with nothing between them but one change of key stand in neighbouring runs. -/
theorem Coalesced.neighbours {front between others back : List (Key × Item)} {first second : Key}
    {item answer : Item} (coalesced : Coalesced runs) (differs : first ≠ second)
    (alike : ∀ entry ∈ between, entry.1 = first) (turned : ∀ entry ∈ others, entry.1 = second)
    (same : told runs =
      front ++ (first, item) :: (between ++ (others ++ (second, answer) :: back))) :
    ∃ before left right after, runs = before ++ left :: right :: after ∧
      left.key = first ∧ right.key = second ∧ item ∈ left.items ∧ answer ∈ right.items := by
  obtain ⟨before, left, after, held, more, rfl, stands, items, rest⟩ := exists_run same
  have tail : Coalesced (left :: after) := by
    refine ⟨?_, fun run member => coalesced.inhabited run (List.mem_append_right _ member)⟩
    exact (List.isChain_append.mp coalesced.alternating).2.1
  have later : told after = others ++ (second, answer) :: back := by
    have dropped := congrArg (List.dropWhile fun entry => decide (entry.1 = first)) rest
    have behind : (told after).dropWhile (fun entry => decide (entry.1 = first)) = told after := by
      have turns := tail.turns
      cases next : told after with
      | nil => rfl
      | cons entry onward =>
        have other : entry.1 ≠ left.key := turns entry (by rw [next]; rfl)
        rw [stands] at other
        simp [other]
    have ours : (more.map (fun other => (first, other)) ++ told after).dropWhile
        (fun entry => decide (entry.1 = first)) = told after := by
      rw [List.dropWhile_append_of_pos (by simp), behind]
    rw [ours, List.dropWhile_append_of_pos (by simpa using alike)] at dropped
    rw [← dropped]
    have head : ∀ entry ∈ (others ++ (second, answer) :: back).head?, entry.1 ≠ first := by
      intro entry ahead
      cases others with
      | nil =>
        obtain rfl : (second, answer) = entry := by simpa using ahead
        exact Ne.symm differs
      | cons other others =>
        obtain rfl : other = entry := by simpa using ahead
        rw [turned other List.mem_cons_self]
        exact Ne.symm differs
    cases whole : others ++ (second, answer) :: back with
    | nil => rfl
    | cons entry onward =>
      have other : entry.1 ≠ first := head entry (by rw [whole]; rfl)
      simp [other]
  cases after with
  | nil =>
    rw [told_nil] at later
    cases others <;> cases later
  | cons right after =>
    have opens : right.key = second := by
      obtain ⟨opening, onward, holds⟩ := List.exists_cons_of_ne_nil
        (tail.inhabited right (List.mem_cons_of_mem _ List.mem_cons_self))
      rw [told_cons, holds] at later
      cases others with
      | nil => exact congrArg Prod.fst (List.cons.inj later).1
      | cons other others =>
        have keys := congrArg Prod.fst (List.cons.inj later).1
        exact keys.trans (turned other List.mem_cons_self)
    have taken := tail.tail.takeWhile
    rw [later, opens, List.takeWhile_append_of_pos (by simpa using turned)] at taken
    have among : (second, answer) ∈ right.items.map fun held => (second, held) := by
      rw [← taken]
      simp
    obtain ⟨carried, member, pair⟩ := List.mem_map.mp among
    obtain rfl : carried = answer := (Prod.mk.inj pair).2
    exact ⟨before, left, right, after, rfl, stands, opens, by rw [items]; simp, member⟩

/-- Joins the last run where the key is the same. -/
def push (runs : List (KeyedRun Key Item)) (run : KeyedRun Key Item) : List (KeyedRun Key Item) :=
  match runs.getLast? with
  | some last =>
    if last.key = run.key then runs.dropLast ++ [⟨last.key, last.items ++ run.items⟩]
    else runs ++ [run]
  | none => runs ++ [run]

@[simp] theorem told_push (runs : List (KeyedRun Key Item)) (run : KeyedRun Key Item) :
    told (push runs run) = told runs ++ run.items.map fun item => (run.key, item) := by
  unfold push
  cases ends : runs.getLast? with
  | none => simp
  | some last =>
    dsimp only
    have parts : runs = runs.dropLast ++ [last] := by
      have back := List.dropLast_append_getLast? last ends
      exact back.symm
    by_cases same : last.key = run.key
    · rw [if_pos same]
      conv_rhs => rw [parts]
      simp [same]
    · rw [if_neg same]
      simp

theorem Coalesced.push (coalesced : Coalesced runs) (inhabited : run.items ≠ []) :
    Coalesced (push runs run) := by
  unfold KeyedRun.push
  cases ends : runs.getLast? with
  | none =>
    obtain rfl := List.getLast?_eq_none_iff.mp ends
    exact ⟨List.isChain_singleton _, by simpa using inhabited⟩
  | some last =>
    have parts : runs.dropLast ++ [last] = runs := List.dropLast_append_getLast? last ends
    have chain := coalesced.alternating
    dsimp only
    by_cases same : last.key = run.key
    · rw [if_pos same]
      rw [← parts, List.isChain_append] at chain
      obtain ⟨front, -, joint⟩ := chain
      refine ⟨?_, ?_⟩
      · refine List.isChain_append.mpr ⟨front, List.isChain_singleton _, ?_⟩
        intro before ends' after first
        obtain rfl : (⟨last.key, last.items ++ run.items⟩ : KeyedRun Key Item) = after := by
          simpa using first
        exact joint before ends' last (by simp)
      · intro other member
        obtain early | late := List.mem_append.mp member
        · exact coalesced.inhabited other (runs.dropLast_subset early)
        · obtain rfl := List.mem_singleton.mp late
          simp [inhabited]
    · rw [if_neg same]
      refine ⟨?_, ?_⟩
      · refine List.isChain_append.mpr ⟨chain, List.isChain_singleton _, ?_⟩
        intro before ends' after first
        rw [ends] at ends'
        obtain rfl : last = before := by simpa using ends'
        obtain rfl : run = after := by simpa using first
        exact same
      · intro other member
        obtain early | late := List.mem_append.mp member
        · exact coalesced.inhabited other early
        · obtain rfl := List.mem_singleton.mp late
          exact inhabited

/-- Runs pushed one after another, the empty ones left out. -/
def coalesce (turns : List (KeyedRun Key Item)) : List (KeyedRun Key Item) :=
  (turns.filter fun run => !run.items.isEmpty).foldl push []

theorem foldl_push (runs turns : List (KeyedRun Key Item)) (coalesced : Coalesced runs)
    (inhabited : ∀ run ∈ turns, run.items ≠ []) :
    Coalesced (turns.foldl push runs) ∧ told (turns.foldl push runs) = told runs ++ told turns := by
  induction turns generalizing runs with
  | nil => exact ⟨coalesced, by simp⟩
  | cons run rest ih =>
    obtain ⟨kept, same⟩ := ih (push runs run) (coalesced.push (inhabited run List.mem_cons_self))
      fun other member => inhabited other (List.mem_cons_of_mem _ member)
    refine ⟨kept, ?_⟩
    rw [List.foldl_cons, same, told_push, told_cons, List.append_assoc]

theorem coalesce_coalesced (turns : List (KeyedRun Key Item)) : Coalesced (coalesce turns) :=
  (foldl_push [] _ coalesced_nil fun run member => by simpa using (List.mem_filter.mp member).2).1

@[simp] theorem told_coalesce (turns : List (KeyedRun Key Item)) :
    told (coalesce turns) = told turns := by
  have same := (foldl_push [] (turns.filter fun run => !run.items.isEmpty) coalesced_nil
    fun run member => by simpa using (List.mem_filter.mp member).2).2
  rw [told_nil, List.nil_append, told_filter] at same
  exact same

theorem coalesce_eq_iff {turns : List (KeyedRun Key Item)} :
    coalesce turns = runs ↔ Coalesced runs ∧ told runs = told turns := by
  constructor
  · intro same
    exact ⟨same ▸ coalesce_coalesced turns, same ▸ told_coalesce turns⟩
  · intro kept
    obtain ⟨coalesced, same⟩ := kept
    exact (coalesce_coalesced turns).unique coalesced ((told_coalesce turns).trans same.symm)

/-- What runs of one key keep when they join, every run keeps that comes out. -/
theorem forall_coalesce {Kept : Key → List Item → Prop} {turns : List (KeyedRun Key Item)}
    (joined : ∀ key first second, Kept key first → Kept key second → Kept key (first ++ second))
    (each : ∀ run ∈ turns, Kept run.key run.items) :
    ∀ run ∈ coalesce turns, Kept run.key run.items := by
  have walked : ∀ runs : List (KeyedRun Key Item), (∀ run ∈ runs, Kept run.key run.items) →
      ∀ others : List (KeyedRun Key Item), (∀ run ∈ others, Kept run.key run.items) →
      ∀ run ∈ others.foldl KeyedRun.push runs, Kept run.key run.items := by
    intro runs held others coming
    induction others generalizing runs with
    | nil => exact held
    | cons next others ih =>
      refine ih (KeyedRun.push runs next) ?_ fun run member =>
        coming run (List.mem_cons_of_mem _ member)
      have kept := coming next List.mem_cons_self
      intro run member
      unfold KeyedRun.push at member
      cases ends : runs.getLast? with
      | none =>
        rw [ends] at member
        obtain early | late := List.mem_append.mp member
        · exact held run early
        · exact List.mem_singleton.mp late ▸ kept
      | some last =>
        rw [ends] at member
        dsimp only at member
        by_cases same : last.key = next.key
        · rw [if_pos same] at member
          obtain early | late := List.mem_append.mp member
          · exact held run (runs.dropLast_subset early)
          · obtain rfl := List.mem_singleton.mp late
            exact joined last.key last.items next.items
              (held last (List.mem_of_getLast? ends)) (same ▸ kept)
        · rw [if_neg same] at member
          obtain early | late := List.mem_append.mp member
          · exact held run early
          · exact List.mem_singleton.mp late ▸ kept
  exact walked [] (fun run member => absurd member List.not_mem_nil) _
    fun run member => each run (List.mem_filter.mp member).1

end Unique
end KeyedRun
end Library
