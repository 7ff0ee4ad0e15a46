import Mathlib.Data.List.Forall2

/-! A walk over a list that carries a state along, rewrites the items and may fail. -/
namespace Library
variable {Item State Failure Seen : Type*}

/-- Visit the items in order; the first failure is the walk's. -/
def threadAll (visit : Item → State → Except Failure (Item × State)) :
    List Item → State → Except Failure (List Item × State)
  | [], state => .ok ([], state)
  | item :: rest, state =>
    match visit item state with
    | .error failure => .error failure
    | .ok (visited, next) =>
      match threadAll visit rest next with
      | .error failure => .error failure
      | .ok (others, final) => .ok (visited :: others, final)

variable {visit : Item → State → Except Failure (Item × State)} {item visited : Item}
variable {items others : List Item} {state final : State}

theorem threadAll_cons_ok {result : List Item}
    (walked : threadAll visit (item :: items) state = .ok (result, final)) :
    ∃ visited next others, visit item state = .ok (visited, next) ∧
      threadAll visit items next = .ok (others, final) ∧ result = visited :: others := by
  rw [threadAll] at walked
  cases step : visit item state with
  | error failure =>
    rw [step] at walked
    cases walked
  | ok outcome =>
    obtain ⟨visited, next⟩ := outcome
    rw [step] at walked
    dsimp only at walked
    cases later : threadAll visit items next with
    | error failure =>
      rw [later] at walked
      cases walked
    | ok outcome =>
      rw [later] at walked
      cases walked
      exact ⟨visited, next, _, rfl, later, rfl⟩

/-- What every visit keeps of the state and of all that was seen before, the walk keeps. -/
theorem threadAll_keeps {Kept : State → List Seen → Prop} {observe : Item → List Seen}
    (step : ∀ {item state visited next history}, visit item state = .ok (visited, next) →
      Kept state history → Kept next (history ++ observe visited))
    {history : List Seen} (walked : threadAll visit items state = .ok (others, final))
    (kept : Kept state history) : Kept final (history ++ others.flatMap observe) := by
  induction items generalizing state others history with
  | nil =>
    cases walked
    rwa [List.flatMap_nil, List.append_nil]
  | cons item rest ih =>
    obtain ⟨visited, next, tail, first, later, rfl⟩ := threadAll_cons_ok walked
    rw [List.flatMap_cons, ← List.append_assoc]
    exact ih later (step first kept)

/-- What every visit makes of its item, the walk makes of each. -/
theorem threadAll_forall₂ {Made : Item → Item → Prop}
    (step : ∀ {item state visited next}, visit item state = .ok (visited, next) →
      Made item visited)
    (walked : threadAll visit items state = .ok (others, final)) :
    List.Forall₂ Made items others := by
  induction items generalizing state others with
  | nil =>
    cases walked
    exact .nil
  | cons item rest ih =>
    obtain ⟨visited, next, tail, first, later, rfl⟩ := threadAll_cons_ok walked
    exact .cons (step first) (ih later)

section Outcomes
variable {Made Used : Type} {outcome : Except Failure Made} {use : Made → Used} {used : Used}

theorem map_ok (done : outcome.map use = .ok used) : ∃ made, outcome = .ok made ∧ use made = used := by
  cases outcome with
  | error failure => cases done
  | ok made => exact ⟨made, rfl, Except.ok.inj done⟩

theorem bind_ok {next : Made → Except Failure Used} (done : (outcome >>= next) = .ok used) :
    ∃ made, outcome = .ok made ∧ next made = .ok used := by
  cases outcome with
  | error failure => cases done
  | ok made => exact ⟨made, rfl, done⟩

theorem bind_pure_ok (done : (outcome >>= fun made => pure (use made)) = .ok used) :
    ∃ made, outcome = .ok made ∧ use made = used := by
  cases outcome with
  | error failure => cases done
  | ok made => exact ⟨made, rfl, Except.ok.inj done⟩

end Outcomes

section Visiting
variable {Source Target : Type*} {visit : Source → Except Failure Target}

theorem mapM_cons_eq (item : Source) (items : List Source) :
    (item :: items).mapM visit =
      (visit item).bind fun made => (items.mapM visit).map fun others => made :: others := by
  rw [List.mapM_cons]
  cases first : visit item with
  | error failure => rfl
  | ok made => cases items.mapM visit <;> rfl

/-- The walk succeeds where every visit does, each with its own result. -/
theorem mapM_ok_iff {items : List Source} {results : List Target} :
    items.mapM visit = .ok results ↔
      List.Forall₂ (fun item made => visit item = .ok made) items results := by
  induction items generalizing results with
  | nil =>
    rw [List.mapM_nil, List.forall₂_nil_left_iff]
    exact ⟨fun same => (Except.ok.inj same).symm, fun same => same ▸ rfl⟩
  | cons item items ih =>
    rw [mapM_cons_eq, List.forall₂_cons_left_iff]
    constructor
    · intro walked
      cases first : visit item with
      | error failure =>
        rw [first] at walked
        cases walked
      | ok made =>
        rw [first] at walked
        cases later : items.mapM visit with
        | error failure =>
          rw [later] at walked
          cases walked
        | ok others =>
          rw [later] at walked
          exact ⟨made, others, rfl, ih.mp later, (Except.ok.inj walked).symm⟩
    · intro visited
      obtain ⟨made, others, first, later, rfl⟩ := visited
      rw [first, ih.mpr later]
      rfl

/-- A walk over two lists is a walk over each. -/
theorem forall₂_append_left {Visited : Source → Target → Prop} {first second : List Source}
    {results : List Target} (visited : List.Forall₂ Visited (first ++ second) results) :
    ∃ made others, results = made ++ others ∧ List.Forall₂ Visited first made ∧
      List.Forall₂ Visited second others := by
  induction first generalizing results with
  | nil => exact ⟨[], results, rfl, .nil, visited⟩
  | cons item first ih =>
    obtain ⟨target, later, here, onward, rfl⟩ := List.forall₂_cons_left_iff.mp visited
    obtain ⟨made, others, rfl, front, back⟩ := ih onward
    exact ⟨target :: made, others, rfl, .cons here front, back⟩

/-- The visit that a result of the walk came from. -/
theorem mapM_made {items : List Source} {results : List Target} {made : Target}
    (walked : items.mapM visit = .ok results) (member : made ∈ results) :
    ∃ item ∈ items, visit item = .ok made := by
  have visited := mapM_ok_iff.mp walked
  induction visited with
  | nil => cases member
  | cons first later ih =>
    obtain rfl | inside := List.mem_cons.mp member
    · exact ⟨_, List.mem_cons_self, first⟩
    · obtain ⟨item, there, done⟩ := ih (mapM_ok_iff.mpr later) inside
      exact ⟨item, List.mem_cons_of_mem _ there, done⟩

/-- A walk whose state no visit reads visits first and folds the results after. -/
theorem foldlM_visit_eq (step : State → Target → State) (items : List Source) (state : State) :
    items.foldlM (fun state item => (visit item).map (step state)) state =
      (items.mapM visit).map fun results => results.foldl step state := by
  induction items generalizing state with
  | nil => rfl
  | cons item items ih =>
    rw [List.foldlM_cons, mapM_cons_eq]
    cases first : visit item with
    | error failure => rfl
    | ok made =>
      have onward : (Except.map (step state) (Except.ok made : Except Failure Target) >>=
          fun state => items.foldlM (fun state item => (visit item).map (step state)) state) =
          items.foldlM (fun state item => (visit item).map (step state)) (step state made) := rfl
      rw [onward, ih]
      cases items.mapM visit <;> rfl

end Visiting

section Mapping
variable {Source Target Told Failure : Type} {visit : Source → Except Failure (List Target)}
variable {items : List Source} {results : List (List Target)}

theorem mapM_cons_ok {item : Source}
    (walked : (item :: items).mapM visit = .ok results) :
    ∃ made others, visit item = .ok made ∧ items.mapM visit = .ok others ∧
      results = made :: others := by
  rw [List.mapM_cons] at walked
  cases first : visit item with
  | error failure =>
    rw [first] at walked
    cases walked
  | ok made =>
    rw [first] at walked
    cases rest : items.mapM visit with
    | error failure =>
      rw [rest] at walked
      cases walked
    | ok others =>
      rw [rest] at walked
      cases walked
      exact ⟨made, others, rfl, rfl, rfl⟩

/-- What each visit tells, the whole walk tells in order. -/
theorem mapM_filterMap {pick : Target → Option Told} {told : Source → List Told}
    (each : ∀ item ∈ items, ∀ made, visit item = .ok made → made.filterMap pick = told item)
    (walked : items.mapM visit = .ok results) :
    results.flatten.filterMap pick = items.flatMap told := by
  induction items generalizing results with
  | nil =>
    cases walked
    rfl
  | cons item rest ih =>
    obtain ⟨made, others, first, later, rfl⟩ := mapM_cons_ok walked
    rw [List.flatten_cons, List.filterMap_append, List.flatMap_cons,
      each item (List.mem_cons_self ..) made first,
      ih (fun item member => each item (List.mem_cons_of_mem _ member)) later]

/-- Where the walk succeeds, so does each visit. -/
theorem mapM_visited {item : Source} (walked : items.mapM visit = .ok results)
    (member : item ∈ items) : ∃ made, visit item = .ok made := by
  induction items generalizing results with
  | nil => cases member
  | cons head rest ih =>
    obtain ⟨made, others, first, later, rfl⟩ := mapM_cons_ok walked
    rcases List.mem_cons.mp member with rfl | inside
    · exact ⟨made, first⟩
    · exact ih later inside

end Mapping
end Library
