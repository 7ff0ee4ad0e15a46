import Mathlib.Logic.Relation
import Mathlib.Data.List.Chain
import Mathlib.Data.List.Nodup
import Mathlib.Data.List.Perm.Subperm

/-! A depth-first walk over a finite graph that reports every step back onto its own
path. It reports nothing exactly when the graph has no cycle. -/
namespace Library.DepthFirst
variable {Node Report : Type}
variable (next : Node → Option (List Node)) (report : List Node → Node → Report)

structure Search (Node Report : Type) where
  visited : List Node := []
  reports : List Report := []

/-- The walk from a node, the path it was reached by behind it. -/
def walk [DecidableEq Node] : Nat → List Node → Search Node Report → Node → Search Node Report
  | 0, _, search, _ => search
  | fuel + 1, path, search, node =>
    if node ∈ path then { search with reports := search.reports ++ [report path node] }
    else if node ∈ search.visited then search
    else
      match next node with
      | none => search
      | some successors =>
        let explored := successors.foldl (walk fuel (path ++ [node])) search
        { explored with visited := explored.visited ++ [node] }

def Step (node successor : Node) : Prop :=
  ∃ successors, next node = some successors ∧ successor ∈ successors

/-- Every way on from the node comes to an end. -/
def Grounded (node : Node) : Prop := Acc (fun successor node => Step next node successor) node

def Cyclic (node : Node) : Prop := Relation.TransGen (Step next) node node

/-- The nodes of a path, each a step from the one before. -/
def Leads (path : List Node) (node : Node) : Prop := (path ++ [node]).IsChain (Step next)

variable {next report}

theorem Grounded.acyclic {node : Node} (grounded : Grounded next node) : ¬ Cyclic next node := by
  induction grounded with
  | intro node _ ih =>
    intro cycle
    obtain ⟨successor, step, back⟩ := Relation.TransGen.head'_iff.mp cycle
    exact ih successor step (Relation.TransGen.tail' back step)

theorem grounded_of_leaf {node : Node} (leaf : next node = none) : Grounded next node := by
  constructor
  rintro successor ⟨successors, held, _⟩
  rw [leaf] at held
  cases held

theorem Leads.onward {path : List Node} {node successor : Node}
    (leads : Leads next path node) (step : Step next node successor) :
    Leads next (path ++ [node]) successor := by
  apply List.isChain_append.mpr
  refine ⟨leads, List.isChain_singleton _, ?_⟩
  intro last ends other starts
  rw [List.getLast?_append_of_ne_nil _ (by simp)] at ends
  obtain rfl : node = last := by simpa using ends
  obtain rfl : successor = other := by simpa using starts
  exact step

theorem transGen_of_isChain {first last : Node} {between : List Node}
    (chain : (first :: between ++ [last]).IsChain (Step next)) :
    Relation.TransGen (Step next) first last := by
  induction between generalizing first with
  | nil =>
    apply Relation.TransGen.single
    simpa using chain
  | cons second rest ih =>
    have parts : Step next first second ∧ (second :: (rest ++ [last])).IsChain (Step next) := by
      simpa using chain
    exact Relation.TransGen.head parts.1 (ih parts.2)

theorem Leads.cyclic {path : List Node} {node : Node} (leads : Leads next path node)
    (again : node ∈ path) : Cyclic next node := by
  obtain ⟨before, after, rfl⟩ := List.append_of_mem again
  have chain : ((node :: after) ++ [node]).IsChain (Step next) := by
    unfold Leads at leads
    rw [List.append_assoc] at leads
    exact (List.isChain_append.mp leads).2.1
  exact transGen_of_isChain chain

theorem leads_root (node : Node) : Leads next [] node := List.isChain_singleton node

/-- A report tells of a path that came back onto itself. -/
def Witnessed (next : Node → Option (List Node)) (report : List Node → Node → Report)
    (made : Report) : Prop :=
  ∃ path node, made = report path node ∧ Leads next path node ∧ node ∈ path

/-- What one walk adds to a search: reports that tell the truth, and if none came then only
nodes whose every way on ends. -/
structure Walked (next : Node → Option (List Node)) (report : List Node → Node → Report)
    (search result : Search Node Report) (targets : List Node) : Prop where
  told : ∃ fresh, result.reports = search.reports ++ fresh ∧ ∀ made ∈ fresh,
    Witnessed next report made
  grounded : result.reports = search.reports → (∀ seen ∈ search.visited, Grounded next seen) →
    (∀ seen ∈ result.visited, Grounded next seen) ∧ ∀ target ∈ targets, Grounded next target

theorem Walked.refl (search : Search Node Report) : Walked next report search search [] where
  told := ⟨[], by simp⟩
  grounded := fun _ seen => ⟨seen, by simp⟩

theorem Walked.trans {first second third : Search Node Report} {targets more : List Node}
    (earlier : Walked next report first second targets)
    (later : Walked next report second third more) :
    Walked next report first third (targets ++ more) where
  told := by
    obtain ⟨fresh, grown, truthful⟩ := earlier.told
    obtain ⟨more, grownToo, truthfulToo⟩ := later.told
    refine ⟨fresh ++ more, by rw [grownToo, grown, List.append_assoc], ?_⟩
    intro made held
    obtain held | held := List.mem_append.mp held
    · exact truthful made held
    · exact truthfulToo made held
  grounded := by
    intro same seen
    obtain ⟨fresh, grown, _⟩ := earlier.told
    obtain ⟨more, grownToo, _⟩ := later.told
    have nothing : fresh = [] ∧ more = [] := by simpa [grown, grownToo] using same
    have between : second.reports = first.reports := by simp [grown, nothing.1]
    obtain ⟨visited, reached⟩ := earlier.grounded between seen
    obtain ⟨visitedToo, reachedToo⟩ := later.grounded (same.trans between.symm) visited
    refine ⟨visitedToo, ?_⟩
    intro target held
    obtain held | held := List.mem_append.mp held
    · exact reached target held
    · exact reachedToo target held

theorem walked_foldl {explore : Search Node Report → Node → Search Node Report}
    {nodes : List Node}
    (each : ∀ node ∈ nodes, ∀ search, Walked next report search (explore search node) [node])
    (search : Search Node Report) :
    Walked next report search (nodes.foldl explore search) nodes := by
  induction nodes generalizing search with
  | nil => exact Walked.refl search
  | cons node rest ih =>
    have first := each node List.mem_cons_self search
    have others := ih (fun other held => each other (List.mem_cons_of_mem _ held))
      (explore search node)
    exact first.trans others

theorem walked_still {search : Search Node Report} {node : Node}
    (settled : (∀ seen ∈ search.visited, Grounded next seen) → Grounded next node) :
    Walked next report search search [node] where
  told := ⟨[], by simp⟩
  grounded := by
    intro _ seen
    refine ⟨seen, ?_⟩
    intro target held
    obtain rfl := List.mem_singleton.mp held
    exact settled seen

theorem Leads.walked {path : List Node} {node : Node} (leads : Leads next path node)
    (again : node ∈ path) (search : Search Node Report) :
    Walked next report search { search with reports := search.reports ++ [report path node] }
      [node] where
  told := by
    refine ⟨[report path node], rfl, ?_⟩
    intro made held
    obtain rfl := List.mem_singleton.mp held
    exact ⟨path, node, rfl, leads, again⟩
  grounded := by
    intro same
    simp at same

theorem walked_explored {search explored : Search Node Report} {node : Node}
    {successors : List Node} (found : next node = some successors)
    (walked : Walked next report search explored successors) :
    Walked next report search { explored with visited := explored.visited ++ [node] } [node] where
  told := walked.told
  grounded := by
    intro same seen
    obtain ⟨visited, reached⟩ := walked.grounded same seen
    have settled : Grounded next node := by
      constructor
      rintro successor ⟨others, held, step⟩
      obtain rfl : successors = others := Option.some.inj (found.symm.trans held)
      exact reached successor step
    constructor
    · intro seen held
      obtain before | here := List.mem_append.mp held
      · exact visited seen before
      · obtain rfl := List.mem_singleton.mp here
        exact settled
    · intro target held
      obtain rfl := List.mem_singleton.mp held
      exact settled

variable [DecidableEq Node]

/-- With more fuel than keys off the path, a walk does all it would do without a bound. -/
theorem walk_walked {keys : List Node} (known : ∀ node, next node ≠ none → node ∈ keys)
    {fuel : Nat} {path : List Node} (enough : keys.length < fuel + path.length)
    (distinct : path.Nodup) (within : path ⊆ keys) {node : Node} (leads : Leads next path node)
    (search : Search Node Report) :
    Walked next report search (walk next report fuel path search node) [node] := by
  induction fuel generalizing path node search with
  | zero =>
    have fits : path.length ≤ keys.length := (List.subperm_of_subset distinct within).length_le
    omega
  | succ fuel ih =>
    by_cases again : node ∈ path
    · simpa [walk, again] using leads.walked again search
    · by_cases seen : node ∈ search.visited
      · simpa [walk, again, seen] using walked_still fun grounded => grounded node seen
      · cases found : next node with
        | none => simpa [walk, again, seen, found] using
            walked_still fun _ => grounded_of_leaf found
        | some successors =>
          have each : ∀ successor ∈ successors, ∀ search : Search Node Report,
              Walked next report search
                (walk next report fuel (path ++ [node]) search successor) [successor] := by
            intro successor held search
            apply ih
            · simp only [List.length_append, List.length_singleton]
              omega
            · exact List.Nodup.append distinct (List.nodup_singleton node) (by simpa using again)
            · apply List.append_subset.mpr
              exact ⟨within, by simpa using known node (by simp [found])⟩
            · exact leads.onward ⟨successors, found, held⟩
          simpa [walk, again, seen, found] using
            walked_explored found (walked_foldl each search)

/-- The walk begun at each key in turn that none before has explored. -/
def survey (next : Node → Option (List Node)) (report : List Node → Node → Report) (fuel : Nat)
    (keys : List Node) (search : Search Node Report) : Search Node Report :=
  keys.foldl (fun search start =>
    if start ∈ search.visited then search else walk next report fuel [] search start) search

theorem survey_walked {keys : List Node} (known : ∀ node, next node ≠ none → node ∈ keys)
    {fuel : Nat} (enough : keys.length < fuel) (starts : List Node)
    (search : Search Node Report) :
    Walked next report search (survey next report fuel starts search) starts := by
  apply walked_foldl
  intro start _ search
  by_cases seen : start ∈ search.visited
  · simpa [seen] using walked_still fun grounded => grounded start seen
  · simpa [seen] using walk_walked known (by simpa using enough) List.nodup_nil (by simp)
      (leads_root start) search

/-- Nothing stands reported exactly when nothing did before and no node leads back to itself. -/
theorem survey_reports_nothing_iff {keys : List Node}
    (known : ∀ node, next node ≠ none ↔ node ∈ keys) {fuel : Nat} (enough : keys.length < fuel)
    (reports : List Report) :
    (survey next report fuel keys ⟨[], reports⟩).reports = [] ↔
      reports = [] ∧ ∀ node, ¬ Cyclic next node := by
  have walked := @survey_walked Node Report next report _ keys (fun node => (known node).mp) fuel
    enough keys ⟨[], reports⟩
  obtain ⟨fresh, grown, truthful⟩ := walked.told
  constructor
  · intro quiet
    have nothing : reports = [] ∧ fresh = [] := by simpa [quiet] using grown.symm
    refine ⟨nothing.1, ?_⟩
    intro node cycle
    obtain ⟨_, grounded⟩ := walked.grounded (by simp [grown, nothing.2]) (by simp)
    have key : node ∈ keys := by
      apply (known node).mp
      obtain ⟨successor, ⟨successors, found, _⟩, _⟩ := Relation.TransGen.head'_iff.mp cycle
      simp [found]
    exact (grounded node key).acyclic cycle
  · rintro ⟨rfl, acyclic⟩
    cases fresh with
    | nil => simpa using grown
    | cons made rest =>
      obtain ⟨path, node, _, leads, again⟩ := truthful made List.mem_cons_self
      exact (acyclic node (leads.cyclic again)).elim

/-- In a finite graph without cycles every way on ends. -/
theorem grounded_of_acyclic {keys : List Node} (known : ∀ node, next node ≠ none ↔ node ∈ keys)
    (acyclic : ∀ node, ¬ Cyclic next node) (node : Node) : Grounded next node := by
  cases found : next node with
  | none => exact grounded_of_leaf found
  | some successors =>
    let mark : List Node → Node → Unit := fun _ _ => ()
    have enough : keys.length < keys.length + 1 := Nat.lt_succ_self _
    have walked := @survey_walked Node Unit next mark _ keys (fun node => (known node).mp) _
      enough keys {}
    have quiet := (@survey_reports_nothing_iff Node Unit next mark _ keys known _ enough []).mpr
      ⟨rfl, acyclic⟩
    have grounded := (walked.grounded quiet (by simp)).2
    exact grounded node ((known node).mp (by simp [found]))

end Library.DepthFirst
