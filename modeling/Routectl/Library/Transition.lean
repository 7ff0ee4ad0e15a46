import Mathlib.Data.List.Basic

/-! Partial machines, their runs, and what a guard on every step of a run
buys. -/
namespace Library
universe u v w
variable {State : Type u} {Label : Type v}

/-- A machine whose step may refuse a label. -/
structure Machine (State : Type u) (Label : Type v) where
  step : State → Label → Option State

namespace Machine
variable (machine : Machine State Label)

/-- Take the labels in order; the run fails where a step refuses. -/
def run : State → List Label → Option State
  | state, [] => some state
  | state, label :: rest => (machine.step state label).bind fun next => run next rest

@[simp] theorem run_nil (state : State) : machine.run state [] = some state := rfl

theorem run_cons (state : State) (label : Label) (rest : List Label) :
    machine.run state (label :: rest) =
      (machine.step state label).bind fun next => machine.run next rest := rfl

theorem run_cons_eq_some {state final : State} {label : Label} {rest : List Label} :
    machine.run state (label :: rest) = some final ↔
      ∃ next, machine.step state label = some next ∧ machine.run next rest = some final := by
  rw [run_cons, Option.bind_eq_some_iff]

theorem run_append (state : State) (first second : List Label) :
    machine.run state (first ++ second) =
      (machine.run state first).bind fun middle => machine.run middle second := by
  induction first generalizing state with
  | nil => rfl
  | cons label rest ih =>
    simp only [List.cons_append, run_cons]
    cases machine.step state label with
    | none => rfl
    | some next => exact ih next

theorem run_append_eq_some {state final : State} {first second : List Label} :
    machine.run state (first ++ second) = some final ↔
      ∃ middle, machine.run state first = some middle ∧
        machine.run middle second = some final := by
  rw [run_append, Option.bind_eq_some_iff]

/-- A state met by a run: reached by one of its prefixes. -/
def Visits (state : State) (labels : List Label) (met : State) : Prop :=
  ∃ done rest, labels = done ++ rest ∧ machine.run state done = some met

theorem Visits.self {state : State} {labels : List Label} :
    machine.Visits state labels state := ⟨[], labels, rfl, rfl⟩

theorem Visits.cons {state next met : State} {label : Label} {rest : List Label}
    (step : machine.step state label = some next) (visits : machine.Visits next rest met) :
    machine.Visits state (label :: rest) met := by
  obtain ⟨done, remaining, split, reached⟩ := visits
  refine ⟨label :: done, remaining, by simp [split], ?_⟩
  rw [run_cons, step]
  exact reached

theorem visits_cons_iff {state met : State} {label : Label} {rest : List Label} :
    machine.Visits state (label :: rest) met ↔
      met = state ∨ ∃ next, machine.step state label = some next ∧ machine.Visits next rest met := by
  constructor
  · rintro ⟨done, remaining, split, reached⟩
    cases done with
    | nil => exact .inl (Option.some.inj reached).symm
    | cons head tail =>
      obtain ⟨same, restSplit⟩ := List.cons.inj split
      subst same
      obtain ⟨next, step, onward⟩ := machine.run_cons_eq_some.mp reached
      exact .inr ⟨next, step, tail, remaining, restSplit, onward⟩
  · rintro (same | ⟨next, step, visits⟩)
    · subst same
      exact Visits.self machine
    · exact visits.cons machine step

/-- The guard holds at every step the run takes. -/
def AllSteps (guard : State → Label → Prop) : State → List Label → Prop
  | _, [] => True
  | state, label :: rest =>
    match machine.step state label with
    | none => True
    | some next => guard state label ∧ AllSteps guard next rest

instance AllSteps.decidable (guard : State → Label → Prop) [∀ state label, Decidable (guard state label)] :
    (state : State) → (labels : List Label) → Decidable (machine.AllSteps guard state labels)
  | _, [] => .isTrue trivial
  | state, label :: rest =>
    match taken : machine.step state label with
    | none => decidable_of_iff True (by simp [AllSteps, taken])
    | some next =>
      have := AllSteps.decidable guard next rest
      decidable_of_iff (guard state label ∧ machine.AllSteps guard next rest) (by
        simp [AllSteps, taken])

theorem allSteps_cons {guard : State → Label → Prop} {state next : State} {label : Label}
    {rest : List Label} (step : machine.step state label = some next) :
    machine.AllSteps guard state (label :: rest) ↔
      guard state label ∧ machine.AllSteps guard next rest := by
  simp [AllSteps, step]

/-- A property that every step keeps. -/
def Preserves (property : State → Prop) : Prop :=
  ∀ state label next, property state → machine.step state label = some next → property next

theorem Preserves.run {property : State → Prop} (preserves : machine.Preserves property)
    {labels : List Label} {state final : State} (initial : property state)
    (reached : machine.run state labels = some final) : property final := by
  induction labels generalizing state with
  | nil => exact Option.some.inj reached ▸ initial
  | cons label rest ih =>
    obtain ⟨next, step, onward⟩ := machine.run_cons_eq_some.mp reached
    exact ih (preserves state label next initial step) onward

theorem Preserves.visits {property : State → Prop} (preserves : machine.Preserves property)
    {labels : List Label} {state met : State} (initial : property state)
    (visits : machine.Visits state labels met) : property met := by
  obtain ⟨done, _, _, reached⟩ := visits
  exact preserves.run machine initial reached

/-- A step relation that is reflexive and transitive holds between the ends of
a run when every step from an invariant state is in it. -/
theorem Preserves.run_relates {invariant : State → Prop} {related : State → State → Prop}
    (preserves : machine.Preserves invariant)
    (refl : ∀ state, related state state)
    (trans : ∀ first second third, related first second → related second third →
      related first third)
    (steps : ∀ state label next, invariant state → machine.step state label = some next →
      related state next)
    {labels : List Label} {state final : State} (initial : invariant state)
    (reached : machine.run state labels = some final) : related state final := by
  induction labels generalizing state with
  | nil => exact Option.some.inj reached ▸ refl state
  | cons label rest ih =>
    obtain ⟨next, step, onward⟩ := machine.run_cons_eq_some.mp reached
    exact trans _ _ _ (steps state label next initial step)
      (ih (preserves state label next initial step) onward)

/-- What every guarded step keeps, a run with all its steps guarded keeps. -/
theorem AllSteps.run {property : State → Prop} {guard : State → Label → Prop}
    (keeps : ∀ state label next, property state → guard state label →
      machine.step state label = some next → property next)
    {labels : List Label} {state final : State} (guarded : machine.AllSteps guard state labels)
    (holds : property state) (reached : machine.run state labels = some final) :
    property final := by
  induction labels generalizing state with
  | nil => exact Option.some.inj reached ▸ holds
  | cons label rest ih =>
    obtain ⟨next, step, onward⟩ := machine.run_cons_eq_some.mp reached
    obtain ⟨meets, others⟩ := (machine.allSteps_cons step).mp guarded
    exact ih others (keeps state label next holds meets step) onward

/-- Where a step keeps the property exactly when it meets the guard, a run keeps
it in every state it meets exactly when all its steps meet the guard. -/
theorem always_iff_allSteps {invariant property : State → Prop} {guard : State → Label → Prop}
    (preserves : machine.Preserves invariant)
    (exactly : ∀ state label next, invariant state → property state →
      machine.step state label = some next → (property next ↔ guard state label))
    {labels : List Label} {state : State} (initial : invariant state) (holds : property state) :
    (∀ met, machine.Visits state labels met → property met) ↔
      machine.AllSteps guard state labels := by
  induction labels generalizing state with
  | nil =>
    constructor
    · intro _
      exact trivial
    · rintro _ met ⟨done, rest, split, reached⟩
      obtain ⟨rfl, rfl⟩ := List.nil_eq_append_iff.mp split
      exact Option.some.inj reached ▸ holds
  | cons label rest ih =>
    constructor
    · intro always
      cases step : machine.step state label with
      | none => simp [AllSteps, step]
      | some next =>
        have nextHolds := always next ((Visits.self machine).cons machine step)
        have onward := (ih (preserves state label next initial step) nextHolds).mp
          fun met visits => always met (visits.cons machine step)
        exact (machine.allSteps_cons step).mpr
          ⟨(exactly state label next initial holds step).mp nextHolds, onward⟩
    · intro guarded met visits
      rcases machine.visits_cons_iff.mp visits with same | ⟨next, step, onward⟩
      · exact same ▸ holds
      · obtain ⟨meets, others⟩ := (machine.allSteps_cons step).mp guarded
        have nextHolds := (exactly state label next initial holds step).mpr meets
        exact (ih (preserves state label next initial step) nextHolds).mpr others met onward

section Watched
variable {History : Type w}

/-- The machine with a history beside it, which each step taken adds to. -/
def watched (note : State → Label → State → History → History) :
    Machine (State × History) Label where
  step := fun (state, history) label =>
    (machine.step state label).map fun next => (next, note state label next history)

theorem watched_step {note : State → Label → State → History → History}
    {before after : State × History} {label : Label} :
    (machine.watched note).step before label = some after ↔
      ∃ next, machine.step before.1 label = some next ∧
        after = (next, note before.1 label next before.2) := by
  show (machine.step before.1 label).map _ = some after ↔ _
  rw [Option.map_eq_some_iff]
  simp only [eq_comm]

end Watched

theorem AllSteps.and {guard other : State → Label → Prop} {labels : List Label} {state : State}
    (first : machine.AllSteps guard state labels) (second : machine.AllSteps other state labels) :
    machine.AllSteps (fun state label => guard state label ∧ other state label) state labels := by
  induction labels generalizing state with
  | nil => exact trivial
  | cons label rest ih =>
    cases step : machine.step state label with
    | none => simp [AllSteps, step]
    | some next =>
      obtain ⟨meets, onward⟩ := (machine.allSteps_cons step).mp first
      obtain ⟨meetsToo, onwardToo⟩ := (machine.allSteps_cons step).mp second
      exact (machine.allSteps_cons step).mpr ⟨⟨meets, meetsToo⟩, ih onward onwardToo⟩

/-- What every guarded step keeps holds in every state that a guarded run meets. -/
theorem AllSteps.visits {property : State → Prop} {guard : State → Label → Prop}
    (keeps : ∀ state label next, property state → guard state label →
      machine.step state label = some next → property next)
    {labels : List Label} {state met : State} (guarded : machine.AllSteps guard state labels)
    (holds : property state) (visits : machine.Visits state labels met) : property met := by
  induction labels generalizing state with
  | nil =>
    obtain ⟨done, rest, split, reached⟩ := visits
    obtain ⟨rfl, rfl⟩ := List.nil_eq_append_iff.mp split
    exact Option.some.inj reached ▸ holds
  | cons label rest ih =>
    rcases machine.visits_cons_iff.mp visits with same | ⟨next, step, onward⟩
    · exact same ▸ holds
    · obtain ⟨meets, others⟩ := (machine.allSteps_cons step).mp guarded
      exact ih others (keeps state label next holds meets step) onward

/-- Guards that imply one more at every step from an invariant state. -/
theorem AllSteps.implies {invariant : State → Prop} {guard other : State → Label → Prop}
    (keeps : ∀ state label next, invariant state → guard state label →
      machine.step state label = some next → invariant next)
    (implies : ∀ state label next, invariant state → guard state label →
      machine.step state label = some next → other state label)
    {labels : List Label} {state : State} (guarded : machine.AllSteps guard state labels)
    (initial : invariant state) : machine.AllSteps other state labels := by
  induction labels generalizing state with
  | nil => exact trivial
  | cons label rest ih =>
    cases step : machine.step state label with
    | none => simp [AllSteps, step]
    | some next =>
      obtain ⟨meets, others⟩ := (machine.allSteps_cons step).mp guarded
      exact (machine.allSteps_cons step).mpr
        ⟨implies state label next initial meets step,
          ih others (keeps state label next initial meets step)⟩

end Machine
end Library
