import Routectl.Library.LruCache
import Routectl.Library.Transition

/-! Optimistic updates of a bounded map: a call reads an entry, works without the lock, and
commits only where what it read still stands; else it starts over. -/
namespace Library

/-- What an update takes from an entry, and what it makes of a missing and of a present one. -/
structure Optimistic (Key Value View Input Output : Type) where
  capacity : Nat
  view : Value → View
  seed : Input → Value × Output
  settle : View → Input → Value → Value × Output

namespace Optimistic
variable {Key Value View Input Output : Type} [DecidableEq Key]

inductive Phase (View Output : Type) where
  | looping
  | compared (seen : View)
  | done (output : Output)

structure Call (Key View Input Output : Type) where
  key : Key
  input : Input
  phase : Phase View Output

structure Completion (Key Input Output : Type) where
  caller : Nat
  key : Key
  input : Input
  output : Output

/-- `log` holds the calls that are done, in the order they took effect. -/
structure World (Key Value View Input Output : Type) where
  store : KeyedMap Key Value := ∅
  calls : KeyedMap Nat (Call Key View Input Output) := ∅
  log : List (Completion Key Input Output) := []

inductive Label (Key Input : Type) where
  | start (caller : Nat) (key : Key) (input : Input)
  | read (caller : Nat)
  | commit (caller : Nat)

def Label.caller : Label Key Input → Nat
  | .start caller _ _ => caller
  | .read caller => caller
  | .commit caller => caller

namespace World
variable (world : World Key Value View Input Output)

def turn (caller : Nat) (call : Call Key View Input Output) (phase : Phase View Output)
    (store : KeyedMap Key Value) : World Key Value View Input Output :=
  { world with store, calls := world.calls.insert caller { call with phase } }

def finish (caller : Nat) (call : Call Key View Input Output) (output : Output)
    (store : KeyedMap Key Value) : World Key Value View Input Output :=
  { world.turn caller call (.done output) store with
    log := world.log ++ [⟨caller, call.key, call.input, output⟩] }

end World

variable (update : Optimistic Key Value View Input Output)

/-- The update as one step. -/
def atomically (key : Key) (input : Input) (store : KeyedMap Key Value) :
    KeyedMap Key Value × Output :=
  match LruCache.get key store with
  | (store, none) =>
    let (value, output) := update.seed input
    (LruCache.put update.capacity key value store, output)
  | (store, some value) =>
    let (next, output) := update.settle (update.view value) input value
    (store.insert key next, output)

/-- A store reached by whole updates, one after another, and by reads between them. -/
inductive Sequential : List (Completion Key Input Output) → KeyedMap Key Value → Prop
  | nil : Sequential [] ∅
  | touch (log : List (Completion Key Input Output)) (store : KeyedMap Key Value) (key : Key) :
      Sequential log store → Sequential log (LruCache.get key store).1
  | update (log : List (Completion Key Input Output)) (store : KeyedMap Key Value) (caller : Nat)
      (key : Key) (input : Input) : Sequential log store →
      Sequential (log ++ [⟨caller, key, input, (update.atomically key input store).2⟩])
        (update.atomically key input store).1

/-- What one locked access can do: touch the store, or take effect as a whole. -/
inductive Access (world : World Key Value View Input Output) (caller : Nat)
    (call : Call Key View Input Output) : World Key Value View Input Output → Prop
  | touched (phase : Phase View Output) : (∀ output, phase ≠ .done output) →
      Access world caller call
        (world.turn caller call phase (LruCache.get call.key world.store).1)
  | effective : Access world caller call
      (world.finish caller call (update.atomically call.key call.input world.store).2
        (update.atomically call.key call.input world.store).1)

section Linear
variable {update} {world next : World Key Value View Input Output} {caller : Nat}
variable {call : Call Key View Input Output}

/-- The log tells every call that is done once, and the store is what it says. -/
structure Linear (update : Optimistic Key Value View Input Output)
    (world : World Key Value View Input Output) : Prop where
  sequential : Sequential update world.log world.store
  done_iff : ∀ caller key input output,
    world.calls.lookup caller = some ⟨key, input, .done output⟩ ↔
      ⟨caller, key, input, output⟩ ∈ world.log
  once : (world.log.map Completion.caller).Nodup

theorem linear_init : Linear update ({} : World Key Value View Input Output) where
  sequential := .nil
  done_iff caller key input output := by simp
  once := List.nodup_nil

theorem Linear.caller_done (linear : Linear update world) {completion : Completion Key Input Output}
    (told : completion ∈ world.log) :
    world.calls.lookup completion.caller =
      some ⟨completion.key, completion.input, .done completion.output⟩ :=
  (linear.done_iff _ _ _ _).mpr told

/-- A call that is not done yet may go on to any phase but the last. -/
theorem Linear.turned (linear : Linear update world) {phase : Phase View Output}
    {store : KeyedMap Key Value} (pending : ∀ key input output,
      world.calls.lookup caller ≠ some ⟨key, input, .done output⟩)
    (open_ : ∀ output, phase ≠ .done output) (sequential : Sequential update world.log store) :
    Linear update (world.turn caller call phase store) where
  sequential := sequential
  once := linear.once
  done_iff other key input output := by
    change _ ↔ _ ∈ world.log
    rw [← linear.done_iff other key input output]
    by_cases same : other = caller
    · subst same
      simp only [World.turn, AList.lookup_insert]
      constructor
      · intro finished
        exact absurd (Call.mk.inj (Option.some.inj finished)).2.2 (open_ output)
      · intro finished
        exact absurd finished (pending key input output)
    · simp only [World.turn, AList.lookup_insert_ne same]

theorem Linear.finished (linear : Linear update world) (pending : ∀ key input output,
      world.calls.lookup caller ≠ some ⟨key, input, .done output⟩) :
    Linear update (world.finish caller call (update.atomically call.key call.input world.store).2
      (update.atomically call.key call.input world.store).1) where
  sequential := .update world.log world.store caller call.key call.input linear.sequential
  once := by
    simp only [World.finish, World.turn, List.map_append, List.map_cons, List.map_nil]
    apply List.Nodup.append linear.once (List.nodup_singleton _)
    intro other told alone
    obtain rfl := List.mem_singleton.mp alone
    obtain ⟨completion, there, rfl⟩ := List.mem_map.mp told
    exact pending _ _ _ (linear.caller_done there)
  done_iff other key input output := by
    simp only [World.finish, World.turn, List.mem_append, List.mem_singleton]
    by_cases same : other = caller
    · subst same
      rw [AList.lookup_insert]
      constructor
      · intro finished
        obtain ⟨rfl, rfl, phase⟩ := Call.mk.inj (Option.some.inj finished)
        obtain rfl := Phase.done.inj phase
        exact Or.inr rfl
      · rintro (told | added)
        · exact absurd ((linear.done_iff _ _ _ _).mpr told) (pending key input output)
        · obtain ⟨-, rfl, rfl, rfl⟩ := Completion.mk.inj added
          rfl
    · rw [AList.lookup_insert_ne same, linear.done_iff other key input output]
      constructor
      · exact Or.inl
      · rintro (told | added)
        · exact told
        · exact absurd (Completion.mk.inj added).1 same

end Linear

section Steps

/-- The first locked access: a missing entry is seeded at once. -/
def readStep (world : World Key Value View Input Output) (caller : Nat)
    (call : Call Key View Input Output) : World Key Value View Input Output :=
  match LruCache.get call.key world.store with
  | (store, some value) => world.turn caller call (.compared (update.view value)) store
  | (store, none) =>
    let (value, output) := update.seed call.input
    world.finish caller call output (LruCache.put update.capacity call.key value store)

theorem readStep_access (world : World Key Value View Input Output) (caller : Nat)
    (call : Call Key View Input Output) :
    Access update world caller call (update.readStep world caller call) := by
  cases taken : LruCache.get call.key world.store with
  | mk store held =>
    cases held with
    | none =>
      have whole := @Access.effective _ _ _ _ _ _ update world caller call
      simp only [atomically, taken] at whole
      simp only [readStep, taken]
      exact whole
    | some value =>
      have touched := @Access.touched _ _ _ _ _ _ update world caller call
        (.compared (update.view value)) fun output same => by cases same
      rw [taken] at touched
      simp only [readStep, taken]
      exact touched

variable [DecidableEq View]

/-- The second locked access: back to the first where the entry is another by now. -/
def commitStep (world : World Key Value View Input Output) (caller : Nat)
    (call : Call Key View Input Output) (seen : View) : World Key Value View Input Output :=
  match LruCache.get call.key world.store with
  | (store, none) => world.turn caller call .looping store
  | (store, some value) =>
    if update.view value = seen then
      let (next, output) := update.settle seen call.input value
      world.finish caller call output (store.insert call.key next)
    else world.turn caller call .looping store

def step (world : World Key Value View Input Output) :
    Label Key Input → Option (World Key Value View Input Output)
  | .start caller key input =>
    match world.calls.lookup caller with
    | some _ => none
    | none => some (world.turn caller ⟨key, input, .looping⟩ .looping world.store)
  | .read caller =>
    match world.calls.lookup caller with
    | some ⟨key, input, .looping⟩ => some (update.readStep world caller ⟨key, input, .looping⟩)
    | _ => none
  | .commit caller =>
    match world.calls.lookup caller with
    | some ⟨key, input, .compared seen⟩ =>
      some (update.commitStep world caller ⟨key, input, .compared seen⟩ seen)
    | _ => none

def machine : Machine (World Key Value View Input Output) (Label Key Input) := ⟨update.step⟩

variable {update} {world next : World Key Value View Input Output} {caller : Nat}
variable {call : Call Key View Input Output}
variable {label : Label Key Input} {seen : View}

theorem commitStep_access (world : World Key Value View Input Output) (caller : Nat)
    (call : Call Key View Input Output) (seen : View) :
    Access update world caller call (update.commitStep world caller call seen) := by
  have again := @Access.touched _ _ _ _ _ _ update world caller call .looping
    fun output same => by cases same
  cases taken : LruCache.get call.key world.store with
  | mk store held =>
    rw [taken] at again
    cases held with
    | none =>
      simp only [commitStep, taken]
      exact again
    | some value =>
      simp only [commitStep, taken]
      by_cases stands : update.view value = seen
      · subst stands
        have whole := @Access.effective _ _ _ _ _ _ update world caller call
        simp only [atomically, taken] at whole
        rw [if_pos rfl]
        exact whole
      · rw [if_neg stands]
        exact again

/-- What one step can do: start a call, or let one that is not done access the store. -/
theorem step_cases (stepped : update.step world label = some next) :
    (∃ caller key input, label = .start caller key input ∧ world.calls.lookup caller = none ∧
      next = world.turn caller ⟨key, input, .looping⟩ .looping world.store) ∨
    (∃ call, world.calls.lookup label.caller = some call ∧ (∀ output, call.phase ≠ .done output) ∧
      Access update world label.caller call next) := by
  cases label with
  | start caller key input =>
    left
    simp only [step] at stepped
    cases held : world.calls.lookup caller with
    | some call =>
      rw [held] at stepped
      cases stepped
    | none =>
      rw [held] at stepped
      exact ⟨caller, key, input, rfl, held, (Option.some.inj stepped).symm⟩
  | read caller =>
    right
    simp only [step] at stepped
    cases held : world.calls.lookup caller with
    | none =>
      rw [held] at stepped
      cases stepped
    | some call =>
      obtain ⟨key, input, phase⟩ := call
      rw [held] at stepped
      cases phase with
      | looping =>
        obtain rfl := Option.some.inj stepped
        exact ⟨_, held, (fun output same => by cases same), readStep_access update world caller _⟩
      | compared seen => cases stepped
      | done output => cases stepped
  | commit caller =>
    right
    simp only [step] at stepped
    cases held : world.calls.lookup caller with
    | none =>
      rw [held] at stepped
      cases stepped
    | some call =>
      obtain ⟨key, input, phase⟩ := call
      rw [held] at stepped
      cases phase with
      | looping => cases stepped
      | compared seen =>
        obtain rfl := Option.some.inj stepped
        exact ⟨_, held, (fun output same => by cases same), commitStep_access world caller _ seen⟩
      | done output => cases stepped

theorem Linear.step (linear : Linear update world) (stepped : update.step world label = some next) :
    Linear update next := by
  obtain ⟨starter, key, input, rfl, free, rfl⟩ | ⟨call, held, open_, access⟩ := step_cases stepped
  · apply linear.turned _ (fun output same => by cases same) linear.sequential
    intro key input output there
    rw [free] at there
    cases there
  · have pending : ∀ key input output,
        world.calls.lookup label.caller ≠ some ⟨key, input, .done output⟩ := by
      intro key input output there
      rw [held] at there
      exact open_ output (congrArg Call.phase (Option.some.inj there))
    cases access with
    | touched phase unfinished =>
      exact linear.turned pending unfinished (.touch world.log world.store call.key linear.sequential)
    | effective => exact linear.finished pending

/-- Every interleaving is a sequence of whole updates. -/
theorem run_linear {labels : List (Label Key Input)} (linear : Linear update world)
    (ran : update.machine.run world labels = some next) : Linear update next := by
  induction labels generalizing world with
  | nil =>
    obtain rfl := Option.some.inj ran
    exact linear
  | cons label rest ih =>
    obtain ⟨middle, stepped, onward⟩ := update.machine.run_cons_eq_some.mp ran
    exact ih (linear.step stepped) onward

/-- A step adds at most one completion, and without one no entry changes. -/
theorem step_quiet (stepped : update.step world label = some next) :
    (∃ completion, next.log = world.log ++ [completion] ∧ completion.caller = label.caller) ∨
      (next.log = world.log ∧ ∀ key, next.store.lookup key = world.store.lookup key) := by
  obtain ⟨starter, key, input, rfl, free, rfl⟩ | ⟨call, held, open_, access⟩ := step_cases stepped
  · exact Or.inr ⟨rfl, fun _ => rfl⟩
  · cases access with
    | touched phase unfinished => exact Or.inr ⟨rfl, fun key => LruCache.lookup_get call.key key _⟩
    | effective => exact Or.inl ⟨_, rfl, rfl⟩

theorem step_other {other : Nat} (apart : other ≠ label.caller)
    (stepped : update.step world label = some next) :
    next.calls.lookup other = world.calls.lookup other := by
  obtain ⟨starter, key, input, rfl, free, rfl⟩ | ⟨call, held, open_, access⟩ := step_cases stepped
  · exact AList.lookup_insert_ne apart
  · cases access with
    | touched phase unfinished => exact AList.lookup_insert_ne apart
    | effective => exact AList.lookup_insert_ne apart

/-- A call in progress was started under its key and with its input. -/
theorem run_started {labels : List (Label Key Input)}
    (ran : update.machine.run world labels = some next)
    (held : next.calls.lookup caller = some call) :
    (∃ phase, world.calls.lookup caller = some { call with phase }) ∨
      Label.start caller call.key call.input ∈ labels := by
  induction labels generalizing world with
  | nil =>
    obtain rfl := Option.some.inj ran
    exact Or.inl ⟨call.phase, held⟩
  | cons label rest ih =>
    obtain ⟨middle, stepped, onward⟩ := update.machine.run_cons_eq_some.mp ran
    obtain ⟨phase, there⟩ | later := ih onward
    · by_cases own : caller = label.caller
      · obtain ⟨starter, key, input, rfl, free, rfl⟩ | ⟨before, found, -, access⟩ :=
          step_cases stepped
        · right
          obtain rfl : caller = starter := own
          rw [World.turn, AList.lookup_insert] at there
          obtain ⟨rfl, rfl, -⟩ := Call.mk.inj (Option.some.inj there)
          exact List.mem_cons_self
        · left
          rw [own] at there ⊢
          cases access with
          | touched moved unfinished =>
            rw [World.turn, AList.lookup_insert] at there
            obtain ⟨key, input, -⟩ := Call.mk.inj (Option.some.inj there)
            refine ⟨before.phase, found.trans ?_⟩
            rw [← key, ← input]
          | effective =>
            rw [World.finish, World.turn, AList.lookup_insert] at there
            obtain ⟨key, input, -⟩ := Call.mk.inj (Option.some.inj there)
            refine ⟨before.phase, found.trans ?_⟩
            rw [← key, ← input]
      · exact Or.inl ⟨phase, (step_other own stepped).symm.trans there⟩
    · exact Or.inr (List.mem_cons_of_mem _ later)

/-! ### Progress -/

/-- What a call has read is not what stands by now. -/
def overtaken (update : Optimistic Key Value View Input Output)
    (world : World Key Value View Input Output) (caller : Nat) : Bool :=
  match world.calls.lookup caller with
  | some ⟨key, _, .compared seen⟩ =>
    !(world.store.lookup key).any fun value => update.view value = seen
  | _ => false

def Phase.isLooping : Phase View Output → Bool
  | .looping => true
  | _ => false

/-- A commit that went back to its read. -/
def retried (caller : Nat) (label : Label Key Input)
    (next : World Key Value View Input Output) : Bool :=
  match label with
  | .commit other => other = caller && (next.calls.lookup caller).any fun call => call.phase.isLooping
  | _ => false

/-- How often a call starts over along a run. -/
def retries (update : Optimistic Key Value View Input Output) (caller : Nat) :
    World Key Value View Input Output → List (Label Key Input) → Nat
  | _, [] => 0
  | world, label :: rest =>
    match update.step world label with
    | none => 0
    | some next => (retried caller label next).toNat + update.retries caller next rest

/-- The completed calls of the others. -/
def others (caller : Nat) (world : World Key Value View Input Output) : Nat :=
  (world.log.filter fun completion => completion.caller ≠ caller).length

omit [DecidableEq Key] [DecidableEq View] in
theorem others_concat (caller : Nat) {completion : Completion Key Input Output} (grown : next.log = world.log ++ [completion]) :
    others caller next = others caller world + (decide (completion.caller ≠ caller)).toNat := by
  unfold others
  rw [grown, List.filter_append, List.length_append]
  by_cases own : completion.caller = caller
  · simp [own]
  · simp [own]

theorem overtaken_congr (calls : next.calls.lookup caller = world.calls.lookup caller)
    (store : ∀ key, next.store.lookup key = world.store.lookup key) :
    overtaken update next caller = overtaken update world caller := by
  simp only [overtaken, calls, store]

theorem toNat_le_one (flag : Bool) : flag.toNat ≤ 1 := by cases flag <;> decide

/-- One step of a call itself: what it reads stands, and only what was overtaken starts over. -/
theorem own_step_paid (stepped : update.step world label = some next) (own : label.caller = caller) :
    (retried caller label next).toNat + (overtaken update next caller).toNat ≤
      (overtaken update world caller).toNat := by
  cases label with
  | start other key input =>
    obtain rfl : other = caller := own
    simp only [step] at stepped
    cases held : world.calls.lookup other with
    | some call =>
      rw [held] at stepped
      cases stepped
    | none =>
      rw [held] at stepped
      obtain rfl := Option.some.inj stepped
      have free : overtaken update (world.turn other ⟨key, input, .looping⟩ .looping world.store)
          other = false := by
        simp only [overtaken, World.turn, AList.lookup_insert]
      rw [free]
      exact Nat.zero_le _
  | read other =>
    obtain rfl : other = caller := own
    simp only [step] at stepped
    cases held : world.calls.lookup other with
    | none =>
      rw [held] at stepped
      cases stepped
    | some call =>
      obtain ⟨key, input, phase⟩ := call
      rw [held] at stepped
      cases phase with
      | compared seen => cases stepped
      | done output => cases stepped
      | looping =>
        obtain rfl := Option.some.inj stepped
        have free : overtaken update (update.readStep world other ⟨key, input, .looping⟩) other =
            false := by
          have read := LruCache.get_value key world.store
          have kept := LruCache.lookup_get key key world.store
          cases taken : LruCache.get key world.store with
          | mk store found =>
            rw [taken] at read kept
            cases found with
            | none =>
              simp only [readStep, taken, overtaken, World.finish, World.turn, AList.lookup_insert]
            | some value =>
              simp only [readStep, taken, overtaken, World.turn, AList.lookup_insert, kept, ← read]
              simp
        rw [free]
        exact Nat.zero_le _
  | commit other =>
    obtain rfl : other = caller := own
    simp only [step] at stepped
    cases held : world.calls.lookup other with
    | none =>
      rw [held] at stepped
      cases stepped
    | some call =>
      obtain ⟨key, input, phase⟩ := call
      rw [held] at stepped
      cases phase with
      | looping => cases stepped
      | done output => cases stepped
      | compared seen =>
        obtain rfl := Option.some.inj stepped
        have read := LruCache.get_value key world.store
        cases taken : LruCache.get key world.store with
        | mk store found =>
          rw [taken] at read
          dsimp only at read
          cases found with
          | none =>
            have stale : overtaken update world other = true := by
              simp [overtaken, held, ← read]
            rw [stale]
            simp only [commitStep, taken, overtaken, World.turn, AList.lookup_insert]
            exact toNat_le_one _
          | some value =>
            by_cases stands : update.view value = seen
            · simp [commitStep, taken, stands, overtaken, retried, World.finish, World.turn,
                AList.lookup_insert, Phase.isLooping]
            · have stale : overtaken update world other = true := by
                simp [overtaken, held, ← read, stands]
              rw [stale]
              simp only [commitStep, taken, if_neg stands, overtaken, World.turn,
                AList.lookup_insert]
              exact toNat_le_one _

/-- A step is paid for by what was overtaken or by a call of another that completes. -/
theorem step_paid (caller : Nat) (stepped : update.step world label = some next) :
    (retried caller label next).toNat + (overtaken update next caller).toNat +
      others caller world ≤ others caller next + (overtaken update world caller).toNat := by
  by_cases own : label.caller = caller
  · have paid := own_step_paid stepped own
    obtain ⟨completion, grown, -⟩ | ⟨same, -⟩ := step_quiet stepped
    · have more := others_concat caller grown
      omega
    · have equal : others caller next = others caller world := by rw [others, others, same]
      omega
  · have plain : retried caller label next = false := by
      cases label with
      | start => rfl
      | read => rfl
      | commit other => simp [retried, show ¬ other = caller from own]
    rw [plain, Bool.toNat_false]
    obtain ⟨completion, grown, whose⟩ | ⟨same, kept⟩ := step_quiet stepped
    · have more := others_concat caller grown
      have bounded := toNat_le_one (overtaken update next caller)
      rw [whose, decide_eq_true own, Bool.toNat_true] at more
      omega
    · have equal : others caller next = others caller world := by rw [others, others, same]
      rw [overtaken_congr (step_other (Ne.symm own) stepped) kept, equal]
      omega

/-- Along every run a call starts over at most as often as calls of others complete. -/
theorem retries_paid {labels : List (Label Key Input)}
    (ran : update.machine.run world labels = some next) :
    update.retries caller world labels + others caller world ≤
      others caller next + (overtaken update world caller).toNat := by
  induction labels generalizing world with
  | nil =>
    obtain rfl := Option.some.inj ran
    rw [retries]
    omega
  | cons label rest ih =>
    obtain ⟨middle, stepped, onward⟩ := update.machine.run_cons_eq_some.mp ran
    have paid := step_paid caller stepped
    have later := ih onward
    have here : update.step world label = some middle := stepped
    rw [retries, here]
    dsimp only
    omega

end Steps

end Optimistic
end Library
