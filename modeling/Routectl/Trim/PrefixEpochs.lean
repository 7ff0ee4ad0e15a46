import Routectl.ContextAnchor.Digest
import Routectl.Library.Optimistic
import Routectl.Trim.SteadyState

/-! The prefix-rewrite detector: each turn of a session is compared with the prefix the session
was last seen with, and counts as append, rewrite or compaction. -/
namespace Routectl.Trim
open Library
open Routectl.ContextAnchor (SystemBlock SystemContent CustomTool ToolDef)

def prefixRewriteCapacity : Nat := 4096

inductive EpochEvent where
  | stable
  | rewritten
  | reseeded
deriving Repr, DecidableEq

def EpochEvent.code : EpochEvent → Nat
  | .stable => 0
  | .rewritten => 1
  | .reseeded => 2

structure EpochObservation where
  event : Option EpochEvent
  epoch : Nat
  compactions : Nat
  prevPrefixLen : Option Nat
  prefixLen : Nat
deriving DecidableEq

structure PrefixEpochEntry where
  prefixLen : Nat
  fingerprint : UInt64
  epoch : Nat
  compactions : Nat
deriving DecidableEq

/-! ### The fingerprint -/

def systemBlockJson (block : SystemBlock) : Json :=
  .object ([("type", .string block.kind), ("text", .string block.text)] ++
    cacheField block.cacheControl ++ optional "citations" block.citations)

def systemJson : SystemContent → Json
  | .text text => .string text
  | .blocks blocks => .array (blocks.map systemBlockJson)

def customToolJson (tool : CustomTool) : Json :=
  .object ([("name", .string tool.name)] ++ optional "description" (tool.description.map .string) ++
    [("input_schema", tool.inputSchema)] ++ cacheField tool.cacheControl ++
    optional "defer_loading" (tool.deferLoading.map .bool) ++
    optional "strict" (tool.strict.map .bool) ++ optional "type" (tool.typeTag.map .string))

def toolDefJson : ToolDef → Json
  | .custom tool => customToolJson tool
  | .other value => value

/-- System, tools and the first messages, all of them where there are fewer. -/
def fingerprintPrefixAt (req : ContextAnchor.ChatRequest) (prefixLen : Nat) : UInt64 :=
  fnv1aHash (Json.bytes (.array
    [(req.system.map systemJson).getD .null,
      (req.tools.map fun tools => Json.array (tools.map toolDefJson)).getD .null,
      .array ((req.messages.take prefixLen).map Message.toJson)]))

/-- The newest turn is left out. -/
def fingerprintPrefix (req : ContextAnchor.ChatRequest) : Nat × UInt64 :=
  let prefixLen := req.messages.length - 1
  (prefixLen, fingerprintPrefixAt req prefixLen)

/-! ### The observation -/

def saturatingSucc (bits value : Nat) : Nat := min (value + 1) (2 ^ bits - 1)

/-- What the first sight of a session records. -/
def seedEpoch (req : ContextAnchor.ChatRequest) : PrefixEpochEntry × EpochObservation :=
  let (prefixLen, fingerprint) := fingerprintPrefix req
  (⟨prefixLen, fingerprint, 0, 0⟩, ⟨none, 0, 0, none, prefixLen⟩)

/-- A shortening is told by its length alone, anything else by the bytes of the old region. -/
def settleEpoch (baseline : Nat × UInt64) (req : ContextAnchor.ChatRequest)
    (entry : PrefixEpochEntry) : PrefixEpochEntry × EpochObservation :=
  let (prefixLen, fingerprint) := fingerprintPrefix req
  let (prevPrefixLen, prevFingerprint) := baseline
  let oldRegionFingerprint :=
    if prevPrefixLen ≤ prefixLen then some (fingerprintPrefixAt req prevPrefixLen) else none
  let (event, epoch, compactions) : EpochEvent × Nat × Nat :=
    match oldRegionFingerprint with
    | none => (.reseeded, entry.epoch, saturatingSucc 32 entry.compactions)
    | some observed =>
      if observed = prevFingerprint then (.stable, entry.epoch, entry.compactions)
      else (.rewritten, saturatingSucc 64 entry.epoch, entry.compactions)
  (⟨prefixLen, fingerprint, epoch, compactions⟩,
    ⟨some event, epoch, compactions, some prevPrefixLen, prefixLen⟩)

def PrefixEpochEntry.baseline (entry : PrefixEpochEntry) : Nat × UInt64 :=
  (entry.prefixLen, entry.fingerprint)

/-- `PrefixRewriteStore::observe`: the prefix is hashed without the lock. -/
def observe : Optimistic String PrefixEpochEntry (Nat × UInt64) ContextAnchor.ChatRequest
    EpochObservation where
  capacity := prefixRewriteCapacity
  view := PrefixEpochEntry.baseline
  seed := seedEpoch
  settle := settleEpoch

abbrev EpochLabel := Optimistic.Label String ContextAnchor.ChatRequest
abbrev EpochWorld := Optimistic.World String PrefixEpochEntry (Nat × UInt64)
  ContextAnchor.ChatRequest EpochObservation
abbrev Observed := Optimistic.Completion String ContextAnchor.ChatRequest EpochObservation

/-- The store as it starts, no session seen. -/
def freshStore : EpochWorld := {}

section Observations
variable {log : List Observed} {store : KeyedMap String PrefixEpochEntry} {session : String}
variable {req : ContextAnchor.ChatRequest} {entry : PrefixEpochEntry}

theorem settle_entry (baseline : Nat × UInt64) (req : ContextAnchor.ChatRequest)
    (entry : PrefixEpochEntry) :
    (settleEpoch baseline req entry).1.baseline = fingerprintPrefix req := by
  unfold settleEpoch
  rfl

/-- One observation as a whole: the first sight of a session, or a comparison with its entry. -/
theorem atomically_cases (session : String) (req : ContextAnchor.ChatRequest)
    (store : KeyedMap String PrefixEpochEntry) :
    (store.lookup session = none ∧
      observe.atomically session req store =
        (LruCache.put prefixRewriteCapacity session (seedEpoch req).1 store, (seedEpoch req).2)) ∨
    (∃ entry, store.lookup session = some entry ∧
      observe.atomically session req store =
        ((LruCache.get session store).1.insert session (settleEpoch entry.baseline req entry).1,
          (settleEpoch entry.baseline req entry).2)) := by
  have read := LruCache.get_value session store
  unfold Optimistic.atomically
  cases taken : LruCache.get session store with
  | mk moved held =>
    rw [taken] at read
    cases held with
    | none =>
      refine Or.inl ⟨read.symm, ?_⟩
      have same : moved = store := by
        have kept : LruCache.get session store = (store, none) := by
          unfold LruCache.get
          rw [← read]
        exact (Prod.mk.inj (taken.symm.trans kept)).1
      rw [same]
      rfl
    | some entry => exact Or.inr ⟨entry, read.symm, rfl⟩

/-- What an observation leaves under each session. -/
theorem lookup_atomically (session : String) (req : ContextAnchor.ChatRequest)
    (store : KeyedMap String PrefixEpochEntry) (other : String) {entry : PrefixEpochEntry}
    (held : (observe.atomically session req store).1.lookup other = some entry) :
    (other ≠ session ∧ store.lookup other = some entry) ∨
    (other = session ∧
      ((store.lookup session = none ∧ entry = (seedEpoch req).1) ∨
        ∃ before, store.lookup session = some before ∧
          entry = (settleEpoch before.baseline req before).1)) := by
  obtain ⟨missing, whole⟩ | ⟨before, found, whole⟩ := atomically_cases session req store
  · rw [whole] at held
    by_cases same : other = session
    · subst same
      have roomy : 0 < prefixRewriteCapacity := by decide
      rw [LruCache.lookup_put_self roomy] at held
      exact Or.inr ⟨rfl, Or.inl ⟨missing, (Option.some.inj held).symm⟩⟩
    · obtain kept | gone := @LruCache.lookup_put_other _ _ _ store session other (seedEpoch req).1
        prefixRewriteCapacity same
      · exact Or.inl ⟨same, kept ▸ held⟩
      · rw [gone] at held
        cases held
  · rw [whole] at held
    by_cases same : other = session
    · subst same
      rw [AList.lookup_insert] at held
      exact Or.inr ⟨rfl, Or.inr ⟨before, found, (Option.some.inj held).symm⟩⟩
    · rw [AList.lookup_insert_ne same, LruCache.lookup_get] at held
      exact Or.inl ⟨same, held⟩

/-! ### The counters -/

/-- The counters of a session after one more completed observation. -/
def tallied (session : String) (counters : Nat × Nat) (observed : Observed) : Nat × Nat :=
  if observed.key = session then
    match observed.output.event with
    | none => (0, 0)
    | some .stable => counters
    | some .rewritten => (saturatingSucc 64 counters.1, counters.2)
    | some .reseeded => (counters.1, saturatingSucc 32 counters.2)
  else counters

/-- Rewrites and compactions of a session since it was last seen for the first time. -/
def tally (session : String) (log : List Observed) : Nat × Nat :=
  log.foldl (tallied session) (0, 0)

theorem tally_concat (session : String) (log : List Observed) (observed : Observed) :
    tally session (log ++ [observed]) = tallied session (tally session log) observed :=
  List.foldl_concat ..

theorem settle_tallied (caller : Nat) (session : String) (baseline : Nat × UInt64)
    (req : ContextAnchor.ChatRequest) (entry : PrefixEpochEntry) :
    let settled := settleEpoch baseline req entry
    (settled.1.epoch, settled.1.compactions) =
        tallied session (entry.epoch, entry.compactions) ⟨caller, session, req, settled.2⟩ ∧
      (settled.2.epoch, settled.2.compactions) = (settled.1.epoch, settled.1.compactions) := by
  dsimp only
  refine ⟨?_, rfl⟩
  unfold settleEpoch tallied
  rw [if_pos rfl]
  by_cases longer : baseline.1 ≤ (fingerprintPrefix req).1
  · simp only [if_pos longer]
    by_cases same : fingerprintPrefixAt req baseline.1 = baseline.2
    · simp only [if_pos same]
    · simp only [if_neg same]
  · simp only [if_neg longer]

/-- Where an element of an extended list stands. -/
theorem concat_split {Item : Type} {items before after : List Item} {last held : Item}
    (split : items ++ [last] = before ++ held :: after) :
    (after = [] ∧ before = items ∧ held = last) ∨
      ∃ rest, after = rest ++ [last] ∧ items = before ++ held :: rest := by
  obtain rfl | ⟨rest, final, rfl⟩ := List.eq_nil_or_concat after
  · obtain ⟨same, ends⟩ := List.append_inj' split rfl
    obtain ⟨rfl, -⟩ := List.cons.inj ends
    exact Or.inl ⟨rfl, same.symm, rfl⟩
  · rw [List.concat_eq_append, ← List.cons_append, ← List.append_assoc] at split
    obtain ⟨same, ends⟩ := List.append_inj' split rfl
    obtain ⟨rfl, -⟩ := List.cons.inj ends
    exact Or.inr ⟨rest, List.concat_eq_append, same⟩

/-- Each entry carries the counters of its session, each observation those it left. -/
theorem sequential_tally (sequential : observe.Sequential log store) :
    (∀ session entry, store.lookup session = some entry →
      (entry.epoch, entry.compactions) = tally session log) ∧
    ∀ before observed after, log = before ++ observed :: after →
      (observed.output.epoch, observed.output.compactions) =
        tally observed.key (before ++ [observed]) := by
  induction sequential with
  | nil =>
    constructor
    · intro session entry held
      cases held
    · intro before observed after split
      cases before <;> cases split
  | touch log store key sequential ih =>
    refine ⟨fun session entry held => ?_, ih.2⟩
    rw [LruCache.lookup_get] at held
    exact ih.1 session entry held
  | update log store caller key req sequential ih =>
    obtain ⟨entries, outputs⟩ := ih
    constructor
    · intro session entry held
      rw [tally_concat]
      obtain ⟨apart, kept⟩ | ⟨rfl, ⟨missing, rfl⟩ | ⟨before, found, rfl⟩⟩ :=
        lookup_atomically key req store session held
      · rw [tallied, if_neg (Ne.symm apart)]
        exact entries session entry kept
      · obtain ⟨-, whole⟩ | ⟨before, found, -⟩ := atomically_cases session req store
        · rw [whole, tallied, if_pos rfl]
          rfl
        · rw [missing] at found
          cases found
      · obtain ⟨missing, -⟩ | ⟨again, found', whole⟩ := atomically_cases session req store
        · rw [missing] at found
          cases found
        · obtain rfl := Option.some.inj (found'.symm.trans found)
          rw [whole, ← entries session again found]
          exact (settle_tallied caller session again.baseline req again).1
    · intro before observed after split
      obtain ⟨rfl, rfl, rfl⟩ | ⟨rest, rfl, rfl⟩ := concat_split split
      · rw [tally_concat]
        obtain ⟨missing, whole⟩ | ⟨entry, found, whole⟩ := atomically_cases key req store
        · rw [whole, tallied, if_pos rfl]
          rfl
        · rw [whole, ← entries key entry found]
          have settled := settle_tallied caller key entry.baseline req entry
          exact settled.2.trans settled.1
      · exact outputs before observed rest rfl

/-! ### Appended histories -/

/-- A later request of a conversation that only grew. -/
structure Extends (earlier later : ContextAnchor.ChatRequest) : Prop where
  system : later.system = earlier.system
  tools : later.tools = earlier.tools
  messages : earlier.messages <+: later.messages

theorem take_prefix {Item : Type} {short long : List Item} (grown : short <+: long) {count : Nat}
    (inside : count ≤ short.length) : long.take count = short.take count := by
  obtain ⟨more, rfl⟩ := grown
  exact List.take_append_of_le_length inside

/-- The region two requests of a growing conversation share has one fingerprint. -/
theorem fingerprint_shared {first second : ContextAnchor.ChatRequest}
    (grows : Extends first second ∨ Extends second first) {count : Nat}
    (here : count ≤ first.messages.length) (there : count ≤ second.messages.length) :
    fingerprintPrefixAt second count = fingerprintPrefixAt first count := by
  unfold fingerprintPrefixAt
  obtain ⟨system, tools, messages⟩ | ⟨system, tools, messages⟩ := grows
  · rw [system, tools, take_prefix messages here]
  · rw [system, tools, take_prefix messages there]

theorem settle_appended {before req : ContextAnchor.ChatRequest} {entry : PrefixEpochEntry}
    (baseline : entry.baseline = fingerprintPrefix before)
    (grows : Extends before req ∨ Extends req before) :
    (settleEpoch entry.baseline req entry).2.event ≠ some .rewritten ∧
      (settleEpoch entry.baseline req entry).1.epoch = entry.epoch ∧
      (settleEpoch entry.baseline req entry).2.epoch = entry.epoch := by
  unfold settleEpoch
  rw [baseline]
  by_cases longer : (fingerprintPrefix before).1 ≤ (fingerprintPrefix req).1
  · have same : fingerprintPrefixAt req (fingerprintPrefix before).1 =
        (fingerprintPrefix before).2 :=
      fingerprint_shared grows (Nat.sub_le before.messages.length 1)
        (longer.trans (Nat.sub_le req.messages.length 1))
    simp only [if_pos longer, if_pos same]
    exact ⟨by decide, trivial, trivial⟩
  · simp only [if_neg longer]
    exact ⟨by decide, trivial, trivial⟩

theorem sequential_append (sequential : observe.Sequential log store)
    (grows : ∀ first ∈ log, ∀ second ∈ log, first.key = session → second.key = session →
      Extends first.input second.input ∨ Extends second.input first.input) :
    (∀ entry, store.lookup session = some entry → entry.epoch = 0 ∧
      ∃ observed ∈ log, observed.key = session ∧
        entry.baseline = fingerprintPrefix observed.input) ∧
    ∀ observed ∈ log, observed.key = session →
      observed.output.event ≠ some .rewritten ∧ observed.output.epoch = 0 := by
  induction sequential with
  | nil =>
    constructor
    · intro entry held
      cases held
    · intro observed member
      cases member
  | touch log store key sequential ih =>
    obtain ⟨entries, outputs⟩ := ih grows
    refine ⟨fun entry held => ?_, outputs⟩
    rw [LruCache.lookup_get] at held
    exact entries entry held
  | update log store caller key req sequential ih =>
    obtain ⟨entries, outputs⟩ := ih fun first here second there =>
      grows first (List.mem_append_left _ here) second (List.mem_append_left _ there)
    constructor
    · intro entry held
      obtain ⟨-, kept⟩ | ⟨rfl, changed⟩ := lookup_atomically key req store session held
      · obtain ⟨flat, observed, member, own, baseline⟩ := entries entry kept
        exact ⟨flat, observed, List.mem_append_left _ member, own, baseline⟩
      · obtain ⟨-, rfl⟩ | ⟨before, found, rfl⟩ := changed
        · exact ⟨rfl, _, List.mem_append_right _ List.mem_cons_self, rfl, rfl⟩
        · obtain ⟨flat, observed, member, own, baseline⟩ := entries before found
          have settled := settle_appended baseline (grows observed (List.mem_append_left _ member) _
            (List.mem_append_right _ List.mem_cons_self) own rfl)
          exact ⟨settled.2.1.trans flat, _, List.mem_append_right _ List.mem_cons_self, rfl,
            settle_entry before.baseline req before⟩
    · intro observed member own
      obtain here | there := List.mem_append.mp member
      · exact outputs observed here own
      · obtain rfl := List.mem_singleton.mp there
        obtain rfl : key = session := own
        obtain ⟨-, whole⟩ | ⟨before, found, whole⟩ := atomically_cases key req store
        · rw [whole]
          exact ⟨(fun event => by cases event), rfl⟩
        · obtain ⟨flat, earlier, held, same, baseline⟩ := entries before found
          have settled := settle_appended baseline (grows earlier (List.mem_append_left _ held) _
            (List.mem_append_right _ List.mem_cons_self) same rfl)
          rw [whole]
          exact ⟨settled.1, settled.2.2.trans flat⟩

end Observations

/-! ### All interleavings -/

section Detector
variable {labels : List EpochLabel} {world : EpochWorld}

/-- The turn of a conversation the user alone speaks in. -/
def spokenTurn (texts : List String) : ContextAnchor.ChatRequest :=
  { model := "opus", messages := texts.map fun text => { role := .user, content := .text text } }

/-- Two turns of one session at once: the second overtakes the first, which starts over. -/
def racingTurns : List EpochLabel :=
  [.start 0 "s" (spokenTurn ["a", "b"]), .read 0,
   .start 1 "s" (spokenTurn ["a", "b", "c"]), .start 2 "s" (spokenTurn ["a", "b", "c", "d"]),
   .read 1, .read 2, .commit 2, .commit 1, .read 1, .commit 1]

def racedStore : EpochWorld := (observe.machine.run freshStore racingTurns).getD freshStore

theorem racingTurns_run : observe.machine.run freshStore racingTurns = some racedStore := by
  have runs : (observe.machine.run freshStore racingTurns).isSome = true := by decide +kernel
  unfold racedStore
  cases ran : observe.machine.run freshStore racingTurns with
  | none =>
    rw [ran] at runs
    cases runs
  | some world => rfl

/-- The counters a session carries, and those every observation answers with, are the rewrites
and the compactions observed since the session was last seen for the first time. -/
theorem counters_tell_the_log (ran : observe.machine.run freshStore labels = some world) :
    (∀ session entry, world.store.lookup session = some entry →
      (entry.epoch, entry.compactions) = tally session world.log) ∧
    ∀ before observed after, world.log = before ++ observed :: after →
      (observed.output.epoch, observed.output.compactions) =
        tally observed.key (before ++ [observed]) :=
  sequential_tally (Optimistic.run_linear Optimistic.linear_init ran).sequential

theorem raced_counters : (racedStore.store.lookup "s").isSome ∧
    ∀ entry, racedStore.store.lookup "s" = some entry →
      (entry.epoch, entry.compactions) = tally "s" racedStore.log :=
  ⟨by decide +kernel, (counters_tell_the_log racingTurns_run).1 "s"⟩

/-- All turns of a session grew out of one another. -/
def AppendOnly (session : String) (labels : List EpochLabel) : Prop :=
  ∀ caller other req next, .start caller session req ∈ labels → .start other session next ∈ labels →
    Extends req next ∨ Extends next req

/-- A session whose history only grew is never told to have rewritten it, in whatever order its
turns overtake one another and whatever else is observed or evicted meanwhile. -/
theorem append_only_never_rewritten {session : String}
    (ran : observe.machine.run freshStore labels = some world)
    (grows : AppendOnly session labels) :
    ∀ observed ∈ world.log, observed.key = session →
      observed.output.event ≠ some .rewritten ∧ observed.output.epoch = 0 := by
  have linear := Optimistic.run_linear Optimistic.linear_init ran
  have started : ∀ observed ∈ world.log, observed.key = session →
      Optimistic.Label.start observed.caller session observed.input ∈ labels := by
    intro observed member own
    obtain ⟨phase, held⟩ | there := Optimistic.run_started ran (linear.caller_done member)
    · cases held
    · exact own ▸ there
  apply (sequential_append linear.sequential _).2
  intro first here second there own same
  exact grows _ _ _ _ (started first here own) (started second there same)

theorem spokenTurn_extends {short long : List String} (grown : short <+: long) :
    Extends (spokenTurn short) (spokenTurn long) where
  system := rfl
  tools := rfl
  messages := grown.map _

theorem racing_turns_append : AppendOnly "s" racingTurns := by
  have spoken : ∀ caller req, Optimistic.Label.start caller "s" req ∈ racingTurns →
      ∃ texts, req = spokenTurn texts ∧ texts <+: ["a", "b", "c", "d"] := by
    intro caller req started
    simp only [racingTurns, List.mem_cons, Optimistic.Label.start.injEq, reduceCtorEq,
      List.not_mem_nil, or_false, false_or] at started
    obtain ⟨-, -, rfl⟩ | ⟨-, -, rfl⟩ | ⟨-, -, rfl⟩ := started
    · exact ⟨_, rfl, ["c", "d"], rfl⟩
    · exact ⟨_, rfl, ["d"], rfl⟩
    · exact ⟨_, rfl, [], rfl⟩
  intro caller other req next here there
  obtain ⟨texts, rfl, short⟩ := spoken caller req here
  obtain ⟨others, rfl, long⟩ := spoken other next there
  obtain grown | grown := List.prefix_or_prefix_of_prefix short long
  · exact Or.inl (spokenTurn_extends grown)
  · exact Or.inr (spokenTurn_extends grown)

theorem raced_never_rewritten : racedStore.log.length = 3 ∧
    ∀ observed ∈ racedStore.log, observed.key = "s" →
      observed.output.event ≠ some .rewritten ∧ observed.output.epoch = 0 :=
  ⟨by decide +kernel, append_only_never_rewritten racingTurns_run racing_turns_append⟩

/-- From its start on an observation goes round again at most once for every observation of
another caller that completes: between two completions no caller is sent back twice. -/
theorem observations_lock_free (caller : Nat) {before : EpochWorld}
    (unstarted : before.calls.lookup caller = none)
    (ran : observe.machine.run before labels = some world) :
    observe.retries caller before labels +
        (before.log.filter fun observed => observed.caller ≠ caller).length ≤
      (world.log.filter fun observed => observed.caller ≠ caller).length := by
  have paid := @Optimistic.retries_paid _ _ _ _ _ _ observe _ before world caller labels ran
  have fresh : Optimistic.overtaken observe before caller = false := by
    unfold Optimistic.overtaken
    rw [unstarted]
  rw [fresh, Bool.toNat_false] at paid
  exact paid

/-- The session as its second caller finds it. -/
def openedStore : EpochWorld :=
  (observe.machine.run freshStore (racingTurns.take 2)).getD freshStore

theorem raced_retries : observe.retries 1 openedStore (racingTurns.drop 2) = 1 ∧
    openedStore.log.length = 1 ∧ racedStore.log.length = 3 ∧
    observe.retries 1 openedStore (racingTurns.drop 2) +
        (openedStore.log.filter fun observed => observed.caller ≠ 1).length ≤
      (racedStore.log.filter fun observed => observed.caller ≠ 1).length := by
  have onward : observe.machine.run openedStore (racingTurns.drop 2) = some racedStore := by
    have ran : observe.machine.run freshStore (racingTurns.take 2 ++ racingTurns.drop 2) =
        some racedStore := racingTurns_run
    obtain ⟨middle, opened, onward⟩ := observe.machine.run_append_eq_some.mp ran
    have same : openedStore = middle := by
      rw [openedStore, opened]
      rfl
    exact same ▸ onward
  exact ⟨by decide +kernel, by decide +kernel, by decide +kernel,
    observations_lock_free 1 (by decide +kernel) onward⟩

end Detector

end Routectl.Trim
