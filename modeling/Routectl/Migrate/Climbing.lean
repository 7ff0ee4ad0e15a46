import Routectl.Migrate.Relocation
import Routectl.Migrate.Verdicts

/-! Which documents each rung takes, what it makes of them, and where the whole ladder comes
to rest. -/
namespace Routectl.Migrate
open Library Toml
open Routectl.Dispatch (BodyReader)

section Planning
variable {doc : Entries} {move : SeatPoolMove} {moves : List SeatPoolMove}

/-- A document of distinct provider names, as a table of a TOML document has them. -/
def DistinctProviders (doc : Entries) : Prop :=
  (((tableAt "providers" doc).getD []).map Prod.fst).Nodup

theorem entryAt_iff_mem (distinct : DistinctProviders doc) {name : String} {item : Toml} :
    entryAt "providers" name doc = some item ↔
      (name, item) ∈ (tableAt "providers" doc).getD [] := by
  unfold entryAt
  unfold DistinctProviders at distinct
  cases held : tableAt "providers" doc with
  | none => simp
  | some entries =>
    rw [held, Option.getD_some] at distinct
    rw [Option.bind_some, Option.getD_some]
    constructor
    · intro found
      obtain ⟨before, after, rfl, -⟩ := List.lookup_eq_some_iff.mp found
      simp
    · exact lookup_of_mem distinct

theorem mem_withSeatSelection_iff (distinct : DistinctProviders doc) {name : String} :
    name ∈ providerEntriesWithSeatSelection doc ↔
      ∃ item, entryAt "providers" name doc = some item ∧ hasKnob item = true := by
  unfold providerEntriesWithSeatSelection
  constructor
  · intro member
    obtain ⟨entry, kept, rfl⟩ := List.mem_map.mp member
    obtain ⟨there, knob⟩ := List.mem_filter.mp kept
    obtain ⟨item, held, tabled⟩ := mem_tableEntries.mp there
    refine ⟨item, (entryAt_iff_mem distinct).mpr held, ?_⟩
    rw [hasKnob, tabled]
    exact knob
  · intro found
    obtain ⟨item, held, knob⟩ := found
    cases tabled : item.asTableLike with
    | none => simp [hasKnob, tabled] at knob
    | some table =>
      rw [hasKnob, tabled] at knob
      refine List.mem_map.mpr ⟨(name, table), List.mem_filter.mpr ⟨?_, knob⟩, rfl⟩
      exact mem_tableEntries.mpr ⟨item, (entryAt_iff_mem distinct).mp held, tabled⟩

theorem withSeatSelection_nodup (distinct : DistinctProviders doc) :
    (providerEntriesWithSeatSelection doc).Nodup := by
  refine distinct.sublist ?_
  unfold providerEntriesWithSeatSelection tableEntries
  refine (List.filter_sublist.map Prod.fst).trans ?_
  induction (tableAt "providers" doc).getD [] with
  | nil => exact List.Sublist.slnil
  | cons entry rest ih =>
    rw [List.filterMap_cons]
    cases entry.2.asTableLike with
    | none => exact ih.cons entry.1
    | some table => exact ih.cons_cons entry.1

theorem planned_iff_derivable {name : String} {item : Toml}
    (held : entryAt "providers" name doc = some item) :
    (∃ move, planSeatPoolMove doc name = .ok move) ↔
      ∃ family, familyOf item = some family ∧ Derivable doc name family := by
  constructor
  · intro made
    obtain ⟨move, made⟩ := made
    obtain ⟨rfl, planned⟩ := planSeatPoolMove_ok_iff.mp made
    obtain ⟨other, table, there, tabled, referred⟩ := planned.held
    rw [held] at there
    cases there
    refine ⟨move.pool, by rw [familyOf, tabled, Option.bind_some, referred], planned.usable,
      planned.unpooled, planned.unnicked, ?_⟩
    obtain ⟨same, -, free⟩ | ⟨different, -, free⟩ := planned.renames
    · rw [if_pos same]
      exact free
    · rw [if_neg different]
      exact free
  · intro derived
    obtain ⟨family, named, derivable⟩ := derived
    cases tabled : item.asTableLike with
    | none => simp [familyOf, tabled] at named
    | some table =>
      rw [familyOf, tabled, Option.bind_some] at named
      have unheld := derivable.unheld
      refine ⟨⟨name, if name = family then some (defaultName family) else none, family, []⟩,
        planSeatPoolMove_ok_iff.mpr ⟨rfl, ⟨item, table, held, tabled, named⟩, derivable.usable, ?_,
          derivable.unpooled, derivable.unnicked, rfl⟩⟩
      by_cases same : name = family
      · rw [if_pos same] at unheld ⊢
        exact .inl ⟨same, rfl, unheld⟩
      · rw [if_neg same] at unheld ⊢
        exact .inr ⟨same, rfl, unheld⟩

theorem colliding_eq_nil_iff :
    collidingPoolDerivations moves = [] ↔ (moves.map SeatPoolMove.pool).Nodup := by
  have counted : ∀ pool, ((moves.filter fun move => move.pool = pool).map
      SeatPoolMove.entry).length = (moves.map SeatPoolMove.pool).count pool := by
    intro pool
    rw [List.length_map, List.count, List.countP_map, ← List.countP_eq_length_filter]
    refine List.countP_congr fun move _ => ?_
    simp
  unfold collidingPoolDerivations
  rw [List.filterMap_eq_nil_iff, List.nodup_iff_count_le_one]
  constructor
  · intro none pool
    by_cases member : pool ∈ moves.map SeatPoolMove.pool
    · have quiet := none pool (List.mem_dedup.mpr (List.mem_insertionSort (· ≤ ·) |>.mpr member))
      dsimp only at quiet
      rw [counted] at quiet
      by_contra many
      rw [if_pos (by omega)] at quiet
      cases quiet
    · rw [List.count_eq_zero_of_not_mem member]
      omega
  · intro single pool _
    dsimp only
    rw [counted, if_neg (by have := single pool; omega)]

theorem no_problem_iff {planned : List (Except String SeatPoolMove)} :
    planned.filterMap planProblem = [] ↔ planned = (planned.filterMap plannedMove).map .ok := by
  induction planned with
  | nil => exact iff_of_true rfl rfl
  | cons head rest ih =>
    cases head with
    | error problem =>
      refine iff_of_false (by simp [planProblem]) fun same => ?_
      have none : plannedMove (.error problem) = none := rfl
      rw [List.filterMap_cons, none] at same
      have longer := congrArg List.length same
      simp only [List.length_cons, List.length_map] at longer
      have bounded := List.length_filterMap_le plannedMove rest
      omega
    | ok move =>
      have some : plannedMove (.ok move) = some move := rfl
      have quiet : planProblem (.ok move) = none := rfl
      rw [List.filterMap_cons, List.filterMap_cons, some, quiet, List.map_cons, ih]
      simp

theorem migrateV3ToV4_ok_iff {step : StepOutcome} {after : Entries} :
    migrateV3ToV4 doc = .ok (step, after) ↔
      ∃ moves : List SeatPoolMove,
        (providerEntriesWithSeatSelection doc).map (planSeatPoolMove doc) = moves.map .ok ∧ (moves.map SeatPoolMove.pool).Nodup ∧ step = ⟨3, 4⟩ ∧
        after = setVersion 4 (moves.foldl applySeatPoolMove doc) := by
  unfold migrateV3ToV4
  dsimp only
  generalize (providerEntriesWithSeatSelection doc).map (planSeatPoolMove doc) = planned
  by_cases quiet : planned.filterMap planProblem = [] ∧
      collidingPoolDerivations (planned.filterMap plannedMove) = []
  · have same := no_problem_iff.mp quiet.1
    rw [quiet.1, quiet.2, List.append_nil, List.isEmpty_nil, if_pos rfl]
    constructor
    · intro made
      cases made
      exact ⟨_, same, colliding_eq_nil_iff.mp quiet.2, rfl, rfl⟩
    · intro found
      obtain ⟨moves, planned_eq, -, rfl, rfl⟩ := found
      have moves_eq : planned.filterMap plannedMove = moves := by
        rw [planned_eq, List.filterMap_map]
        exact List.filterMap_some
      rw [moves_eq]
  · have loud : ¬(planned.filterMap planProblem ++
        collidingPoolDerivations (planned.filterMap plannedMove)).isEmpty = true := by
      rw [List.isEmpty_iff, List.append_eq_nil_iff]
      exact quiet
    rw [if_neg loud]
    refine iff_of_false (fun same => by cases same) fun found => quiet ?_
    obtain ⟨moves, planned_eq, apart, -, -⟩ := found
    have moves_eq : planned.filterMap plannedMove = moves := by
      rw [planned_eq, List.filterMap_map]
      exact List.filterMap_some
    exact ⟨no_problem_iff.mpr (by rw [moves_eq, planned_eq]),
      by rw [moves_eq]; exact colliding_eq_nil_iff.mpr apart⟩

/-- The moves of a document, one for each entry with a knob. -/
structure MovesOf (doc : Entries) (moves : List SeatPoolMove) : Prop where
  planned : ∀ move ∈ moves, Planned doc move
  apart : (moves.map SeatPoolMove.pool).Nodup
  knobs : ∀ name, name ∈ moves.map SeatPoolMove.entry ↔
    ∃ item, entryAt "providers" name doc = some item ∧ hasKnob item = true

theorem visited_of_planned {names : List String}
    (planned : names.map (planSeatPoolMove doc) = moves.map .ok) :
    List.Forall₂ (fun name move => planSeatPoolMove doc name = .ok move) names moves := by
  have equal : List.Forall₂ Eq (names.map (planSeatPoolMove doc)) (moves.map .ok) := by
    rw [List.forall₂_eq_eq_eq]
    exact planned
  exact List.forall₂_map_right_iff.mp (List.forall₂_map_left_iff.mp equal)

theorem planned_of_visited {names : List String}
    (visited : List.Forall₂ (fun name move => planSeatPoolMove doc name = .ok move) names moves) :
    moves.map SeatPoolMove.entry = names ∧ ∀ move ∈ moves, Planned doc move := by
  induction visited with
  | nil => exact ⟨rfl, fun _ member => absurd member List.not_mem_nil⟩
  | cons made _ ih =>
    obtain ⟨rfl, planned⟩ := planSeatPoolMove_ok_iff.mp made
    exact ⟨by rw [List.map_cons, ih.1], List.forall_mem_cons.mpr ⟨planned, ih.2⟩⟩

theorem movesOf_of_ok (distinct : DistinctProviders doc)
    (planned : (providerEntriesWithSeatSelection doc).map (planSeatPoolMove doc) =
      moves.map .ok) (apart : (moves.map SeatPoolMove.pool).Nodup) : MovesOf doc moves := by
  obtain ⟨names, each⟩ := planned_of_visited (visited_of_planned planned)
  refine ⟨each, apart, ?_⟩
  intro name
  rw [names]
  exact mem_withSeatSelection_iff distinct

theorem MovesOf.find_entry (movesOf : MovesOf doc moves) {name : String} {item : Toml}
    (held : entryAt "providers" name doc = some item) (knob : hasKnob item = true) :
    ∃ move ∈ moves, move.entry = name ∧ familyOf item = some move.pool := by
  obtain ⟨move, member, same⟩ := List.mem_map.mp ((movesOf.knobs name).mpr ⟨item, held, knob⟩)
  refine ⟨move, member, same, ?_⟩
  obtain ⟨other, table, there, tabled, referred⟩ := (movesOf.planned move member).held
  rw [same, held] at there
  cases there
  rw [familyOf, tabled, Option.bind_some, referred]

theorem pools_injective (apart : (moves.map SeatPoolMove.pool).Nodup) {other : SeatPoolMove}
    (member : move ∈ moves) (second : other ∈ moves) (same : move.pool = other.pool) :
    move = other :=
  List.inj_on_of_nodup_map apart member second same

theorem find_pool (apart : (moves.map SeatPoolMove.pool).Nodup) (member : move ∈ moves) :
    (moves.find? fun other => other.pool = move.pool) = some move := by
  cases found : moves.find? fun other => other.pool = move.pool with
  | none =>
    rw [List.find?_eq_none] at found
    exact absurd (by simp) (found move member)
  | some other =>
    have same : other.pool = move.pool := by simpa using List.find?_some found
    rw [pools_injective apart (List.mem_of_find?_eq_some found) member same]

theorem find_entry_eq (movesOf : MovesOf doc moves) (member : move ∈ moves) :
    renamed moves move.entry = move.memberName := by
  unfold renamed
  cases found : moves.find? fun other => other.entry = move.entry with
  | none =>
    rw [List.find?_eq_none] at found
    exact absurd (by simp) (found move member)
  | some other =>
    have same : other.entry = move.entry := by simpa using List.find?_some found
    have there := List.mem_of_find?_eq_some found
    have pooled := (movesOf.planned other there).pool_eq (movesOf.planned move member) same
    rw [pools_injective movesOf.apart there member pooled]
    rfl

theorem withoutKnob_of_no_knob {item : Toml} (none : hasKnob item = false) :
    withoutKnob item = item := by
  have kept : ∀ entries : Entries, hasKey seatSelectionKey entries = false →
      removeKey seatSelectionKey entries = entries := by
    intro entries absent
    unfold removeKey
    rw [List.filter_eq_self]
    intro entry member
    rw [decide_eq_true_eq]
    intro same
    unfold hasKey at absent
    rw [Option.isSome_eq_false_iff, Option.isNone_iff_eq_none, List.lookup_eq_none_iff] at absent
    have differs := absent entry member
    rw [same, bne_self_eq_false] at differs
    cases differs
  cases item with
  | table entries => exact congrArg Toml.table (kept entries none)
  | inlineTable entries => exact congrArg Toml.inlineTable (kept entries none)
  | _ => rfl

theorem relocated_of_moves (movesOf : MovesOf doc moves) (readable : Readable "pools" doc) :
    Relocated doc (setVersion 4 (moves.foldl applySeatPoolMove doc)) (renamed moves) := by
  have moved : Moved doc ([] ++ moves) (moves.foldl applySeatPoolMove doc) :=
    (Moved.start readable).run movesOf.planned movesOf.apart
  rw [List.nil_append] at moved
  have cases_ := renamed_cases movesOf.planned
  have same : ∀ key, key ≠ "version" → (setVersion 4 (moves.foldl applySeatPoolMove doc)).lookup
      key = (moves.foldl applySeatPoolMove doc).lookup key := by
    intro key other
    rw [setVersion, lookup_setKey, if_neg other]
  have providers := entryAt_congr (same "providers" (by decide))
  have models := entryAt_congr (same "models" (by decide))
  have pools := entryAt_congr (same "pools" (by decide))
  refine ⟨?_, ?_, ?_, ?_, ?_, ?_, ?_, ?_, ?_⟩
  · intro name item held
    rw [providers, moved.entries name item held]
    by_cases member : name ∈ moves.map SeatPoolMove.entry
    · rw [if_pos member]
    · rw [if_neg member, withoutKnob_of_no_knob]
      rw [← Bool.not_eq_true]
      exact fun knob => member ((movesOf.knobs name).mpr ⟨item, held, knob⟩)
  · intro name other first second equal
    obtain kept | ⟨move, member, called, stands, free⟩ := cases_ name
    · obtain stays | ⟨move, member, called, stands, free⟩ := cases_ other
      · rw [← kept, equal, stays]
      · rw [← equal, kept] at free
        rw [free] at first
        cases first
    · obtain stays | ⟨move', member', called', stands', free'⟩ := cases_ other
      · rw [equal, stays] at free
        rw [free] at second
        cases second
      · have pooled := defaultName_injective (stands.symm.trans (equal.trans stands'))
        rw [← called, ← called', pools_injective movesOf.apart member member' pooled]
  · intro name there
    rw [providers] at there
    exact moved.onto name there
  · intro name differs
    obtain kept | ⟨move, member, called, stands, free⟩ := cases_ name
    · exact absurd kept differs
    · obtain ⟨item, held, knob⟩ := (movesOf.knobs name).mp
        (called ▸ List.mem_map_of_mem member)
      obtain ⟨other, there, named, pooled⟩ := movesOf.find_entry held knob
      have one := (movesOf.planned other there).pool_eq (movesOf.planned move member)
        (named.trans called.symm)
      have itself : move.entry = move.pool := by
        obtain ⟨itself, -, -⟩ | ⟨-, none, -⟩ := (movesOf.planned move member).renames
        · exact itself
        · have stays := find_entry_eq movesOf member
          rw [SeatPoolMove.memberName, none, Option.getD_none, called] at stays
          exact absurd stays differs
      refine ⟨item, held, knob, ?_, ?_⟩
      · rw [pooled, one, ← itself, called]
      · rw [stands, ← itself, called]
  · intro nick
    rw [models]
    exact moved.models nick
  · intro name item held knob
    obtain ⟨move, member, rfl, named⟩ := movesOf.find_entry held knob
    refine ⟨move.pool, named, (movesOf.planned move member).unpooled, ?_⟩
    rw [pools, moved.pools, find_pool movesOf.apart member, find_entry_eq movesOf member]
    dsimp only
    rw [held, Option.bind_some]
  · intro pool
    rw [pools, moved.pools]
    cases found : moves.find? fun move => move.pool = pool with
    | none => exact .inl rfl
    | some move =>
      have member := List.mem_of_find?_eq_some found
      have called : move.pool = pool := by simpa using List.find?_some found
      obtain ⟨item, held, knob⟩ := (movesOf.knobs move.entry).mp (List.mem_map_of_mem member)
      obtain ⟨other, there, named, pooled⟩ := movesOf.find_entry held knob
      have one := (movesOf.planned other there).pool_eq (movesOf.planned move member) named
      exact .inr ⟨move.entry, item, held, knob, by rw [pooled, one, called]⟩
  · rw [setVersion, lookup_setKey, if_pos rfl]
    rfl
  · intro key notProviders notModels notPools notVersion
    rw [same key notVersion, moved.rest key notProviders notModels notPools]

theorem taken_moves (distinct : DistinctProviders doc) {step : StepOutcome} {after : Entries}
    (made : migrateV3ToV4 doc = .ok (step, after)) :
    ∃ moves, MovesOf doc moves ∧ step = ⟨3, 4⟩ ∧
      after = setVersion 4 (moves.foldl applySeatPoolMove doc) := by
  obtain ⟨moves, planned, apart, rfl, rfl⟩ := migrateV3ToV4_ok_iff.mp made
  exact ⟨moves, movesOf_of_ok distinct planned apart, rfl, rfl⟩

/-- The rung to version 4 takes just the documents whose knobs have somewhere to go. -/
theorem taken_iff_relocatable (distinct : DistinctProviders doc) :
    (∃ made, migrateV3ToV4 doc = .ok made) ↔ Relocatable doc := by
  constructor
  · intro made
    obtain ⟨⟨step, after⟩, made⟩ := made
    obtain ⟨moves, movesOf, -, -⟩ := taken_moves distinct made
    refine ⟨?_, ?_⟩
    · intro name item held knob
      obtain ⟨move, member, rfl, -⟩ := movesOf.find_entry held knob
      exact (planned_iff_derivable held).mp
        ⟨move, planSeatPoolMove_ok_iff.mpr ⟨rfl, movesOf.planned move member⟩⟩
    · intro name other item second held there knob further same
      obtain ⟨move, member, rfl, named⟩ := movesOf.find_entry held knob
      obtain ⟨move', member', rfl, named'⟩ := movesOf.find_entry there further
      rw [named, named'] at same
      rw [pools_injective movesOf.apart member member' (Option.some.inj same)]
  · intro relocatable
    have each : ∀ name ∈ providerEntriesWithSeatSelection doc,
        ∃ move, planSeatPoolMove doc name = .ok move := by
      intro name member
      obtain ⟨item, held, knob⟩ := (mem_withSeatSelection_iff distinct).mp member
      exact (planned_iff_derivable held).mpr (relocatable.derivable name item held knob)
    have quiet : ((providerEntriesWithSeatSelection doc).map (planSeatPoolMove doc)).filterMap
        planProblem = [] := by
      rw [List.filterMap_eq_nil_iff, List.forall_mem_map]
      intro name member
      obtain ⟨move, planned⟩ := each name member
      rw [planned]
      rfl
    have planned := no_problem_iff.mp quiet
    obtain ⟨names, found⟩ := planned_of_visited (visited_of_planned planned)
    have apart : ((((providerEntriesWithSeatSelection doc).map (planSeatPoolMove doc)).filterMap
        plannedMove).map SeatPoolMove.pool).Nodup := by
      have entries := names ▸ withSeatSelection_nodup distinct
      refine List.Nodup.map_on ?_ entries.of_map
      intro move member other second same
      refine List.inj_on_of_nodup_map entries member second ?_
      obtain ⟨item, table, held, tabled, referred⟩ := (found move member).held
      obtain ⟨item', table', held', tabled', referred'⟩ := (found other second).held
      have knobs : ∀ third ∈ ((providerEntriesWithSeatSelection doc).map
          (planSeatPoolMove doc)).filterMap plannedMove, ∃ item,
          entryAt "providers" third.entry doc = some item ∧ hasKnob item = true :=
        fun third there => (mem_withSeatSelection_iff distinct).mp
          (names ▸ List.mem_map_of_mem there)
      obtain ⟨first, here, knob⟩ := knobs move member
      obtain ⟨last, there, further⟩ := knobs other second
      rw [held] at here
      rw [held'] at there
      cases here
      cases there
      refine relocatable.apart _ _ item item' held held' knob further ?_
      rw [familyOf, familyOf, tabled, tabled', Option.bind_some, Option.bind_some, referred,
        referred', same]
    exact ⟨_, migrateV3ToV4_ok_iff.mpr ⟨_, planned, apart, rfl, rfl⟩⟩

theorem relocated_of_taken (distinct : DistinctProviders doc) (readable : Readable "pools" doc)
    {step : StepOutcome} {after : Entries} (made : migrateV3ToV4 doc = .ok (step, after)) :
    step = ⟨3, 4⟩ ∧ ∃ rename, Relocated doc after rename := by
  obtain ⟨moves, movesOf, same, rfl⟩ := taken_moves distinct made
  exact ⟨same, renamed moves, relocated_of_moves movesOf readable⟩

/-- The rung to version 4 takes just the documents whose knobs have somewhere to go, and its
moves, made one after another, are one renaming with every knob on a pool of its own. -/
theorem seat_selections_relocate (distinct : DistinctProviders doc)
    (readable : Readable "pools" doc) :
    ((∃ made, migrateV3ToV4 doc = .ok made) ↔ Relocatable doc) ∧
      ∀ step after, migrateV3ToV4 doc = .ok (step, after) →
        step = ⟨3, 4⟩ ∧ ∃ rename, Relocated doc after rename :=
  ⟨taken_iff_relocatable distinct, fun _ _ made => relocated_of_taken distinct readable made⟩

/-- An entry called like its family, its knob, and a model behind it. -/
def knobbedDocument : Entries :=
  [("version", .integer 2), ("retry", .table [("retry_allowlist", .array [])]),
    ("providers", .table [("anthropic", .table [("api_key_ref", .string "oauth://anthropic"),
      ("seat_selection", .string "round-robin")])]),
    ("models", .table [("opus", .table [("provider", .string "anthropic")])])]

theorem knobbed_distinct : DistinctProviders knobbedDocument := by
  unfold DistinctProviders
  decide

theorem knobbed_readable : Readable "pools" knobbedDocument := by
  intro item held
  have none : knobbedDocument.lookup "pools" = none := rfl
  rw [none] at held
  cases held

theorem knobbed_document_relocates : Relocatable knobbedDocument ∧
    ∃ after rename, migrateV3ToV4 knobbedDocument = .ok (⟨3, 4⟩, after) ∧
      Relocated knobbedDocument after rename := by
  obtain ⟨taken, moved⟩ := seat_selections_relocate knobbed_distinct knobbed_readable
  obtain ⟨after, made⟩ : ∃ after, migrateV3ToV4 knobbedDocument = .ok (⟨3, 4⟩, after) := ⟨_, rfl⟩
  obtain ⟨-, rename, relocated⟩ := moved _ after made
  exact ⟨taken.mp ⟨_, made⟩, after, rename, made, relocated⟩

end Planning

/-! ### The retry lists -/

section Retry
variable {display : Toml → String} {reader : BodyReader}
variable {doc : Entries} {key : String}

/-- A list that says nothing: absent, empty, or no array. -/
def Idle (key : String) (doc : Entries) : Prop :=
  ∀ items, (entryAt "retry" key doc).bind asArray = some items → items = []

def IdleLists (doc : Entries) : Prop := Idle "retry_allowlist" doc ∧ Idle "retry_denylist" doc

theorem retryList_eq : retryList display doc key =
    match (entryAt "retry" key doc).bind asArray with
    | none => .ok none
    | some items =>
      if (items.filter fun entry => (asStatus entry).isNone) = []
      then .ok (some (items.filterMap asStatus))
      else .error ((items.filter fun entry => (asStatus entry).isNone).map (renderEntry display)) := by
  unfold retryList entryAt
  cases tableAt "retry" doc with
  | none => rfl
  | some retry =>
    simp only [Option.bind_some, readStatusList]
    cases (retry.lookup key).bind asArray with
    | none => rfl
    | some items => simp only [List.isEmpty_iff, List.map_eq_nil_iff]

theorem idle_iff : Idle key doc ↔ malformedEntries (retryList display doc key) = [] ∧
    statusCodes (retryList display doc key) = [] := by
  rw [retryList_eq]
  unfold Idle
  cases (entryAt "retry" key doc).bind asArray with
  | none => simp [malformedEntries, statusCodes]
  | some items =>
    dsimp only
    by_cases sound : (items.filter fun entry => (asStatus entry).isNone) = []
    · rw [if_pos sound]
      have all : ∀ entry ∈ items, ∃ status, asStatus entry = some status := by
        intro entry member
        have read := List.filter_eq_nil_iff.mp sound entry member
        rw [Option.isNone_iff_eq_none] at read
        exact Option.ne_none_iff_exists'.mp read
      constructor
      · intro idle
        rw [idle items rfl]
        exact ⟨rfl, rfl⟩
      · intro both listed same
        cases same
        have empty : items.filterMap asStatus = [] := both.2
        rw [List.filterMap_eq_nil_iff] at empty
        rw [List.eq_nil_iff_forall_not_mem]
        intro entry member
        obtain ⟨status, read⟩ := all entry member
        rw [empty entry member] at read
        cases read
    · rw [if_neg sound]
      refine iff_of_false (fun idle => sound ?_) fun both => sound ?_
      · rw [idle items rfl]
        rfl
      · exact List.map_eq_nil_iff.mp both.1

def withoutRetryLists (doc : Entries) : Entries :=
  setVersion 3 (withinTable "retry" (fun retry =>
    removeKey "retry_denylist" (removeKey "retry_allowlist" retry)) doc)

theorem migrateV2ToV3_ok_iff {made : StepOutcome × Entries} :
    migrateV2ToV3 display reader doc = .ok made ↔
      (Idle "retry_allowlist" doc ∧ Idle "retry_denylist" doc) ∧
        made = (⟨2, 3⟩, withoutRetryLists doc) := by
  rw [@idle_iff display doc, @idle_iff display doc]
  unfold migrateV2ToV3
  dsimp only
  generalize retryList display doc "retry_allowlist" = allow
  generalize retryList display doc "retry_denylist" = deny
  by_cases allowBad : malformedEntries allow = []
  · by_cases denyBad : malformedEntries deny = []
    · rw [allowBad, denyBad]
      rw [if_neg (by simp)]
      by_cases allowed : statusCodes allow = []
      · by_cases denied : statusCodes deny = []
        · rw [allowed, denied, if_neg (by simp)]
          constructor
          · intro same
            cases same
            exact ⟨⟨⟨rfl, rfl⟩, rfl, rfl⟩, rfl⟩
          · intro both
            rw [both.2]
            rfl
        · rw [if_pos (by simp [denied])]
          exact iff_of_false (fun same => by cases same) fun both => denied both.1.2.2
      · rw [if_pos (by simp [allowed])]
        exact iff_of_false (fun same => by cases same) fun both => allowed both.1.1.2
    · rw [if_pos (by simp [denyBad])]
      exact iff_of_false (fun same => by cases same) fun both => denyBad both.1.2.1
  · rw [if_pos (by simp [allowBad])]
    exact iff_of_false (fun same => by cases same) fun both => allowBad both.1.1.1

end Retry

/-! ### The ladder as a whole -/

section Ladder
variable {display : Toml → String} {reader : BodyReader}
variable {doc other : Entries} {rawVersion : Nat}

def firstStep (rawVersion : Nat) (doc : Entries) : Entries :=
  if rawVersion ≤ 1 then applyV1ToV2Doc doc else doc

/-- The document the rung to version 4 is given. -/
def retired (rawVersion : Nat) (doc : Entries) : Entries :=
  if rawVersion ≤ 2 then withoutRetryLists (firstStep rawVersion doc) else doc

theorem lookup_firstStep {key : String} (notVersion : key ≠ "version")
    (notPricing : key ≠ "cache_pricing") :
    (firstStep rawVersion doc).lookup key = doc.lookup key := by
  unfold firstStep
  by_cases legacy : rawVersion ≤ 1
  · rw [if_pos legacy, applyV1ToV2Doc, lookup_removeKey, if_neg notPricing, setVersion,
      lookup_setKey, if_neg notVersion]
  · rw [if_neg legacy]

theorem lookup_retired {key : String} (notVersion : key ≠ "version")
    (notPricing : key ≠ "cache_pricing") (notRetry : key ≠ "retry") :
    (retired rawVersion doc).lookup key = doc.lookup key := by
  unfold retired
  by_cases lists : rawVersion ≤ 2
  · rw [if_pos lists, withoutRetryLists, setVersion, lookup_setKey, if_neg notVersion,
      lookup_withinTable_ne notRetry, lookup_firstStep notVersion notPricing]
  · rw [if_neg lists]

theorem idle_firstStep {key : String} : Idle key (firstStep rawVersion doc) ↔ Idle key doc := by
  unfold Idle
  rw [entryAt_congr (lookup_firstStep (by decide) (by decide))]

theorem Derivable.congr {name family : String} (derivable : Derivable doc name family)
    (providers : other.lookup "providers" = doc.lookup "providers")
    (models : other.lookup "models" = doc.lookup "models")
    (pools : other.lookup "pools" = doc.lookup "pools") : Derivable other name family where
  usable := derivable.usable
  unpooled := by rw [entryAt_congr pools, derivable.unpooled]
  unnicked := by rw [entryAt_congr models, derivable.unnicked]
  unheld := by rw [entryAt_congr providers, derivable.unheld]

theorem Relocatable.congr (relocatable : Relocatable doc)
    (providers : other.lookup "providers" = doc.lookup "providers")
    (models : other.lookup "models" = doc.lookup "models")
    (pools : other.lookup "pools" = doc.lookup "pools") : Relocatable other where
  derivable := by
    intro name item held knob
    rw [entryAt_congr providers] at held
    obtain ⟨family, named, derivable⟩ := relocatable.derivable name item held knob
    exact ⟨family, named, derivable.congr providers models pools⟩
  apart := by
    intro name next item second held there
    rw [entryAt_congr providers] at held there
    exact relocatable.apart name next item second held there

theorem relocatable_retired : Relocatable (retired rawVersion doc) ↔ Relocatable doc := by
  have providers : (retired rawVersion doc).lookup "providers" = doc.lookup "providers" :=
    lookup_retired (by decide) (by decide) (by decide)
  have models : (retired rawVersion doc).lookup "models" = doc.lookup "models" :=
    lookup_retired (by decide) (by decide) (by decide)
  have pools : (retired rawVersion doc).lookup "pools" = doc.lookup "pools" :=
    lookup_retired (by decide) (by decide) (by decide)
  exact ⟨fun taken => taken.congr providers.symm models.symm pools.symm,
    fun taken => taken.congr providers models pools⟩

theorem distinct_retired (distinct : DistinctProviders doc) :
    DistinctProviders (retired rawVersion doc) := by
  unfold DistinctProviders tableAt at *
  rwa [lookup_retired (by decide) (by decide) (by decide)]

theorem readable_retired (readable : Readable "pools" doc) :
    Readable "pools" (retired rawVersion doc) :=
  readable_congr (lookup_retired (by decide) (by decide) (by decide)) readable

/-- The ladder from its last rung, and from the rung before it. -/
def fromThree (doc : Entries) (steps : List StepOutcome) : Climb :=
  match migrateV3ToV4 doc with
  | .error refusal => ⟨doc, 3, .error refusal⟩
  | .ok made => ⟨made.2, 4, .ok (steps ++ [made.1])⟩

variable (display reader) in
def fromTwo (doc : Entries) (steps : List StepOutcome) : Climb :=
  match migrateV2ToV3 display reader doc with
  | .error refusal => ⟨doc, 2, .error refusal⟩
  | .ok made => fromThree made.2 (steps ++ [made.1])

theorem climb_three (climb : Climb) {steps : List StepOutcome} (begun : climb = ⟨doc, 3, .ok steps⟩)
    (early : rawVersion ≠ latestMigrationVersion) :
    (climb.rung (climb.version = 3) 4 fun doc => oneStep (migrateV3ToV4 doc)).rung
      (rawVersion = latestMigrationVersion) latestMigrationVersion normalizeStep =
      fromThree doc steps := by
  subst begun
  unfold fromThree
  cases made : migrateV3ToV4 doc with
  | error refusal => simp [Climb.rung, oneStep, made, Except.map]
  | ok made' => simp [Climb.rung, oneStep, made, Except.map, early]

theorem climb_two (climb : Climb) {steps : List StepOutcome} (begun : climb = ⟨doc, 2, .ok steps⟩)
    (early : rawVersion ≠ latestMigrationVersion) :
    ((climb.rung (climb.version = 2) 3 fun doc =>
        oneStep (migrateV2ToV3 display reader doc)).rung
      ((climb.rung (climb.version = 2) 3 fun doc =>
        oneStep (migrateV2ToV3 display reader doc)).version = 3) 4
        fun doc => oneStep (migrateV3ToV4 doc)).rung
      (rawVersion = latestMigrationVersion) latestMigrationVersion normalizeStep =
      fromTwo display reader doc steps := by
  cases made : migrateV2ToV3 display reader doc with
  | error refusal =>
    have stopped : (climb.rung (climb.version = 2) 3 fun doc =>
        oneStep (migrateV2ToV3 display reader doc)) = ⟨doc, 2, .error refusal⟩ := by
      subst begun
      simp [Climb.rung, oneStep, made, Except.map]
    rw [stopped, fromTwo, made]
    rfl
  | ok made' =>
    have climbed : (climb.rung (climb.version = 2) 3 fun doc =>
        oneStep (migrateV2ToV3 display reader doc)) =
        ⟨made'.2, 3, .ok (steps ++ [made'.1])⟩ := by
      subst begun
      simp [Climb.rung, oneStep, made, Except.map]
    rw [climb_three _ climbed early, fromTwo, made]

theorem transforms_early (early : rawVersion ≤ 2) :
    applyConfigTransforms display reader doc rawVersion =
      fromTwo display reader (firstStep rawVersion doc)
        (if rawVersion ≤ 1 then [⟨1, 2⟩] else []) := by
  unfold applyConfigTransforms firstStep
  have notLatest : rawVersion ≠ latestMigrationVersion := by
    unfold latestMigrationVersion
    omega
  by_cases legacy : rawVersion ≤ 1
  · rw [if_pos legacy, if_pos legacy]
    exact climb_two _ (by simp [Climb.rung, legacy]) notLatest
  · have second : rawVersion = 2 := by omega
    rw [if_neg legacy, if_neg legacy]
    exact climb_two _ (by simp [Climb.rung, second]) notLatest

theorem transforms_three :
    applyConfigTransforms display reader doc 3 = fromThree doc [] :=
  climb_three _ rfl (by decide)

theorem transforms_latest :
    applyConfigTransforms display reader doc 4 =
      match normalizeCapabilityOverrides doc with
      | .error refusal => ⟨doc, 4, .error refusal⟩
      | .ok made => ⟨made.2, 4, .ok (if made.1 then [⟨4, 4⟩] else [])⟩ := by
  have start : ∀ climb : Climb, climb = ⟨doc, 4, .ok []⟩ →
      climb.rung (4 = latestMigrationVersion) latestMigrationVersion normalizeStep =
        match normalizeCapabilityOverrides doc with
        | .error refusal => ⟨doc, 4, .error refusal⟩
        | .ok made => ⟨made.2, 4, .ok (if made.1 then [⟨4, 4⟩] else [])⟩ := by
    intro climb begun
    subst begun
    cases made : normalizeCapabilityOverrides doc with
    | error refusal => simp [Climb.rung, normalizeStep, made, Except.map, latestMigrationVersion]
    | ok made' => simp [Climb.rung, normalizeStep, made, Except.map, latestMigrationVersion]
  unfold applyConfigTransforms
  dsimp only
  refine start _ ?_
  simp [Climb.rung]

theorem normalize_accepts (served : presentEgressAllowlists doc = []) :
    ∃ made, normalizeCapabilityOverrides doc = .ok made := by
  unfold normalizeCapabilityOverrides
  simp only [served, List.isEmpty_nil, Bool.not_true, Bool.false_eq_true, if_false]
  split
  · exact ⟨_, rfl⟩
  · exact ⟨_, rfl⟩

/-- A document in which nothing stands in the ladder's way. -/
structure Migratable (rawVersion : Nat) (doc : Entries) : Prop where
  idle : rawVersion ≤ 2 → IdleLists doc
  relocatable : rawVersion ≤ 3 → Relocatable doc
  served : rawVersion = 4 → presentEgressAllowlists doc = []

theorem fromThree_ok_iff {steps more : List StepOutcome} (distinct : DistinctProviders doc)
    (readable : Readable "pools" doc) (taken : (fromThree doc steps).outcome = .ok more) :
    more = steps ++ [⟨3, 4⟩] ∧ ∃ rename, Relocated doc (fromThree doc steps).doc rename := by
  unfold fromThree at taken ⊢
  cases made : migrateV3ToV4 doc with
  | error refusal =>
    rw [made] at taken
    cases taken
  | ok made' =>
    rw [made] at taken
    obtain ⟨step, after⟩ := made'
    obtain ⟨rfl, relocated⟩ := relocated_of_taken distinct readable made
    cases taken
    exact ⟨rfl, relocated⟩

theorem refused_not_ok {Made : Type} (refusal : Refusal) :
    ¬∃ made, (.error refusal : Except Refusal Made) = .ok made := by
  intro found
  obtain ⟨made, same⟩ := found
  cases same

theorem fromThree_outcome {steps : List StepOutcome} (distinct : DistinctProviders doc) :
    ((∃ more, (fromThree doc steps).outcome = .ok more) ↔ Relocatable doc) ∧
      ∀ refusal, (fromThree doc steps).outcome = .error refusal →
        (fromThree doc steps).doc = doc := by
  rw [← taken_iff_relocatable distinct]
  unfold fromThree
  cases migrateV3ToV4 doc with
  | error refusal =>
    exact ⟨iff_of_false (refused_not_ok refusal) (refused_not_ok refusal), fun _ _ => rfl⟩
  | ok made => exact ⟨iff_of_true ⟨_, rfl⟩ ⟨_, rfl⟩, fun _ refused => by cases refused⟩

theorem fromTwo_of_idle {steps : List StepOutcome} (allow : Idle "retry_allowlist" doc)
    (deny : Idle "retry_denylist" doc) : fromTwo display reader doc steps =
      fromThree (withoutRetryLists doc) (steps ++ [⟨2, 3⟩]) := by
  unfold fromTwo
  rw [migrateV2ToV3_ok_iff.mpr ⟨⟨allow, deny⟩, rfl⟩]

theorem fromTwo_of_busy {steps : List StepOutcome}
    (busy : ¬(Idle "retry_allowlist" doc ∧ Idle "retry_denylist" doc)) :
    ∃ refusal, fromTwo display reader doc steps = ⟨doc, 2, .error refusal⟩ := by
  unfold fromTwo
  cases made : migrateV2ToV3 display reader doc with
  | error refusal => exact ⟨refusal, rfl⟩
  | ok made' => exact absurd (migrateV2ToV3_ok_iff.mp made).1 busy

/-- The document that a rung which refuses was given: the first edit made, and the retry lists
gone where they were idle. -/
structure LeftAt (rawVersion : Nat) (doc left : Entries) : Prop where
  listed : ¬(rawVersion ≤ 2 ∧ IdleLists doc) → left = firstStep rawVersion doc
  idle : rawVersion ≤ 2 → IdleLists doc → left = retired rawVersion doc

theorem refused_of_listed (early : rawVersion ≤ 2) (listed : ¬IdleLists doc) :
    ∃ refusal, applyConfigTransforms display reader doc rawVersion =
      ⟨firstStep rawVersion doc, 2, .error refusal⟩ := by
  rw [transforms_early early]
  exact fromTwo_of_busy fun both => listed ⟨idle_firstStep.mp both.1, idle_firstStep.mp both.2⟩

/-- The ladder takes just the documents in which no retry list, knob or egress allowlist stands
in its way; one it refuses is left as the refusing rung found it. -/
theorem ladder_takes_iff (bounded : rawVersion ≤ latestMigrationVersion)
    (distinct : DistinctProviders doc) :
    ((∃ steps, (applyConfigTransforms display reader doc rawVersion).outcome = .ok steps) ↔
        Migratable rawVersion doc) ∧
      ∀ refusal, (applyConfigTransforms display reader doc rawVersion).outcome =
          .error refusal →
        LeftAt rawVersion doc (applyConfigTransforms display reader doc rawVersion).doc := by
  unfold latestMigrationVersion at bounded
  by_cases early : rawVersion ≤ 2
  · rw [transforms_early early]
    have migratable : Migratable rawVersion doc ↔ IdleLists doc ∧ Relocatable doc :=
      ⟨fun taken => ⟨taken.idle early, taken.relocatable (by omega)⟩,
        fun both => ⟨fun _ => both.1, fun _ => both.2, fun latest => by omega⟩⟩
    rw [migratable]
    have retired_eq : retired rawVersion doc = withoutRetryLists (firstStep rawVersion doc) :=
      if_pos early
    by_cases idle : IdleLists doc
    · rw [fromTwo_of_idle (idle_firstStep.mpr idle.1) (idle_firstStep.mpr idle.2), ← retired_eq]
      obtain ⟨taken, left⟩ := @fromThree_outcome (retired rawVersion doc)
        ((if rawVersion ≤ 1 then [⟨1, 2⟩] else []) ++ [⟨2, 3⟩]) (distinct_retired distinct)
      rw [taken, relocatable_retired]
      refine ⟨⟨fun relocatable => ⟨idle, relocatable⟩, fun both => both.2⟩, ?_⟩
      intro refusal refused
      exact ⟨fun listed => absurd ⟨early, idle⟩ listed, fun _ _ => left refusal refused⟩
    · obtain ⟨refusal, refused⟩ := @refused_of_listed display reader _ _ early idle
      rw [← transforms_early early, refused]
      exact ⟨iff_of_false (refused_not_ok refusal) fun both => idle both.1,
        fun _ _ => ⟨fun _ => rfl, fun _ lists => absurd lists idle⟩⟩
  · have first : firstStep rawVersion doc = doc := if_neg (by omega)
    by_cases third : rawVersion = 3
    · subst third
      rw [transforms_three]
      obtain ⟨taken, left⟩ := @fromThree_outcome doc [] distinct
      rw [taken]
      refine ⟨⟨fun relocatable => ⟨fun before => by omega, fun _ => relocatable,
        fun latest => by omega⟩, fun migratable => migratable.relocatable (by omega)⟩, ?_⟩
      intro refusal refused
      exact ⟨fun _ => (left refusal refused).trans first.symm, fun before => absurd before early⟩
    · have latest : rawVersion = 4 := by omega
      subst latest
      rw [transforms_latest]
      have migratable : Migratable 4 doc ↔ presentEgressAllowlists doc = [] :=
        ⟨fun taken => taken.served rfl,
          fun served => ⟨fun before => by omega, fun before => by omega, fun _ => served⟩⟩
      rw [migratable]
      cases made : normalizeCapabilityOverrides doc with
      | error refusal =>
        refine ⟨iff_of_false (refused_not_ok refusal) fun served => ?_,
          fun _ _ => ⟨fun _ => first.symm, fun before => absurd before early⟩⟩
        obtain ⟨made', accepted⟩ := normalize_accepts served
        rw [accepted] at made
        cases made
      | ok made' =>
        exact ⟨iff_of_true ⟨_, rfl⟩ (normalize_eq_ok made).1, fun _ refused => by cases refused⟩

theorem knobbed_taken : (applyConfigTransforms (fun _ => "") ⟨fun _ => none, id⟩
    knobbedDocument 2).outcome = .ok [⟨2, 3⟩, ⟨3, 4⟩] := rfl

theorem knobbed_document_migratable : Migratable 2 knobbedDocument :=
  (ladder_takes_iff (by decide) knobbed_distinct).1.mp ⟨_, knobbed_taken⟩

/-- One step a version, from the one the document was written at. -/
def consecutive (rawVersion : Nat) : List StepOutcome :=
  (List.range' (max rawVersion 1) (4 - max rawVersion 1)).map fun version =>
    ⟨version, version + 1⟩

/-- A document that a further run at the latest version leaves as it is, step by step. -/
def Settled (display : Toml → String) (reader : BodyReader)
    (doc : Entries) : Prop :=
  applyConfigTransforms display reader doc latestMigrationVersion = ⟨doc, 4, .ok []⟩

theorem settled_of_normalized {changed : Bool} {normalized : Entries}
    (made : normalizeCapabilityOverrides doc = .ok (changed, normalized)) :
    Settled display reader normalized := by
  have again : normalizeCapabilityOverrides normalized = .ok (false, normalized) := by
    obtain ⟨served, ⟨rfl, rfl, -, -⟩ | rfl⟩ := normalize_eq_ok made
    · exact made
    · exact normalize_rewritten served
  unfold Settled latestMigrationVersion
  rw [transforms_latest, again]
  rfl

/-- What the ladder took stands at the latest version, its knobs relocated, after one step a
version; a further run settles it for good or refuses and leaves it. -/
theorem ladder_settles (bounded : rawVersion ≤ latestMigrationVersion)
    (distinct : DistinctProviders doc) (readable : Readable "pools" doc)
    {steps : List StepOutcome}
    (took : (applyConfigTransforms display reader doc rawVersion).outcome = .ok steps) :
    (rawVersion < 4 → steps = consecutive rawVersion ∧ ∃ rename, Relocated (retired rawVersion doc)
        (applyConfigTransforms display reader doc rawVersion).doc rename) ∧
      (rawVersion = 4 → Settled display reader
        (applyConfigTransforms display reader doc rawVersion).doc) ∧
      (Settled display reader (applyConfigTransforms display reader
          (applyConfigTransforms display reader doc rawVersion).doc 4).doc ∨
        (applyConfigTransforms display reader
          (applyConfigTransforms display reader doc rawVersion).doc 4).doc =
          (applyConfigTransforms display reader doc rawVersion).doc) := by
  have again : ∀ other : Entries,
      Settled display reader (applyConfigTransforms display reader other 4).doc ∨
        (applyConfigTransforms display reader other 4).doc = other := by
    intro other
    rw [transforms_latest]
    cases made : normalizeCapabilityOverrides other with
    | error refusal => exact .inr rfl
    | ok made' => exact .inl (settled_of_normalized made)
  refine ⟨?_, ?_, again _⟩
  · intro before
    by_cases early : rawVersion ≤ 2
    · have idle : IdleLists doc := by
        by_contra listed
        obtain ⟨refusal, refused⟩ := @refused_of_listed display reader _ _ early listed
        rw [refused] at took
        cases took
      obtain ⟨allow, deny⟩ := idle
      have retired_eq : retired rawVersion doc = withoutRetryLists (firstStep rawVersion doc) :=
        if_pos early
      rw [transforms_early early, fromTwo_of_idle (idle_firstStep.mpr allow)
        (idle_firstStep.mpr deny), ← retired_eq] at took ⊢
      obtain ⟨same, relocated⟩ := fromThree_ok_iff (distinct_retired distinct)
        (readable_retired readable) took
      refine ⟨?_, relocated⟩
      rw [same]
      obtain rfl | rfl | rfl : rawVersion = 0 ∨ rawVersion = 1 ∨ rawVersion = 2 := by omega
      all_goals rfl
    · have third : rawVersion = 3 := by omega
      subst third
      rw [transforms_three] at took ⊢
      exact fromThree_ok_iff distinct readable took
  · intro latest
    subst latest
    rw [transforms_latest] at took ⊢
    cases made : normalizeCapabilityOverrides doc with
    | error refusal =>
      rw [made] at took
      cases took
    | ok made' => exact settled_of_normalized made

theorem knobbed_document_settles : [⟨2, 3⟩, ⟨3, 4⟩] = consecutive 2 ∧
    ∃ rename, Relocated (retired 2 knobbedDocument) (applyConfigTransforms (fun _ => "")
      ⟨fun _ => none, id⟩ knobbedDocument 2).doc rename :=
  (ladder_settles (by decide) knobbed_distinct knobbed_readable knobbed_taken).1 (by decide)

end Ladder
end Routectl.Migrate
