import Routectl.Library.Threading
import Routectl.Migrate.Ladder

/-! What the moves of a version-3 document do together: each `seat_selection` onto a pool of its
own, an entry called like its family to a new name, the models behind it. -/
namespace Routectl.Migrate
open Library Toml

/-! ### The references of models -/

def targetOf (item : Toml) : Option String :=
  item.asTableLike.bind fun model => (model.lookup "provider").bind asStr

/-- A model as it was, but for the name of its provider. -/
structure Retargeted (rename : String → String) (item moved : Toml) : Prop where
  target : targetOf moved = (targetOf item).map rename
  rest : ∀ key, key ≠ "provider" →
    moved.asTableLike.map (fun model => model.lookup key) =
      item.asTableLike.map fun model => model.lookup key
  unnamed : targetOf item = none → moved = item

theorem Retargeted.refl (item : Toml) : Retargeted id item item :=
  ⟨by simp, fun _ _ => rfl, fun _ => rfl⟩

theorem Retargeted.trans {rename further : String → String} {item moved last : Toml}
    (first : Retargeted rename item moved) (second : Retargeted further moved last) :
    Retargeted (further ∘ rename) item last where
  target := by rw [second.target, first.target, Option.map_map]
  rest := fun key other => (second.rest key other).trans (first.rest key other)
  unnamed := by
    intro none
    have same := first.unnamed none
    exact (second.unnamed (same ▸ none)).trans same

theorem Retargeted.congr {rename other : String → String} {item moved : Toml}
    (retargeted : Retargeted rename item moved)
    (same : ∀ name, targetOf item = some name → other name = rename name) :
    Retargeted other item moved where
  target := by
    rw [retargeted.target]
    cases named : targetOf item with
    | none => rfl
    | some name => rw [Option.map_some, Option.map_some, same name named]
  rest := retargeted.rest
  unnamed := retargeted.unnamed

def swap (source target name : String) : String := if name = source then target else name

def repointModel (source target : String) (model : Entries) : Entries :=
  if (model.lookup "provider").bind asStr = some source
  then setKey "provider" (.string target) model else model

theorem retargeted_repointModel (source target : String) (item : Toml) :
    Retargeted (swap source target) item (modifyTable (repointModel source target) item) := by
  cases held : item.asTableLike with
  | none =>
    have same : modifyTable (repointModel source target) item = item := by
      cases item with
      | table entries => cases held
      | inlineTable entries => cases held
      | _ => rfl
    rw [same]
    refine ⟨?_, fun _ _ => rfl, fun _ => rfl⟩
    simp [targetOf, held]
  | some model =>
    have moved : (modifyTable (repointModel source target) item).asTableLike =
        some (repointModel source target model) := by
      rw [asTableLike_modifyTable, held, Option.map_some]
    have named : targetOf item = (model.lookup "provider").bind asStr := by
      rw [targetOf, held, Option.bind_some]
    by_cases hit : (model.lookup "provider").bind asStr = some source
    · refine ⟨?_, ?_, ?_⟩
      · rw [named, hit, targetOf, moved, Option.bind_some, repointModel, if_pos hit, lookup_setKey,
          if_pos rfl]
        simp [swap, asStr]
      · intro key other
        rw [moved, held, Option.map_some, Option.map_some, repointModel, if_pos hit, lookup_setKey,
          if_neg other]
      · intro none
        rw [named, hit] at none
        cases none
    · have kept : repointModel source target model = model := if_neg hit
      have same : modifyTable (repointModel source target) item = item := by
        cases item with
        | table entries =>
          cases held
          exact congrArg Toml.table kept
        | inlineTable entries =>
          cases held
          exact congrArg Toml.inlineTable kept
        | _ => rfl
      rw [same]
      refine ⟨?_, fun _ _ => rfl, fun _ => rfl⟩
      rw [named]
      cases spelled : (model.lookup "provider").bind asStr with
      | none => rfl
      | some name =>
        have apart : name ≠ source := by
          intro equal
          exact hit (equal ▸ spelled)
        rw [Option.map_some, swap, if_neg apart]

/-! ### The pieces of a move -/

section Pieces
variable {doc : Entries} {source target : String} {item : Toml}

theorem entryAt_repointModelsAt (nick : String) :
    entryAt "models" nick (repointModelsAt source target doc) =
      (entryAt "models" nick doc).map (modifyTable (repointModel source target)) :=
  entryAt_mapWithin "models" nick (modifyTable (repointModel source target)) doc

theorem lookup_repointModelsAt {key : String} (other : key ≠ "models") :
    (repointModelsAt source target doc).lookup key = doc.lookup key :=
  lookup_withinTable_ne other _ doc

theorem models_repointModelsAt (nick : String) :
    Option.Rel (Retargeted (swap source target)) (entryAt "models" nick doc)
      (entryAt "models" nick (repointModelsAt source target doc)) := by
  rw [entryAt_repointModelsAt]
  cases entryAt "models" nick doc with
  | none => exact .none
  | some item => exact .some (retargeted_repointModel source target item)

theorem hasEntry_iff {table name : String} :
    hasEntry table name doc = true ↔ (entryAt table name doc).isSome = true := by
  unfold hasEntry entryAt
  cases tableAt table doc <;> simp [hasKey]

theorem hasEntry_false_iff {table name : String} :
    hasEntry table name doc = false ↔ entryAt table name doc = none := by
  rw [← Bool.not_eq_true, hasEntry_iff, Option.not_isSome_iff_eq_none]

theorem renameProviderEntry_eq (held : entryAt "providers" source doc = some item)
    (free : entryAt "providers" target doc = none) :
    renameProviderEntry source target doc = repointModelsAt source target
      (withinTable "providers" (fun providers => removeKey source providers ++ [(target, item)])
        doc) := by
  unfold entryAt at held free
  unfold renameProviderEntry
  cases providers : tableAt "providers" doc with
  | none => simp [providers] at held
  | some entries =>
    rw [providers, Option.bind_some] at held free
    simp [hasKey, free, held]

theorem providers_renameProviderEntry (held : entryAt "providers" source doc = some item)
    (free : entryAt "providers" target doc = none) (name : String) :
    entryAt "providers" name (renameProviderEntry source target doc) =
      if name = target then some item
      else if name = source then none else entryAt "providers" name doc := by
  rw [renameProviderEntry_eq held free,
    entryAt_congr (lookup_repointModelsAt (by decide)), entryAt_withinTable]
  unfold entryAt at held free ⊢
  cases providers : tableAt "providers" doc with
  | none => simp [providers] at held
  | some entries =>
    rw [providers, Option.bind_some] at free
    exact lookup_moveKey source target name item entries free

theorem lookup_renameProviderEntry (held : entryAt "providers" source doc = some item)
    (free : entryAt "providers" target doc = none) {key : String} (notProviders : key ≠ "providers")
    (notModels : key ≠ "models") :
    (renameProviderEntry source target doc).lookup key = doc.lookup key := by
  rw [renameProviderEntry_eq held free, lookup_repointModelsAt notModels,
    lookup_withinTable_ne notProviders]

theorem models_renameProviderEntry (held : entryAt "providers" source doc = some item)
    (free : entryAt "providers" target doc = none) (nick : String) :
    Option.Rel (Retargeted (swap source target)) (entryAt "models" nick doc)
      (entryAt "models" nick (renameProviderEntry source target doc)) := by
  rw [renameProviderEntry_eq held free]
  have same := entryAt_withinTable_ne (by decide : "models" ≠ "providers")
    (fun providers => removeKey source providers ++ [(target, item)]) nick doc
  rw [← same]
  exact models_repointModelsAt nick

/-- The `seat_selection` of a provider entry, where it is a value. -/
def knobOf (item : Toml) : Option Toml :=
  item.asTableLike.bind fun entry => (entry.lookup seatSelectionKey).bind asValue

theorem bind_tableAt (name : String) (doc : Entries) :
    (tableAt "providers" doc).bind (tableAt name) =
      (entryAt "providers" name doc).bind asTableLike := by
  unfold entryAt
  cases tableAt "providers" doc <;> rfl

theorem take_fst (name : String) :
    (takeProviderSeatSelection doc name).1 = (entryAt "providers" name doc).bind knobOf := by
  unfold takeProviderSeatSelection
  rw [bind_tableAt]
  cases entryAt "providers" name doc <;> rfl

def withoutKnob (item : Toml) : Toml := modifyTable (removeKey seatSelectionKey) item

theorem providers_take (member name : String) :
    entryAt "providers" name (takeProviderSeatSelection doc member).2 =
      if name = member then (entryAt "providers" member doc).map withoutKnob
      else entryAt "providers" name doc :=
  entryAt_updateWithin "providers" member name withoutKnob doc

theorem lookup_take (member : String) {key : String} (other : key ≠ "providers") :
    (takeProviderSeatSelection doc member).2.lookup key = doc.lookup key :=
  lookup_withinTable_ne other _ doc

/-- A table, where there is one at all. -/
def Readable (table : String) (doc : Entries) : Prop :=
  ∀ item, doc.lookup table = some item → item.asTableLike.isSome = true

theorem Readable.opened {table : String} (readable : Readable table doc) :
    ∃ item entries, (orInsert table (.table []) doc).lookup table = some item ∧
      item.asTableLike = some entries ∧ item.isInline = inlineAt table doc ∧
      ∀ name, entries.lookup name = entryAt table name doc := by
  rw [lookup_orInsert, if_pos rfl]
  cases held : doc.lookup table with
  | none =>
    exact ⟨_, [], rfl, rfl, by simp [inlineAt, held, isInline],
      fun name => by simp [entryAt, tableAt, held]⟩
  | some item =>
    obtain ⟨entries, same⟩ := Option.isSome_iff_exists.mp (readable item held)
    exact ⟨item, entries, rfl, same, by simp [inlineAt, held],
      fun name => by simp [entryAt, tableAt, held, same]⟩

def freshBlock (members : List String) (selection : Option Toml) : Entries :=
  ("members", .array (appendNew [] (members.map .string))) ::
    (selection.map (Prod.mk seatSelectionKey)).toList

/-- A pool that was not there: its block lists the members, with the knob where there is one. -/
theorem pools_writePoolBlock {pool : String} {members : List String} {selection : Option Toml}
    (readable : Readable "pools" doc) (fresh : entryAt "pools" pool doc = none) (name : String) :
    entryAt "pools" name (writePoolBlock pool members selection doc) =
      if name = pool then some (newTable (inlineAt "pools" doc) (freshBlock members selection))
      else entryAt "pools" name doc := by
  obtain ⟨item, entries, held, read, spelled, same⟩ := readable.opened
  have upserted : ∀ other, entryAt "pools" other (upsertPoolMembers pool members doc) =
      if other = pool then some (newTable (inlineAt "pools" doc) (freshBlock members none))
      else entryAt "pools" other doc := by
    intro other
    rw [upsertPoolMembers, entryAt_addWithin held read, same, same, fresh, Option.getD_none,
      spelled, modifyTable_newTable]
    rfl
  cases selection with
  | none => exact upserted name
  | some value =>
    unfold writePoolBlock
    dsimp only
    have edited := entryAt_updateWithin "pools" pool name
      (modifyTable (setKey seatSelectionKey value)) (upsertPoolMembers pool members doc)
    refine edited.trans ?_
    by_cases here : name = pool
    · rw [if_pos here, if_pos here, upserted, if_pos rfl, Option.map_some, modifyTable_newTable]
      rfl
    · rw [if_neg here, if_neg here, upserted, if_neg here]

theorem lookup_writePoolBlock {pool : String} {members : List String} {selection : Option Toml}
    {key : String} (other : key ≠ "pools") :
    (writePoolBlock pool members selection doc).lookup key = doc.lookup key := by
  have upserted : (upsertPoolMembers pool members doc).lookup key = doc.lookup key := by
    rw [upsertPoolMembers, lookup_updateKey, if_neg other, lookup_orInsert, if_neg other]
  cases selection with
  | none => exact upserted
  | some value =>
    unfold writePoolBlock
    dsimp only
    rw [lookup_withinTable_ne other, upserted]

theorem inlineAt_congr {table : String} {other : Entries}
    (same : other.lookup table = doc.lookup table) : inlineAt table other = inlineAt table doc := by
  rw [inlineAt, same, inlineAt]

/-- A table stays one, in its spelling, when it is changed as a table. -/
theorem keeps_modified {table : String} (change : Toml → Toml) {entries : Toml → Entries → Entries}
    (modifies : ∀ item, change item = modifyTable (entries item) item)
    (readable : Readable table doc) : Readable table (updateKey table change doc) ∧
      inlineAt table (updateKey table change doc) = inlineAt table doc := by
  constructor
  · intro item held
    rw [lookup_updateKey, if_pos rfl] at held
    obtain ⟨before, there, rfl⟩ := Option.map_eq_some_iff.mp held
    rw [modifies, asTableLike_modifyTable, Option.isSome_map]
    exact readable before there
  · rw [inlineAt, lookup_updateKey, if_pos rfl, inlineAt]
    cases doc.lookup table with
    | none => rfl
    | some item => simp [modifies]

theorem keeps_orInsert {table : String} (readable : Readable table doc) :
    Readable table (orInsert table (.table []) doc) ∧
      inlineAt table (orInsert table (.table []) doc) = inlineAt table doc := by
  unfold Readable inlineAt
  rw [lookup_orInsert, if_pos rfl]
  cases there : doc.lookup table with
  | none => exact ⟨fun item held => by cases held; rfl, rfl⟩
  | some before => exact ⟨fun item held => by cases held; exact readable _ there, rfl⟩

theorem keeps_writePoolBlock {pool : String} {members : List String} {selection : Option Toml}
    (readable : Readable "pools" doc) :
    Readable "pools" (writePoolBlock pool members selection doc) ∧
      inlineAt "pools" (writePoolBlock pool members selection doc) = inlineAt "pools" doc := by
  have opened := keeps_orInsert readable
  have upserted := keeps_modified (addWithin pool (modifyTable (upsertMembers members)))
    (fun _ => rfl) opened.1
  cases selection with
  | none => exact ⟨upserted.1, upserted.2.trans opened.2⟩
  | some value =>
    have written := keeps_modified (modifyTable (updateKey pool
      (modifyTable (setKey seatSelectionKey value)))) (fun _ => rfl) upserted.1
    exact ⟨written.1, written.2.trans (upserted.2.trans opened.2)⟩

theorem readable_congr {table : String} {other : Entries}
    (same : other.lookup table = doc.lookup table) (readable : Readable table doc) :
    Readable table other := by
  intro item held
  exact readable item (same ▸ held)

end Pieces

/-! ### A planned move -/

def defaultName (family : String) : String := family ++ "-" ++ defaultSeatSuffix

def Usable (family : String) : Prop := checkToken "provider family" family = .ok ()

/-- What a plan without accounts found in the document. -/
structure Planned (doc : Entries) (move : SeatPoolMove) : Prop where
  held : ∃ item table, entryAt "providers" move.entry doc = some item ∧
    item.asTableLike = some table ∧ oauthFamilyOfEntry table = some move.pool
  usable : Usable move.pool
  renames : (move.entry = move.pool ∧ move.renameTo = some (defaultName move.pool) ∧
      entryAt "providers" (defaultName move.pool) doc = none) ∨
    (move.entry ≠ move.pool ∧ move.renameTo = none ∧ entryAt "providers" move.pool doc = none)
  unpooled : entryAt "pools" move.pool doc = none
  unnicked : entryAt "models" move.pool doc = none
  single : move.accounts = []

section Planning
variable {doc : Entries} {name family : String} {move : SeatPoolMove}

theorem poolName_ok_iff {pool : String} : poolName family = .ok pool ↔
    Usable family ∧ pool = family := by
  unfold poolName Usable
  cases checkToken "provider family" family with
  | error error => exact iff_of_false (fun same => by cases same) fun both => by cases both.1
  | ok _ =>
    constructor
    · intro same
      cases same
      exact ⟨rfl, rfl⟩
    · intro both
      rw [both.2]
      rfl

theorem familyDefaultRename_eq (usable : Usable family) : familyDefaultRename name family =
    .ok (if name = family then some (defaultName family) else none) := by
  have named : accountEntryName family none = .ok (defaultName family) := by
    unfold accountEntryName
    rw [usable]
    rfl
  unfold familyDefaultRename
  rw [poolName_ok_iff.mpr ⟨usable, rfl⟩]
  by_cases same : name = family
  · rw [if_pos same]
    simp only [bind, Except.bind, if_pos same, named]
    rfl
  · rw [if_neg same]
    simp only [bind, Except.bind, if_neg same]
    rfl

theorem familyDefaultRename_usable {renamed : Option String}
    (made : familyDefaultRename name family = .ok renamed) : Usable family := by
  unfold familyDefaultRename at made
  cases pooled : poolName family with
  | error error =>
    rw [pooled] at made
    cases made
  | ok pool => exact (poolName_ok_iff.mp pooled).1

theorem planFamilyRename_ok_iff {renameTo : Option String} :
    planFamilyRename doc name family = .ok renameTo ↔ Usable family ∧
      ((name = family ∧ renameTo = some (defaultName family) ∧
        entryAt "providers" (defaultName family) doc = none) ∨
        (name ≠ family ∧ renameTo = none)) := by
  unfold planFamilyRename
  cases derived : familyDefaultRename name family with
  | error error =>
    refine iff_of_false (fun same => by cases same) fun both => ?_
    rw [familyDefaultRename_eq both.1] at derived
    cases derived
  | ok renamed =>
    have usable := familyDefaultRename_usable derived
    rw [familyDefaultRename_eq usable] at derived
    cases derived
    by_cases same : name = family
    · simp only [if_pos same]
      cases taken : hasEntry "providers" (defaultName family) doc with
      | true =>
        have there := hasEntry_iff.mp taken
        refine iff_of_false (fun made => by cases made) fun both => ?_
        obtain ⟨-, ⟨-, -, free⟩ | ⟨different, -⟩⟩ := both
        · rw [free] at there
          cases there
        · exact different same
      | false =>
        have free := hasEntry_false_iff.mp taken
        constructor
        · intro made
          cases made
          exact ⟨usable, .inl ⟨same, rfl, free⟩⟩
        · intro both
          obtain ⟨-, ⟨-, rfl, -⟩ | ⟨different, -⟩⟩ := both
          · rfl
          · exact absurd same different
    · simp only [if_neg same]
      constructor
      · intro made
        cases made
        exact ⟨usable, .inr ⟨same, rfl⟩⟩
      · intro both
        obtain ⟨-, ⟨equal, -, -⟩ | ⟨-, rfl⟩⟩ := both
        · exact absurd equal same
        · rfl

theorem derivePoolName_ok_iff {vacates : Bool} {pool : String} :
    derivePoolName doc name family vacates = .ok pool ↔ Usable family ∧ pool = family ∧
      entryAt "pools" family doc = none ∧ entryAt "models" family doc = none ∧
      (vacates = false → entryAt "providers" family doc = none) := by
  unfold derivePoolName
  cases named : poolName family with
  | error error =>
    refine iff_of_false (fun same => by cases same) fun both => ?_
    rw [poolName_ok_iff.mpr ⟨both.1, rfl⟩] at named
    cases named
  | ok derived =>
    obtain ⟨usable, rfl⟩ := poolName_ok_iff.mp named
    dsimp only
    rw [← hasEntry_false_iff, ← hasEntry_false_iff, ← hasEntry_false_iff]
    cases hasEntry "pools" derived doc <;> cases hasEntry "models" derived doc <;>
      cases hasEntry "providers" derived doc <;> cases vacates <;> simp [usable, eq_comm]

theorem planSeatPoolMove_ok_iff : planSeatPoolMove doc name = .ok move ↔
    move.entry = name ∧ Planned doc move := by
  unfold planSeatPoolMove
  rw [bind_tableAt]
  constructor
  · intro made
    cases held : entryAt "providers" name doc with
    | none => simp [held] at made
    | some item =>
      cases tabled : item.asTableLike with
      | none => simp [held, tabled] at made
      | some table =>
        cases referred : oauthFamilyOfEntry table with
        | none => simp [held, tabled, referred] at made
        | some family =>
          simp only [held, tabled, Option.bind_some, referred] at made
          obtain ⟨renameTo, renamed, made⟩ := bind_ok made
          obtain ⟨pool, pooled, made⟩ := bind_ok made
          cases made
          obtain ⟨usable, rfl, unpooled, unnicked, unheld⟩ := derivePoolName_ok_iff.mp pooled
          obtain ⟨-, renames⟩ := planFamilyRename_ok_iff.mp renamed
          refine ⟨rfl, ⟨item, table, held, tabled, referred⟩, usable, ?_, unpooled, unnicked, rfl⟩
          obtain ⟨same, rfl, free⟩ | ⟨different, rfl⟩ := renames
          · exact .inl ⟨same, rfl, free⟩
          · exact .inr ⟨different, rfl, unheld rfl⟩
  · intro both
    obtain ⟨rfl, planned⟩ := both
    obtain ⟨item, table, held, tabled, referred⟩ := planned.held
    simp only [held, tabled, Option.bind_some, referred]
    have renamed : planFamilyRename doc move.entry move.pool = .ok move.renameTo := by
      refine planFamilyRename_ok_iff.mpr ⟨planned.usable, ?_⟩
      obtain kept | ⟨different, same, -⟩ := planned.renames
      · exact .inl kept
      · exact .inr ⟨different, same⟩
    have pooled : derivePoolName doc move.entry move.pool move.renameTo.isSome = .ok move.pool := by
      refine derivePoolName_ok_iff.mpr
        ⟨planned.usable, rfl, planned.unpooled, planned.unnicked, fun stays => ?_⟩
      obtain ⟨-, same, -⟩ | ⟨-, -, unheld⟩ := planned.renames
      · rw [same] at stays
        cases stays
      · exact unheld
    rw [renamed]
    simp only [bind, Except.bind, pooled]
    have single := planned.single
    cases move
    simp only at single
    rw [single]
    rfl

end Planning

/-! ### A move, and the moves of a document one after another -/

/-- What a move without accounts makes of the entry it starts from and of all else. -/
structure Effect (move : SeatPoolMove) (item : Toml) (before after : Entries) : Prop where
  providers : ∀ name, entryAt "providers" name after =
    if name = move.memberName then some (withoutKnob item)
    else if name = move.entry then none else entryAt "providers" name before
  models : ∀ nick, Option.Rel (Retargeted (swap move.entry move.memberName))
    (entryAt "models" nick before) (entryAt "models" nick after)
  pools : ∀ name, entryAt "pools" name after =
    if name = move.pool then
      some (newTable (inlineAt "pools" before) (freshBlock [move.memberName] (knobOf item)))
    else entryAt "pools" name before
  readable : Readable "pools" after
  spelling : inlineAt "pools" after = inlineAt "pools" before
  rest : ∀ key, key ≠ "providers" → key ≠ "models" → key ≠ "pools" →
    after.lookup key = before.lookup key

section Runs
variable {doc now : Entries} {move : SeatPoolMove} {done moves : List SeatPoolMove} {item : Toml}

theorem swap_self (name : String) : swap name name = id := by
  funext other
  by_cases same : other = name
  · simp [swap, same]
  · simp [swap, same]

theorem relates_refl (found : Option Toml) : Option.Rel (Retargeted id) found found := by
  cases found with
  | none => exact .none
  | some item => exact .some (.refl item)

theorem relates_trans {first second both : Toml → Toml → Prop} {before middle after : Option Toml}
    (compose : ∀ {item next last}, first item next → second next last → both item last)
    (there : Option.Rel first before middle) (then_ : Option.Rel second middle after) :
    Option.Rel both before after := by
  cases there with
  | none =>
    cases then_ with
    | none => exact .none
  | some related =>
    cases then_ with
    | some further => exact .some (compose related further)

/-- The rename of a move, where it plans one. -/
def renamedDoc (doc : Entries) (move : SeatPoolMove) : Entries :=
  match move.renameTo with
  | some target => renameProviderEntry move.entry target doc
  | none => doc

structure Renamed (move : SeatPoolMove) (item : Toml) (before after : Entries) : Prop where
  providers : ∀ name, entryAt "providers" name after =
    if name = move.memberName then some item
    else if name = move.entry then none else entryAt "providers" name before
  models : ∀ nick, Option.Rel (Retargeted (swap move.entry move.memberName))
    (entryAt "models" nick before) (entryAt "models" nick after)
  rest : ∀ key, key ≠ "providers" → key ≠ "models" → after.lookup key = before.lookup key

theorem renamedDoc_renamed (held : entryAt "providers" move.entry doc = some item)
    (free : ∀ target, move.renameTo = some target → entryAt "providers" target doc = none) :
    Renamed move item doc (renamedDoc doc move) := by
  unfold renamedDoc
  cases planned : move.renameTo with
  | none =>
    have member : move.memberName = move.entry := by
      rw [SeatPoolMove.memberName, planned, Option.getD_none]
    refine ⟨?_, ?_, fun _ _ _ => rfl⟩
    · intro name
      rw [member]
      by_cases same : name = move.entry
      · rw [if_pos same, same, held]
      · rw [if_neg same, if_neg same]
    · intro nick
      rw [member, swap_self]
      exact relates_refl _
  | some target =>
    have member : move.memberName = target := by
      rw [SeatPoolMove.memberName, planned, Option.getD_some]
    rw [← member] at planned ⊢
    exact ⟨providers_renameProviderEntry held (free _ planned),
      models_renameProviderEntry held (free _ planned),
      fun key other third => lookup_renameProviderEntry held (free _ planned) other third⟩

theorem applySeatPoolMove_single (single : move.accounts = []) : applySeatPoolMove doc move =
    writePoolBlock move.pool [move.memberName]
      (takeProviderSeatSelection (renamedDoc doc move) move.memberName).1
      (takeProviderSeatSelection (renamedDoc doc move) move.memberName).2 := by
  unfold applySeatPoolMove renamedDoc
  rw [single]
  rfl

theorem applySeatPoolMove_effect (held : entryAt "providers" move.entry doc = some item)
    (free : ∀ target, move.renameTo = some target → entryAt "providers" target doc = none)
    (single : move.accounts = []) (readable : Readable "pools" doc)
    (unpooled : entryAt "pools" move.pool doc = none) :
    Effect move item doc (applySeatPoolMove doc move) := by
  have renamed := renamedDoc_renamed held free
  have member : entryAt "providers" move.memberName (renamedDoc doc move) = some item := by
    rw [renamed.providers, if_pos rfl]
  rw [applySeatPoolMove_single single, take_fst, member, Option.bind_some]
  have poolsKept : (takeProviderSeatSelection (renamedDoc doc move) move.memberName).2.lookup
      "pools" = doc.lookup "pools" :=
    (lookup_take _ (by decide)).trans (renamed.rest _ (by decide) (by decide))
  have taken : Readable "pools" (takeProviderSeatSelection (renamedDoc doc move)
      move.memberName).2 := readable_congr poolsKept readable
  have kept := @keeps_writePoolBlock _ move.pool [move.memberName] (knobOf item) taken
  refine ⟨?_, ?_, ?_, kept.1, kept.2.trans (inlineAt_congr poolsKept), ?_⟩
  · intro name
    rw [entryAt_congr (lookup_writePoolBlock (by decide)), providers_take, member,
      Option.map_some, renamed.providers]
    by_cases same : name = move.memberName
    · rw [if_pos same, if_pos same]
    · rw [if_neg same, if_neg same, if_neg same]
  · intro nick
    rw [entryAt_congr (lookup_writePoolBlock (by decide)),
      entryAt_congr (lookup_take move.memberName (by decide))]
    exact renamed.models nick
  · intro name
    rw [pools_writePoolBlock taken (by rw [entryAt_congr poolsKept, unpooled]),
      entryAt_congr poolsKept, inlineAt_congr poolsKept]
  · intro key notProviders notModels notPools
    rw [lookup_writePoolBlock notPools, lookup_take _ notProviders,
      renamed.rest key notProviders notModels]

/-- Where an entry stands when the moves are done. -/
def renamed (moves : List SeatPoolMove) (name : String) : String :=
  ((moves.find? fun move => move.entry = name).map SeatPoolMove.memberName).getD name

/-- A document some of whose planned moves are done. -/
structure Moved (doc : Entries) (done : List SeatPoolMove) (now : Entries) : Prop where
  entries : ∀ name item, entryAt "providers" name doc = some item →
    entryAt "providers" (renamed done name) now =
      some (if name ∈ done.map SeatPoolMove.entry then withoutKnob item else item)
  onto : ∀ name, (entryAt "providers" name now).isSome = true →
    ∃ original, (entryAt "providers" original doc).isSome = true ∧ renamed done original = name
  models : ∀ nick, Option.Rel (Retargeted (renamed done)) (entryAt "models" nick doc)
    (entryAt "models" nick now)
  pools : ∀ name, entryAt "pools" name now =
    match done.find? fun move => move.pool = name with
    | some move => some (newTable (inlineAt "pools" doc) (freshBlock [move.memberName]
        ((entryAt "providers" move.entry doc).bind knobOf)))
    | none => entryAt "pools" name doc
  readable : Readable "pools" now
  spelling : inlineAt "pools" now = inlineAt "pools" doc
  rest : ∀ key, key ≠ "providers" → key ≠ "models" → key ≠ "pools" →
    now.lookup key = doc.lookup key

theorem Moved.start (readable : Readable "pools" doc) : Moved doc [] doc where
  entries := fun name item held => by simpa [renamed] using held
  onto := fun name there => ⟨name, there, rfl⟩
  models := fun nick => relates_refl _
  pools := fun _ => rfl
  readable := readable
  spelling := rfl
  rest := fun _ _ _ _ => rfl

theorem Planned.renameTo_eq {target : String} (planned : Planned doc move)
    (renames : move.renameTo = some target) :
    target = defaultName move.pool ∧ entryAt "providers" target doc = none := by
  obtain ⟨-, same, free⟩ | ⟨-, same, -⟩ := planned.renames
  · rw [same] at renames
    cases renames
    exact ⟨rfl, free⟩
  · rw [same] at renames
    cases renames

theorem defaultName_injective {family other : String}
    (same : defaultName family = defaultName other) : family = other := by
  have characters := congrArg String.toList same
  simp only [defaultName, String.toList_append] at characters
  exact String.toList_injective (List.append_cancel_right (List.append_cancel_right characters))

theorem Planned.pool_eq {other : SeatPoolMove} (planned : Planned doc move)
    (second : Planned doc other) (same : move.entry = other.entry) : move.pool = other.pool := by
  obtain ⟨item, table, held, tabled, referred⟩ := planned.held
  obtain ⟨item', table', held', tabled', referred'⟩ := second.held
  rw [same, held'] at held
  cases held
  rw [tabled'] at tabled
  cases tabled
  rw [referred'] at referred
  exact (Option.some.inj referred).symm

/-- An entry keeps its name, or a move gave it a name the document does not have. -/
theorem renamed_cases (planned : ∀ earlier ∈ done, Planned doc earlier) (name : String) :
    renamed done name = name ∨ ∃ earlier ∈ done, earlier.entry = name ∧
      renamed done name = defaultName earlier.pool ∧
      entryAt "providers" (renamed done name) doc = none := by
  cases found : done.find? fun move => move.entry = name with
  | none => exact .inl (by rw [renamed, found]; rfl)
  | some earlier =>
    have member := List.mem_of_find?_eq_some found
    have named : earlier.entry = name := by simpa using List.find?_some found
    have stands : renamed done name = earlier.memberName := by rw [renamed, found]; rfl
    cases renames : earlier.renameTo with
    | none =>
      refine .inl ?_
      rw [stands, SeatPoolMove.memberName, renames, Option.getD_none, named]
    | some target =>
      obtain ⟨same, free⟩ := (planned earlier member).renameTo_eq renames
      have moved : renamed done name = target := by
        rw [stands, SeatPoolMove.memberName, renames, Option.getD_some]
      rw [moved]
      exact .inr ⟨earlier, member, named, same, free⟩

theorem renamed_absent {name : String} (absent : name ∉ done.map SeatPoolMove.entry) :
    renamed done name = name := by
  have none : (done.find? fun move => move.entry = name) = none := by
    rw [List.find?_eq_none]
    intro earlier member named
    exact absent (List.mem_map.mpr ⟨earlier, member, by simpa using named⟩)
  rw [renamed, none]
  rfl

theorem renamed_snoc (absent : move.entry ∉ done.map SeatPoolMove.entry) (name : String) :
    renamed (done ++ [move]) name =
      if name = move.entry then move.memberName else renamed done name := by
  have split : ((done ++ [move]).find? fun move => move.entry = name) =
      (done.find? fun move => move.entry = name).or
        (if name = move.entry then some move else none) := by
    rw [List.find?_append, List.find?_singleton]
    by_cases same : name = move.entry
    · simp [same]
    · simp [same, Ne.symm same]
  by_cases same : name = move.entry
  · have none : (done.find? fun earlier => earlier.entry = name) = none := by
      rw [List.find?_eq_none]
      intro earlier member named
      exact absent (List.mem_map.mpr ⟨earlier, member, by simpa [same] using named⟩)
    rw [if_pos same, renamed, split, none, if_pos same]
    rfl
  · rw [if_neg same, renamed, split, if_neg same, Option.or_none]
    rfl

theorem Moved.step (moved : Moved doc done now)
    (earlier : ∀ earlier ∈ done, Planned doc earlier) (planned : Planned doc move)
    (absent : move.entry ∉ done.map SeatPoolMove.entry)
    (apart : move.pool ∉ done.map SeatPoolMove.pool) :
    Moved doc (done ++ [move]) (applySeatPoolMove now move) := by
  obtain ⟨item, table, held, tabled, referred⟩ := planned.held
  have stays := renamed_absent absent
  have heldNow : entryAt "providers" move.entry now = some item := by
    have there := moved.entries move.entry item held
    rwa [stays, if_neg absent] at there
  have free : ∀ target, move.renameTo = some target → entryAt "providers" target now = none := by
    intro target renames
    obtain ⟨named, missing⟩ := planned.renameTo_eq renames
    rw [← Option.not_isSome_iff_eq_none]
    intro there
    obtain ⟨original, exists_, same⟩ := moved.onto target there
    obtain kept | ⟨other, member, -, called, -⟩ := renamed_cases earlier original
    · rw [← kept.symm.trans same] at missing
      rw [missing] at exists_
      cases exists_
    · have equal : defaultName other.pool = defaultName move.pool :=
        called.symm.trans (same.trans named)
      exact apart (List.mem_map.mpr ⟨other, member, defaultName_injective equal⟩)
  have noPool : (done.find? fun earlier => earlier.pool = move.pool) = none := by
    rw [List.find?_eq_none]
    intro other member same
    exact apart (List.mem_map.mpr ⟨other, member, by simpa using same⟩)
  have unpooled : entryAt "pools" move.pool now = none := by
    rw [moved.pools, noPool]
    exact planned.unpooled
  have effect := applySeatPoolMove_effect heldNow free planned.single moved.readable unpooled
  have notEntry : ∀ name, name ≠ move.entry → renamed done name ≠ move.entry := by
    intro name different same
    obtain kept | ⟨_, _, _, _, missing⟩ := renamed_cases earlier name
    · exact different (kept.symm.trans same)
    · rw [same, held] at missing
      cases missing
  refine ⟨?_, ?_, ?_, ?_, effect.readable, effect.spelling.trans moved.spelling, ?_⟩
  · intro name found there
    rw [renamed_snoc absent, effect.providers, List.map_append, List.map_singleton]
    by_cases same : name = move.entry
    · subst same
      rw [held] at there
      cases there
      rw [if_pos rfl, if_pos rfl, if_pos (List.mem_append_right _ (List.mem_singleton_self _))]
    · have before := moved.entries name found there
      have notMember : renamed done name ≠ move.memberName := by
        intro equal
        cases renames : move.renameTo with
        | none =>
          rw [SeatPoolMove.memberName, renames, Option.getD_none] at equal
          exact notEntry name same equal
        | some target =>
          rw [SeatPoolMove.memberName, renames, Option.getD_some] at equal
          rw [equal, free target renames] at before
          cases before
      rw [if_neg same, if_neg notMember, if_neg (notEntry name same), before]
      simp [same]
  · intro name there
    rw [effect.providers] at there
    by_cases member : name = move.memberName
    · exact ⟨move.entry, by rw [held]; rfl, by rw [renamed_snoc absent, if_pos rfl, member]⟩
    · rw [if_neg member] at there
      by_cases gone : name = move.entry
      · rw [if_pos gone] at there
        cases there
      · rw [if_neg gone] at there
        obtain ⟨original, exists_, same⟩ := moved.onto name there
        have different : original ≠ move.entry := by
          intro equal
          rw [equal, stays] at same
          exact gone same.symm
        exact ⟨original, exists_, by rw [renamed_snoc absent, if_neg different, same]⟩
  · intro nick
    have composed : ∀ name, renamed (done ++ [move]) name =
        (swap move.entry move.memberName ∘ renamed done) name := by
      intro name
      rw [renamed_snoc absent, Function.comp_apply, swap]
      by_cases same : name = move.entry
      · rw [if_pos same, same, stays, if_pos rfl]
      · rw [if_neg same, if_neg (notEntry name same)]
    exact relates_trans (fun first second => (first.trans second).congr fun name _ => composed name)
      (moved.models nick) (effect.models nick)
  · intro name
    rw [effect.pools, List.find?_append, List.find?_singleton]
    by_cases same : name = move.pool
    · rw [if_pos same, same, noPool, Option.none_or, moved.spelling]
      simp [held]
    · have different : ¬move.pool = name := fun equal => same equal.symm
      rw [if_neg same, moved.pools]
      simp [different]
  · intro key notProviders notModels notPools
    rw [effect.rest key notProviders notModels notPools,
      moved.rest key notProviders notModels notPools]

theorem Moved.run (moved : Moved doc done now)
    (planned : ∀ move ∈ done ++ moves, Planned doc move)
    (apart : ((done ++ moves).map SeatPoolMove.pool).Nodup) :
    Moved doc (done ++ moves) (moves.foldl applySeatPoolMove now) := by
  induction moves generalizing done now with
  | nil => simpa using moved
  | cons move moves ih =>
    have head := planned move (by simp)
    have earlier : ∀ earlier ∈ done, Planned doc earlier := fun earlier member =>
      planned earlier (List.mem_append_left _ member)
    rw [List.map_append, List.map_cons] at apart
    have unclaimed : move.pool ∉ done.map SeatPoolMove.pool := by
      intro claimed
      exact (List.nodup_append.mp apart).2.2 _ claimed _ List.mem_cons_self rfl
    have absent : move.entry ∉ done.map SeatPoolMove.entry := by
      intro claimed
      obtain ⟨other, member, same⟩ := List.mem_map.mp claimed
      exact unclaimed (List.mem_map.mpr ⟨other, member, (earlier other member).pool_eq head same⟩)
    have stepped := ih (moved.step earlier head absent unclaimed)
    rw [List.append_assoc, List.singleton_append] at stepped
    exact stepped planned (by rwa [List.map_append, List.map_cons])

end Runs

/-! ### The rung as a whole -/

def hasKnob (item : Toml) : Bool := item.asTableLike.any (hasKey seatSelectionKey)

def familyOf (item : Toml) : Option String := item.asTableLike.bind oauthFamilyOfEntry

/-- A pool name that nothing else holds, once the entry has given it up. -/
structure Derivable (doc : Entries) (name family : String) : Prop where
  usable : Usable family
  unpooled : entryAt "pools" family doc = none
  unnicked : entryAt "models" family doc = none
  unheld : entryAt "providers" (if name = family then defaultName family else family) doc = none

/-- Every knob has a pool to go to, and no two go to the same. -/
structure Relocatable (doc : Entries) : Prop where
  derivable : ∀ name item, entryAt "providers" name doc = some item → hasKnob item = true →
    ∃ family, familyOf item = some family ∧ Derivable doc name family
  apart : ∀ name other item second, entryAt "providers" name doc = some item →
    entryAt "providers" other doc = some second → hasKnob item = true → hasKnob second = true →
    familyOf item = familyOf second → name = other

/-- The document with every knob on a pool of its own and nothing else changed but names. -/
structure Relocated (doc after : Entries) (rename : String → String) : Prop where
  entries : ∀ name item, entryAt "providers" name doc = some item →
    entryAt "providers" (rename name) after = some (withoutKnob item)
  injective : ∀ name other, (entryAt "providers" name doc).isSome = true →
    (entryAt "providers" other doc).isSome = true → rename name = rename other → name = other
  onto : ∀ name, (entryAt "providers" name after).isSome = true →
    ∃ original, (entryAt "providers" original doc).isSome = true ∧ rename original = name
  renames : ∀ name, rename name ≠ name → ∃ item, entryAt "providers" name doc = some item ∧
    hasKnob item = true ∧ familyOf item = some name ∧ rename name = defaultName name
  models : ∀ nick, Option.Rel (Retargeted rename) (entryAt "models" nick doc)
    (entryAt "models" nick after)
  knobs : ∀ name item, entryAt "providers" name doc = some item → hasKnob item = true →
    ∃ family, familyOf item = some family ∧ entryAt "pools" family doc = none ∧
      entryAt "pools" family after =
        some (newTable (inlineAt "pools" doc) (freshBlock [rename name] (knobOf item)))
  pools : ∀ pool, entryAt "pools" pool after = entryAt "pools" pool doc ∨
    ∃ name item, entryAt "providers" name doc = some item ∧ hasKnob item = true ∧
      familyOf item = some pool
  version : after.lookup "version" = some (.integer 4)
  rest : ∀ key, key ≠ "providers" → key ≠ "models" → key ≠ "pools" → key ≠ "version" →
    after.lookup key = doc.lookup key

end Routectl.Migrate
