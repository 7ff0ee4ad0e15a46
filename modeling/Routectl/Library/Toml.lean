import Mathlib.Data.List.Basic

/-! TOML documents as trees, and edits of their tables: a key read, updated, removed,
or added at the end. -/
namespace Library

inductive Toml where
  | string (text : String)
  | integer (value : Int)
  | float (text : String)
  | boolean (value : Bool)
  | datetime (text : String)
  | array (items : List Toml)
  | inlineTable (entries : List (String × Toml))
  | table (entries : List (String × Toml))
  | arrayOfTables (tables : List (List (String × Toml)))

namespace Toml

abbrev Entries := List (String × Toml)

def asStr : Toml → Option String
  | .string text => some text
  | _ => none

def asArray : Toml → Option (List Toml)
  | .array items => some items
  | _ => none

def asInteger : Toml → Option Int
  | .integer value => some value
  | _ => none

/-- A value of the tree that is no table under a header of its own. -/
def asValue : Toml → Option Toml
  | .table _ => none
  | .arrayOfTables _ => none
  | value => some value

/-- The entries of a table in either spelling. -/
def asTableLike : Toml → Option Entries
  | .table entries => some entries
  | .inlineTable entries => some entries
  | _ => none

def modifyTable (change : Entries → Entries) : Toml → Toml
  | .table entries => .table (change entries)
  | .inlineTable entries => .inlineTable (change entries)
  | other => other

def isInline : Toml → Bool
  | .inlineTable _ => true
  | _ => false

def newTable (inline : Bool) (entries : Entries) : Toml :=
  if inline then .inlineTable entries else .table entries

def modifyArray (change : List Toml → List Toml) : Toml → Toml
  | .array items => .array (change items)
  | other => other

/-- The entries of the table under a key, where there is one. -/
def tableAt (name : String) (entries : Entries) : Option Entries :=
  (entries.lookup name).bind asTableLike

def hasKey (name : String) (entries : Entries) : Bool := (entries.lookup name).isSome

def updateKey (name : String) (change : Toml → Toml) (entries : Entries) : Entries :=
  entries.map fun entry => if entry.1 = name then (name, change entry.2) else entry

def removeKey (name : String) (entries : Entries) : Entries :=
  entries.filter fun entry => entry.1 ≠ name

/-- The entries with a key, whose value stands where it was or comes last. -/
def orInsert (name : String) (value : Toml) (entries : Entries) : Entries :=
  if hasKey name entries then entries else entries ++ [(name, value)]

def setKey (name : String) (value : Toml) (entries : Entries) : Entries :=
  if hasKey name entries then updateKey name (fun _ => value) entries
  else entries ++ [(name, value)]

def withinTable (name : String) (change : Entries → Entries) (entries : Entries) : Entries :=
  updateKey name (modifyTable change) entries

/-- A table within a table changed, where there is none a new one in the spelling around it. -/
def addWithin (name : String) (change : Toml → Toml) (item : Toml) : Toml :=
  modifyTable (fun entries =>
    updateKey name change (orInsert name (newTable item.isInline []) entries)) item

/-- The table under a key is written inline. -/
def inlineAt (name : String) (entries : Entries) : Bool := (entries.lookup name).any isInline

@[simp] theorem asTableLike_newTable (inline : Bool) (entries : Entries) :
    (newTable inline entries).asTableLike = some entries := by
  cases inline <;> rfl

theorem modifyTable_newTable (change : Entries → Entries) (inline : Bool) (entries : Entries) :
    modifyTable change (newTable inline entries) = newTable inline (change entries) := by
  cases inline <;> rfl

@[simp] theorem isInline_modifyTable (change : Entries → Entries) (item : Toml) :
    (modifyTable change item).isInline = item.isInline := by
  cases item <;> rfl

@[simp] theorem asTableLike_modifyTable (change : Entries → Entries) (item : Toml) :
    (modifyTable change item).asTableLike = item.asTableLike.map change := by
  cases item <;> rfl

@[simp] theorem asArray_modifyArray (change : List Toml → List Toml) (item : Toml) :
    (modifyArray change item).asArray = item.asArray.map change := by
  cases item <;> rfl

theorem lookup_updateKey (name other : String) (change : Toml → Toml) (entries : Entries) :
    (updateKey name change entries).lookup other =
      if other = name then (entries.lookup name).map change else entries.lookup other := by
  induction entries with
  | nil => simp [updateKey]
  | cons entry rest ih =>
    obtain ⟨key, value⟩ := entry
    have tail : (updateKey name change ((key, value) :: rest)) =
        (if key = name then (name, change value) else (key, value)) ::
          updateKey name change rest := rfl
    rw [tail]
    by_cases here : key = name
    · subst here
      by_cases same : other = key
      · subst same
        simp
      · simp [List.lookup_cons, same, ih, beq_eq_false_iff_ne.mpr same]
    · by_cases same : other = name
      · subst same
        have skipped : (other == key) = false := beq_eq_false_iff_ne.mpr (Ne.symm here)
        simp only [if_neg here, List.lookup_cons, skipped, ih, if_true]
      · simp only [if_neg here, List.lookup_cons, ih, if_neg same]

theorem lookup_removeKey (name other : String) (entries : Entries) :
    (removeKey name entries).lookup other =
      if other = name then none else entries.lookup other := by
  induction entries with
  | nil => simp [removeKey]
  | cons entry rest ih =>
    obtain ⟨key, value⟩ := entry
    by_cases here : key = name
    · have gone : removeKey name ((key, value) :: rest) = removeKey name rest := by
        simp [removeKey, here]
      rw [gone, ih]
      by_cases same : other = name
      · simp [same]
      · have skipped : (other == key) = false := beq_eq_false_iff_ne.mpr (by rw [here]; exact same)
        simp [same, List.lookup_cons, skipped]
    · have kept : removeKey name ((key, value) :: rest) = (key, value) :: removeKey name rest := by
        simp [removeKey, here]
      rw [kept, List.lookup_cons, ih, List.lookup_cons]
      by_cases same : other = name
      · subst same
        have skipped : (other == key) = false := beq_eq_false_iff_ne.mpr (Ne.symm here)
        simp [skipped]
      · simp [same]

theorem lookup_orInsert (name other : String) (value : Toml) (entries : Entries) :
    (orInsert name value entries).lookup other =
      if other = name then some ((entries.lookup name).getD value) else entries.lookup other := by
  unfold orInsert hasKey
  cases found : entries.lookup name with
  | some held =>
    by_cases same : other = name
    · simp [same, found]
    · simp [same]
  | none =>
    by_cases same : other = name
    · simp [same, found, List.lookup_append]
    · simp [same, List.lookup_append, List.lookup_cons, beq_eq_false_iff_ne.mpr same]

theorem lookup_setKey (name other : String) (value : Toml) (entries : Entries) :
    (setKey name value entries).lookup other =
      if other = name then some value else entries.lookup other := by
  unfold setKey hasKey
  cases found : entries.lookup name with
  | some held => simp [lookup_updateKey, found]
  | none =>
    by_cases same : other = name
    · simp [same, List.lookup_append, found]
    · simp [same, List.lookup_append, List.lookup_cons, beq_eq_false_iff_ne.mpr same]

theorem tableAt_withinTable (name other : String) (change : Entries → Entries)
    (entries : Entries) :
    tableAt other (withinTable name change entries) =
      if other = name then (tableAt name entries).map change else tableAt other entries := by
  unfold tableAt withinTable
  rw [lookup_updateKey]
  by_cases same : other = name
  · cases entries.lookup name <;> simp [same]
  · simp [same]

theorem lookup_withinTable_ne {name other : String} (different : other ≠ name)
    (change : Entries → Entries) (entries : Entries) :
    (withinTable name change entries).lookup other = entries.lookup other := by
  rw [withinTable, lookup_updateKey, if_neg different]

theorem lookup_mapItems (change : Toml → Toml) (name : String) (entries : Entries) :
    (entries.map fun entry => (entry.1, change entry.2)).lookup name =
      (entries.lookup name).map change := by
  induction entries with
  | nil => rfl
  | cons entry rest ih =>
    rw [List.map_cons, List.lookup_cons, List.lookup_cons, ih]
    cases name == entry.1 <;> rfl

theorem lookup_moveKey (source target other : String) (item : Toml) (entries : Entries)
    (free : entries.lookup target = none) :
    (removeKey source entries ++ [(target, item)]).lookup other =
      if other = target then some item
      else if other = source then none else entries.lookup other := by
  rw [List.lookup_append, lookup_removeKey]
  by_cases same : other = target
  · simp [same, free]
  · simp [same, List.lookup_cons, beq_eq_false_iff_ne.mpr same]

/-! A name looked up in a table of a document. -/

def entryAt (table name : String) (doc : Entries) : Option Toml :=
  (tableAt table doc).bind fun entries => entries.lookup name

theorem entryAt_congr {table : String} {doc other : Entries}
    (same : other.lookup table = doc.lookup table) (name : String) :
    entryAt table name other = entryAt table name doc := by
  unfold entryAt tableAt
  rw [same]

theorem entryAt_withinTable_ne {table other : String} (different : other ≠ table)
    (change : Entries → Entries) (name : String) (doc : Entries) :
    entryAt other name (withinTable table change doc) = entryAt other name doc :=
  entryAt_congr (lookup_withinTable_ne different change doc) name

theorem entryAt_withinTable (table : String) (change : Entries → Entries) (name : String)
    (doc : Entries) : entryAt table name (withinTable table change doc) =
      (tableAt table doc).bind fun entries => (change entries).lookup name := by
  unfold entryAt
  rw [tableAt_withinTable, if_pos rfl]
  cases tableAt table doc <;> rfl

/-- An edit of one entry of a table. -/
theorem entryAt_updateWithin (table name other : String) (change : Toml → Toml) (doc : Entries) :
    entryAt table other (withinTable table (updateKey name change) doc) =
      if other = name then (entryAt table name doc).map change else entryAt table other doc := by
  rw [entryAt_withinTable]
  unfold entryAt
  cases tableAt table doc with
  | none => simp
  | some entries => exact lookup_updateKey name other change entries

theorem entryAt_mapWithin (table other : String) (change : Toml → Toml) (doc : Entries) :
    entryAt table other (withinTable table
        (fun entries => entries.map fun entry => (entry.1, change entry.2)) doc) =
      (entryAt table other doc).map change := by
  rw [entryAt_withinTable]
  unfold entryAt
  cases tableAt table doc with
  | none => rfl
  | some entries => exact lookup_mapItems change other entries

theorem entryAt_addWithin {table name : String} {change : Toml → Toml} {doc entries : Entries}
    {item : Toml} (held : doc.lookup table = some item) (read : item.asTableLike = some entries)
    (other : String) : entryAt table other (updateKey table (addWithin name change) doc) =
      if other = name then some (change ((entries.lookup name).getD (newTable item.isInline [])))
      else entries.lookup other := by
  unfold entryAt tableAt
  rw [lookup_updateKey, if_pos rfl, held, Option.map_some, Option.bind_some, addWithin,
    asTableLike_modifyTable, read, Option.map_some, Option.bind_some, lookup_updateKey,
    lookup_orInsert, lookup_orInsert, if_pos rfl, Option.map_some]
  split <;> rfl

end Toml
end Library
