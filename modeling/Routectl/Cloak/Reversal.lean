import Mathlib.Data.List.Nodup
import Routectl.Cloak.NameSheet

/-! When the cloaked names can be told apart and taken back. -/
namespace Routectl.Cloak
open Library

theorem lookup_recordReverse (reverse : Reverse) (renamed original key : String) :
    (recordReverse reverse renamed original).lookup key =
      (reverse.lookup key).or (if renamed = key then some original else none) := by
  rw [recordReverse]
  by_cases same : renamed = key
  · subst same
    cases held : reverse.lookup renamed with
    | none => simp
    | some prior => simp [held]
  · split
    · simp
    · simp [AList.lookup_insert_ne (Ne.symm same)]

/-- The way back from a key: what was recorded before, then the first name walked
that the pass renames to it. -/
theorem lookup_recorded (existing : List String) (renamer : String → Option String)
    (names : List String) (reverse : Reverse) (key : String) :
    (names.foldl (record existing renamer) reverse).lookup key =
      (reverse.lookup key).or
        (names.find? fun name => renamedForm existing renamer name = some key) := by
  induction names generalizing reverse with
  | nil => simp
  | cons name rest ih =>
    rw [List.foldl_cons, ih, List.find?_cons, record]
    cases form : renamedForm existing renamer name with
    | none => simp
    | some renamed =>
      rw [lookup_recordReverse]
      by_cases same : renamed = key
      · simp [same]
      · simp [same]

theorem renamedForm_free {existing : List String} {renamer : String → Option String}
    {name renamed : String} (form : renamedForm existing renamer name = some renamed) :
    renamed ∉ existing := by
  have free := (Option.filter_eq_some_iff.mp form).2
  simpa using free

theorem wireName_none {existing : List String} {renamer : String → Option String} {name : String}
    (form : renamedForm existing renamer name = none) : wireName existing renamer name = name := by
  rw [wireName, form, Option.getD_none]

theorem wireName_some {existing : List String} {renamer : String → Option String}
    {name renamed : String} (form : renamedForm existing renamer name = some renamed) :
    wireName existing renamer name = renamed := by
  rw [wireName, form, Option.getD_some]

namespace NameSheet
variable (sheet : NameSheet) (renames : List ToolRename)

def normalizedForm (name : String) : Option String := renamedForm sheet.existing renamedToMcp name

def normalized : NameSheet := sheet.rename (wireName sheet.existing renamedToMcp)

/-- The operator's target of a name that the first pass left or made. -/
def operatorForm (name : String) : Option String :=
  renamedForm sheet.normalized.existing (operatorRename renames) name

def cloaked : NameSheet :=
  sheet.normalized.rename (wireName sheet.normalized.existing (operatorRename renames))

/-- Where both passes take a name that is walked. -/
def wire (name : String) : String :=
  wireName sheet.normalized.existing (operatorRename renames)
    (wireName sheet.existing renamedToMcp name)

def toolWire (tool : ToolName) : String :=
  if tool.type = .untyped then sheet.wire renames tool.name else tool.name

/-- The names of the client's own tools and of the other surfaces, in order. -/
def occurrences : List String :=
  ((sheet.tools.filter fun tool => tool.type ≠ .builtin).map ToolName.name) ++ sheet.surfaces

theorem rename_id {rewrite : String → String} (same : ∀ name, rewrite name = name) :
    sheet.rename rewrite = sheet := by
  have tools : renameTool rewrite = id := by
    funext tool
    obtain ⟨type, name⟩ := tool
    simp only [renameTool, same, ite_self, id]
  have names : rewrite = id := funext same
  rw [rename, tools, names, List.map_id, List.map_id]

end NameSheet

/-- A pass that renames nothing leaves names and the way back. -/
theorem renames_nothing {existing : List String} {renamer : String → Option String}
    (nothing : ∀ name, renamer name = none) (sheet : NameSheet) (names : List String)
    (reverse : Reverse) :
    sheet.rename (wireName existing renamer) = sheet ∧
      names.foldl (record existing renamer) reverse = reverse := by
  have unformed (name : String) : renamedForm existing renamer name = none := by
    rw [renamedForm, nothing, Option.filter_none]
  constructor
  · exact sheet.rename_id fun name => wireName_none (unformed name)
  · induction names with
    | nil => rfl
    | cons name rest ih => rw [List.foldl_cons, record, unformed, ih]

theorem operatorRename_nameless {renames : List ToolRename}
    (nameless : (renames.all fun rename => rename.fromName.isEmpty) = true) (name : String) :
    operatorRename renames name = none := by
  have unlisted : (renames.find? fun rename =>
      !rename.fromName.isEmpty && rename.fromName = name) = none := by
    apply List.find?_eq_none.mpr
    intro rename member
    simp [List.all_eq_true.mp nameless rename member]
  rw [operatorRename, unlisted, Option.map_none, Option.filter_none]

/-- Both passes, on the names alone. -/
theorem cloakToolNames_sheet (renames : List ToolRename) (body : Json) :
    nameSheet (cloakToolNames renames body).1 = (nameSheet body).cloaked renames ∧
      (cloakToolNames renames body).2 =
        (nameSheet body).normalized.walked.foldl
          (record (nameSheet body).normalized.existing (operatorRename renames))
          ((nameSheet body).walked.foldl (record (nameSheet body).existing renamedToMcp) ∅) := by
  obtain ⟨normalized, recorded⟩ := renameToolNamesWith_sheet renamedToMcp body ∅
  have sheet : nameSheet (normalizeToolNamesToMcp body).1 = (nameSheet body).normalized := normalized
  have reverse : (normalizeToolNamesToMcp body).2 =
      (nameSheet body).walked.foldl (record (nameSheet body).existing renamedToMcp) ∅ := recorded
  simp only [cloakToolNames, applyToolRename]
  rw [← reverse, ← sheet]
  by_cases nameless : (renames.all fun rename => rename.fromName.isEmpty) = true
  · obtain ⟨same, kept⟩ := @renames_nothing (nameSheet (normalizeToolNamesToMcp body).1).existing
      (operatorRename renames) (operatorRename_nameless nameless)
      (nameSheet (normalizeToolNamesToMcp body).1)
      (nameSheet (normalizeToolNamesToMcp body).1).walked (normalizeToolNamesToMcp body).2
    rw [if_pos nameless, NameSheet.cloaked, ← sheet, same, kept]
    exact ⟨rfl, rfl⟩
  · rw [if_neg nameless]
    have second := renameToolNamesWith_sheet (operatorRename renames)
      (normalizeToolNamesToMcp body).1 (normalizeToolNamesToMcp body).2
    rw [NameSheet.cloaked, ← sheet]
    exact second

section Names
variable {sheet : NameSheet} {renames : List ToolRename} {rewrite : String → String}

theorem mem_open {name : String} : name ∈ sheet.open_ ↔ ⟨.untyped, name⟩ ∈ sheet.tools := by
  simp only [NameSheet.open_, List.mem_map, List.mem_filter, decide_eq_true_eq]
  constructor
  · rintro ⟨⟨type, own⟩, ⟨listed, untyped⟩, same⟩
    subst untyped same
    exact listed
  · intro listed
    exact ⟨_, ⟨listed, rfl⟩, rfl⟩

theorem mem_custom {name : String} : name ∈ sheet.custom ↔ ⟨.custom, name⟩ ∈ sheet.tools := by
  simp only [NameSheet.custom, List.mem_map, List.mem_filter, decide_eq_true_eq]
  constructor
  · rintro ⟨⟨type, own⟩, ⟨listed, typed⟩, same⟩
    subst typed same
    exact listed
  · intro listed
    exact ⟨_, ⟨listed, rfl⟩, rfl⟩

theorem mem_open_rename {name : String} :
    name ∈ (sheet.rename rewrite).open_ ↔ ∃ own ∈ sheet.open_, rewrite own = name := by
  rw [mem_open, NameSheet.rename, List.mem_map]
  constructor
  · rintro ⟨⟨type, own⟩, listed, same⟩
    by_cases untyped : type = .untyped
    · subst untyped
      rw [renameTool, if_pos rfl] at same
      exact ⟨own, mem_open.mpr listed, congrArg ToolName.name same⟩
    · rw [renameTool, if_neg untyped] at same
      exact absurd (congrArg ToolName.type same) untyped
  · rintro ⟨own, listed, rfl⟩
    exact ⟨_, mem_open.mp listed, if_pos rfl⟩

/-- A typed tool keeps its name. -/
theorem typed_kept {tool : ToolName} (listed : tool ∈ sheet.tools) (typed : tool.type ≠ .untyped) :
    tool ∈ (sheet.rename rewrite).tools :=
  List.mem_map.mpr ⟨tool, listed, if_neg typed⟩

theorem name_existing {tool : ToolName} (listed : tool ∈ sheet.tools) :
    tool.name ∈ sheet.existing := List.mem_map.mpr ⟨tool, listed, rfl⟩

theorem open_existing {name : String} (listed : name ∈ sheet.open_) : name ∈ sheet.existing :=
  name_existing (mem_open.mp listed)

theorem tool_of_name (distinct : sheet.existing.Nodup) {first second : ToolName}
    (listed : first ∈ sheet.tools) (listedSecond : second ∈ sheet.tools)
    (same : first.name = second.name) : first = second :=
  List.inj_on_of_nodup_map distinct listed listedSecond same

/-- A pass leaves a tool's name or takes it to a form that no tool bears. -/
theorem renameTool_cases {existing : List String} (renamer : String → Option String)
    (tool : ToolName) :
    (renameTool (wireName existing renamer) tool).name = tool.name ∨
      (tool.type = .untyped ∧ renamedForm existing renamer tool.name =
        some (renameTool (wireName existing renamer) tool).name) := by
  by_cases untyped : tool.type = .untyped
  · cases form : renamedForm existing renamer tool.name with
    | none => simp [renameTool, untyped, wireName_none form]
    | some renamed => simp [renameTool, untyped, wireName_some form]
  · simp [renameTool, untyped]

/-- No two open names of a sheet have one renamed form. -/
def Apart (form : String → Option String) (names : List String) : Prop :=
  ∀ first ∈ names, ∀ second ∈ names, ∀ renamed, form first = some renamed →
    form second = some renamed → first = second

/-- One pass keeps distinct names distinct exactly when no renamed form is
shared. -/
theorem rename_distinct_iff {renamer : String → Option String} (distinct : sheet.existing.Nodup) :
    (sheet.rename (wireName sheet.existing renamer)).existing.Nodup ↔
      Apart (renamedForm sheet.existing renamer) sheet.open_ := by
  have wires : (sheet.rename (wireName sheet.existing renamer)).existing = sheet.tools.map
      fun tool => (renameTool (wireName sheet.existing renamer) tool).name := by
    simp [NameSheet.existing, NameSheet.rename, Function.comp_def]
  rw [wires]
  constructor
  · intro kept first listed second listedSecond renamed form formSecond
    have wire : (renameTool (wireName sheet.existing renamer) ⟨.untyped, first⟩).name =
        (renameTool (wireName sheet.existing renamer) ⟨.untyped, second⟩).name := by
      simp [renameTool, wireName_some form, wireName_some formSecond]
    exact congrArg ToolName.name
      (List.inj_on_of_nodup_map kept (mem_open.mp listed) (mem_open.mp listedSecond) wire)
  · intro apart
    apply List.Nodup.map_on _ (List.Nodup.of_map _ distinct)
    intro first listed second listedSecond same
    apply tool_of_name distinct listed listedSecond
    rcases @renameTool_cases sheet.existing renamer first with kept | ⟨untyped, form⟩
    · rcases @renameTool_cases sheet.existing renamer second with
        keptSecond | ⟨-, formSecond⟩
      · rw [← kept, ← keptSecond, same]
      · rw [← same, kept] at formSecond
        exact absurd (name_existing listed) (renamedForm_free formSecond)
    · rcases @renameTool_cases sheet.existing renamer second with
        keptSecond | ⟨untypedSecond, formSecond⟩
      · rw [same, keptSecond] at form
        exact absurd (name_existing listedSecond) (renamedForm_free form)
      · rw [same] at form
        obtain ⟨type, name⟩ := first
        obtain ⟨typeSecond, nameSecond⟩ := second
        subst untyped untypedSecond
        exact apart name (mem_open.mpr listed) nameSecond (mem_open.mpr listedSecond) _ form
          formSecond

/-- Both passes keep distinct names distinct exactly when neither shares a form. -/
theorem cloaked_distinct_iff (distinct : sheet.existing.Nodup) :
    (sheet.cloaked renames).existing.Nodup ↔
      Apart sheet.normalizedForm sheet.open_ ∧
        Apart (sheet.operatorForm renames) sheet.normalized.open_ := by
  constructor
  · intro kept
    have middle : sheet.normalized.existing.Nodup := by
      rw [NameSheet.normalized, rename_distinct_iff distinct]
      intro first listed second listedSecond renamed form formSecond
      have wires : (sheet.cloaked renames).existing = sheet.tools.map fun tool =>
          (renameTool (wireName sheet.normalized.existing (operatorRename renames))
            (renameTool (wireName sheet.existing renamedToMcp) tool)).name := by
        simp [NameSheet.existing, NameSheet.cloaked, NameSheet.normalized, NameSheet.rename,
          Function.comp_def]
      rw [wires] at kept
      have once : renameTool (wireName sheet.existing renamedToMcp) ⟨.untyped, first⟩ =
          renameTool (wireName sheet.existing renamedToMcp) ⟨.untyped, second⟩ := by
        simp [renameTool, wireName_some form, wireName_some formSecond]
      exact congrArg ToolName.name (List.inj_on_of_nodup_map kept (mem_open.mp listed)
        (mem_open.mp listedSecond) (by rw [once]))
    exact ⟨(rename_distinct_iff distinct).mp middle, (rename_distinct_iff middle).mp kept⟩
  · rintro ⟨first, second⟩
    exact (rename_distinct_iff ((rename_distinct_iff distinct).mpr first)).mpr second

/-- Names that both passes leave. -/
theorem wire_kept_iff {name : String} (listed : name ∈ sheet.existing)
    (listedAfter : name ∈ sheet.normalized.existing) :
    sheet.wire renames name = name ↔
      sheet.normalizedForm name = none ∧ sheet.operatorForm renames name = none := by
  constructor
  · intro kept
    rw [NameSheet.wire] at kept
    cases form : sheet.normalizedForm name with
    | some renamed =>
      rw [wireName_some form] at kept
      cases second : sheet.operatorForm renames renamed with
      | none =>
        rw [wireName_none second] at kept
        exact absurd (kept ▸ listed) (renamedForm_free form)
      | some final =>
        rw [wireName_some second] at kept
        exact absurd (kept ▸ listedAfter) (renamedForm_free second)
    | none =>
      rw [wireName_none form] at kept
      cases second : sheet.operatorForm renames name with
      | none => exact ⟨rfl, rfl⟩
      | some final =>
        rw [wireName_some second] at kept
        exact absurd (kept ▸ listedAfter) (renamedForm_free second)
  · rintro ⟨form, second⟩
    rw [NameSheet.wire, wireName_none form, wireName_none second]

/-- The way back that both passes record. -/
def NameSheet.wayBack (sheet : NameSheet) (renames : List ToolRename) : Reverse :=
  sheet.normalized.walked.foldl
    (record sheet.normalized.existing (operatorRename renames))
    (sheet.walked.foldl (record sheet.existing renamedToMcp) ∅)

theorem lookup_wayBack (key : String) :
    (sheet.wayBack renames).lookup key =
      (sheet.walked.find? fun name => sheet.normalizedForm name = some key).or
        (sheet.normalized.walked.find? fun name => sheet.operatorForm renames name = some key) := by
  rw [NameSheet.wayBack, lookup_recorded, lookup_recorded]
  rfl

/-- A name that tools bear in both passes leads nowhere back. -/
theorem lookup_wayBack_existing {name : String} (listed : name ∈ sheet.existing)
    (listedAfter : name ∈ sheet.normalized.existing) : (sheet.wayBack renames).lookup name = none := by
  rw [lookup_wayBack, Option.or_eq_none_iff]
  constructor
  · apply List.find?_eq_none.mpr
    intro other _ form
    exact absurd listed (renamedForm_free (of_decide_eq_true form))
  · apply List.find?_eq_none.mpr
    intro other _ form
    exact absurd listedAfter (renamedForm_free (of_decide_eq_true form))

/-- Among names walked, open ones first, the one that has a form of its own is
found. -/
theorem find_form {form : String → Option String} {own surfaces : List String} {name key : String}
    (apart : Apart form own) (listed : name ∈ own) (formed : form name = some key) :
    (own ++ surfaces).find? (fun other => form other = some key) = some name := by
  cases found : own.find? fun other => form other = some key with
  | none =>
    have unformed := List.find?_eq_none.mp found name listed
    simp [formed] at unformed
  | some first =>
    have formedFirst : form first = some key := by simpa using List.find?_some found
    have same := apart first (List.mem_of_find?_eq_some found) name listed key formedFirst formed
    rw [List.find?_append, found, same, Option.some_or]

theorem wire_open {name : String} (listed : name ∈ sheet.open_) :
    wireName sheet.existing renamedToMcp name ∈ sheet.normalized.open_ :=
  mem_open_rename.mpr ⟨name, listed, rfl⟩

/-- A form from the first pass leads back past what the second pass records. -/
theorem lookup_wayBack_first {name key : String} (apart : Apart sheet.normalizedForm sheet.open_)
    (listed : name ∈ sheet.open_) (form : sheet.normalizedForm name = some key) :
    (sheet.wayBack renames).lookup key = some name := by
  rw [lookup_wayBack, NameSheet.walked, find_form apart listed form, Option.some_or]

/-- The operator's rename of an open tool leads back to the client's name where
the first pass left the tool alone and made the target of nothing walked. -/
theorem restored_operator_iff {name key : String}
    (apart : Apart (sheet.operatorForm renames) sheet.normalized.open_) (listed : name ∈ sheet.open_)
    (form : sheet.operatorForm renames (wireName sheet.existing renamedToMcp name) = some key) :
    ((sheet.wayBack renames).lookup key).getD key = name ↔
      sheet.normalizedForm name = none ∧
        ∀ other ∈ sheet.surfaces, sheet.normalizedForm other ≠ some key := by
  have second := @find_form _ _ sheet.normalized.surfaces _ _ apart (wire_open listed) form
  have unborne (other : String) (listedOther : other ∈ sheet.open_) :
      sheet.normalizedForm other ≠ some key := by
    intro formOther
    apply renamedForm_free form
    rw [← wireName_some formOther]
    exact open_existing (wire_open listedOther)
  cases first : sheet.walked.find? fun other => sheet.normalizedForm other = some key with
  | some other =>
    have formOther : sheet.normalizedForm other = some key := by simpa using List.find?_some first
    have back : (sheet.wayBack renames).lookup key = some other := by
      rw [lookup_wayBack, first, Option.some_or]
    rw [back, Option.getD_some]
    constructor
    · rintro rfl
      exact absurd formOther (unborne other listed)
    · rintro ⟨-, unmade⟩
      rcases List.mem_append.mp (List.mem_of_find?_eq_some first) with own | surface
      · exact absurd formOther (unborne other own)
      · exact absurd formOther (unmade other surface)
  | none =>
    have back : (sheet.wayBack renames).lookup key =
        some (wireName sheet.existing renamedToMcp name) := by
      rw [lookup_wayBack, first, Option.none_or]
      exact second
    rw [back, Option.getD_some]
    constructor
    · intro kept
      constructor
      · cases own : sheet.normalizedForm name with
        | none => rfl
        | some renamed =>
          rw [wireName_some own] at kept
          exact absurd (kept ▸ open_existing listed) (renamedForm_free own)
      · intro other surface formOther
        have unfound := List.find?_eq_none.mp first other (List.mem_append_right _ surface)
        simp [formOther] at unfound
    · rintro ⟨own, -⟩
      exact wireName_none own

theorem restored_iff {name : String} (apart : Apart sheet.normalizedForm sheet.open_)
    (apartAfter : Apart (sheet.operatorForm renames) sheet.normalized.open_)
    (listed : name ∈ sheet.open_) :
    ((sheet.wayBack renames).lookup (sheet.wire renames name)).getD (sheet.wire renames name) = name ↔
      ∀ renamed, sheet.operatorForm renames (wireName sheet.existing renamedToMcp name) =
          some renamed → sheet.normalizedForm name = none ∧
        ∀ other ∈ sheet.surfaces, sheet.normalizedForm other ≠ some renamed := by
  cases second : sheet.operatorForm renames (wireName sheet.existing renamedToMcp name) with
  | some key =>
    rw [NameSheet.wire, wireName_some second, restored_operator_iff apartAfter listed second]
    constructor
    · rintro direct renamed same
      cases same
      exact direct
    · intro direct
      exact direct key rfl
  | none =>
    rw [NameSheet.wire, wireName_none second]
    refine iff_of_true ?_ (fun renamed same => by cases same)
    cases own : sheet.normalizedForm name with
    | some key => rw [wireName_some own, lookup_wayBack_first apart listed own, Option.getD_some]
    | none =>
      have left := wire_open listed
      rw [wireName_none own] at left ⊢
      rw [lookup_wayBack_existing (open_existing listed) (open_existing left), Option.getD_none]

end Names

/-- The names of a body under which the cloak can be taken back: neither pass
gives two open tools one form; a typed client tool that other surfaces name is
renamed by no pass; and the operator renames an open tool only where the first
pass left it, to a form the first pass makes of no name walked. -/
structure Reversible (renames : List ToolRename) (sheet : NameSheet) : Prop where
  normalized : Apart sheet.normalizedForm sheet.open_
  renamed : Apart (sheet.operatorForm renames) sheet.normalized.open_
  custom : ∀ name ∈ sheet.custom, name ∈ sheet.surfaces →
    sheet.normalizedForm name = none ∧ sheet.operatorForm renames name = none
  direct : ∀ name ∈ sheet.open_, ∀ target,
    sheet.operatorForm renames (wireName sheet.existing renamedToMcp name) = some target →
    sheet.normalizedForm name = none ∧
      ∀ other ∈ sheet.surfaces, sheet.normalizedForm other ≠ some target

/-- What the cloak is for: the tools stay apart, one name has one wire name
wherever the client used it, and each tool's wire name leads back. -/
structure Faithful (renames : List ToolRename) (body : Json) : Prop where
  distinct : (nameSheet (cloakToolNames renames body).1).existing.Nodup
  consistent : ∀ first ∈ (nameSheet body).occurrences.zip
      (nameSheet (cloakToolNames renames body).1).occurrences,
    ∀ second ∈ (nameSheet body).occurrences.zip
      (nameSheet (cloakToolNames renames body).1).occurrences,
    first.1 = second.1 → first.2 = second.2
  restored : ∀ tool ∈ (nameSheet body).existing.zip
      (nameSheet (cloakToolNames renames body).1).existing,
    (lookupReverse tool.2 (cloakToolNames renames body).2).getD tool.2 = tool.1

section Faithfulness
variable {sheet : NameSheet} {renames : List ToolRename}

theorem cloaked_tools : (sheet.cloaked renames).tools =
    sheet.tools.map fun tool => { tool with name := sheet.toolWire renames tool } := by
  rw [NameSheet.cloaked, NameSheet.rename, NameSheet.normalized, NameSheet.rename, List.map_map]
  apply List.map_congr_left
  intro tool _
  by_cases untyped : tool.type = .untyped
  · simp [renameTool, untyped, NameSheet.toolWire, NameSheet.wire, NameSheet.normalized,
      NameSheet.rename]
  · simp [renameTool, untyped, NameSheet.toolWire]

theorem cloaked_surfaces :
    (sheet.cloaked renames).surfaces = sheet.surfaces.map (sheet.wire renames) := by
  show (sheet.surfaces.map _).map _ = _
  rw [List.map_map]
  rfl

theorem mem_zip_existing {pair : String × String} :
    pair ∈ sheet.existing.zip (sheet.cloaked renames).existing ↔
      ∃ tool ∈ sheet.tools, (tool.name, sheet.toolWire renames tool) = pair := by
  rw [NameSheet.existing, NameSheet.existing, cloaked_tools, List.map_map, List.zip_map', List.mem_map]
  rfl

theorem mem_zip_occurrences {pair : String × String} :
    pair ∈ sheet.occurrences.zip (sheet.cloaked renames).occurrences ↔
      (∃ tool ∈ sheet.tools, tool.type ≠ .builtin ∧
        (tool.name, sheet.toolWire renames tool) = pair) ∨
      ∃ name ∈ sheet.surfaces, (name, sheet.wire renames name) = pair := by
  have wires : (sheet.cloaked renames).occurrences =
      ((sheet.tools.filter fun tool => tool.type ≠ .builtin).map (sheet.toolWire renames)) ++
        sheet.surfaces.map (sheet.wire renames) := by
    rw [NameSheet.occurrences, cloaked_tools, cloaked_surfaces, List.filter_map, List.map_map]
    rfl
  have surfaces := @List.zip_map' _ _ _ id (sheet.wire renames) sheet.surfaces
  rw [List.map_id] at surfaces
  rw [wires, NameSheet.occurrences, List.zip_append (by simp), List.zip_map', surfaces]
  simp [and_assoc]

/-- Consistency on the names alone. -/
theorem consistent_iff (distinct : sheet.existing.Nodup) :
    (∀ first ∈ sheet.occurrences.zip (sheet.cloaked renames).occurrences,
      ∀ second ∈ sheet.occurrences.zip (sheet.cloaked renames).occurrences,
      first.1 = second.1 → first.2 = second.2) ↔
    ∀ name ∈ sheet.custom, name ∈ sheet.surfaces →
      sheet.normalizedForm name = none ∧ sheet.operatorForm renames name = none := by
  have keptCustom (name : String) (own : name ∈ sheet.custom) :
      sheet.wire renames name = name ↔
        sheet.normalizedForm name = none ∧ sheet.operatorForm renames name = none :=
    wire_kept_iff (name_existing (mem_custom.mp own))
      (name_existing (typed_kept (mem_custom.mp own) (by simp)))
  constructor
  · intro consistent name own surface
    apply (keptCustom name own).mp
    have wires := consistent (name, sheet.wire renames name)
      (mem_zip_occurrences.mpr (.inr ⟨name, surface, rfl⟩)) (name, name)
      (mem_zip_occurrences.mpr (.inl ⟨⟨.custom, name⟩, mem_custom.mp own, by simp, rfl⟩)) rfl
    exact wires
  · intro kept
    have across (tool : ToolName) (listed : tool ∈ sheet.tools) (client : tool.type ≠ .builtin)
        (surface : tool.name ∈ sheet.surfaces) :
        sheet.toolWire renames tool = sheet.wire renames tool.name := by
      obtain ⟨type, name⟩ := tool
      cases type with
      | untyped => rfl
      | custom =>
        exact ((keptCustom name (mem_custom.mpr listed)).mpr
          (kept name (mem_custom.mpr listed) surface)).symm
      | builtin => exact absurd rfl client
    rintro first memberFirst second memberSecond same
    rcases mem_zip_occurrences.mp memberFirst with ⟨tool, listed, client, rfl⟩ | ⟨name, surface, rfl⟩
    · rcases mem_zip_occurrences.mp memberSecond with
        ⟨other, listedOther, _, rfl⟩ | ⟨name, surface, rfl⟩
      · rw [tool_of_name distinct listed listedOther same]
      · cases same
        exact across tool listed client surface
    · rcases mem_zip_occurrences.mp memberSecond with
        ⟨other, listedOther, client, rfl⟩ | ⟨other, surfaceOther, rfl⟩
      · cases same
        exact (across other listedOther client surface).symm
      · cases same
        rfl

end Faithfulness

/-- A body whose tool names are distinct is cloaked faithfully exactly when its
names are reversible. -/
theorem cloak_faithful_iff (renames : List ToolRename) (body : Json)
    (distinct : (nameSheet body).existing.Nodup) :
    Faithful renames body ↔ Reversible renames (nameSheet body) := by
  obtain ⟨sheet, reverse⟩ := cloakToolNames_sheet renames body
  constructor
  · rintro ⟨kept, consistent, restored⟩
    rw [sheet] at kept consistent restored
    obtain ⟨apart, apartAfter⟩ := (cloaked_distinct_iff distinct).mp kept
    refine ⟨apart, apartAfter, (consistent_iff distinct).mp consistent, ?_⟩
    intro name listed
    apply (restored_iff apart apartAfter listed).mp
    have back := restored (name, (nameSheet body).wire renames name)
      (mem_zip_existing.mpr ⟨⟨.untyped, name⟩, mem_open.mp listed, rfl⟩)
    rw [lookupReverse, reverse] at back
    exact back
  · rintro ⟨apart, apartAfter, custom, direct⟩
    constructor
    · rw [sheet]
      exact (cloaked_distinct_iff distinct).mpr ⟨apart, apartAfter⟩
    · rw [sheet]
      exact (consistent_iff distinct).mpr custom
    · rw [sheet, reverse]
      intro pair member
      obtain ⟨⟨type, name⟩, listed, rfl⟩ := mem_zip_existing.mp member
      by_cases untyped : type = .untyped
      · subst untyped
        exact (restored_iff apart apartAfter (mem_open.mpr listed)).mpr
          (direct name (mem_open.mpr listed))
      · have after := name_existing (@typed_kept _
          (wireName (nameSheet body).existing renamedToMcp) _ listed untyped)
        have missing := @lookup_wayBack_existing _ renames _ (name_existing listed) after
        simp only [NameSheet.toolWire, if_neg untyped]
        rw [NameSheet.wayBack] at missing
        rw [lookupReverse, missing, Option.getD_none]

/-- A bare tool, used in a prior turn. -/
def readBody : Json :=
  .object
    [("tools", .array [.object [("name", .string "read")]]),
     ("messages", .array [.object [("content", .array
       [.object [("type", .string "tool_use"), ("name", .string "read")]])]])]

theorem cloak_faithful_read : Faithful [] readBody := by
  apply (cloak_faithful_iff [] readBody (by decide)).mpr
  constructor
  · intro first listed second listedSecond renamed _ _
    rw [List.mem_singleton.mp listed, List.mem_singleton.mp listedSecond]
  · intro first listed second listedSecond renamed _ _
    rw [List.mem_singleton.mp listed, List.mem_singleton.mp listedSecond]
  · intro name own
    cases own
  · intro name listed target form
    rw [List.mem_singleton.mp listed] at form
    cases form

/-- Two tools that the first pass takes to one name. -/
def doubledBody : Json :=
  .object [("tools", .array
    [.object [("name", .string "x")], .object [("name", .string "mcp_x")]])]

/-- A rename of the name the first pass makes. -/
def renamedRead : ToolRename := { fromName := "mcp__read", toName := "Read" }

/-- Distinct tools come out with one name; and under an operator's rename a tool
comes back by the name of the first pass. -/
theorem cloak_unfaithful :
    (nameSheet doubledBody).existing = ["x", "mcp_x"] ∧
      (nameSheet (cloakToolNames [] doubledBody).1).existing = ["mcp__x", "mcp__x"] ∧
      ¬ Faithful [] doubledBody ∧
    (nameSheet (cloakToolNames [renamedRead] readBody).1).existing = ["Read"] ∧
      lookupReverse "Read" (cloakToolNames [renamedRead] readBody).2 = some "mcp__read" ∧
      ¬ Faithful [renamedRead] readBody := by
  have doubled : (nameSheet (cloakToolNames [] doubledBody).1).existing = ["mcp__x", "mcp__x"] := by
    decide
  have renamed : (nameSheet (cloakToolNames [renamedRead] readBody).1).existing = ["Read"] := by
    decide
  have back : lookupReverse "Read" (cloakToolNames [renamedRead] readBody).2 = some "mcp__read" := by
    decide
  refine ⟨by decide, doubled, ?_, renamed, back, ?_⟩
  · intro faithful
    have distinct := faithful.distinct
    rw [doubled] at distinct
    simp at distinct
  · intro faithful
    have restored := faithful.restored ("read", "Read") (by rw [renamed]; decide)
    rw [back] at restored
    simp at restored

end Routectl.Cloak
