import Routectl.Cloak.ToolRename

/-! The tool names of a body, apart from everything else in it, and what one
renaming pass does to them. -/
namespace Routectl.Cloak
open Library

/-- What a tool's type says: nothing, that it is the client's own, or a builtin. -/
inductive ToolType where
  | untyped
  | custom
  | builtin
deriving Repr, DecidableEq

def toolType (tool : Json) : ToolType :=
  match tool.stringField "type" with
  | none => .untyped
  | some tag => if tag.isEmpty then .untyped else if tag = "custom" then .custom else .builtin

structure ToolName where
  type : ToolType
  name : String
deriving Repr, DecidableEq

/-- The names of `tools`, and the names on the other surfaces as they are
walked. -/
structure NameSheet where
  tools : List ToolName
  surfaces : List String
deriving Repr, DecidableEq

def fieldName (field : String) (obj : Json) : List String := (obj.stringField field).toList

def toolNames (tool : Json) : List ToolName := (fieldName "name" tool).map fun name =>
  { type := toolType tool, name }

def nestedNames (nested : Json) : List String :=
  if nested.stringField "type" = some "tool_reference" then fieldName "tool_name" nested else []

def partNames (part : Json) : List String :=
  match part.stringField "type" with
  | some "tool_use" => fieldName "name" part
  | some "tool_reference" => fieldName "tool_name" part
  | some "tool_result" => (part.arrayField "content").flatMap nestedNames
  | _ => []

def messageNames (message : Json) : List String := (message.arrayField "content").flatMap partNames

def choiceNames (body : Json) : List String :=
  match body.field "tool_choice" with
  | none => []
  | some choice =>
    if choice.stringField "type" = some "tool" then fieldName "name" choice else []

def nameSheet (body : Json) : NameSheet :=
  { tools := (body.arrayField "tools").flatMap toolNames,
    surfaces := choiceNames body ++ (body.arrayField "messages").flatMap messageNames }

/-- The form a name is renamed to, unless a tool bears it. -/
def renamedForm (existing : List String) (renamer : String → Option String) (name : String) :
    Option String :=
  (renamer name).filter fun renamed => renamed ∉ existing

def wireName (existing : List String) (renamer : String → Option String) (name : String) : String :=
  (renamedForm existing renamer name).getD name

def record (existing : List String) (renamer : String → Option String) (reverse : Reverse)
    (name : String) : Reverse :=
  match renamedForm existing renamer name with
  | none => reverse
  | some renamed => recordReverse reverse renamed name

/-- A pass rewrites the tools that carry no type. -/
def renameTool (rewrite : String → String) (tool : ToolName) : ToolName :=
  if tool.type = .untyped then { tool with name := rewrite tool.name } else tool

namespace NameSheet

def existing (sheet : NameSheet) : List String := sheet.tools.map ToolName.name

/-- The tool names a pass rewrites. -/
def open_ (sheet : NameSheet) : List String :=
  (sheet.tools.filter fun tool => tool.type = .untyped).map ToolName.name

/-- The names of the tools that say they are the client's own. -/
def custom (sheet : NameSheet) : List String :=
  (sheet.tools.filter fun tool => tool.type = .custom).map ToolName.name

def walked (sheet : NameSheet) : List String := sheet.open_ ++ sheet.surfaces

def rename (rewrite : String → String) (sheet : NameSheet) : NameSheet :=
  { tools := sheet.tools.map (renameTool rewrite),
    surfaces := sheet.surfaces.map rewrite }

end NameSheet

section Walk
variable {existing : List String} {renamer : String → Option String}

theorem toolIsBuiltin_eq (tool : Json) : toolIsBuiltin tool = decide (toolType tool ≠ .untyped) := by
  rw [toolIsBuiltin, toolType]
  cases tool.stringField "type" with
  | none => rfl
  | some tag =>
    by_cases empty : tag.isEmpty = true
    · simp [empty]
    · by_cases own : tag = "custom"
      · simp [own]
      · simp [empty, own]

theorem renameNameField_cases (field : String) (obj : Json) (reverse : Reverse) :
    renameNameField existing renamer field obj reverse =
      match obj.stringField field with
      | none => (obj, reverse)
      | some original =>
        match renamedForm existing renamer original with
        | none => (obj, reverse)
        | some renamed =>
          (obj.setField field (.string renamed), recordReverse reverse renamed original) := by
  rw [renameNameField]
  cases obj.stringField field with
  | none => rfl
  | some original =>
    dsimp only [renamedForm]
    cases renamer original with
    | none => rfl
    | some renamed =>
      by_cases taken : renamed ∈ existing
      · simp [Option.filter, taken]
      · simp [Option.filter, taken]

theorem renameNameField_field {other field : String} (different : other ≠ field) (obj : Json)
    (reverse : Reverse) :
    (renameNameField existing renamer field obj reverse).1.field other = obj.field other := by
  rw [renameNameField_cases]
  split
  · rfl
  · split
    · rfl
    · exact Json.field_setField_ne different obj _

theorem renameNameField_type {field : String} (different : "type" ≠ field) (obj : Json)
    (reverse : Reverse) :
    (renameNameField existing renamer field obj reverse).1.stringField "type" =
      obj.stringField "type" := by
  rw [Json.stringField, renameNameField_field different, Json.stringField]

theorem renameNameField_rewrites (field : String) :
    Rewrites (wireName existing renamer) (record existing renamer) (fieldName field)
      (renameNameField existing renamer field) := by
  constructor
  · intro obj reverse
    rw [renameNameField_cases]
    simp only [fieldName]
    cases held : obj.stringField field with
    | none => simp [held]
    | some original =>
      simp only [Option.toList_some, List.map_cons, List.map_nil, wireName]
      cases renamedForm existing renamer original with
      | none => simp [held]
      | some renamed => simp [Json.stringField_setField_self held]
  · intro obj reverse
    rw [renameNameField_cases, fieldName]
    cases obj.stringField field with
    | none => rfl
    | some original =>
      simp only [Option.toList_some, List.foldl_cons, List.foldl_nil, record]
      cases renamedForm existing renamer original with
      | none => rfl
      | some renamed => rfl

theorem renameNestedPart_rewrites :
    Rewrites (wireName existing renamer) (record existing renamer) nestedNames
      (renameNestedPart existing renamer) := by
  have fieldRewrites := @renameNameField_rewrites existing renamer "tool_name"
  constructor
  · intro nested reverse
    by_cases referenced : nested.stringField "type" = some "tool_reference"
    · simp only [renameNestedPart, nestedNames, referenced, if_true,
        renameNameField_type (by decide : "type" ≠ "tool_name")]
      exact fieldRewrites.items nested reverse
    · simp [renameNestedPart, nestedNames, referenced]
  · intro nested reverse
    by_cases referenced : nested.stringField "type" = some "tool_reference"
    · simp only [renameNestedPart, nestedNames, referenced, if_true]
      exact fieldRewrites.state nested reverse
    · simp [renameNestedPart, nestedNames, referenced]

theorem threadArray_type {visit : Json → Reverse → Json × Reverse} {name : String}
    (different : "type" ≠ name) (json : Json) (reverse : Reverse) :
    (threadArray name visit json reverse).1.stringField "type" = json.stringField "type" := by
  rw [Json.stringField, threadArray_field_ne different, Json.stringField]

theorem renameContentPart_type (part : Json) (reverse : Reverse) :
    (renameContentPart existing renamer part reverse).1.stringField "type" =
      part.stringField "type" := by
  rw [renameContentPart]
  split
  · exact renameNameField_type (by decide) part reverse
  · exact renameNameField_type (by decide) part reverse
  · exact threadArray_type (by decide) part reverse
  · rfl

/-- A part is used, referenced, answered, or walked past. -/
theorem part_shape (part : Json) :
    part.stringField "type" = some "tool_use" ∨ part.stringField "type" = some "tool_reference" ∨
      part.stringField "type" = some "tool_result" ∨
      (partNames part = [] ∧ ∀ (other : Json) (reverse : Reverse),
        other.stringField "type" = part.stringField "type" → partNames other = [] ∧
          renameContentPart existing renamer other reverse = (other, reverse)) := by
  by_cases used : part.stringField "type" = some "tool_use"
  · exact .inl used
  · by_cases referenced : part.stringField "type" = some "tool_reference"
    · exact .inr (.inl referenced)
    · by_cases answered : part.stringField "type" = some "tool_result"
      · exact .inr (.inr (.inl answered))
      · refine .inr (.inr (.inr ?_))
        have past (other : Json) (reverse : Reverse)
            (same : other.stringField "type" = part.stringField "type") :
            partNames other = [] ∧
              renameContentPart existing renamer other reverse = (other, reverse) := by
          rw [partNames, renameContentPart, same]
          constructor
          · split
            · exact absurd ‹_› used
            · exact absurd ‹_› referenced
            · exact absurd ‹_› answered
            · rfl
          · split
            · exact absurd ‹_› used
            · exact absurd ‹_› referenced
            · exact absurd ‹_› answered
            · rfl
        exact ⟨(past part ∅ rfl).1, past⟩

/-- Each shape of a part has its own names and its own walk. -/
theorem renameContentPart_rewrites :
    Rewrites (wireName existing renamer) (record existing renamer) partNames
      (renameContentPart existing renamer) := by
  have usedRewrites := @renameNameField_rewrites existing renamer "name"
  have referencedRewrites := @renameNameField_rewrites existing renamer "tool_name"
  have answeredRewrites := (@renameNestedPart_rewrites existing renamer).threadArray "content"
  constructor
  · intro part reverse
    rcases @part_shape existing renamer part with used | referenced | answered | ⟨none, past⟩
    · rw [partNames, renameContentPart_type, partNames, used]
      simp only [renameContentPart, used]
      exact usedRewrites.items part reverse
    · rw [partNames, renameContentPart_type, partNames, referenced]
      simp only [renameContentPart, referenced]
      exact referencedRewrites.items part reverse
    · rw [partNames, renameContentPart_type, partNames, answered]
      simp only [renameContentPart, answered]
      exact answeredRewrites.items part reverse
    · rw [(past part reverse rfl).2, none]
      rfl
  · intro part reverse
    rcases @part_shape existing renamer part with used | referenced | answered | ⟨none, past⟩
    · simp only [partNames, renameContentPart, used]
      exact usedRewrites.state part reverse
    · simp only [partNames, renameContentPart, referenced]
      exact referencedRewrites.state part reverse
    · simp only [partNames, renameContentPart, answered]
      exact answeredRewrites.state part reverse
    · rw [(past part reverse rfl).2, none]
      rfl

theorem renameMessageToolRefs_rewrites :
    Rewrites (wireName existing renamer) (record existing renamer)
      (fun body => (body.arrayField "messages").flatMap messageNames)
      (renameMessageToolRefs existing renamer) :=
  (renameContentPart_rewrites.threadArray "content").threadArray "messages"

theorem renameToolChoice_rewrites :
    Rewrites (wireName existing renamer) (record existing renamer) choiceNames
      (renameToolChoice existing renamer) := by
  have chosen := @renameNameField_rewrites existing renamer "name"
  constructor
  · intro body reverse
    rw [renameToolChoice]
    cases held : body.field "tool_choice" with
    | none => simp [choiceNames, held]
    | some choice =>
      by_cases named : choice.stringField "type" = some "tool"
      · have typed := @renameNameField_type existing renamer _
          (by decide : "type" ≠ "name") choice reverse
        simp only [choiceNames, held, named, if_true, typed,
          Json.field_setField_self (held ▸ Option.some_ne_none _)]
        exact chosen.items choice reverse
      · simp [choiceNames, held, named]
  · intro body reverse
    rw [renameToolChoice, choiceNames]
    cases body.field "tool_choice" with
    | none => rfl
    | some choice =>
      by_cases named : choice.stringField "type" = some "tool"
      · simp only [named, if_true]
        exact chosen.state choice reverse
      · simp [named]

theorem renameToolChoice_field {other : String} (different : other ≠ "tool_choice") (body : Json)
    (reverse : Reverse) :
    (renameToolChoice existing renamer body reverse).1.field other = body.field other := by
  rw [renameToolChoice]
  split
  · rfl
  · split
    · exact Json.field_setField_ne different body _
    · rfl

/-- The walk over `tools`: a builtin and a tool of type custom are passed by. -/
def visitTool (existing : List String) (renamer : String → Option String) (tool : Json)
    (reverse : Reverse) : Json × Reverse :=
  if toolIsBuiltin tool then (tool, reverse) else renameNameField existing renamer "name" tool reverse

def openNames (tool : Json) : List String :=
  if toolType tool = .untyped then fieldName "name" tool else []

theorem visitTool_names (tool : Json) (reverse : Reverse) :
    toolNames (visitTool existing renamer tool reverse).1 =
      (toolNames tool).map (renameTool (wireName existing renamer)) := by
  rw [visitTool, toolIsBuiltin_eq]
  by_cases untyped : toolType tool = .untyped
  · have typed : toolType (renameNameField existing renamer "name" tool reverse).1 =
        toolType tool := by
      rw [toolType, renameNameField_type (by decide), toolType]
    have renamed := (@renameNameField_rewrites existing renamer "name").items tool reverse
    simp [untyped, toolNames, typed, renamed, renameTool]
  · simp [untyped, toolNames, renameTool]

theorem visitTool_reverse (tool : Json) (reverse : Reverse) :
    (visitTool existing renamer tool reverse).2 =
      (openNames tool).foldl (record existing renamer) reverse := by
  rw [visitTool, toolIsBuiltin_eq, openNames]
  by_cases untyped : toolType tool = .untyped
  · simpa [untyped] using (@renameNameField_rewrites existing renamer "name").state tool reverse
  · simp [untyped]

theorem threadItems_visitTool (tools : List Json) (reverse : Reverse) :
    (threadItems (visitTool existing renamer) tools reverse).1.flatMap toolNames =
        (tools.flatMap toolNames).map (renameTool (wireName existing renamer)) ∧
      (threadItems (visitTool existing renamer) tools reverse).2 =
        (tools.flatMap openNames).foldl (record existing renamer) reverse := by
  induction tools generalizing reverse with
  | nil => exact ⟨rfl, rfl⟩
  | cons tool rest ih =>
    obtain ⟨names, final⟩ := ih ((openNames tool).foldl (record existing renamer) reverse)
    simp only [threadItems, List.flatMap_cons, List.map_append, List.foldl_append, visitTool_names,
      visitTool_reverse, names, final, and_self]

theorem openNames_eq (tools : List Json) :
    tools.flatMap openNames =
      ((tools.flatMap toolNames).filter fun tool => tool.type = .untyped).map ToolName.name := by
  induction tools with
  | nil => rfl
  | cons tool rest ih =>
    rw [List.flatMap_cons, List.flatMap_cons, List.filter_append, List.map_append, ih]
    congr 1
    simp only [openNames, toolNames, fieldName]
    cases tool.stringField "name" with
    | none => simp
    | some name =>
      by_cases untyped : toolType tool = .untyped
      · simp [untyped]
      · simp [untyped]

theorem collectExistingToolNames_eq (body : Json) :
    collectExistingToolNames body = (nameSheet body).existing := by
  simp only [collectExistingToolNames, NameSheet.existing, nameSheet]
  induction body.arrayField "tools" with
  | nil => rfl
  | cons tool rest ih =>
    simp only [List.flatMap_cons, List.map_append, List.filterMap_cons, toolNames, fieldName,
      List.map_map]
    cases tool.stringField "name" with
    | none => simpa using ih
    | some name => simpa using ih

section Frames
variable (body : Json) (reverse : Reverse)

theorem renameToolsArray_names :
    ((renameToolsArray existing renamer body reverse).1.arrayField "tools").flatMap toolNames =
        ((body.arrayField "tools").flatMap toolNames).map
          (renameTool (wireName existing renamer)) ∧
      (renameToolsArray existing renamer body reverse).2 =
        ((body.arrayField "tools").flatMap openNames).foldl (record existing renamer) reverse := by
  obtain ⟨visited, recorded⟩ := @threadArray_arrayField _ (visitTool existing renamer) "tools" body
    reverse
  obtain ⟨names, final⟩ := @threadItems_visitTool existing renamer (body.arrayField "tools") reverse
  constructor
  · rw [← names, ← visited]
    rfl
  · rw [← final, ← recorded]
    rfl

theorem choiceNames_congr {first second : Json}
    (same : first.field "tool_choice" = second.field "tool_choice") :
    choiceNames first = choiceNames second := by
  rw [choiceNames, same, choiceNames]

theorem arrayField_congr {first second : Json} {name : String}
    (same : first.field name = second.field name) :
    first.arrayField name = second.arrayField name := by
  rw [Json.arrayField, same, Json.arrayField]

end Frames

/-- One pass, on the names alone: open tools and surfaces go through the same
rewriting, and the way back is recorded in the order walked. -/
theorem renameToolNamesWith_sheet (renamer : String → Option String) (body : Json)
    (reverse : Reverse) :
    nameSheet (renameToolNamesWith renamer body reverse).1 =
        (nameSheet body).rename (wireName (nameSheet body).existing renamer) ∧
      (renameToolNamesWith renamer body reverse).2 =
        (nameSheet body).walked.foldl (record (nameSheet body).existing renamer) reverse := by
  rw [← collectExistingToolNames_eq]
  simp only [renameToolNamesWith]
  generalize collectExistingToolNames body = existing
  obtain ⟨toolNamesAfter, toolReverse⟩ :=
    @renameToolsArray_names existing renamer body reverse
  have toolsFrame (other : String) (different : other ≠ "tools") :
      (renameToolsArray existing renamer body reverse).1.field other = body.field other :=
    threadArray_field_ne different body reverse
  generalize renameToolsArray existing renamer body reverse = afterTools at *
  obtain ⟨toolsBody, toolsReverse⟩ := afterTools
  dsimp only at toolNamesAfter toolReverse toolsFrame ⊢
  have choice := @renameToolChoice_rewrites existing renamer
  have choiceNamesAfter := choice.items toolsBody toolsReverse
  have choiceReverse := choice.state toolsBody toolsReverse
  have choiceFrame (other : String) (different : other ≠ "tool_choice") :
      (renameToolChoice existing renamer toolsBody toolsReverse).1.field other =
        toolsBody.field other :=
    renameToolChoice_field different toolsBody toolsReverse
  generalize renameToolChoice existing renamer toolsBody toolsReverse = afterChoice at *
  obtain ⟨choiceBody, chosenReverse⟩ := afterChoice
  dsimp only at choiceNamesAfter choiceReverse choiceFrame ⊢
  have messages := @renameMessageToolRefs_rewrites existing renamer
  have messageNamesAfter := messages.items choiceBody chosenReverse
  have messageReverse := messages.state choiceBody chosenReverse
  have messageFrame (other : String) (different : other ≠ "messages") :
      (renameMessageToolRefs existing renamer choiceBody chosenReverse).1.field other =
        choiceBody.field other :=
    threadArray_field_ne different choiceBody chosenReverse
  generalize renameMessageToolRefs existing renamer choiceBody chosenReverse = afterMessages at *
  obtain ⟨finalBody, finalReverse⟩ := afterMessages
  dsimp only at messageNamesAfter messageReverse messageFrame ⊢
  have messagesKept : choiceBody.arrayField "messages" = body.arrayField "messages" :=
    arrayField_congr ((choiceFrame _ (by decide)).trans (toolsFrame _ (by decide)))
  have choiceKept : choiceNames toolsBody = choiceNames body :=
    choiceNames_congr (toolsFrame _ (by decide))
  constructor
  · rw [nameSheet, arrayField_congr ((messageFrame "tools" (by decide)).trans
        (choiceFrame "tools" (by decide))), toolNamesAfter,
      choiceNames_congr (messageFrame "tool_choice" (by decide)), choiceNamesAfter, choiceKept,
      messageNamesAfter, messagesKept, ← List.map_append]
    rfl
  · rw [messageReverse, choiceReverse, toolReverse, messagesKept, choiceKept, openNames_eq,
      ← List.foldl_append, ← List.foldl_append]
    rfl

end Walk
end Routectl.Cloak
