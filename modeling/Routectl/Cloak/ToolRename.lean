import Routectl.Library.JsonFields
import Routectl.Library.KeyedMap

/-! The tool-name cloak: names go to the double-underscore prefix, then through
the operator's renames, and the way back is recorded beside. -/
namespace Routectl.Cloak
open Library

/-- Upstream name to original client name. -/
abbrev Reverse := KeyedMap String String

structure ToolRename where
  fromName : String
  toName : String
deriving Repr, DecidableEq

def mcpSinglePrefix : String := "mcp_"
def mcpDoublePrefix : String := "mcp__"

/-- None for a name that has the double prefix already. -/
def renamedToMcp (name : String) : Option String :=
  if mcpDoublePrefix.toList.isPrefixOf name.toList then none
  else if mcpSinglePrefix.toList.isPrefixOf name.toList then
    some (mcpDoublePrefix ++ String.ofList (name.toList.drop mcpSinglePrefix.length))
  else some (mcpDoublePrefix ++ name)

def collectExistingToolNames (body : Json) : List String :=
  (body.arrayField "tools").filterMap (Json.stringField "name")

section Pass
variable (existing : List String) (renamer : String → Option String)

/-- The first original recorded under a renamed form stays. -/
def recordReverse (reverse : Reverse) (renamed original : String) : Reverse :=
  if (reverse.lookup renamed).isSome then reverse else reverse.insert renamed original

def renameNameField (field : String) (obj : Json) (reverse : Reverse) : Json × Reverse :=
  match obj.stringField field with
  | none => (obj, reverse)
  | some original =>
    match renamer original with
    | none => (obj, reverse)
    | some renamed =>
      if renamed ∈ existing then (obj, reverse)
      else (obj.setField field (.string renamed), recordReverse reverse renamed original)

def toolIsBuiltin (tool : Json) : Bool := (tool.stringField "type").any fun tag => !tag.isEmpty

def renameToolsArray (body : Json) (reverse : Reverse) : Json × Reverse :=
  threadArray "tools"
    (fun tool reverse =>
      if toolIsBuiltin tool then (tool, reverse)
      else renameNameField existing renamer "name" tool reverse)
    body reverse

def renameToolChoice (body : Json) (reverse : Reverse) : Json × Reverse :=
  match body.field "tool_choice" with
  | none => (body, reverse)
  | some choice =>
    if choice.stringField "type" = some "tool" then
      let (renamed, recorded) := renameNameField existing renamer "name" choice reverse
      (body.setField "tool_choice" renamed, recorded)
    else (body, reverse)

def renameNestedPart (nested : Json) (reverse : Reverse) : Json × Reverse :=
  if nested.stringField "type" = some "tool_reference" then
    renameNameField existing renamer "tool_name" nested reverse
  else (nested, reverse)

def renameContentPart (part : Json) (reverse : Reverse) : Json × Reverse :=
  match part.stringField "type" with
  | some "tool_use" => renameNameField existing renamer "name" part reverse
  | some "tool_reference" => renameNameField existing renamer "tool_name" part reverse
  | some "tool_result" =>
    threadArray "content" (renameNestedPart existing renamer) part reverse
  | _ => (part, reverse)

def renameMessageToolRefs (body : Json) (reverse : Reverse) : Json × Reverse :=
  threadArray "messages" (threadArray "content" (renameContentPart existing renamer)) body reverse

end Pass

def renameToolNamesWith (renamer : String → Option String) (body : Json) (reverse : Reverse) :
    Json × Reverse :=
  let existing := collectExistingToolNames body
  let (tools, afterTools) := renameToolsArray existing renamer body reverse
  let (choice, afterChoice) := renameToolChoice existing renamer tools afterTools
  renameMessageToolRefs existing renamer choice afterChoice

def normalizeToolNamesToMcp (body : Json) : Json × Reverse :=
  renameToolNamesWith renamedToMcp body ∅

/-- The first entry of a name wins; entries without a name are skipped. -/
def operatorRename (renames : List ToolRename) (name : String) : Option String :=
  ((renames.find? fun rename => !rename.fromName.isEmpty && rename.fromName = name).map
    ToolRename.toName).filter fun toName => toName ≠ name

def applyToolRename (renames : List ToolRename) (body : Json) (reverse : Reverse) :
    Json × Reverse :=
  if renames.all fun rename => rename.fromName.isEmpty then (body, reverse)
  else renameToolNamesWith (operatorRename renames) body reverse

/-- Both passes, as the egress makes them. -/
def cloakToolNames (renames : List ToolRename) (body : Json) : Json × Reverse :=
  let (normalized, reverse) := normalizeToolNamesToMcp body
  applyToolRename renames normalized reverse

def lookupReverse (name : String) (reverse : Reverse) : Option String := reverse.lookup name

end Routectl.Cloak
