import Routectl.Library.JsonTree

/-! Redaction of traced bodies: the carry artifacts of reasoning always, the prompts where the
knob is on. -/
namespace Routectl.LogSafe
open Library
open Library.Json (mapFields modifyField onObject onItems typeOf)

abbrev Fields := List (String × Json)

def redacted (text : String) : Json :=
  .string ("<redacted len=" ++ toString text.length ++ ">")

def redactedObject : Json := .object [("redacted", .bool true)]

/-- A string of at least so many bytes. -/
def redactLongStringLeaf (minLen : Nat) : Json → Json
  | .string text => if minLen ≤ text.utf8ByteSize then redacted text else .string text
  | other => other

section Walks
variable (walk : Json → Json)

mutual
/-- A string, the strings of an array of any depth, and the walk for what is no string. -/
def redactStringOrRecurse : Json → Json
  | .string text => redacted text
  | .array items => .array (redactContentArray items)
  | other => walk other

def redactContentArray : List Json → List Json
  | [] => []
  | item :: rest => redactStringOrRecurse item :: redactContentArray rest
end

def redactReasoningArtifactFields (fields : Fields) : Fields :=
  let carried := modifyField "encrypted_content" (redactStringOrRecurse walk) fields
  if typeOf fields = some "thinking" then
    modifyField "signature" (redactStringOrRecurse walk) carried
  else if typeOf fields = some "redacted_thinking" then
    modifyField "data" (redactStringOrRecurse walk) carried
  else if typeOf fields = some "reasoning" then
    modifyField "id" (redactStringOrRecurse walk) carried
  else carried

def collapseToolUse : Json → Json := onObject (modifyField "input" fun _ => redactedObject)

def collapseToolResult : Json → Json :=
  onObject (modifyField "content"
    (onItems (onObject (modifyField "json" fun _ => redactedObject))))

def collapseReasoningContent : Json → Json :=
  onObject (modifyField "redactedContent" fun _ => redactedObject)

def redactSourceBytes : Json → Json :=
  onObject (modifyField "bytes" (redactLongStringLeaf 256))

/-- The payloads that are replaced whole, before the keys are swept. -/
def collapsePayloads (fields : Fields) : Fields :=
  let fields :=
    if typeOf fields = some "tool_use" then modifyField "input" (fun _ => redactedObject) fields
    else fields
  let fields := modifyField "toolUse" collapseToolUse fields
  let fields := modifyField "toolResult" collapseToolResult fields
  let fields := modifyField "reasoningContent" collapseReasoningContent fields
  let fields := modifyField "promptVariables" (fun _ => redactedObject) fields
  let fields := modifyField "citations" (fun _ => redactedObject) fields
  let fields := modifyField "annotations" (fun _ => redactedObject) fields
  let fields := modifyField "metadata" (fun _ => redactedObject) fields
  let fields := modifyField "client_metadata" (fun _ => redactedObject) fields
  let fields :=
    if typeOf fields = some "document" then modifyField "title" (redactLongStringLeaf 0) fields
    else fields
  modifyField "source" redactSourceBytes fields

def sweep (key : String) (value : Json) : Json :=
  match key with
  | "text" | "thinking" | "instructions" | "reasoning" | "arguments" | "refusal"
  | "transcript" => redactStringOrRecurse walk value
  | "system" | "content" | "output" => redactStringOrRecurse walk value
  | "data" =>
    match value with
    | .string text => redactLongStringLeaf 256 (.string text)
    | other => walk other
  | "file_data" =>
    match value with
    | .string text => redactLongStringLeaf 0 (.string text)
    | other => walk other
  | "url" =>
    match value with
    | .string text =>
      if "data:".toList.isPrefixOf text.toList ∧ 256 < text.utf8ByteSize then redacted text
      else .string text
    | other => walk other
  | "user_id" | "session_id" | "prompt_cache_key" | "user" => redactStringOrRecurse walk value
  | _ => walk value

end Walks

/-- The full walk, as far down as the fuel. -/
def redactValue : Nat → Json → Json
  | 0, value => value
  | fuel + 1, .array items => .array (items.map (redactValue fuel))
  | fuel + 1, .object fields =>
    .object (mapFields (sweep (redactValue fuel))
      (collapsePayloads (redactReasoningArtifactFields (redactValue fuel) fields)))
  | _ + 1, other => other

/-- The walk for the artifacts alone; what stands under an artifact's key is walked in full. -/
def redactReasoningArtifacts : Nat → Json → Json
  | 0, value => value
  | fuel + 1, .array items => .array (items.map (redactReasoningArtifacts fuel))
  | fuel + 1, .object fields =>
    .object (mapFields (fun _ => redactReasoningArtifacts fuel)
      (redactReasoningArtifactFields (redactValue fuel) fields))
  | _ + 1, other => other

mutual
/-- How deep arrays and objects are nested. -/
def depth : Json → Nat
  | .array items => itemsDepth items + 1
  | .object fields => fieldsDepth fields + 1
  | _ => 0

def itemsDepth : List Json → Nat
  | [] => 0
  | item :: rest => max (depth item) (itemsDepth rest)

def fieldsDepth : Fields → Nat
  | [] => 0
  | (_, value) :: rest => max (depth value) (fieldsDepth rest)
end

/-- Fuel of the nesting depth is enough, see `redactPromptsWithFlag_eq`. -/
def redactPromptsWithFlag (body : Json) (enabled : Bool) : Json :=
  if enabled then redactValue (depth body) body else redactReasoningArtifacts (depth body) body

section Objects
variable {walk : Json → Json} {fields : Fields} {type : Option String} {key : String}

def IsArtifact (type : Option String) (key : String) : Prop :=
  key = "encrypted_content" ∨ (type = some "thinking" ∧ key = "signature") ∨
    (type = some "redacted_thinking" ∧ key = "data") ∨ (type = some "reasoning" ∧ key = "id")

instance : Decidable (IsArtifact type key) := by unfold IsArtifact; infer_instance

/-- The keys whose values are replaced whatever they are. -/
def IsReplaced (type : Option String) (key : String) : Prop :=
  (type = some "tool_use" ∧ key = "input") ∨
    key ∈ ["promptVariables", "citations", "annotations", "metadata", "client_metadata"]

instance : Decidable (IsReplaced type key) := by unfold IsReplaced; infer_instance

def artifactEntry (walk : Json → Json) (type : Option String) (key : String) (value : Json) :
    Json :=
  if IsArtifact type key then redactStringOrRecurse walk value else value

def collapseEntry (type : Option String) (key : String) (value : Json) : Json :=
  if IsReplaced type key then redactedObject
  else if key = "toolUse" then collapseToolUse value
  else if key = "toolResult" then collapseToolResult value
  else if key = "reasoningContent" then collapseReasoningContent value
  else if key = "source" then redactSourceBytes value
  else if type = some "document" ∧ key = "title" then redactLongStringLeaf 0 value
  else value

theorem typeOf_modifyField {name : String} (other : name ≠ "type") (change : Json → Json)
    (fields : Fields) : typeOf (modifyField name change fields) = typeOf fields := by
  apply Json.typeOf_mapFields
  intro value
  rw [if_neg (Ne.symm other)]

theorem carried_artifact {name : String} (other : name ≠ "encrypted_content")
    (keys : ∀ key, IsArtifact type key ↔ key = "encrypted_content" ∨ key = name)
    (walk : Json → Json) (fields : Fields) :
    modifyField name (redactStringOrRecurse walk)
        (modifyField "encrypted_content" (redactStringOrRecurse walk) fields) =
      mapFields (artifactEntry walk type) fields := by
  rw [modifyField, modifyField, Json.mapFields_mapFields]
  apply Json.mapFields_congr
  rintro ⟨key, value⟩ -
  dsimp only [artifactEntry]
  by_cases carried : key = "encrypted_content"
  · rw [if_pos ((keys key).mpr (Or.inl carried)), if_pos carried, if_neg]
    rw [carried]
    exact other.symm
  · rw [if_neg carried]
    by_cases named : key = name
    · rw [if_pos named, if_pos ((keys key).mpr (Or.inr named))]
    · rw [if_neg named, if_neg fun artifact => ((keys key).mp artifact).elim carried named]

theorem redactReasoningArtifactFields_eq (walk : Json → Json) (fields : Fields) :
    redactReasoningArtifactFields walk fields =
      mapFields (artifactEntry walk (typeOf fields)) fields := by
  unfold redactReasoningArtifactFields
  dsimp only
  split_ifs with thinking hidden reasoning
  · exact carried_artifact (by decide) (fun key => by simp [IsArtifact, thinking]) walk fields
  · exact carried_artifact (by decide) (fun key => by simp [IsArtifact, hidden]) walk fields
  · exact carried_artifact (by decide) (fun key => by simp [IsArtifact, reasoning]) walk fields
  · apply Json.mapFields_congr
    intro entry _
    simp [artifactEntry, IsArtifact, thinking, hidden, reasoning]

theorem modifyField_if (condition : Prop) [Decidable condition] (name : String)
    (change : Json → Json) (fields : Fields) :
    (if condition then modifyField name change fields else fields) =
      mapFields (fun key value => if condition ∧ key = name then change value else value)
        fields := by
  split
  case isTrue holds =>
    apply Json.mapFields_congr
    intro entry _
    simp [holds]
  case isFalse fails =>
    simp [fails, mapFields]

def payloadKeys : List String :=
  ["input", "toolUse", "toolResult", "reasoningContent", "promptVariables", "citations",
    "annotations", "metadata", "client_metadata", "title", "source"]

theorem collapsePayloads_eq (fields : Fields) :
    collapsePayloads fields = mapFields (collapseEntry (typeOf fields)) fields := by
  have typed : ∀ change, typeOf (if typeOf fields = some "tool_use" then
      modifyField "input" change fields else fields) = typeOf fields := by
    intro change
    split
    · exact typeOf_modifyField (by decide) change fields
    · rfl
  unfold collapsePayloads
  simp only [typeOf_modifyField (show "toolUse" ≠ "type" by decide),
    typeOf_modifyField (show "toolResult" ≠ "type" by decide),
    typeOf_modifyField (show "reasoningContent" ≠ "type" by decide),
    typeOf_modifyField (show "promptVariables" ≠ "type" by decide),
    typeOf_modifyField (show "citations" ≠ "type" by decide),
    typeOf_modifyField (show "annotations" ≠ "type" by decide),
    typeOf_modifyField (show "metadata" ≠ "type" by decide),
    typeOf_modifyField (show "client_metadata" ≠ "type" by decide), typed]
  generalize typeOf fields = type
  simp only [modifyField_if]
  unfold modifyField
  simp only [Json.mapFields_mapFields]
  apply Json.mapFields_congr
  rintro ⟨key, value⟩ -
  dsimp only [collapseEntry, IsReplaced]
  by_cases payload : key ∈ payloadKeys
  · simp only [payloadKeys, List.mem_cons, List.not_mem_nil, or_false] at payload
    rcases payload with rfl | rfl | rfl | rfl | rfl | rfl | rfl | rfl | rfl | rfl | rfl
    all_goals simp
  · simp only [payloadKeys, List.mem_cons, List.not_mem_nil, or_false, not_or] at payload
    simp [payload]

/-- What a field's value becomes in an object of the type. -/
def redactEntry (walk : Json → Json) (type : Option String) (key : String) (value : Json) :
    Json :=
  sweep walk key (collapseEntry type key (artifactEntry walk type key value))

theorem typeOf_artifacts (walk : Json → Json) (fields : Fields) :
    typeOf (redactReasoningArtifactFields walk fields) = typeOf fields := by
  rw [redactReasoningArtifactFields_eq]
  apply Json.typeOf_mapFields
  intro value
  simp [artifactEntry, IsArtifact]

theorem redactFields_eq (walk : Json → Json) (fields : Fields) :
    mapFields (sweep walk) (collapsePayloads (redactReasoningArtifactFields walk fields)) =
      mapFields (redactEntry walk (typeOf fields)) fields := by
  rw [collapsePayloads_eq, typeOf_artifacts, redactReasoningArtifactFields_eq,
    Json.mapFields_mapFields, Json.mapFields_mapFields]
  rfl

theorem redactValue_object (fuel : Nat) (fields : Fields) :
    redactValue (fuel + 1) (.object fields) =
      .object (mapFields (redactEntry (redactValue fuel) (typeOf fields)) fields) :=
  congrArg Json.object (redactFields_eq (redactValue fuel) fields)

theorem redactReasoningArtifacts_object (fuel : Nat) (fields : Fields) :
    redactReasoningArtifacts (fuel + 1) (.object fields) =
      .object (mapFields (fun key value => redactReasoningArtifacts fuel
        (artifactEntry (redactValue fuel) (typeOf fields) key value)) fields) := by
  rw [redactReasoningArtifacts, redactReasoningArtifactFields_eq, Json.mapFields_mapFields]

theorem redactContentArray_eq_map (walk : Json → Json) (items : List Json) :
    redactContentArray walk items = items.map (redactStringOrRecurse walk) := by
  induction items with
  | nil => rfl
  | cons item rest ih => rw [redactContentArray, ih, List.map_cons]

end Objects

section Sweeping
variable {walk : Json → Json} {key : String} {value : Json}

/-- The keys whose strings, and the strings of whose arrays, are always redacted. -/
def contentKeys : List String :=
  ["text", "thinking", "instructions", "reasoning", "arguments", "refusal", "transcript",
    "system", "content", "output"]

def userKeys : List String := ["user_id", "session_id", "prompt_cache_key", "user"]

theorem sweep_content (content : key ∈ contentKeys ∨ key ∈ userKeys) :
    sweep walk key value = redactStringOrRecurse walk value := by
  simp only [contentKeys, userKeys, List.mem_cons, List.not_mem_nil, or_false] at content
  rcases content with (rfl | rfl | rfl | rfl | rfl | rfl | rfl | rfl | rfl | rfl) |
    (rfl | rfl | rfl | rfl)
  all_goals rfl

/-- Every other key's value is walked, but for the strings under three keys. -/
theorem sweep_walks (content : key ∉ contentKeys) (user : key ∉ userKeys)
    (structured : key ∈ ["data", "file_data", "url"] → value.asStr = none) :
    sweep walk key value = walk value := by
  by_cases payload : key ∈ ["data", "file_data", "url"]
  · have silent := structured payload
    simp only [List.mem_cons, List.not_mem_nil, or_false] at payload
    rcases payload with rfl | rfl | rfl
    all_goals cases value <;> first | rfl | cases silent
  · simp only [contentKeys, userKeys, List.mem_cons, List.not_mem_nil, or_false, not_or]
      at content user payload
    unfold sweep
    split
    all_goals simp_all

theorem sweep_string (payload : key ∈ ["data", "file_data", "url"]) (text : String) :
    ∃ shown, sweep walk key (.string text) = .string shown := by
  simp only [List.mem_cons, List.not_mem_nil, or_false] at payload
  rcases payload with rfl | rfl | rfl
  · simp only [sweep, redactLongStringLeaf]
    split <;> exact ⟨_, rfl⟩
  · simp only [sweep, redactLongStringLeaf]
    split <;> exact ⟨_, rfl⟩
  · simp only [sweep]
    split <;> exact ⟨_, rfl⟩

/-- What a sweep can do. -/
theorem sweep_cases (walk : Json → Json) (key : String) (value : Json) :
    sweep walk key value = redactStringOrRecurse walk value ∨
      sweep walk key value = walk value ∨
      ∃ text shown, value = .string text ∧ sweep walk key value = .string shown := by
  by_cases listed : key ∈ contentKeys ∨ key ∈ userKeys
  · exact Or.inl (sweep_content listed)
  · obtain ⟨content, user⟩ := not_or.mp listed
    by_cases payload : key ∈ ["data", "file_data", "url"]
    · cases value with
      | string text =>
        obtain ⟨shown, swept⟩ := @sweep_string walk key payload text
        exact Or.inr (Or.inr ⟨text, shown, rfl, swept⟩)
      | _ => exact Or.inr (Or.inl (sweep_walks content user fun _ => rfl))
    · exact Or.inr (Or.inl (sweep_walks content user fun held => absurd held payload))

end Sweeping

end Routectl.LogSafe
