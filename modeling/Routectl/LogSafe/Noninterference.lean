import Routectl.LogSafe.Nesting

/-! What a traced body does not tell: two bodies that differ in hidden contents alone are traced
alike. -/
namespace Routectl.LogSafe
open Library
open Library.Json (mapFields modifyField onObject onItems typeOf)

/-- Where a value stands, as far as redaction has to know. -/
inductive Place where
  | plain
  | hidden
  | upload
  | listed
  | replaced
  | toolUse
  | toolResult
  | resultContent
  | resultPart
  | reasoningContent
deriving DecidableEq

def itemPlace : Place → Place
  | .hidden | .resultPart => .hidden
  | .resultContent => .resultPart
  | .upload | .listed => .listed
  | _ => .plain

/-- A field is hidden for the artifacts' sake alone. -/
def artifactPlace (_ : Place) (type : Option String) (key : String) : Place :=
  if IsArtifact type key then .hidden else .plain

def promptPlace (holder : Place) (type : Option String) (key : String) : Place :=
  if IsReplaced type key ∨ (holder = .toolUse ∧ key = "input") ∨
      (holder = .resultPart ∧ key = "json") ∨
      (holder = .reasoningContent ∧ key = "redactedContent") then .replaced
  else if IsArtifact type key then .hidden
  else if holder = .toolResult ∧ key = "content" then .resultContent
  else if key ∈ contentKeys then .hidden
  else if key = "file_data" then .upload
  else if key = "toolUse" then .toolUse
  else if key = "toolResult" then .toolResult
  else if key = "reasoningContent" then .reasoningContent
  else .plain

/-- Which fields are hidden, and whether strings in an array of uploads are. -/
structure Rule where
  place : Place → Option String → String → Place
  listed : Bool

def Rule.hides (rule : Rule) : Place → Bool
  | .hidden | .upload | .resultContent | .resultPart => true
  | .listed => rule.listed
  | _ => false

def artifactRule : Rule := ⟨artifactPlace, false⟩
def promptRule : Rule := ⟨promptPlace, true⟩
def shownRule : Rule := ⟨promptPlace, false⟩

/-- A text of the same count of characters. -/
def blank (text : String) : Json := .string (String.ofList (List.replicate text.length '*'))

section Masks
variable (rule : Rule)

mutual
/-- The value without its hidden contents. -/
def masked (place : Place) : Json → Json
  | .string text => if rule.hides place then blank text else .string text
  | .array items => .array (maskedItems (itemPlace place) items)
  | .object fields => .object (maskedFields place (typeOf fields) fields)
  | other => other

def maskedItems (place : Place) : List Json → List Json
  | [] => []
  | item :: rest => masked place item :: maskedItems place rest

def maskedFields (holder : Place) (type : Option String) : Fields → Fields
  | [] => []
  | (key, value) :: rest =>
    (key, if rule.place holder type key = .replaced then redactedObject
      else masked (rule.place holder type key) value) :: maskedFields holder type rest
end

end Masks

section Masking
variable {rule : Rule} {place holder : Place} {type : Option String} {key : String}
variable {fields : Fields} {level : Nat} {value : Json} {walk : Json → Json}

def maskedField (rule : Rule) (holder : Place) (type : Option String) (key : String)
    (value : Json) : Json :=
  if rule.place holder type key = .replaced then redactedObject
  else masked rule (rule.place holder type key) value

theorem maskedItems_eq_map (rule : Rule) (place : Place) (items : List Json) :
    maskedItems rule place items = items.map (masked rule place) := by
  induction items with
  | nil => rfl
  | cons item rest ih => rw [maskedItems, ih, List.map_cons]

theorem maskedFields_eq (rule : Rule) (holder : Place) (type : Option String) (fields : Fields) :
    maskedFields rule holder type fields = mapFields (maskedField rule holder type) fields := by
  induction fields with
  | nil => rfl
  | cons entry rest ih =>
    obtain ⟨key, value⟩ := entry
    rw [maskedFields, ih]
    rfl

theorem masked_array (rule : Rule) (place : Place) (items : List Json) :
    masked rule place (.array items) = .array (items.map (masked rule (itemPlace place))) := by
  rw [masked, maskedItems_eq_map]

theorem masked_object (rule : Rule) (place : Place) (fields : Fields) :
    masked rule place (.object fields) =
      .object (mapFields (maskedField rule place (typeOf fields)) fields) := by
  rw [masked, maskedFields_eq]

/-- A rule that leaves an object's type and a replaced value as they are, and treats hidden
objects as any. -/
structure Rule.Sound (rule : Rule) : Prop where
  typed : ∀ holder type, rule.place holder type "type" = .plain
  replaced : ∀ holder, rule.place holder none "redacted" = .plain
  hidden : rule.place .hidden = rule.place .plain

theorem artifactRule_sound : artifactRule.Sound where
  typed := fun _ _ => by simp [artifactRule, artifactPlace, IsArtifact]
  replaced := fun _ => by simp [artifactRule, artifactPlace, IsArtifact]
  hidden := rfl

/-- Only four kinds of holder place their fields in another way. -/
theorem promptPlace_ordinary (holder : Place)
    (ordinary : holder ∉ [Place.toolUse, .toolResult, .resultPart, .reasoningContent]) :
    promptPlace holder = promptPlace .plain := by
  simp only [List.mem_cons, List.not_mem_nil, or_false, not_or] at ordinary
  funext type key
  simp [promptPlace, ordinary]

theorem promptPlace_sound (listed : Bool) : (Rule.mk promptPlace listed).Sound where
  typed := fun _ _ => by simp [promptPlace, IsReplaced, IsArtifact, contentKeys]
  replaced := fun _ => by simp [promptPlace, IsReplaced, IsArtifact, contentKeys]
  hidden := promptPlace_ordinary .hidden (by decide)

theorem shownRule_sound : shownRule.Sound := promptPlace_sound false

theorem promptRule_sound : promptRule.Sound := promptPlace_sound true

theorem asStr_masked_plain (rule : Rule) (value : Json) :
    (masked rule .plain value).asStr = value.asStr := by
  cases value <;> rfl

theorem typeOf_masked (sound : rule.Sound) (holder : Place) (type : Option String)
    (fields : Fields) :
    typeOf (mapFields (maskedField rule holder type) fields) = typeOf fields := by
  apply Json.typeOf_mapFields
  intro value
  rw [maskedField, sound.typed, if_neg (by decide)]
  exact asStr_masked_plain rule value

theorem masked_redactedObject (sound : rule.Sound) (place : Place) :
    masked rule place redactedObject = redactedObject := by
  rw [redactedObject, masked_object]
  have untyped : typeOf [("redacted", Json.bool true)] = none := rfl
  rw [untyped]
  simp [mapFields, maskedField, sound.replaced, masked]

theorem masked_hidden_object (sound : rule.Sound) (fields : Fields) :
    masked rule .hidden (.object fields) = masked rule .plain (.object fields) := by
  rw [masked_object, masked_object]
  unfold maskedField
  rw [sound.hidden]

theorem redacted_blank (text : String) :
    redacted (String.ofList (List.replicate text.length '*')) = redacted text := by
  simp [redacted]

/-- Strings and arrays are redacted by their counts, the rest is left to the walk. -/
theorem redactStringOrRecurse_masked (sound : rule.Sound)
    (blind : ∀ value, Within level value → walk (masked rule .plain value) = walk value)
    (place : Place) (ordinary : place = .plain ∨ place = .hidden)
    (within : Within level value) :
    redactStringOrRecurse walk (masked rule place value) = redactStringOrRecurse walk value := by
  induction value using Json.treeInduction with
  | string text =>
    rw [masked]
    split
    · exact redacted_blank text
    · rfl
  | array items ih =>
    rw [masked_array, redactStringOrRecurse, redactStringOrRecurse, redactContentArray_eq_map,
      redactContentArray_eq_map, List.map_map]
    have inner : itemPlace place = place := by
      rcases ordinary with rfl | rfl <;> rfl
    rw [inner]
    cases level with
    | zero => exact within.elim
    | succ level =>
      congr 1
      apply List.map_congr_left
      intro item member
      exact ih item member (within item member).succ
  | object fields =>
    have same : masked rule place (.object fields) = masked rule .plain (.object fields) := by
      rcases ordinary with rfl | rfl
      · rfl
      · exact masked_hidden_object sound fields
    rw [same]
    rw [masked_object, redactStringOrRecurse, redactStringOrRecurse, ← masked_object]
    · exact blind _ within
    all_goals simp
  | null => rfl
  | bool => rfl
  | number => rfl

theorem within_masked (sound : rule.Sound) (place : Place) (within : Within level value) :
    Within level (masked rule place value) := by
  induction level generalizing value place with
  | zero =>
    cases value with
    | array items => exact within.elim
    | object fields =>
      obtain rfl : fields = _ := within
      have same := masked_redactedObject sound place
      rw [redactedObject] at same
      rw [same]
      exact within_redactedObject 0
    | string text =>
      rw [masked]
      split <;> exact within_string 0 _
    | _ => exact within
  | succ level ih =>
    cases value with
    | array items =>
      rw [masked_array]
      intro item member
      obtain ⟨prior, inside, rfl⟩ := List.mem_map.mp member
      exact ih _ (within prior inside)
    | object fields =>
      rw [masked_object]
      intro entry member
      obtain ⟨prior, inside, rfl⟩ := List.mem_map.mp member
      dsimp only [maskedField]
      split
      · exact within_redactedObject level
      · exact ih _ (within prior inside)
    | string text =>
      rw [masked]
      split <;> exact within_string _ _
    | _ => exact within

/-- A change of one field commutes with masking where the two places agree on all else. -/
theorem onObject_masked {name : String} {change : Json → Json} (place goal : Place)
    (untyped : name ≠ "type") (hides : rule.hides place = rule.hides goal)
    (items : itemPlace place = itemPlace goal)
    (others : ∀ type key, key ≠ name → rule.place place type key = rule.place goal type key)
    (named : ∀ type value, change (maskedField rule place type name value) =
      maskedField rule goal type name (change value)) (value : Json) :
    onObject (modifyField name change) (masked rule place value) =
      masked rule goal (onObject (modifyField name change) value) := by
  cases value with
  | object fields =>
    have typed := typeOf_modifyField untyped change fields
    rw [masked_object, onObject, onObject, masked_object, typed, modifyField, modifyField,
      Json.mapFields_mapFields, Json.mapFields_mapFields]
    refine congrArg Json.object (Json.mapFields_congr fun entry _ => ?_)
    obtain ⟨key, value⟩ := entry
    dsimp only
    by_cases same : key = name
    · subst same
      rw [if_pos rfl, if_pos rfl, named]
    · rw [if_neg same, if_neg same, maskedField, maskedField, others _ key same]
  | array elements =>
    change masked rule place (.array elements) = masked rule goal (.array elements)
    rw [masked_array, masked_array, items]
  | string text =>
    change onObject (modifyField name change) (masked rule place (.string text)) =
      masked rule goal (.string text)
    rw [masked, masked, hides]
    split <;> rfl
  | _ => rfl

theorem onItems_masked {change : Json → Json} (place goal : Place)
    (hides : rule.hides place = rule.hides goal)
    (objects : ∀ fields, masked rule place (.object fields) = masked rule goal (.object fields))
    (each : ∀ item, change (masked rule (itemPlace place) item) =
      masked rule (itemPlace goal) (change item)) (value : Json) :
    onItems change (masked rule place value) = masked rule goal (onItems change value) := by
  cases value with
  | array items =>
    rw [masked_array, onItems, onItems, masked_array, List.map_map, List.map_map]
    exact congrArg Json.array (List.map_congr_left fun item _ => each item)
  | object fields =>
    have same := objects fields
    rw [masked_object, masked_object] at same
    change onItems change (masked rule place (.object fields)) = masked rule goal (.object fields)
    rw [masked_object, masked_object]
    exact same
  | string text =>
    change onItems change (masked rule place (.string text)) = masked rule goal (.string text)
    rw [masked, masked, hides]
    split <;> rfl
  | _ => rfl

end Masking

section Payloads
variable {type : Option String} {key : String} {level : Nat} {value : Json} {walk : Json → Json}

theorem maskedField_replaced {rule : Rule} {holder : Place}
    (replaced : rule.place holder type key = .replaced) (value : Json) :
    maskedField rule holder type key value = redactedObject := if_pos replaced

theorem maskedField_kept {rule : Rule} {holder place : Place}
    (stands : rule.place holder type key = place) (kept : place ≠ .replaced) (value : Json) :
    maskedField rule holder type key value = masked rule place value := by
  rw [maskedField, stands, if_neg kept]

/-- The value that a replacement writes is masked to itself. -/
theorem maskedField_redactedObject (holder : Place) (type : Option String) (key : String) :
    maskedField shownRule holder type key redactedObject = redactedObject := by
  unfold maskedField
  split
  · rfl
  · exact masked_redactedObject shownRule_sound _

theorem collapse_masked {name : String} (place goal : Place) (untyped : name ≠ "type")
    (hides : shownRule.hides place = shownRule.hides goal)
    (items : itemPlace place = itemPlace goal)
    (others : ∀ type key, key ≠ name → promptPlace place type key = promptPlace goal type key)
    (value : Json) :
    onObject (modifyField name fun _ => redactedObject) (masked shownRule place value) =
      masked shownRule goal (onObject (modifyField name fun _ => redactedObject) value) :=
  onObject_masked place goal untyped hides items others
    (fun type _ => (maskedField_redactedObject goal type name).symm) value

theorem collapseToolUse_masked (value : Json) :
    collapseToolUse (masked shownRule .toolUse value) =
      masked shownRule .plain (collapseToolUse value) := by
  apply collapse_masked .toolUse .plain (by decide) rfl rfl
  intro type key other
  simp [promptPlace, other]

theorem collapseReasoningContent_masked (value : Json) :
    collapseReasoningContent (masked shownRule .reasoningContent value) =
      masked shownRule .plain (collapseReasoningContent value) := by
  apply collapse_masked .reasoningContent .plain (by decide) rfl rfl
  intro type key other
  simp [promptPlace, other]

theorem promptPlace_content (holder : Place) (type : Option String)
    (ordinary : holder ∈ [Place.plain, .toolResult]) :
    promptPlace holder type "content" =
      if holder = .toolResult then .resultContent else .hidden := by
  simp only [List.mem_cons, List.not_mem_nil, or_false] at ordinary
  rcases ordinary with rfl | rfl
  all_goals simp [promptPlace, IsReplaced, IsArtifact, contentKeys]

theorem collapseToolResult_masked (value : Json) :
    collapseToolResult (masked shownRule .toolResult value) =
      masked shownRule .plain (collapseToolResult value) := by
  apply onObject_masked .toolResult .plain (by decide) rfl rfl
  · intro type key other
    simp [shownRule, promptPlace, other]
  · intro type value
    have held := promptPlace_content .toolResult type (by decide)
    have goal := promptPlace_content .plain type (by decide)
    rw [if_pos rfl] at held
    rw [if_neg (by decide)] at goal
    rw [maskedField_kept held (by decide), maskedField_kept goal (by decide)]
    apply onItems_masked .resultContent .hidden rfl
    · intro fields
      have same : promptPlace .resultContent = promptPlace .hidden :=
        (promptPlace_ordinary _ (by decide)).trans (promptPlace_ordinary _ (by decide)).symm
      rw [masked_object, masked_object]
      unfold maskedField
      rw [show shownRule.place .resultContent = shownRule.place .hidden from same]
    · intro item
      apply collapse_masked .resultPart .hidden (by decide) rfl rfl
      intro type key other
      simp [promptPlace, other]

theorem redactLongStringLeaf_masked (minLen : Nat) (value : Json) :
    redactLongStringLeaf minLen (masked shownRule .plain value) =
      masked shownRule .plain (redactLongStringLeaf minLen value) := by
  cases value with
  | string text =>
    change redactLongStringLeaf minLen (.string text) =
      masked shownRule .plain (redactLongStringLeaf minLen (.string text))
    rw [redactLongStringLeaf]
    split <;> rfl
  | _ => rfl

theorem redactSourceBytes_masked (value : Json) :
    redactSourceBytes (masked shownRule .plain value) =
      masked shownRule .plain (redactSourceBytes value) := by
  apply onObject_masked .plain .plain (by decide) rfl rfl (fun _ _ _ => rfl)
  intro type value
  have stands : shownRule.place .plain type "bytes" = .plain := by
    simp [shownRule, promptPlace, IsReplaced, IsArtifact, contentKeys]
  rw [maskedField_kept stands (by decide), maskedField_kept stands (by decide)]
  exact redactLongStringLeaf_masked 256 value

theorem collapseEntry_content (content : key ∈ contentKeys) (kept : ¬ IsReplaced type key) :
    collapseEntry type key value = value := by
  unfold collapseEntry
  rw [if_neg kept]
  simp only [contentKeys, List.mem_cons, List.not_mem_nil, or_false] at content
  rcases content with rfl | rfl | rfl | rfl | rfl | rfl | rfl | rfl | rfl | rfl
  all_goals simp

/-- A string stands as it is in every rule, so that the sweep has what it measures. -/
theorem sweep_masked (blind : ∀ value, Within level value →
      walk (masked shownRule .plain value) = walk value)
    (within : Within level value) :
    sweep walk key (masked shownRule .plain value) = sweep walk key value := by
  by_cases listed : key ∈ contentKeys ∨ key ∈ userKeys
  · rw [sweep_content listed, sweep_content listed]
    exact redactStringOrRecurse_masked shownRule_sound blind .plain (Or.inl rfl) within
  · obtain ⟨content, user⟩ := not_or.mp listed
    cases value with
    | string text => rfl
    | _ =>
      rw [sweep_walks content user fun _ => rfl, sweep_walks content user fun _ => rfl]
      exact blind _ within

/-- Where a field of an ordinary object stands. -/
theorem promptPlace_plain (kept : ¬ IsReplaced type key) (open_ : ¬ IsArtifact type key)
    (other : key ∉ contentKeys) :
    promptPlace .plain type key =
      if key = "file_data" then .upload
      else if key = "toolUse" then .toolUse
      else if key = "toolResult" then .toolResult
      else if key = "reasoningContent" then .reasoningContent
      else .plain := by
  simp [promptPlace, kept, open_, other]

theorem redactEntry_open (open_ : ¬ IsArtifact type key) :
    redactEntry walk type key value = sweep walk key (collapseEntry type key value) := by
  rw [redactEntry, artifactEntry, if_neg open_]

theorem masked_listed (value : Json) :
    masked shownRule .listed value = masked shownRule .plain value := by
  induction value using Json.treeInduction with
  | array items ih =>
    rw [masked_array, masked_array]
    exact congrArg Json.array (List.map_congr_left ih)
  | object fields =>
    have same : promptPlace .listed = promptPlace .plain := promptPlace_ordinary _ (by decide)
    rw [masked_object, masked_object]
    unfold maskedField
    rw [show shownRule.place .listed = shownRule.place .plain from same]
  | _ => rfl

/-- An upload's string is hidden by its count, the strings of an array are shown. -/
theorem sweep_upload (blind : ∀ value, Within level value →
      walk (masked shownRule .plain value) = walk value)
    (within : Within level value) :
    sweep walk "file_data" (masked shownRule .upload value) = sweep walk "file_data" value := by
  cases value with
  | string text => exact redacted_blank text
  | array items =>
    have same : masked shownRule .upload (.array items) = masked shownRule .plain (.array items) := by
      rw [masked_array, masked_array]
      exact congrArg Json.array (List.map_congr_left fun item _ => masked_listed item)
    rw [same]
    exact blind _ within
  | object fields =>
    have same : promptPlace .upload = promptPlace .plain := promptPlace_ordinary _ (by decide)
    have masks : masked shownRule .upload (.object fields) =
        masked shownRule .plain (.object fields) := by
      rw [masked_object, masked_object]
      unfold maskedField
      rw [show shownRule.place .upload = shownRule.place .plain from same]
    rw [masks]
    exact blind _ within
  | _ => rfl

theorem collapseEntry_masked (kept : ¬ IsReplaced type key) (open_ : ¬ IsArtifact type key)
    (other : key ∉ contentKeys) (inline : key ≠ "file_data") (value : Json) :
    collapseEntry type key (maskedField shownRule .plain type key value) =
      masked shownRule .plain (collapseEntry type key value) := by
  have place := promptPlace_plain kept open_ other
  rw [if_neg inline] at place
  unfold collapseEntry
  rw [if_neg kept, if_neg kept]
  by_cases call : key = "toolUse"
  · rw [if_pos call] at place
    rw [if_pos call, if_pos call, maskedField_kept place (by decide)]
    exact collapseToolUse_masked value
  by_cases result : key = "toolResult"
  · rw [if_neg call, if_pos result] at place
    rw [if_neg call, if_neg call, if_pos result, if_pos result,
      maskedField_kept place (by decide)]
    exact collapseToolResult_masked value
  by_cases reasoning : key = "reasoningContent"
  · rw [if_neg call, if_neg result, if_pos reasoning] at place
    rw [if_neg call, if_neg call, if_neg result, if_neg result, if_pos reasoning,
      if_pos reasoning, maskedField_kept place (by decide)]
    exact collapseReasoningContent_masked value
  rw [if_neg call, if_neg result, if_neg reasoning] at place
  rw [maskedField_kept place (by decide), if_neg call, if_neg call, if_neg result, if_neg result,
    if_neg reasoning, if_neg reasoning]
  split_ifs
  · exact redactSourceBytes_masked value
  · exact redactLongStringLeaf_masked 0 value
  · rfl

/-- A field's hidden contents do not reach what the field becomes. -/
theorem redactEntry_masked (blind : ∀ value, Within level value →
      walk (masked shownRule .plain value) = walk value)
    (within : Within level value) :
    redactEntry walk type key (maskedField shownRule .plain type key value) =
      redactEntry walk type key value := by
  by_cases replaced : IsReplaced type key
  · rw [redactEntry, redactEntry, collapseEntry, collapseEntry, if_pos replaced, if_pos replaced]
  have sound := shownRule_sound
  by_cases artifact : IsArtifact type key
  · have place : shownRule.place .plain type key = .hidden := by
      simp [shownRule, promptPlace, replaced, artifact]
    rw [redactEntry, redactEntry, artifactEntry, artifactEntry, if_pos artifact, if_pos artifact,
      maskedField_kept place (by decide),
      redactStringOrRecurse_masked sound blind .hidden (Or.inr rfl) within]
  rw [redactEntry_open artifact, redactEntry_open artifact]
  by_cases content : key ∈ contentKeys
  · have place : shownRule.place .plain type key = .hidden := by
      simp [shownRule, promptPlace, replaced, artifact, content]
    rw [collapseEntry_content content replaced, collapseEntry_content content replaced,
      sweep_content (Or.inl content), sweep_content (Or.inl content),
      maskedField_kept place (by decide)]
    exact redactStringOrRecurse_masked sound blind .hidden (Or.inr rfl) within
  by_cases inline : key = "file_data"
  · have place := promptPlace_plain replaced artifact content
    rw [if_pos inline] at place
    rw [maskedField_kept place (by decide)]
    subst inline
    have stays (value : Json) : collapseEntry type "file_data" value = value := by
      simp [collapseEntry, IsReplaced]
    rw [stays, stays]
    exact sweep_upload blind within
  · rw [collapseEntry_masked replaced artifact content inline]
    exact sweep_masked blind (within_collapseEntry type key within)

/-- The full walk sees the shown part of a body alone. -/
theorem redactValue_masked {fuel : Nat} (within : Within fuel value) :
    redactValue fuel (masked shownRule .plain value) = redactValue fuel value := by
  have sound := shownRule_sound
  induction fuel generalizing value with
  | zero =>
    cases value with
    | array items => exact within.elim
    | object fields =>
      obtain rfl : fields = _ := within
      exact masked_redactedObject sound .plain
    | _ => rfl
  | succ fuel ih =>
    cases value with
    | array items =>
      rw [masked_array, redactValue, redactValue, List.map_map]
      exact congrArg Json.array (List.map_congr_left fun item member => ih (within item member))
    | object fields =>
      rw [masked_object, redactValue_object, redactValue_object,
        typeOf_masked sound .plain, Json.mapFields_mapFields]
      refine congrArg Json.object (Json.mapFields_congr fun entry member => ?_)
      exact redactEntry_masked (fun _ => ih) (within entry member)
    | _ => rfl

end Payloads

section Artifacts
variable {type : Option String} {key : String} {fuel : Nat} {value : Json}

theorem blank_blank (text : String) :
    blank (String.ofList (List.replicate text.length '*')) = blank text := by
  simp [blank]

theorem maskedField_artifact (holder : Place) (type : Option String) (key : String)
    (value : Json) :
    maskedField artifactRule holder type key value =
      masked artifactRule (if IsArtifact type key then .hidden else .plain) value := by
  have kept : (if IsArtifact type key then Place.hidden else .plain) ≠ .replaced := by
    split <;> decide
  exact maskedField_kept rfl kept value

/-- What the artifacts' mask hides the other hides as well. -/
theorem masked_masked (place goal : Place)
    (coarser : place = .plain ∨ (place = .hidden ∧ goal = .hidden)) :
    masked shownRule goal (masked artifactRule place value) = masked shownRule goal value := by
  induction value using Json.treeInduction generalizing place goal with
  | string text =>
    rcases coarser with rfl | ⟨rfl, rfl⟩
    · rfl
    · exact blank_blank text
  | array items ih =>
    rw [masked_array, masked_array, masked_array, List.map_map]
    refine congrArg Json.array (List.map_congr_left fun item member => ih item member _ _ ?_)
    rcases coarser with rfl | ⟨rfl, rfl⟩
    · exact Or.inl rfl
    · exact Or.inr ⟨rfl, rfl⟩
  | object fields ih =>
    rw [masked_object, masked_object, masked_object, typeOf_masked artifactRule_sound,
      Json.mapFields_mapFields]
    refine congrArg Json.object (Json.mapFields_congr fun entry member => ?_)
    by_cases replaced : shownRule.place goal (typeOf fields) entry.1 = .replaced
    · rw [maskedField_replaced replaced, maskedField_replaced replaced]
    · rw [maskedField_artifact, maskedField_kept rfl replaced, maskedField_kept rfl replaced]
      apply ih entry member
      by_cases artifact : IsArtifact (typeOf fields) entry.1
      · right
        refine ⟨if_pos artifact, ?_⟩
        unfold shownRule promptPlace at replaced ⊢
        dsimp only at replaced ⊢
        split at replaced
        · exact absurd rfl replaced
        · rename_i kept
          rw [if_neg kept, if_pos artifact]
      · exact Or.inl (if_neg artifact)
  | null => rfl
  | bool => rfl
  | number => rfl

theorem redactValue_artifacts (within : Within fuel value) :
    redactValue fuel (masked artifactRule .plain value) = redactValue fuel value := by
  rw [← redactValue_masked (within_masked artifactRule_sound .plain within),
    masked_masked .plain .plain (Or.inl rfl), redactValue_masked within]

theorem redactReasoningArtifacts_masked (within : Within fuel value) :
    redactReasoningArtifacts fuel (masked artifactRule .plain value) =
      redactReasoningArtifacts fuel value := by
  have sound := artifactRule_sound
  induction fuel generalizing value with
  | zero =>
    cases value with
    | array items => exact within.elim
    | object fields =>
      obtain rfl : fields = _ := within
      exact masked_redactedObject sound .plain
    | _ => rfl
  | succ fuel ih =>
    cases value with
    | array items =>
      rw [masked_array, redactReasoningArtifacts, redactReasoningArtifacts, List.map_map]
      exact congrArg Json.array (List.map_congr_left fun item member => ih (within item member))
    | object fields =>
      rw [masked_object, redactReasoningArtifacts_object, redactReasoningArtifacts_object,
        typeOf_masked sound .plain, Json.mapFields_mapFields]
      refine congrArg Json.object (Json.mapFields_congr fun entry member => ?_)
      have inside := within entry member
      rw [maskedField_artifact, artifactEntry, artifactEntry]
      by_cases artifact : IsArtifact (typeOf fields) entry.1
      · rw [if_pos artifact, if_pos artifact, if_pos artifact,
          redactStringOrRecurse_masked sound (fun _ => redactValue_artifacts) .hidden
            (Or.inr rfl) inside]
      · rw [if_neg artifact, if_neg artifact, if_neg artifact]
        exact ih inside
    | _ => rfl

/-- Bodies that differ in their artifacts alone are traced alike with the knob off and on. -/
theorem artifacts_hidden {first second : Json}
    (alike : masked artifactRule .plain first = masked artifactRule .plain second)
    (enabled : Bool) :
    redactPromptsWithFlag first enabled = redactPromptsWithFlag second enabled := by
  have one := (within_depth first).le (Nat.le_max_left (depth first) (depth second))
  have other := (within_depth second).le (Nat.le_max_right (depth first) (depth second))
  rw [redactPromptsWithFlag_eq (Nat.le_max_left (depth first) (depth second)),
    redactPromptsWithFlag_eq (Nat.le_max_right (depth first) (depth second))]
  cases enabled with
  | true =>
    rw [if_pos rfl, if_pos rfl, ← redactValue_artifacts one, alike, redactValue_artifacts other]
  | false =>
    rw [if_neg (by decide), if_neg (by decide), ← redactReasoningArtifacts_masked one, alike,
      redactReasoningArtifacts_masked other]

theorem prompts_hidden {first second : Json}
    (alike : masked shownRule .plain first = masked shownRule .plain second) :
    redactPromptsWithFlag first true = redactPromptsWithFlag second true := by
  have one := (within_depth first).le (Nat.le_max_left (depth first) (depth second))
  have other := (within_depth second).le (Nat.le_max_right (depth first) (depth second))
  rw [redactPromptsWithFlag_eq (Nat.le_max_left (depth first) (depth second)),
    redactPromptsWithFlag_eq (Nat.le_max_right (depth first) (depth second)), if_pos rfl,
    if_pos rfl, ← redactValue_masked one, alike, redactValue_masked other]

end Artifacts

end Routectl.LogSafe
