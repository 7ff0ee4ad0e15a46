import Routectl.LogSafe.Noninterference

/-! Uploads listed in an array: the one content that the full redaction lets through. -/
namespace Routectl.LogSafe
open Library
open Library.Json (mapFields modifyField onObject onItems typeOf)

mutual
/-- The strings in arrays of uploads that no replacement takes away. -/
def listedUploads (place : Place) : Json → List String
  | .string text => if place = .listed then [text] else []
  | .array items => itemUploads (itemPlace place) items
  | .object fields => fieldUploads place (typeOf fields) fields
  | _ => []

def itemUploads (place : Place) : List Json → List String
  | [] => []
  | item :: rest => listedUploads place item ++ itemUploads place rest

def fieldUploads (holder : Place) (type : Option String) : Fields → List String
  | [] => []
  | (key, value) :: rest =>
    (if promptPlace holder type key = .replaced then []
      else listedUploads (promptPlace holder type key) value) ++ fieldUploads holder type rest
end

section Shown
variable {place holder : Place} {type : Option String} {key : String} {value : Json}
variable {walk : Json → Json}

def fieldUpload (holder : Place) (type : Option String) (key : String) (value : Json) :
    List String :=
  if promptPlace holder type key = .replaced then []
  else listedUploads (promptPlace holder type key) value

theorem itemUploads_eq_flatMap (place : Place) (items : List Json) :
    itemUploads place items = items.flatMap (listedUploads place) := by
  induction items with
  | nil => rfl
  | cons item rest ih => rw [itemUploads, ih, List.flatMap_cons]

theorem fieldUploads_eq_flatMap (holder : Place) (type : Option String) (fields : Fields) :
    fieldUploads holder type fields =
      fields.flatMap fun entry => fieldUpload holder type entry.1 entry.2 := by
  induction fields with
  | nil => rfl
  | cons entry rest ih =>
    obtain ⟨key, value⟩ := entry
    rw [fieldUploads, ih, List.flatMap_cons]
    rfl

theorem listedUploads_array (place : Place) (items : List Json) :
    listedUploads place (.array items) = items.flatMap (listedUploads (itemPlace place)) := by
  rw [listedUploads, itemUploads_eq_flatMap]

theorem listedUploads_object (place : Place) (fields : Fields) :
    listedUploads place (.object fields) =
      fields.flatMap fun entry => fieldUpload place (typeOf fields) entry.1 entry.2 := by
  rw [listedUploads, fieldUploads_eq_flatMap]

theorem listedUploads_string (unlisted : place ≠ .listed) (text : String) :
    listedUploads place (.string text) = [] := if_neg unlisted

/-- Redacted strings count nowhere but in the arrays of uploads. -/
theorem listedUploads_redactStringOrRecurse
    (walks : ∀ place value, listedUploads place (walk value) = listedUploads place value)
    (upload : place ≠ .upload) (unlisted : place ≠ .listed) (value : Json) :
    listedUploads place (redactStringOrRecurse walk value) = listedUploads place value := by
  induction value using Json.treeInduction generalizing place with
  | string text => rw [listedUploads_string unlisted]; exact listedUploads_string unlisted _
  | array items ih =>
    rw [redactStringOrRecurse, redactContentArray_eq_map, listedUploads_array,
      listedUploads_array, List.flatMap_map]
    apply List.flatMap_congr
    intro item member
    apply ih item member
    · cases place <;> decide
    · revert upload unlisted
      cases place <;> decide
  | null => exact walks _ _
  | bool => exact walks _ _
  | number => exact walks _ _
  | object => exact walks _ _

theorem fieldUpload_kept {place : Place} (stands : promptPlace holder type key = place)
    (kept : place ≠ .replaced) (value : Json) :
    fieldUpload holder type key value = listedUploads place value := by
  rw [fieldUpload, stands, if_neg kept]

/-- A change of one field that tells the same uploads there tells the same of the object. -/
theorem listedUploads_onObject {name : String} {change : Json → Json} (untyped : name ≠ "type")
    (same : ∀ type value, fieldUpload place type name (change value) =
      fieldUpload place type name value) (value : Json) :
    listedUploads place (onObject (modifyField name change) value) =
      listedUploads place value := by
  cases value with
  | object fields =>
    rw [onObject, listedUploads_object, listedUploads_object, typeOf_modifyField untyped,
      modifyField, mapFields, List.flatMap_map]
    apply List.flatMap_congr
    rintro ⟨key, value⟩ -
    dsimp only
    by_cases named : key = name
    · subst named
      rw [if_pos rfl, same]
    · rw [if_neg named]
  | _ => rfl

theorem listedUploads_collapse {name : String} (untyped : name ≠ "type")
    (replaced : ∀ type, promptPlace place type name = .replaced) (value : Json) :
    listedUploads place (onObject (modifyField name fun _ => redactedObject) value) =
      listedUploads place value := by
  apply listedUploads_onObject untyped
  intro type value
  rw [fieldUpload, fieldUpload, if_pos (replaced type), if_pos (replaced type)]

theorem listedUploads_redactLongStringLeaf (unlisted : place ≠ .listed) (minLen : Nat)
    (value : Json) :
    listedUploads place (redactLongStringLeaf minLen value) = listedUploads place value := by
  cases value with
  | string text =>
    rw [redactLongStringLeaf]
    split
    · rw [listedUploads_string unlisted]
      exact listedUploads_string unlisted _
    · rfl
  | _ => rfl

theorem listedUploads_collapseToolResult (value : Json) :
    listedUploads .toolResult (collapseToolResult value) = listedUploads .toolResult value := by
  apply listedUploads_onObject (by decide)
  intro type value
  have held := promptPlace_content .toolResult type (by decide)
  rw [if_pos rfl] at held
  rw [fieldUpload_kept held (by decide), fieldUpload_kept held (by decide)]
  cases value with
  | array items =>
    rw [onItems, listedUploads_array, listedUploads_array, List.flatMap_map]
    apply List.flatMap_congr
    intro item _
    apply listedUploads_collapse (by decide)
    intro type
    exact if_pos (Or.inr (Or.inr (Or.inl ⟨rfl, rfl⟩)))
  | _ => rfl

theorem listedUploads_redactSourceBytes (value : Json) :
    listedUploads .plain (redactSourceBytes value) = listedUploads .plain value := by
  apply listedUploads_onObject (by decide)
  intro type value
  have stands : promptPlace .plain type "bytes" = .plain := by
    simp [promptPlace, IsReplaced, IsArtifact, contentKeys]
  rw [fieldUpload_kept stands (by decide), fieldUpload_kept stands (by decide)]
  exact listedUploads_redactLongStringLeaf (by decide) 256 value

theorem promptPlace_unlisted (holder : Place) (type : Option String) (key : String) :
    promptPlace holder type key ≠ .listed := by
  unfold promptPlace
  split_ifs <;> decide

theorem promptPlace_upload (upload : promptPlace holder type key = .upload) :
    key = "file_data" := by
  unfold promptPlace at upload
  split_ifs at upload with _ _ _ _ inline
  exact inline

/-- The payloads that are replaced before the sweep hold no upload that is shown. -/
theorem fieldUpload_collapseEntry (holder : Place) (type : Option String) (key : String)
    (value : Json) :
    fieldUpload holder type key (collapseEntry type key value) =
      fieldUpload holder type key value := by
  by_cases replaced : promptPlace holder type key = .replaced
  · rw [fieldUpload, fieldUpload, if_pos replaced, if_pos replaced]
  have kept : ¬ IsReplaced type key := fun held => replaced (if_pos (Or.inl held))
  rw [collapseEntry, if_neg kept]
  split_ifs with call result reasoning source title
  · have place : promptPlace holder type key = .toolUse := by
      subst call
      simp [promptPlace, IsReplaced, IsArtifact, contentKeys]
    rw [fieldUpload_kept place (by decide), fieldUpload_kept place (by decide)]
    apply listedUploads_collapse (by decide)
    exact fun type => if_pos (Or.inr (Or.inl ⟨rfl, rfl⟩))
  · have place : promptPlace holder type key = .toolResult := by
      subst result
      simp [promptPlace, IsReplaced, IsArtifact, contentKeys]
    rw [fieldUpload_kept place (by decide), fieldUpload_kept place (by decide)]
    exact listedUploads_collapseToolResult value
  · have place : promptPlace holder type key = .reasoningContent := by
      subst reasoning
      simp [promptPlace, IsReplaced, IsArtifact, contentKeys]
    rw [fieldUpload_kept place (by decide), fieldUpload_kept place (by decide)]
    apply listedUploads_collapse (by decide)
    exact fun type => if_pos (Or.inr (Or.inr (Or.inr ⟨rfl, rfl⟩)))
  · have place : promptPlace holder type key = .plain := by
      subst source
      simp [promptPlace, IsReplaced, IsArtifact, contentKeys]
    rw [fieldUpload_kept place (by decide), fieldUpload_kept place (by decide)]
    exact listedUploads_redactSourceBytes value
  · have place : promptPlace holder type key = .plain := by
      obtain ⟨rfl, rfl⟩ := title
      simp [promptPlace, IsReplaced, IsArtifact, contentKeys]
    rw [fieldUpload_kept place (by decide), fieldUpload_kept place (by decide)]
    exact listedUploads_redactLongStringLeaf (by decide) 0 value
  · rfl

theorem fieldUpload_artifactEntry
    (walks : ∀ place value, listedUploads place (walk value) = listedUploads place value)
    (holder : Place) (type : Option String) (key : String) (value : Json) :
    fieldUpload holder type key (artifactEntry walk type key value) =
      fieldUpload holder type key value := by
  unfold artifactEntry
  split
  case isTrue artifact =>
    unfold fieldUpload
    split
    · rfl
    · rename_i shown
      apply listedUploads_redactStringOrRecurse walks _ (promptPlace_unlisted holder type key)
      intro upload
      rw [promptPlace_upload upload] at artifact
      simp [IsArtifact] at artifact
  case isFalse => rfl

theorem fieldUpload_sweep
    (walks : ∀ place value, listedUploads place (walk value) = listedUploads place value)
    (holder : Place) (type : Option String) (key : String) (value : Json) :
    fieldUpload holder type key (sweep walk key value) = fieldUpload holder type key value := by
  have unlisted := promptPlace_unlisted holder type key
  unfold fieldUpload
  split
  · rfl
  by_cases upload : promptPlace holder type key = .upload
  · obtain rfl : key = "file_data" := promptPlace_upload upload
    rw [upload]
    cases value with
    | string text => rfl
    | _ => exact walks _ _
  · rcases sweep_cases walk key value with swept | swept | ⟨text, shown, rfl, swept⟩
    · rw [swept]
      exact listedUploads_redactStringOrRecurse walks upload unlisted value
    · rw [swept]
      exact walks _ value
    · rw [swept, listedUploads_string unlisted, listedUploads_string unlisted]

theorem asStr_redactValue (fuel : Nat) (value : Json) :
    (redactValue fuel value).asStr = value.asStr := by
  cases fuel with
  | zero => rfl
  | succ fuel => cases value <;> rfl

/-- The full walk leaves the strings in the arrays of uploads what they are. -/
theorem listedUploads_redactValue (fuel : Nat) (place : Place) (value : Json) :
    listedUploads place (redactValue fuel value) = listedUploads place value := by
  induction fuel generalizing place value with
  | zero => rfl
  | succ fuel ih =>
    cases value with
    | array items =>
      rw [redactValue, listedUploads_array, listedUploads_array, List.flatMap_map]
      exact List.flatMap_congr fun item _ => ih _ item
    | object fields =>
      have typed : typeOf (mapFields (redactEntry (redactValue fuel) (typeOf fields)) fields) =
          typeOf fields := by
        apply Json.typeOf_mapFields
        intro value
        have swept : redactEntry (redactValue fuel) (typeOf fields) "type" value =
            redactValue fuel value := by
          simp [redactEntry, artifactEntry, collapseEntry, IsArtifact, IsReplaced, sweep]
        rw [swept, asStr_redactValue]
      rw [redactValue_object, listedUploads_object, listedUploads_object, typed, mapFields,
        List.flatMap_map]
      refine List.flatMap_congr fun entry _ => ?_
      dsimp only [redactEntry]
      rw [fieldUpload_sweep ih, fieldUpload_collapseEntry, fieldUpload_artifactEntry ih]
    | _ => rfl

end Shown

section Agreement
variable {place holder : Place} {type : Option String} {key : String} {value : Json}

theorem length_listedUploads_masked (place : Place) (value : Json) :
    (listedUploads place (masked promptRule place value)).length =
      (listedUploads place value).length := by
  induction value using Json.treeInduction generalizing place with
  | string text =>
    rw [masked]
    split
    · rw [blank, listedUploads, listedUploads]
      split <;> rfl
    · rfl
  | array items ih =>
    rw [masked_array, listedUploads_array, listedUploads_array, List.flatMap_map,
      List.length_flatMap, List.length_flatMap]
    exact congrArg List.sum (List.map_congr_left fun item member => ih item member _)
  | object fields ih =>
    rw [masked_object, listedUploads_object, listedUploads_object,
      typeOf_masked promptRule_sound, mapFields, List.flatMap_map, List.length_flatMap,
      List.length_flatMap]
    refine congrArg List.sum (List.map_congr_left fun entry member => ?_)
    dsimp only
    by_cases replaced : promptPlace place (typeOf fields) entry.1 = .replaced
    · rw [fieldUpload, fieldUpload, if_pos replaced, if_pos replaced]
    · rw [fieldUpload_kept rfl replaced, fieldUpload_kept rfl replaced,
        show maskedField promptRule place (typeOf fields) entry.1 entry.2 = _ from
          maskedField_kept rfl replaced entry.2]
      exact ih entry member _
  | null => rfl
  | bool => rfl
  | number => rfl

/-- Items that are seen alike and told alike one by one are so where the whole lists are. -/
theorem map_agree {Source Seen Told Shown : Type} {first second : List Source}
    {see : Source → Seen} {tell : Source → List Told} {render : Source → Shown}
    (lengths : ∀ one other, see one = see other → (tell one).length = (tell other).length)
    (each : ∀ one ∈ first, ∀ other, see one = see other → tell one = tell other →
      render one = render other)
    (seen : first.map see = second.map see) (told : first.flatMap tell = second.flatMap tell) :
    first.map render = second.map render := by
  induction first generalizing second with
  | nil =>
    cases second with
    | nil => rfl
    | cons => cases seen
  | cons one rest ih =>
    cases second with
    | nil => cases seen
    | cons other more =>
      obtain ⟨head, tail⟩ := List.cons.inj seen
      rw [List.flatMap_cons, List.flatMap_cons] at told
      obtain ⟨here, later⟩ := List.append_inj told (lengths one other head)
      rw [List.map_cons, List.map_cons, each one List.mem_cons_self other head here,
        ih (fun item member => each item (List.mem_cons_of_mem one member)) tail later]

theorem kind_masked (rule : Rule) (place : Place) (value : Json) :
    (masked rule place value).kind = value.kind := by
  cases value with
  | string text =>
    rw [masked]
    split <;> rfl
  | _ => rfl

theorem length_listedUploads {one other : Json}
    (alike : masked promptRule place one = masked promptRule place other) :
    (listedUploads place one).length = (listedUploads place other).length := by
  rw [← length_listedUploads_masked, alike, length_listedUploads_masked]

/-- A field that is seen alike is replaced in both, or seen alike where it stands. -/
theorem maskedField_alike {one other : Json}
    (alike : maskedField promptRule holder type key one =
      maskedField promptRule holder type key other) :
    promptPlace holder type key = .replaced ∨
      (promptPlace holder type key ≠ .replaced ∧
        masked promptRule (promptPlace holder type key) one =
          masked promptRule (promptPlace holder type key) other) := by
  by_cases replaced : promptPlace holder type key = .replaced
  · exact Or.inl replaced
  · have kept (value : Json) : maskedField promptRule holder type key value =
        masked promptRule (promptPlace holder type key) value := maskedField_kept rfl replaced value
    rw [kept, kept] at alike
    exact Or.inr ⟨replaced, alike⟩

theorem masked_string_shown (unlisted : place ≠ .listed) (text : String) :
    masked promptRule place (.string text) = masked shownRule place (.string text) := by
  rw [masked, masked]
  cases place
  case listed => exact absurd rfl unlisted
  all_goals rfl

/-- Bodies alike but for the listed uploads are alike where these agree. -/
theorem masked_shown {first second : Json}
    (alike : masked promptRule place first = masked promptRule place second)
    (told : listedUploads place first = listedUploads place second) :
    masked shownRule place first = masked shownRule place second := by
  have kinds : first.kind = second.kind := by
    rw [← kind_masked promptRule place, alike, kind_masked]
  induction first using Json.treeInduction generalizing place second with
  | string text =>
    cases second with
    | string other =>
      by_cases listed : place = .listed
      · subst listed
        cases told
        rfl
      · rwa [masked_string_shown listed, masked_string_shown listed] at alike
    | _ => cases kinds
  | array items ih =>
    cases second with
    | array others =>
      rw [masked_array, masked_array] at alike ⊢
      rw [listedUploads_array, listedUploads_array] at told
      refine congrArg Json.array (map_agree ?_ ?_ (Json.array.inj alike) told)
      · exact fun one other => length_listedUploads
      · intro one member other same tells
        apply ih one member same tells
        rw [← kind_masked promptRule (itemPlace place), same, kind_masked]
    | _ => cases kinds
  | object fields ih =>
    cases second with
    | object others =>
      rw [masked_object, masked_object] at alike ⊢
      have masks := Json.object.inj alike
      have types := congrArg typeOf masks
      rw [typeOf_masked promptRule_sound, typeOf_masked promptRule_sound] at types
      rw [listedUploads_object, listedUploads_object, types] at told
      rw [types] at masks ⊢
      refine congrArg Json.object (map_agree ?_ ?_ masks told)
      · rintro ⟨key, one⟩ ⟨name, other⟩ same
        obtain ⟨rfl, same⟩ := Prod.mk.inj same
        rcases maskedField_alike same with replaced | ⟨kept, inner⟩
        · dsimp only [fieldUpload]
          rw [if_pos replaced, if_pos replaced]
        · rw [fieldUpload_kept rfl kept, fieldUpload_kept rfl kept]
          exact length_listedUploads inner
      · rintro ⟨key, one⟩ member ⟨name, other⟩ same tells
        obtain ⟨rfl, same⟩ := Prod.mk.inj same
        refine Prod.ext rfl ?_
        rcases maskedField_alike same with replaced | ⟨kept, inner⟩
        · exact (maskedField_replaced replaced one).trans (maskedField_replaced replaced other).symm
        · rw [fieldUpload_kept rfl kept, fieldUpload_kept rfl kept] at tells
          have shown := ih (key, one) member inner tells (by
            rw [← kind_masked promptRule (promptPlace place (typeOf others) key), inner,
              kind_masked])
          exact (maskedField_kept rfl kept one).trans
            (shown.trans (maskedField_kept rfl kept other).symm)
    | _ => cases kinds
  | null => cases second <;> first | rfl | cases kinds
  | bool => cases second <;> first | exact alike | cases kinds
  | number => cases second <;> first | exact alike | cases kinds

/-- Hidden contents never tell: artifacts with the knob off or on, and, with the knob on, the
prompts just where the uploads listed in arrays agree. -/
theorem hidden_contents_untold (first second : Json) :
    ((masked artifactRule .plain first = masked artifactRule .plain second →
        ∀ enabled, redactPromptsWithFlag first enabled = redactPromptsWithFlag second enabled) ∧
      (masked promptRule .plain first = masked promptRule .plain second →
        redactPromptsWithFlag first true = redactPromptsWithFlag second true)) ↔
    (masked promptRule .plain first = masked promptRule .plain second →
      listedUploads .plain first = listedUploads .plain second) := by
  constructor
  · rintro ⟨-, prompts⟩ alike
    have traced := congrArg (listedUploads .plain) (prompts alike)
    unfold redactPromptsWithFlag at traced
    rwa [if_pos rfl, if_pos rfl, listedUploads_redactValue, listedUploads_redactValue] at traced
  · intro uploads
    constructor
    · exact artifacts_hidden
    · intro alike
      exact prompts_hidden (masked_shown alike (uploads alike))

/-- One upload in an array is traced as it is. -/
theorem listed_upload_told :
    masked promptRule .plain (.object [("file_data", .array [.string "a"])]) =
        masked promptRule .plain (.object [("file_data", .array [.string "b"])]) ∧
      redactPromptsWithFlag (.object [("file_data", .array [.string "a"])]) true ≠
        redactPromptsWithFlag (.object [("file_data", .array [.string "b"])]) true := by
  constructor
  · rfl
  · intro same
    have told : ["a"] = ["b"] := congrArg (listedUploads .plain) same
    exact absurd told (by decide)

end Agreement

end Routectl.LogSafe
