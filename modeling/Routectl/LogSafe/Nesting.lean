import Routectl.LogSafe.Redaction

/-! Fuel of the walks: the nesting depth of a body is enough, and more changes nothing. -/
namespace Routectl.LogSafe
open Library
open Library.Json (mapFields modifyField onObject onItems typeOf)

section Fuel
variable {walk next : Json → Json} {fields : Fields} {type : Option String} {key : String}
variable {fuel level : Nat} {value : Json}

/-- Nested no deeper than the level, a replaced value counting as a leaf. -/
def Within : Nat → Json → Prop
  | 0, .array _ => False
  | 0, .object fields => fields = [("redacted", .bool true)]
  | level + 1, .array items => ∀ item ∈ items, Within level item
  | level + 1, .object fields => ∀ entry ∈ fields, Within level entry.2
  | _, _ => True

theorem within_string (level : Nat) (text : String) : Within level (.string text) := by
  cases level <;> trivial

theorem within_bool (level : Nat) (flag : Bool) : Within level (.bool flag) := by
  cases level <;> trivial

theorem within_redactedObject (level : Nat) : Within level redactedObject := by
  cases level with
  | zero => rfl
  | succ level =>
    intro entry member
    rw [List.mem_singleton.mp member]
    exact within_bool level true

theorem Within.succ (within : Within level value) : Within (level + 1) value := by
  induction level generalizing value with
  | zero =>
    cases value with
    | array items => exact within.elim
    | object fields =>
      obtain rfl : fields = _ := within
      exact within_redactedObject 1
    | _ => trivial
  | succ level ih =>
    cases value with
    | array items => exact fun item member => ih (within item member)
    | object fields => exact fun entry member => ih (within entry member)
    | _ => trivial

theorem Within.le {more : Nat} (within : Within level value) (below : level ≤ more) :
    Within more value := by
  induction below with
  | refl => exact within
  | step _ ih => exact ih.succ

theorem itemsDepth_le {items : List Json} {item : Json} (member : item ∈ items) :
    depth item ≤ itemsDepth items := by
  induction items with
  | nil => cases member
  | cons first rest ih =>
    rw [itemsDepth]
    rcases List.mem_cons.mp member with rfl | later
    · exact Nat.le_max_left _ _
    · exact Nat.le_trans (ih later) (Nat.le_max_right _ _)

theorem fieldsDepth_le {entry : String × Json} (member : entry ∈ fields) :
    depth entry.2 ≤ fieldsDepth fields := by
  induction fields with
  | nil => cases member
  | cons first rest ih =>
    rw [fieldsDepth]
    rcases List.mem_cons.mp member with rfl | later
    · exact Nat.le_max_left _ _
    · exact Nat.le_trans (ih later) (Nat.le_max_right _ _)

theorem within_depth (value : Json) : Within (depth value) value := by
  induction value using Json.treeInduction with
  | null => trivial
  | bool => trivial
  | number => trivial
  | string => trivial
  | array items ih => exact fun item member => (ih item member).le (itemsDepth_le member)
  | object fields ih => exact fun entry member => (ih entry member).le (fieldsDepth_le member)

/-- A change of an object that leaves the replaced value alone keeps the level where it keeps
the level of the fields. -/
theorem within_mapFields {visit : String → Json → Json}
    (replaced : mapFields visit [("redacted", .bool true)] = [("redacted", .bool true)])
    (kept : ∀ level, ∀ entry ∈ fields, Within level entry.2 →
      Within level (visit entry.1 entry.2))
    (within : Within level (.object fields)) : Within level (.object (mapFields visit fields)) := by
  cases level with
  | zero =>
    obtain rfl : fields = _ := within
    exact replaced
  | succ level =>
    intro entry member
    obtain ⟨prior, inside, rfl⟩ := List.mem_map.mp member
    exact kept level prior inside (within prior inside)

theorem within_modifyField {name : String} {change : Json → Json} (other : name ≠ "redacted")
    (kept : ∀ level value, Within level value → Within level (change value))
    (within : Within level (.object fields)) :
    Within level (.object (modifyField name change fields)) := by
  apply within_mapFields _ _ within
  · simp [mapFields, other.symm]
  · intro level entry _ inside
    split
    · exact kept level entry.2 inside
    · exact inside

theorem within_onObject {name : String} {change : Json → Json} (other : name ≠ "redacted")
    (kept : ∀ level value, Within level value → Within level (change value))
    (within : Within level value) : Within level (onObject (modifyField name change) value) := by
  cases value with
  | object fields => exact within_modifyField other kept within
  | _ => exact within

theorem within_onItems {change : Json → Json}
    (kept : ∀ level value, Within level value → Within level (change value))
    (within : Within level value) : Within level (onItems change value) := by
  cases value with
  | array items =>
    cases level with
    | zero => exact within.elim
    | succ level =>
      intro item member
      obtain ⟨prior, inside, rfl⟩ := List.mem_map.mp member
      exact kept level prior (within prior inside)
  | _ => exact within

theorem within_redactLongStringLeaf {minLen : Nat} (within : Within level value) :
    Within level (redactLongStringLeaf minLen value) := by
  cases value with
  | string text =>
    rw [redactLongStringLeaf]
    split <;> exact within_string level _
  | _ => exact within

theorem within_collapseEntry (type : Option String) (key : String)
    (within : Within level value) : Within level (collapseEntry type key value) := by
  have replaces : ∀ level value, Within level value → Within level redactedObject :=
    fun level _ _ => within_redactedObject level
  unfold collapseEntry collapseToolUse collapseToolResult collapseReasoningContent
    redactSourceBytes
  split_ifs
  · exact within_redactedObject level
  · exact within_onObject (by decide) replaces within
  · exact within_onObject (by decide) (fun _ _ => within_onItems fun _ _ =>
      within_onObject (by decide) replaces) within
  · exact within_onObject (by decide) replaces within
  · exact within_onObject (by decide) (fun _ _ => within_redactLongStringLeaf) within
  · exact within_redactLongStringLeaf within
  · exact within

theorem within_redactStringOrRecurse
    (walks : ∀ level value, Within level value → Within level (walk value))
    (within : Within level value) : Within level (redactStringOrRecurse walk value) := by
  induction value using Json.treeInduction generalizing level with
  | string text => exact within_string level _
  | array items ih =>
    rw [redactStringOrRecurse, redactContentArray_eq_map]
    cases level with
    | zero => exact within.elim
    | succ level =>
      intro item member
      obtain ⟨prior, inside, rfl⟩ := List.mem_map.mp member
      exact ih prior inside (within prior inside)
  | null => exact walks level _ within
  | bool => exact walks level _ within
  | number => exact walks level _ within
  | object => exact walks level _ within

theorem within_sweep (key : String)
    (walks : ∀ level value, Within level value → Within level (walk value))
    (within : Within level value) : Within level (sweep walk key value) := by
  rcases sweep_cases walk key value with swept | swept | ⟨text, shown, -, swept⟩
  · rw [swept]
    exact within_redactStringOrRecurse walks within
  · rw [swept]
    exact walks level value within
  · rw [swept]
    exact within_string level shown

theorem within_artifactEntry (type : Option String) (key : String)
    (walks : ∀ level value, Within level value → Within level (walk value))
    (within : Within level value) : Within level (artifactEntry walk type key value) := by
  unfold artifactEntry
  split
  · exact within_redactStringOrRecurse walks within
  · exact within

theorem redactValue_leaf (fuel : Nat) (array : ∀ items, value ≠ .array items)
    (object : ∀ fields, value ≠ .object fields) : redactValue fuel value = value := by
  cases fuel with
  | zero => rfl
  | succ fuel =>
    cases value with
    | array items => exact absurd rfl (array items)
    | object fields => exact absurd rfl (object fields)
    | _ => rfl

theorem redactValue_redactedObject (fuel : Nat) :
    redactValue fuel redactedObject = redactedObject := by
  cases fuel with
  | zero => rfl
  | succ fuel =>
    have leaf : redactValue fuel (.bool true) = .bool true :=
      redactValue_leaf fuel nofun nofun
    rw [redactedObject, redactValue_object]
    simp [mapFields, redactEntry, artifactEntry, collapseEntry, IsArtifact, IsReplaced, sweep, leaf]

/-- The full walk nests nothing deeper. -/
theorem within_redactValue (fuel : Nat) (within : Within level value) :
    Within level (redactValue fuel value) := by
  induction fuel generalizing level value with
  | zero => exact within
  | succ fuel ih =>
    cases value with
    | array items =>
      cases level with
      | zero => exact within.elim
      | succ level =>
        intro item member
        obtain ⟨prior, inside, rfl⟩ := List.mem_map.mp member
        exact ih (within prior inside)
    | object fields =>
      have walks (level : Nat) (value : Json) : Within level value →
        Within level (redactValue fuel value) := ih
      cases level with
      | zero =>
        obtain rfl : fields = _ := within
        have same := redactValue_redactedObject (fuel + 1)
        rw [redactedObject] at same
        rw [same]
        exact within_redactedObject 0
      | succ level =>
        rw [redactValue_object]
        intro entry member
        obtain ⟨prior, inside, rfl⟩ := List.mem_map.mp member
        apply within_sweep _ walks
        apply within_collapseEntry
        exact within_artifactEntry _ _ walks (within prior inside)
    | _ => exact within

theorem redactStringOrRecurse_congr (agree : ∀ value, Within level value → next value = walk value)
    (within : Within level value) :
    redactStringOrRecurse next value = redactStringOrRecurse walk value := by
  induction value using Json.treeInduction with
  | string text => rfl
  | array items ih =>
    rw [redactStringOrRecurse, redactStringOrRecurse, redactContentArray_eq_map,
      redactContentArray_eq_map]
    cases level with
    | zero => exact within.elim
    | succ level =>
      congr 1
      apply List.map_congr_left
      intro item member
      exact ih item member (within item member).succ
  | null => exact agree _ within
  | bool => exact agree _ within
  | number => exact agree _ within
  | object => exact agree _ within

theorem sweep_congr (key : String) (agree : ∀ value, Within level value → next value = walk value)
    (within : Within level value) : sweep next key value = sweep walk key value := by
  have recursed := redactStringOrRecurse_congr agree within
  have walked := agree value within
  unfold sweep
  split
  all_goals first | exact recursed | exact walked | (split <;> first | rfl | exact walked)

theorem artifactEntry_congr (type : Option String) (key : String)
    (agree : ∀ value, Within level value → next value = walk value)
    (within : Within level value) :
    artifactEntry next type key value = artifactEntry walk type key value := by
  unfold artifactEntry
  split
  · exact redactStringOrRecurse_congr agree within
  · rfl

theorem redactEntry_congr (type : Option String) (key : String)
    (agree : ∀ value, Within level value → next value = walk value)
    (walks : ∀ level value, Within level value → Within level (walk value))
    (within : Within level value) :
    redactEntry next type key value = redactEntry walk type key value := by
  unfold redactEntry
  rw [artifactEntry_congr type key agree within]
  apply sweep_congr key agree
  exact within_collapseEntry type key (within_artifactEntry type key walks within)

/-- Fuel beyond the nesting changes nothing. -/
theorem redactValue_succ (within : Within fuel value) :
    redactValue (fuel + 1) value = redactValue fuel value := by
  induction fuel generalizing value with
  | zero =>
    cases value with
    | array items => exact within.elim
    | object fields =>
      obtain rfl : fields = _ := within
      exact redactValue_redactedObject 1
    | _ => rfl
  | succ fuel ih =>
    cases value with
    | array items =>
      exact congrArg Json.array (List.map_congr_left fun item member => ih (within item member))
    | object fields =>
      rw [redactValue_object, redactValue_object]
      refine congrArg Json.object (Json.mapFields_congr fun entry member => ?_)
      exact redactEntry_congr _ _ (fun _ => ih) (fun _ _ => within_redactValue fuel)
        (within entry member)
    | _ => rfl

theorem redactReasoningArtifacts_succ (within : Within fuel value) :
    redactReasoningArtifacts (fuel + 1) value = redactReasoningArtifacts fuel value := by
  induction fuel generalizing value with
  | zero =>
    cases value with
    | array items => exact within.elim
    | object fields =>
      obtain rfl : fields = _ := within
      rfl
    | _ => rfl
  | succ fuel ih =>
    cases value with
    | array items =>
      exact congrArg Json.array (List.map_congr_left fun item member => ih (within item member))
    | object fields =>
      rw [redactReasoningArtifacts_object, redactReasoningArtifacts_object]
      refine congrArg Json.object (Json.mapFields_congr fun entry member => ?_)
      have inside := within entry member
      rw [artifactEntry_congr _ _ (fun _ => redactValue_succ) inside]
      exact ih (within_artifactEntry _ _ (fun _ _ => within_redactValue fuel) inside)
    | _ => rfl

/-- Any fuel that reaches the bottom of the body redacts it the same. -/
theorem redactPromptsWithFlag_eq (enough : depth value ≤ fuel) (enabled : Bool) :
    redactPromptsWithFlag value enabled =
      if enabled then redactValue fuel value else redactReasoningArtifacts fuel value := by
  unfold redactPromptsWithFlag
  induction enough with
  | refl => rfl
  | step below ih =>
    have within := (within_depth value).le below
    rw [ih, redactValue_succ within, redactReasoningArtifacts_succ within]

end Fuel

end Routectl.LogSafe
