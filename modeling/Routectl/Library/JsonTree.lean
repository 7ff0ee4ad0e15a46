import Routectl.Library.Json

/-! JSON values as trees: induction over them, and changes to an object's fields key by key. -/
namespace Library.Json

section Induction
variable {motive : Json → Prop}

theorem sizeOf_field_lt {fields : List (String × Json)} {entry : String × Json}
    (member : entry ∈ fields) : sizeOf entry.2 < sizeOf fields := by
  have inside := List.sizeOf_lt_of_mem member
  obtain ⟨key, value⟩ := entry
  simp only [Prod.mk.sizeOf_spec] at inside ⊢
  omega

@[elab_as_elim]
theorem treeInduction (null : motive .null) (bool : ∀ value, motive (.bool value))
    (number : ∀ text, motive (.number text)) (string : ∀ text, motive (.string text))
    (array : ∀ items, (∀ item ∈ items, motive item) → motive (.array items))
    (object : ∀ fields, (∀ entry ∈ fields, motive entry.2) → motive (.object fields))
    (json : Json) : motive json :=
  match json with
  | .null => null
  | .bool value => bool value
  | .number text => number text
  | .string text => string text
  | .array items => array items fun item member =>
    have _smaller := List.sizeOf_lt_of_mem member
    treeInduction null bool number string array object item
  | .object fields => object fields fun entry member =>
    have _smaller := sizeOf_field_lt member
    treeInduction null bool number string array object entry.2
termination_by sizeOf json
decreasing_by all_goals simp only [Json.array.sizeOf_spec, Json.object.sizeOf_spec]; omega

end Induction

/-- Which constructor a value was built with. -/
def kind : Json → Nat
  | .null => 0
  | .bool _ => 1
  | .number _ => 2
  | .string _ => 3
  | .array _ => 4
  | .object _ => 5

section Fields
variable {fields : List (String × Json)} {visit next : String → Json → Json}

/-- Every field's value changed as its key asks. -/
def mapFields (visit : String → Json → Json) (fields : List (String × Json)) :
    List (String × Json) :=
  fields.map fun entry => (entry.1, visit entry.1 entry.2)

/-- The change of the value under one key, no other. -/
def modifyField (name : String) (change : Json → Json) (fields : List (String × Json)) :
    List (String × Json) :=
  mapFields (fun key value => if key = name then change value else value) fields

def onObject (change : List (String × Json) → List (String × Json)) : Json → Json
  | .object fields => .object (change fields)
  | other => other

def onItems (change : Json → Json) : Json → Json
  | .array items => .array (items.map change)
  | other => other

/-- The text of an object's `type`. -/
def typeOf (fields : List (String × Json)) : Option String := (fields.lookup "type").bind asStr

theorem mapFields_mapFields (visit next : String → Json → Json) (fields : List (String × Json)) :
    mapFields next (mapFields visit fields) =
      mapFields (fun key value => next key (visit key value)) fields := by
  rw [mapFields, mapFields, List.map_map]
  rfl

theorem mapFields_congr
    (same : ∀ entry ∈ fields, visit entry.1 entry.2 = next entry.1 entry.2) :
    mapFields visit fields = mapFields next fields := by
  apply List.map_congr_left
  intro entry member
  rw [same entry member]

theorem lookup_mapFields (visit : String → Json → Json) (fields : List (String × Json))
    (name : String) :
    (mapFields visit fields).lookup name = (fields.lookup name).map (visit name) := by
  induction fields with
  | nil => rfl
  | cons entry rest ih =>
    obtain ⟨key, value⟩ := entry
    rw [mapFields, List.map_cons, List.lookup_cons, List.lookup_cons]
    by_cases same : name = key
    · subst same
      simp
    · rw [beq_eq_false_iff_ne.mpr same]
      exact ih

/-- A change that keeps texts what they are keeps the type. -/
theorem typeOf_mapFields (visit : String → Json → Json) (fields : List (String × Json))
    (kept : ∀ value, (visit "type" value).asStr = value.asStr) :
    typeOf (mapFields visit fields) = typeOf fields := by
  unfold typeOf
  rw [lookup_mapFields, Option.bind_map]
  exact congrArg _ (funext kept)

end Fields
end Library.Json
