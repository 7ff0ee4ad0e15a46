import Routectl.Library.Json

/-! Replacing fields of JSON objects, and walks over array fields that carry a
state along. -/
namespace Library
namespace Json

/-- The object with a field replaced where it is, or added at the end. -/
def setField (json : Json) (name : String) (value : Json) : Json :=
  match json with
  | .object fields =>
    if (fields.lookup name).isSome then
      .object (fields.map fun entry => if entry.1 = name then (name, value) else entry)
    else .object (fields ++ [(name, value)])
  | other => other

/-- The elements of an array field, none of any other value. -/
def arrayField (name : String) (json : Json) : List Json :=
  match json.field name with
  | some (.array items) => items
  | _ => []

def stringField (name : String) (json : Json) : Option String := (json.field name).bind asStr

theorem lookup_replaced (fields : List (String × Json)) (name other : String) (value : Json) :
    (fields.map fun entry => if entry.1 = name then (name, value) else entry).lookup other =
      if other = name then (fields.lookup name).map fun _ => value else fields.lookup other := by
  induction fields with
  | nil => simp
  | cons entry rest ih =>
    obtain ⟨key, held⟩ := entry
    by_cases replaced : key = name
    · subst replaced
      by_cases same : other = key
      · subst same
        simp
      · simp [List.lookup_cons, same, ih, beq_eq_false_iff_ne.mpr same]
    · by_cases same : other = key
      · subst same
        simp [replaced]
      · simp only [List.map_cons, if_neg replaced, List.lookup_cons, beq_eq_false_iff_ne.mpr same, ih,
          beq_eq_false_iff_ne.mpr (Ne.symm replaced)]

@[simp] theorem field_setField_self {json : Json} {name : String} (held : json.field name ≠ none)
    (value : Json) : (json.setField name value).field name = some value := by
  cases json with
  | object fields =>
    obtain ⟨prior, found⟩ := Option.ne_none_iff_exists'.mp held
    have present : fields.lookup name = some prior := found
    simp [setField, field, present, lookup_replaced]
  | _ => exact absurd rfl held

/-- A value with a field is an object, and takes another. -/
theorem field_setField_of_field {json : Json} {other : String} (held : json.field other ≠ none)
    (name : String) (value : Json) : (json.setField name value).field name = some value := by
  cases json with
  | object fields =>
    by_cases present : (object fields).field name = none
    · have missing : fields.lookup name = none := present
      simp [setField, field, missing, List.lookup_append]
    · exact field_setField_self present value
  | _ => exact absurd rfl held

theorem field_setField_ne {name other : String} (different : other ≠ name) (json value : Json) :
    (json.setField name value).field other = json.field other := by
  cases json with
  | object fields =>
    rw [setField]
    split
    · simp [field, lookup_replaced, different]
    · simp [field, List.lookup_append, List.lookup_cons, beq_eq_false_iff_ne.mpr different]
  | _ => rfl

theorem stringField_setField_self {json : Json} {name prior : String}
    (held : json.stringField name = some prior) (text : String) :
    (json.setField name (.string text)).stringField name = some text := by
  have present : json.field name ≠ none := by
    intro missing
    rw [stringField, missing] at held
    cases held
  rw [stringField, field_setField_self present]
  rfl

end Json

section Walking
variable {State : Type}

def threadItems (visit : Json → State → Json × State) : List Json → State → List Json × State
  | [], state => ([], state)
  | item :: rest, state =>
    let (visited, next) := visit item state
    let (others, final) := threadItems visit rest next
    (visited :: others, final)

/-- Visit the elements of an array field where there is one. -/
def threadArray (name : String) (visit : Json → State → Json × State) (json : Json)
    (state : State) : Json × State :=
  match json.field name with
  | some (.array items) =>
    let (visited, final) := threadItems visit items state
    (json.setField name (.array visited), final)
  | _ => (json, state)

variable {visit : Json → State → Json × State} {name : String}

theorem threadArray_arrayField (json : Json) (state : State) :
    (threadArray name visit json state).1.arrayField name =
        (threadItems visit (json.arrayField name) state).1 ∧
      (threadArray name visit json state).2 =
        (threadItems visit (json.arrayField name) state).2 := by
  simp only [threadArray, Json.arrayField]
  cases held : json.field name with
  | none => simp [held, threadItems]
  | some value =>
    cases value with
    | array items => simp [Json.field_setField_self (held ▸ Option.some_ne_none _)]
    | _ => simp [held, threadItems]

theorem threadArray_field_ne {other : String} (different : other ≠ name) (json : Json)
    (state : State) : (threadArray name visit json state).1.field other = json.field other := by
  rw [threadArray]
  split
  · exact Json.field_setField_ne different json _
  · rfl

/-- A walk that rewrites what it lists by a function, and moves its state by a
step for each thing listed. -/
structure Rewrites {Item : Type} (rewrite : Item → Item) (record : State → Item → State)
    (listed : Json → List Item) (visit : Json → State → Json × State) : Prop where
  items : ∀ json state, listed (visit json state).1 = (listed json).map rewrite
  state : ∀ json state, (visit json state).2 = (listed json).foldl record state

variable {Item : Type} {rewrite : Item → Item} {record : State → Item → State}
  {listed : Json → List Item}

theorem Rewrites.threadItems (rewrites : Rewrites rewrite record listed visit) (json : List Json)
    (state : State) :
    (Library.threadItems visit json state).1.flatMap listed =
        (json.flatMap listed).map rewrite ∧
      (Library.threadItems visit json state).2 = (json.flatMap listed).foldl record state := by
  induction json generalizing state with
  | nil => exact ⟨rfl, rfl⟩
  | cons item rest ih =>
    obtain ⟨items, final⟩ := ih ((listed item).foldl record state)
    simp only [Library.threadItems, List.flatMap_cons, List.map_append, List.foldl_append,
      rewrites.items, rewrites.state, items, final, and_self]

/-- Walking an array field lists what the walks of its elements list. -/
theorem Rewrites.threadArray (rewrites : Rewrites rewrite record listed visit) (name : String) :
    Rewrites rewrite record (fun json => (json.arrayField name).flatMap listed)
      (Library.threadArray name visit) := by
  constructor
  · intro json state
    rw [(threadArray_arrayField json state).1]
    exact (rewrites.threadItems _ state).1
  · intro json state
    rw [(threadArray_arrayField json state).2]
    exact (rewrites.threadItems _ state).2

end Walking
end Library
