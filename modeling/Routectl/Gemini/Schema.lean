import Routectl.Library.JsonTree

/-! The cleaning of a caller's JSON schema into the subset that Gemini accepts. A reference is
inlined along a path that takes no definition twice. -/
namespace Routectl.Gemini.Cleaning
open Library (Json)
open Library.Json (treeInduction)

abbrev Fields := List (String × Json)

def structuralKeywords : List String := ["$schema", "$defs", "definitions"]

def constraintKeywords : List String :=
  ["additionalProperties", "allOf", "not", "const", "patternProperties"]

def isSupportedFormat (format : String) : Bool :=
  format ∈ ["enum", "date-time", "float", "double", "int32", "int64"]

/-- Every occurrence of two characters spelled as one. -/
def replacePair (first second spelled : Char) : List Char → List Char
  | head :: next :: rest =>
    if head = first ∧ next = second then spelled :: replacePair first second spelled rest
    else head :: replacePair first second spelled (next :: rest)
  | short => short

def decodeRefPointer (pointer : String) : String :=
  String.ofList (replacePair '~' '0' '~' (replacePair '~' '1' '/' pointer.toList))

def containerDefs (schema : Fields) (container : String) : Fields :=
  match schema.lookup container with
  | some (.object entries) =>
    entries.map fun entry => ("#/" ++ container ++ "/" ++ entry.1, entry.2)
  | _ => []

def collectDefs : Json → Fields
  | .object schema => containerDefs schema "$defs" ++ containerDefs schema "definitions"
  | _ => []

/-- A key's value replaced where it stands, or added at the end. -/
def insertField (fields : Fields) (entry : String × Json) : Fields :=
  if (fields.lookup entry.1).isSome then
    fields.map fun field => if field.1 = entry.1 then entry else field
  else fields ++ [entry]

def coerceEnum : Json → Json
  | .array items => .array (items.map fun item =>
    match item with
    | .number text => .string text
    | .bool true => .string "true"
    | .bool false => .string "false"
    | other => other)
  | other => other

section Cleaning
variable (toUppercase : String → String)

/-- The concrete members of a type union. -/
def concreteMembers (members : List Json) : List String :=
  (members.filterMap Json.asStr).filterMap fun name =>
    if name = "null" then none else some (toUppercase name)

def insertType : Json → Fields
  | .string name => [("type", .string (toUppercase name))]
  | .array members =>
    (match concreteMembers toUppercase members with
    | [] => []
    | [only] => [("type", .string only)]
    | branches =>
      [("anyOf", .array (branches.map fun name => .object [("type", .string name)]))]) ++
    if "null" ∈ members.filterMap Json.asStr then [("nullable", .bool true)] else []
  | other => [("type", other)]

/-- What one entry of a schema does: the keys it writes, the target it inlines, and whether it
loses a constraint. -/
structure Effect where
  writes : Fields := []
  inlined : Option Fields := none
  dropped : Bool := false

def Effect.written (key : String) (cleaned : Json × Bool) : Effect :=
  { writes := [(key, cleaned.1)], dropped := cleaned.2 }

/-- The reference's target as the base of the schema, where it resolves to an object. -/
def Effect.ofTarget (resolved : Option Json × Bool) : Effect :=
  match resolved.1 with
  | some (.object target) => { inlined := some target, dropped := resolved.2 }
  | _ => { dropped := true }

def Effect.ofFormat (value : Json) : Effect :=
  match value with
  | .string format =>
    if isSupportedFormat format then { writes := [("format", value)] } else { dropped := true }
  | _ => { dropped := true }

/-- The entries' writes in order, over the target the last of them inlines. -/
def assemble (effects : List Effect) : Json × Bool :=
  let out := (effects.flatMap Effect.writes).foldl insertField []
  let cleaned :=
    match (effects.filterMap Effect.inlined).getLast? with
    | some target => out.foldl insertField target
    | none => out
  (.object cleaned, effects.any Effect.dropped)

def collectItems (cleaned : List (Json × Bool)) : Json × Bool :=
  (.array (cleaned.map Prod.fst), cleaned.any Prod.snd)

def collectMap (cleaned : List (String × Json × Bool)) : Json × Bool :=
  (.object (cleaned.map fun entry => (entry.1, entry.2.1)), cleaned.any fun entry => entry.2.2)

variable (resolve : String → Option (Option Json × Bool))

mutual
def cleanValue : Json → Option (Json × Bool)
  | .object fields => (cleanObject fields).map assemble
  | .array items => (cleanItems items).map collectItems
  | other => some (other, false)

def cleanItems : List Json → Option (List (Json × Bool))
  | [] => some []
  | item :: rest =>
    (cleanValue item).bind fun cleaned => (cleanItems rest).map fun others => cleaned :: others

/-- A map whose keys are user-chosen names; anything else is cleaned as a schema. -/
def cleanSchemaMap : Json → Option (Json × Bool)
  | .object entries => (cleanNamed entries).map collectMap
  | .array items => (cleanItems items).map collectItems
  | other => some (other, false)

def cleanNamed : List (String × Json) → Option (List (String × Json × Bool))
  | [] => some []
  | (name, schema) :: rest =>
    (cleanValue schema).bind fun cleaned =>
      (cleanNamed rest).map fun others => (name, cleaned) :: others

def cleanObject : List (String × Json) → Option (List Effect)
  | [] => some []
  | (key, value) :: rest =>
    (if key = "$ref" then
      match value with
      | .string pointer => (resolve pointer).map Effect.ofTarget
      | _ => some { dropped := true }
    else if key ∈ structuralKeywords then some {}
    else if key ∈ constraintKeywords then some { dropped := true }
    else if key = "oneOf" ∨ key = "anyOf" then (cleanValue value).map (Effect.written "anyOf")
    else if key = "type" then some { writes := insertType toUppercase value }
    else if key = "enum" then some { writes := [("enum", coerceEnum value)] }
    else if key = "format" then some (.ofFormat value)
    else if key = "properties" then (cleanSchemaMap value).map (Effect.written key)
    else if key = "items" ∨ key = "prefixItems" then (cleanValue value).map (Effect.written key)
    else some { writes := [(key, value)] }).bind fun effect =>
      (cleanObject rest).map fun others => effect :: others
end

end Cleaning

section Resolving
variable (toUppercase : String → String) (defs : Fields)

/-- A reference followed where its definition was not taken on the way: `none` is a run out of
fuel, not of definitions. -/
def resolveRef : Nat → List String → String → Option (Option Json × Bool)
  | 0, _, _ => none
  | fuel + 1, visited, pointer =>
    if decodeRefPointer pointer ∈ visited then some (none, false)
    else
      match defs.lookup (decodeRefPointer pointer) with
      | none => some (none, false)
      | some target =>
        (cleanValue toUppercase (resolveRef fuel (decodeRefPointer pointer :: visited)) target).map
          fun cleaned => (some cleaned.1, cleaned.2)

end Resolving

/-- The cleaned schema, and whether a constraint was lost. -/
def cleanSchemaReporting (toUppercase : String → String) (fuel : Nat) (schema : Json) :
    Option (Json × Bool) :=
  cleanValue toUppercase (resolveRef toUppercase (collectDefs schema) fuel []) schema

section Entries
variable (toUppercase : String → String) (resolve : String → Option (Option Json × Bool))

/-- What one entry of an object comes to. -/
def entryEffect (entry : String × Json) : Option Effect :=
  if entry.1 = "$ref" then
    match entry.2 with
    | .string pointer => (resolve pointer).map Effect.ofTarget
    | _ => some { dropped := true }
  else if entry.1 ∈ structuralKeywords then some {}
  else if entry.1 ∈ constraintKeywords then some { dropped := true }
  else if entry.1 = "oneOf" ∨ entry.1 = "anyOf" then
    (cleanValue toUppercase resolve entry.2).map (Effect.written "anyOf")
  else if entry.1 = "type" then some { writes := insertType toUppercase entry.2 }
  else if entry.1 = "enum" then some { writes := [("enum", coerceEnum entry.2)] }
  else if entry.1 = "format" then some (.ofFormat entry.2)
  else if entry.1 = "properties" then
    (cleanSchemaMap toUppercase resolve entry.2).map (Effect.written entry.1)
  else if entry.1 = "items" ∨ entry.1 = "prefixItems" then
    (cleanValue toUppercase resolve entry.2).map (Effect.written entry.1)
  else some { writes := [(entry.1, entry.2)] }

theorem cleanObject_cons (entry : String × Json) (rest : Fields) :
    cleanObject toUppercase resolve (entry :: rest) =
      (entryEffect toUppercase resolve entry).bind fun effect =>
        (cleanObject toUppercase resolve rest).map fun others => effect :: others := rfl

variable {toUppercase resolve}

theorem forall₂_of_bind {Source Target : Type} (clean : Source → Option Target)
    (collect : List Source → Option (List Target)) (none : collect [] = some [])
    (next : ∀ head rest, collect (head :: rest) =
      (clean head).bind fun cleaned => (collect rest).map fun others => cleaned :: others)
    {sources : List Source} {targets : List Target} (collected : collect sources = some targets) :
    List.Forall₂ (fun source target => clean source = some target) sources targets := by
  induction sources generalizing targets with
  | nil =>
    obtain rfl : [] = targets := by simpa [none] using collected
    exact .nil
  | cons head rest ih =>
    rw [next] at collected
    obtain ⟨cleaned, first, collected⟩ := Option.bind_eq_some_iff.mp collected
    obtain ⟨others, later, rfl⟩ := Option.map_eq_some_iff.mp collected
    exact .cons first (ih later)

theorem total_of_bind {Source Target : Type} (clean : Source → Option Target)
    (collect : List Source → Option (List Target)) (none : collect [] = some [])
    (next : ∀ head rest, collect (head :: rest) =
      (clean head).bind fun cleaned => (collect rest).map fun others => cleaned :: others)
    {sources : List Source} (each : ∀ source ∈ sources, ∃ target, clean source = some target) :
    ∃ targets, collect sources = some targets := by
  induction sources with
  | nil => exact ⟨[], none⟩
  | cons head rest ih =>
    obtain ⟨cleaned, first⟩ := each head List.mem_cons_self
    obtain ⟨others, later⟩ := ih fun source member => each source (List.mem_cons_of_mem _ member)
    exact ⟨cleaned :: others, by rw [next, first, Option.bind_some, later, Option.map_some]⟩

theorem cleanItems_forall₂ {items : List Json} {cleaned : List (Json × Bool)}
    (collected : cleanItems toUppercase resolve items = some cleaned) :
    List.Forall₂ (fun item out => cleanValue toUppercase resolve item = some out) items cleaned :=
  forall₂_of_bind (cleanValue toUppercase resolve) (cleanItems toUppercase resolve) rfl
    (fun _ _ => rfl) collected

theorem cleanObject_forall₂ {fields : Fields} {effects : List Effect}
    (collected : cleanObject toUppercase resolve fields = some effects) :
    List.Forall₂ (fun entry effect => entryEffect toUppercase resolve entry = some effect)
      fields effects :=
  forall₂_of_bind (entryEffect toUppercase resolve) (cleanObject toUppercase resolve) rfl
    (cleanObject_cons toUppercase resolve) collected

def cleanNamedEntry (toUppercase : String → String)
    (resolve : String → Option (Option Json × Bool)) (entry : String × Json) :
    Option (String × Json × Bool) :=
  (cleanValue toUppercase resolve entry.2).map fun cleaned => (entry.1, cleaned)

theorem cleanNamed_cons (entry : String × Json) (rest : Fields) :
    cleanNamed toUppercase resolve (entry :: rest) =
      (cleanNamedEntry toUppercase resolve entry).bind fun cleaned =>
        (cleanNamed toUppercase resolve rest).map fun others => cleaned :: others := by
  obtain ⟨name, schema⟩ := entry
  rw [cleanNamed, cleanNamedEntry]
  cases cleanValue toUppercase resolve schema <;> rfl

theorem cleanNamed_forall₂ {entries : Fields} {cleaned : List (String × Json × Bool)}
    (collected : cleanNamed toUppercase resolve entries = some cleaned) :
    List.Forall₂ (fun entry out => cleanNamedEntry toUppercase resolve entry = some out)
      entries cleaned :=
  forall₂_of_bind (cleanNamedEntry toUppercase resolve) (cleanNamed toUppercase resolve) rfl
    cleanNamed_cons collected

theorem entryEffect_total (resolves : ∀ pointer, ∃ resolved, resolve pointer = some resolved)
    {entry : String × Json} (value : ∃ cleaned, cleanValue toUppercase resolve entry.2 = some cleaned)
    (named : ∃ cleaned, cleanSchemaMap toUppercase resolve entry.2 = some cleaned) :
    ∃ effect, entryEffect toUppercase resolve entry = some effect := by
  obtain ⟨cleaned, value⟩ := value
  obtain ⟨mapped, named⟩ := named
  unfold entryEffect
  rw [value, named]
  by_cases reference : entry.1 = "$ref"
  · rw [if_pos reference]
    cases entry.2 with
    | string pointer =>
      obtain ⟨resolved, same⟩ := resolves pointer
      exact ⟨_, by simp only [same, Option.map_some]; rfl⟩
    | _ => exact ⟨_, rfl⟩
  · rw [if_neg reference]
    split_ifs
    all_goals exact ⟨_, rfl⟩

/-- A schema is cleaned where every reference resolves. -/
theorem cleanValue_total (resolves : ∀ pointer, ∃ resolved, resolve pointer = some resolved)
    (schema : Json) : (∃ cleaned, cleanValue toUppercase resolve schema = some cleaned) ∧
      ∃ cleaned, cleanSchemaMap toUppercase resolve schema = some cleaned := by
  induction schema using treeInduction with
  | array items ih =>
    obtain ⟨cleaned, collected⟩ := total_of_bind (cleanValue toUppercase resolve)
      (cleanItems toUppercase resolve) rfl (fun _ _ => rfl) fun item member => (ih item member).1
    exact ⟨⟨_, by rw [cleanValue, collected]; rfl⟩, ⟨_, by rw [cleanSchemaMap, collected]; rfl⟩⟩
  | object fields ih =>
    obtain ⟨effects, collected⟩ := total_of_bind (entryEffect toUppercase resolve)
      (cleanObject toUppercase resolve) rfl (cleanObject_cons toUppercase resolve)
      fun entry member =>
        entryEffect_total resolves (ih entry member).1 (ih entry member).2
    have named : ∀ entry ∈ fields, ∃ out, cleanNamedEntry toUppercase resolve entry = some out := by
      intro entry member
      obtain ⟨cleaned, same⟩ := (ih entry member).1
      exact ⟨_, by rw [cleanNamedEntry, same]; rfl⟩
    obtain ⟨mapped, collectedNamed⟩ := total_of_bind
      (cleanNamedEntry toUppercase resolve) (cleanNamed toUppercase resolve) rfl
      cleanNamed_cons named
    exact ⟨⟨_, by rw [cleanValue, collected]; rfl⟩,
      ⟨_, by rw [cleanSchemaMap, collectedNamed]; rfl⟩⟩
  | _ => exact ⟨⟨_, rfl⟩, ⟨_, rfl⟩⟩

end Entries

section Termination
variable {toUppercase : String → String} {defs : Fields}

/-- The definitions a path has not taken. -/
def unvisited (defs : Fields) (visited : List String) : Fields :=
  defs.filter fun entry => entry.1 ∉ visited

theorem unvisited_shrinks {visited : List String} {pointer : String} {target : Json}
    (fresh : pointer ∉ visited) (found : defs.lookup pointer = some target) :
    (unvisited defs (pointer :: visited)).length < (unvisited defs visited).length := by
  have member : (pointer, target) ∈ defs := by
    obtain ⟨before, after, rfl, _⟩ := List.lookup_eq_some_iff.mp found
    simp
  have split : unvisited defs (pointer :: visited) =
      (unvisited defs visited).filter fun entry => entry.1 ≠ pointer := by
    unfold unvisited
    rw [List.filter_filter]
    apply List.filter_congr
    intro entry _
    simp
  rw [split, List.length_filter_lt_length_iff_exists]
  exact ⟨(pointer, target), List.mem_filter.mpr ⟨member, by simpa using fresh⟩, by simp⟩

theorem resolveRef_total {fuel : Nat} {visited : List String}
    (enough : (unvisited defs visited).length < fuel) (pointer : String) :
    ∃ resolved, resolveRef toUppercase defs fuel visited pointer = some resolved := by
  induction fuel generalizing visited pointer with
  | zero => exact absurd enough (Nat.not_lt_zero _)
  | succ fuel ih =>
    rw [resolveRef]
    by_cases taken : decodeRefPointer pointer ∈ visited
    · exact ⟨_, if_pos taken⟩
    · rw [if_neg taken]
      cases found : defs.lookup (decodeRefPointer pointer) with
      | none => exact ⟨_, rfl⟩
      | some target =>
        have fewer := unvisited_shrinks taken found
        have deeper : ∀ inner, ∃ resolved,
            resolveRef toUppercase defs fuel (decodeRefPointer pointer :: visited) inner =
              some resolved := fun inner => ih (by omega) inner
        obtain ⟨⟨cleaned, done⟩, _⟩ := @cleanValue_total toUppercase _ deeper target
        exact ⟨_, by simp only [done, Option.map_some]; rfl⟩

/-- More fuel than there are definitions left changes nothing. -/
theorem resolveRef_stable {fuel more : Nat} {visited : List String}
    (enough : (unvisited defs visited).length < fuel)
    (alsoEnough : (unvisited defs visited).length < more) :
    resolveRef toUppercase defs fuel visited = resolveRef toUppercase defs more visited := by
  induction fuel generalizing more visited with
  | zero => exact absurd enough (Nat.not_lt_zero _)
  | succ fuel ih =>
    cases more with
    | zero => exact absurd alsoEnough (Nat.not_lt_zero _)
    | succ more =>
      funext pointer
      rw [resolveRef, resolveRef]
      by_cases taken : decodeRefPointer pointer ∈ visited
      · rw [if_pos taken, if_pos taken]
      · rw [if_neg taken, if_neg taken]
        cases found : defs.lookup (decodeRefPointer pointer) with
        | none => rfl
        | some target =>
          have fewer := unvisited_shrinks taken found
          rw [@ih more (decodeRefPointer pointer :: visited) (by omega) (by omega)]

/-- Cleaning ends, cyclic definitions or not. -/
theorem cleanSchemaReporting_terminates (toUppercase : String → String) (schema : Json) :
    ∃ cleaned dropped, ∀ fuel, (collectDefs schema).length < fuel →
      cleanSchemaReporting toUppercase fuel schema = some (cleaned, dropped) := by
  have within : (unvisited (collectDefs schema) []).length ≤ (collectDefs schema).length :=
    List.length_filter_le _ _
  have resolves : ∀ pointer, ∃ resolved, resolveRef toUppercase (collectDefs schema)
      ((collectDefs schema).length + 1) [] pointer = some resolved :=
    fun pointer => resolveRef_total (Nat.lt_succ_of_le within) pointer
  obtain ⟨⟨⟨cleaned, dropped⟩, done⟩, _⟩ := @cleanValue_total toUppercase _ resolves schema
  refine ⟨cleaned, dropped, ?_⟩
  intro fuel enough
  rw [cleanSchemaReporting, resolveRef_stable (Nat.lt_of_le_of_lt within enough)
    (Nat.lt_succ_of_le within), done]

end Termination
end Routectl.Gemini.Cleaning
