import Mathlib.Data.List.Forall2
import Routectl.Gemini.Schema

/-! Which keyword of the input each key of a cleaned schema comes from: the last to write it, or
the target of a reference where none does. -/
namespace Routectl.Gemini.Cleaning
open Library (Json)
open Library.Json (treeInduction)

section Inserting

theorem lookup_insertField (fields : Fields) (entry : String × Json) (key : String) :
    (insertField fields entry).lookup key =
      if key = entry.1 then some entry.2 else fields.lookup key := by
  obtain ⟨name, value⟩ := entry
  unfold insertField
  have replaced : ∀ fields : Fields,
      (fields.map fun field => if field.1 = name then (name, value) else field).lookup key =
        if key = name then (fields.lookup name).map fun _ => value else fields.lookup key := by
    intro fields
    induction fields with
    | nil => simp
    | cons field rest ih =>
      obtain ⟨other, held⟩ := field
      rw [List.map_cons]
      by_cases here : other = name
      · rw [if_pos here, List.lookup_cons, ih, here, List.lookup_cons, List.lookup_cons]
        by_cases same : key = name
        · simp [same]
        · simp [same, beq_eq_false_iff_ne.mpr same]
      · have skipped : (name == other) = false := beq_eq_false_iff_ne.mpr (Ne.symm here)
        rw [if_neg here, List.lookup_cons, ih, List.lookup_cons, List.lookup_cons, skipped]
        by_cases same : key = name
        · simp [same, skipped]
        · simp [same]
  cases present : fields.lookup name with
  | some held => simp [present, replaced]
  | none =>
    rw [if_neg (by simp), List.lookup_append]
    by_cases same : key = name
    · simp [same, present]
    · simp [same, List.lookup_cons, beq_eq_false_iff_ne.mpr same]

theorem lookup_foldl_insertField (writes base : Fields) (key : String) :
    (writes.foldl insertField base).lookup key =
      (writes.reverse.lookup key).or (base.lookup key) := by
  induction writes generalizing base with
  | nil => simp
  | cons entry rest ih =>
    obtain ⟨name, value⟩ := entry
    rw [List.foldl_cons, ih, lookup_insertField, List.reverse_cons, List.lookup_append,
      List.lookup_cons, List.lookup_nil]
    by_cases same : key = name
    · simp [same]
    · simp [same, beq_eq_false_iff_ne.mpr same]

theorem keys_insertField {fields : Fields} (distinct : (fields.map Prod.fst).Nodup)
    (entry : String × Json) : ((insertField fields entry).map Prod.fst).Nodup := by
  unfold insertField
  by_cases present : (fields.lookup entry.1).isSome = true
  · have kept : (fields.map fun field => if field.1 = entry.1 then entry else field).map Prod.fst =
        fields.map Prod.fst := by
      rw [List.map_map]
      apply List.map_congr_left
      intro field _
      by_cases here : field.1 = entry.1
      · simp [here]
      · simp [here]
    rw [if_pos present, kept]
    exact distinct
  · have absent : entry.1 ∉ fields.map Prod.fst := by
      intro member
      apply present
      obtain ⟨field, inside, same⟩ := List.mem_map.mp member
      rw [List.lookup_isSome_iff]
      exact ⟨field, inside, by simp [same]⟩
    rw [if_neg present, List.map_append, List.nodup_append]
    refine ⟨distinct, by simp, ?_⟩
    rintro key member other single rfl
    obtain rfl := List.mem_singleton.mp single
    exact absent member

theorem keys_foldl_insertField (writes : Fields) {base : Fields}
    (distinct : (base.map Prod.fst).Nodup) :
    ((writes.foldl insertField base).map Prod.fst).Nodup := by
  induction writes generalizing base with
  | nil => exact distinct
  | cons entry rest ih => exact ih (keys_insertField distinct entry)

theorem lookup_reverse {fields : Fields} (distinct : (fields.map Prod.fst).Nodup) (key : String) :
    fields.reverse.lookup key = fields.lookup key := by
  induction fields with
  | nil => rfl
  | cons entry rest ih =>
    obtain ⟨name, value⟩ := entry
    rw [List.map_cons, List.nodup_cons] at distinct
    rw [List.reverse_cons, List.lookup_append, ih distinct.2, List.lookup_cons, List.lookup_cons,
      List.lookup_nil]
    by_cases same : key = name
    · have absent : rest.lookup name = none := by
        rw [List.lookup_eq_none_iff]
        intro other member
        have different : name ≠ other.1 := by
          rintro rfl
          exact distinct.1 (List.mem_map.mpr ⟨other, member, rfl⟩)
        simp [different]
      simp [same, absent]
    · simp [beq_eq_false_iff_ne.mpr same]

/-- The fields an object is assembled to. -/
def overlay (effects : List Effect) : Fields :=
  let out := (effects.flatMap Effect.writes).foldl insertField []
  match (effects.filterMap Effect.inlined).getLast? with
  | some target => out.foldl insertField target
  | none => out

theorem assemble_fst (effects : List Effect) : (assemble effects).1 = .object (overlay effects) := rfl

/-- The last write of a key stands, and the inlined target where there is none. -/
theorem lookup_overlay (effects : List Effect) (key : String) :
    (overlay effects).lookup key =
      ((effects.flatMap Effect.writes).reverse.lookup key).or
        (((effects.filterMap Effect.inlined).getLast?).bind fun target => target.lookup key) := by
  have distinct := @keys_foldl_insertField (effects.flatMap Effect.writes) [] List.nodup_nil
  unfold overlay
  dsimp only
  cases (effects.filterMap Effect.inlined).getLast? with
  | none => simp [lookup_foldl_insertField]
  | some target =>
    dsimp only
    rw [lookup_foldl_insertField, lookup_reverse distinct, lookup_foldl_insertField]
    simp

end Inserting

/-- Where the value of an output key comes from. -/
inductive Source where
  | schema (value : Json)
  | schemaMap (value : Json)
  | literal (value : Json)

section Sources
variable (toUppercase : String → String) (defs : Fields)

def literals (writes : Fields) : List (String × Source) :=
  writes.map fun entry => (entry.1, .literal entry.2)

/-- The keys an entry writes. -/
def sources (entry : String × Json) : List (String × Source) :=
  if entry.1 = "$ref" then []
  else if entry.1 ∈ structuralKeywords then []
  else if entry.1 ∈ constraintKeywords then []
  else if entry.1 = "oneOf" ∨ entry.1 = "anyOf" then [("anyOf", .schema entry.2)]
  else if entry.1 = "type" then literals (insertType toUppercase entry.2)
  else if entry.1 = "enum" then [("enum", .literal (coerceEnum entry.2))]
  else if entry.1 = "format" then literals (Effect.ofFormat entry.2).writes
  else if entry.1 = "properties" then [("properties", .schemaMap entry.2)]
  else if entry.1 = "items" ∨ entry.1 = "prefixItems" then [(entry.1, .schema entry.2)]
  else [(entry.1, .literal entry.2)]

/-- The last entry to write a key. -/
def lastSource (schema : Fields) (key : String) : Option Source :=
  (schema.flatMap (sources toUppercase)).reverse.lookup key

/-- The object a reference inlines, with the definitions taken on the way to it. -/
def refTarget (visited : List String) (entry : String × Json) : Option (List String × Fields) :=
  if entry.1 = "$ref" then
    match entry.2 with
    | .string pointer =>
      if decodeRefPointer pointer ∈ visited then none
      else
        match defs.lookup (decodeRefPointer pointer) with
        | some (.object target) => some (decodeRefPointer pointer :: visited, target)
        | _ => none
    | _ => none
  else none

def inlinedTarget (visited : List String) (schema : Fields) : Option (List String × Fields) :=
  (schema.filterMap (refTarget defs visited)).getLast?

/-- The keyword that a key of the cleaned schema comes from. -/
inductive Winner : List String → Fields → String → List String → Source → Prop where
  | own {visited : List String} {schema : Fields} {key : String} {source : Source}
    (last : lastSource toUppercase schema key = some source) :
    Winner visited schema key visited source
  | inlined {visited deeper origin : List String} {schema target : Fields} {key : String}
    {source : Source} (unwritten : lastSource toUppercase schema key = none)
    (inlines : inlinedTarget defs visited schema = some (deeper, target))
    (inside : Winner deeper target key origin source) :
    Winner visited schema key origin source

/-- What a keyword's value is cleaned to. -/
def CleansTo (fuel : Nat) (visited : List String) : Source → Json → Prop
  | .schema value, cleaned => ∃ dropped,
    cleanValue toUppercase (resolveRef toUppercase defs fuel visited) value = some (cleaned, dropped)
  | .schemaMap value, cleaned => ∃ dropped,
    cleanSchemaMap toUppercase (resolveRef toUppercase defs fuel visited) value =
      some (cleaned, dropped)
  | .literal value, cleaned => cleaned = value

end Sources

section Origins
variable {toUppercase : String → String} {defs : Fields} {fuel : Nat} {visited : List String}

theorem cleansTo_literals (writes : Fields) :
    List.Forall₂ (fun source write => source.1 = write.1 ∧
      CleansTo toUppercase defs fuel visited source.2 write.2) (literals writes) writes := by
  induction writes with
  | nil => exact .nil
  | cons entry rest ih => exact .cons ⟨rfl, rfl⟩ ih

theorem entryEffect_writes {entry : String × Json} {effect : Effect}
    (done : entryEffect toUppercase (resolveRef toUppercase defs fuel visited) entry = some effect) :
    List.Forall₂ (fun source write => source.1 = write.1 ∧
      CleansTo toUppercase defs fuel visited source.2 write.2)
      (sources toUppercase entry) effect.writes := by
  have single : ∀ (key : String) (source : Source) (cleaned : Option (Json × Bool)),
      cleaned.map (Effect.written key) = some effect →
      (∀ value dropped, cleaned = some (value, dropped) →
        CleansTo toUppercase defs fuel visited source value) →
      List.Forall₂ (fun source write => source.1 = write.1 ∧
        CleansTo toUppercase defs fuel visited source.2 write.2) [(key, source)] effect.writes := by
    intro key source cleaned written cleans
    obtain ⟨⟨value, dropped⟩, same, rfl⟩ := Option.map_eq_some_iff.mp written
    exact .cons ⟨rfl, cleans value dropped same⟩ .nil
  unfold entryEffect at done
  unfold sources
  by_cases reference : entry.1 = "$ref"
  · rw [if_pos reference] at done ⊢
    have unwritten : effect.writes = [] := by
      cases pointer : entry.2 with
      | string text =>
        rw [pointer] at done
        obtain ⟨⟨target, dropped⟩, _, rfl⟩ := Option.map_eq_some_iff.mp done
        unfold Effect.ofTarget
        cases target with
        | none => rfl
        | some target => cases target <;> rfl
      | _ =>
        rw [pointer] at done
        cases done
        rfl
    rw [unwritten]
    exact .nil
  · rw [if_neg reference] at done ⊢
    split_ifs at done ⊢
    · cases done
      exact .nil
    · cases done
      exact .nil
    · exact single _ _ _ done (fun value dropped same => ⟨dropped, same⟩)
    · cases done
      exact cleansTo_literals _
    · cases done
      exact .cons ⟨rfl, rfl⟩ .nil
    · cases done
      exact cleansTo_literals _
    · have key : entry.1 = "properties" := by assumption
      rw [key] at done
      exact single _ _ _ done (fun value dropped same => ⟨dropped, same⟩)
    · exact single _ _ _ done (fun value dropped same => ⟨dropped, same⟩)
    · cases done
      exact .cons ⟨rfl, rfl⟩ .nil

theorem entryEffect_inlined {entry : String × Json} {effect : Effect}
    (done : entryEffect toUppercase (resolveRef toUppercase defs fuel visited) entry = some effect) :
    (refTarget defs visited entry = none ∧ effect.inlined = none ∧
      (entry.1 = "$ref" → effect.dropped = true)) ∨
      ∃ deeper target less cleaned, fuel = less + 1 ∧
        refTarget defs visited entry = some (deeper, target) ∧ effect.inlined = some cleaned ∧
        cleanValue toUppercase (resolveRef toUppercase defs less deeper) (.object target) =
          some (.object cleaned, effect.dropped) := by
  unfold entryEffect at done
  unfold refTarget
  by_cases reference : entry.1 = "$ref"
  · rw [if_pos reference] at done ⊢
    cases pointer : entry.2 with
    | string text =>
      rw [pointer] at done
      obtain ⟨⟨resolved, dropped⟩, found, rfl⟩ := Option.map_eq_some_iff.mp done
      cases fuel with
      | zero => cases found
      | succ less =>
        rw [resolveRef] at found
        by_cases taken : decodeRefPointer text ∈ visited
        · rw [if_pos taken] at found
          cases found
          exact .inl ⟨if_pos taken, rfl, fun _ => rfl⟩
        · rw [if_neg taken] at found
          dsimp only
          rw [if_neg taken]
          cases defined : defs.lookup (decodeRefPointer text) with
          | none =>
            rw [defined] at found
            cases found
            exact .inl ⟨rfl, rfl, fun _ => rfl⟩
          | some target =>
            rw [defined] at found
            obtain ⟨⟨cleaned, lost⟩, cleans, same⟩ := Option.map_eq_some_iff.mp found
            cases same
            cases target with
            | object target =>
              obtain ⟨effects, _, assembled⟩ := Option.map_eq_some_iff.mp
                (show (cleanObject toUppercase (resolveRef toUppercase defs less
                  (decodeRefPointer text :: visited)) target).map assemble = some (cleaned, lost)
                  from cleans)
              have object : cleaned = .object (overlay effects) := by
                rw [← assemble_fst, assembled]
              subst object
              exact .inr ⟨_, target, less, overlay effects, rfl, rfl, rfl, cleans⟩
            | array items =>
              obtain ⟨outs, _, collected⟩ := Option.map_eq_some_iff.mp
                (show (cleanItems toUppercase (resolveRef toUppercase defs less
                  (decodeRefPointer text :: visited)) items).map collectItems = some (cleaned, lost)
                  from cleans)
              cases collected
              exact .inl ⟨rfl, rfl, fun _ => rfl⟩
            | _ =>
              cases cleans
              exact .inl ⟨rfl, rfl, fun _ => rfl⟩
    | _ =>
      rw [pointer] at done
      cases done
      exact .inl ⟨rfl, rfl, fun _ => rfl⟩
  · rw [if_neg reference] at done ⊢
    refine .inl ⟨rfl, ?_, fun same => absurd same reference⟩
    have plain : ∀ (key : String) (cleaned : Option (Json × Bool)),
        cleaned.map (Effect.written key) = some effect → effect.inlined = none := by
      intro key cleaned written
      obtain ⟨_, _, rfl⟩ := Option.map_eq_some_iff.mp written
      rfl
    split_ifs at done
    · cases done
      rfl
    · cases done
      rfl
    · exact plain _ _ done
    · cases done
      rfl
    · cases done
      rfl
    · cases done
      unfold Effect.ofFormat
      cases entry.2 with
      | string format =>
        dsimp only
        by_cases supported : isSupportedFormat format = true
        · rw [if_pos supported]
        · rw [if_neg supported]
      | _ => rfl
    · exact plain _ _ done
    · exact plain _ _ done
    · cases done
      rfl

theorem lookup_forall₂ {Held Kept : Type} {related : Held → Kept → Prop}
    {before : List (String × Held)} {after : List (String × Kept)}
    (matched : List.Forall₂ (fun source write => source.1 = write.1 ∧ related source.2 write.2)
      before after) (key : String) :
    (before.lookup key = none ∧ after.lookup key = none) ∨
      ∃ held kept, before.lookup key = some held ∧ after.lookup key = some kept ∧
        related held kept := by
  induction matched with
  | nil => exact .inl ⟨rfl, rfl⟩
  | @cons source write _ _ head _ ih =>
    obtain ⟨name, held⟩ := source
    obtain ⟨other, kept⟩ := write
    obtain ⟨rfl, related⟩ := head
    rw [List.lookup_cons, List.lookup_cons]
    cases key == name with
    | true => exact .inr ⟨held, kept, rfl, rfl, related⟩
    | false => exact ih

theorem findSome_forall₂ {Entry Change Held Kept : Type} {find : Entry → Option Held}
    {seek : Change → Option Kept} {related : Held → Kept → Prop} {entries : List Entry}
    {changes : List Change}
    (matched : List.Forall₂ (fun entry change => (find entry = none ∧ seek change = none) ∨
      ∃ held kept, find entry = some held ∧ seek change = some kept ∧ related held kept)
      entries changes) :
    (entries.findSome? find = none ∧ changes.findSome? seek = none) ∨
      ∃ held kept, entries.findSome? find = some held ∧ changes.findSome? seek = some kept ∧
        related held kept := by
  induction matched with
  | nil => exact .inl ⟨rfl, rfl⟩
  | cons head _ ih =>
    rw [List.findSome?_cons, List.findSome?_cons]
    obtain ⟨absent, none⟩ | ⟨held, kept, found, seen, both⟩ := head
    · rw [absent, none]
      exact ih
    · rw [found, seen]
      exact .inr ⟨held, kept, rfl, rfl, both⟩

theorem cleanValue_object {schema : Fields} {cleaned : Json} {dropped : Bool}
    {resolve : String → Option (Option Json × Bool)}
    (done : cleanValue toUppercase resolve (.object schema) = some (cleaned, dropped)) :
    ∃ effects, cleanObject toUppercase resolve schema = some effects ∧
      cleaned = .object (overlay effects) ∧ dropped = effects.any Effect.dropped := by
  obtain ⟨effects, collected, assembled⟩ := Option.map_eq_some_iff.mp
    (show (cleanObject toUppercase resolve schema).map assemble = some (cleaned, dropped) from done)
  obtain ⟨rfl, rfl⟩ := Prod.mk.inj assembled
  exact ⟨effects, collected, rfl, rfl⟩

/-- A key of a cleaned object: its last writer's, else the inlined target's, else absent. -/
theorem object_lookup {schema : Fields} {effects : List Effect}
    (done : cleanObject toUppercase (resolveRef toUppercase defs fuel visited) schema = some effects)
    (key : String) :
    (∃ source cleaned, lastSource toUppercase schema key = some source ∧
      (overlay effects).lookup key = some cleaned ∧
      CleansTo toUppercase defs fuel visited source cleaned) ∨
    lastSource toUppercase schema key = none ∧
      ((∃ deeper target less base dropped, fuel = less + 1 ∧
        inlinedTarget defs visited schema = some (deeper, target) ∧
        cleanValue toUppercase (resolveRef toUppercase defs less deeper) (.object target) =
          some (.object base, dropped) ∧ (overlay effects).lookup key = base.lookup key) ∨
      (inlinedTarget defs visited schema = none ∧ (overlay effects).lookup key = none)) := by
  have each := cleanObject_forall₂ done
  have writes : List.Forall₂ (fun source write => source.1 = write.1 ∧
      CleansTo toUppercase defs fuel visited source.2 write.2)
      (schema.flatMap (sources toUppercase)) (effects.flatMap Effect.writes) :=
    List.rel_flatMap each fun _ _ effect => entryEffect_writes effect
  have targets := findSome_forall₂ (List.rel_reverse (each.imp fun entry effect done =>
    (show (refTarget defs visited entry = none ∧ effect.inlined = none) ∨
      ∃ held kept, refTarget defs visited entry = some held ∧ effect.inlined = some kept ∧
        ∃ less dropped, fuel = less + 1 ∧
          cleanValue toUppercase (resolveRef toUppercase defs less held.1) (.object held.2) =
            some (.object kept, dropped) by
      obtain ⟨absent, none, _⟩ | ⟨deeper, target, less, cleaned, spent, found, inlined, cleans⟩ :=
        entryEffect_inlined done
      · exact .inl ⟨absent, none⟩
      · exact .inr ⟨(deeper, target), cleaned, found, inlined, less, _, spent, cleans⟩)))
  rw [← List.getLast?_filterMap, ← List.getLast?_filterMap] at targets
  rw [lookup_overlay]
  obtain ⟨unwritten, absent⟩ | ⟨source, cleaned, last, written, cleans⟩ :=
    lookup_forall₂ (List.rel_reverse writes) key
  · refine .inr ⟨unwritten, ?_⟩
    rw [absent, Option.none_or]
    obtain ⟨none, missing⟩ | ⟨⟨deeper, target⟩, base, inlines, inlined, less, dropped, spent, cleans⟩ :=
      targets
    · exact .inr ⟨none, by rw [missing]; rfl⟩
    · exact .inl ⟨deeper, target, less, base, dropped, spent, inlines, cleans, by rw [inlined]; rfl⟩
  · exact .inl ⟨source, cleaned, last, by rw [written]; rfl, cleans⟩

/-- Where a key comes from somewhere, the cleaned object has it. -/
theorem winner_lookup {schema : Fields} {key : String} {origin : List String} {source : Source}
    (wins : Winner toUppercase defs visited schema key origin source) {out : Fields} {dropped : Bool}
    (done : cleanValue toUppercase (resolveRef toUppercase defs fuel visited) (.object schema) =
      some (.object out, dropped)) :
    ∃ cleaned less, out.lookup key = some cleaned ∧
      CleansTo toUppercase defs less origin source cleaned := by
  induction wins generalizing fuel out dropped with
  | own last =>
    obtain ⟨effects, collected, same, _⟩ := cleanValue_object done
    cases same
    obtain ⟨_, cleaned, there, found, cleans⟩ | ⟨unwritten, _⟩ := object_lookup collected _
    · obtain rfl := Option.some_inj.mp (last.symm.trans there)
      exact ⟨cleaned, fuel, found, cleans⟩
    · rw [unwritten] at last
      cases last
  | inlined unwritten inlines inside ih =>
    obtain ⟨effects, collected, same, _⟩ := cleanValue_object done
    cases same
    obtain ⟨_, _, there, _, _⟩ |
      ⟨_, ⟨deeper, target, less, base, lost, _, found, cleans, lookup⟩ | ⟨none, _⟩⟩ :=
      object_lookup collected _
    · rw [unwritten] at there
      cases there
    · obtain ⟨rfl, rfl⟩ := Prod.mk.inj (Option.some_inj.mp (inlines.symm.trans found))
      obtain ⟨cleaned, lesser, inBase, cleansTo⟩ := ih cleans
      exact ⟨cleaned, lesser, lookup.trans inBase, cleansTo⟩
    · rw [inlines] at none
      cases none

/-- Whatever a cleaned object has comes from somewhere. -/
theorem lookup_winner {schema : Fields} {key : String} {out : Fields} {dropped : Bool}
    (done : cleanValue toUppercase (resolveRef toUppercase defs fuel visited) (.object schema) =
      some (.object out, dropped)) {cleaned : Json} (found : out.lookup key = some cleaned) :
    ∃ origin source less, Winner toUppercase defs visited schema key origin source ∧
      CleansTo toUppercase defs less origin source cleaned := by
  induction fuel generalizing visited schema out dropped with
  | zero =>
    obtain ⟨effects, collected, same, _⟩ := cleanValue_object done
    cases same
    obtain ⟨source, _, last, there, cleans⟩ |
      ⟨_, ⟨_, _, _, _, _, spent, _⟩ | ⟨_, absent⟩⟩ := object_lookup collected key
    · obtain rfl := Option.some_inj.mp (found.symm.trans there)
      exact ⟨_, source, _, .own last, cleans⟩
    · cases spent
    · rw [absent] at found
      cases found
  | succ fuel ih =>
    obtain ⟨effects, collected, same, _⟩ := cleanValue_object done
    cases same
    obtain ⟨source, _, last, there, cleans⟩ |
      ⟨unwritten, ⟨deeper, target, less, base, lost, spent, inlines, cleans, lookup⟩ |
        ⟨_, absent⟩⟩ := object_lookup collected key
    · obtain rfl := Option.some_inj.mp (found.symm.trans there)
      exact ⟨_, source, _, .own last, cleans⟩
    · obtain rfl : fuel = less := Nat.succ_inj.mp spent
      obtain ⟨origin, source, lesser, wins, cleansTo⟩ := ih cleans (lookup.symm.trans found)
      exact ⟨origin, source, lesser, .inlined unwritten inlines wins, cleansTo⟩
    · rw [absent] at found
      cases found

end Origins
end Routectl.Gemini.Cleaning
