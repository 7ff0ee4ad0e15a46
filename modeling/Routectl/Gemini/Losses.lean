import Routectl.Gemini.Positions

/-! What a cleaned schema is free of, what it keeps of the schema it was cleaned from, and which
schemas it keeps whole. -/
namespace Routectl.Gemini.Cleaning
open Library (Json)
open Library.Json (treeInduction)

section Cleanness
variable {toUppercase : String → String} {defs : Fields} {fuel : Nat}
variable {visited : List String} {value out : Json}

def strippedKeywords : List String :=
  ["$ref"] ++ structuralKeywords ++ constraintKeywords ++ ["oneOf"]

/-- No keyword that Gemini rejects, no type union, no format it does not know. -/
structure CleanAt (fields : Fields) : Prop where
  stripped : ∀ keyword ∈ strippedKeywords, fields.lookup keyword = none
  typed : ∀ members, fields.lookup "type" ≠ some (.array members)
  formatted : ∀ format, fields.lookup "format" = some format →
    ∃ text, format = .string text ∧ isSupportedFormat text = true

theorem cleanValue_cleanAt {schema fields : Fields} {dropped : Bool}
    (done : cleanValue toUppercase (resolveRef toUppercase defs fuel visited) (.object schema) =
      some (.object fields, dropped)) : CleanAt fields where
  stripped := by
    intro keyword listed
    cases found : fields.lookup keyword with
    | none => rfl
    | some held =>
      obtain ⟨origin, source, less, wins, _⟩ := lookup_winner done found
      have fits := winner_fits wins
      have handled : keyword ∈ handledKeywords := by
        simp only [strippedKeywords, handledKeywords, List.mem_append, List.mem_cons,
          List.not_mem_nil, or_false] at listed ⊢
        tauto
      cases source with
      | schemaMap source =>
        obtain rfl : keyword = "properties" := fits
        exact absurd listed (by decide)
      | schema source =>
        obtain ⟨keyword, rfl⟩ := fits
        cases keyword <;> exact absurd listed (by decide)
      | literal source =>
        obtain ⟨rfl, _⟩ | ⟨rfl, _⟩ | rfl | ⟨rfl, _⟩ | unhandled := fits
        · exact absurd listed (by decide)
        · exact absurd listed (by decide)
        · exact absurd listed (by decide)
        · exact absurd listed (by decide)
        · exact absurd handled unhandled
  typed := by
    intro members found
    obtain ⟨origin, wins⟩ := (lookup_literal done fun _ => fits_type).mp found
    obtain ⟨same, _⟩ | ⟨_, scalar⟩ | same | ⟨same, _⟩ | unhandled := winner_fits wins
    · simp at same
    · exact scalar members rfl
    · simp at same
    · simp at same
    · exact unhandled (by decide)
  formatted := by
    intro format found
    obtain ⟨origin, source, less, wins, cleansTo⟩ := lookup_winner done found
    cases source with
    | schemaMap source =>
      have same : "format" = "properties" := winner_fits wins
      simp at same
    | schema source =>
      obtain ⟨keyword, same⟩ : ∃ keyword : SchemaKeyword, "format" = keyword.asStr :=
        winner_fits wins
      cases keyword <;> simp [SchemaKeyword.asStr] at same
    | literal source =>
      obtain rfl : format = source := cleansTo
      obtain ⟨same, _⟩ | ⟨same, _⟩ | same | ⟨_, supported⟩ | unhandled := winner_fits wins
      · simp at same
      · simp at same
      · simp at same
      · exact supported
      · exact absurd (by decide) unhandled

theorem typeBranches_cleanAt {names : List String} {path : List Step} {fields : Fields}
    (reached : reach (typeBranches names) path = some (.object fields)) : CleanAt fields := by
  cases path with
  | nil => cases reached
  | cons step rest =>
    obtain ⟨branch, stepped, reached⟩ := Option.bind_eq_some_iff.mp reached
    cases step with
    | element index =>
      have member := List.mem_of_getElem? (show (names.map fun name =>
        Json.object [("type", .string name)])[index]? = some branch from stepped)
      obtain ⟨name, _, rfl⟩ := List.mem_map.mp member
      cases rest with
      | nil =>
        cases reached
        refine ⟨?_, ?_, ?_⟩
        · intro keyword listed
          have different : keyword ≠ "type" := by
            rintro rfl
            exact absurd listed (by decide)
          simp [List.lookup_cons, beq_eq_false_iff_ne.mpr different]
        · intro members found
          simp at found
        · intro format found
          simp [List.lookup_cons] at found
      | cons next rest =>
        obtain ⟨inner, stepped, _⟩ := Option.bind_eq_some_iff.mp reached
        cases next with
        | within keyword =>
          cases keyword <;> simp [stepInto, SchemaKeyword.asStr, List.lookup_cons] at stepped
        | property name => simp [stepInto, List.lookup_cons] at stepped
        | element index => cases stepped
    | _ => cases stepped

/-- Every schema position of a cleaned schema is clean. -/
theorem reach_cleanAt (cleans : CleansTo toUppercase defs fuel visited (.schema value) out)
    {path : List Step} {fields : Fields} (reached : reach out path = some (.object fields)) :
    CleanAt fields := by
  induction path generalizing fuel visited value out with
  | nil =>
    obtain rfl := Option.some_inj.mp reached
    obtain ⟨schema, rfl⟩ := cleansTo_not_object cleans
    obtain ⟨_, dropped, same, done⟩ := cleansTo_object cleans
    cases same
    exact cleanValue_cleanAt done
  | cons step rest ih =>
    obtain ⟨inner, stepped, reached⟩ := Option.bind_eq_some_iff.mp reached
    obtain ⟨origin, source, less, descends, cleansInner⟩ | ⟨names, rfl, _⟩ :=
      stepInto_cleaned cleans stepped
    · exact ih cleansInner reached
    · exact typeBranches_cleanAt reached

end Cleanness

section Literals
variable (toUppercase : String → String) (defs : Fields)

/-- A schema inside the input whose cleaning is what the output has at a position. -/
inductive Lands : List String → Json → List Step → List String → Json → Prop where
  | here {visited : List String} {value : Json} : Lands visited value [] visited value
  | step {visited middle origin : List String} {value inner landed : Json} {step : Step}
    {rest : List Step} (descends : Descends (Winner toUppercase defs) visited value step middle inner)
    (lands : Lands middle inner rest origin landed) :
    Lands visited value (step :: rest) origin landed

/-- The keywords that are only carried along stand as the schema has them, and so do the names
of its properties. -/
def KeepsLiterals (schema cleaned : Json) : Prop :=
  ∀ path origin fields, Lands toUppercase defs [] schema path origin (.object fields) →
    ∃ out, reach cleaned path = some (.object out) ∧
      (∀ key value, (key, value) ∈ fields → key ∉ handledKeywords → out.lookup key = some value) ∧
      ∀ entries, lastSource toUppercase fields "properties" = some (.schemaMap (.object entries)) →
        ∃ outs, out.lookup "properties" = some (.object outs) ∧
          outs.map Prod.fst = entries.map Prod.fst

/-- No keyword that is only carried along is written again by another. -/
def LiteralsStand (schema : Json) : Prop :=
  ∀ path origin fields, Lands toUppercase defs [] schema path origin (.object fields) →
    ∀ key value, (key, value) ∈ fields → key ∉ handledKeywords →
      lastSource toUppercase fields key = some (.literal value)

variable {toUppercase : String → String} {defs : Fields} {fuel : Nat}
variable {visited origin : List String} {value landed out : Json} {path : List Step}

theorem lands_cleaned (lands : Lands toUppercase defs visited value path origin landed)
    (cleans : CleansTo toUppercase defs fuel visited (.schema value) out) :
    ∃ inner less, reach out path = some inner ∧
      CleansTo toUppercase defs less origin (.schema landed) inner := by
  induction lands generalizing fuel out with
  | here => exact ⟨out, fuel, rfl, cleans⟩
  | step descends _ ih =>
    obtain ⟨next, less, stepped, cleansNext⟩ := descends_cleaned descends cleans
    obtain ⟨inner, lesser, reached, cleansInner⟩ := ih cleansNext
    exact ⟨inner, lesser, by simp [reach, stepped, reached], cleansInner⟩

theorem sources_carried {key : String} (carried : key ∉ handledKeywords) (held : Json) :
    sources toUppercase (key, held) = [(key, .literal held)] := by
  simp only [handledKeywords, List.mem_append, List.mem_cons, List.not_mem_nil, or_false,
    not_or] at carried
  unfold sources
  simp [carried]

/-- A key that an entry carries along was last written by some entry that does. -/
theorem lastSource_carried {fields : Fields} {key : String} {held : Json}
    (member : (key, held) ∈ fields) (carried : key ∉ handledKeywords) :
    ∃ last, lastSource toUppercase fields key = some (.literal last) := by
  have written : (key, Source.literal held) ∈ fields.flatMap (sources toUppercase) := by
    apply List.mem_flatMap.mpr
    exact ⟨(key, held), member, by simp [sources_carried carried]⟩
  have present : (lastSource toUppercase fields key).isSome = true := by
    unfold lastSource
    rw [List.lookup_isSome_iff]
    exact ⟨_, List.mem_reverse.mpr written, by simp⟩
  obtain ⟨source, last⟩ := Option.isSome_iff_exists.mp present
  obtain ⟨entry, _, inside⟩ := List.mem_flatMap.mp (lastSource_mem last)
  have fits := sources_fit inside
  cases source with
  | literal last' => exact ⟨last', last⟩
  | schemaMap value =>
    obtain rfl : key = "properties" := fits
    exact absurd (by decide) carried
  | schema value =>
    obtain ⟨keyword, rfl⟩ := fits
    cases keyword <;> exact absurd (by decide) carried

theorem lookup_last {fields outs : Fields} {dropped : Bool} {key : String} {source : Source}
    (last : lastSource toUppercase fields key = some source)
    (done : cleanValue toUppercase (resolveRef toUppercase defs fuel visited) (.object fields) =
      some (.object outs, dropped)) :
    ∃ cleaned, outs.lookup key = some cleaned ∧
      CleansTo toUppercase defs fuel visited source cleaned := by
  obtain ⟨effects, collected, same, _⟩ := cleanValue_object done
  cases same
  obtain ⟨_, cleaned, there, found, cleans⟩ | ⟨unwritten, _⟩ := object_lookup collected key
  · obtain rfl := Option.some_inj.mp (last.symm.trans there)
    exact ⟨cleaned, found, cleans⟩
  · rw [unwritten] at last
    cases last

theorem keepsLiterals_iff {schema cleaned : Json}
    (cleans : CleansTo toUppercase defs fuel [] (.schema schema) cleaned) :
    KeepsLiterals toUppercase defs schema cleaned ↔ LiteralsStand toUppercase defs schema := by
  constructor
  · intro keeps path origin fields lands key value member carried
    obtain ⟨out, reached, literals, _⟩ := keeps path origin fields lands
    obtain ⟨inner, less, there, cleansInner⟩ := lands_cleaned lands cleans
    obtain rfl := Option.some_inj.mp (reached.symm.trans there)
    obtain ⟨_, dropped, same, done⟩ := cleansTo_object cleansInner
    cases same
    obtain ⟨last, written⟩ := @lastSource_carried toUppercase fields key value member carried
    obtain ⟨kept, found, same⟩ := lookup_last written done
    obtain rfl : kept = last := same
    obtain rfl := Option.some_inj.mp (found.symm.trans (literals key value member carried))
    exact written
  · intro stand path origin fields lands
    obtain ⟨inner, less, reached, cleansInner⟩ := lands_cleaned lands cleans
    obtain ⟨outs, dropped, rfl, done⟩ := cleansTo_object cleansInner
    refine ⟨outs, reached, ?_, ?_⟩
    · intro key value member carried
      obtain ⟨kept, found, same⟩ := lookup_last (stand path origin fields lands key value member
        carried) done
      obtain rfl : kept = value := same
      exact found
    · intro entries last
      obtain ⟨mapped, found, cleansMap⟩ := lookup_last last done
      obtain ⟨named, rfl, matched⟩ := cleansTo_map cleansMap
      refine ⟨named, found, ?_⟩
      clear found cleansMap last
      induction matched with
      | nil => rfl
      | cons head _ ih => rw [List.map_cons, List.map_cons, ih, head.1]

end Literals

section Dropping
variable (defs : Fields)

def nestedKeywords : List String := ["oneOf", "anyOf", "items", "prefixItems"]

/-- A schema of which something is dropped: a constraint, a format, or a reference that does
not resolve to an object, there or in anything that is cleaned on the way. -/
inductive Drops : List String → Json → Prop where
  | constraint {visited : List String} {schema : Fields} {key : String} {value : Json}
    (member : (key, value) ∈ schema) (listed : key ∈ constraintKeywords) :
    Drops visited (.object schema)
  | format {visited : List String} {schema : Fields} {value : Json} (member : ("format", value) ∈ schema)
    (unsupported : ∀ text, value = .string text → isSupportedFormat text = false) :
    Drops visited (.object schema)
  | reference {visited : List String} {schema : Fields} {value : Json} (member : ("$ref", value) ∈ schema)
    (unresolved : refTarget defs visited ("$ref", value) = none) : Drops visited (.object schema)
  | inlined {visited deeper : List String} {schema target : Fields} {value : Json}
    (member : ("$ref", value) ∈ schema)
    (inlines : refTarget defs visited ("$ref", value) = some (deeper, target))
    (inside : Drops deeper (.object target)) : Drops visited (.object schema)
  | nested {visited : List String} {schema : Fields} {key : String} {value : Json}
    (member : (key, value) ∈ schema) (listed : key ∈ nestedKeywords)
    (inside : Drops visited value) : Drops visited (.object schema)
  | property {visited : List String} {schema entries : Fields} {name : String} {value : Json}
    (member : ("properties", .object entries) ∈ schema) (named : (name, value) ∈ entries)
    (inside : Drops visited value) : Drops visited (.object schema)
  | properties {visited : List String} {schema : Fields} {items : List Json}
    (member : ("properties", .array items) ∈ schema)
    (inside : Drops visited (.array items)) : Drops visited (.object schema)
  | element {visited : List String} {items : List Json} {value : Json} (member : value ∈ items)
    (inside : Drops visited value) : Drops visited (.array items)

/-- What of a property map is dropped. -/
def MapDrops (visited : List String) : Json → Prop
  | .object entries => ∃ entry ∈ entries, Drops defs visited entry.2
  | other => Drops defs visited other

/-- What of one entry is dropped. -/
def EntryDrops (visited : List String) (entry : String × Json) : Prop :=
  entry.1 ∈ constraintKeywords ∨
  (entry.1 = "format" ∧ (Effect.ofFormat entry.2).dropped = true) ∨
  (entry.1 = "$ref" ∧ refTarget defs visited entry = none) ∨
  (∃ deeper target, refTarget defs visited entry = some (deeper, target) ∧
    Drops defs deeper (.object target)) ∨
  (entry.1 ∈ nestedKeywords ∧ Drops defs visited entry.2) ∨
  (entry.1 = "properties" ∧ MapDrops defs visited entry.2)

variable {defs} {toUppercase : String → String} {fuel : Nat} {visited : List String}

theorem refTarget_key {entry : String × Json} {resolved : List String × Fields}
    (inlines : refTarget defs visited entry = some resolved) : entry.1 = "$ref" := by
  by_contra other
  unfold refTarget at inlines
  rw [if_neg other] at inlines
  cases inlines

theorem ofFormat_dropped (value : Json) : (Effect.ofFormat value).dropped = true ↔
    ∀ text, value = .string text → isSupportedFormat text = false := by
  cases value with
  | string text =>
    by_cases supported : isSupportedFormat text = true
    · simp [Effect.ofFormat, supported]
    · simp [Effect.ofFormat, supported]
  | _ => simp [Effect.ofFormat]

theorem drops_object_iff (schema : Fields) :
    Drops defs visited (.object schema) ↔ ∃ entry ∈ schema, EntryDrops defs visited entry := by
  constructor
  · intro drops
    cases drops with
    | constraint member listed => exact ⟨_, member, .inl listed⟩
    | format member unsupported =>
      exact ⟨_, member, .inr (.inl ⟨rfl, (ofFormat_dropped _).mpr unsupported⟩)⟩
    | reference member unresolved => exact ⟨_, member, .inr (.inr (.inl ⟨rfl, unresolved⟩))⟩
    | inlined member inlines inside =>
      exact ⟨_, member, .inr (.inr (.inr (.inl ⟨_, _, inlines, inside⟩)))⟩
    | nested member listed inside =>
      exact ⟨_, member, .inr (.inr (.inr (.inr (.inl ⟨listed, inside⟩))))⟩
    | property member named inside =>
      exact ⟨_, member, .inr (.inr (.inr (.inr (.inr ⟨rfl, _, named, inside⟩))))⟩
    | properties member inside =>
      exact ⟨_, member, .inr (.inr (.inr (.inr (.inr ⟨rfl, inside⟩))))⟩
  · rintro ⟨⟨key, value⟩, member, listed | ⟨rfl, unsupported⟩ | ⟨rfl, unresolved⟩ |
      ⟨deeper, target, inlines, inside⟩ | ⟨listed, inside⟩ | ⟨rfl, inside⟩⟩
    · exact .constraint member listed
    · exact .format member ((ofFormat_dropped _).mp unsupported)
    · exact .reference member unresolved
    · obtain rfl : key = "$ref" := refTarget_key inlines
      exact .inlined member inlines inside
    · exact .nested member listed inside
    · cases value with
      | object entries =>
        obtain ⟨⟨name, value⟩, named, inside⟩ := inside
        exact .property member named inside
      | array items => exact .properties member inside
      | _ => cases inside

theorem any_forall₂ {Entry Change : Type} {lost : Change → Bool} {drops : Entry → Prop}
    {entries : List Entry} {changes : List Change}
    (matched : List.Forall₂ (fun entry change => lost change = true ↔ drops entry) entries changes) :
    changes.any lost = true ↔ ∃ entry ∈ entries, drops entry := by
  induction matched with
  | nil => simp
  | cons head _ ih => rw [List.any_cons, Bool.or_eq_true, head, ih]; simp

/-- The report of one entry, where the reports of what is inside are right. -/
theorem entryEffect_dropped {entry : String × Json} {effect : Effect}
    (done : entryEffect toUppercase (resolveRef toUppercase defs fuel visited) entry = some effect)
    (inner : ∀ cleaned dropped, cleanValue toUppercase (resolveRef toUppercase defs fuel visited)
      entry.2 = some (cleaned, dropped) → (dropped = true ↔ Drops defs visited entry.2))
    (mapped : ∀ cleaned dropped, cleanSchemaMap toUppercase
      (resolveRef toUppercase defs fuel visited) entry.2 = some (cleaned, dropped) →
      (dropped = true ↔ MapDrops defs visited entry.2))
    (targets : ∀ deeper target less cleaned dropped, fuel = less + 1 →
      cleanValue toUppercase (resolveRef toUppercase defs less deeper) (.object target) =
        some (cleaned, dropped) → (dropped = true ↔ Drops defs deeper (.object target))) :
    effect.dropped = true ↔ EntryDrops defs visited entry := by
  obtain ⟨key, value⟩ := entry
  have written : ∀ (slot : String) (cleaned : Option (Json × Bool)),
      cleaned.map (Effect.written slot) = some effect →
        ∃ value dropped, cleaned = some (value, dropped) ∧ effect.dropped = dropped := by
    intro slot cleaned same
    obtain ⟨⟨value, dropped⟩, found, rfl⟩ := Option.map_eq_some_iff.mp same
    exact ⟨value, dropped, found, rfl⟩
  have resolved := entryEffect_inlined done
  have noTarget : key ≠ "$ref" → refTarget defs visited (key, value) = none := by
    intro other
    exact if_neg other
  unfold entryEffect at done
  by_cases reference : key = "$ref"
  · subst reference
    obtain ⟨unresolved, _, lost⟩ | ⟨deeper, target, less, cleaned, spent, found, _, cleans⟩ := resolved
    · simp [EntryDrops, unresolved, lost rfl]
    · rw [targets deeper target less _ _ spent cleans]
      simp [EntryDrops, found, constraintKeywords, nestedKeywords]
  · have unresolved := noTarget reference
    simp only [if_neg reference] at done
    by_cases structural : key ∈ structuralKeywords
    · simp only [if_pos structural] at done
      cases done
      have plain : key ∉ constraintKeywords ∧ key ≠ "format" ∧ key ∉ nestedKeywords ∧
          key ≠ "properties" := by
        simp only [structuralKeywords, List.mem_cons, List.not_mem_nil, or_false] at structural
        obtain rfl | rfl | rfl := structural <;> decide
      simp [EntryDrops, unresolved, reference, plain]
    simp only [if_neg structural] at done
    by_cases constraint : key ∈ constraintKeywords
    · simp only [if_pos constraint] at done
      cases done
      simp [EntryDrops, constraint]
    simp only [if_neg constraint] at done
    by_cases branches : key = "oneOf" ∨ key = "anyOf"
    · simp only [if_pos branches] at done
      obtain ⟨cleaned, dropped, found, same⟩ := written _ _ done
      rw [same, inner cleaned dropped found]
      obtain rfl | rfl := branches
      · simp [EntryDrops, unresolved, constraintKeywords, nestedKeywords]
      · simp [EntryDrops, unresolved, constraintKeywords, nestedKeywords]
    simp only [if_neg branches] at done
    by_cases typed : key = "type"
    · subst typed
      cases done
      simp [EntryDrops, unresolved, constraintKeywords, nestedKeywords]
    simp only [if_neg typed] at done
    by_cases enumerated : key = "enum"
    · subst enumerated
      cases done
      simp [EntryDrops, unresolved, constraintKeywords, nestedKeywords]
    simp only [if_neg enumerated] at done
    by_cases formatted : key = "format"
    · subst formatted
      cases done
      simp [EntryDrops, unresolved, constraintKeywords, nestedKeywords]
    simp only [if_neg formatted] at done
    by_cases properties : key = "properties"
    · subst properties
      obtain ⟨cleaned, dropped, found, same⟩ := written _ _ done
      rw [same, mapped cleaned dropped found]
      simp [EntryDrops, unresolved, constraintKeywords, nestedKeywords]
    simp only [if_neg properties] at done
    by_cases nested : key = "items" ∨ key = "prefixItems"
    · simp only [if_pos nested] at done
      obtain ⟨cleaned, dropped, found, same⟩ := written _ _ done
      rw [same, inner cleaned dropped found]
      obtain rfl | rfl := nested
      · simp [EntryDrops, unresolved, constraintKeywords, nestedKeywords]
      · simp [EntryDrops, unresolved, constraintKeywords, nestedKeywords]
    simp only [if_neg nested] at done
    cases done
    rw [not_or] at branches nested
    simp [EntryDrops, unresolved, reference, constraint, formatted, properties, nestedKeywords,
      branches, nested]

theorem drops_array_iff (items : List Json) :
    Drops defs visited (.array items) ↔ ∃ item ∈ items, Drops defs visited item := by
  constructor
  · intro drops
    cases drops with
    | element member inside => exact ⟨_, member, inside⟩
  · rintro ⟨item, member, inside⟩
    exact .element member inside

theorem cleanItems_dropped {items : List Json} {cleaned : Json} {dropped : Bool}
    {resolve : String → Option (Option Json × Bool)}
    (inner : ∀ item ∈ items, ∀ cleaned dropped, cleanValue toUppercase resolve item =
      some (cleaned, dropped) → (dropped = true ↔ Drops defs visited item))
    (done : (cleanItems toUppercase resolve items).map collectItems = some (cleaned, dropped)) :
    dropped = true ↔ Drops defs visited (.array items) := by
  obtain ⟨outs, collected, same⟩ := Option.map_eq_some_iff.mp done
  cases same
  rw [drops_array_iff]
  apply any_forall₂
  have matched := (List.forall₂_and_left (p := fun item => item ∈ items) items outs).mpr
    ⟨fun _ member => member, cleanItems_forall₂ collected⟩
  exact matched.imp fun item out both => inner item both.1 out.1 out.2 both.2

theorem cleanNamed_dropped {entries : Fields} {cleaned : Json} {dropped : Bool}
    {resolve : String → Option (Option Json × Bool)}
    (inner : ∀ entry ∈ entries, ∀ cleaned dropped, cleanValue toUppercase resolve entry.2 =
      some (cleaned, dropped) → (dropped = true ↔ Drops defs visited entry.2))
    (done : (cleanNamed toUppercase resolve entries).map collectMap = some (cleaned, dropped)) :
    dropped = true ↔ MapDrops defs visited (.object entries) := by
  obtain ⟨outs, collected, same⟩ := Option.map_eq_some_iff.mp done
  cases same
  apply any_forall₂
  have matched := (List.forall₂_and_left (p := fun entry => entry ∈ entries) entries outs).mpr
    ⟨fun _ member => member, cleanNamed_forall₂ collected⟩
  refine matched.imp fun entry out both => ?_
  obtain ⟨⟨value, lost⟩, found, rfl⟩ := Option.map_eq_some_iff.mp both.2
  exact inner entry both.1 value lost found

/-- The report tells of a drop exactly where there is one. -/
theorem dropped_iff (value : Json) :
    (∀ cleaned dropped, cleanValue toUppercase (resolveRef toUppercase defs fuel visited) value =
      some (cleaned, dropped) → (dropped = true ↔ Drops defs visited value)) ∧
    ∀ cleaned dropped, cleanSchemaMap toUppercase (resolveRef toUppercase defs fuel visited) value =
      some (cleaned, dropped) → (dropped = true ↔ MapDrops defs visited value) := by
  induction fuel using Nat.strongRecOn generalizing visited value with
  | ind fuel deeper =>
    induction value using treeInduction with
    | array items ih =>
      constructor
      · intro cleaned dropped done
        exact cleanItems_dropped (fun item member => (ih item member).1) done
      · intro cleaned dropped done
        exact cleanItems_dropped (fun item member => (ih item member).1) done
    | object schema ih =>
      constructor
      · intro cleaned dropped done
        obtain ⟨effects, collected, _, rfl⟩ := cleanValue_object done
        rw [drops_object_iff]
        apply any_forall₂
        have matched := (List.forall₂_and_left (p := fun entry => entry ∈ schema) schema
          effects).mpr ⟨fun _ member => member, cleanObject_forall₂ collected⟩
        refine matched.imp fun entry effect both => ?_
        apply entryEffect_dropped both.2 (ih entry both.1).1 (ih entry both.1).2
        intro inside target less cleaned dropped spent done
        exact (deeper less (by omega) (.object target)).1 cleaned dropped done
      · intro cleaned dropped done
        exact cleanNamed_dropped (fun entry member => (ih entry member).1) done
    | _ =>
      constructor
      · intro cleaned dropped done
        cases done
        constructor
        · intro lost
          cases lost
        · intro drops
          cases drops
      · intro cleaned dropped done
        cases done
        constructor
        · intro lost
          cases lost
        · intro drops
          cases drops

end Dropping

section Reporting
variable (toUppercase : String → String)

/-- A caller's schema comes out clean, keeps its literals, and loses nothing without a report. -/
structure CleansFaithfully (schema cleaned : Json) (dropped : Bool) : Prop where
  clean : ∀ path fields, reach cleaned path = some (.object fields) → CleanAt fields
  literals : KeepsLiterals toUppercase (collectDefs schema) schema cleaned
  reports : dropped = false → ∀ path mark,
    States toUppercase (collectDefs schema) [] schema path mark → Holds cleaned path mark

/-- Cleaning ends with a clean schema that keeps its literals and loses nothing unreported,
exactly when no literal is written over, and a drop is reported or nothing stated is. -/
theorem clean_schema_faithful_iff (schema : Json) :
    (∃ cleaned dropped, (∀ fuel, (collectDefs schema).length < fuel →
      cleanSchemaReporting toUppercase fuel schema = some (cleaned, dropped)) ∧
      CleansFaithfully toUppercase schema cleaned dropped) ↔
    LiteralsStand toUppercase (collectDefs schema) schema ∧
      (Drops (collectDefs schema) [] schema ∨
        ∀ path mark, States toUppercase (collectDefs schema) [] schema path mark →
          Stands toUppercase (collectDefs schema) [] schema path mark) := by
  have cleans : ∀ cleaned dropped, (∀ fuel, (collectDefs schema).length < fuel →
      cleanSchemaReporting toUppercase fuel schema = some (cleaned, dropped)) →
      cleanValue toUppercase (resolveRef toUppercase (collectDefs schema)
        ((collectDefs schema).length + 1) []) schema = some (cleaned, dropped) :=
    fun _ _ ends => ends _ (Nat.lt_succ_self _)
  constructor
  · rintro ⟨cleaned, dropped, ends, faithful⟩
    have done := cleans cleaned dropped ends
    refine ⟨(keepsLiterals_iff ⟨dropped, done⟩).mp faithful.literals, ?_⟩
    cases dropped with
    | true => exact .inl (((dropped_iff schema).1 cleaned true done).mp rfl)
    | false =>
      right
      intro path mark states
      exact (holds_iff_stands ⟨false, done⟩ path mark).mp (faithful.reports rfl path mark states)
  · rintro ⟨stand, reported⟩
    obtain ⟨cleaned, dropped, ends⟩ := cleanSchemaReporting_terminates toUppercase schema
    have done := cleans cleaned dropped ends
    refine ⟨cleaned, dropped, ends, ?_, (keepsLiterals_iff ⟨dropped, done⟩).mpr stand, ?_⟩
    · intro path fields reached
      exact reach_cleanAt ⟨dropped, done⟩ reached
    · intro silent path mark states
      obtain drops | stands := reported
      · rw [((dropped_iff schema).1 cleaned dropped done).mpr drops] at silent
        cases silent
      · exact (holds_iff_stands ⟨dropped, done⟩ path mark).mpr (stands path mark states)

def requesting (name : String) : Json := .object [("properties", .object [(name, .object [])])]

/-- Two keywords that both become `anyOf`. -/
def competingSchema : Json :=
  .object [("anyOf", .array [requesting "city"]), ("oneOf", .array [requesting "zip"])]

theorem branch_lost_unreported :
    cleanSchemaReporting id 1 competingSchema =
        some (.object [("anyOf", .array [requesting "zip"])], false) ∧
      ¬ ∃ cleaned dropped, (∀ fuel, (collectDefs competingSchema).length < fuel →
        cleanSchemaReporting id fuel competingSchema = some (cleaned, dropped)) ∧
        CleansFaithfully id competingSchema cleaned dropped := by
  have silent : cleanSchemaReporting id 1 competingSchema =
      some (.object [("anyOf", .array [requesting "zip"])], false) := rfl
  refine ⟨silent, ?_⟩
  rintro ⟨cleaned, dropped, ends, faithful⟩
  have done := (ends 1 (by decide)).symm.trans silent
  cases done
  have branches : Stater id (collectDefs competingSchema) []
      [("anyOf", .array [requesting "city"]), ("oneOf", .array [requesting "zip"])] "anyOf" []
      (.schema (.array [requesting "city"])) := by
    apply Stater.own
    exact List.mem_flatMap.mpr ⟨_, List.mem_cons_self, List.mem_cons_self⟩
  have properties : Stater id (collectDefs competingSchema) []
      [("properties", .object [("city", .object [])])] "properties" []
      (.schemaMap (.object [("city", .object [])])) := by
    apply Stater.own
    exact List.mem_flatMap.mpr ⟨_, List.mem_cons_self, List.mem_cons_self⟩
  have city : Descends (Stater id (collectDefs competingSchema)) [] (requesting "city")
      (.property "city") [] (.object []) := .property properties rfl
  have first : Descends (Stater id (collectDefs competingSchema)) []
      (.array [requesting "city"]) (.element 0) [] (requesting "city") := .element rfl
  have stated : States id (collectDefs competingSchema) [] competingSchema
      [.within .anyOf, .element 0, .property "city"] .schema :=
    .inl ⟨[], _, .within branches, .inl ⟨[], _, first, .inl ⟨[], _, city, trivial⟩⟩⟩
  obtain ⟨inner, reached, _⟩ := faithful.reports rfl _ _ stated
  cases reached

end Reporting
end Routectl.Gemini.Cleaning
