import Routectl.Gemini.Origins

/-! What a schema says at each of its positions, and what of that its cleaning says: all that is
said by keywords which nothing overwrites. -/
namespace Routectl.Gemini.Cleaning
open Library (Json)

section Positions

/-- The keywords, beside `properties`, whose values are schemas. -/
inductive SchemaKeyword where
  | items
  | prefixItems
  | anyOf
deriving Repr, DecidableEq

def SchemaKeyword.asStr : SchemaKeyword → String
  | .items => "items"
  | .prefixItems => "prefixItems"
  | .anyOf => "anyOf"

inductive Step where
  | within (keyword : SchemaKeyword)
  | property (name : String)
  | element (index : Nat)
deriving Repr, DecidableEq

def stepInto : Json → Step → Option Json
  | .object fields, .within keyword => fields.lookup keyword.asStr
  | .object fields, .property name =>
    match fields.lookup "properties" with
    | some (.object entries) => entries.lookup name
    | _ => none
  | .array items, .element index => items[index]?
  | _, _ => none

/-- The value at a schema position. -/
def reach : Json → List Step → Option Json
  | value, [] => some value
  | value, step :: rest => (stepInto value step).bind fun inner => reach inner rest

/-- Every keyword that is read as more than a value carried along. -/
def handledKeywords : List String :=
  ["$ref"] ++ structuralKeywords ++ constraintKeywords ++
    ["oneOf", "anyOf", "type", "enum", "format", "properties", "items", "prefixItems"]

/-- A keyword whose value is kept as it is. -/
def Carried (keyword : String) : Prop := keyword = "format" ∨ keyword ∉ handledKeywords

def isScalar : Json → Bool
  | .array _ => false
  | .object _ => false
  | _ => true

/-- What a schema may say at a position: what is there, a type, an enum entry, or the value of
a keyword that is carried along. -/
inductive Mark where
  | scalar (value : Json)
  | list
  | schema
  | typed (name : String)
  | entry (value : Json)
  | carried (keyword : String) (value : Json)

def Marked : Json → Mark → Prop
  | value, .scalar held => value = held ∧ isScalar held = true
  | .array _, .list => True
  | .object _, .schema => True
  | .object fields, .typed name => fields.lookup "type" = some (.string name)
  | .object fields, .entry value => ∃ items, fields.lookup "enum" = some (.array items) ∧ value ∈ items
  | .object fields, .carried keyword value => Carried keyword ∧ fields.lookup keyword = some value
  | _, _ => False

def Holds (value : Json) (path : List Step) (mark : Mark) : Prop :=
  ∃ inner, reach value path = some inner ∧ Marked inner mark

end Positions

section Telling
variable (toUppercase : String → String) (defs : Fields)

/-- A relation of a schema to the keywords that a key's value is told by. -/
abbrev Telling := List String → Fields → String → List String → Source → Prop

/-- A step from a schema to one inside it. -/
inductive Descends (tells : Telling) : List String → Json → Step → List String → Json → Prop where
  | within {visited origin : List String} {schema : Fields} {keyword : SchemaKeyword} {inner : Json}
    (told : tells visited schema keyword.asStr origin (.schema inner)) :
    Descends tells visited (.object schema) (.within keyword) origin inner
  | property {visited origin : List String} {schema entries : Fields} {name : String} {inner : Json}
    (told : tells visited schema "properties" origin (.schemaMap (.object entries)))
    (named : entries.lookup name = some inner) :
    Descends tells visited (.object schema) (.property name) origin inner
  | element {visited : List String} {items : List Json} {index : Nat} {inner : Json}
    (item : items[index]? = some inner) :
    Descends tells visited (.array items) (.element index) visited inner

/-- The branches that a type union with several members is told as. -/
inductive Branches (tells : Telling) : List String → Json → Step → Json → Prop where
  | union {visited origin : List String} {schema : Fields} {branches : Json}
    (told : tells visited schema "anyOf" origin (.literal branches)) :
    Branches tells visited (.object schema) (.within .anyOf) branches

/-- What a value is by itself, an object as it is said to be. -/
def Speaks (speaks : List String → Fields → Mark → Prop) (visited : List String) : Json → Mark → Prop
  | value, .scalar held => value = held ∧ isScalar held = true
  | .array _, .list => True
  | .object _, .schema => True
  | .object schema, mark => speaks visited schema mark
  | _, _ => False

/-- What a schema tells at a position, when keywords are read as the relations say. -/
def Told (tells : Telling) (speaks : List String → Fields → Mark → Prop) :
    List String → Json → List Step → Mark → Prop
  | visited, value, [], mark => Speaks speaks visited value mark
  | visited, value, step :: rest, mark =>
    (∃ origin inner, Descends tells visited value step origin inner ∧
      Told tells speaks origin inner rest mark) ∨
    ∃ branches, Branches tells visited value step branches ∧ Holds branches rest mark

/-- The keys an entry states: a type only as a member of a union. -/
def statedSources (entry : String × Json) : List (String × Source) :=
  match entry with
  | ("type", .array members) => sources toUppercase ("type", .array members)
  | ("type", _) => []
  | other => sources toUppercase other

/-- A keyword that states a key, in the schema or in a target that it inlines. -/
inductive Stater : Telling where
  | own {visited : List String} {schema : Fields} {key : String} {source : Source}
    (states : (key, source) ∈ schema.flatMap (statedSources toUppercase)) :
    Stater visited schema key visited source
  | inlined {visited deeper origin : List String} {schema target : Fields} {key : String}
    {source : Source} (inlines : inlinedTarget defs visited schema = some (deeper, target))
    (inside : Stater deeper target key origin source) : Stater visited schema key origin source

/-- What an object states by keywords that nothing overwrites. -/
def Standing (visited : List String) (schema : Fields) : Mark → Prop
  | .typed name => ∃ origin,
    Winner toUppercase defs visited schema "type" origin (.literal (.string name))
  | .entry value => ∃ origin items,
    Winner toUppercase defs visited schema "enum" origin (.literal (.array items)) ∧ value ∈ items
  | .carried keyword value => Carried keyword ∧ ∃ origin,
    Winner toUppercase defs visited schema keyword origin (.literal value)
  | _ => False

/-- What an object states: union members and enum entries also in a target that it inlines, the
target's own type and carried keywords where nothing overwrites them. -/
def Stating (visited : List String) (schema : Fields) : Mark → Prop
  | .typed name =>
    (∃ origin, Stater toUppercase defs visited schema "type" origin (.literal (.string name))) ∨
      ("type", .literal (.string name)) ∈ schema.flatMap (sources toUppercase) ∨
      Standing toUppercase defs visited schema (.typed name)
  | .entry value => ∃ origin items,
    Stater toUppercase defs visited schema "enum" origin (.literal (.array items)) ∧ value ∈ items
  | .carried keyword value =>
    Carried keyword ∧ (keyword, .literal value) ∈ schema.flatMap (sources toUppercase) ∨
      Standing toUppercase defs visited schema (.carried keyword value)
  | _ => False

/-- What a schema states at a position. -/
abbrev States : List String → Json → List Step → Mark → Prop :=
  Told (Stater toUppercase defs) (Stating toUppercase defs)

/-- What a schema states at a position by keywords that nothing overwrites. -/
abbrev Stands : List String → Json → List Step → Mark → Prop :=
  Told (Winner toUppercase defs) (Standing toUppercase defs)

end Telling

section Fitting
variable {toUppercase : String → String} {defs : Fields} {visited origin : List String}
variable {schema : Fields} {key : String} {source : Source}

/-- One branch for each name of a type. -/
def typeBranches (names : List String) : Json :=
  .array (names.map fun name => .object [("type", .string name)])

/-- What may stand under a key of a cleaned schema. -/
def Fits (key : String) : Source → Prop
  | .schemaMap _ => key = "properties"
  | .schema _ => ∃ keyword : SchemaKeyword, key = keyword.asStr
  | .literal value =>
    (key = "anyOf" ∧ ∃ names, value = typeBranches names) ∨
    (key = "type" ∧ ∀ items, value ≠ .array items) ∨ key = "enum" ∨
    (key = "format" ∧ ∃ text, value = .string text ∧ isSupportedFormat text = true) ∨
    key ∉ handledKeywords

theorem insertType_fits {value held : Json} (written : (key, held) ∈ insertType toUppercase value) :
    Fits key (.literal held) := by
  cases value with
  | string name =>
    obtain same := List.mem_singleton.mp written
    cases same
    exact .inr (.inl ⟨rfl, by simp⟩)
  | array members =>
    obtain branches | nullable := List.mem_append.mp written
    · cases names : concreteMembers toUppercase members with
      | nil => simp [names] at branches
      | cons first rest =>
        cases rest with
        | nil =>
          rw [names] at branches
          obtain same := List.mem_singleton.mp branches
          cases same
          exact .inr (.inl ⟨rfl, by simp⟩)
        | cons second rest =>
          rw [names] at branches
          obtain same := List.mem_singleton.mp branches
          cases same
          exact .inl ⟨rfl, _, rfl⟩
    · by_cases null : "null" ∈ members.filterMap Json.asStr
      · rw [if_pos null] at nullable
        obtain same := List.mem_singleton.mp nullable
        cases same
        exact .inr (.inr (.inr (.inr (by decide))))
      · rw [if_neg null] at nullable
        cases nullable
  | _ =>
    obtain same := List.mem_singleton.mp written
    cases same
    exact .inr (.inl ⟨rfl, by simp⟩)

theorem ofFormat_fits {value held : Json} (written : (key, held) ∈ (Effect.ofFormat value).writes) :
    Fits key (.literal held) := by
  cases value with
  | string text =>
    by_cases supported : isSupportedFormat text = true
    · simp only [Effect.ofFormat, supported, if_true] at written
      obtain same := List.mem_singleton.mp written
      cases same
      exact .inr (.inr (.inr (.inl ⟨rfl, text, rfl, supported⟩)))
    · simp only [Effect.ofFormat, supported] at written
      cases written
  | _ => cases written

/-- An entry writes under a key only what fits it. -/
theorem sources_fit {entry : String × Json} (written : (key, source) ∈ sources toUppercase entry) :
    Fits key source := by
  obtain ⟨name, value⟩ := entry
  have literal : ∀ writes : Fields, (∀ held, (key, held) ∈ writes → Fits key (.literal held)) →
      (key, source) ∈ literals writes → Fits key source := by
    intro writes fits member
    obtain ⟨⟨_, held⟩, inside, same⟩ := List.mem_map.mp member
    cases same
    exact fits held inside
  have single : ∀ (slot : String) (only : Source), (key, source) ∈ [(slot, only)] →
      Fits slot only → Fits key source := by
    intro slot only member fits
    obtain same := List.mem_singleton.mp member
    cases same
    exact fits
  unfold sources at written
  by_cases reference : name = "$ref"
  · rw [if_pos reference] at written
    cases written
  rw [if_neg reference] at written
  by_cases structural : name ∈ structuralKeywords
  · rw [if_pos structural] at written
    cases written
  rw [if_neg structural] at written
  by_cases constraint : name ∈ constraintKeywords
  · rw [if_pos constraint] at written
    cases written
  rw [if_neg constraint] at written
  by_cases branches : name = "oneOf" ∨ name = "anyOf"
  · rw [if_pos branches] at written
    exact single _ _ written ⟨.anyOf, rfl⟩
  rw [if_neg branches] at written
  by_cases typed : name = "type"
  · rw [if_pos typed] at written
    exact literal _ (fun _ => insertType_fits) written
  rw [if_neg typed] at written
  by_cases enumerated : name = "enum"
  · rw [if_pos enumerated] at written
    exact single _ _ written (.inr (.inr (.inl rfl)))
  rw [if_neg enumerated] at written
  by_cases formatted : name = "format"
  · rw [if_pos formatted] at written
    exact literal _ (fun _ => ofFormat_fits) written
  rw [if_neg formatted] at written
  by_cases properties : name = "properties"
  · rw [if_pos properties] at written
    exact single _ _ written rfl
  rw [if_neg properties] at written
  by_cases nested : name = "items" ∨ name = "prefixItems"
  · rw [if_pos nested] at written
    obtain rfl | rfl := nested
    · exact single _ _ written ⟨.items, rfl⟩
    · exact single _ _ written ⟨.prefixItems, rfl⟩
  rw [if_neg nested] at written
  have carried : name ∉ handledKeywords := by
    simp only [handledKeywords, List.mem_append, List.mem_cons, List.not_mem_nil, or_false]
    tauto
  exact single _ _ written (.inr (.inr (.inr (.inr carried))))

theorem lastSource_mem (last : lastSource toUppercase schema key = some source) :
    (key, source) ∈ schema.flatMap (sources toUppercase) := by
  obtain ⟨before, after, split, _⟩ := List.lookup_eq_some_iff.mp last
  rw [← List.mem_reverse, split]
  simp

theorem winner_fits (wins : Winner toUppercase defs visited schema key origin source) :
    Fits key source := by
  induction wins with
  | own last =>
    obtain ⟨entry, _, written⟩ := List.mem_flatMap.mp (lastSource_mem last)
    exact sources_fit written
  | inlined _ _ _ ih => exact ih

end Fitting

section Descending
variable {toUppercase : String → String} {defs : Fields} {fuel : Nat}
variable {visited origin : List String} {value inner out : Json} {step : Step}

theorem cleansTo_object {schema : Fields}
    (cleans : CleansTo toUppercase defs fuel visited (.schema (.object schema)) out) :
    ∃ fields dropped, out = .object fields ∧
      cleanValue toUppercase (resolveRef toUppercase defs fuel visited) (.object schema) =
        some (.object fields, dropped) := by
  obtain ⟨dropped, done⟩ := cleans
  obtain ⟨effects, _, rfl, _⟩ := cleanValue_object done
  exact ⟨overlay effects, dropped, rfl, done⟩

theorem cleansTo_array {items : List Json}
    (cleans : CleansTo toUppercase defs fuel visited (.schema (.array items)) out) :
    ∃ outs, out = .array outs ∧ List.Forall₂ (fun item cleaned =>
      CleansTo toUppercase defs fuel visited (.schema item) cleaned) items outs := by
  obtain ⟨dropped, done⟩ := cleans
  obtain ⟨outs, collected, same⟩ := Option.map_eq_some_iff.mp
    (show (cleanItems toUppercase (resolveRef toUppercase defs fuel visited) items).map
      collectItems = some (out, dropped) from done)
  cases same
  refine ⟨outs.map Prod.fst, rfl, ?_⟩
  rw [List.forall₂_map_right_iff]
  exact (cleanItems_forall₂ collected).imp fun item cleaned done => ⟨cleaned.2, done⟩

theorem cleansTo_map {entries : Fields}
    (cleans : CleansTo toUppercase defs fuel visited (.schemaMap (.object entries)) out) :
    ∃ outs, out = .object outs ∧ List.Forall₂ (fun entry cleaned => entry.1 = cleaned.1 ∧
      CleansTo toUppercase defs fuel visited (.schema entry.2) cleaned.2) entries outs := by
  obtain ⟨dropped, done⟩ := cleans
  obtain ⟨outs, collected, same⟩ := Option.map_eq_some_iff.mp
    (show (cleanNamed toUppercase (resolveRef toUppercase defs fuel visited) entries).map
      collectMap = some (out, dropped) from done)
  cases same
  refine ⟨outs.map fun entry => (entry.1, entry.2.1), rfl, ?_⟩
  rw [List.forall₂_map_right_iff]
  refine (cleanNamed_forall₂ collected).imp fun entry cleaned done => ?_
  obtain ⟨⟨schema, lost⟩, cleansInner, rfl⟩ := Option.map_eq_some_iff.mp done
  exact ⟨rfl, lost, cleansInner⟩

/-- Only a map of schemas is cleaned to an object under `properties`. -/
theorem cleansTo_map_object {outs : Fields}
    (cleans : CleansTo toUppercase defs fuel visited (.schemaMap value) (.object outs)) :
    ∃ entries, value = .object entries := by
  obtain ⟨dropped, done⟩ := cleans
  cases value with
  | object entries => exact ⟨entries, rfl⟩
  | array items =>
    obtain ⟨outs, _, same⟩ := Option.map_eq_some_iff.mp
      (show (cleanItems toUppercase (resolveRef toUppercase defs fuel visited) items).map
        collectItems = some (_, dropped) from done)
    cases same
  | _ => cases done

theorem getElem?_forall₂ {Item Kept : Type} {related : Item → Kept → Prop} {items : List Item}
    {kept : List Kept} (matched : List.Forall₂ related items kept) (index : Nat) :
    (items[index]? = none ∧ kept[index]? = none) ∨
      ∃ item other, items[index]? = some item ∧ kept[index]? = some other ∧ related item other := by
  induction matched generalizing index with
  | nil => exact .inl ⟨rfl, rfl⟩
  | cons head _ ih =>
    cases index with
    | zero => exact .inr ⟨_, _, rfl, rfl, head⟩
    | succ index => simpa using ih index

theorem stepInto_property {fields : Fields} {name : String}
    (stepped : stepInto (.object fields) (.property name) = some inner) :
    ∃ entries, fields.lookup "properties" = some (.object entries) ∧
      entries.lookup name = some inner := by
  simp only [stepInto] at stepped
  cases held : fields.lookup "properties" with
  | none => simp [held] at stepped
  | some properties =>
    cases properties with
    | object entries => exact ⟨entries, rfl, by simpa [held] using stepped⟩
    | _ => simp [held] at stepped

theorem lookup_cleaned {entries outs : Fields} (matched : List.Forall₂ (fun entry cleaned =>
      entry.1 = cleaned.1 ∧ CleansTo toUppercase defs fuel visited (.schema entry.2) cleaned.2)
      entries outs) (name : String) :
    (entries.lookup name = none ∧ outs.lookup name = none) ∨
      ∃ held kept, entries.lookup name = some held ∧ outs.lookup name = some kept ∧
        CleansTo toUppercase defs fuel visited (.schema held) kept :=
  @lookup_forall₂ _ _ (fun held kept => CleansTo toUppercase defs fuel visited (.schema held) kept)
    _ _ matched name

/-- A step into a cleaned schema is a step into the one it was cleaned from, or into the
branches of a type union. -/
theorem stepInto_cleaned (cleans : CleansTo toUppercase defs fuel visited (.schema value) out)
    (stepped : stepInto out step = some inner) :
    (∃ origin source less, Descends (Winner toUppercase defs) visited value step origin source ∧
      CleansTo toUppercase defs less origin (.schema source) inner) ∨
      ∃ names, inner = typeBranches names ∧
        Branches (Winner toUppercase defs) visited value step inner := by
  cases value with
  | object schema =>
    obtain ⟨fields, dropped, rfl, done⟩ := cleansTo_object cleans
    cases step with
    | within keyword =>
      obtain ⟨origin, source, less, wins, cleansTo⟩ := lookup_winner done stepped
      have fits := winner_fits wins
      cases source with
      | schema source => exact .inl ⟨origin, source, less, .within wins, cleansTo⟩
      | schemaMap source => cases keyword <;> simp [Fits, SchemaKeyword.asStr] at fits
      | literal branches =>
        obtain rfl : inner = branches := cleansTo
        cases keyword with
        | anyOf =>
          have union : ∃ names, inner = typeBranches names := by
            simpa [Fits, SchemaKeyword.asStr, handledKeywords, structuralKeywords,
              constraintKeywords] using fits
          obtain ⟨names, branches⟩ := union
          exact .inr ⟨names, branches, .union wins⟩
        | _ =>
          simp [Fits, SchemaKeyword.asStr, handledKeywords, structuralKeywords,
            constraintKeywords] at fits
    | property name =>
      obtain ⟨entries, held, named⟩ := stepInto_property stepped
      obtain ⟨origin, source, less, wins, cleansTo⟩ := lookup_winner done held
      have fits := winner_fits wins
      cases source with
      | schemaMap source =>
        obtain ⟨before, rfl⟩ := cleansTo_map_object cleansTo
        obtain ⟨outs, same, matched⟩ := cleansTo_map cleansTo
        cases same
        obtain ⟨_, none⟩ | ⟨found, kept, there, after, cleansInner⟩ := lookup_cleaned matched name
        · rw [none] at named
          cases named
        · obtain rfl := Option.some_inj.mp (named.symm.trans after)
          exact .inl ⟨origin, found, less, .property wins there, cleansInner⟩
      | schema source =>
        obtain ⟨keyword, same⟩ := fits
        cases keyword <;> simp [SchemaKeyword.asStr] at same
      | literal source =>
        simp [Fits, handledKeywords, structuralKeywords, constraintKeywords] at fits
    | element index => cases stepped
  | array items =>
    obtain ⟨outs, rfl, matched⟩ := cleansTo_array cleans
    cases step with
    | element index =>
      obtain ⟨_, none⟩ | ⟨item, kept, there, after, cleansInner⟩ := getElem?_forall₂ matched index
      · rw [show outs[index]? = some inner from stepped] at none
        cases none
      · obtain rfl := Option.some_inj.mp (after.symm.trans (show outs[index]? = some inner from stepped))
        exact .inl ⟨visited, item, fuel, .element there, cleansInner⟩
    | _ => cases stepped
  | _ =>
    obtain ⟨dropped, done⟩ := cleans
    cases done
    cases step <;> cases stepped

theorem descends_cleaned {source : Json}
    (descends : Descends (Winner toUppercase defs) visited value step origin source)
    (cleans : CleansTo toUppercase defs fuel visited (.schema value) out) :
    ∃ inner less, stepInto out step = some inner ∧
      CleansTo toUppercase defs less origin (.schema source) inner := by
  cases descends with
  | within wins =>
    obtain ⟨fields, dropped, rfl, done⟩ := cleansTo_object cleans
    obtain ⟨inner, less, found, cleansInner⟩ := winner_lookup wins done
    exact ⟨inner, less, found, cleansInner⟩
  | @property _ schema entries name source wins named =>
    obtain ⟨fields, dropped, rfl, done⟩ := cleansTo_object cleans
    obtain ⟨mapped, less, found, cleansTo⟩ := winner_lookup wins done
    obtain ⟨outs, rfl, matched⟩ := cleansTo_map cleansTo
    obtain ⟨none, _⟩ | ⟨held, kept, there, after, cleansInner⟩ := lookup_cleaned matched name
    · rw [named] at none
      cases none
    · obtain rfl := Option.some_inj.mp (named.symm.trans there)
      exact ⟨kept, less, by simp [stepInto, found, after], cleansInner⟩
  | @element items index source item =>
    obtain ⟨outs, rfl, matched⟩ := cleansTo_array cleans
    obtain ⟨none, _⟩ | ⟨held, kept, there, after, cleansInner⟩ := getElem?_forall₂ matched index
    · rw [item] at none
      cases none
    · obtain rfl := Option.some_inj.mp (item.symm.trans there)
      exact ⟨kept, fuel, after, cleansInner⟩

theorem branches_cleaned (told : Branches (Winner toUppercase defs) visited value step inner)
    (cleans : CleansTo toUppercase defs fuel visited (.schema value) out) :
    stepInto out step = some inner := by
  cases told with
  | union wins =>
    obtain ⟨fields, dropped, rfl, done⟩ := cleansTo_object cleans
    obtain ⟨cleaned, less, found, same⟩ := winner_lookup wins done
    obtain rfl : cleaned = inner := same
    exact found

end Descending

section Keeping
variable {toUppercase : String → String} {defs : Fields} {fuel : Nat}
variable {visited : List String} {value out : Json}

theorem holds_cons {step : Step} {rest : List Step} {mark : Mark} :
    Holds out (step :: rest) mark ↔ ∃ inner, stepInto out step = some inner ∧ Holds inner rest mark := by
  unfold Holds
  simp only [reach, Option.bind_eq_some_iff]
  constructor
  · rintro ⟨inner, ⟨next, stepped, reached⟩, marked⟩
    exact ⟨next, stepped, inner, reached, marked⟩
  · rintro ⟨next, stepped, inner, reached, marked⟩
    exact ⟨inner, ⟨next, stepped, reached⟩, marked⟩

theorem holds_nil {mark : Mark} : Holds out [] mark ↔ Marked out mark := by
  simp [Holds, reach]

/-- A literal under a key of a cleaned object is the one of the keyword it comes from. -/
theorem lookup_literal {schema fields : Fields} {dropped : Bool} {key : String} {held : Json}
    (done : cleanValue toUppercase (resolveRef toUppercase defs fuel visited) (.object schema) =
      some (.object fields, dropped))
    (plain : ∀ source, Fits key source → ∃ value, source = .literal value) :
    fields.lookup key = some held ↔
      ∃ origin, Winner toUppercase defs visited schema key origin (.literal held) := by
  constructor
  · intro found
    obtain ⟨origin, source, less, wins, cleansTo⟩ := lookup_winner done found
    obtain ⟨value, rfl⟩ := plain source (winner_fits wins)
    obtain rfl : held = value := cleansTo
    exact ⟨origin, wins⟩
  · rintro ⟨origin, wins⟩
    obtain ⟨cleaned, less, found, same⟩ := winner_lookup wins done
    obtain rfl : cleaned = held := same
    exact found

theorem fits_type {source : Source} (fits : Fits "type" source) :
    ∃ value, source = .literal value := by
  cases source with
  | literal value => exact ⟨value, rfl⟩
  | schemaMap value => simp [Fits] at fits
  | schema value =>
    obtain ⟨keyword, same⟩ := fits
    cases keyword <;> simp [SchemaKeyword.asStr] at same

theorem fits_enum {source : Source} (fits : Fits "enum" source) :
    ∃ value, source = .literal value := by
  cases source with
  | literal value => exact ⟨value, rfl⟩
  | schemaMap value => simp [Fits] at fits
  | schema value =>
    obtain ⟨keyword, same⟩ := fits
    cases keyword <;> simp [SchemaKeyword.asStr] at same

theorem cleansTo_not_object {fields : Fields}
    (cleans : CleansTo toUppercase defs fuel visited (.schema value) (.object fields)) :
    ∃ schema, value = .object schema := by
  cases value with
  | object schema => exact ⟨schema, rfl⟩
  | array items =>
    obtain ⟨outs, same, _⟩ := cleansTo_array cleans
    cases same
  | _ =>
    obtain ⟨dropped, done⟩ := cleans
    cases done

theorem fits_carried {keyword : String} (carried : Carried keyword) {source : Source}
    (fits : Fits keyword source) : ∃ value, source = .literal value := by
  cases source with
  | literal value => exact ⟨value, rfl⟩
  | schemaMap value =>
    obtain rfl : keyword = "properties" := fits
    obtain same | unhandled := carried
    · simp at same
    · exact absurd (by decide) unhandled
  | schema value =>
    obtain ⟨keyword, rfl⟩ := fits
    obtain same | unhandled := carried
    · cases keyword <;> simp [SchemaKeyword.asStr] at same
    · cases keyword <;> exact absurd (by decide) unhandled

theorem marked_object {schema fields : Fields} {dropped : Bool}
    (done : cleanValue toUppercase (resolveRef toUppercase defs fuel visited) (.object schema) =
      some (.object fields, dropped)) (mark : Mark) :
    Marked (.object fields) mark ↔
      Speaks (Standing toUppercase defs) visited (.object schema) mark := by
  cases mark with
  | scalar held =>
    constructor
    · rintro ⟨rfl, scalar⟩
      cases scalar
    · rintro ⟨rfl, scalar⟩
      cases scalar
  | list => exact Iff.rfl
  | schema => exact Iff.rfl
  | typed name => exact lookup_literal done fun _ => fits_type
  | entry value =>
    constructor
    · rintro ⟨items, found, member⟩
      obtain ⟨origin, wins⟩ := (lookup_literal done fun _ => fits_enum).mp found
      exact ⟨origin, items, wins, member⟩
    · rintro ⟨origin, items, wins, member⟩
      exact ⟨items, (lookup_literal done fun _ => fits_enum).mpr ⟨origin, wins⟩, member⟩
  | carried keyword value =>
    constructor
    · rintro ⟨carried, found⟩
      exact ⟨carried, (lookup_literal done fun _ => fits_carried carried).mp found⟩
    · rintro ⟨carried, wins⟩
      exact ⟨carried, (lookup_literal done fun _ => fits_carried carried).mpr wins⟩

theorem marked_iff_stands (cleans : CleansTo toUppercase defs fuel visited (.schema value) out)
    (mark : Mark) : Marked out mark ↔ Stands toUppercase defs visited value [] mark := by
  cases value with
  | object schema =>
    obtain ⟨fields, dropped, rfl, done⟩ := cleansTo_object cleans
    exact marked_object done mark
  | array items =>
    obtain ⟨outs, rfl, _⟩ := cleansTo_array cleans
    cases mark with
    | scalar held =>
      constructor
      · rintro ⟨rfl, scalar⟩
        cases scalar
      · rintro ⟨rfl, scalar⟩
        cases scalar
    | _ => exact Iff.rfl
  | _ =>
    obtain ⟨dropped, done⟩ := cleans
    cases done
    cases mark <;> exact Iff.rfl

/-- A cleaned schema holds what the schema states by keywords that nothing overwrites. -/
theorem holds_iff_stands (cleans : CleansTo toUppercase defs fuel visited (.schema value) out)
    (path : List Step) (mark : Mark) :
    Holds out path mark ↔ Stands toUppercase defs visited value path mark := by
  induction path generalizing fuel visited value out with
  | nil => exact holds_nil.trans (marked_iff_stands cleans mark)
  | cons step rest ih =>
    rw [holds_cons]
    constructor
    · rintro ⟨inner, stepped, holds⟩
      obtain ⟨origin, source, less, descends, cleansInner⟩ | ⟨_, _, told⟩ :=
        stepInto_cleaned cleans stepped
      · exact .inl ⟨origin, source, descends, (ih cleansInner).mp holds⟩
      · exact .inr ⟨inner, told, holds⟩
    · rintro (⟨origin, source, descends, stands⟩ | ⟨branches, told, holds⟩)
      · obtain ⟨inner, less, stepped, cleansInner⟩ := descends_cleaned descends cleans
        exact ⟨inner, stepped, (ih cleansInner).mpr stands⟩
      · exact ⟨branches, branches_cleaned told cleans, holds⟩

end Keeping

end Routectl.Gemini.Cleaning
