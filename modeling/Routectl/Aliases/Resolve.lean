import Routectl.Aliases.Glob
import Routectl.Aliases.Validate
import Routectl.Library.Flattening

/-! Request-time resolution: the alias a wire model hits, and its expansion into the models
of the resolved table. -/
namespace Routectl.Aliases
open Library Library.Flattening Routectl.Dispatch AliasPattern
variable {ResolvedModel : Type}

/-- What one key adds to the index. -/
def indexKey (index : PrefixIndex AliasValue) (entry : Sigma fun _ : String => AliasValue) :
    PrefixIndex AliasValue :=
  if '*' ∈ entry.1.toList then
    match AliasPattern.parse entry.1 with
    | .ok (.prefixed stem) => index.insert (.prefixed stem) entry.2
    | .ok (.exact _) => index
    | .error _ => index
  else index

def globIndex (aliases : KeyedMap String AliasValue) : PrefixIndex AliasValue :=
  aliases.entries.foldl indexKey {}

theorem indexKey_glob {stem key : String} (globs : Globs stem key)
    (index : PrefixIndex AliasValue) (value : AliasValue) :
    indexKey index ⟨key, value⟩ = index.insert (.prefixed stem) value := by
  have starred : '*' ∈ key.toList := by simp [globs.asterisk]
  have parsed := (AliasPattern.parse_prefixed_iff key stem).mpr globs
  simp [indexKey, starred, parsed]

theorem indexKey_plain {key : String} (plain : ∀ stem, ¬ Globs stem key)
    (index : PrefixIndex AliasValue) (value : AliasValue) :
    indexKey index ⟨key, value⟩ = index := by
  unfold indexKey
  split
  · cases parsed : AliasPattern.parse key with
    | error refusal => rfl
    | ok pattern =>
      cases pattern with
      | exact name => rfl
      | prefixed stem =>
        exact (plain stem ((AliasPattern.parse_prefixed_iff key stem).mp parsed)).elim
  · rfl

theorem mem_foldl_indexKey {entries : List (Sigma fun _ : String => AliasValue)}
    {index : PrefixIndex AliasValue} {pattern : AliasPattern} {value : AliasValue} :
    (pattern, value) ∈ (entries.foldl indexKey index).entries ↔
      (pattern, value) ∈ index.entries ∨
        ∃ stem key, pattern = .prefixed stem ∧ Globs stem key ∧ ⟨key, value⟩ ∈ entries := by
  induction entries generalizing index with
  | nil => simp
  | cons entry rest ih =>
    obtain ⟨key, held⟩ := entry
    rw [List.foldl_cons, ih]
    by_cases globs : ∃ stem, Globs stem key
    · obtain ⟨stem, globs⟩ := globs
      rw [indexKey_glob globs, PrefixIndex.mem_insert]
      constructor
      · rintro ((before | same) | ⟨other, otherKey, rfl, otherGlobs, later⟩)
        · exact .inl before
        · obtain ⟨rfl, rfl⟩ := Prod.mk.inj same
          exact .inr ⟨stem, key, rfl, globs, List.mem_cons_self⟩
        · exact .inr ⟨other, otherKey, rfl, otherGlobs, List.mem_cons_of_mem _ later⟩
      · rintro (before | ⟨other, otherKey, rfl, otherGlobs, here⟩)
        · exact .inl (.inl before)
        · obtain same | later := List.mem_cons.mp here
          · cases same
            exact .inl (.inr (by rw [globs.same_stem otherGlobs]))
          · exact .inr ⟨other, otherKey, rfl, otherGlobs, later⟩
    · have plain : ∀ stem, ¬ Globs stem key := fun stem is => globs ⟨stem, is⟩
      rw [indexKey_plain plain]
      constructor
      · rintro (before | ⟨other, otherKey, rfl, otherGlobs, later⟩)
        · exact .inl before
        · exact .inr ⟨other, otherKey, rfl, otherGlobs, List.mem_cons_of_mem _ later⟩
      · rintro (before | ⟨other, otherKey, rfl, otherGlobs, here⟩)
        · exact .inl before
        · obtain same | later := List.mem_cons.mp here
          · cases same
            exact (plain other otherGlobs).elim
          · exact .inr ⟨other, otherKey, rfl, otherGlobs, later⟩

theorem mem_globIndex {aliases : KeyedMap String AliasValue} {pattern : AliasPattern}
    {value : AliasValue} :
    (pattern, value) ∈ (globIndex aliases).entries ↔
      ∃ stem key, pattern = .prefixed stem ∧ Globs stem key ∧ aliases.lookup key = some value := by
  have entry : ∀ key, (⟨key, value⟩ : Sigma fun _ : String => AliasValue) ∈ aliases.entries ↔
      aliases.lookup key = some value := fun key => AList.mem_lookup_iff.symm
  simp [globIndex, mem_foldl_indexKey, entry]

theorem globIndex_ordered (aliases : KeyedMap String AliasValue) :
    (globIndex aliases).Ordered := by
  have grown : ∀ (entries : List (Sigma fun _ : String => AliasValue))
      (index : PrefixIndex AliasValue), index.Ordered → (entries.foldl indexKey index).Ordered := by
    intro entries
    induction entries with
    | nil => exact fun index ordered => ordered
    | cons entry rest ih =>
      intro index ordered
      rw [List.foldl_cons]
      apply ih
      by_cases globs : ∃ stem, Globs stem entry.1
      · obtain ⟨stem, globs⟩ := globs
        rw [indexKey_glob globs]
        exact PrefixIndex.ordered_insert index _ _
      · rw [indexKey_plain fun stem is => globs ⟨stem, is⟩]
        exact ordered
  exact grown aliases.entries {} List.Pairwise.nil

/-- The alias value a wire model hits: that of its own key, else that of the longest glob key
it begins with. -/
inductive Hits (aliases : KeyedMap String AliasValue) (wire : String) (value : AliasValue) :
    Prop where
  | exact : aliases.lookup wire = some value → Hits aliases wire value
  | glob (stem key : String) : aliases.lookup wire = none → Globs stem key →
      aliases.lookup key = some value → stem.toList <+: wire.toList →
      (∀ other otherKey, Globs other otherKey → otherKey ∈ aliases →
        other.toList <+: wire.toList → other.toList <+: stem.toList) → Hits aliases wire value

theorem Hits.held {aliases : KeyedMap String AliasValue} {wire : String} {value : AliasValue}
    (hits : Hits aliases wire value) : ∃ key, aliases.lookup key = some value := by
  cases hits with
  | exact held => exact ⟨wire, held⟩
  | glob stem key missing globs held within longest => exact ⟨key, held⟩

theorem Hits.longestMatch {aliases : KeyedMap String AliasValue} {wire : String}
    {value : AliasValue} (hits : Hits aliases wire value) :
    (aliases.lookup wire).or ((globIndex aliases).longestMatch wire) = some value := by
  cases hits with
  | exact held => simp [held]
  | glob stem key missing globs held within longest =>
    rw [missing, Option.none_or]
    cases found : (globIndex aliases).longestMatch wire with
    | none =>
      have unmatched := PrefixIndex.longestMatch_eq_none_iff.mp found _
        (mem_globIndex.mpr ⟨stem, key, rfl, globs, held⟩)
      exact (unmatched ((AliasPattern.matchesWire_prefixed_iff stem wire).mpr within)).elim
    | some chosen =>
      obtain ⟨pattern, stored, matching, first⟩ :=
        PrefixIndex.longestMatch_longest (globIndex_ordered aliases) found
      obtain ⟨other, otherKey, rfl, otherGlobs, otherHeld⟩ := mem_globIndex.mp stored
      have otherWithin := (AliasPattern.matchesWire_prefixed_iff other wire).mp matching
      have shorter := longest other otherKey otherGlobs
        (AList.lookup_isSome.mp (by simp [otherHeld])) otherWithin
      have longer := AliasPattern.prefixLen_longest otherWithin within
        (first _ (mem_globIndex.mpr ⟨stem, key, rfl, globs, held⟩)
          ((AliasPattern.matchesWire_prefixed_iff stem wire).mpr within))
      have same : other = stem := by
        apply String.ext
        exact shorter.eq_of_length (Nat.le_antisymm shorter.length_le longer.length_le)
      subst same
      rw [otherGlobs.same_key globs] at otherHeld
      exact otherHeld.symm.trans held

structure Router (ResolvedModel : Type) where
  config : Config
  resolvedModels : KeyedMap String ResolvedModel
  aliasGlobIndex : PrefixIndex AliasValue

namespace Router

def new (config : Config) : Router ResolvedModel :=
  { config, resolvedModels := ∅, aliasGlobIndex := globIndex config.aliases }

def installResolvedModels (router : Router ResolvedModel)
    (models : KeyedMap String ResolvedModel) : Router ResolvedModel :=
  { router with resolvedModels := models }

def resolveNickname (router : Router ResolvedModel) (nickname : String) : Option ResolvedModel :=
  router.resolvedModels.lookup nickname

def aliasMaxRecursionDepth : Nat := 8

def depthExceeded : Error :=
  .config ("alias chain recursion exceeded depth " ++ toString aliasMaxRecursionDepth ++
    "; possible cycle that startup validation missed -- run `routectl config check` to " ++
    "surface the offending alias")

/-- Expansion with `left` depths to go, the current one among them, before the cap. -/
def expandAliasValue (router : Router ResolvedModel) :
    Nat → AliasValue → List ResolvedModel → Except Error (List ResolvedModel)
  | 0, _, _ => .error depthExceeded
  | left + 1, value, out =>
    value.nicknames.foldlM (fun out entry =>
      match router.config.aliases.lookup entry with
      | some nested => expandAliasValue router left nested out
      | none =>
        match router.resolveNickname entry with
        | some model => .ok (out ++ [model])
        | none => .ok out) out

def resolveValue (router : Router ResolvedModel) (value : AliasValue) :
    Except Error (Option (List ResolvedModel)) := do
  let chain ← router.expandAliasValue (aliasMaxRecursionDepth + 1) value []
  if chain.isEmpty then .ok none else .ok (some chain)

def resolveV6Alias (router : Router ResolvedModel) (wireModel : String) :
    Except Error (Option (List ResolvedModel)) :=
  match (router.config.aliases.lookup wireModel).or
      (router.aliasGlobIndex.longestMatch wireModel) with
  | none => .ok none
  | some value => router.resolveValue value

def resolveDefaultAlias (router : Router ResolvedModel) :
    Except Error (Option (List ResolvedModel)) :=
  match router.config.aliases.lookup "default" with
  | none => .ok none
  | some value => router.resolveValue value

/-- One entry of a chain under expansion. -/
def expandEntry (router : Router ResolvedModel) (left : Nat) (out : List ResolvedModel)
    (entry : String) : Except Error (List ResolvedModel) :=
  match router.config.aliases.lookup entry with
  | some nested => router.expandAliasValue left nested out
  | none =>
    match router.resolveNickname entry with
    | some model => .ok (out ++ [model])
    | none => .ok out

theorem expandAliasValue_succ (router : Router ResolvedModel) (left : Nat) (value : AliasValue)
    (out : List ResolvedModel) :
    router.expandAliasValue (left + 1) value out =
      value.nicknames.foldlM (router.expandEntry left) out := rfl

theorem entriesOf_eq_some_iff {config : Config} {name : String} {entries : List String} :
    config.entriesOf name = some entries ↔
      ∃ value, config.aliases.lookup name = some value ∧ value.nicknames = entries := by
  simp [Config.entriesOf]

theorem entriesOf_eq_none_iff {config : Config} {name : String} :
    config.entriesOf name = none ↔ config.aliases.lookup name = none := by
  simp [Config.entriesOf]

/-- What an expansion comes to: the models in order, or the refusal at the cap. -/
structure Expands (within : Prop) (expanded : Except Error (List ResolvedModel))
    (models : List ResolvedModel) : Prop where
  ok : within → expanded = .ok models
  refused : ¬ within → expanded = .error depthExceeded

theorem expandEntry_leaf {router : Router ResolvedModel} {entry : String}
    (leaf : router.config.entriesOf entry = none) {model : ResolvedModel}
    (found : router.resolveNickname entry = some model) (hops : Nat) (out : List ResolvedModel) :
    router.expandEntry hops out entry = .ok (out ++ [model]) := by
  simp [expandEntry, entriesOf_eq_none_iff.mp leaf, found]

theorem expandChain {router : Router ResolvedModel} {hops : Nat}
    (nested : ∀ entry successors inner, router.config.entriesOf entry = some successors →
      Flattens router.config.entriesOf router.resolveNickname successors inner →
      ∀ out, Expands (Within router.config.entriesOf hops [entry])
        (router.expandEntry hops out entry) (out ++ inner))
    {entries : List String} {flat : List ResolvedModel}
    (flattens : Flattens router.config.entriesOf router.resolveNickname entries flat)
    (out : List ResolvedModel) :
    Expands (Within router.config.entriesOf hops entries)
      (entries.foldlM (router.expandEntry hops) out) (out ++ flat) := by
  induction flattens generalizing out with
  | nil =>
    refine ⟨fun _ => by simp [pure, Except.pure], fun deep => (deep (within_nil hops)).elim⟩
  | @nested entry successors rest inner more found innerFlattens _ _ moreIh =>
    have here := nested entry successors inner found innerFlattens out
    have later := moreIh (out ++ inner)
    rw [List.foldlM_cons, ← List.append_assoc]
    constructor
    · intro within
      obtain ⟨first, others⟩ := within_cons.mp within
      rw [here.ok first]
      exact later.ok others
    · intro deep
      by_cases first : Within router.config.entriesOf hops [entry]
      · rw [here.ok first]
        exact later.refused fun others => deep (within_cons.mpr ⟨first, others⟩)
      · rw [here.refused first]
        rfl
  | @leaf entry rest model more none found _ moreIh =>
    have later := moreIh (out ++ [model])
    rw [List.foldlM_cons, expandEntry_leaf none found]
    rw [List.append_assoc] at later
    constructor
    · intro within
      exact later.ok (within_cons.mp within).2
    · intro deep
      exact later.refused fun others => deep (within_cons.mpr ⟨within_leaf none, others⟩)

/-- A chain expands to its flattening when the nesting is within the hops left, and fails at
the cap otherwise. -/
theorem expandAliasValue_expands (router : Router ResolvedModel) (hops : Nat)
    {value : AliasValue} {flat : List ResolvedModel}
    (flattens : Flattens router.config.entriesOf router.resolveNickname value.nicknames flat)
    (out : List ResolvedModel) :
    Expands (Within router.config.entriesOf hops value.nicknames)
      (router.expandAliasValue (hops + 1) value out) (out ++ flat) := by
  induction hops generalizing value flat out with
  | zero =>
    rw [expandAliasValue_succ]
    apply expandChain _ flattens
    intro entry successors inner found _ out
    obtain ⟨nested, held, _⟩ := entriesOf_eq_some_iff.mp found
    refine ⟨fun within => ?_, fun _ => by simp [expandEntry, held, expandAliasValue]⟩
    have none := within entry List.mem_cons_self
    simp [found] at none
  | succ hops ih =>
    rw [expandAliasValue_succ]
    apply expandChain _ flattens
    intro entry successors inner found innerFlattens out
    obtain ⟨nested, held, rfl⟩ := entriesOf_eq_some_iff.mp found
    have onward := ih innerFlattens out
    have entered : router.expandEntry (hops + 1) out entry =
        router.expandAliasValue (hops + 1) nested out := by simp [expandEntry, held]
    have deeper : Within router.config.entriesOf (hops + 1) [entry] ↔
        Within router.config.entriesOf hops nested.nicknames := by simp [Within, found]
    rw [entered]
    exact ⟨fun within => onward.ok (deeper.mp within),
      fun deep => onward.refused fun within => deep (deeper.mpr within)⟩

/-- The models a hit value stands for, and whether the cap lets a request have them. -/
structure Resolves (router : Router ResolvedModel) (value : AliasValue)
    (resolved : Except Error (Option (List ResolvedModel))) (flat : List ResolvedModel) :
    Prop where
  flattens : Flattens router.config.entriesOf router.resolveNickname value.nicknames flat
  ok : Within router.config.entriesOf aliasMaxRecursionDepth value.nicknames →
    resolved = .ok (some flat)
  refused : ¬ Within router.config.entriesOf aliasMaxRecursionDepth value.nicknames →
    resolved = .error depthExceeded

/-- Every model a chain of the table may name has been installed. -/
def Installed (router : Router ResolvedModel) : Prop :=
  ∀ nickname model, router.config.models.lookup nickname = some model →
    model.selectable = true → (router.resolveNickname nickname).isSome = true

theorem resolveValue_resolves {router : Router ResolvedModel}
    (expandable : router.config.Expandable) (installed : router.Installed) {key : String}
    {value : AliasValue} (held : router.config.aliases.lookup key = some value) :
    ∃ flat, router.Resolves value (router.resolveValue value) flat := by
  have closed : ∀ name, Closed router.config.entriesOf router.resolveNickname name := by
    intro name successors found successor successorHeld
    obtain ⟨other, otherHeld, rfl⟩ := entriesOf_eq_some_iff.mp found
    obtain nested | ⟨model, modelHeld, selectable⟩ :=
      expandable.known name other otherHeld successor successorHeld
    · exact .inl ((router.config.entriesOf_ne_none_iff successor).mpr (AList.mem_keys.mp nested))
    · exact .inr (installed successor model modelHeld selectable)
  have found : router.config.entriesOf key = some value.nicknames :=
    entriesOf_eq_some_iff.mpr ⟨value, held, rfl⟩
  obtain ⟨flat, flattens⟩ := Grounded.flattens (expandable.grounded key) closed found
  have targeted : ∀ name successors, router.config.entriesOf name = some successors →
      successors ≠ [] := by
    intro name successors nameFound
    obtain ⟨other, otherHeld, rfl⟩ := entriesOf_eq_some_iff.mp nameFound
    exact expandable.targeted name other otherHeld
  have nonempty := flattens.ne_nil targeted (targeted key _ found)
  have expands := router.expandAliasValue_expands aliasMaxRecursionDepth flattens []
  refine ⟨flat, flattens, ?_, ?_⟩
  · intro within
    unfold resolveValue
    rw [expands.ok within]
    cases flat with
    | nil => exact (nonempty rfl).elim
    | cons model rest => rfl
  · intro deep
    unfold resolveValue
    rw [expands.refused deep]
    rfl

/-- The startup check and request-time expansion, side by side over one table. -/
theorem accepted_table_resolves (config : Config) (models : KeyedMap String ResolvedModel) :
    (config.validateAliasChainTargets = .ok () ↔ config.Expandable) ∧
    (config.validateAliasChainTargets = .ok () →
      ((new config).installResolvedModels models).Installed →
      (∀ wire value, Hits config.aliases wire value →
        ∃ flat, ((new config).installResolvedModels models).Resolves value
          (((new config).installResolvedModels models).resolveV6Alias wire) flat) ∧
      (∀ value, config.aliases.lookup "default" = some value →
        ∃ flat, ((new config).installResolvedModels models).Resolves value
          ((new config).installResolvedModels models).resolveDefaultAlias flat)) := by
  refine ⟨config.validate_ok_iff, ?_⟩
  intro accepted installed
  have expandable := config.validate_ok_iff.mp accepted
  constructor
  · intro wire value hits
    obtain ⟨key, held⟩ := hits.held
    have hit : ((new config).installResolvedModels models).resolveV6Alias wire =
        ((new config).installResolvedModels models).resolveValue value := by
      unfold resolveV6Alias
      rw [show (((new config).installResolvedModels models).config.aliases.lookup wire).or
        (((new config).installResolvedModels models).aliasGlobIndex.longestMatch wire) = some value
        from hits.longestMatch]
    rw [hit]
    exact resolveValue_resolves expandable installed held
  · intro value held
    have hit : ((new config).installResolvedModels models).resolveDefaultAlias =
        ((new config).installResolvedModels models).resolveValue value := by
      unfold resolveDefaultAlias
      rw [show ((new config).installResolvedModels models).config.aliases.lookup "default" =
        some value from held]
    rw [hit]
    exact resolveValue_resolves expandable installed held

def sharedTable : Config :=
  { aliases := [⟨"default", .single "heavy"⟩, ⟨"claude-*", .chain ["fast", "heavy"]⟩,
      ⟨"heavy", .chain ["big", "fast"]⟩, ⟨"fast", .single "small"⟩].toAList
    models := [⟨"big", {}⟩, ⟨"small", {}⟩].toAList }

def sharedModels : KeyedMap String Nat := [⟨"big", 1⟩, ⟨"small", 2⟩].toAList

def sharedRouter : Router Nat := (new sharedTable).installResolvedModels sharedModels

theorem shared_validates : sharedTable.validateAliasChainTargets = .ok () := by
  decide +kernel

theorem shared_installed : sharedRouter.Installed := by
  intro nickname model held _
  have named : nickname ∈ ["big", "small"] :=
    AList.lookup_isSome.mp (by rw [held]; rfl)
  simp only [List.mem_cons, List.not_mem_nil, or_false] at named
  obtain rfl | rfl := named
  · rfl
  · rfl

theorem shared_hits : Hits sharedTable.aliases "claude-opus" (.chain ["fast", "heavy"]) := by
  apply Hits.glob "claude-" "claude-*" rfl ⟨rfl, by simp, by simp⟩ rfl (by simp)
  intro other otherKey globs held _
  have named : otherKey ∈ ["default", "claude-*", "heavy", "fast"] := held
  have starred := congrArg List.getLast? globs.asterisk
  simp only [List.mem_cons, List.not_mem_nil, or_false] at named
  obtain rfl | rfl | rfl | rfl := named
  · simp at starred
  · obtain rfl : other = "claude-" := globs.same_stem ⟨rfl, by simp, by simp⟩
    exact List.prefix_rfl
  · simp at starred
  · simp at starred

theorem shared_table_resolves :
    (∃ flat, sharedRouter.Resolves (.chain ["fast", "heavy"])
      (sharedRouter.resolveV6Alias "claude-opus") flat) ∧
    ∃ flat, sharedRouter.Resolves (.single "heavy") sharedRouter.resolveDefaultAlias flat := by
  have resolves := (accepted_table_resolves sharedTable sharedModels).2 shared_validates
    shared_installed
  exact ⟨resolves.1 "claude-opus" _ shared_hits, resolves.2 _ rfl⟩

def deepTable : Config :=
  { aliases := [⟨"a0", .single "a1"⟩, ⟨"a1", .single "a2"⟩, ⟨"a2", .single "a3"⟩,
      ⟨"a3", .single "a4"⟩, ⟨"a4", .single "a5"⟩, ⟨"a5", .single "a6"⟩, ⟨"a6", .single "a7"⟩,
      ⟨"a7", .single "a8"⟩, ⟨"a8", .single "a9"⟩, ⟨"a9", .single "model"⟩].toAList
    models := [⟨"model", {}⟩].toAList }

def deepRouter : Router Nat := (new deepTable).installResolvedModels [⟨"model", 1⟩].toAList

/-- Ten aliases in a row lead to an installed model, and the request still fails. -/
theorem deep_table_is_refused :
    deepTable.validateAliasChainTargets = .ok () ∧ deepRouter.Installed ∧
    Hits deepTable.aliases "a0" (.single "a1") ∧
    Flattens deepTable.entriesOf deepRouter.resolveNickname ["a1"] [1] ∧
    deepRouter.resolveV6Alias "a0" = .error depthExceeded := by
  refine ⟨by decide +kernel, ?_, .exact rfl, ?_, rfl⟩
  · intro nickname model held _
    have named : nickname ∈ ["model"] := AList.lookup_isSome.mp (by rw [held]; rfl)
    obtain rfl := List.mem_singleton.mp named
    rfl
  · have last : Flattens deepTable.entriesOf deepRouter.resolveNickname ["model"] [1] :=
      .leaf rfl rfl .nil
    have step : ∀ name next, deepTable.entriesOf name = some [next] →
        Flattens deepTable.entriesOf deepRouter.resolveNickname [next] [1] →
        Flattens deepTable.entriesOf deepRouter.resolveNickname [name] [1] :=
      fun name next found below => .nested found below .nil
    exact step "a1" "a2" rfl <| step "a2" "a3" rfl <| step "a3" "a4" rfl <| step "a4" "a5" rfl <|
      step "a5" "a6" rfl <| step "a6" "a7" rfl <| step "a7" "a8" rfl <| step "a8" "a9" rfl <|
      step "a9" "model" rfl last

end Router
end Routectl.Aliases
