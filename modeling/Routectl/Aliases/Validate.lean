import Routectl.Dispatch.Failure
import Routectl.Library.DepthFirst
import Routectl.Library.KeyedMap

/-! The startup check of the alias table: every chain has entries, every entry names a
target, and no alias leads back to itself. -/
namespace Routectl.Aliases
open Library Routectl.Dispatch

inductive AliasValue where
  | single (nickname : String)
  | chain (entries : List String)
deriving Repr, DecidableEq

namespace AliasValue

def nicknames : AliasValue → List String
  | single nickname => [nickname]
  | chain entries => entries

def isEmpty : AliasValue → Bool
  | single _ => false
  | chain entries => entries.isEmpty

theorem isEmpty_iff (value : AliasValue) : value.isEmpty = true ↔ value.nicknames = [] := by
  cases value with
  | single nickname => simp [isEmpty, nicknames]
  | chain entries => simp [isEmpty, nicknames]

end AliasValue

structure ModelEntry where
  selectable : Bool := true
deriving Repr, DecidableEq

structure Config where
  aliases : KeyedMap String AliasValue
  models : KeyedMap String ModelEntry

namespace Config

def emptyChain (key : String) : String :=
  "alias `" ++ key ++ "`: chain is empty -- an alias with no targets resolves to " ++
    "UnknownAlias at request time, which is the same as not declaring the alias at all"

def unknownTarget (key nickname : String) : String :=
  "alias `" ++ key ++ "`: target `" ++ nickname ++ "` is not a known model nickname in " ++
    "[models] and is not an alias key"

def unselectableTarget (key nickname : String) : String :=
  "alias `" ++ key ++ "`: target `" ++ nickname ++ "` is declared but `selectable = false`; " ++
    "alias chains must reference selectable models"

def cycleDetected (path : List String) (current : String) : String :=
  let cyclePath := path.dropWhile (fun key => key != current)
  "alias `" ++ cyclePath.headD current ++ "`: cycle detected: " ++
    String.intercalate " -> " (cyclePath ++ [current])

def targetErrors (config : Config) (key nickname : String) : List String :=
  if nickname ∈ config.aliases then []
  else
    match config.models.lookup nickname with
    | none => [unknownTarget key nickname]
    | some model => if model.selectable then [] else [unselectableTarget key nickname]

def entryErrors (config : Config) (key : String) (value : AliasValue) : List String :=
  if value.isEmpty then [emptyChain key]
  else value.nicknames.flatMap (config.targetErrors key)

/-- The entries of an alias key, none for any other name. -/
def entriesOf (config : Config) (name : String) : Option (List String) :=
  (config.aliases.lookup name).map AliasValue.nicknames

def detectAliasCyclesDfs (config : Config) (path : List String)
    (search : DepthFirst.Search String String) (current : String) :
    DepthFirst.Search String String :=
  DepthFirst.walk config.entriesOf cycleDetected (config.aliases.keys.length + 1) path search
    current

def validateAliasChainTargets (config : Config) : Except Error Unit :=
  let targets := config.aliases.entries.flatMap fun entry => config.entryErrors entry.1 entry.2
  let search := config.aliases.keys.foldl (fun search start =>
    if start ∈ search.visited then search else config.detectAliasCyclesDfs [] search start)
    ⟨[], targets⟩
  if search.reports.isEmpty then .ok ()
  else .error (.config ("\n".intercalate search.reports))

/-- A name a chain may hold: another alias key, or a model a request may pick. -/
def Known (config : Config) (nickname : String) : Prop :=
  nickname ∈ config.aliases ∨
    ∃ model, config.models.lookup nickname = some model ∧ model.selectable = true

/-- An alias table that can always be expanded. -/
structure Expandable (config : Config) : Prop where
  targeted : ∀ key value, config.aliases.lookup key = some value → value.nicknames ≠ []
  known : ∀ key value, config.aliases.lookup key = some value →
    ∀ nickname ∈ value.nicknames, config.Known nickname
  acyclic : ∀ key, ¬ DepthFirst.Cyclic config.entriesOf key

theorem targetErrors_eq_nil_iff (config : Config) (key nickname : String) :
    config.targetErrors key nickname = [] ↔ config.Known nickname := by
  unfold targetErrors Known
  by_cases nested : nickname ∈ config.aliases
  · simp [nested]
  · cases found : config.models.lookup nickname with
    | none => simp [nested]
    | some model => cases picked : model.selectable <;> simp [nested, picked]

theorem entryErrors_eq_nil_iff (config : Config) (key : String) (value : AliasValue) :
    config.entryErrors key value = [] ↔
      value.nicknames ≠ [] ∧ ∀ nickname ∈ value.nicknames, config.Known nickname := by
  unfold entryErrors
  by_cases empty : value.isEmpty = true
  · simp [empty, emptyChain, (value.isEmpty_iff).mp empty]
  · have nonempty : value.nicknames ≠ [] := fun none => empty ((value.isEmpty_iff).mpr none)
    simp [empty, nonempty, List.flatMap_eq_nil_iff, targetErrors_eq_nil_iff]

theorem entries_flatMap_eq_nil_iff (config : Config) :
    (config.aliases.entries.flatMap fun entry => config.entryErrors entry.1 entry.2) = [] ↔
      ∀ key value, config.aliases.lookup key = some value →
        value.nicknames ≠ [] ∧ ∀ nickname ∈ value.nicknames, config.Known nickname := by
  rw [List.flatMap_eq_nil_iff]
  constructor
  · intro clean key value held
    have entry : (⟨key, value⟩ : Sigma fun _ => AliasValue) ∈ config.aliases.entries :=
      AList.mem_lookup_iff.mp held
    exact (config.entryErrors_eq_nil_iff key value).mp (clean _ entry)
  · intro clean entry held
    exact (config.entryErrors_eq_nil_iff entry.1 entry.2).mpr
      (clean entry.1 entry.2 (AList.mem_lookup_iff.mpr held))

theorem entriesOf_ne_none_iff (config : Config) (name : String) :
    config.entriesOf name ≠ none ↔ name ∈ config.aliases.keys := by
  rw [← AList.mem_keys, ← AList.lookup_isSome]
  cases found : config.aliases.lookup name with
  | none => simp [entriesOf, found]
  | some value => simp [entriesOf, found]

/-- What the startup check reads off the whole table. -/
theorem validate_ok_iff (config : Config) :
    config.validateAliasChainTargets = .ok () ↔ config.Expandable := by
  have searched := @DepthFirst.survey_reports_nothing_iff _ _ config.entriesOf cycleDetected _ _
    config.entriesOf_ne_none_iff _ (Nat.lt_succ_self config.aliases.keys.length)
    (config.aliases.entries.flatMap fun entry => config.entryErrors entry.1 entry.2)
  rw [config.entries_flatMap_eq_nil_iff] at searched
  have accepted : config.validateAliasChainTargets = .ok () ↔
      (DepthFirst.survey config.entriesOf cycleDetected (config.aliases.keys.length + 1)
        config.aliases.keys ⟨[], config.aliases.entries.flatMap fun entry =>
          config.entryErrors entry.1 entry.2⟩).reports = [] := by
    unfold validateAliasChainTargets
    simp only [List.isEmpty_iff, DepthFirst.survey, detectAliasCyclesDfs]
    split
    · rename_i quiet
      simp [quiet]
    · rename_i loud
      simp [loud]
  rw [accepted, searched]
  constructor
  · rintro ⟨entries, acyclic⟩
    exact ⟨fun key value held => (entries key value held).1,
      fun key value held => (entries key value held).2, acyclic⟩
  · intro expandable
    exact ⟨fun key value held => ⟨expandable.targeted key value held,
      expandable.known key value held⟩, expandable.acyclic⟩

theorem Expandable.grounded {config : Config} (expandable : config.Expandable) (name : String) :
    DepthFirst.Grounded config.entriesOf name :=
  DepthFirst.grounded_of_acyclic config.entriesOf_ne_none_iff expandable.acyclic name

end Config
end Routectl.Aliases
