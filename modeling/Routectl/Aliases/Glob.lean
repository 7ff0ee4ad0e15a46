import Mathlib.Data.List.Sort
import Mathlib.Data.List.Infix
import Mathlib.Algebra.Ring.Nat

/-! The suffix-glob matcher of the alias table: patterns, and the index that finds the
longest one. -/
namespace Routectl.Aliases

inductive AliasPattern where
  | exact (name : String)
  | prefixed (stem : String)
deriving Repr, DecidableEq

namespace AliasPattern

def catchAllRefusal : String :=
  "alias pattern `*` matches every wire model; use `default = \"...\"` instead"

def parse (raw : String) : Except String AliasPattern :=
  if raw = "*" then .error catchAllRefusal
  else if raw.toList.count '*' = 0 then .ok (exact raw)
  else if raw.toList.count '*' = 1 ∧ raw.toList.getLast? = some '*' then
    if raw.toList.dropLast = [] then .error catchAllRefusal
    else .ok (prefixed (String.ofList raw.toList.dropLast))
  else .error ("alias pattern `" ++ raw ++ "` is not supported; only exact strings and " ++
    "trailing-asterisk prefixes (e.g. `claude-opus-*`) are accepted")

def matchesWire : AliasPattern → String → Bool
  | exact name, wire => name == wire
  | prefixed stem, wire => stem.toList.isPrefixOf wire.toList

def prefixLen : AliasPattern → Nat
  | exact name => name.utf8ByteSize
  | prefixed stem => stem.utf8ByteSize

/-- What a glob key is: its stem, which has no asterisk of its own, and one asterisk behind. -/
structure Globs (stem key : String) : Prop where
  asterisk : key.toList = stem.toList ++ ['*']
  narrow : stem ≠ ""
  plain : '*' ∉ stem.toList

theorem Globs.same_key {stem key other : String} (globs : Globs stem key)
    (same : Globs stem other) : key = other := by
  apply String.ext
  rw [globs.asterisk, same.asterisk]

theorem Globs.same_stem {stem key other : String} (globs : Globs stem key)
    (same : Globs other key) : stem = other := by
  apply String.ext
  have whole := globs.asterisk.symm.trans same.asterisk
  exact List.append_cancel_right whole

theorem parse_prefixed_iff (raw stem : String) :
    parse raw = .ok (prefixed stem) ↔ Globs stem raw := by
  constructor
  · intro parsed
    unfold parse at parsed
    split at parsed
    · cases parsed
    · rename_i notBare
      split at parsed
      · cases parsed
      · split at parsed
        · rename_i trailing
          split at parsed
          · cases parsed
          · rename_i narrow
            obtain rfl : String.ofList raw.toList.dropLast = stem := by
              injection parsed with same
              injection same
            have whole : raw.toList = raw.toList.dropLast ++ ['*'] :=
              (List.dropLast_append_getLast? '*' trailing.2).symm
            refine ⟨by simpa using whole, ?_, ?_⟩
            · intro empty
              apply narrow
              simpa using congrArg String.toList empty
            · intro another
              have twice : 0 < raw.toList.dropLast.count '*' :=
                List.count_pos_iff.mpr (by simpa using another)
              have once := trailing.1
              rw [whole, List.count_append, List.count_singleton_self] at once
              omega
        · cases parsed
  · intro globs
    have stemmed : stem.toList ≠ [] := fun empty => globs.narrow (String.ext (by simpa using empty))
    have notBare : raw ≠ "*" := by
      rintro rfl
      have lone := congrArg List.length globs.asterisk
      simp at lone
      exact stemmed (by simpa using lone)
    have once : raw.toList.count '*' = 1 := by
      rw [globs.asterisk, List.count_append, List.count_singleton_self,
        List.count_eq_zero_of_not_mem globs.plain]
    unfold parse
    rw [if_neg notBare, if_neg (by omega), if_pos ⟨once, by simp [globs.asterisk]⟩]
    simp [globs.asterisk, stemmed]

theorem matchesWire_prefixed_iff (stem wire : String) :
    (prefixed stem).matchesWire wire = true ↔ stem.toList <+: wire.toList := by
  simp [matchesWire]

theorem prefixLen_longest {stem other wire : String} (within : stem.toList <+: wire.toList)
    (otherWithin : other.toList <+: wire.toList)
    (longest : (prefixed other).prefixLen ≤ (prefixed stem).prefixLen) :
    other.toList <+: stem.toList := by
  obtain shorter | ⟨rest, grown⟩ := List.prefix_or_prefix_of_prefix otherWithin within
  · exact shorter
  · have whole : other = stem ++ String.ofList rest := by
      apply String.ext
      simpa using grown.symm
    have nothing : (String.ofList rest).utf8ByteSize = 0 := by
      simp only [prefixLen, whole, String.utf8ByteSize_append] at longest
      omega
    rw [String.utf8ByteSize_eq_zero_iff] at nothing
    rw [whole, nothing]
    simp

end AliasPattern

/-- Patterns with their values, longest stem first. -/
structure PrefixIndex (Value : Type) where
  entries : List (AliasPattern × Value) := []

namespace PrefixIndex
variable {Value : Type}

def NoShorter (first second : AliasPattern × Value) : Prop :=
  second.1.prefixLen ≤ first.1.prefixLen

instance (first second : AliasPattern × Value) : Decidable (NoShorter first second) :=
  inferInstanceAs (Decidable (_ ≤ _))

def insert (index : PrefixIndex Value) (pattern : AliasPattern) (value : Value) :
    PrefixIndex Value :=
  { entries := (index.entries ++ [(pattern, value)]).insertionSort NoShorter }

def longestMatch (index : PrefixIndex Value) (wire : String) : Option Value :=
  (index.entries.find? fun entry => entry.1.matchesWire wire).map Prod.snd

theorem mem_insert {index : PrefixIndex Value} {pattern : AliasPattern} {value : Value}
    {entry : AliasPattern × Value} :
    entry ∈ (index.insert pattern value).entries ↔
      entry ∈ index.entries ∨ entry = (pattern, value) := by
  simp [insert, List.mem_insertionSort]

/-- The storage order a lookup relies on. -/
def Ordered (index : PrefixIndex Value) : Prop := index.entries.Pairwise NoShorter

theorem ordered_insert (index : PrefixIndex Value) (pattern : AliasPattern) (value : Value) :
    (index.insert pattern value).Ordered := by
  have total : Std.Total (NoShorter : AliasPattern × Value → _ → Prop) :=
    ⟨fun first second => Nat.le_total second.1.prefixLen first.1.prefixLen⟩
  have transitive : IsTrans (AliasPattern × Value) NoShorter :=
    ⟨fun _ _ _ first second => Nat.le_trans second first⟩
  exact List.pairwise_insertionSort _ _

theorem longestMatch_eq_none_iff {index : PrefixIndex Value} {wire : String} :
    index.longestMatch wire = none ↔
      ∀ entry ∈ index.entries, ¬ entry.1.matchesWire wire = true := by
  simp [longestMatch]

theorem longestMatch_longest {index : PrefixIndex Value} (ordered : index.Ordered) {wire : String}
    {value : Value} (found : index.longestMatch wire = some value) :
    ∃ pattern, (pattern, value) ∈ index.entries ∧ pattern.matchesWire wire = true ∧
      ∀ entry ∈ index.entries, entry.1.matchesWire wire = true →
        entry.1.prefixLen ≤ pattern.prefixLen := by
  obtain ⟨⟨pattern, chosen⟩, first, rfl⟩ := Option.map_eq_some_iff.mp found
  obtain ⟨matching, before, after, whole, passed⟩ := List.find?_eq_some_iff_append.mp first
  refine ⟨pattern, by simp [whole], matching, ?_⟩
  intro entry held entryMatches
  rw [whole] at held
  obtain earlier | later := List.mem_append.mp held
  · have skipped := passed entry earlier
    simp [entryMatches] at skipped
  · obtain rfl | behind := List.mem_cons.mp later
    · exact Nat.le_refl _
    · unfold Ordered at ordered
      rw [whole] at ordered
      have tail := (List.pairwise_append.mp ordered).2.1
      exact List.rel_of_pairwise_cons tail behind

end PrefixIndex
end Routectl.Aliases
