import Mathlib.Data.List.Nodup
import Routectl.Trim.NearLossless

/-! What the near-lossless marks leave in the window. Supersession keeps the
latest result of a path, dedup the first of equal payloads. -/
namespace Routectl.Trim
open Library

/-- Transcript order of two positions. -/
def Precedes (first second : Nat × Nat) : Prop :=
  first.1 < second.1 ∨ (first.1 = second.1 ∧ first.2 < second.2)

def ScanUnit.position (unit : ScanUnit) : Nat × Nat := (unit.messageIndex, unit.partIndex)

def ElisionMark.position (mark : ElisionMark) : Nat × Nat := (mark.messageIndex, mark.partIndex)

def partAt (messages : List Message) (position : Nat × Nat) : Option ContentPart :=
  match messages[position.1]?.map Message.content with
  | some (.parts parts) => parts[position.2]?
  | _ => none

/-- The unit stands in the messages of the window, not elided. -/
def Stands (messages : List Message) (start scanEnd : Nat) (unit : ScanUnit) : Prop :=
  start ≤ unit.messageIndex ∧ unit.messageIndex < scanEnd ∧
    ∃ part target, partAt messages unit.position = some part ∧
      nearLosslessUnit part = some (target, unit.kind) ∧
      unit = scanUnit unit.messageIndex unit.partIndex target unit.kind

section Units
variable {request : ChatRequest} {start scanEnd : Nat}

theorem mem_scanMessage {message : Message} {messageIndex : Nat} {unit : ScanUnit} :
    unit ∈ scanMessage message messageIndex ↔
      ∃ parts partIndex part target kind, message.content = .parts parts ∧
        parts[partIndex]? = some part ∧ nearLosslessUnit part = some (target, kind) ∧
        unit = scanUnit messageIndex partIndex target kind := by
  rw [scanMessage]
  cases content : message.content with
  | parts parts =>
    constructor
    · intro member
      obtain ⟨⟨part, partIndex⟩, listed, found⟩ := List.mem_filterMap.mp member
      obtain ⟨⟨target, kind⟩, taken, built⟩ := Option.map_eq_some_iff.mp found
      exact ⟨parts, partIndex, part, target, kind, rfl, List.mem_zipIdx_iff_getElem?.mp listed,
        taken, built.symm⟩
    · rintro ⟨same, partIndex, part, target, kind, content, present, taken, built⟩
      cases content
      apply List.mem_filterMap.mpr
      refine ⟨(part, partIndex), List.mem_zipIdx_iff_getElem?.mpr present, ?_⟩
      simp only [taken, Option.map_some, built]
  | text body => simp
  | null => simp

theorem scanUnit_position {messageIndex partIndex : Nat} {target : Json} {kind : ScanUnitKind} :
    (scanUnit messageIndex partIndex target kind).position = (messageIndex, partIndex) := rfl

/-- The scan finds exactly the units that stand in the window. -/
theorem mem_collectScanUnits {unit : ScanUnit} :
    unit ∈ (collectScanUnits request start scanEnd).1 ↔ Stands request.messages start scanEnd unit := by
  simp only [collectScanUnits, List.mem_flatMap, Prod.exists]
  constructor
  · rintro ⟨message, messageIndex, listed, member⟩
    obtain ⟨parts, partIndex, part, target, kind, content, present, taken, rfl⟩ :=
      mem_scanMessage.mp member
    obtain ⟨from_, within⟩ := List.mk_mem_zipIdx_iff_le_and_getElem?_sub.mp listed
    rw [List.getElem?_drop, Nat.add_sub_cancel' from_] at within
    rw [List.getElem?_take, Option.ite_none_right_eq_some] at within
    obtain ⟨below, held⟩ := within
    refine ⟨from_, below, part, target, ?_, taken, rfl⟩
    simp only [partAt, scanUnit_position, held, Option.map_some, content, present]
  · rintro ⟨from_, below, part, target, present, taken, built⟩
    simp only [partAt] at present
    split at present
    · rename_i parts content
      obtain ⟨message, held, content⟩ := Option.map_eq_some_iff.mp content
      refine ⟨message, unit.messageIndex, ?_, ?_⟩
      · apply List.mk_mem_zipIdx_iff_le_and_getElem?_sub.mpr
        refine ⟨from_, ?_⟩
        rw [List.getElem?_drop, Nat.add_sub_cancel' from_, List.getElem?_take, if_pos below]
        exact held
      · exact mem_scanMessage.mpr
          ⟨parts, unit.partIndex, part, target, unit.kind, content, present, taken, built⟩
    · cases present

theorem zipIdx_ordered {α : Type} (items : List α) (first : Nat) :
    (items.zipIdx first).Pairwise fun earlier later => earlier.2 < later.2 := by
  have ordered : ((items.zipIdx first).map Prod.snd).Pairwise (· < ·) := by
    rw [List.zipIdx_map_snd]
    exact List.pairwise_lt_range'
  exact List.pairwise_map.mp ordered

theorem scanMessage_ordered (message : Message) (messageIndex : Nat) :
    (scanMessage message messageIndex).Pairwise fun first second =>
      Precedes first.position second.position := by
  rw [scanMessage]
  split
  · rename_i parts content
    apply (zipIdx_ordered parts 0).filterMap
    rintro ⟨part, partIndex⟩ ⟨other, otherIndex⟩ earlier unit found later foundLater
    obtain ⟨_, _, rfl⟩ := Option.map_eq_some_iff.mp found
    obtain ⟨_, _, rfl⟩ := Option.map_eq_some_iff.mp foundLater
    exact .inr ⟨rfl, earlier⟩
  · exact List.Pairwise.nil

theorem collectScanUnits_ordered :
    (collectScanUnits request start scanEnd).1.Pairwise fun first second =>
      Precedes first.position second.position := by
  apply List.pairwise_flatMap.mpr
  constructor
  · intro row _
    exact scanMessage_ordered row.1 row.2
  · apply (zipIdx_ordered _ start).imp
    intro row other earlier unit member later memberLater
    obtain ⟨_, _, _, _, _, _, _, _, rfl⟩ := mem_scanMessage.mp member
    obtain ⟨_, _, _, _, _, _, _, _, rfl⟩ := mem_scanMessage.mp memberLater
    exact .inl earlier

end Units

section Superseding
variable {idToPath : KeyedMap String String} {units : List ScanUnit}

/-- The units attributed to a path, among rows of units and their indices. -/
def attributed (idToPath : KeyedMap String String) (path : String) (rows : List (ScanUnit × Nat)) :
    List Nat :=
  (rows.filter fun row => resultPath idToPath row.1 = some path).map Prod.snd

theorem attributed_snoc (path : String) (rows : List (ScanUnit × Nat)) (row : ScanUnit × Nat) :
    attributed idToPath path (rows ++ [row]) =
      attributed idToPath path rows ++
        if resultPath idToPath row.1 = some path then [row.2] else [] := by
  rw [attributed, List.filter_append, List.map_append]
  congr 1
  by_cases own : resultPath idToPath row.1 = some path
  · simp [own]
  · simp [own]

theorem lookup_groups (rows : List (ScanUnit × Nat)) (path : String) :
    ((rows.foldl (groupResult idToPath) ∅).lookup path).getD [] = attributed idToPath path rows := by
  induction rows using List.reverseRecOn with
  | nil => rfl
  | append_singleton rows row ih =>
    rw [List.foldl_append, List.foldl_cons, List.foldl_nil, groupResult, attributed_snoc]
    cases found : resultPath idToPath row.1 with
    | none => simpa using ih
    | some own =>
      by_cases same : own = path
      · subst same
        simp [ih]
      · simp [AList.lookup_insert_ne (Ne.symm same), ih, same]

theorem mem_attributed {path : String} {rows : List (ScanUnit × Nat)} {index : Nat} :
    index ∈ attributed idToPath path rows ↔
      ∃ unit, (unit, index) ∈ rows ∧ resultPath idToPath unit = some path := by
  simp [attributed]

theorem attributed_ordered (path : String) (units : List ScanUnit) :
    (attributed idToPath path units.zipIdx).Pairwise (· < ·) :=
  List.pairwise_map.mpr ((zipIdx_ordered units 0).filter _)

/-- An index is stale when a later result of its path has another hash. -/
theorem mem_staleResults {group : List Nat} {index : Nat}
    (stale : index ∈ staleResults units group) :
    ∃ last, group.getLast? = some last ∧ index ∈ group.dropLast ∧
      units[index]?.map ScanUnit.hash ≠ units[last]?.map ScanUnit.hash := by
  rw [staleResults] at stale
  split at stale
  · cases stale
  · rename_i last found
    obtain ⟨earlier, differs⟩ := List.mem_filter.mp stale
    exact ⟨last, found, earlier, of_decide_eq_true differs⟩

theorem foldl_supersede (indices : List Nat) (kinds : List MarkKind) (index : Nat) :
    (indices.foldl supersede kinds)[index]? =
      if index ∈ indices then kinds[index]?.map fun _ => .supersession else kinds[index]? := by
  induction indices generalizing kinds with
  | nil => simp
  | cons first rest ih =>
    rw [List.foldl_cons, ih, supersede]
    by_cases same : first = index
    · subst same
      by_cases within : first < kinds.length
      · simp [within]
      · simp [Nat.le_of_not_lt within]
    · simp [List.getElem?_set_ne same, Ne.symm same]

/-- The indices that one of the groups makes stale. -/
def staleIn (units : List ScanUnit) (groups : List (Sigma fun _ : String => List Nat)) : List Nat :=
  groups.flatMap fun group => staleResults units group.2

theorem foldl_groups (groups : List (Sigma fun _ : String => List Nat)) (kinds : List MarkKind) :
    groups.foldl (fun kinds group => (staleResults units group.2).foldl supersede kinds) kinds =
      (staleIn units groups).foldl supersede kinds := by
  induction groups generalizing kinds with
  | nil => rfl
  | cons group rest ih =>
    rw [List.foldl_cons, ih, staleIn, staleIn, List.flatMap_cons, List.foldl_append]

/-- What the first phase decides about one unit: superseded by a later result of
its path that hashes differently, or kept; never the latest of a path. -/
structure Superseded (idToPath : KeyedMap String String) (units : List ScanUnit)
    (kinds : List MarkKind) : Prop where
  length : kinds.length = units.length
  kind : ∀ (index : Nat) (kind : MarkKind), kinds[index]? = some kind →
    kind = MarkKind.none ∨ kind = MarkKind.supersession
  stale : ∀ (index : Nat) (unit : ScanUnit), units[index]? = some unit → kinds[index]? = some MarkKind.supersession →
    ∃ path later last, resultPath idToPath unit = some path ∧ index < later ∧
      units[later]? = some last ∧ resultPath idToPath last = some path ∧ unit.hash ≠ last.hash
  latest : ∀ (index : Nat) (unit : ScanUnit) (path : String), units[index]? = some unit → resultPath idToPath unit = some path →
    (∀ (later : Nat) (other : ScanUnit), index < later → units[later]? = some other →
      resultPath idToPath other ≠ some path) →
    kinds[index]? = some MarkKind.none

theorem length_foldl_supersede (indices : List Nat) (kinds : List MarkKind) :
    (indices.foldl supersede kinds).length = kinds.length := by
  induction indices generalizing kinds with
  | nil => rfl
  | cons first rest ih => rw [List.foldl_cons, ih, supersede, List.length_set]

/-- A stale index of a path stands before the path's latest. -/
theorem stale_later {path : String} {index : Nat}
    (stale : index ∈ staleResults units (attributed idToPath path units.zipIdx)) :
    ∃ unit later last, units[index]? = some unit ∧ resultPath idToPath unit = some path ∧
      index < later ∧ units[later]? = some last ∧ resultPath idToPath last = some path ∧
      unit.hash ≠ last.hash := by
  obtain ⟨later, latest, earlier, differs⟩ := mem_staleResults stale
  have listed := List.mem_of_getLast? latest
  obtain ⟨unit, memberUnit, own⟩ := mem_attributed.mp (List.mem_of_mem_dropLast earlier)
  obtain ⟨last, memberLast, ownLast⟩ := mem_attributed.mp listed
  have unitAt : units[index]? = some unit := List.mem_zipIdx_iff_getElem?.mp memberUnit
  have lastAt : units[later]? = some last := List.mem_zipIdx_iff_getElem?.mp memberLast
  refine ⟨unit, later, last, unitAt, own, ?_, lastAt, ownLast, ?_⟩
  · have ordered : (attributed idToPath path units.zipIdx).Pairwise (· < ·) :=
      attributed_ordered path units
    rw [← List.dropLast_append_getLast? later latest, List.pairwise_append] at ordered
    exact ordered.2.2 index earlier later (List.mem_singleton.mpr rfl)
  · intro same
    apply differs
    rw [unitAt, lastAt, Option.map_some, Option.map_some, same]

theorem classifySupersession_spec :
    Superseded idToPath units
      (classifySupersession units idToPath (List.replicate units.length .none)).1 := by
  have decided (index : Nat) :
      (classifySupersession units idToPath (List.replicate units.length .none)).1[index]? =
        if index ∈ staleIn units (units.zipIdx.foldl (groupResult idToPath) ∅).entries then
          (List.replicate units.length MarkKind.none)[index]?.map fun _ => .supersession
        else (List.replicate units.length MarkKind.none)[index]? := by
    simp only [classifySupersession]
    rw [foldl_groups, foldl_supersede]
  have staleOf (index : Nat)
      (member : index ∈ staleIn units (units.zipIdx.foldl (groupResult idToPath) ∅).entries) :
      ∃ path, index ∈ staleResults units (attributed idToPath path units.zipIdx) := by
    obtain ⟨⟨path, group⟩, listed, stale⟩ := List.mem_flatMap.mp member
    have found : (units.zipIdx.foldl (groupResult idToPath) ∅).lookup path = some group :=
      AList.mem_lookup_iff.mpr listed
    have same : ((units.zipIdx.foldl (groupResult idToPath) ∅).lookup path).getD [] =
        attributed idToPath path units.zipIdx := lookup_groups units.zipIdx path
    rw [found] at same
    exact ⟨path, same ▸ stale⟩
  constructor
  · simp only [classifySupersession]
    rw [foldl_groups, length_foldl_supersede, List.length_replicate]
  · intro index kind found
    rw [decided] at found
    split at found
    · obtain ⟨_, _, rfl⟩ := Option.map_eq_some_iff.mp found
      exact .inr rfl
    · exact .inl (List.eq_of_mem_replicate (List.mem_of_getElem? found))
  · intro index unit present found
    rw [decided] at found
    split at found
    · rename_i member
      obtain ⟨path, stale⟩ := staleOf index member
      obtain ⟨same, later, last, sameAt, own, before, lastAt, ownLast, differs⟩ := stale_later stale
      cases present.symm.trans sameAt
      exact ⟨path, later, last, own, before, lastAt, ownLast, differs⟩
    · cases List.eq_of_mem_replicate (List.mem_of_getElem? found)
  · intro index unit path present own latest
    rw [decided, if_neg]
    · obtain ⟨within, _⟩ := List.getElem?_eq_some_iff.mp present
      exact List.getElem?_replicate_of_lt within
    · intro member
      obtain ⟨other, stale⟩ := staleOf index member
      obtain ⟨same, later, last, sameAt, ownSame, before, lastAt, ownLast, differs⟩ :=
        stale_later stale
      cases present.symm.trans sameAt
      cases own.symm.trans ownSame
      exact latest later last before lastAt ownLast

end Superseding

section Deduplicating
variable {buckets : KeyedMap UInt64 (List ScanUnit)} {rows : List (ScanUnit × MarkKind)}

/-- An equal payload survives: in a bucket from before, or among the rows up to
an index. -/
def CoveredBy (buckets : KeyedMap UInt64 (List ScanUnit)) (rows : List (ScanUnit × MarkKind))
    (kinds : List MarkKind) (index : Nat) (serialized : List UInt8) : Prop :=
  (∃ hash first, first ∈ (buckets.lookup hash).getD [] ∧ first.serialized = serialized) ∨
  ∃ (earlier : Nat) (first : ScanUnit), earlier < index ∧
    rows[earlier]? = some (first, MarkKind.none) ∧ kinds[earlier]? = some MarkKind.none ∧
    first.serialized = serialized

theorem CoveredBy.cons {kinds : List MarkKind} {index : Nat} {serialized : List UInt8}
    (covered : CoveredBy buckets rows kinds index serialized) (row : ScanUnit × MarkKind)
    (kind : MarkKind) : CoveredBy buckets (row :: rows) (kind :: kinds) (index + 1) serialized := by
  rcases covered with bucketed | ⟨earlier, first, before, present, kept, same⟩
  · exact .inl bucketed
  · exact .inr ⟨earlier + 1, first, Nat.succ_lt_succ before, present, kept, same⟩

/-- The second phase: marks stay, and a unit left is kept, or dropped for an
equal payload that survives before it. -/
structure Deduped (buckets : KeyedMap UInt64 (List ScanUnit)) (rows : List (ScanUnit × MarkKind))
    (kinds : List MarkKind) : Prop where
  length : kinds.length = rows.length
  marked : ∀ (index : Nat) (unit : ScanUnit) (kind : MarkKind), rows[index]? = some (unit, kind) →
    kind ≠ MarkKind.none → kinds[index]? = some kind
  left : ∀ (index : Nat) (unit : ScanUnit), rows[index]? = some (unit, MarkKind.none) →
    kinds[index]? = some MarkKind.none ∨
      (kinds[index]? = some MarkKind.dedup ∧ CoveredBy buckets rows kinds index unit.serialized)

theorem Deduped.cons {kinds : List MarkKind} (deduped : Deduped buckets rows kinds)
    {row : ScanUnit × MarkKind} {kind : MarkKind}
    (marked : row.2 ≠ MarkKind.none → kind = row.2)
    (left : row.2 = MarkKind.none → kind = MarkKind.none ∨
      (kind = MarkKind.dedup ∧ CoveredBy buckets [] [] 0 row.1.serialized)) :
    Deduped buckets (row :: rows) (kind :: kinds) := by
  constructor
  · rw [List.length_cons, List.length_cons, deduped.length]
  · intro index unit own present stays
    cases index with
    | zero =>
      cases Option.some.inj present
      exact congrArg some (marked stays)
    | succ index => exact deduped.marked index unit own present stays
  · intro index unit present
    cases index with
    | zero =>
      cases Option.some.inj present
      rcases left rfl with kept | ⟨dropped, bucketed | ⟨earlier, _, before, _⟩⟩
      · exact .inl (congrArg some kept)
      · exact .inr ⟨congrArg some dropped, .inl bucketed⟩
      · exact absurd before (Nat.not_lt_zero _)
    | succ index =>
      rcases deduped.left index unit present with kept | ⟨dropped, covered⟩
      · exact .inl kept
      · exact .inr ⟨dropped, covered.cons row kind⟩

/-- A survivor put in its bucket stands as a survivor among the rows. -/
theorem Deduped.keep {kinds : List MarkKind} {unit : ScanUnit}
    (deduped : Deduped (buckets.insert unit.hash ((buckets.lookup unit.hash).getD [] ++ [unit]))
      rows kinds) : Deduped buckets ((unit, .none) :: rows) (.none :: kinds) := by
  constructor
  · rw [List.length_cons, List.length_cons, deduped.length]
  · intro index other own present stays
    cases index with
    | zero =>
      cases Option.some.inj present
      exact absurd rfl stays
    | succ index => exact deduped.marked index other own present stays
  · intro index other present
    cases index with
    | zero => exact .inl rfl
    | succ index =>
      rcases deduped.left index other present with kept | ⟨dropped, covered⟩
      · exact .inl kept
      · refine .inr ⟨dropped, ?_⟩
        rcases covered with ⟨hash, first, member, same⟩ | among
        · by_cases own : hash = unit.hash
          · subst own
            rw [AList.lookup_insert, Option.getD_some, List.mem_append, List.mem_singleton] at member
            rcases member with before | rfl
            · exact .inl ⟨unit.hash, first, before, same⟩
            · exact .inr ⟨0, first, Nat.succ_pos _, rfl, rfl, same⟩
          · rw [AList.lookup_insert_ne own] at member
            exact .inl ⟨hash, first, member, same⟩
        · exact (CoveredBy.cons (.inr among) _ _)

theorem dedupFrom_spec (rows : List (ScanUnit × MarkKind))
    (buckets : KeyedMap UInt64 (List ScanUnit)) : Deduped buckets rows (dedupFrom buckets rows) := by
  induction rows generalizing buckets with
  | nil =>
    constructor
    · rfl
    · intro index unit kind present
      simp at present
    · intro index unit present
      simp at present
  | cons row rest ih =>
    obtain ⟨unit, kind⟩ := row
    rw [dedupFrom]
    split
    · rename_i marked
      exact (ih buckets).cons (fun _ => rfl) (fun unmarked => absurd unmarked marked)
    · rename_i unmarked
      have none : kind = .none := not_not.mp unmarked
      subst none
      dsimp only
      split
      · rename_i copied
        obtain ⟨first, member, same⟩ := List.any_eq_true.mp copied
        exact (ih buckets).cons (fun marked => absurd rfl marked)
          (fun _ => .inr ⟨rfl, .inl ⟨unit.hash, first, member, of_decide_eq_true same⟩⟩)
      · exact (ih _).keep

end Deduplicating

section Applying
variable {messages : List Message} {marks : List ElisionMark} {start scanEnd : Nat}

theorem partAt_of_message {message : Message} {parts : List ContentPart} {position : Nat × Nat}
    (found : messages[position.1]? = some message) (content : message.content = .parts parts) :
    partAt messages position = parts[position.2]? := by
  simp only [partAt, found, Option.map_some, content]

/-- A mark that addresses no part leaves the messages. -/
theorem applyMark_unaddressed {mark : ElisionMark} (nowhere : partAt messages mark.position = none) :
    applyMark messages mark = messages := by
  rw [applyMark]
  cases found : messages[mark.messageIndex]? with
  | none => rfl
  | some message =>
    cases content : message.content with
    | parts parts =>
      simp only [partAt, ElisionMark.position, found, Option.map_some, content] at nowhere
      simp only [content, nowhere]
    | text body => simp only [content]
    | null => simp only [content]

theorem applyMark_addressed {mark : ElisionMark} {part : ContentPart}
    (addressed : partAt messages mark.position = some part) :
    ∃ message parts, messages[mark.messageIndex]? = some message ∧
      message.content = .parts parts ∧ parts[mark.partIndex]? = some part ∧
      applyMark messages mark = messages.set mark.messageIndex { message with
        content := .parts (parts.set mark.partIndex (substitutePlaceholder part mark.replacement)) } := by
  simp only [partAt, ElisionMark.position] at addressed
  split at addressed
  · rename_i parts content
    obtain ⟨message, found, content⟩ := Option.map_eq_some_iff.mp content
    refine ⟨message, parts, found, content, addressed, ?_⟩
    simp only [applyMark, found, content, addressed]
  · cases addressed

theorem partAt_applyMark (messages : List Message) (mark : ElisionMark) (position : Nat × Nat) :
    partAt (applyMark messages mark) position =
      if position = mark.position then
        (partAt messages position).map fun part => substitutePlaceholder part mark.replacement
      else partAt messages position := by
  cases addressed : partAt messages mark.position with
  | none =>
    rw [applyMark_unaddressed addressed]
    split
    · rename_i here
      rw [here, addressed, Option.map_none]
    · rfl
  | some part =>
    obtain ⟨message, parts, found, content, present, applied⟩ := applyMark_addressed addressed
    obtain ⟨within, -⟩ := List.getElem?_eq_some_iff.mp found
    obtain ⟨inside, -⟩ := List.getElem?_eq_some_iff.mp present
    obtain ⟨messageIndex, partIndex⟩ := position
    rw [applied]
    by_cases sameMessage : messageIndex = mark.messageIndex
    · subst sameMessage
      have before := @partAt_of_message _ message parts (mark.messageIndex, partIndex) found content
      have after (elided : List ContentPart) :
          partAt (messages.set mark.messageIndex { message with content := .parts elided })
            (mark.messageIndex, partIndex) = elided[partIndex]? :=
        @partAt_of_message _ { message with content := .parts elided } elided
          (mark.messageIndex, partIndex) (List.getElem?_set_self within) rfl
      rw [before, after]
      by_cases samePart : partIndex = mark.partIndex
      · subst samePart
        rw [if_pos (show (mark.messageIndex, mark.partIndex) = mark.position from rfl)]
        show _ = (parts[mark.partIndex]?).map _
        rw [present, List.getElem?_set_self inside]
        rfl
      · have elsewhere : (mark.messageIndex, partIndex) ≠ mark.position :=
          fun here => samePart (Prod.mk.inj here).2
        rw [if_neg elsewhere]
        exact List.getElem?_set_ne (Ne.symm samePart)
    · have elsewhere : (messageIndex, partIndex) ≠ mark.position :=
        fun here => sameMessage (Prod.mk.inj here).1
      rw [if_neg elsewhere]
      simp [partAt, List.getElem?_set_ne (Ne.symm sameMessage)]

theorem substitutePlaceholder_twice (part : ContentPart) :
    substitutePlaceholder (substitutePlaceholder part none) none =
      substitutePlaceholder part none := by
  cases part with
  | known known => cases known <;> rfl
  | other typeTag control extras => rfl

theorem nearLosslessUnit_substitute (part : ContentPart) :
    nearLosslessUnit (substitutePlaceholder part none) = none := by
  cases part with
  | known known =>
    cases known <;> simp [substitutePlaceholder, nearLosslessUnit, isPlaceholder]
  | other typeTag control extras => rfl

theorem partAt_foldl (plain : ∀ mark ∈ marks, mark.replacement = none) (messages : List Message)
    (position : Nat × Nat) :
    partAt (marks.foldl applyMark messages) position =
      if position ∈ marks.map ElisionMark.position then
        (partAt messages position).map fun part => substitutePlaceholder part none
      else partAt messages position := by
  induction marks generalizing messages with
  | nil => simp
  | cons mark rest ih =>
    rw [List.foldl_cons, ih fun other member => plain other (List.mem_cons_of_mem _ member),
      partAt_applyMark, plain mark List.mem_cons_self]
    by_cases here : position = mark.position
    · have same : (fun part => substitutePlaceholder (substitutePlaceholder part none) none) =
          fun part => substitutePlaceholder part none := funext substitutePlaceholder_twice
      simp [here, Function.comp_def, same]
    · simp [here]

/-- Applying plain marks elides the units they address and no others. -/
theorem stands_foldl (plain : ∀ mark ∈ marks, mark.replacement = none) {unit : ScanUnit}
    (stands : Stands messages start scanEnd unit) :
    Stands (marks.foldl applyMark messages) start scanEnd unit ↔
      unit.position ∉ marks.map ElisionMark.position := by
  obtain ⟨from_, below, part, target, present, taken, built⟩ := stands
  by_cases marked : unit.position ∈ marks.map ElisionMark.position
  · constructor
    · rintro ⟨-, -, left, _, found, held, -⟩
      rw [partAt_foldl plain, if_pos marked, present, Option.map_some] at found
      cases found
      rw [nearLosslessUnit_substitute] at held
      cases held
    · intro unmarked
      exact absurd marked unmarked
  · constructor
    · intro _
      exact marked
    · intro _
      refine ⟨from_, below, part, target, ?_, taken, built⟩
      rw [partAt_foldl plain, if_neg marked, present]

end Applying
/-- The path that the scan of a window attributes a result to. -/
def attributedPath (request : ChatRequest) (start scanEnd : Nat) (unit : ScanUnit) : Option String :=
  resultPath (collectScanUnits request start scanEnd).2 unit

section Collected
variable (request : ChatRequest) (start scanEnd : Nat)

/-- The kinds that both phases give to the units of a window. -/
def windowKinds : List MarkKind :=
  let (units, idToPath) := collectScanUnits request start scanEnd
  classifyDedupSurvivors units
    (classifySupersession units idToPath (List.replicate units.length .none)).1

theorem collectScanUnits_clamped :
    collectScanUnits request start (min scanEnd request.messages.length) =
      collectScanUnits request start scanEnd := by
  simp only [collectScanUnits, ← List.take_eq_take_min]

theorem collectNearLosslessMarks_eq :
    ((collectNearLosslessMarks request start scanEnd).marks,
      (collectNearLosslessMarks request start scanEnd).dedupTokens,
      (collectNearLosslessMarks request start scanEnd).supersessionTokens) =
    emitSortedMarks (collectScanUnits request start scanEnd).1
      (windowKinds request start scanEnd) := by
  rw [collectNearLosslessMarks]
  by_cases empty : min scanEnd request.messages.length ≤ start
  · have none : (collectScanUnits request start scanEnd).1 = [] := by
      rw [← collectScanUnits_clamped]
      simp only [collectScanUnits]
      rw [List.drop_eq_nil_of_le]
      · rfl
      · rw [List.length_take]
        omega
    rw [if_pos empty, none]
    rfl
  · rw [if_neg empty]
    simp only [collectScanUnits_clamped]
    rfl

end Collected

section Window
variable {request : ChatRequest} {start scanEnd : Nat}

theorem Precedes.irrefl (position : Nat × Nat) : ¬ Precedes position position := by
  rintro (earlier | ⟨-, earlier⟩)
  · exact Nat.lt_irrefl _ earlier
  · exact Nat.lt_irrefl _ earlier

theorem precedes_of_lt {index later : Nat} {unit other : ScanUnit}
    (present : (collectScanUnits request start scanEnd).1[index]? = some unit)
    (presentLater : (collectScanUnits request start scanEnd).1[later]? = some other)
    (before : index < later) : Precedes unit.position other.position := by
  obtain ⟨within, rfl⟩ := List.getElem?_eq_some_iff.mp present
  obtain ⟨withinLater, rfl⟩ := List.getElem?_eq_some_iff.mp presentLater
  exact List.pairwise_iff_getElem.mp collectScanUnits_ordered index later within withinLater before

theorem index_of_position {index later : Nat} {unit other : ScanUnit}
    (present : (collectScanUnits request start scanEnd).1[index]? = some unit)
    (presentLater : (collectScanUnits request start scanEnd).1[later]? = some other)
    (same : unit.position = other.position) : index = later := by
  rcases Nat.lt_trichotomy index later with before | equal | after
  · exact absurd (same ▸ precedes_of_lt present presentLater before) (Precedes.irrefl _)
  · exact equal
  · exact absurd (same ▸ precedes_of_lt presentLater present after) (Precedes.irrefl _)

theorem windowKinds_spec :
    ∃ superseded, Superseded (collectScanUnits request start scanEnd).2
        (collectScanUnits request start scanEnd).1 superseded ∧
      Deduped ∅ ((collectScanUnits request start scanEnd).1.zip superseded)
        (windowKinds request start scanEnd) :=
  ⟨_, classifySupersession_spec, dedupFrom_spec _ _⟩

/-- The three ways a unit of the window ends up. -/
inductive Fate (request : ChatRequest) (start scanEnd index : Nat) (unit : ScanUnit) : Prop where
  | kept (kind : (windowKinds request start scanEnd)[index]? = some MarkKind.none)
  | copied (kind : (windowKinds request start scanEnd)[index]? = some MarkKind.dedup)
      (earlier : Nat) (first : ScanUnit) (before : earlier < index)
      (present : (collectScanUnits request start scanEnd).1[earlier]? = some first)
      (survives : (windowKinds request start scanEnd)[earlier]? = some MarkKind.none)
      (same : first.serialized = unit.serialized)
  | stale (kind : (windowKinds request start scanEnd)[index]? = some MarkKind.supersession)
      (path : String) (later : Nat) (last : ScanUnit) (after : index < later)
      (own : attributedPath request start scanEnd unit = some path)
      (present : (collectScanUnits request start scanEnd).1[later]? = some last)
      (ownLast : attributedPath request start scanEnd last = some path)
      (differs : last.serialized ≠ unit.serialized)

theorem fate {index : Nat} {unit : ScanUnit}
    (present : (collectScanUnits request start scanEnd).1[index]? = some unit) :
    Fate request start scanEnd index unit := by
  obtain ⟨superseded, first, second⟩ := @windowKinds_spec request start scanEnd
  obtain ⟨within, _⟩ := List.getElem?_eq_some_iff.mp present
  obtain ⟨kind, decided⟩ : ∃ kind, superseded[index]? = some kind :=
    ⟨_, List.getElem?_eq_getElem (first.length.symm ▸ within)⟩
  have row : ((collectScanUnits request start scanEnd).1.zip superseded)[index]? =
      some (unit, kind) :=
    List.getElem?_zip_eq_some.mpr ⟨present, decided⟩
  rcases first.kind index kind decided with rfl | rfl
  · rcases second.left index unit row with kept | ⟨dropped, bucketed | among⟩
    · exact .kept kept
    · obtain ⟨hash, other, member, -⟩ := bucketed
      cases member
    · obtain ⟨earlier, other, before, survivor, kept, same⟩ := among
      exact .copied dropped earlier other before (List.getElem?_zip_eq_some.mp survivor).1 kept same
  · obtain ⟨path, later, last, own, after, presentLast, ownLast, differs⟩ :=
      first.stale index unit present decided
    apply Fate.stale (second.marked index unit _ row (by decide)) path later last after own
      presentLast ownLast
    intro same
    apply differs
    rw [unit.hashed, last.hashed, same]

/-- The latest result of a path is never superseded. -/
theorem fate_latest {index : Nat} {unit : ScanUnit} {path : String}
    (present : (collectScanUnits request start scanEnd).1[index]? = some unit)
    (own : attributedPath request start scanEnd unit = some path)
    (latest : ∀ later other, index < later →
      (collectScanUnits request start scanEnd).1[later]? = some other →
      attributedPath request start scanEnd other ≠ some path) :
    (windowKinds request start scanEnd)[index]? ≠ some MarkKind.supersession := by
  intro stale
  cases fate present with
  | kept kind => cases kind.symm.trans stale
  | copied kind => cases kind.symm.trans stale
  | stale kind other later last after ownUnit presentLast ownLast differs =>
    cases own.symm.trans ownUnit
    exact latest later last after presentLast ownLast

/-- The marks come from exactly the units that are not kept. -/
theorem mem_marks {mark : ElisionMark} :
    mark ∈ (collectNearLosslessMarks request start scanEnd).marks ↔
      ∃ (index : Nat) (unit : ScanUnit) (kind : MarkKind),
        (collectScanUnits request start scanEnd).1[index]? = some unit ∧
        (windowKinds request start scanEnd)[index]? = some kind ∧ kind ≠ .none ∧
        nearLosslessMark unit = mark := by
  have marks := congrArg Prod.fst (collectNearLosslessMarks_eq request start scanEnd)
  dsimp only at marks
  rw [marks, emitSortedMarks]
  simp only [List.mem_map, List.mem_filter, Prod.exists, decide_eq_true_eq]
  constructor
  · rintro ⟨unit, kind, ⟨listed, marked⟩, built⟩
    obtain ⟨index, row⟩ := List.mem_iff_getElem?.mp listed
    obtain ⟨present, decided⟩ := List.getElem?_zip_eq_some.mp row
    exact ⟨index, unit, kind, present, decided, marked, built⟩
  · rintro ⟨index, unit, kind, present, decided, marked, built⟩
    have row : ((collectScanUnits request start scanEnd).1.zip
        (windowKinds request start scanEnd))[index]? = some (unit, kind) :=
      List.getElem?_zip_eq_some.mpr ⟨present, decided⟩
    exact ⟨unit, kind, ⟨List.mem_of_getElem? row, marked⟩, built⟩

/-- Where a unit stands once the marks are applied. -/
theorem stands_applied {index : Nat} {unit : ScanUnit}
    (present : (collectScanUnits request start scanEnd).1[index]? = some unit) :
    Stands ((collectNearLosslessMarks request start scanEnd).marks.foldl applyMark request.messages)
        start scanEnd unit ↔
      (windowKinds request start scanEnd)[index]? = some MarkKind.none := by
  have plain (mark : ElisionMark)
      (member : mark ∈ (collectNearLosslessMarks request start scanEnd).marks) :
      mark.replacement = none := by
    obtain ⟨_, _, _, _, _, _, rfl⟩ := mem_marks.mp member
    rfl
  rw [stands_foldl plain (mem_collectScanUnits.mp (List.mem_of_getElem? present))]
  constructor
  · intro unmarked
    have marked (kind : MarkKind) (decided : (windowKinds request start scanEnd)[index]? = some kind)
        (chosen : kind ≠ .none) : unit.position ∈
          (collectNearLosslessMarks request start scanEnd).marks.map ElisionMark.position :=
      List.mem_map.mpr ⟨nearLosslessMark unit,
        mem_marks.mpr ⟨index, unit, kind, present, decided, chosen, rfl⟩, rfl⟩
    cases fate present with
    | kept kind => exact kind
    | copied kind => exact absurd (marked _ kind (by decide)) unmarked
    | stale kind => exact absurd (marked _ kind (by decide)) unmarked
  · intro kept marked
    obtain ⟨mark, member, same⟩ := List.mem_map.mp marked
    obtain ⟨later, other, kind, presentOther, decided, chosen, rfl⟩ := mem_marks.mp member
    obtain rfl := index_of_position present presentOther same.symm
    exact chosen (Option.some.inj (decided.symm.trans kept))

theorem marks_ordered : (collectNearLosslessMarks request start scanEnd).marks.Pairwise
    fun first second => Precedes first.position second.position := by
  have marks := congrArg Prod.fst (collectNearLosslessMarks_eq request start scanEnd)
  dsimp only at marks
  rw [marks, emitSortedMarks]
  have whole : (collectScanUnits request start scanEnd).1.length ≤
      (windowKinds request start scanEnd).length := by
    obtain ⟨superseded, first, second⟩ := @windowKinds_spec request start scanEnd
    rw [second.length, List.length_zip, first.length, Nat.min_self]
  have units := @collectScanUnits_ordered request start scanEnd
  rw [← List.map_fst_zip whole] at units
  exact List.pairwise_map.mpr ((List.pairwise_map.mp units).filter _)

theorem saturatingTokens_eq {units : List ScanUnit}
    (fits : (units.map ScanUnit.tokens).sum ≤ u64Max) :
    saturatingTokens units = (units.map ScanUnit.tokens).sum := by
  have run (total : Nat) (fits : total + (units.map ScanUnit.tokens).sum ≤ u64Max) :
      units.foldl (fun total unit => min (total + unit.tokens) u64Max) total =
        total + (units.map ScanUnit.tokens).sum := by
    induction units generalizing total with
    | nil => simp
    | cons unit rest ih =>
      simp only [List.map_cons, List.sum_cons] at fits ⊢
      rw [List.foldl_cons, Nat.min_eq_left (by omega), ih (by omega) _ (by omega)]
      omega
  rw [saturatingTokens, run 0 (by omega), Nat.zero_add]

/-- The tokens of the two kinds are those of all marks. -/
theorem sum_unitsOf (rows : List (ScanUnit × MarkKind))  :
    ((unitsOf .dedup rows).map ScanUnit.tokens).sum +
        ((unitsOf .supersession rows).map ScanUnit.tokens).sum =
      (((rows.filter fun row => row.2 ≠ .none).map fun row => nearLosslessMark row.1).map
        ElisionMark.originalTokens).sum := by
  induction rows with
  | nil => rfl
  | cons row rest ih =>
    obtain ⟨unit, kind⟩ := row
    cases kind with
    | none => simpa [unitsOf] using ih
    | supersession =>
      show ((unitsOf .dedup rest).map ScanUnit.tokens).sum +
          (unit.tokens + ((unitsOf .supersession rest).map ScanUnit.tokens).sum) =
        unit.tokens + (((rest.filter fun row => row.2 ≠ .none).map
          fun row => nearLosslessMark row.1).map ElisionMark.originalTokens).sum
      omega
    | dedup =>
      show unit.tokens + ((unitsOf .dedup rest).map ScanUnit.tokens).sum +
          ((unitsOf .supersession rest).map ScanUnit.tokens).sum =
        unit.tokens + (((rest.filter fun row => row.2 ≠ .none).map
          fun row => nearLosslessMark row.1).map ElisionMark.originalTokens).sum
      omega

/-- The two counters are the tokens of the marks, which the scan holds at once. -/
theorem tokens_of_marks
    (fits : ((collectNearLosslessMarks request start scanEnd).marks.map
      ElisionMark.originalTokens).sum ≤ u64Max) :
    (collectNearLosslessMarks request start scanEnd).dedupTokens +
        (collectNearLosslessMarks request start scanEnd).supersessionTokens =
      ((collectNearLosslessMarks request start scanEnd).marks.map
        ElisionMark.originalTokens).sum := by
  have emitted := collectNearLosslessMarks_eq request start scanEnd
  have marks := congrArg Prod.fst emitted
  have dedup := congrArg (fun emitted => emitted.2.1) emitted
  have supersession := congrArg (fun emitted => emitted.2.2) emitted
  dsimp only [emitSortedMarks] at marks dedup supersession
  have total := sum_unitsOf ((collectScanUnits request start scanEnd).1.zip
    (windowKinds request start scanEnd))
  rw [← marks] at total
  rw [dedup, supersession, saturatingTokens_eq (by omega), saturatingTokens_eq (by omega), total]

/-- Applying the near-lossless marks of any window elides a unit only for an
equal payload that stays before it, or as a result whose path has a later result
with another payload; the payload of each path's latest result stays; and the
marks are the units elided, in order, with their tokens. -/
theorem near_lossless_marks (request : ChatRequest) (start scanEnd : Nat) :
    let result := collectNearLosslessMarks request start scanEnd
    let before := Stands request.messages start scanEnd
    let after := Stands (result.marks.foldl applyMark request.messages) start scanEnd
    let path := attributedPath request start scanEnd
    (∀ unit, before unit → ¬ after unit →
      (∃ kept, before kept ∧ after kept ∧ Precedes kept.position unit.position ∧
        kept.serialized = unit.serialized) ∨
      (∃ own later, path unit = some own ∧ before later ∧ path later = some own ∧
        Precedes unit.position later.position ∧ later.serialized ≠ unit.serialized)) ∧
    (∀ own latest, before latest → path latest = some own →
      (∀ other, before other → path other = some own →
        ¬ Precedes latest.position other.position) →
      ∃ kept, before kept ∧ after kept ∧ kept.serialized = latest.serialized) ∧
    (∀ mark, mark ∈ result.marks ↔
      ∃ unit, before unit ∧ ¬ after unit ∧ mark = nearLosslessMark unit) ∧
    result.marks.Pairwise (fun first second => Precedes first.position second.position) ∧
    ((result.marks.map ElisionMark.originalTokens).sum ≤ u64Max →
      result.dedupTokens + result.supersessionTokens =
        (result.marks.map ElisionMark.originalTokens).sum) := by
  intro result before after path
  refine ⟨?_, ?_, ?_, marks_ordered, tokens_of_marks⟩
  · intro unit stands elided
    obtain ⟨index, present⟩ := List.mem_iff_getElem?.mp (mem_collectScanUnits.mpr stands)
    cases fate present with
    | kept kind => exact absurd ((stands_applied present).mpr kind) elided
    | copied kind earlier first early presentFirst survives same =>
      left
      exact ⟨first, mem_collectScanUnits.mp (List.mem_of_getElem? presentFirst),
        (stands_applied presentFirst).mpr survives, precedes_of_lt presentFirst present early, same⟩
    | stale kind own later last late ownUnit presentLast ownLast differs =>
      right
      exact ⟨own, last, ownUnit, mem_collectScanUnits.mp (List.mem_of_getElem? presentLast), ownLast,
        precedes_of_lt present presentLast late, differs⟩
  · intro own latest stands ownLatest last
    obtain ⟨index, present⟩ := List.mem_iff_getElem?.mp (mem_collectScanUnits.mpr stands)
    have unsuperseded := fate_latest present ownLatest fun later other late presentOther ownOther =>
      last other (mem_collectScanUnits.mp (List.mem_of_getElem? presentOther)) ownOther
        (precedes_of_lt present presentOther late)
    cases fate present with
    | kept kind => exact ⟨latest, stands, (stands_applied present).mpr kind, rfl⟩
    | copied kind earlier first early presentFirst survives same =>
      exact ⟨first, mem_collectScanUnits.mp (List.mem_of_getElem? presentFirst),
        (stands_applied presentFirst).mpr survives, same⟩
    | stale kind => exact absurd kind unsuperseded
  · intro mark
    rw [mem_marks]
    constructor
    · rintro ⟨index, unit, kind, present, decided, marked, rfl⟩
      refine ⟨unit, mem_collectScanUnits.mp (List.mem_of_getElem? present), ?_, rfl⟩
      intro stays
      have kept := (stands_applied present).mp stays
      exact marked (Option.some.inj (decided.symm.trans kept))
    · rintro ⟨unit, stands, elided, rfl⟩
      obtain ⟨index, present⟩ := List.mem_iff_getElem?.mp (mem_collectScanUnits.mpr stands)
      cases fate present with
      | kept kind => exact absurd ((stands_applied present).mpr kind) elided
      | copied kind => exact ⟨index, unit, _, present, kind, by decide, rfl⟩
      | stale kind => exact ⟨index, unit, _, present, kind, by decide, rfl⟩

/-- A file read twice with one answer, and once more with another. -/
def rereadConversation : ChatRequest :=
  let call (id : String) : Message :=
    { role := .assistant, content := .parts [.known
        (.toolUse id "read" (.object [("file_path", .string "a")]) none)] }
  let answer (id body : String) : Message :=
    { role := .user, content := .parts [.known (.toolResult id (.string body) none none)] }
  { model := "m",
    messages := [call "1", answer "1" "old", call "2", answer "2" "new", call "3", answer "3" "new"] }

/-- The two later calls and the last answer are copies; the first answer is
stale. -/
theorem near_lossless_marks_reread :
    (collectNearLosslessMarks rereadConversation 0 6).marks.map ElisionMark.position =
        [(1, 0), (2, 0), (4, 0), (5, 0)] ∧
      (collectNearLosslessMarks rereadConversation 0 6).dedupTokens +
        (collectNearLosslessMarks rereadConversation 0 6).supersessionTokens =
      ((collectNearLosslessMarks rereadConversation 0 6).marks.map ElisionMark.originalTokens).sum := by
  have spec := near_lossless_marks rereadConversation 0 6
  exact ⟨by decide +kernel, spec.2.2.2.2 (by decide +kernel)⟩

end Window
end Routectl.Trim
