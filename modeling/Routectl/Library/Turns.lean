import Mathlib.Data.List.Basic

/-! Items gathered into turns, each told again in one fixed order: what leads, the head, what
trails. Which lists that order leaves as they are. -/
namespace Library
universe u v
variable {Item : Type u} {Other : Type v}

/-- Where in its turn an item is told: a head opens a turn, and what stands alone is in
none. -/
inductive Place where
  | lead
  | head
  | tail
  | alone
deriving Repr, DecidableEq

structure Turn (Item : Type u) where
  lead : List Item := []
  head : List Item := []
  tail : List Item := []

namespace Turn

def told (turn : Turn Item) : List Item := turn.lead ++ turn.head ++ turn.tail

def map (change : Item → Other) (turn : Turn Item) : Turn Other where
  lead := turn.lead.map change
  head := turn.head.map change
  tail := turn.tail.map change

theorem told_map (change : Item → Other) (turn : Turn Item) :
    (turn.map change).told = turn.told.map change := by
  simp [told, map]

end Turn

section Regrouping
variable (place : Item → Place)

/-- What is told of a turn and the items after it. -/
def regroupFrom (turn : Turn Item) : List Item → List Item
  | [] => turn.told
  | item :: rest =>
    match place item with
    | .lead => regroupFrom { turn with lead := turn.lead ++ [item] } rest
    | .head => turn.told ++ regroupFrom { head := [item] } rest
    | .tail => regroupFrom { turn with tail := turn.tail ++ [item] } rest
    | .alone => turn.told ++ item :: regroupFrom {} rest

def regroup (items : List Item) : List Item := regroupFrom place {} items

/-- No lead after the head or the tail of its turn; `late` is whether the turn has either. -/
def OrderedFrom (late : Bool) : List Item → Prop
  | [] => True
  | item :: rest =>
    match place item with
    | .lead => late = false ∧ OrderedFrom false rest
    | .head => OrderedFrom true rest
    | .tail => OrderedFrom true rest
    | .alone => OrderedFrom false rest

def Ordered (items : List Item) : Prop := OrderedFrom place false items

/-- A turn whose items are where they belong. -/
structure Turn.Placed (turn : Turn Item) : Prop where
  head : ∀ item ∈ turn.head, place item = .head
  tail : ∀ item ∈ turn.tail, place item = .tail

def Turn.late (turn : Turn Item) : Bool := !(turn.head.isEmpty && turn.tail.isEmpty)

end Regrouping

section Order
variable {place : Item → Place} {turn : Turn Item} {item : Item} {items rest : List Item}

theorem Turn.told_lead (early : turn.late = false) :
    Turn.told { turn with lead := turn.lead ++ [item] } = turn.told ++ [item] := by
  have empty : turn.head = [] ∧ turn.tail = [] := by simpa [Turn.late] using early
  simp [Turn.told, empty.1, empty.2]

theorem Turn.told_tail :
    Turn.told { turn with tail := turn.tail ++ [item] } = turn.told ++ [item] := by
  simp [Turn.told]

theorem Turn.late_tail : Turn.late { turn with tail := turn.tail ++ [item] } = true := by
  simp [Turn.late]

/-- What leads a turn is told first, whatever comes after. -/
theorem regroupFrom_lead (turn : Turn Item) (items : List Item) :
    ∃ more, regroupFrom place turn items = turn.lead ++ more := by
  induction items generalizing turn with
  | nil => exact ⟨turn.head ++ turn.tail, List.append_assoc ..⟩
  | cons item rest ih =>
    unfold regroupFrom
    split
    case h_1 =>
      obtain ⟨more, told⟩ := ih { turn with lead := turn.lead ++ [item] }
      exact ⟨item :: more, by rw [told]; simp⟩
    case h_2 => exact ⟨_, by rw [Turn.told, List.append_assoc, List.append_assoc]⟩
    case h_3 => exact ih { turn with tail := turn.tail ++ [item] }
    case h_4 => exact ⟨_, by rw [Turn.told, List.append_assoc, List.append_assoc]⟩

/-- A lead that comes late is told out of its place. -/
theorem regroupFrom_late (placed : turn.Placed place) (late : turn.late = true)
    (leads : place item = .lead) :
    regroupFrom place { turn with lead := turn.lead ++ [item] } rest ≠
      turn.told ++ item :: rest := by
  intro same
  obtain ⟨more, told⟩ := @regroupFrom_lead Item place
    { turn with lead := turn.lead ++ [item] } rest
  rw [told] at same
  have tails : item :: more = turn.head ++ turn.tail ++ item :: rest := by
    simpa [Turn.told] using same
  cases heads : turn.head with
  | cons first others =>
    rw [heads] at tails
    obtain rfl := (List.cons.inj tails).1
    have isHead := placed.head item (heads ▸ List.mem_cons_self)
    rw [leads] at isHead
    cases isHead
  | nil =>
    cases trails : turn.tail with
    | cons first others =>
      rw [heads, trails] at tails
      obtain rfl := (List.cons.inj tails).1
      have isTail := placed.tail item (trails ▸ List.mem_cons_self)
      rw [leads] at isTail
      cases isTail
    | nil => simp [Turn.late, heads, trails] at late

theorem regroupFrom_eq_iff (placed : turn.Placed place) :
    regroupFrom place turn items = turn.told ++ items ↔ OrderedFrom place turn.late items := by
  induction items generalizing turn with
  | nil => simp [regroupFrom, OrderedFrom]
  | cons item rest ih =>
    unfold regroupFrom OrderedFrom
    cases placedAt : place item with
    | lead =>
      dsimp only
      cases late : turn.late with
      | true =>
        constructor
        · intro same
          exact absurd same (regroupFrom_late placed late placedAt)
        · rintro ⟨early, _⟩
          cases early
      | false =>
        have step := @ih { turn with lead := turn.lead ++ [item] } ⟨placed.head, placed.tail⟩
        rw [Turn.told_lead late, List.append_assoc, List.singleton_append] at step
        have stays : Turn.late { turn with lead := turn.lead ++ [item] } = false := late
        rw [step, stays]
        simp
    | head =>
      dsimp only
      have step := @ih { head := [item] } ⟨by simpa using placedAt, by simp⟩
      rw [List.append_cancel_left_eq]
      exact step
    | tail =>
      dsimp only
      have step := @ih { turn with tail := turn.tail ++ [item] }
        ⟨placed.head, by
          intro other member
          rcases List.mem_append.mp member with before | last
          · exact placed.tail other before
          · exact List.mem_singleton.mp last ▸ placedAt⟩
      rw [Turn.told_tail, List.append_assoc, List.singleton_append, Turn.late_tail] at step
      exact step
    | alone =>
      dsimp only
      have step := @ih {} ⟨by simp, by simp⟩
      rw [List.append_cancel_left_eq, List.cons_inj_right]
      exact step

/-- Regrouping leaves a list as it is exactly where no lead comes late in its turn. -/
theorem regroup_eq_iff : regroup place items = items ↔ Ordered place items :=
  regroupFrom_eq_iff ⟨by simp, by simp⟩

theorem length_regroupFrom (turn : Turn Item) (items : List Item) :
    (regroupFrom place turn items).length = turn.told.length + items.length := by
  induction items generalizing turn with
  | nil => rfl
  | cons item rest ih =>
    unfold regroupFrom
    split
    all_goals
      simp [ih, Turn.told]
      try omega

theorem length_regroup : (regroup place items).length = items.length := by
  simp [regroup, length_regroupFrom, Turn.told]

variable {other : Other → Place} {change : Item → Other}

theorem regroupFrom_map (same : ∀ item, other (change item) = place item) (turn : Turn Item)
    (items : List Item) :
    regroupFrom other (turn.map change) (items.map change) =
      (regroupFrom place turn items).map change := by
  induction items generalizing turn with
  | nil => exact turn.told_map change
  | cons item rest ih =>
    simp only [List.map_cons, regroupFrom, same]
    split
    case h_1 =>
      rw [← ih]
      simp [Turn.map]
    case h_2 =>
      rw [List.map_append, ← ih, Turn.told_map]
      rfl
    case h_3 =>
      rw [← ih]
      simp [Turn.map]
    case h_4 =>
      rw [List.map_append, List.map_cons, ← ih, Turn.told_map]
      rfl

theorem regroup_map (same : ∀ item, other (change item) = place item) (items : List Item) :
    regroup other (items.map change) = (regroup place items).map change :=
  regroupFrom_map same {} items

theorem ordered_map (same : ∀ item, other (change item) = place item) (items : List Item) :
    Ordered other (items.map change) ↔ Ordered place items := by
  have fromAny : ∀ late, OrderedFrom other late (items.map change) ↔
      OrderedFrom place late items := by
    induction items with
    | nil => simp [OrderedFrom]
    | cons item rest ih =>
      intro late
      simp only [List.map_cons, OrderedFrom, same]
      split
      all_goals simp [ih]
  exact fromAny false

/-- Items kept or dropped one by one and then regrouped are as they were exactly where each
is kept as it is and none comes late in its turn. -/
theorem regroup_filterMap_eq_iff {keep : Item → Option Item}
    (stays : ∀ item kept, keep item = some kept → place kept = place item) :
    regroup place (items.filterMap keep) = items ↔
      Ordered place items ∧ ∀ item ∈ items, keep item = some item := by
  have kept_of : (∀ item ∈ items, keep item = some item) → items.filterMap keep = items := by
    intro each
    rw [List.filterMap_congr each, List.filterMap_some]
  constructor
  · intro same
    have complete : ∀ item ∈ items, (keep item).isSome := by
      apply List.filterMap_length_eq_length.mp
      rw [← length_regroup, same]
    let kept : Item → Item := fun item => (keep item).getD item
    have keeps : ∀ item, place (kept item) = place item := by
      intro item
      cases found : keep item with
      | none => simp [kept, found]
      | some other => simpa [kept, found] using stays item other found
    have mapped : items.filterMap keep = items.map kept := by
      rw [← List.filterMap_eq_map]
      apply List.filterMap_congr
      intro item member
      obtain ⟨other, found⟩ := Option.isSome_iff_exists.mp (complete item member)
      simp [kept, found]
    have places : regroup (fun spot : Place => spot) (items.map place) = items.map place := by
      rw [@regroup_map Item Place place (fun spot => spot) place (fun _ => rfl)]
      have grouped : regroup place (items.map kept) = items := mapped ▸ same
      have placed := congrArg (List.map place) grouped
      rw [regroup_map keeps, List.map_map] at placed
      have same : place ∘ kept = place := funext keeps
      rwa [same] at placed
    have ordered : Ordered place items :=
      (@ordered_map Item Place place (fun spot => spot) place (fun _ => rfl) items).mp
        (regroup_eq_iff.mp places)
    refine ⟨ordered, ?_⟩
    have unmoved : items.map kept = items.map id := by
      rw [mapped, regroup_eq_iff.mpr ((ordered_map keeps items).mpr ordered)] at same
      rw [same, List.map_id]
    intro item member
    have fixed : kept item = item := List.map_inj_left.mp unmoved item member
    obtain ⟨other, found⟩ := Option.isSome_iff_exists.mp (complete item member)
    simp [kept, found] at fixed
    rw [found, fixed]
  · rintro ⟨ordered, each⟩
    rw [kept_of each]
    exact regroup_eq_iff.mpr ordered

/-- One more at the end or at the front is the same exactly in a list of that one. -/
theorem append_singleton_eq_cons_iff {items : List Item} :
    items ++ [item] = item :: items ↔ ∀ other ∈ items, other = item := by
  induction items with
  | nil => simp
  | cons first rest ih =>
    rw [List.cons_append, List.cons.injEq, List.forall_mem_cons]
    constructor
    · rintro ⟨rfl, same⟩
      exact ⟨rfl, ih.mp same⟩
    · rintro ⟨rfl, each⟩
      exact ⟨rfl, ih.mpr each⟩

end Order
end Library
