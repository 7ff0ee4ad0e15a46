import Routectl.Library.DepthFirst

/-! What a graph of nested lists flattens to, left to right and depth first, and how deep
the nesting goes. -/
namespace Library.Flattening
open Library.DepthFirst
variable {Node Leaf : Type} (next : Node → Option (List Node)) (leaf : Node → Option Leaf)

inductive Flattens : List Node → List Leaf → Prop where
  | nil : Flattens [] []
  | nested {node : Node} {successors rest : List Node} {inner more : List Leaf} :
      next node = some successors → Flattens successors inner → Flattens rest more →
        Flattens (node :: rest) (inner ++ more)
  | leaf {node : Node} {rest : List Node} {found : Leaf} {more : List Leaf} :
      next node = none → leaf node = some found → Flattens rest more →
        Flattens (node :: rest) (found :: more)

/-- The nesting below the nodes takes no more hops than these. -/
def Within : Nat → List Node → Prop
  | 0, nodes => ∀ node ∈ nodes, next node = none
  | hops + 1, nodes =>
    ∀ node ∈ nodes, ∀ successors, next node = some successors → Within hops successors

/-- Every name met below the nodes is nested or has a leaf. -/
def Closed (node : Node) : Prop :=
  ∀ successors, next node = some successors →
    ∀ successor ∈ successors, next successor ≠ none ∨ (leaf successor).isSome = true

variable {next leaf}

theorem flattens_list {nodes : List Node}
    (each : ∀ node ∈ nodes, (∃ successors inner, next node = some successors ∧
      Flattens next leaf successors inner) ∨ (next node = none ∧ (leaf node).isSome = true)) :
    ∃ flat, Flattens next leaf nodes flat := by
  induction nodes with
  | nil => exact ⟨[], .nil⟩
  | cons node rest ih =>
    obtain ⟨more, flattens⟩ := ih fun other held => each other (List.mem_cons_of_mem _ held)
    obtain ⟨successors, inner, found, nested⟩ | ⟨none, isLeaf⟩ := each node List.mem_cons_self
    · exact ⟨inner ++ more, .nested found nested flattens⟩
    · obtain ⟨found, held⟩ := Option.isSome_iff_exists.mp isLeaf
      exact ⟨found :: more, .leaf none held flattens⟩

/-- What lies below a grounded node flattens. -/
theorem Grounded.flattens {node : Node} (grounded : Grounded next node)
    (closed : ∀ node, Closed next leaf node) {successors : List Node}
    (found : next node = some successors) : ∃ flat, Flattens next leaf successors flat := by
  induction grounded generalizing successors with
  | intro node _ ih =>
    apply flattens_list
    intro successor held
    cases below : next successor with
    | none =>
      obtain nested | isLeaf := closed node successors found successor held
      · exact (nested below).elim
      · exact .inr ⟨rfl, isLeaf⟩
    | some further =>
      obtain ⟨inner, flattens⟩ := ih successor ⟨successors, found, held⟩ below
      exact .inl ⟨further, inner, rfl, flattens⟩

theorem Flattens.ne_nil {nodes : List Node} {flat : List Leaf}
    (flattens : Flattens next leaf nodes flat)
    (targeted : ∀ node successors, next node = some successors → successors ≠ [])
    (nonempty : nodes ≠ []) : flat ≠ [] := by
  induction flattens with
  | nil => exact (nonempty rfl).elim
  | nested found _ _ innerIh _ =>
    have inner := innerIh (targeted _ _ found)
    simp [inner]
  | leaf => simp

theorem within_cons {hops : Nat} {node : Node} {rest : List Node} :
    Within next hops (node :: rest) ↔ Within next hops [node] ∧ Within next hops rest := by
  cases hops with
  | zero => simp [Within]
  | succ hops => simp [Within]

theorem within_nil (hops : Nat) : Within next hops [] := by
  cases hops with
  | zero => simp [Within]
  | succ hops => simp [Within]

theorem within_leaf {hops : Nat} {node : Node} (none : next node = none) :
    Within next hops [node] := by
  cases hops with
  | zero => simpa [Within] using none
  | succ hops => simp [Within, none]

end Library.Flattening
