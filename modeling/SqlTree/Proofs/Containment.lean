import SqlTree.Node.Walk

/-!
# What a tree contains

A node contains itself and what its children contain (`Node.Contains`). A property holds everywhere
in a tree when it holds of every node that the tree contains (`Node.Everywhere`).
-/

namespace SqlTree.Node

/-- A node contains itself and what its children contain. -/
inductive Contains : Node → Node → Prop where
  | self (n : Node) : Contains n n
  | step {n c m : Node} : c ∈ n.children → Contains c m → Contains n m

theorem contains_of_mem_children {n c : Node} (h : c ∈ n.children) : n.Contains c :=
  .step h (.self c)

theorem Contains.trans {n m k : Node} (h : n.Contains m) (h' : m.Contains k) : n.Contains k := by
  induction h with
  | self => exact h'
  | step child _ ih => exact .step child (ih h')

/-- A property holds of every node that a tree contains. -/
def Everywhere (P : Node → Prop) (n : Node) : Prop := ∀ m, n.Contains m → P m

variable {P : Node → Prop} {n : Node}

/-- A property holds everywhere in a tree when it holds of the root and everywhere in each child. -/
theorem everywhere_iff : n.Everywhere P ↔ P n ∧ ∀ c ∈ n.children, c.Everywhere P := by
  constructor
  · exact fun h => ⟨h n (.self n), fun c child m inside => h m (.step child inside)⟩
  · rintro ⟨root, children⟩ m (_ | ⟨child, inside⟩)
    · exact root
    · exact children _ child m inside

theorem Everywhere.root (h : n.Everywhere P) : P n := (everywhere_iff.mp h).1

theorem Everywhere.child {c : Node} (h : n.Everywhere P) (child : c ∈ n.children) :
    c.Everywhere P :=
  (everywhere_iff.mp h).2 c child

end SqlTree.Node
