import SqlTree.Node.Size

/-!
# Walks over a tree

Recursion over children, in three forms: the number of nodes of a tree (`Node.count`), its nodes in
preorder with the path to each (`Node.walk`), and equality of trees (`==`).
-/

namespace SqlTree

namespace Node

/-- The number of nodes of a tree, its root included. -/
def count (n : Node) : Nat :=
  1 + n.children.attach.foldr (fun c others => c.1.count + others) 0
termination_by sizeOf n
decreasing_by exact sizeOf_lt c.2

/-- The number of nodes of several trees. -/
def countAll (trees : List Node) : Nat :=
  trees.foldr (fun n others => n.count + others) 0

/-- A tree has its root and the nodes of the trees below it. -/
theorem count_eq (n : Node) : n.count = 1 + countAll n.children := by
  rw [count]
  exact congrArg (1 + ·) (List.foldr_attach (f := fun (c : Node) others => c.count + others))

theorem countAll_cons (n : Node) (rest : List Node) :
    countAll (n :: rest) = n.count + countAll rest :=
  rfl

theorem countAll_append (first second : List Node) :
    countAll (first ++ second) = countAll first + countAll second := by
  induction first with
  | nil => exact (Nat.zero_add _).symm
  | cons n rest ih => rw [List.cons_append, countAll_cons, countAll_cons, ih, Nat.add_assoc]

/-- Some of several trees have no more nodes than all of them. -/
theorem countAll_le_of_sublist {some all : List Node} (h : some.Sublist all) :
    countAll some ≤ countAll all := by
  induction h with
  | slnil => exact Nat.le_refl _
  | cons n _ ih => exact Nat.le_trans ih (Nat.le_add_left _ _)
  | cons_cons n _ ih => exact Nat.add_le_add_left ih _

/-- The nodes of a tree in preorder, each with the child indices that lead to it from the root. -/
def walk (n : Node) : List (List Nat × Node) :=
  ([], n) :: n.children.attach.zipIdx.flatMap fun (⟨c, _⟩, i) =>
    c.walk.map fun (path, m) => (i :: path, m)
termination_by sizeOf n
decreasing_by exact sizeOf_lt ‹_›

/-- Whether two trees are equal: their outermost records agree but for the children, and the
children are equal in order. -/
def equal (a b : Node) : Bool :=
  a.layer.agree b.layer && (a.children.attach.zip b.children).all fun (⟨c, _⟩, d) => c.equal d
termination_by sizeOf a
decreasing_by exact sizeOf_lt ‹_›

instance : BEq Node := ⟨equal⟩

end Node

end SqlTree
