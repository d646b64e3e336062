import Mathlib.Data.List.MinMax
import Mathlib.Order.Nat
import SqlTree.Proofs.BuiltTrees
import SqlTree.Proofs.FaultOrder
import SqlTree.Proofs.Provenance

/-!
# Levels of a tree

The root of a tree stands at level one and its children one level further down (`Node.At`); the
height of a tree is its deepest level (`Node.height_le_iff`). What the builder counts is not quite
that: a plain value in an array takes no level, so it may stand one level below the limit, and a
slot of a sparse list takes two levels where the tree has one, so it stands well above it.

Three things follow the height. The levels of a tree that is built are within the limit, but for one
level of plain values. The answer of the nullability analysis nests no deeper than the tree is high.
And the analysis goes from level to level, visiting a node at most twice on the way down, first on
its own and then as a query. So one limit bounds the recursion over the tree, over the answer, and
of the analysis (`Builder.bounded_of_built`).
-/

namespace SqlTree

/-! ## Levels and height -/

namespace Node

/-- A node stands at a level of a tree. -/
inductive At : Node → Nat → Node → Prop where
  | root (n : Node) : At n 1 n
  | step {n c m : Node} {level : Nat} : c ∈ n.children → At c level m → At n (level + 1) m

/-- The number of levels of a tree. -/
def height (n : Node) : Nat :=
  1 + (n.children.attach.map fun ⟨c, _⟩ => c.height).foldr Nat.max 0
termination_by sizeOf n
decreasing_by exact sizeOf_lt ‹_›

/-- A tree is one level higher than its highest child. -/
theorem height_eq (n : Node) : n.height = 1 + (n.children.map height).foldr Nat.max 0 := by
  rw [height]
  exact congrArg (fun l => 1 + l.foldr Nat.max 0) List.attach_map_val

theorem height_pos (n : Node) : 1 ≤ n.height := by
  rw [height_eq]
  omega

/-- A child is less high than its record. -/
theorem height_lt_of_mem_children {n c : Node} (child : c ∈ n.children) : c.height < n.height := by
  have le : c.height ≤ (n.children.map height).foldr Nat.max 0 :=
    List.le_max_of_le (List.mem_map_of_mem child) (Nat.le_refl _)
  rw [height_eq n]
  omega

/-- The height is the deepest level at which a node stands. -/
theorem height_le_iff {n : Node} {bound : Nat} :
    n.height ≤ bound ↔ ∀ level m, n.At level m → level ≤ bound := by
  constructor
  · intro high level m h
    induction h generalizing bound with
    | root n => exact Nat.le_trans n.height_pos high
    | step child _ ih =>
      have lower := height_lt_of_mem_children child
      have := @ih (bound - 1) (by omega)
      omega
  · intro levels
    have first : 1 ≤ bound := levels 1 n (.root n)
    have children : ∀ c ∈ n.children, c.height ≤ bound - 1 := by
      intro c child
      refine height_le_iff.mpr fun level m h => ?_
      have := levels (level + 1) m (.step child h)
      omega
    have deepest : (n.children.map height).foldr Nat.max 0 ≤ bound - 1 :=
      List.max_le_of_forall_le _ _ (List.forall_mem_map.mpr children)
    rw [height_eq]
    omega
termination_by sizeOf n
decreasing_by exact sizeOf_lt child

end Node

/-! ## The answer of the analysis -/

namespace Nullability

mutual

/-- How deep an answer nests: one for the answer of a rule, and one more than its deepest entry for
the answers for children. -/
def nesting : Nullability → Nat
  | known _ => 1
  | nested entries => 1 + deepest entries

/-- How deep the deepest of several answers nests. -/
def deepest : List Nullability → Nat
  | [] => 0
  | entry :: rest => Nat.max entry.nesting (deepest rest)

end

/-- What bounds the nesting of each answer bounds the deepest. -/
theorem deepest_le_of_forall {entries : List Nullability} {bound : Nat}
    (h : ∀ entry ∈ entries, entry.nesting ≤ bound) : deepest entries ≤ bound := by
  induction entries with
  | nil => exact Nat.zero_le _
  | cons entry rest ih =>
    rw [deepest]
    have others : deepest rest ≤ bound := ih fun e he => h e (List.mem_cons_of_mem _ he)
    exact Nat.max_le.mpr ⟨h entry List.mem_cons_self, others⟩

end Nullability

/-- **The answer for a tree nests at most as deep as the tree is high.** -/
theorem Node.nesting_le_height {n : Node} {answer : Nullability} (h : n.nullability = .ok answer) :
    answer.nesting ≤ n.height := by
  have positive := n.height_pos
  obtain ⟨-, nullable, rfl⟩ | ⟨-, rfl⟩ | ⟨entries, rfl, answered⟩ := nullability_eq_ok h
  · exact positive
  · exact positive
  · have shallow : ∀ entry ∈ entries, entry.nesting ≤ n.height - 1 := by
      refine forall_of_mapM_eq_ok (mapM_eq_ok.mpr answered) fun c child entry found => ?_
      have nests : entry.nesting ≤ c.height := nesting_le_height found
      have lower := height_lt_of_mem_children child
      omega
    have deepest := Nullability.deepest_le_of_forall shallow
    rw [Nullability.nesting]
    omega
termination_by sizeOf n
decreasing_by exact sizeOf_lt child

/-! ## The way of the analysis -/

namespace Visit

/-- A bound on the visits that follow one another from a visit on, itself included. A node has two
visits on the way down, and the second of them is as a query. -/
def reach : Visit → Nat
  | alone n => 2 * n.height
  | asQuery n => 2 * n.height - 1

theorem reach_pos (v : Visit) : 1 ≤ v.reach := by
  have := v.node.height_pos
  cases v <;> simp only [reach, node] at * <;> omega

/-- The bound goes down with every visit. -/
theorem reach_lt_of_mem_next {v w : Visit} (later : w ∈ v.next) : w.reach < v.reach := by
  have positive := w.node.height_pos
  obtain child | ⟨e, e'⟩ := next_cases later
  · have lower := Node.height_lt_of_mem_children child
    cases v <;> cases w <;> simp only [reach, node] at * <;> omega
  · rw [e, e'] at *
    simp only [reach, node] at *
    omega

/-- Visits that follow one another are at most as many as the bound for the first of them. -/
theorem length_le_reach {v : Visit} {rest : List Visit}
    (chain : List.IsChain (fun v w => w ∈ v.next) (v :: rest)) : (v :: rest).length ≤ v.reach := by
  induction rest generalizing v with
  | nil => exact v.reach_pos
  | cons w rest ih =>
    obtain ⟨later, chain⟩ := List.isChain_cons_cons.mp chain
    have := reach_lt_of_mem_next later
    have := ih chain
    simp only [List.length_cons] at *
    omega

end Visit

/-! ## Built trees -/

/-- A limit bounds a tree, what the nullability analysis answers for it, and the way the analysis
takes through it. -/
structure Node.BoundedBy (limit : Nat) (n : Node) : Prop where
  /-- Every node but the plain values is within the limit. -/
  records : ∀ level m, n.At level m → ¬ m.scalar?.isSome → level ≤ limit
  /-- A plain value is at most one level below the limit. -/
  scalars : ∀ level m, n.At level m → m.scalar?.isSome → level ≤ limit + 1
  height : n.height ≤ limit + 1
  /-- The answer nests at most as deep as the tree is high. -/
  nesting : ∀ answer, n.nullability = .ok answer → answer.nesting ≤ n.height
  /-- The visits of the analysis that follow one another are at most two for each level. -/
  visits : ∀ chain, List.IsChain (fun v w => w ∈ v.next) (.alone n :: chain) →
    (Visit.alone n :: chain).length ≤ 2 * n.height

/-- How far below the limit a node may stand: a plain value one level, any other node none. -/
def Node.slack (n : Node) : Nat :=
  if n.scalar?.isSome then 1 else 0

/-- What is read with some levels left has at most that many, and one more of plain values. -/
theorem level_le_of_readEntry {limit levels : Nat} {site : Site} {raw : Json} {n : Node}
    (h : readEntry limit levels site raw = .ok n) :
    ∀ level m, n.At level m → level ≤ levels + m.slack := by
  induction levels using Nat.strongRecOn generalizing site raw n with
  | ind levels ih =>
    -- With a level left for the root, it is enough to look at the children.
    have record : ∀ below, levels = below + 1 →
        (∀ c ∈ n.children, ∀ level m, c.At level m → level ≤ below + m.slack) →
        ∀ level m, n.At level m → level ≤ levels + m.slack := by
      rintro below rfl children level m (_ | ⟨child, inside⟩)
      · omega
      · have := children _ child _ m inside
        omega
    obtain ⟨value, -, rfl⟩ | ⟨below, items, nodes, e, -, read, rfl⟩ |
      ⟨below, kind, fields, e, -, run⟩ := readEntry_eq_ok h
    · rintro level m (_ | ⟨child, -⟩)
      · exact Nat.le_add_left 1 levels
      · cases child
    · refine record below e ?_
      exact forall_of_mapM_eq_ok read fun _ _ _ entry => ih below (by omega) entry
    · refine record below e ?_
      refine Decoder.post_of_run kind.decoder_children (Query.among_of_answer ?_) run
      refine nestedReaders_yield fun levels le site raw c read level m inside => ?_
      have := ih levels (by omega) read level m inside
      omega

/-- A tree that is read with as many levels as the limit says is bounded by it. -/
theorem bounded_of_readEntry {limit : Nat} {site : Site} {raw : Json} {n : Node}
    (h : readEntry limit limit site raw = .ok n) : n.BoundedBy limit where
  records level m inside record := by
    have := level_le_of_readEntry h level m inside
    rwa [Node.slack, if_neg record] at this
  scalars level m inside scalar := by
    have := level_le_of_readEntry h level m inside
    rwa [Node.slack, if_pos scalar] at this
  height := by
    refine Node.height_le_iff.mpr fun level m inside => ?_
    have := level_le_of_readEntry h level m inside
    unfold Node.slack at this
    split at this <;> omega
  nesting _ answered := Node.nesting_le_height answered
  visits _ chain := Visit.length_le_reach chain

namespace Builder

/-- **The limit bounds every tree that is built**, the answer of the nullability analysis for it,
and the way of the analysis through it, whether one record is built or the statements of a parse
result. -/
theorem bounded_of_built (b : Builder) (raw : Json) :
    (∀ n, b.build raw = .ok (some n) → n.BoundedBy b.config.maxDepth) ∧
      ∀ ns, b.statements raw = .ok ns → ∀ n ∈ ns, n.BoundedBy b.config.maxDepth := by
  constructor
  · intro n built
    obtain ⟨site, raw, read⟩ := exists_entry_of_build built
    exact bounded_of_readEntry read
  · intro ns built n hn
    obtain ⟨site, raw, read⟩ := exists_entry_of_statements built n hn
    exact bounded_of_readEntry read

/-- `VALUES (1)` as a raw tree: a query, a row, and a plain value. -/
def valuesQuery : Json :=
  .object [("SelectStmt", .object [("valuesLists", .array [.array [.number (.integer 1)]])])]

/-- With a limit of two a tree of three levels is built, the last one that of a plain value, and as
a statement as well. -/
theorem bounded_of_valuesQuery :
    (∃ n, build ⟨⟨2⟩⟩ valuesQuery = .ok (some n) ∧ n.height = 3 ∧ n.BoundedBy 2) ∧
      ∃ ns, statements ⟨⟨2⟩⟩ (.array [valuesQuery]) = .ok ns ∧ ∀ n ∈ ns, n.BoundedBy 2 := by
  have built : build ⟨⟨2⟩⟩ valuesQuery = .ok (some _) := rfl
  have listed : statements ⟨⟨2⟩⟩ (.array [valuesQuery]) = .ok _ := rfl
  refine ⟨⟨_, built, ?_, (bounded_of_built ⟨⟨2⟩⟩ valuesQuery).1 _ built⟩, _, listed,
    (bounded_of_built ⟨⟨2⟩⟩ (.array [valuesQuery])).2 _ listed⟩
  cbv

end Builder

end SqlTree
