import Mathlib.Data.List.Basic
import Mathlib.Data.List.Induction
import SqlTree.Analysis.Tables

/-!
# The order of the tables

The tables of a tree are found with a stack. Here they are listed by recursion instead
(`Node.tableNames`): a relation lists its own name, and any other node the names of the parts that
carry tables, from left to right and with every repetition. The two agree
(`Node.tables_eq_eraseDups`): what the stack yields are the first occurrences of that list.

The invariant is that a step leaves what the stack still owes as it is. The names listed for the
nodes on it, from its top down and met after the tables met so far, come to the same tables before
the step and after it (`Node.tablesFrom_eq`).

What is listed is a matter of kinds and edges alone. Nothing here says that a relation that is
listed exists, or that no WITH clause defines it.
-/

namespace SqlTree

/-! ## First occurrences -/

/-- One more name at the end of a list is one more first occurrence, unless it has occurred. -/
theorem eraseDups_concat (names : List String) (name : String) :
    (names ++ [name]).eraseDups = meet names.eraseDups name := by
  rw [List.eraseDups_append]
  by_cases h : name ∈ names
  · simp [meet, List.removeAll, h]
  · simp [meet, List.removeAll, h, List.eraseDups_cons]

/-- Names met one after another come to their first occurrences. -/
theorem foldl_meet (names : List String) : names.foldl meet [] = names.eraseDups := by
  induction names using List.reverseRecOn with
  | nil => rfl
  | append_singleton names name ih =>
    rw [List.foldl_append, ih, eraseDups_concat]
    rfl

/-- First occurrences stand in the order in which they occur first. -/
theorem pairwise_idxOf_eraseDups (names : List String) :
    names.eraseDups.Pairwise fun a b => names.idxOf a < names.idxOf b := by
  induction names using List.reverseRecOn with
  | nil => exact .nil
  | append_singleton names name ih =>
    -- The places of the names that occurred before are the same with one more name at the end.
    have kept : names.eraseDups.Pairwise fun a b =>
        (names ++ [name]).idxOf a < (names ++ [name]).idxOf b := by
      refine ih.imp_of_mem fun {a b} ha hb lt => ?_
      rw [List.idxOf_append_of_mem (List.mem_eraseDups.mp ha),
        List.idxOf_append_of_mem (List.mem_eraseDups.mp hb)]
      exact lt
    rw [eraseDups_concat, meet]
    by_cases h : name ∈ names
    · rw [if_pos (by simpa using h)]
      exact kept
    · rw [if_neg (by simpa using h), List.pairwise_append]
      refine ⟨kept, List.pairwise_singleton _ _, fun a ha b hb => ?_⟩
      obtain rfl := List.mem_singleton.mp hb
      have ha := List.mem_eraseDups.mp ha
      rw [List.idxOf_append_of_mem ha, List.idxOf_append_of_notMem h]
      have := List.idxOf_lt_length_of_mem ha
      omega

namespace Node

/-! ## The list by recursion -/

/-- The names of the relations that a tree reads from, from left to right, each as often as it is
named. -/
def tableNames (n : Node) : List String :=
  match n with
  | of (.rangeVar record) => [record.qualifiedName]
  | of (.joinExpr record) => record.larg.tableNames ++ record.rarg.tableNames
  | of (.subLink record) => record.subselect.tableNames
  | of (.insertStmt record) => record.readChildren.attach.flatMap fun ⟨c, _⟩ => c.tableNames
  | of (.boolExpr record) => record.args.attach.flatMap fun ⟨c, _⟩ => c.tableNames
  | of (.aliasClause _) | of (.intoClause _) => []
  | n => n.children.attach.flatMap fun ⟨c, _⟩ => c.tableNames
termination_by sizeOf n
decreasing_by
  all_goals
    apply sizeOf_lt
    simp_all [children, layer, Layer.children, JoinExpr.children, SubLink.children,
      InsertStmt.children, BoolExpr.children]

/-- The names listed for a node are its own, if it is a relation, and those of its edges. -/
theorem tableNames_eq (n : Node) :
    n.tableNames = n.table?.toList ++ n.tableEdges.flatMap tableNames := by
  cases n with
  | of layer =>
    cases layer <;>
      simp [tableNames, table?, tableEdges, Node.layer, Layer.table?, Layer.tableEdges, children,
        Layer.children, BoolExpr.children]

/-! ## The stack -/

/-- The tables met from a stack on are those of the names listed for the nodes on it, from its top
down, met after the ones already met. -/
theorem tablesFrom_eq (stack : List Node) (met : List String) :
    tablesFrom stack met = (stack.flatMap tableNames).foldl meet met := by
  fun_induction tablesFrom stack met with
  | case1 met => rfl
  | case2 met n rest met' ih =>
    have own : n.table?.toList.foldl meet met = met' := by
      cases h : n.table? <;> simp [met', h]
    rw [ih, pushAll_pushes, List.flatMap_append, List.flatMap_cons, tableNames_eq,
      List.append_assoc, List.foldl_append (l := n.table?.toList), own]

/-- The stack that starts with the root yields the first occurrences of the names listed for it. -/
theorem tables_eq (n : Node) : n.tables = n.tableNames.eraseDups := by
  rw [tables, tablesFrom_eq, List.flatMap_singleton, foldl_meet]

theorem mem_tables {n : Node} {name : String} : name ∈ n.tables ↔ name ∈ n.tableNames := by
  rw [tables_eq, List.mem_eraseDups]

/-- Of two tables the one that is named first comes first. -/
theorem pairwise_tables (n : Node) :
    n.tables.Pairwise fun a b => n.tableNames.idxOf a < n.tableNames.idxOf b :=
  n.tables_eq ▸ pairwise_idxOf_eraseDups n.tableNames

/-- No table is given twice. -/
theorem nodup_tables (n : Node) : n.tables.Nodup :=
  n.pairwise_tables.imp fun lt e => absurd (e ▸ lt) (Nat.lt_irrefl _)

/-- **The tables of a tree are the first occurrences of the names listed by recursion.** No table is
given twice, and of two tables the one that is named first comes first. -/
theorem tables_eq_eraseDups (n : Node) :
    n.tables = n.tableNames.eraseDups ∧ n.tables.Nodup ∧
      n.tables.Pairwise fun a b => n.tableNames.idxOf a < n.tableNames.idxOf b :=
  ⟨n.tables_eq, n.nodup_tables, n.pairwise_tables⟩

end Node

end SqlTree
