import SqlTree.Node.Walk

/-!
# Tables

The base tables that a tree reads from: the relations named by every `RangeVar` that is reached over
the edges that carry tables, each once, in the order in which they are first met from left to right.

Join conditions, the expression that a sub-link tests, aliases and INTO targets carry no tables, and
neither does the relation that an INSERT writes to. The targets of UPDATE and DELETE are read as
well as written, so they count.

The tree is walked with a stack of nodes to visit (`tablesFrom`), whose head is its top. A step
takes the top off and pushes the children that carry tables in reverse (`Layer.pushes`), so that the
leftmost of them is on top. The nodes on the stack and below them are the measure of the work: a
step takes at least the node itself off.
-/

namespace SqlTree

namespace Layer

variable {α : Type}

/-- The values at the child positions that carry tables, from left to right. -/
def tableEdges : Layer α → List α
  | rangeVar _ => []
  | joinExpr record => [record.larg, record.rarg]
  | subLink record => [record.subselect]
  | insertStmt record => record.readChildren
  | aliasClause _ | intoClause _ => []
  | layer => layer.children

/-- The values that a stack receives for a record, one after another, the last of them on top. -/
def pushes : Layer α → List α
  | rangeVar _ => []
  | joinExpr record => [record.rarg, record.larg]
  | subLink record => [record.subselect]
  | insertStmt record => record.readChildren.reverse
  | boolExpr record => record.args.reverse
  | aliasClause _ | intoClause _ => []
  | layer => layer.children.reverse

/-- What a record pushes comes off the stack again as its edges from left to right. -/
theorem reverse_pushes (l : Layer α) : l.pushes.reverse = l.tableEdges := by
  cases l <;> simp [pushes, tableEdges, children, BoolExpr.children]

/-- The edges that carry tables are some of the children, in the same order. -/
theorem tableEdges_sublist (l : Layer α) : l.tableEdges.Sublist l.children := by
  cases l
  case joinExpr record => simp [tableEdges, children, JoinExpr.children]
  case subLink record => simp [tableEdges, children, SubLink.children]
  case insertStmt record => simp [tableEdges, children, InsertStmt.children]
  all_goals simp [tableEdges, children]

/-- The table that a record names itself. -/
def table? : Layer α → Option String
  | rangeVar record => some record.qualifiedName
  | _ => none

end Layer

/-- A stack with values pushed on it, one after another. -/
def pushAll {α : Type} (stack values : List α) : List α :=
  values.foldl (fun stack value => value :: stack) stack

/-- Values that are pushed one by one end up in reverse on top of the stack. -/
theorem pushAll_eq {α : Type} (stack values : List α) :
    pushAll stack values = values.reverse ++ stack :=
  List.foldl_flip_cons_eq_append'

/-- The tables met so far with one more, unless it is among them. -/
def meet (met : List String) (table : String) : List String :=
  if met.contains table then met else met ++ [table]

namespace Node

/-- The children that carry tables, from left to right. -/
def tableEdges (n : Node) : List Node := n.layer.tableEdges

/-- The table that a node names itself. -/
def table? (n : Node) : Option String := n.layer.table?

/-- The edges that carry tables hold fewer nodes than the tree of the node. -/
theorem countAll_tableEdges_lt (n : Node) : countAll n.tableEdges < n.count := by
  have : countAll n.tableEdges ≤ countAll n.children :=
    countAll_le_of_sublist n.layer.tableEdges_sublist
  rw [count_eq]
  omega

/-- The stack after a visit to its top is the edges of the top that carry tables, above the rest. -/
theorem pushAll_pushes (n : Node) (rest : List Node) :
    pushAll rest n.layer.pushes = n.tableEdges ++ rest := by
  rw [pushAll_eq, Layer.reverse_pushes, tableEdges]

/-- The tables met from a stack on, appended to those already met. -/
def tablesFrom (stack : List Node) (met : List String) : List String :=
  match stack with
  | [] => met
  | n :: rest =>
    let met :=
      match n.table? with
      | some table => meet met table
      | none => met
    tablesFrom (pushAll rest n.layer.pushes) met
termination_by countAll stack
decreasing_by
  have := n.countAll_tableEdges_lt
  rw [pushAll_pushes, countAll_append, countAll_cons]
  omega

/-- The base tables that a tree reads from, in the order in which they are first met. -/
def tables (n : Node) : List String := tablesFrom [n] []

end Node

end SqlTree
