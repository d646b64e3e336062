import Mathlib.Algebra.Order.BigOperators.Group.List
import Mathlib.Algebra.Order.Group.Nat
import Mathlib.Logic.Hydra
import SqlTree.Analysis.Tables
import SqlTree.Proofs.Provenance
import SqlTree.Proofs.Positions

/-!
# The nodes that a tree owns

A tree owns its root, and what the trees at the child positions of its record own (`Node.owned`).
The address of a node is the positions that lead to it, so two nodes that are equal are still two
when they stand at two addresses. How many nodes there are is said once more without positions and
without children, by recursion over the declarations of the records (`Node.census`): each record is
taken apart into all its fields, and a field that is not counted has no name there.

The walk over children meets every node that the tree owns, and none twice
(`Node.children_account_for_nodes`). It meets them in preorder, which is the order of a dictionary
on the paths of child indices (`Node.tabulates_walk`). The walk and the list of owned nodes have one
shape, that of a root before what is listed for its children, and there is one law for both
(`Node.tabulates_tree`).

A child has fewer nodes than its parent, so whatever goes from nodes to children ends. That is said
of every traversal at once (`Node.Advances`), with any order of visits and with children visited
more than once, as the nullability analysis visits the query of a sub-link.
-/

namespace SqlTree

namespace Node

/-! ## The number of nodes -/

mutual

/-- The number of nodes of a tree: the root, and those in every field of its record. -/
def census : Node → Nat
  | of l => 1 + censusBelow l
termination_by structural n => n

/-- The number of nodes in the fields of a record. -/
def censusBelow : Layer Node → Nat
  | .rawStmt ⟨stmt, _, _⟩ => census stmt
  | .selectStmt ⟨distinctClause, intoClause, targetList, fromClause, whereClause, groupClause,
      havingClause, valuesLists, sortClause, limitOffset, limitCount, withClause, _, _, larg,
      rarg⟩ =>
    censusList distinctClause + censusOption intoClause + censusList targetList +
      censusList fromClause + censusOption whereClause + censusList groupClause +
      censusOption havingClause + censusList valuesLists + censusList sortClause +
      censusOption limitOffset + censusOption limitCount + censusOption withClause +
      censusOption larg + censusOption rarg
  | .insertStmt ⟨relation, cols, selectStmt, returningList, withClause⟩ =>
    census relation + censusList cols + censusOption selectStmt + censusList returningList +
      censusOption withClause
  | .updateStmt ⟨relation, targetList, whereClause, fromClause, returningList, withClause⟩ =>
    census relation + censusList targetList + censusOption whereClause + censusList fromClause +
      censusList returningList + censusOption withClause
  | .deleteStmt ⟨relation, usingClause, whereClause, returningList, withClause⟩ =>
    census relation + censusList usingClause + censusOption whereClause +
      censusList returningList + censusOption withClause
  | .intoClause ⟨rel, colNames, options, _, _, _⟩ =>
    censusOption rel + censusList colNames + censusList options
  | .resTarget ⟨_, indirection, val, _⟩ => censusList indirection + censusOption val
  | .sortBy ⟨node, _, _, useOp, _⟩ => censusOption node + censusList useOp
  | .withClause ⟨ctes, _, _⟩ => censusList ctes
  | .commonTableExpr ⟨_, aliascolnames, ctequery, _⟩ => censusList aliascolnames + census ctequery
  | .rangeVar ⟨_, _, _, _, _, aliasClause, _, _⟩ => censusOption aliasClause
  | .rangeSubselect ⟨_, subquery, aliasClause⟩ => census subquery + censusOption aliasClause
  | .rangeFunction ⟨_, _, _, functions, aliasClause, coldeflist⟩ =>
    censusLists functions + censusOption aliasClause + censusList coldeflist
  | .joinExpr ⟨_, _, larg, rarg, usingClause, quals, aliasClause⟩ =>
    census larg + census rarg + censusList usingClause + censusOption quals +
      censusOption aliasClause
  | .aliasClause ⟨_, colnames⟩ => censusList colnames
  | .boolExpr ⟨_, args, _⟩ => censusList args
  | .subLink ⟨_, _, testexpr, operName, subselect, _⟩ =>
    censusOption testexpr + censusList operName + census subselect
  | .caseExpr ⟨_, _, arg, args, defresult, _⟩ =>
    censusOption arg + censusList args + censusOption defresult
  | .caseWhen ⟨expr, result, _⟩ => censusOption expr + censusOption result
  | .nullTest ⟨arg, _, _, _⟩ => censusOption arg
  | .booleanTest ⟨arg, _, _⟩ => censusOption arg
  | .rowExpr ⟨args, colnames, _, _, _⟩ => censusList args + censusList colnames
  | .setToDefault _ => 0
  | .aExpr ⟨_, name, lexpr, rexpr, _⟩ =>
    censusList name + censusOption lexpr + censusOption rexpr
  | .funcCall ⟨funcname, args, aggOrder, aggFilter, _, _, _, _⟩ =>
    censusList funcname + censusList args + censusList aggOrder + censusOption aggFilter
  | .typeCast ⟨arg, typeName, _⟩ => censusOption arg + censusOption typeName
  | .typeName ⟨names, typmods, arrayBounds, _, _⟩ =>
    censusList names + censusList typmods + censusList arrayBounds
  | .columnRef ⟨fields, _, _⟩ => censusList fields
  | .paramRef _ => 0
  | .aConst _ => 0
  | .aStar => 0
  | .coalesceExpr ⟨_, _, args, _⟩ => censusList args
  | .minMaxExpr ⟨_, _, args, _⟩ => censusList args
  | .nullIfExpr ⟨_, _, _, _, args, _⟩ => censusList args
  | .aArrayExpr ⟨elements, _⟩ => censusList elements
  | .aIndirection ⟨arg, indirection⟩ => census arg + censusList indirection
  | .aIndices ⟨_, lidx, uidx⟩ => censusOption lidx + censusOption uidx
  | .collateClause ⟨arg, collname, _⟩ => censusOption arg + censusList collname
  | .sqlValueFunction _ => 0
  | .list items => censusList items
  | .scalar _ => 0
termination_by structural l => l

/-- The number of nodes in a field that may be empty. -/
def censusOption : Option Node → Nat
  | none => 0
  | some n => census n
termination_by structural o => o

/-- The number of nodes in a sequence. -/
def censusList : List Node → Nat
  | [] => 0
  | n :: rest => census n + censusList rest
termination_by structural l => l

/-- The number of nodes in a list of lists. -/
def censusLists : List (List Node) → Nat
  | [] => 0
  | l :: rest => censusList l + censusLists rest
termination_by structural ls => ls

end

theorem censusOption_eq (o : Option Node) : censusOption o = (o.toList.map census).sum := by
  cases o <;> rfl

/-- The census of a list is the sum over its nodes. -/
theorem censusList_eq (l : List Node) : censusList l = (l.map census).sum := by
  induction l with
  | nil => rfl
  | cons n rest ih => rw [censusList, ih, List.map_cons, List.sum_cons]

/-- The census of lists is the sum over all their nodes. -/
theorem censusLists_eq (ls : List (List Node)) :
    censusLists ls = (ls.flatten.map census).sum := by
  induction ls with
  | nil => rfl
  | cons l rest ih =>
    rw [censusLists, ih, censusList_eq, List.flatten_cons, List.map_append, List.sum_append]

/-- **The nodes below a record are those of its children**, field by field. -/
theorem censusBelow_eq (l : Layer Node) : censusBelow l = (l.children.map census).sum := by
  rw [Layer.children_eq]
  cases l
  case scalar value => cases value <;> rfl
  all_goals
    simp only [censusBelow, Layer.contents, Content.parts, censusOption_eq, censusList_eq,
      censusLists_eq, List.sum_nil, List.sum_cons, List.sum_append, List.flatMap_cons,
      List.flatMap_nil, List.nil_append, List.append_nil, List.map_append, List.map_cons,
      List.map_nil, Option.toList_some, Nat.add_zero, Nat.add_assoc]

/-- A tree has one node and those of the trees of its children. -/
theorem census_eq (n : Node) : n.census = 1 + (n.children.map census).sum := by
  cases n with
  | of l => rw [census, censusBelow_eq, children, layer]

/-- A child has fewer nodes than its parent. -/
theorem census_lt {n c : Node} (child : c ∈ n.children) : c.census < n.census := by
  have one : c.census ≤ (n.children.map census).sum :=
    List.le_sum_of_mem (List.mem_map_of_mem child)
  rw [census_eq n]
  omega

/-- The count of trees is the sum of their counts. -/
theorem countAll_eq (trees : List Node) : countAll trees = (trees.map count).sum := by
  rw [List.sum_eq_foldr, List.foldr_map]
  rfl

/-- Counted along children or by declaration, the nodes of a tree are as many. -/
theorem count_eq_census (n : Node) : n.count = n.census := by
  rw [count_eq, countAll_eq, census_eq]
  congr 2
  exact List.map_congr_left fun c child => c.count_eq_census
termination_by sizeOf n
decreasing_by exact sizeOf_lt child

/-! ## The nodes with their addresses -/

/-- The nodes that a tree owns, each with its address: the root, and what the trees at the child
positions of its record own. -/
def owned (n : Node) : List (List Position × Node) :=
  ([], n) :: n.layer.positions.attach.flatMap fun ⟨(position, c), _⟩ =>
    relabel (List.cons position) c.owned
termination_by sizeOf n
decreasing_by exact sizeOf_lt (Layer.mem_children_of_mem_positions ‹_›)

/-- The node that a tree owns at an address. -/
def owned? : Node → List Position → Option Node
  | n, [] => some n
  | n, position :: address => (n.layer.position? position).bind fun c => c.owned? address

/-- What a tree owns is its root and what each of its positions owns. -/
theorem owned_eq (n : Node) : n.owned = ([], n) :: spread List.cons owned n.layer.positions := by
  rw [owned, spread]
  congr 1
  exact (List.flatMap_subtype fun _ _ => rfl).trans (congrArg _ List.unattach_attach)

/-- A walk is at the root and then in the trees of the children in order. -/
theorem walk_eq (n : Node) :
    n.walk = ([], n) :: spread List.cons walk (numbered n.children) := by
  have indices : n.children.zipIdx = n.children.attach.zipIdx.map (Prod.map Subtype.val id) := by
    rw [← List.zipIdx_map, List.attach_map_subtype_val]
  rw [walk, spread, numbered, indices, List.flatMap_map, List.flatMap_map]
  rfl

section Listings

variable {κ : Type} {before : κ → κ → Prop} {entries : List (κ × Node)} {f : κ → Option Node}
  {inner : Node → List (List κ × Node)} {g : Node → List κ → Option Node}
  {order : List κ → List κ → Prop} {h : List κ → Option Node}

/-- The root of a tree and what is listed for its children tabulate the lookup that goes from the
root through a child. -/
theorem tabulates_tree {n : Node} (children : Tabulates before entries f)
    (each : ∀ k c, (k, c) ∈ entries → Tabulates order (inner c) (g c))
    (first : ∀ k path, order [] (k :: path))
    (across : ∀ {k k'}, before k k' → ∀ path path', order (k :: path) (k' :: path'))
    (within : ∀ k {path path'}, order path path' → order (k :: path) (k :: path'))
    (root : h [] = some n) (found : ∀ k path, h (k :: path) = (f k).bind fun c => g c path) :
    Tabulates order (([], n) :: spread List.cons inner entries) h := by
  have below : Tabulates order (spread List.cons inner entries)
      (fun path => if path = [] then none else h path) := by
    refine children.spread each across within ?_ ?_
    · intro k path
      rw [if_neg (List.cons_ne_nil k path), found]
    · rintro (_ | ⟨k, path⟩) m known
      · cases known
      · exact ⟨k, path, rfl⟩
  refine ⟨List.pairwise_cons.mpr ⟨?_, below.ordered⟩, ?_⟩
  · intro path listed
    obtain ⟨⟨path, m⟩, mem, rfl⟩ := List.mem_map.mp listed
    cases path with
    | nil => cases (below.mem_iff [] m).mp mem
    | cons k path => exact first k path
  · rintro (_ | ⟨k, path⟩) m
    · have missing : ([], m) ∉ spread List.cons inner entries := fun mem => by
        cases (below.mem_iff [] m).mp mem
      simp [missing, root, eq_comm]
    · simpa using below.mem_iff (k :: path) m

end Listings

/-- **Every address in a tree is listed once**, with the node that is there. -/
theorem tabulates_owned (n : Node) : Tabulates (· ≠ ·) n.owned n.owned? := by
  rw [owned_eq]
  refine tabulates_tree n.layer.tabulates_positions (fun position c mem => ?_) ?_ ?_ ?_ rfl
    fun _ _ => rfl
  · have child := Layer.mem_children_of_mem_positions mem
    exact c.tabulates_owned
  · exact fun position address e => nomatch e
  · exact fun ne address address' e => ne (List.cons.inj e).1
  · exact fun position address address' ne e => ne (List.cons.inj e).2
termination_by sizeOf n
decreasing_by exact sizeOf_lt child

/-- **The walk lists every path of a tree once**, with the node that it leads to, and in the order
of a dictionary: a node before what is below it, and what is below one child before the next. -/
theorem tabulates_walk (n : Node) :
    Tabulates (List.Lex fun i j => i < j) n.walk n.subtree? := by
  rw [walk_eq]
  refine tabulates_tree (tabulates_numbered n.children) (fun i c mem => ?_) ?_ ?_ ?_ rfl
    fun _ _ => rfl
  · have child : c ∈ n.children :=
      List.mem_of_getElem? (((tabulates_numbered n.children).mem_iff i c).mp mem)
    exact c.tabulates_walk
  · exact fun i path => .nil
  · exact fun lt path path' => .rel lt
  · exact fun i path path' lt => .cons lt
termination_by sizeOf n
decreasing_by exact sizeOf_lt child

/-- The walk meets the nodes that the tree owns, in the order of the fields that they stand in. -/
theorem map_snd_walk (n : Node) : n.walk.map Prod.snd = n.owned.map Prod.snd := by
  rw [walk_eq, owned_eq, List.map_cons, List.map_cons, map_snd_spread, map_snd_spread,
    map_snd_numbered, Layer.map_snd_positions]
  congr 1
  exact List.flatMap_congr fun c child => c.map_snd_walk
termination_by sizeOf n
decreasing_by exact sizeOf_lt child

/-- The walk has as many steps as the tree has nodes. -/
theorem length_walk (n : Node) : n.walk.length = n.census := by
  rw [walk_eq, List.length_cons, length_spread, map_snd_numbered, census_eq, Nat.add_comm]
  congr 2
  exact List.map_congr_left fun c child => c.length_walk
termination_by sizeOf n
decreasing_by exact sizeOf_lt child

/-! ## Traversals -/

/-- A step of a traversal: one of the pending nodes is visited, and any of its children are pending
in its stead, in whatever order and however often. -/
inductive Advances (pending after : List Node) : Prop where
  | visit (n : Node) (rest next : List Node) (taken : pending.Perm (n :: rest))
      (below : ∀ c ∈ next, c ∈ n.children) (left : after.Perm (next ++ rest))

/-- The stack on which the tables of a tree are found advances with each visit to its top. -/
theorem advances_pushAll (n : Node) (rest : List Node) :
    Advances (n :: rest) (pushAll rest n.layer.pushes) := by
  rw [pushAll_pushes]
  exact .visit n rest n.tableEdges (.refl _) (fun _ edge => n.layer.tableEdges_sublist.subset edge)
    (.refl _)

/-- Every way down a tree ends. -/
theorem wellFounded_children : WellFounded fun c n : Node => c ∈ n.children :=
  Subrelation.wf census_lt (measure census).wf

/-- **Every traversal ends.** A step takes one node away, and what it adds is all below that
node. -/
theorem wellFounded_advances :
    WellFounded fun after pending : List Node => Advances pending after := by
  refine Subrelation.wf ?_ (InvImage.wf Multiset.ofList wellFounded_children.cutExpand)
  rintro after pending ⟨n, rest, next, taken, below, left⟩
  refine ⟨next, n, fun c mem => below c (Multiset.mem_coe.mp mem), ?_⟩
  calc (after : Multiset Node) + {n}
    _ = next + (rest + {n}) := by rw [Multiset.coe_eq_coe.mpr left, ← Multiset.coe_add, add_assoc]
    _ = next + pending := by
      rw [Multiset.coe_eq_coe.mpr taken, ← Multiset.cons_coe, ← Multiset.singleton_add,
        add_comm (rest : Multiset Node)]
    _ = pending + next := add_comm _ _

/-! ## All of them together -/

/-- The children of a node are what its record stores, and the walk over children meets the nodes
that the tree owns. -/
structure Accounted (n : Node) : Prop where
  /-- The children are the nodes in the fields, in the order in which the fields are declared. A
  field that may be empty has one node or none, and a list of lists has one list after another. -/
  fields : n.children = n.layer.contents.flatMap fun field => field.2.parts
  /-- They are what stands at the child positions of the record, -/
  positions : n.layer.positions.map Prod.snd = n.children
  /-- each at a position of its own, with no position left out. -/
  eachPosition : Tabulates (· ≠ ·) n.layer.positions n.layer.position?
  /-- Whatever nodes weigh, the size that is derived from the declaration of the record has the
  weight of each child in it, once, and no other. -/
  declared : ∀ weight, n.layer.sizeBy weight =
    n.layer.sizeBy (fun _ => 0) + (n.children.map weight).sum
  /-- The walk lists every path of child indices once, in preorder, -/
  walk : Tabulates (List.Lex fun i j => i < j) n.walk n.subtree?
  /-- and what it meets are the nodes that the tree owns, -/
  owned : n.walk.map Prod.snd = n.owned.map Prod.snd
  /-- each at an address of its own, with no address left out. -/
  eachAddress : Tabulates (· ≠ ·) n.owned n.owned?
  /-- So it has as many steps as there are nodes by declaration, -/
  length : n.walk.length = n.census
  /-- which are as many as are counted along children, -/
  count : n.count = n.census
  /-- and a child has fewer of them than its parent. -/
  smaller : ∀ c ∈ n.children, c.census < n.census

/-- **Children account for all nodes.** The children of a node of any kind are the nodes that its
record stores, each once and in the order of the fields; the walk over children meets every node
that a tree owns once; and every traversal over children ends, the one for the tables included. -/
theorem children_account_for_nodes :
    (∀ n : Node, n.Accounted) ∧
      (∀ n rest, Advances (n :: rest) (pushAll rest n.layer.pushes)) ∧
      WellFounded fun after pending : List Node => Advances pending after := by
  refine ⟨fun n => ?_, advances_pushAll, wellFounded_advances⟩
  exact {
    fields := n.layer.children_eq
    positions := n.layer.map_snd_positions
    eachPosition := n.layer.tabulates_positions
    declared := fun weight => n.layer.sizeBy_eq weight
    walk := n.tabulates_walk
    owned := n.map_snd_walk
    eachAddress := n.tabulates_owned
    length := n.length_walk
    count := n.count_eq_census
    smaller := fun _ child => census_lt child }

/-- Functions of a FROM clause with an empty list between two others. -/
example :
    let n := of (.rangeFunction ⟨false, false, true,
      [[of .aStar], [], [of .aStar, of (.list [of .aStar])]], none, [of .aStar]⟩)
    n.walk.map Prod.fst = [[], [0], [1], [2], [2, 0], [3]] ∧
      n.owned.map Prod.fst = [[], [("functions", [0, 0])], [("functions", [2, 0])],
        [("functions", [2, 1])], [("functions", [2, 1]), ("items", [0])], [("coldeflist", [0])]] ∧
      n.census = 6 := by
  refine ⟨?_, ?_, ?_⟩ <;> cbv

end Node

end SqlTree
