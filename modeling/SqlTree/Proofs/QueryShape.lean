import SqlTree.Proofs.BuiltTrees

/-!
# The shape of queries

Where a record stands for a query, the type of its field allows any node. `Node.QueryShaped` says
what the fields of one record should hold: the operands of a query are queries, and a set operation
has both of them; the sub-selects of a sub-link and of a FROM clause are queries; and so are the
rows that an INSERT takes from one.

Every record of every tree that is built has this shape, at whatever depth it stands
(`Builder.contains_queryShaped`). Trees that were edited need not.
-/

namespace SqlTree

/-- A node is a query. -/
def Node.IsSelect (n : Node) : Prop := ∃ record, n = .of (.selectStmt record)

/-- A node that can be taken as a query is one. -/
theorem Node.isSelect_of_select? {n : Node} (h : n.select?.isSome) : n.IsSelect := by
  unfold Node.select? at h
  split at h
  next record => exact ⟨record, rfl⟩
  next => cases h

/-- The fields of a record that stand for queries hold queries, and a set operation has both its
operands. -/
def Layer.QueryShaped : Layer Node → Prop
  | selectStmt record =>
    (record.op ≠ .none → record.larg.isSome ∧ record.rarg.isSome) ∧
      (∀ operand ∈ record.larg, operand.IsSelect) ∧ ∀ operand ∈ record.rarg, operand.IsSelect
  | subLink record => record.subselect.IsSelect
  | rangeSubselect record => record.subquery.IsSelect
  | insertStmt record => ∀ source ∈ record.selectStmt, source.IsSelect
  | _ => True

/-- The outermost record of a tree has queries where they belong. -/
def Node.QueryShaped (n : Node) : Prop := n.layer.QueryShaped

/-! ## What the decoders ensure -/

namespace Decoder

/-- A query has queries for operands, both of them if it is a set operation. -/
theorem selectStmt_queryShaped :
    selectStmt.Ensures Query.anything fun record => (Layer.selectStmt record).QueryShaped := by
  simp only [selectStmt, ensures_bind]
  have read := operands_ensures (P := fun _ => True)
  refine read.mono (fun _ _ _ _ _ => trivial) ?_
  rintro ⟨op, larg, rarg⟩ ⟨both, left, right⟩
  have shaped : (op ≠ .none → larg.isSome ∧ rarg.isSome) ∧ (∀ n ∈ larg, n.IsSelect) ∧
      ∀ n ∈ rarg, n.IsSelect :=
    ⟨both, fun n h => Node.isSelect_of_select? (left n h).1,
      fun n h => Node.isSelect_of_select? (right n h).1⟩
  simpa [Query.anything, Layer.QueryShaped] using shaped

/-- The decoder of a sub-link takes nothing but a query as its sub-select. -/
theorem subLink_queryShaped :
    subLink.Ensures Query.anything fun record => (Layer.subLink record).QueryShaped := by
  simp +contextual [subLink, Query.anything, Layer.QueryShaped, Node.isSelect_of_select?]

/-- The decoder of a sub-select in FROM takes nothing but a query. -/
theorem rangeSubselect_queryShaped :
    rangeSubselect.Ensures Query.anything fun record =>
      (Layer.rangeSubselect record).QueryShaped := by
  simp +contextual [rangeSubselect, Query.anything, Layer.QueryShaped, Node.isSelect_of_select?]

/-- The decoder of an INSERT takes nothing but a query as its source. -/
theorem insertStmt_queryShaped :
    insertStmt.Ensures Query.anything fun record => (Layer.insertStmt record).QueryShaped := by
  simp +contextual [insertStmt, Query.anything, Layer.QueryShaped, Node.isSelect_of_select?]

end Decoder

/-- Every decoder puts queries where they belong, whatever the answers to its questions are. -/
theorem Kind.decoder_queryShaped (kind : Kind) :
    kind.decoder.Ensures Query.anything Node.QueryShaped := by
  cases kind <;> simp only [Kind.decoder, Decoder.ensures_map, Decoder.ensures_done]
  case selectStmt => exact Decoder.selectStmt_queryShaped
  case subLink => exact Decoder.subLink_queryShaped
  case rangeSubselect => exact Decoder.rangeSubselect_queryShaped
  case insertStmt => exact Decoder.insertStmt_queryShaped
  case aStar | null => exact trivial
  -- The other kinds have no field that stands for a query.
  all_goals simp only [Node.QueryShaped, Node.layer, Layer.QueryShaped, Decoder.ensures_true]

/-- Building keeps queries where they belong, everywhere in a tree. -/
theorem buildable_queryShaped : Buildable (Node.Everywhere Node.QueryShaped) :=
  .everywhere (fun _ => trivial) (fun _ => trivial) Kind.decoder_queryShaped

/-! ## Built trees -/

namespace Builder

/-- **Every node of every tree that is built has queries where they belong**, whatever the raw value
and the limit are, and whether one record is built or the statements of a parse result. -/
theorem contains_queryShaped (b : Builder) (raw : Json) :
    (∀ n, b.build raw = .ok (some n) → ∀ m, n.Contains m → m.QueryShaped) ∧
      ∀ ns, b.statements raw = .ok ns → ∀ n ∈ ns, ∀ m, n.Contains m → m.QueryShaped :=
  ⟨fun _ built => buildable_queryShaped.build built,
    fun _ built => buildable_queryShaped.statements built⟩

/-- `(SELECT UNION SELECT)` in an expression, as a raw tree. -/
def unionSubLink : Json :=
  .object [("SubLink", .object [("subLinkType", .string "EXPR_SUBLINK"),
    ("subselect", .object [("SelectStmt", .object [("op", .string "SETOP_UNION"),
      ("larg", .object [("SelectStmt", .object [])]),
      ("rarg", .object [("SelectStmt", .object [])])])])])]

/-- A sub-link to a set operation is built, as a record and as the only statement of a list. -/
theorem unionSubLink_queryShaped :
    (∃ n, standard.build unionSubLink = .ok (some n) ∧ ∀ m, n.Contains m → m.QueryShaped) ∧
      ∃ ns, standard.statements (.array [unionSubLink]) = .ok ns ∧
        ∀ n ∈ ns, ∀ m, n.Contains m → m.QueryShaped :=
  ⟨⟨_, rfl, (contains_queryShaped standard unionSubLink).1 _ rfl⟩,
    _, rfl, (contains_queryShaped standard (.array [unionSubLink])).2 _ rfl⟩

end Builder

end SqlTree
