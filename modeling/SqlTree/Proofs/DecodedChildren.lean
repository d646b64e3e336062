import SqlTree.Proofs.DecoderLogic

/-!
# The children that decoders read

The children of a record are nodes in the answers that its decoder got, whatever the kind of the
record: none is made up, and none comes from a field that was not asked for. So what is known of all
nodes in the answers holds of all children (`Kind.decoder_children`). The decoder of a query looks
at its operands before it takes them, so it has a lemma of its own.
-/

namespace SqlTree

namespace Decoder

variable {P : Node → Prop}

attribute [local simp] Query.among Query.nodes or_imp forall_and

/-! ## Queries -/

/-- The operands of a query are nodes in the answers and are queries, and a set operation has both
of them. -/
theorem operands_ensures :
    operands.Ensures (Query.among P) fun read =>
      (read.1 ≠ .none → read.2.1.isSome ∧ read.2.2.isSome) ∧
        (∀ n ∈ read.2.1, n.select?.isSome ∧ P n) ∧ ∀ n ∈ read.2.2, n.select?.isSome ∧ P n := by
  have operand : ∀ field : String, (optionalSelectChild field).Ensures (Query.among P) fun found =>
      ∀ n ∈ found, n.select?.isSome ∧ P n := by
    intro field
    simp +contextual
  simp only [operands, ensures_bind, ensures_enumeration]
  intro _ _ op _
  refine (operand "larg").imp fun larg left => ?_
  refine (operand "rarg").imp fun rarg right => ?_
  split
  · trivial
  next noLeft =>
    split
    · trivial
    next noRight =>
      refine ⟨fun (combines : op ≠ .none) => ?_, left, right⟩
      have setOperation : (op != .none) = true := bne_iff_ne.mpr combines
      cases larg with
      | none => simp [setOperation] at noLeft
      | some _ =>
        cases rarg with
        | none => simp [setOperation] at noRight
        | some _ => exact ⟨rfl, rfl⟩

/-- The children of a query are nodes in the answers, its operands among them. -/
theorem selectStmt_children :
    selectStmt.Ensures (Query.among P) fun record => ∀ c ∈ record.children, P c := by
  simp only [selectStmt, ensures_bind]
  refine operands_ensures.imp ?_
  rintro ⟨op, larg, rarg⟩ ⟨-, left, right⟩
  simp only [children, child, flag, ensures_ask, ensures_done, ensures_pure, Query.among,
    Query.nodes, SelectStmt.children, List.mem_append, Option.mem_toList]
  grind

end Decoder

/-! ## All kinds -/

/-- **The children of a record are nodes in the answers**, whatever its kind. -/
theorem Kind.decoder_children {P : Node → Prop} (kind : Kind) :
    kind.decoder.Ensures (Query.among P) fun n => ∀ c ∈ n.children, P c := by
  cases kind <;> simp only [Kind.decoder, Decoder.ensures_map, Decoder.ensures_done]
  all_goals dsimp only [Node.children, Node.layer, Layer.children]
  case selectStmt => exact Decoder.selectStmt_children
  case setToDefault | paramRef | aConst | sqlValueFunction | string | integer | float | boolean =>
    exact Decoder.ensures_of_forall fun _ => List.forall_mem_nil _
  case aStar | null => exact List.forall_mem_nil _
  -- The other decoders ask for their children one field after another.
  all_goals
    simp only [Query.among, Query.nodes, Decoder.ensures_bind, Decoder.ensures_ask,
      Decoder.ensures_done, Decoder.ensures_pure, Decoder.ensures_enumeration,
      Decoder.ensures_location, Decoder.ensures_requiredString, Decoder.ensures_requiredChild,
      Decoder.ensures_selectChild, Decoder.ensures_optionalSelectChild, Decoder.string,
      Decoder.integer, Decoder.flag, Decoder.child, Decoder.children, Decoder.sparseLists,
      List.mem_append, Option.mem_toList, Decoder.rawStmt, Decoder.insertStmt, Decoder.updateStmt,
      Decoder.deleteStmt, Decoder.intoClause, Decoder.resTarget, Decoder.sortBy,
      Decoder.withClause, Decoder.commonTableExpr, Decoder.rangeVar, Decoder.rangeSubselect,
      Decoder.rangeFunction, Decoder.joinExpr, Decoder.aliasClause, Decoder.boolExpr,
      Decoder.subLink, Decoder.caseExpr, Decoder.caseWhen, Decoder.nullTest, Decoder.booleanTest,
      Decoder.rowExpr, Decoder.aExpr, Decoder.funcCall, Decoder.typeCast, Decoder.typeName,
      Decoder.columnRef, Decoder.coalesceExpr, Decoder.minMaxExpr, Decoder.nullIfExpr,
      Decoder.aArrayExpr, Decoder.aIndirection, Decoder.aIndices, Decoder.collateClause,
      RawStmt.children, InsertStmt.children, InsertStmt.readChildren, UpdateStmt.children,
      DeleteStmt.children, IntoClause.children, ResTarget.children, SortBy.children,
      WithClause.children, CommonTableExpr.children, RangeVar.children, RangeSubselect.children,
      RangeFunction.children, JoinExpr.children, Alias.children, BoolExpr.children,
      SubLink.children, CaseExpr.children, CaseWhen.children, NullTest.children,
      BooleanTest.children, RowExpr.children, AExpr.children, FuncCall.children,
      TypeCast.children, TypeName.children, ColumnRef.children, CoalesceExpr.children,
      MinMaxExpr.children, NullIfExpr.children, AArrayExpr.children, AIndirection.children,
      AIndices.children, CollateClause.children]
  case rangeVar =>
    -- Of the two fields for inheritance neither has nodes.
    refine Decoder.ensures_of_forall fun inh => ?_
    grind
  all_goals grind

end SqlTree
