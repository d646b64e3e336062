import SqlTree.Node.Walk

/-!
# Equality of trees

Every tree is equal to itself. That is not a matter of course where a tree holds a double, which is
compared by value; but there is no NaN among the values that a tree may hold.
-/

namespace SqlTree

instance : ReflBEq Double where
  rfl := by
    intro d
    simp [BEq.beq]

deriving instance ReflBEq for JoinType, SubLinkType, SortByDir, SortByNulls, OnCommitAction
deriving instance ReflBEq for BoolExprType, NullTestType, BoolTestType, CoercionForm, AExprKind
deriving instance ReflBEq for MinMaxOp, SqlValueFunctionOp, Scalar

deriving instance ReflBEq for RawStmt, SelectStmt, InsertStmt, UpdateStmt, DeleteStmt, IntoClause
deriving instance ReflBEq for ResTarget, SortBy, WithClause, CommonTableExpr
deriving instance ReflBEq for RangeVar, RangeSubselect, RangeFunction, JoinExpr, Alias
deriving instance ReflBEq for BoolExpr, SubLink, CaseExpr, CaseWhen, NullTest, BooleanTest, RowExpr
deriving instance ReflBEq for SetToDefault, AExpr, FuncCall, TypeCast, TypeName, ColumnRef, ParamRef
deriving instance ReflBEq for AConst, CoalesceExpr, MinMaxExpr, NullIfExpr, AArrayExpr, AIndirection
deriving instance ReflBEq for AIndices, CollateClause, SqlValueFunction, Layer

theorem Layer.agree_self {α : Type} (l : Layer α) : l.agree l = true := by
  let _ : BEq α := ⟨fun _ _ => true⟩
  have : ReflBEq α := ⟨rfl⟩
  exact BEq.rfl (a := l)

namespace Node

/-- A tree is equal to itself. -/
theorem equal_self (n : Node) : n.equal n = true := by
  have pairs : n.children.attach.zip n.children = n.children.attach.map fun c => (c, c.1) := by
    have all := List.zip_map' (f := id) (g := Subtype.val) (l := n.children.attach)
    rwa [List.map_id, List.attach_map_subtype_val] at all
  rw [equal, pairs, n.layer.agree_self, Bool.true_and, List.all_map, List.all_eq_true]
  rintro ⟨c, child⟩ -
  exact c.equal_self
termination_by sizeOf n
decreasing_by exact sizeOf_lt child

instance : ReflBEq Node := ⟨fun {n} => n.equal_self⟩

end Node

end SqlTree
