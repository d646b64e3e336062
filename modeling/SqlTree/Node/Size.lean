import SqlTree.Node.Basic

/-!
# Children are smaller

Every child of a node is smaller than the node (`Node.sizeOf_lt`), so recursion over children ends.
A value no smaller than a record is at none of its child positions, since each position is smaller
than the record.
-/

namespace SqlTree

section Positions

variable {α : Type} [SizeOf α] {a : α}

theorem eq_false_of_sizeOf_lt {b : α} (h : sizeOf b < sizeOf a) : (a = b) = False :=
  eq_false fun e => Nat.lt_irrefl _ (e ▸ h)

theorem mem_false_of_sizeOf_le {l : List α} (h : sizeOf l ≤ sizeOf a) : (a ∈ l) = False :=
  eq_false fun m => Nat.not_le_of_lt (List.sizeOf_lt_of_mem m) h

theorem mem_toList_false_of_sizeOf_le {o : Option α} (h : sizeOf o ≤ sizeOf a) :
    (a ∈ o.toList) = False := by
  refine eq_false fun m => ?_
  obtain rfl : o = some a := by simpa using m
  simp only [Option.some.sizeOf_spec] at h
  omega

theorem mem_flatten_false_of_sizeOf_le {ls : List (List α)} (h : sizeOf ls ≤ sizeOf a) :
    (a ∈ ls.flatten) = False := by
  refine eq_false fun m => ?_
  obtain ⟨l, hl, ha⟩ := List.mem_flatten.1 m
  exact Nat.not_le_of_lt (Nat.lt_trans (List.sizeOf_lt_of_mem ha) (List.sizeOf_lt_of_mem hl)) h

/-- A value at a child position is smaller than its record. -/
theorem Layer.sizeOf_lt {l : Layer α} (h : a ∈ l.children) : sizeOf a < sizeOf l := by
  refine Nat.lt_of_not_le fun le => ?_
  revert h
  cases l
  case scalar | aStar | setToDefault | paramRef | aConst | sqlValueFunction => simp [Layer.children]
  case list items =>
    simp only [Layer.list.sizeOf_spec] at le
    simp (disch := omega) [Layer.children, mem_false_of_sizeOf_le]
  all_goals
    rename_i record
    cases record
    simp at le
    simp (disch := omega) [Layer.children, RawStmt.children, SelectStmt.children,
      InsertStmt.children, InsertStmt.readChildren, UpdateStmt.children, DeleteStmt.children,
      IntoClause.children, ResTarget.children, SortBy.children, WithClause.children,
      CommonTableExpr.children, RangeVar.children, RangeSubselect.children,
      RangeFunction.children, JoinExpr.children, Alias.children, BoolExpr.children,
      SubLink.children, CaseExpr.children, CaseWhen.children, NullTest.children,
      BooleanTest.children, RowExpr.children, AExpr.children, FuncCall.children,
      TypeCast.children, TypeName.children, ColumnRef.children, CoalesceExpr.children,
      MinMaxExpr.children, NullIfExpr.children, AArrayExpr.children, AIndirection.children,
      AIndices.children, CollateClause.children, -List.mem_flatten, -Option.mem_toList,
      mem_false_of_sizeOf_le, mem_toList_false_of_sizeOf_le, mem_flatten_false_of_sizeOf_le,
      eq_false_of_sizeOf_lt]

end Positions

/-- A child is smaller than its parent. -/
theorem Node.sizeOf_lt {n c : Node} (h : c ∈ n.children) : sizeOf c < sizeOf n := by
  cases n with
  | of layer =>
    have : sizeOf c < sizeOf layer := Layer.sizeOf_lt h
    simp only [Node.of.sizeOf_spec]
    omega

end SqlTree
