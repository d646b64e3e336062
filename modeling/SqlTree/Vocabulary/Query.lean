import SqlTree.Vocabulary.Basic

/-!
# Enumerations of queries

The enumerated fields of statements and of the relations they read: set operations, kinds of join,
uses of a sub-select, sort orders, and the fate of a temporary table. Where a value has a name of
its own in messages, `keyword` gives it.
-/

namespace SqlTree

/-- How the two operands of a SELECT are combined. -/
inductive SetOperation where
  /-- A plain query, without operands. -/
  | none
  | union
  | intersect
  | except
  deriving BEq, ReflBEq, LawfulBEq, DecidableEq, Repr

instance : Vocabulary SetOperation where
  ofCode?
    | 0 => some .none
    | 1 => some .union
    | 2 => some .intersect
    | 3 => some .except
    | _ => none
  ofSymbol?
    | "SETOP_NONE" => some .none
    | "SETOP_UNION" => some .union
    | "SETOP_INTERSECT" => some .intersect
    | "SETOP_EXCEPT" => some .except
    | _ => none
  entries :=
    [(.none, "SETOP_NONE"), (.union, "SETOP_UNION"), (.intersect, "SETOP_INTERSECT"),
      (.except, "SETOP_EXCEPT")]

/-- The name of a set operation. -/
def SetOperation.keyword : SetOperation → String
  | .none => "NONE"
  | .union => "UNION"
  | .intersect => "INTERSECT"
  | .except => "EXCEPT"

/-- A kind of join. -/
inductive JoinType where
  | inner
  | left
  | full
  | right
  deriving BEq, DecidableEq, Repr

instance : Vocabulary JoinType where
  ofCode?
    | 0 => some .inner
    | 1 => some .left
    | 2 => some .full
    | 3 => some .right
    | _ => none
  ofSymbol?
    | "JOIN_INNER" => some .inner
    | "JOIN_LEFT" => some .left
    | "JOIN_FULL" => some .full
    | "JOIN_RIGHT" => some .right
    | _ => none
  entries :=
    [(.inner, "JOIN_INNER"), (.left, "JOIN_LEFT"), (.full, "JOIN_FULL"), (.right, "JOIN_RIGHT")]

/-- The name of a kind of join. -/
def JoinType.keyword : JoinType → String
  | .inner => "INNER"
  | .left => "LEFT"
  | .full => "FULL"
  | .right => "RIGHT"

/-- Whether a join pads rows without a partner with nulls: every kind but the inner join does. -/
def JoinType.isOuter : JoinType → Bool
  | .inner => false
  | .left | .full | .right => true

/-- How a sub-select is used inside an expression. -/
inductive SubLinkType where
  /-- `EXISTS (SELECT ...)` -/
  | existence
  /-- `x op ALL (SELECT ...)`, also `NOT IN` -/
  | all
  /-- `x op ANY (SELECT ...)`, also `IN` -/
  | any
  | rowCompare
  /-- A scalar `(SELECT ...)`. -/
  | expr
  | multiExpr
  | array
  | cte
  deriving BEq, DecidableEq, Repr

instance : Vocabulary SubLinkType where
  ofCode?
    | 0 => some .existence
    | 1 => some .all
    | 2 => some .any
    | 3 => some .rowCompare
    | 4 => some .expr
    | 5 => some .multiExpr
    | 6 => some .array
    | 7 => some .cte
    | _ => none
  ofSymbol?
    | "EXISTS_SUBLINK" => some .existence
    | "ALL_SUBLINK" => some .all
    | "ANY_SUBLINK" => some .any
    | "ROWCOMPARE_SUBLINK" => some .rowCompare
    | "EXPR_SUBLINK" => some .expr
    | "MULTIEXPR_SUBLINK" => some .multiExpr
    | "ARRAY_SUBLINK" => some .array
    | "CTE_SUBLINK" => some .cte
    | _ => none
  entries :=
    [(.existence, "EXISTS_SUBLINK"), (.all, "ALL_SUBLINK"), (.any, "ANY_SUBLINK"),
      (.rowCompare, "ROWCOMPARE_SUBLINK"), (.expr, "EXPR_SUBLINK"),
      (.multiExpr, "MULTIEXPR_SUBLINK"), (.array, "ARRAY_SUBLINK"), (.cte, "CTE_SUBLINK")]

/-- The name of a use of a sub-select. -/
def SubLinkType.keyword : SubLinkType → String
  | .existence => "EXISTS"
  | .all => "ALL"
  | .any => "ANY"
  | .rowCompare => "ROWCOMPARE"
  | .expr => "EXPR"
  | .multiExpr => "MULTIEXPR"
  | .array => "ARRAY"
  | .cte => "CTE"

/-- The direction of an ORDER BY item. -/
inductive SortByDir where
  | default
  | asc
  | desc
  /-- `USING operator` -/
  | usingOp
  deriving BEq, DecidableEq, Repr

instance : Vocabulary SortByDir where
  ofCode?
    | 0 => some .default
    | 1 => some .asc
    | 2 => some .desc
    | 3 => some .usingOp
    | _ => none
  ofSymbol?
    | "SORTBY_DEFAULT" => some .default
    | "SORTBY_ASC" => some .asc
    | "SORTBY_DESC" => some .desc
    | "SORTBY_USING" => some .usingOp
    | _ => none
  entries :=
    [(.default, "SORTBY_DEFAULT"), (.asc, "SORTBY_ASC"), (.desc, "SORTBY_DESC"),
      (.usingOp, "SORTBY_USING")]

/-- The place of nulls in an ORDER BY item. -/
inductive SortByNulls where
  | default
  | first
  | last
  deriving BEq, DecidableEq, Repr

instance : Vocabulary SortByNulls where
  ofCode?
    | 0 => some .default
    | 1 => some .first
    | 2 => some .last
    | _ => none
  ofSymbol?
    | "SORTBY_NULLS_DEFAULT" => some .default
    | "SORTBY_NULLS_FIRST" => some .first
    | "SORTBY_NULLS_LAST" => some .last
    | _ => none
  entries :=
    [(.default, "SORTBY_NULLS_DEFAULT"), (.first, "SORTBY_NULLS_FIRST"),
      (.last, "SORTBY_NULLS_LAST")]

/-- What happens to a temporary table at the end of the transaction. -/
inductive OnCommitAction where
  | noop
  | preserveRows
  | deleteRows
  | drop
  deriving BEq, DecidableEq, Repr

instance : Vocabulary OnCommitAction where
  ofCode?
    | 0 => some .noop
    | 1 => some .preserveRows
    | 2 => some .deleteRows
    | 3 => some .drop
    | _ => none
  ofSymbol?
    | "ONCOMMIT_NOOP" => some .noop
    | "ONCOMMIT_PRESERVE_ROWS" => some .preserveRows
    | "ONCOMMIT_DELETE_ROWS" => some .deleteRows
    | "ONCOMMIT_DROP" => some .drop
    | _ => none
  entries :=
    [(.noop, "ONCOMMIT_NOOP"), (.preserveRows, "ONCOMMIT_PRESERVE_ROWS"),
      (.deleteRows, "ONCOMMIT_DELETE_ROWS"), (.drop, "ONCOMMIT_DROP")]

end SqlTree
