/-!
# Kinds of node

The forty-five kinds of record in a parse tree, and the tags that name them.
-/

namespace SqlTree

/-- The kind of a record. -/
inductive Kind where
  -- statements and their clauses
  | rawStmt
  | selectStmt
  | insertStmt
  | updateStmt
  | deleteStmt
  | intoClause
  | resTarget
  | sortBy
  | withClause
  | commonTableExpr
  -- range entries
  | rangeVar
  | rangeSubselect
  | rangeFunction
  | joinExpr
  | aliasClause
  -- expressions
  | boolExpr
  | subLink
  | caseExpr
  | caseWhen
  | nullTest
  | booleanTest
  | rowExpr
  | setToDefault
  | aExpr
  | funcCall
  | typeCast
  | typeName
  | columnRef
  | paramRef
  | aConst
  | aStar
  | coalesceExpr
  | minMaxExpr
  | nullIfExpr
  | aArrayExpr
  | aIndirection
  | aIndices
  | collateClause
  | sqlValueFunction
  -- lists and plain values
  | list
  | string
  | integer
  | float
  | boolean
  | null
  deriving BEq, DecidableEq, Repr

namespace Kind

/-- The tag of a kind. -/
def tag : Kind → String
  | rawStmt => "RawStmt"
  | selectStmt => "SelectStmt"
  | insertStmt => "InsertStmt"
  | updateStmt => "UpdateStmt"
  | deleteStmt => "DeleteStmt"
  | intoClause => "IntoClause"
  | resTarget => "ResTarget"
  | sortBy => "SortBy"
  | withClause => "WithClause"
  | commonTableExpr => "CommonTableExpr"
  | rangeVar => "RangeVar"
  | rangeSubselect => "RangeSubselect"
  | rangeFunction => "RangeFunction"
  | joinExpr => "JoinExpr"
  | aliasClause => "Alias"
  | boolExpr => "BoolExpr"
  | subLink => "SubLink"
  | caseExpr => "CaseExpr"
  | caseWhen => "CaseWhen"
  | nullTest => "NullTest"
  | booleanTest => "BooleanTest"
  | rowExpr => "RowExpr"
  | setToDefault => "SetToDefault"
  | aExpr => "A_Expr"
  | funcCall => "FuncCall"
  | typeCast => "TypeCast"
  | typeName => "TypeName"
  | columnRef => "ColumnRef"
  | paramRef => "ParamRef"
  | aConst => "A_Const"
  | aStar => "A_Star"
  | coalesceExpr => "CoalesceExpr"
  | minMaxExpr => "MinMaxExpr"
  | nullIfExpr => "NullIfExpr"
  | aArrayExpr => "A_ArrayExpr"
  | aIndirection => "A_Indirection"
  | aIndices => "A_Indices"
  | collateClause => "CollateClause"
  | sqlValueFunction => "SQLValueFunction"
  | list => "List"
  | string => "String"
  | integer => "Integer"
  | float => "Float"
  | boolean => "Boolean"
  | null => "Null"

/-- Every kind, once. -/
def all : List Kind :=
  [rawStmt, selectStmt, insertStmt, updateStmt, deleteStmt, intoClause, resTarget, sortBy,
    withClause, commonTableExpr, rangeVar, rangeSubselect, rangeFunction, joinExpr, aliasClause,
    boolExpr, subLink, caseExpr, caseWhen, nullTest, booleanTest, rowExpr, setToDefault, aExpr,
    funcCall, typeCast, typeName, columnRef, paramRef, aConst, aStar, coalesceExpr, minMaxExpr,
    nullIfExpr, aArrayExpr, aIndirection, aIndices, collateClause, sqlValueFunction, list, string,
    integer, float, boolean, null]

/-- The kind that a tag names. -/
def ofTag? (tag : String) : Option Kind := all.find? fun kind => kind.tag == tag

/-- Every kind is named by its tag. -/
theorem ofTag?_tag (kind : Kind) : ofTag? kind.tag = some kind := by
  cases kind <;> rfl

/-- A tag names at most one kind, the one that it is the tag of. -/
theorem ofTag?_eq_some_iff {tag : String} {kind : Kind} :
    ofTag? tag = some kind ↔ tag = kind.tag := by
  constructor
  · intro h
    have found : all.find? (fun kind => kind.tag == tag) = some kind := h
    have named := List.find?_some found
    exact (beq_iff_eq.1 named).symm
  · rintro rfl
    exact ofTag?_tag kind

end Kind

end SqlTree
