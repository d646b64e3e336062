import SqlTree.Record.Decoder

/-!
# Decoders of statements and their clauses

Each decoder asks for the fields of its record in a fixed order, and of several malformed fields the
first one asked for is the one reported. A set operation is refused before anything but its operands
is read when one of them is missing.
-/

namespace SqlTree.Decoder

/-- A statement and the part of the text that it takes up. -/
def rawStmt : Decoder (RawStmt Node) := do
  let stmt ← requiredChild "stmt"
  let stmtLocation := (← integer "stmt_location").getD 0
  let stmtLen := (← integer "stmt_len").getD 0
  return { stmt, stmtLocation, stmtLen }

/-- The operator of a query and its operands, of which a set operation has to have both. -/
def operands : Decoder (SetOperation × Option Node × Option Node) := do
  let op : SetOperation ← enumeration "op"
  let larg ← optionalSelectChild "larg"
  let rarg ← optionalSelectChild "rarg"
  if op != .none && larg.isNone then
    fail "larg" .record
  else if op != .none && rarg.isNone then
    fail "rarg" .record
  else
    return (op, larg, rarg)

/-- A SELECT, a VALUES list or a set operation. -/
def selectStmt : Decoder (SelectStmt Node) := do
  let (op, larg, rarg) ← operands
  let distinctClause ← children "distinctClause"
  let intoClause ← child "intoClause"
  let targetList ← children "targetList"
  let fromClause ← children "fromClause"
  let whereClause ← child "whereClause"
  let groupClause ← children "groupClause"
  let havingClause ← child "havingClause"
  let valuesLists ← children "valuesLists"
  let sortClause ← children "sortClause"
  let limitOffset ← child "limitOffset"
  let limitCount ← child "limitCount"
  let withClause ← child "withClause"
  let all ← flag "all"
  return { distinctClause, intoClause, targetList, fromClause, whereClause, groupClause,
           havingClause, valuesLists, sortClause, limitOffset, limitCount, withClause, op, all,
           larg, rarg }

/-- An INSERT. -/
def insertStmt : Decoder (InsertStmt Node) := do
  let relation ← requiredChild "relation"
  let cols ← children "cols"
  let selectStmt ← optionalSelectChild "selectStmt"
  let returningList ← children "returningList"
  let withClause ← child "withClause"
  return { relation, cols, selectStmt, returningList, withClause }

/-- An UPDATE. -/
def updateStmt : Decoder (UpdateStmt Node) := do
  let relation ← requiredChild "relation"
  let targetList ← children "targetList"
  let whereClause ← child "whereClause"
  let fromClause ← children "fromClause"
  let returningList ← children "returningList"
  let withClause ← child "withClause"
  return { relation, targetList, whereClause, fromClause, returningList, withClause }

/-- A DELETE. -/
def deleteStmt : Decoder (DeleteStmt Node) := do
  let relation ← requiredChild "relation"
  let usingClause ← children "usingClause"
  let whereClause ← child "whereClause"
  let returningList ← children "returningList"
  let withClause ← child "withClause"
  return { relation, usingClause, whereClause, returningList, withClause }

/-- The target of a SELECT INTO. -/
def intoClause : Decoder (IntoClause Node) := do
  let rel ← child "rel"
  let colNames ← children "colNames"
  let options ← children "options"
  let onCommit ← enumeration "onCommit"
  let tableSpaceName ← string "tableSpaceName"
  let skipData ← flag "skipData"
  return { rel, colNames, options, onCommit, tableSpaceName, skipData }

/-- An entry of a target list. -/
def resTarget : Decoder (ResTarget Node) := do
  let name ← string "name"
  let indirection ← children "indirection"
  let val ← child "val"
  let location ← location
  return { name, indirection, val, location }

/-- An item of an ORDER BY. -/
def sortBy : Decoder (SortBy Node) := do
  let node ← child "node"
  let sortbyDir ← enumeration "sortby_dir"
  let sortbyNulls ← enumeration "sortby_nulls"
  let useOp ← children "useOp"
  let location ← location
  return { node, sortbyDir, sortbyNulls, useOp, location }

/-- A WITH clause. -/
def withClause : Decoder (WithClause Node) := do
  let ctes ← children "ctes"
  let recursive ← flag "recursive"
  let location ← location
  return { ctes, recursive, location }

/-- A named query of a WITH clause. -/
def commonTableExpr : Decoder (CommonTableExpr Node) := do
  let ctename ← requiredString "ctename"
  let aliascolnames ← children "aliascolnames"
  let ctequery ← requiredChild "ctequery"
  let location ← location
  return { ctename, aliascolnames, ctequery, location }

end SqlTree.Decoder
