import SqlTree.Vocabulary.Query

/-!
# Statements and their clauses

The records of statements, each over the type `α` that stands at its child positions. `children`
lists what those positions hold in the order in which the fields are declared; an optional position
that is empty contributes nothing.

A location is an offset into the text of the statement, or `-1` where there is none.
-/

namespace SqlTree

/-- One statement of a parse result. -/
structure RawStmt (α : Type) where
  stmt : α
  stmtLocation : Int
  /-- The length in bytes; zero stands for the rest of the text. -/
  stmtLen : Int
  deriving BEq

/-- A SELECT, a VALUES list or a set operation. A plain query has its clauses, a set operation its
two operands and the trailing clauses; nothing in the type keeps the two apart. -/
structure SelectStmt (α : Type) where
  distinctClause : List α
  intoClause : Option α
  targetList : List α
  fromClause : List α
  whereClause : Option α
  groupClause : List α
  havingClause : Option α
  /-- One list for each row of a VALUES list. -/
  valuesLists : List α
  sortClause : List α
  limitOffset : Option α
  limitCount : Option α
  withClause : Option α
  op : SetOperation
  all : Bool
  larg : Option α
  rarg : Option α
  deriving BEq

/-- `INSERT INTO relation [(cols)] ...` -/
structure InsertStmt (α : Type) where
  relation : α
  cols : List α
  /-- The rows to insert; absent for `DEFAULT VALUES`. -/
  selectStmt : Option α
  returningList : List α
  withClause : Option α
  deriving BEq

/-- `UPDATE relation SET ... [FROM ...] [WHERE ...] [RETURNING ...]` -/
structure UpdateStmt (α : Type) where
  relation : α
  targetList : List α
  whereClause : Option α
  fromClause : List α
  returningList : List α
  withClause : Option α
  deriving BEq

/-- `DELETE FROM relation [USING ...] [WHERE ...] [RETURNING ...]` -/
structure DeleteStmt (α : Type) where
  relation : α
  usingClause : List α
  whereClause : Option α
  returningList : List α
  withClause : Option α
  deriving BEq

/-- The target of `SELECT ... INTO` and of `CREATE TABLE ... AS`. -/
structure IntoClause (α : Type) where
  rel : Option α
  colNames : List α
  options : List α
  onCommit : OnCommitAction
  tableSpaceName : Option String
  skipData : Bool
  deriving BEq

/-- One entry of a target list: `val [AS name]`. -/
structure ResTarget (α : Type) where
  name : Option String
  indirection : List α
  val : Option α
  location : Int
  deriving BEq

/-- One item of an ORDER BY. -/
structure SortBy (α : Type) where
  node : Option α
  sortbyDir : SortByDir
  sortbyNulls : SortByNulls
  useOp : List α
  location : Int
  deriving BEq

/-- `WITH [RECURSIVE] name AS (...) [, ...]` -/
structure WithClause (α : Type) where
  ctes : List α
  recursive : Bool
  location : Int
  deriving BEq

/-- One named query of a WITH clause. -/
structure CommonTableExpr (α : Type) where
  ctename : String
  aliascolnames : List α
  ctequery : α
  location : Int
  deriving BEq

variable {α : Type}

namespace RawStmt

/-- The nodes of the record. -/
def children (s : RawStmt α) : List α := [s.stmt]

end RawStmt

namespace SelectStmt

/-- The nodes of the record. -/
def children (s : SelectStmt α) : List α :=
  s.distinctClause ++ s.intoClause.toList ++ s.targetList ++ s.fromClause ++ s.whereClause.toList ++
    s.groupClause ++ s.havingClause.toList ++ s.valuesLists ++ s.sortClause ++
    s.limitOffset.toList ++ s.limitCount.toList ++ s.withClause.toList ++ s.larg.toList ++
    s.rarg.toList

/-- Whether the record combines two operands. -/
def isSetOperation (s : SelectStmt α) : Bool := s.op != .none

end SelectStmt

namespace InsertStmt

/-- The nodes that the statement reads from: all but the relation, which is only written. -/
def readChildren (s : InsertStmt α) : List α :=
  s.cols ++ s.selectStmt.toList ++ s.returningList ++ s.withClause.toList

/-- The nodes of the record. -/
def children (s : InsertStmt α) : List α := s.relation :: s.readChildren

end InsertStmt

namespace UpdateStmt

/-- The nodes of the record. -/
def children (s : UpdateStmt α) : List α :=
  s.relation :: (s.targetList ++ s.whereClause.toList ++ s.fromClause ++ s.returningList ++
    s.withClause.toList)

end UpdateStmt

namespace DeleteStmt

/-- The nodes of the record. -/
def children (s : DeleteStmt α) : List α :=
  s.relation :: (s.usingClause ++ s.whereClause.toList ++ s.returningList ++ s.withClause.toList)

end DeleteStmt

namespace IntoClause

/-- The nodes of the record. -/
def children (s : IntoClause α) : List α := s.rel.toList ++ s.colNames ++ s.options

end IntoClause

namespace ResTarget

/-- The nodes of the record. -/
def children (s : ResTarget α) : List α := s.indirection ++ s.val.toList

end ResTarget

namespace SortBy

/-- The nodes of the record. -/
def children (s : SortBy α) : List α := s.node.toList ++ s.useOp

end SortBy

namespace WithClause

/-- The nodes of the record. -/
def children (s : WithClause α) : List α := s.ctes

end WithClause

namespace CommonTableExpr

/-- The nodes of the record. -/
def children (s : CommonTableExpr α) : List α := s.aliascolnames ++ [s.ctequery]

end CommonTableExpr

end SqlTree
