import SqlTree.Vocabulary.Query

/-!
# Range entries

The records that stand for relations in a FROM clause, each over the type `α` at its child
positions. `RangeVar` is the only record that names a base table.
-/

namespace SqlTree

/-- A reference to a relation by name. -/
structure RangeVar (α : Type) where
  catalogname : Option String
  schemaname : Option String
  relname : String
  /-- Whether the reference also reads the tables that inherit from the relation. -/
  inh : Bool
  relpersistence : Option String
  aliasClause : Option α
  location : Int
  /-- Whether the relation was marked as able to yield nulls. -/
  nullable : Bool
  deriving BEq

/-- A sub-select in a FROM clause: `[LATERAL] (SELECT ...) alias`. -/
structure RangeSubselect (α : Type) where
  lateral : Bool
  subquery : α
  aliasClause : Option α
  deriving BEq

/-- Functions in a FROM clause: `[LATERAL] f(...) [WITH ORDINALITY] alias`, or several of them in
`ROWS FROM (f(...), g(...))`. -/
structure RangeFunction (α : Type) where
  lateral : Bool
  ordinality : Bool
  isRowsfrom : Bool
  /-- One list for each function: the call, then its column definitions if any. -/
  functions : List (List α)
  aliasClause : Option α
  coldeflist : List α
  deriving BEq

/-- `larg JOIN rarg`, with its condition in `quals` or in `usingClause`. -/
structure JoinExpr (α : Type) where
  jointype : JoinType
  isNatural : Bool
  larg : α
  rarg : α
  usingClause : List α
  quals : Option α
  aliasClause : Option α
  deriving BEq

/-- `AS name (col, ...)`, attached to a range entry. -/
structure Alias (α : Type) where
  aliasname : String
  colnames : List α
  deriving BEq

variable {α : Type}

namespace RangeVar

/-- The nodes of the record. -/
def children (s : RangeVar α) : List α := s.aliasClause.toList

/-- `schema.relation` when a schema is named, otherwise `relation`. -/
def qualifiedName (s : RangeVar α) : String :=
  match s.schemaname with
  | some schema => schema ++ "." ++ s.relname
  | none => s.relname

end RangeVar

namespace RangeSubselect

/-- The nodes of the record. -/
def children (s : RangeSubselect α) : List α := s.subquery :: s.aliasClause.toList

end RangeSubselect

namespace RangeFunction

/-- The nodes of the record. -/
def children (s : RangeFunction α) : List α :=
  s.functions.flatten ++ s.aliasClause.toList ++ s.coldeflist

end RangeFunction

namespace JoinExpr

/-- The nodes of the record. -/
def children (s : JoinExpr α) : List α :=
  s.larg :: s.rarg :: (s.usingClause ++ s.quals.toList ++ s.aliasClause.toList)

/-- Whether the record is a CROSS JOIN, which is written as an inner join with no condition. -/
def isCross (s : JoinExpr α) : Bool :=
  s.jointype == .inner && !s.isNatural && s.quals.isNone && s.usingClause.isEmpty

end JoinExpr

namespace Alias

/-- The nodes of the record. -/
def children (s : Alias α) : List α := s.colnames

end Alias

end SqlTree
