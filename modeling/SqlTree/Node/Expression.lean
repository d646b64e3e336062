import SqlTree.Vocabulary.Expression
import SqlTree.Vocabulary.Query
import SqlTree.Node.Scalar

/-!
# Expressions

The records of expressions, each over the type `α` at its child positions. Names are lists of
nodes, since a qualified name has several parts and a column reference may end in `*`.
-/

namespace SqlTree

/-- A boolean operator applied to its operands. -/
structure BoolExpr (α : Type) where
  boolop : BoolExprType
  args : List α
  location : Int
  deriving BEq

/-- A sub-select inside an expression. -/
structure SubLink (α : Type) where
  subLinkType : SubLinkType
  subLinkId : Int
  testexpr : Option α
  operName : List α
  subselect : α
  location : Int
  deriving BEq

/-- `CASE [arg] WHEN ... THEN ... [ELSE defresult] END` -/
structure CaseExpr (α : Type) where
  casetype : Option Int
  casecollid : Option Int
  arg : Option α
  /-- The branches, in the order written. -/
  args : List α
  defresult : Option α
  location : Int
  deriving BEq

/-- `WHEN expr THEN result` -/
structure CaseWhen (α : Type) where
  expr : Option α
  result : Option α
  location : Int
  deriving BEq

/-- `arg IS [NOT] NULL` -/
structure NullTest (α : Type) where
  arg : Option α
  nulltesttype : NullTestType
  argisrow : Bool
  location : Int
  deriving BEq

/-- `arg IS [NOT] TRUE | FALSE | UNKNOWN` -/
structure BooleanTest (α : Type) where
  arg : Option α
  booltesttype : BoolTestType
  location : Int
  deriving BEq

/-- A row constructor: `ROW(a, b, ...)`. -/
structure RowExpr (α : Type) where
  args : List α
  colnames : List α
  rowFormat : CoercionForm
  rowTypeid : Option Int
  location : Int
  deriving BEq

/-- `DEFAULT` in the place of a value. -/
structure SetToDefault where
  typeId : Option Int
  typeMod : Option Int
  collation : Option Int
  location : Int
  deriving BEq

/-- An operator expression: `lexpr op rexpr`. -/
structure AExpr (α : Type) where
  kind : AExprKind
  name : List α
  lexpr : Option α
  rexpr : Option α
  location : Int
  deriving BEq

/-- A call of a function or an aggregate. -/
structure FuncCall (α : Type) where
  funcname : List α
  args : List α
  aggOrder : List α
  aggFilter : Option α
  aggStar : Bool
  aggDistinct : Bool
  funcVariadic : Bool
  location : Int
  deriving BEq

/-- `CAST(arg AS typeName)` -/
structure TypeCast (α : Type) where
  arg : Option α
  typeName : Option α
  location : Int
  deriving BEq

/-- The name of a type, with its modifiers and array bounds. -/
structure TypeName (α : Type) where
  names : List α
  typmods : List α
  arrayBounds : List α
  setof : Bool
  location : Int
  deriving BEq

/-- `[table.]column` or `[table.]*` -/
structure ColumnRef (α : Type) where
  fields : List α
  location : Int
  /-- Whether the column was marked as able to hold nulls. -/
  nullable : Bool
  deriving BEq

/-- The parameter `$number`. -/
structure ParamRef where
  number : Int
  location : Int
  /-- Whether the parameter was marked as able to be null. -/
  nullable : Bool
  deriving BEq

/-- A literal constant. -/
structure AConst where
  val : Scalar
  location : Int
  deriving BEq

/-- `COALESCE(a, b, ...)` -/
structure CoalesceExpr (α : Type) where
  coalescetype : Option Int
  coalescecollid : Option Int
  args : List α
  location : Int
  deriving BEq

/-- `GREATEST(a, b, ...)` or `LEAST(a, b, ...)` -/
structure MinMaxExpr (α : Type) where
  op : MinMaxOp
  minmaxtype : Option Int
  args : List α
  location : Int
  deriving BEq

/-- `NULLIF(a, b)` with its operator resolved. -/
structure NullIfExpr (α : Type) where
  opno : Option Int
  opresulttype : Option Int
  opcollid : Option Int
  inputcollid : Option Int
  args : List α
  location : Int
  deriving BEq

/-- `ARRAY[a, b, ...]` -/
structure AArrayExpr (α : Type) where
  elements : List α
  location : Int
  deriving BEq

/-- Subscripts and field selections applied to an expression: `(arg)[1].name`. -/
structure AIndirection (α : Type) where
  arg : α
  indirection : List α
  deriving BEq

/-- A subscript `[uidx]` or a slice `[lidx:uidx]`. -/
structure AIndices (α : Type) where
  isSlice : Bool
  lidx : Option α
  uidx : Option α
  deriving BEq

/-- `arg COLLATE collname` -/
structure CollateClause (α : Type) where
  arg : Option α
  collname : List α
  location : Int
  deriving BEq

/-- A function called by its keyword, such as `CURRENT_DATE`. -/
structure SqlValueFunction where
  op : SqlValueFunctionOp
  typeId : Option Int
  typmod : Int
  location : Int
  deriving BEq

variable {α : Type}

namespace BoolExpr

/-- The nodes of the record. -/
def children (s : BoolExpr α) : List α := s.args

end BoolExpr

namespace SubLink

/-- The nodes of the record. -/
def children (s : SubLink α) : List α := s.testexpr.toList ++ s.operName ++ [s.subselect]

end SubLink

namespace CaseExpr

/-- The nodes of the record. -/
def children (s : CaseExpr α) : List α := s.arg.toList ++ s.args ++ s.defresult.toList

end CaseExpr

namespace CaseWhen

/-- The nodes of the record. -/
def children (s : CaseWhen α) : List α := s.expr.toList ++ s.result.toList

end CaseWhen

namespace NullTest

/-- The nodes of the record. -/
def children (s : NullTest α) : List α := s.arg.toList

end NullTest

namespace BooleanTest

/-- The nodes of the record. -/
def children (s : BooleanTest α) : List α := s.arg.toList

end BooleanTest

namespace RowExpr

/-- The nodes of the record. -/
def children (s : RowExpr α) : List α := s.args ++ s.colnames

end RowExpr

namespace AExpr

/-- The nodes of the record. -/
def children (s : AExpr α) : List α := s.name ++ s.lexpr.toList ++ s.rexpr.toList

end AExpr

namespace FuncCall

/-- The nodes of the record. -/
def children (s : FuncCall α) : List α := s.funcname ++ s.args ++ s.aggOrder ++ s.aggFilter.toList

end FuncCall

namespace TypeCast

/-- The nodes of the record. -/
def children (s : TypeCast α) : List α := s.arg.toList ++ s.typeName.toList

end TypeCast

namespace TypeName

/-- The nodes of the record. -/
def children (s : TypeName α) : List α := s.names ++ s.typmods ++ s.arrayBounds

end TypeName

namespace ColumnRef

/-- The nodes of the record. -/
def children (s : ColumnRef α) : List α := s.fields

end ColumnRef

namespace CoalesceExpr

/-- The nodes of the record. -/
def children (s : CoalesceExpr α) : List α := s.args

end CoalesceExpr

namespace MinMaxExpr

/-- The nodes of the record. -/
def children (s : MinMaxExpr α) : List α := s.args

end MinMaxExpr

namespace NullIfExpr

/-- The nodes of the record. -/
def children (s : NullIfExpr α) : List α := s.args

end NullIfExpr

namespace AArrayExpr

/-- The nodes of the record. -/
def children (s : AArrayExpr α) : List α := s.elements

end AArrayExpr

namespace AIndirection

/-- The nodes of the record. -/
def children (s : AIndirection α) : List α := s.arg :: s.indirection

end AIndirection

namespace AIndices

/-- The nodes of the record. -/
def children (s : AIndices α) : List α := s.lidx.toList ++ s.uidx.toList

end AIndices

namespace CollateClause

/-- The nodes of the record. -/
def children (s : CollateClause α) : List α := s.arg.toList ++ s.collname

end CollateClause

end SqlTree
