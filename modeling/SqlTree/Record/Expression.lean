import SqlTree.Record.Decoder

/-!
# Decoders of expressions

Each decoder asks for the fields of its record in a fixed order, and of several malformed fields the
first one asked for is the one reported.
-/

namespace SqlTree.Decoder

/-- A boolean operator applied to its operands. -/
def boolExpr : Decoder (BoolExpr Node) := do
  let boolop ← enumeration "boolop"
  let args ← children "args"
  let location ← location
  return { boolop, args, location }

/-- A sub-select inside an expression. -/
def subLink : Decoder (SubLink Node) := do
  let subLinkType ← enumeration "subLinkType"
  let subLinkId := (← integer "subLinkId").getD 0
  let testexpr ← child "testexpr"
  let operName ← children "operName"
  let subselect ← selectChild "subselect"
  let location ← location
  return { subLinkType, subLinkId, testexpr, operName, subselect, location }

/-- A CASE expression. -/
def caseExpr : Decoder (CaseExpr Node) := do
  let casetype ← integer "casetype"
  let casecollid ← integer "casecollid"
  let arg ← child "arg"
  let args ← children "args"
  let defresult ← child "defresult"
  let location ← location
  return { casetype, casecollid, arg, args, defresult, location }

/-- A branch of a CASE expression. -/
def caseWhen : Decoder (CaseWhen Node) := do
  let expr ← child "expr"
  let result ← child "result"
  let location ← location
  return { expr, result, location }

/-- A test for null. -/
def nullTest : Decoder (NullTest Node) := do
  let arg ← child "arg"
  let nulltesttype ← enumeration "nulltesttype"
  let argisrow ← flag "argisrow"
  let location ← location
  return { arg, nulltesttype, argisrow, location }

/-- A test of a truth value. -/
def booleanTest : Decoder (BooleanTest Node) := do
  let arg ← child "arg"
  let booltesttype ← enumeration "booltesttype"
  let location ← location
  return { arg, booltesttype, location }

/-- A row constructor. -/
def rowExpr : Decoder (RowExpr Node) := do
  let args ← children "args"
  let colnames ← children "colnames"
  let rowFormat ← enumeration "row_format"
  let rowTypeid ← integer "row_typeid"
  let location ← location
  return { args, colnames, rowFormat, rowTypeid, location }

/-- The keyword DEFAULT in the place of a value. -/
def setToDefault : Decoder SetToDefault := do
  let typeId ← integer "typeId"
  let typeMod ← integer "typeMod"
  let collation ← integer "collation"
  let location ← location
  return { typeId, typeMod, collation, location }

/-- An operator expression. -/
def aExpr : Decoder (AExpr Node) := do
  let kind ← enumeration "kind"
  let name ← children "name"
  let lexpr ← child "lexpr"
  let rexpr ← child "rexpr"
  let location ← location
  return { kind, name, lexpr, rexpr, location }

/-- A call of a function or an aggregate. -/
def funcCall : Decoder (FuncCall Node) := do
  let funcname ← children "funcname"
  let args ← children "args"
  let aggOrder ← children "agg_order"
  let aggFilter ← child "agg_filter"
  let aggStar ← flag "agg_star"
  let aggDistinct ← flag "agg_distinct"
  let funcVariadic ← flag "func_variadic"
  let location ← location
  return { funcname, args, aggOrder, aggFilter, aggStar, aggDistinct, funcVariadic, location }

/-- A cast. -/
def typeCast : Decoder (TypeCast Node) := do
  let arg ← child "arg"
  let typeName ← child "typeName"
  let location ← location
  return { arg, typeName, location }

/-- The name of a type. -/
def typeName : Decoder (TypeName Node) := do
  let names ← children "names"
  let typmods ← children "typmods"
  let arrayBounds ← children "arrayBounds"
  let setof ← flag "setof"
  let location ← location
  return { names, typmods, arrayBounds, setof, location }

/-- A reference to a column. -/
def columnRef : Decoder (ColumnRef Node) := do
  let fields ← children "fields"
  let location ← location
  let nullable ← flag "nullable"
  return { fields, location, nullable }

/-- A parameter. -/
def paramRef : Decoder ParamRef := do
  let number := (← integer "number").getD 0
  let location ← location
  let nullable ← flag "nullable"
  return { number, location, nullable }

/-- A COALESCE. -/
def coalesceExpr : Decoder (CoalesceExpr Node) := do
  let coalescetype ← integer "coalescetype"
  let coalescecollid ← integer "coalescecollid"
  let args ← children "args"
  let location ← location
  return { coalescetype, coalescecollid, args, location }

/-- A GREATEST or a LEAST. -/
def minMaxExpr : Decoder (MinMaxExpr Node) := do
  let op ← enumeration "op"
  let minmaxtype ← integer "minmaxtype"
  let args ← children "args"
  let location ← location
  return { op, minmaxtype, args, location }

/-- A NULLIF. -/
def nullIfExpr : Decoder (NullIfExpr Node) := do
  let opno ← integer "opno"
  let opresulttype ← integer "opresulttype"
  let opcollid ← integer "opcollid"
  let inputcollid ← integer "inputcollid"
  let args ← children "args"
  let location ← location
  return { opno, opresulttype, opcollid, inputcollid, args, location }

/-- An array constructor. -/
def aArrayExpr : Decoder (AArrayExpr Node) := do
  let elements ← children "elements"
  let location ← location
  return { elements, location }

/-- Subscripts and field selections applied to an expression. -/
def aIndirection : Decoder (AIndirection Node) := do
  let arg ← requiredChild "arg"
  let indirection ← children "indirection"
  return { arg, indirection }

/-- A subscript or a slice. -/
def aIndices : Decoder (AIndices Node) := do
  let isSlice ← flag "is_slice"
  let lidx ← child "lidx"
  let uidx ← child "uidx"
  return { isSlice, lidx, uidx }

/-- A COLLATE clause. -/
def collateClause : Decoder (CollateClause Node) := do
  let arg ← child "arg"
  let collname ← children "collname"
  let location ← location
  return { arg, collname, location }

/-- A function called by its keyword. -/
def sqlValueFunction : Decoder SqlValueFunction := do
  let op ← enumeration "op"
  let typeId ← integer "type"
  let typmod := (← integer "typmod").getD (-1)
  let location ← location
  return { op, typeId, typmod, location }

end SqlTree.Decoder
