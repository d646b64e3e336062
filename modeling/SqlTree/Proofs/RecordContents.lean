import SqlTree.Node.Basic

/-!
# What a record holds

A record seen as a raw tree shows it: a list of its fields under the names that raw trees use, each
with what it holds (`Layer.contents`). The kinds of record differ in which fields they have and in
nothing else, so what is said field by field is said once here, and not once for each of the
forty-one records.

The nodes of a record are those in its fields, in the same order (`Layer.children_eq`).
-/

namespace SqlTree

/-- What a field of a record holds, with values of type `α` where nodes stand. -/
inductive Content (α : Type) where
  | text (value : Option String)
  | integer (value : Option Int)
  | flag (value : Bool)
  /-- The code of a value of an enumeration. -/
  | code (value : Int)
  /-- The value of a constant. -/
  | constant (value : Scalar)
  | child (value : Option α)
  | children (values : List α)
  | lists (values : List (List α))

namespace Content

variable {α β : Type}

/-- The nodes in a field. -/
def parts : Content α → List α
  | text _ | integer _ | flag _ | code _ | constant _ => []
  | child value => value.toList
  | children values => values
  | lists values => values.flatten

/-- A field with each node replaced. -/
def map (f : α → β) : Content α → Content β
  | text value => text value
  | integer value => integer value
  | flag value => flag value
  | code value => code value
  | constant value => constant value
  | child value => child (value.map f)
  | children values => children (values.map f)
  | lists values => lists (values.map (List.map f))

/-- A field with each node known to be one of its nodes. -/
def attach (c : Content α) : Content { a // a ∈ c.parts } :=
  match c with
  | text value => text value
  | integer value => integer value
  | flag value => flag value
  | code value => code value
  | constant value => constant value
  | child value => child (value.attach.map fun ⟨a, h⟩ => ⟨a, by simpa [parts] using h⟩)
  | children values => children values.attach
  | lists values =>
    lists (values.attach.map fun ⟨l, h⟩ =>
      l.attach.map fun ⟨a, ha⟩ => ⟨a, List.mem_flatten.mpr ⟨l, h, ha⟩⟩)

theorem map_attach (f : α → β) (c : Content α) :
    c.attach.map (fun a => f a.1) = c.map f := by
  cases c with
  | child value => cases value <;> rfl
  | children values => exact congrArg children List.attach_map_val
  | lists values =>
    have inner : ∀ l : List α, (l.attach.map fun a => f a.1) = l.map f := fun _ =>
      List.attach_map_val
    simp only [attach, map, List.map_map, Function.comp_def, inner]
    exact congrArg lists List.attach_map_val
  | text | integer | flag | code | constant => rfl

end Content

namespace Layer

variable {α : Type}

/-- The fields of a plain value. -/
def scalarContents : Scalar → List (String × Content α)
  | .string text => [("sval", .text text)]
  | .integer value => [("ival", .integer value)]
  | .float value => [("fval", .text value.toText)]
  | .boolean value => [("boolval", .flag value)]
  | .null => []

open Vocabulary in
/-- The fields of a record with what they hold, in the order in which they are declared. -/
def contents : Layer α → List (String × Content α)
  | rawStmt r =>
    [("stmt", .child r.stmt), ("stmt_location", .integer r.stmtLocation),
      ("stmt_len", .integer r.stmtLen)]
  | selectStmt r =>
    [("distinctClause", .children r.distinctClause), ("intoClause", .child r.intoClause),
      ("targetList", .children r.targetList), ("fromClause", .children r.fromClause),
      ("whereClause", .child r.whereClause), ("groupClause", .children r.groupClause),
      ("havingClause", .child r.havingClause), ("valuesLists", .children r.valuesLists),
      ("sortClause", .children r.sortClause), ("limitOffset", .child r.limitOffset),
      ("limitCount", .child r.limitCount), ("withClause", .child r.withClause),
      ("op", .code (code r.op)), ("all", .flag r.all), ("larg", .child r.larg),
      ("rarg", .child r.rarg)]
  | insertStmt r =>
    [("relation", .child r.relation), ("cols", .children r.cols),
      ("selectStmt", .child r.selectStmt), ("returningList", .children r.returningList),
      ("withClause", .child r.withClause)]
  | updateStmt r =>
    [("relation", .child r.relation), ("targetList", .children r.targetList),
      ("whereClause", .child r.whereClause), ("fromClause", .children r.fromClause),
      ("returningList", .children r.returningList), ("withClause", .child r.withClause)]
  | deleteStmt r =>
    [("relation", .child r.relation), ("usingClause", .children r.usingClause),
      ("whereClause", .child r.whereClause), ("returningList", .children r.returningList),
      ("withClause", .child r.withClause)]
  | intoClause r =>
    [("rel", .child r.rel), ("colNames", .children r.colNames), ("options", .children r.options),
      ("onCommit", .code (code r.onCommit)), ("tableSpaceName", .text r.tableSpaceName),
      ("skipData", .flag r.skipData)]
  | resTarget r =>
    [("name", .text r.name), ("indirection", .children r.indirection), ("val", .child r.val),
      ("location", .integer r.location)]
  | sortBy r =>
    [("node", .child r.node), ("sortby_dir", .code (code r.sortbyDir)),
      ("sortby_nulls", .code (code r.sortbyNulls)), ("useOp", .children r.useOp),
      ("location", .integer r.location)]
  | withClause r =>
    [("ctes", .children r.ctes), ("recursive", .flag r.recursive),
      ("location", .integer r.location)]
  | commonTableExpr r =>
    [("ctename", .text r.ctename), ("aliascolnames", .children r.aliascolnames),
      ("ctequery", .child r.ctequery), ("location", .integer r.location)]
  | rangeVar r =>
    [("catalogname", .text r.catalogname), ("schemaname", .text r.schemaname),
      ("relname", .text r.relname), ("inhOpt", .integer none), ("inh", .flag r.inh),
      ("relpersistence", .text r.relpersistence), ("alias", .child r.aliasClause),
      ("location", .integer r.location), ("nullable", .flag r.nullable)]
  | rangeSubselect r =>
    [("lateral", .flag r.lateral), ("subquery", .child r.subquery), ("alias", .child r.aliasClause)]
  | rangeFunction r =>
    [("lateral", .flag r.lateral), ("ordinality", .flag r.ordinality),
      ("is_rowsfrom", .flag r.isRowsfrom), ("functions", .lists r.functions),
      ("alias", .child r.aliasClause), ("coldeflist", .children r.coldeflist)]
  | joinExpr r =>
    [("jointype", .code (code r.jointype)), ("isNatural", .flag r.isNatural),
      ("larg", .child r.larg), ("rarg", .child r.rarg), ("usingClause", .children r.usingClause),
      ("quals", .child r.quals), ("alias", .child r.aliasClause)]
  | aliasClause r => [("aliasname", .text r.aliasname), ("colnames", .children r.colnames)]
  | boolExpr r =>
    [("boolop", .code (code r.boolop)), ("args", .children r.args),
      ("location", .integer r.location)]
  | subLink r =>
    [("subLinkType", .code (code r.subLinkType)), ("subLinkId", .integer r.subLinkId),
      ("testexpr", .child r.testexpr), ("operName", .children r.operName),
      ("subselect", .child r.subselect), ("location", .integer r.location)]
  | caseExpr r =>
    [("casetype", .integer r.casetype), ("casecollid", .integer r.casecollid),
      ("arg", .child r.arg), ("args", .children r.args), ("defresult", .child r.defresult),
      ("location", .integer r.location)]
  | caseWhen r =>
    [("expr", .child r.expr), ("result", .child r.result), ("location", .integer r.location)]
  | nullTest r =>
    [("arg", .child r.arg), ("nulltesttype", .code (code r.nulltesttype)),
      ("argisrow", .flag r.argisrow), ("location", .integer r.location)]
  | booleanTest r =>
    [("arg", .child r.arg), ("booltesttype", .code (code r.booltesttype)),
      ("location", .integer r.location)]
  | rowExpr r =>
    [("args", .children r.args), ("colnames", .children r.colnames),
      ("row_format", .code (code r.rowFormat)), ("row_typeid", .integer r.rowTypeid),
      ("location", .integer r.location)]
  | setToDefault r =>
    [("typeId", .integer r.typeId), ("typeMod", .integer r.typeMod),
      ("collation", .integer r.collation), ("location", .integer r.location)]
  | aExpr r =>
    [("kind", .code (code r.kind)), ("name", .children r.name), ("lexpr", .child r.lexpr),
      ("rexpr", .child r.rexpr), ("location", .integer r.location)]
  | funcCall r =>
    [("funcname", .children r.funcname), ("args", .children r.args),
      ("agg_order", .children r.aggOrder), ("agg_filter", .child r.aggFilter),
      ("agg_star", .flag r.aggStar), ("agg_distinct", .flag r.aggDistinct),
      ("func_variadic", .flag r.funcVariadic), ("location", .integer r.location)]
  | typeCast r =>
    [("arg", .child r.arg), ("typeName", .child r.typeName), ("location", .integer r.location)]
  | typeName r =>
    [("names", .children r.names), ("typmods", .children r.typmods),
      ("arrayBounds", .children r.arrayBounds), ("setof", .flag r.setof),
      ("location", .integer r.location)]
  | columnRef r =>
    [("fields", .children r.fields), ("location", .integer r.location),
      ("nullable", .flag r.nullable)]
  | paramRef r =>
    [("number", .integer r.number), ("location", .integer r.location),
      ("nullable", .flag r.nullable)]
  | aConst r =>
    [("isnull", .flag r.val.isNull), ("val", .constant r.val), ("location", .integer r.location)]
  | aStar => []
  | coalesceExpr r =>
    [("coalescetype", .integer r.coalescetype), ("coalescecollid", .integer r.coalescecollid),
      ("args", .children r.args), ("location", .integer r.location)]
  | minMaxExpr r =>
    [("op", .code (code r.op)), ("minmaxtype", .integer r.minmaxtype), ("args", .children r.args),
      ("location", .integer r.location)]
  | nullIfExpr r =>
    [("opno", .integer r.opno), ("opresulttype", .integer r.opresulttype),
      ("opcollid", .integer r.opcollid), ("inputcollid", .integer r.inputcollid),
      ("args", .children r.args), ("location", .integer r.location)]
  | aArrayExpr r => [("elements", .children r.elements), ("location", .integer r.location)]
  | aIndirection r => [("arg", .child r.arg), ("indirection", .children r.indirection)]
  | aIndices r =>
    [("is_slice", .flag r.isSlice), ("lidx", .child r.lidx), ("uidx", .child r.uidx)]
  | collateClause r =>
    [("arg", .child r.arg), ("collname", .children r.collname), ("location", .integer r.location)]
  | sqlValueFunction r =>
    [("op", .code (code r.op)), ("type", .integer r.typeId), ("typmod", .integer r.typmod),
      ("location", .integer r.location)]
  | list items => [("items", .children items)]
  | scalar value => scalarContents value

/-- The nodes of a record are the nodes in its fields. -/
theorem children_eq (l : Layer α) :
    l.children = l.contents.flatMap fun entry => entry.2.parts := by
  cases l
  case scalar value => cases value <;> rfl
  all_goals
    simp [children, contents, Content.parts, RawStmt.children, SelectStmt.children,
      InsertStmt.children, InsertStmt.readChildren, UpdateStmt.children, DeleteStmt.children,
      IntoClause.children, ResTarget.children, SortBy.children, WithClause.children,
      CommonTableExpr.children, RangeVar.children, RangeSubselect.children,
      RangeFunction.children, JoinExpr.children, Alias.children, BoolExpr.children,
      SubLink.children, CaseExpr.children, CaseWhen.children, NullTest.children,
      BooleanTest.children, RowExpr.children, AExpr.children, FuncCall.children,
      TypeCast.children, TypeName.children, ColumnRef.children, CoalesceExpr.children,
      MinMaxExpr.children, NullIfExpr.children, AArrayExpr.children, AIndirection.children,
      AIndices.children, CollateClause.children]

/-- The nodes in a field of a record are children of it. -/
theorem mem_children_of_mem_contents {l : Layer α} {entry : String × Content α} {a : α}
    (field : entry ∈ l.contents) (part : a ∈ entry.2.parts) : a ∈ l.children := by
  rw [children_eq]
  exact List.mem_flatMap.mpr ⟨entry, field, part⟩

/-- No record has two fields of one name. -/
theorem nodup_names (l : Layer α) : (l.contents.map Prod.fst).Nodup := by
  cases l
  case scalar value =>
    cases value <;> simp only [contents, scalarContents, List.map_cons, List.map_nil] <;> decide
  all_goals
    simp only [contents, List.map_cons, List.map_nil]
    decide

end Layer

end SqlTree
