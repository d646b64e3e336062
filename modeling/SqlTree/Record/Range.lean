import SqlTree.Record.Decoder

/-!
# Decoders of range entries

Whether a reference to a relation includes the tables that inherit from it is spelled in two ways:
as the option `inhOpt`, zero for no and anything else for yes, or as the flag `inh`. The option
decides when it is there.
-/

namespace SqlTree.Decoder

/-- Whether a reference to a relation includes inheriting tables. -/
def inheritance : Decoder Bool := do
  match ← integer "inhOpt" with
  | some option => return option != 0
  | none => flag "inh"

/-- A reference to a relation. -/
def rangeVar : Decoder (RangeVar Node) := do
  let inh ← inheritance
  let catalogname ← string "catalogname"
  let schemaname ← string "schemaname"
  let relname ← requiredString "relname"
  let relpersistence ← string "relpersistence"
  let aliasClause ← child "alias"
  let location ← location
  let nullable ← flag "nullable"
  return { catalogname, schemaname, relname, inh, relpersistence, aliasClause, location, nullable }

/-- A sub-select in a FROM clause. -/
def rangeSubselect : Decoder (RangeSubselect Node) := do
  let lateral ← flag "lateral"
  let subquery ← selectChild "subquery"
  let aliasClause ← child "alias"
  return { lateral, subquery, aliasClause }

/-- Functions in a FROM clause. -/
def rangeFunction : Decoder (RangeFunction Node) := do
  let lateral ← flag "lateral"
  let ordinality ← flag "ordinality"
  let isRowsfrom ← flag "is_rowsfrom"
  let functions ← sparseLists "functions"
  let aliasClause ← child "alias"
  let coldeflist ← children "coldeflist"
  return { lateral, ordinality, isRowsfrom, functions, aliasClause, coldeflist }

/-- A join. -/
def joinExpr : Decoder (JoinExpr Node) := do
  let jointype ← enumeration "jointype"
  let isNatural ← flag "isNatural"
  let larg ← requiredChild "larg"
  let rarg ← requiredChild "rarg"
  let usingClause ← children "usingClause"
  let quals ← child "quals"
  let aliasClause ← child "alias"
  return { jointype, isNatural, larg, rarg, usingClause, quals, aliasClause }

/-- An alias of a range entry. -/
def aliasClause : Decoder (Alias Node) := do
  let aliasname := (← string "aliasname").getD ""
  let colnames ← children "colnames"
  return { aliasname, colnames }

end SqlTree.Decoder
