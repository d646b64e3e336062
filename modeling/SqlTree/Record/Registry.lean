import SqlTree.Record.Statement
import SqlTree.Record.Range
import SqlTree.Record.Expression
import SqlTree.Record.Scalar

/-!
# Registries

A registry says for each tag how a record with that tag is read. The standard registry has one
decoder for each of the forty-five kinds, under the tag of the kind; it is the one that parse trees
are built with. Its table spells the tags for itself, and they are those of the kinds
(`Registry.standard_eq`). Registering a tag again replaces its decoder.
-/

namespace SqlTree

/-- The decoder for the records of a kind. -/
def Kind.decoder : Kind → Decoder Node
  | rawStmt => (fun r => .of (.rawStmt r)) <$> Decoder.rawStmt
  | selectStmt => (fun r => .of (.selectStmt r)) <$> Decoder.selectStmt
  | insertStmt => (fun r => .of (.insertStmt r)) <$> Decoder.insertStmt
  | updateStmt => (fun r => .of (.updateStmt r)) <$> Decoder.updateStmt
  | deleteStmt => (fun r => .of (.deleteStmt r)) <$> Decoder.deleteStmt
  | intoClause => (fun r => .of (.intoClause r)) <$> Decoder.intoClause
  | resTarget => (fun r => .of (.resTarget r)) <$> Decoder.resTarget
  | sortBy => (fun r => .of (.sortBy r)) <$> Decoder.sortBy
  | withClause => (fun r => .of (.withClause r)) <$> Decoder.withClause
  | commonTableExpr => (fun r => .of (.commonTableExpr r)) <$> Decoder.commonTableExpr
  | rangeVar => (fun r => .of (.rangeVar r)) <$> Decoder.rangeVar
  | rangeSubselect => (fun r => .of (.rangeSubselect r)) <$> Decoder.rangeSubselect
  | rangeFunction => (fun r => .of (.rangeFunction r)) <$> Decoder.rangeFunction
  | joinExpr => (fun r => .of (.joinExpr r)) <$> Decoder.joinExpr
  | aliasClause => (fun r => .of (.aliasClause r)) <$> Decoder.aliasClause
  | boolExpr => (fun r => .of (.boolExpr r)) <$> Decoder.boolExpr
  | subLink => (fun r => .of (.subLink r)) <$> Decoder.subLink
  | caseExpr => (fun r => .of (.caseExpr r)) <$> Decoder.caseExpr
  | caseWhen => (fun r => .of (.caseWhen r)) <$> Decoder.caseWhen
  | nullTest => (fun r => .of (.nullTest r)) <$> Decoder.nullTest
  | booleanTest => (fun r => .of (.booleanTest r)) <$> Decoder.booleanTest
  | rowExpr => (fun r => .of (.rowExpr r)) <$> Decoder.rowExpr
  | setToDefault => (fun r => .of (.setToDefault r)) <$> Decoder.setToDefault
  | aExpr => (fun r => .of (.aExpr r)) <$> Decoder.aExpr
  | funcCall => (fun r => .of (.funcCall r)) <$> Decoder.funcCall
  | typeCast => (fun r => .of (.typeCast r)) <$> Decoder.typeCast
  | typeName => (fun r => .of (.typeName r)) <$> Decoder.typeName
  | columnRef => (fun r => .of (.columnRef r)) <$> Decoder.columnRef
  | paramRef => (fun r => .of (.paramRef r)) <$> Decoder.paramRef
  | aConst => (fun r => .of (.aConst r)) <$> Decoder.aConst
  | aStar => .done (.of .aStar)
  | coalesceExpr => (fun r => .of (.coalesceExpr r)) <$> Decoder.coalesceExpr
  | minMaxExpr => (fun r => .of (.minMaxExpr r)) <$> Decoder.minMaxExpr
  | nullIfExpr => (fun r => .of (.nullIfExpr r)) <$> Decoder.nullIfExpr
  | aArrayExpr => (fun r => .of (.aArrayExpr r)) <$> Decoder.aArrayExpr
  | aIndirection => (fun r => .of (.aIndirection r)) <$> Decoder.aIndirection
  | aIndices => (fun r => .of (.aIndices r)) <$> Decoder.aIndices
  | collateClause => (fun r => .of (.collateClause r)) <$> Decoder.collateClause
  | sqlValueFunction => (fun r => .of (.sqlValueFunction r)) <$> Decoder.sqlValueFunction
  | list => (fun items => .of (.list items)) <$> Decoder.children "items"
  | string => (fun value => .of (.scalar value)) <$> Decoder.stringValue
  | integer => (fun value => .of (.scalar value)) <$> Decoder.integerValue
  | float => (fun value => .of (.scalar value)) <$> Decoder.floatValue
  | boolean => (fun value => .of (.scalar value)) <$> Decoder.booleanValue
  | null => .done (.of (.scalar .null))

/-- How records are read, by tag. -/
structure Registry where
  /-- The decoder under each tag, a tag standing at most once. -/
  entries : List (String × Decoder Node)

namespace Registry

/-- The registry without any tag. -/
def empty : Registry := ⟨[]⟩

/-- The decoder registered under a tag. -/
def lookup (r : Registry) (tag : String) : Option (Decoder Node) := r.entries.lookup tag

/-- The registry with a decoder under a tag, in place of an earlier one. -/
def register (r : Registry) (tag : String) (decoder : Decoder Node) : Registry :=
  ⟨(tag, decoder) :: r.entries.filter fun entry => entry.1 != tag⟩

/-- The tags of a registry in increasing order. -/
def kinds (r : Registry) : List String :=
  (r.entries.map Prod.fst).mergeSort fun a b => decide (a ≤ b)

/-- The registry of every known kind. -/
def standard : Registry :=
  ⟨[("RawStmt", Kind.rawStmt.decoder), ("SelectStmt", Kind.selectStmt.decoder),
    ("InsertStmt", Kind.insertStmt.decoder), ("UpdateStmt", Kind.updateStmt.decoder),
    ("DeleteStmt", Kind.deleteStmt.decoder), ("IntoClause", Kind.intoClause.decoder),
    ("ResTarget", Kind.resTarget.decoder), ("SortBy", Kind.sortBy.decoder),
    ("WithClause", Kind.withClause.decoder), ("CommonTableExpr", Kind.commonTableExpr.decoder),
    ("RangeVar", Kind.rangeVar.decoder), ("RangeSubselect", Kind.rangeSubselect.decoder),
    ("RangeFunction", Kind.rangeFunction.decoder), ("JoinExpr", Kind.joinExpr.decoder),
    ("Alias", Kind.aliasClause.decoder), ("BoolExpr", Kind.boolExpr.decoder),
    ("SubLink", Kind.subLink.decoder), ("CaseExpr", Kind.caseExpr.decoder),
    ("CaseWhen", Kind.caseWhen.decoder), ("NullTest", Kind.nullTest.decoder),
    ("BooleanTest", Kind.booleanTest.decoder), ("RowExpr", Kind.rowExpr.decoder),
    ("SetToDefault", Kind.setToDefault.decoder), ("A_Expr", Kind.aExpr.decoder),
    ("FuncCall", Kind.funcCall.decoder), ("TypeCast", Kind.typeCast.decoder),
    ("TypeName", Kind.typeName.decoder), ("ColumnRef", Kind.columnRef.decoder),
    ("ParamRef", Kind.paramRef.decoder), ("A_Const", Kind.aConst.decoder),
    ("A_Star", Kind.aStar.decoder), ("CoalesceExpr", Kind.coalesceExpr.decoder),
    ("MinMaxExpr", Kind.minMaxExpr.decoder), ("NullIfExpr", Kind.nullIfExpr.decoder),
    ("A_ArrayExpr", Kind.aArrayExpr.decoder), ("A_Indirection", Kind.aIndirection.decoder),
    ("A_Indices", Kind.aIndices.decoder), ("CollateClause", Kind.collateClause.decoder),
    ("SQLValueFunction", Kind.sqlValueFunction.decoder), ("List", Kind.list.decoder),
    ("String", Kind.string.decoder), ("Integer", Kind.integer.decoder),
    ("Float", Kind.float.decoder), ("Boolean", Kind.boolean.decoder), ("Null", Kind.null.decoder)]⟩

/-- Each tag in the standard registry is that of the kind whose decoder it has. -/
theorem standard_eq : standard = ⟨Kind.all.map fun kind => (kind.tag, kind.decoder)⟩ := rfl

/-- A tag has a decoder in the standard registry when it names a kind, and then the one of that
kind. -/
theorem lookup_standard (tag : String) :
    standard.lookup tag = (Kind.ofTag? tag).map Kind.decoder := by
  have key : ∀ kinds : List Kind, (kinds.map fun kind => (kind.tag, kind.decoder)).lookup tag =
      (kinds.find? fun kind => kind.tag == tag).map Kind.decoder := by
    intro kinds
    induction kinds with
    | nil => rfl
    | cons kind rest ih =>
      by_cases h : kind.tag = tag
      · simp [h]
      · have other : (tag == kind.tag) = false := beq_false_of_ne fun e => h e.symm
        simp [List.lookup_cons, h, other, ih]
  rw [standard_eq]
  exact key Kind.all

end Registry

end SqlTree
