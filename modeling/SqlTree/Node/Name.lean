import SqlTree.Node.Basic

/-!
# Names

Names are lists of nodes, one string for each part. A name is read by joining its parts with points;
an entry that is not a string, such as the `*` of a column reference, is no part of the name.
-/

namespace SqlTree

/-- The parts of a name: the texts of the entries that are strings. -/
def nameParts (names : List Node) : List String := names.filterMap Node.text?

/-- A name with its parts joined by points. -/
def dottedName (names : List Node) : String := ".".intercalate (nameParts names)

/-- The operator of a sub-link that compares with one. -/
def SubLink.operator (s : SubLink Node) : String := dottedName s.operName

/-- The operator of an operator expression. -/
def AExpr.operator (s : AExpr Node) : String := dottedName s.name

/-- The name of the function called. -/
def FuncCall.name (s : FuncCall Node) : String := dottedName s.funcname

/-- The name of a type. -/
def TypeName.name (s : TypeName Node) : String := dottedName s.names

/-- The name of a column. -/
def ColumnRef.name (s : ColumnRef Node) : String := dottedName s.fields

/-- Whether a column reference stands for all columns. -/
def ColumnRef.isStar (s : ColumnRef Node) : Bool :=
  match s.fields.getLast? with
  | some (.of .aStar) => true
  | _ => false

/-- The name of a collation. -/
def CollateClause.collation (s : CollateClause Node) : String := dottedName s.collname

/-- The column names of an alias. -/
def Alias.columnNames (s : Alias Node) : List String := nameParts s.colnames

/-- An alias as written: its name, and its columns between parentheses when it has any. -/
def Alias.toText (s : Alias Node) : String :=
  if s.colnames.isEmpty then s.aliasname
  else s.aliasname ++ "(" ++ ", ".intercalate s.columnNames ++ ")"

end SqlTree
