import SqlTree.Node.Statement
import SqlTree.Node.Range
import SqlTree.Node.Expression

/-!
# Nodes

A `Layer α` is one record of any kind with values of type `α` at its child positions; a `Node` is a
layer whose child positions hold nodes. What concerns one level of a tree (its kind, its children,
how it displays) is defined on layers, and recursion over trees goes through `Node.children`, whose
members are smaller than the node (`Node.sizeOf_lt`).

Two nodes are equal (`==`) when their layers agree but for the children and their children are
equal in order.
-/

namespace SqlTree

/-- One record of any kind, with values of type `α` at its child positions. -/
inductive Layer (α : Type) where
  | rawStmt (record : RawStmt α)
  | selectStmt (record : SelectStmt α)
  | insertStmt (record : InsertStmt α)
  | updateStmt (record : UpdateStmt α)
  | deleteStmt (record : DeleteStmt α)
  | intoClause (record : IntoClause α)
  | resTarget (record : ResTarget α)
  | sortBy (record : SortBy α)
  | withClause (record : WithClause α)
  | commonTableExpr (record : CommonTableExpr α)
  | rangeVar (record : RangeVar α)
  | rangeSubselect (record : RangeSubselect α)
  | rangeFunction (record : RangeFunction α)
  | joinExpr (record : JoinExpr α)
  | aliasClause (record : Alias α)
  | boolExpr (record : BoolExpr α)
  | subLink (record : SubLink α)
  | caseExpr (record : CaseExpr α)
  | caseWhen (record : CaseWhen α)
  | nullTest (record : NullTest α)
  | booleanTest (record : BooleanTest α)
  | rowExpr (record : RowExpr α)
  | setToDefault (record : SetToDefault)
  | aExpr (record : AExpr α)
  | funcCall (record : FuncCall α)
  | typeCast (record : TypeCast α)
  | typeName (record : TypeName α)
  | columnRef (record : ColumnRef α)
  | paramRef (record : ParamRef)
  | aConst (record : AConst)
  | aStar
  | coalesceExpr (record : CoalesceExpr α)
  | minMaxExpr (record : MinMaxExpr α)
  | nullIfExpr (record : NullIfExpr α)
  | aArrayExpr (record : AArrayExpr α)
  | aIndirection (record : AIndirection α)
  | aIndices (record : AIndices α)
  | collateClause (record : CollateClause α)
  | sqlValueFunction (record : SqlValueFunction)
  | list (items : List α)
  | scalar (value : Scalar)
  deriving BEq

/-- A typed parse tree. -/
inductive Node where
  | of (layer : Layer Node)

namespace Layer

variable {α : Type}

/-- The kind of a record. A plain value has the kind of its value. -/
def kind : Layer α → Kind
  | rawStmt _ => .rawStmt
  | selectStmt _ => .selectStmt
  | insertStmt _ => .insertStmt
  | updateStmt _ => .updateStmt
  | deleteStmt _ => .deleteStmt
  | intoClause _ => .intoClause
  | resTarget _ => .resTarget
  | sortBy _ => .sortBy
  | withClause _ => .withClause
  | commonTableExpr _ => .commonTableExpr
  | rangeVar _ => .rangeVar
  | rangeSubselect _ => .rangeSubselect
  | rangeFunction _ => .rangeFunction
  | joinExpr _ => .joinExpr
  | aliasClause _ => .aliasClause
  | boolExpr _ => .boolExpr
  | subLink _ => .subLink
  | caseExpr _ => .caseExpr
  | caseWhen _ => .caseWhen
  | nullTest _ => .nullTest
  | booleanTest _ => .booleanTest
  | rowExpr _ => .rowExpr
  | setToDefault _ => .setToDefault
  | aExpr _ => .aExpr
  | funcCall _ => .funcCall
  | typeCast _ => .typeCast
  | typeName _ => .typeName
  | columnRef _ => .columnRef
  | paramRef _ => .paramRef
  | aConst _ => .aConst
  | aStar => .aStar
  | coalesceExpr _ => .coalesceExpr
  | minMaxExpr _ => .minMaxExpr
  | nullIfExpr _ => .nullIfExpr
  | aArrayExpr _ => .aArrayExpr
  | aIndirection _ => .aIndirection
  | aIndices _ => .aIndices
  | collateClause _ => .collateClause
  | sqlValueFunction _ => .sqlValueFunction
  | list _ => .list
  | scalar value => value.kind

/-- The values at the child positions, in the order in which the fields are declared. -/
def children : Layer α → List α
  | rawStmt record => record.children
  | selectStmt record => record.children
  | insertStmt record => record.children
  | updateStmt record => record.children
  | deleteStmt record => record.children
  | intoClause record => record.children
  | resTarget record => record.children
  | sortBy record => record.children
  | withClause record => record.children
  | commonTableExpr record => record.children
  | rangeVar record => record.children
  | rangeSubselect record => record.children
  | rangeFunction record => record.children
  | joinExpr record => record.children
  | aliasClause record => record.children
  | boolExpr record => record.children
  | subLink record => record.children
  | caseExpr record => record.children
  | caseWhen record => record.children
  | nullTest record => record.children
  | booleanTest record => record.children
  | rowExpr record => record.children
  | aExpr record => record.children
  | funcCall record => record.children
  | typeCast record => record.children
  | typeName record => record.children
  | columnRef record => record.children
  | coalesceExpr record => record.children
  | minMaxExpr record => record.children
  | nullIfExpr record => record.children
  | aArrayExpr record => record.children
  | aIndirection record => record.children
  | aIndices record => record.children
  | collateClause record => record.children
  | list items => items
  | setToDefault _ | paramRef _ | aConst _ | aStar | sqlValueFunction _ | scalar _ => []

/-- How a record displays: its kind between angle brackets, with the name of a relation or the type
of a join; a plain value displays as its text. -/
def display : Layer α → String
  | rangeVar record => "<RangeVar (" ++ record.relname ++ ")>"
  | joinExpr record => "<JoinExpr type=" ++ record.jointype.keyword ++ ">"
  | scalar value => "<" ++ value.toText ++ ">"
  | layer => "<" ++ layer.kind.tag ++ ">"

/-- Whether two records agree in everything but the values at their child positions. -/
def agree (a b : Layer α) : Bool :=
  let _ : BEq α := ⟨fun _ _ => true⟩
  a == b

end Layer

namespace Node

/-- The outermost record of a tree. -/
def layer : Node → Layer Node
  | of layer => layer

/-- The kind of the outermost record. -/
def kind (n : Node) : Kind := n.layer.kind

/-- The direct children, in the order in which the fields are declared. -/
def children (n : Node) : List Node := n.layer.children

/-- How the outermost record displays. -/
def display (n : Node) : String := n.layer.display

/-- The plain value that a node is. -/
def scalar? : Node → Option Scalar
  | of (.scalar value) => some value
  | _ => none

/-- The text of a node that is a string. -/
def text? : Node → Option String
  | of (.scalar (.string text)) => some text
  | _ => none

/-- The query that a node is. -/
def select? : Node → Option (SelectStmt Node)
  | of (.selectStmt record) => some record
  | _ => none

end Node

end SqlTree
