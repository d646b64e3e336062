import SqlTree.Kind
import SqlTree.Vocabulary.Query

/-!
# Analysis errors

An analysis may have no rule for a node. The error says which rule is missing; its message names
the kind of the node and the detail.
-/

namespace SqlTree

/-- Why an analysis has no answer. -/
inductive AnalysisError where
  /-- The properties of a query were asked of a node of another kind. -/
  | notAQuery (kind : Kind)
  /-- A set operation lacks an operand. -/
  | missingOperand (op : SetOperation)
  /-- There is no rule for a use of a sub-select. -/
  | noSubLinkRule (type : SubLinkType)
  deriving BEq, DecidableEq, Repr

namespace AnalysisError

/-- The kind of the node that has no rule. -/
def kind : AnalysisError → Kind
  | notAQuery kind => kind
  | missingOperand _ => .selectStmt
  | noSubLinkRule _ => .subLink

/-- What is missing. -/
def detail : AnalysisError → String
  | notAQuery _ => "query properties are only defined for SelectStmt"
  | missingOperand op => op.keyword ++ " without both operands"
  | noSubLinkRule type => "no nullability rule for " ++ type.keyword ++ " sub-links"

/-- The message of an error. -/
def message (e : AnalysisError) : String :=
  "AnalysisError: undefined reduction for " ++ e.kind.tag ++ ": " ++ e.detail

end AnalysisError

end SqlTree
