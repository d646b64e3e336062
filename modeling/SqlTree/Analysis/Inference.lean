import SqlTree.Analysis.Error
import SqlTree.Analysis.Nullability
import SqlTree.Analysis.Rule

/-!
# Inferring nullability

What the analysis finds for a node (`Findings`) follows from its kind, its rule, and the findings
for the parts that the rule consults: `Rule.findings` is that step, and `Node.findings` applies it
through the whole tree (`Node.findings_eq`). A node has three findings, since it may be asked in
three ways: on its own, as a query, and as an operand of a boolean operator.

Every part that a rule consults is asked, in order, and the first error met is the answer, even
where the other parts would settle the question.
-/

namespace SqlTree

/-- The answer of an analysis, or why there is none. -/
abbrev Finding (α : Type) := Except AnalysisError α

/-- What the analysis finds for a node. -/
structure Findings where
  /-- Whether the node may produce null. -/
  nullability : Finding Nullability
  /-- The properties of the node as a query. -/
  query : Finding QueryNullability
  /-- Whether the node makes a boolean operator that it is an operand of nullable. -/
  operand : Finding Bool

namespace Findings

/-- The nullability of a node brought down to yes or no. -/
def holds (f : Findings) : Finding Bool := f.nullability.map Nullability.holds

/-- The findings for a node that is not a query and counts as an operand by its nullability. -/
def plain (kind : Kind) (nullability : Finding Nullability) : Findings where
  nullability := nullability
  query := .error (.notAQuery kind)
  operand := nullability.map Nullability.holds

/-- The findings for a query with the given properties. -/
def ofQuery (query : Finding QueryNullability) : Findings where
  nullability := query.map fun q => .known q.holds
  query := query
  operand := query.map QueryNullability.holds

end Findings

/-- Whether one of several findings is yes. All of them are asked for. -/
def anyFinding : List (Finding Bool) → Finding Bool
  | [] => .ok false
  | finding :: rest => do
    let first ← finding
    let others ← anyFinding rest
    return first || others

/-- The properties of a set operation from those of its operands. -/
def SetOperation.combine (op : SetOperation) (left right : QueryNullability) : QueryNullability :=
  match op with
  | .union => left.union right
  | .intersect => left.intersect right
  | .except | .none => left

/-- How it is judged whether a sub-select is nullable in the use that is made of it, from the
properties of the query and the nullability of the expression tested. Some uses have no rule. -/
def SubLinkType.verdict? : SubLinkType → Option (QueryNullability → Bool → Bool)
  | .existence => some fun query _ => query.nullableContents
  | .all => some fun query test => query.nullableResults || query.nullableContents || test
  | .any => some fun query test => query.nullableContents || test
  | .expr => some fun query _ => query.nullableResults
  | .rowCompare | .multiExpr | .array | .cte => none

/-- The verdict on a sub-link together with the properties of its query. The expression tested is
asked for in every use, also where the verdict does not depend on it. -/
def subLinkFinding (type : SubLinkType) (test : Option Findings) (select : Findings) :
    Finding (Bool × QueryNullability) :=
  match type.verdict? with
  | none => .error (.noSubLinkRule type)
  | some verdict => do
    let query ← select.query
    let tested ←
      match test with
      | some expression => expression.holds
      | none => pure false
    return (verdict query tested, query)

namespace Rule

/-- The findings for a node of some kind, from the findings for the parts of its rule. -/
def findings (kind : Kind) : Rule Findings → Findings
  | known nullable => .plain kind (.ok (.known nullable))
  | blank => .plain kind (.ok (.nested []))
  | join type left right =>
    .plain kind do
      let left ← left.holds
      let right ← right.holds
      return .known (type.isOuter || left || right)
  | operands args =>
    .plain kind ((anyFinding (args.map Findings.operand)).map .known)
  | subLink type test select =>
    let finding := subLinkFinding type test select
    { nullability := finding.map fun (verdict, _) => .known verdict
      query := .error (.notAQuery kind)
      operand := finding.map fun (verdict, properties) => verdict || properties.nullableResults }
  | query targets values sources =>
    .ofQuery do
      let targets ← anyFinding (targets.map Findings.holds)
      let values ← anyFinding (values.map Findings.holds)
      let sources ← anyFinding (sources.map Findings.holds)
      return ⟨targets || values, sources⟩
  | combination op left right =>
    .ofQuery <|
      match left, right with
      | some left, some right => do
        let left ← left.query
        let right ← right.query
        return op.combine left right
      | _, _ => .error (.missingOperand op)
  | collect children =>
    .plain kind ((children.mapM Findings.nullability).map .nested)

end Rule

namespace Node

/-- A part that the rule of a node consults is smaller than the node. -/
theorem sizeOf_lt_of_mem_parts {n c : Node} (h : c ∈ n.layer.rule.parts) : sizeOf c < sizeOf n :=
  sizeOf_lt (Layer.mem_children_of_mem_parts h)

/-- What the analysis finds for a node. -/
def findings (n : Node) : Findings :=
  (n.layer.rule.attach.map fun ⟨c, _⟩ => c.findings).findings n.kind
termination_by sizeOf n
decreasing_by exact sizeOf_lt_of_mem_parts ‹_›

/-- The findings for a node follow from its rule and the findings for the parts of the rule. -/
theorem findings_eq (n : Node) : n.findings = (n.layer.rule.map findings).findings n.kind := by
  rw [findings]
  exact congrArg (Rule.findings n.kind) (Rule.map_attach n.layer.rule findings)

/-- Whether a node may produce null. -/
def nullability (n : Node) : Finding Nullability := n.findings.nullability

/-- Whether a node may produce null, brought down to yes or no. -/
def holds (n : Node) : Finding Bool := n.findings.holds

/-- The properties of a node as a query; only a `SelectStmt` has them. -/
def queryNullability (n : Node) : Finding QueryNullability := n.findings.query

end Node

end SqlTree
