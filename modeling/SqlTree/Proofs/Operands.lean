import SqlTree.Analysis.Inference
import SqlTree.Proofs.Outcome

/-!
# Operands of boolean operators

The nullability of a boolean expression is found in one pass over its operands, in which the query
of a sub-link is looked at once and serves twice: for the verdict on the sub-link, and for the
results of its query, which count as well. The plain account of it asks nothing but what anyone may
ask of a node: of each operand whether it holds and, of a sub-link, what the properties of its query
are (`Node.operandQuestions`). The questions are asked one after another until one of them has no
answer.

The two agree (`Node.nullability_boolExpr`): in the answer, in whether there is one, and in the
error, which is that of the first question without an answer. What carries the proof is that
`anyFinding` asks its questions in order and may be cut in two anywhere (`anyFinding_append`). Cut
between operands, that gives the law for the operands of two expressions put together.
-/

namespace SqlTree

/-! ## Questions in order -/

/-- Asking several questions in turn comes to asking all of them and looking for a yes. -/
theorem anyFinding_eq_mapM (questions : List (Finding Bool)) :
    anyFinding questions = (questions.mapM id).map fun answers => answers.any id := by
  induction questions with
  | nil => rfl
  | cons question rest ih =>
    rw [anyFinding, ih, List.mapM_cons]
    cases question with
    | error e => rfl
    | ok answer => cases rest.mapM id <;> rfl

/-- Questions are asked in two parts, the second after the first. -/
theorem anyFinding_append (first second : List (Finding Bool)) :
    anyFinding (first ++ second) = do
      let a ← anyFinding first
      let b ← anyFinding second
      return a || b := by
  induction first with
  | nil =>
    show anyFinding second = anyFinding second >>= fun b => pure (false || b)
    cases anyFinding second <;> rfl
  | cons question rest ih =>
    rw [List.cons_append, anyFinding, anyFinding, ih]
    cases question with
    | error e => rfl
    | ok answer =>
      cases anyFinding rest with
      | error e => rfl
      | ok others =>
        cases anyFinding second with
        | error e => rfl
        | ok b => exact congrArg Except.ok (Bool.or_assoc answer others b).symm

/-- Questions in groups are asked group by group. -/
theorem anyFinding_flatMap {α : Type} (questions : α → List (Finding Bool)) (l : List α) :
    anyFinding (l.flatMap questions) = anyFinding (l.map fun a => anyFinding (questions a)) := by
  induction l with
  | nil => rfl
  | cons a l ih => rw [List.flatMap_cons, List.map_cons, anyFinding_append, anyFinding, ih]

/-- A single question is answered by itself. -/
theorem anyFinding_singleton (question : Finding Bool) : anyFinding [question] = question := by
  cases question with
  | error e => rfl
  | ok answer => exact congrArg Except.ok (Bool.or_false answer)

/-! ## Operands -/

/-- A node that is no sub-link counts as an operand when it holds. -/
theorem Rule.operand_findings {kind : Kind} {rule : Rule Findings}
    (other : ∀ type test select, rule ≠ .subLink type test select) :
    (rule.findings kind).operand = (rule.findings kind).holds := by
  have ofQuery (x : Finding QueryNullability) :
      (Findings.ofQuery x).operand = (Findings.ofQuery x).holds := by
    cases x <;> rfl
  cases rule with
  | known | blank | join | operands | collect => rfl
  | subLink type test select => exact absurd rfl (other type test select)
  | query => exact ofQuery _
  | combination => exact ofQuery _

/-- A sub-link that has a verdict has a query with the properties that the verdict comes with. -/
theorem query_of_subLinkFinding {type : SubLinkType} {test : Option Findings} {select : Findings}
    {verdict : Bool} {query : QueryNullability}
    (found : subLinkFinding type test select = .ok (verdict, query)) :
    select.query = .ok query := by
  unfold subLinkFinding at found
  split at found
  next => cases found
  next =>
    obtain ⟨properties, asked, judged⟩ := bind_eq_ok.mp found
    cases test with
    | none =>
      cases judged
      exact asked
    | some expression =>
      obtain ⟨tested, -, both⟩ := bind_eq_ok.mp judged
      cases both
      exact asked

/-- A sub-link counts as an operand when it holds or its query may produce null. The query has
properties wherever the sub-link has a verdict, so asking for them again cannot fail. -/
theorem operand_subLink {kind : Kind} (type : SubLinkType) (test : Option Findings)
    (select : Findings) :
    ((Rule.subLink type test select).findings kind).operand =
      anyFinding [((Rule.subLink type test select).findings kind).holds,
        select.query.map QueryNullability.nullableResults] := by
  cases found : subLinkFinding type test select with
  | error e =>
    simp only [Rule.findings, Findings.holds, found]
    rfl
  | ok judged =>
    obtain ⟨verdict, query⟩ := judged
    simp only [Rule.findings, Findings.holds, found, query_of_subLinkFinding found]
    show Except.ok (verdict || query.nullableResults) =
      Except.ok (verdict || (query.nullableResults || false))
    rw [Bool.or_false]

namespace Node

/-- The questions about an operand of a boolean operator, in order: whether it holds and, of a
sub-link, whether its query may produce null. -/
def operandQuestions (n : Node) : List (Finding Bool) :=
  n.holds ::
    match n with
    | of (.subLink record) =>
      [record.subselect.queryNullability.map QueryNullability.nullableResults]
    | _ => []

/-- What the pass over the operands makes of one of them answers the questions about it. -/
theorem operand_eq (n : Node) : n.findings.operand = anyFinding n.operandQuestions := by
  by_cases link : ∃ record, n = of (.subLink record)
  · obtain ⟨record, rfl⟩ := link
    rw [operandQuestions, holds, findings_eq]
    exact operand_subLink _ _ _
  · have only : n.operandQuestions = [n.holds] := by
      unfold operandQuestions
      split
      next record => exact absurd ⟨record, rfl⟩ link
      next => rfl
    have other : ∀ type test select, n.layer.rule.map findings ≠ .subLink type test select := by
      intro type test select same
      apply link
      obtain ⟨l⟩ := n
      cases l
      case subLink record => exact ⟨record, rfl⟩
      case selectStmt record =>
        simp only [layer, Layer.rule] at same
        split at same <;> cases same
      all_goals cases same
    rw [only, anyFinding_singleton, holds, findings_eq]
    exact Rule.operand_findings other

/-- The pass over the operands of a boolean expression asks the questions about each in turn. -/
theorem nullability_eq_anyFinding (r : BoolExpr Node) :
    (of (.boolExpr r)).nullability =
      (anyFinding (r.args.flatMap operandQuestions)).map Nullability.known := by
  have operands : (r.args.map findings).map Findings.operand =
      r.args.map fun arg => anyFinding arg.operandQuestions := by
    rw [List.map_map]
    exact List.map_congr_left fun arg _ => arg.operand_eq
  rw [nullability, findings_eq, anyFinding_flatMap, ← operands]
  rfl

/-- Whether a boolean operator holds comes down to the questions about its operands in order. -/
theorem holds_eq_anyFinding (r : BoolExpr Node) :
    (of (.boolExpr r)).holds = anyFinding (r.args.flatMap operandQuestions) := by
  have found := nullability_eq_anyFinding r
  rw [nullability] at found
  rw [holds, Findings.holds, found]
  cases anyFinding (r.args.flatMap operandQuestions) <;> rfl

/-- **The nullability of a boolean expression** is what comes out when the questions about its
operands are asked one after another: the first error met, and otherwise whether one of the answers
is yes. So an expression over the operands of two others holds when one of these does, whatever the
operators are, and fails with the error of the first that fails. -/
theorem nullability_boolExpr :
    (∀ r : BoolExpr Node, (of (.boolExpr r)).nullability =
      ((r.args.flatMap operandQuestions).mapM id).map fun answers => .known (answers.any id)) ∧
      ∀ r first second : BoolExpr Node,
        (of (.boolExpr { r with args := first.args ++ second.args })).holds = do
          let a ← (of (.boolExpr first)).holds
          let b ← (of (.boolExpr second)).holds
          return a || b := by
  constructor
  · intro r
    rw [nullability_eq_anyFinding, anyFinding_eq_mapM]
    cases (r.args.flatMap operandQuestions).mapM id <;> rfl
  · intro r first second
    rw [holds_eq_anyFinding, holds_eq_anyFinding, holds_eq_anyFinding, List.flatMap_append,
      anyFinding_append]

/-- `EXISTS (SELECT NULL)` does not hold, and `NOT` over it does, for the null that is selected. -/
example :
    let null : Node := of (.aConst ⟨.null, -1⟩)
    let query : Node := of (.selectStmt ⟨[], none, [null], [], none, [], none, [], [], none, none,
      none, .none, false, none, none⟩)
    let link : Node := of (.subLink ⟨.existence, 0, none, [], query, -1⟩)
    link.holds = .ok false ∧ (of (.boolExpr ⟨.not, [link], -1⟩)).holds = .ok true := by
  constructor <;> cbv

end Node

end SqlTree
