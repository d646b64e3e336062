import SqlTree.Analysis.Inference
import SqlTree.Proofs.Outcome

/-!
# The order of faults

The nullability analysis either answers or fails with one error. This module says which. A `Visit`
is a node that the analysis comes to, on its own or as a query; some visits are faulty by
themselves (`Visit.fault?`), and the others go on to further visits (`Visit.next`). All of them, in
order, are `Visit.order`. The analysis fails exactly when one of the visits is faulty, and its error
is that of the first of those (`Node.nullability_error_iff_first_fault`).

So nothing that is found on the way hides an error: not an outer join, not an operand that is
nullable already, not a test that the verdict on a sub-link does not look at, and not the right
operand of an EXCEPT, whose properties are not used.

The order is stated over the records themselves and not over the rules of the analysis. That the
two agree is shown with the same three findings that the analysis has for a node (`FaultsOf`).
-/

namespace SqlTree

/-- A node that the analysis comes to. -/
inductive Visit where
  /-- The node is asked on its own. -/
  | alone (node : Node)
  /-- The node is asked for its properties as a query. -/
  | asQuery (node : Node)

/-- Whether there is a rule for a use of a sub-select. -/
def SubLinkType.hasRule : SubLinkType → Bool
  | existence | all | any | expr => true
  | rowCompare | multiExpr | array | cte => false

namespace Visit

/-- The node that is visited. -/
def node : Visit → Node
  | alone n | asQuery n => n

/-- The error of a visit that is faulty by itself. -/
def fault? : Visit → Option AnalysisError
  | alone (.of (.subLink record)) =>
    if record.subLinkType.hasRule then none else some (.noSubLinkRule record.subLinkType)
  | alone _ => none
  | asQuery (.of (.selectStmt record)) =>
    match record.op, record.larg, record.rarg with
    | .none, _, _ | _, some _, some _ => none
    | op, _, _ => some (.missingOperand op)
  | asQuery n => some (.notAQuery n.kind)

/-- The visits that a visit goes on to, in their order. -/
def next : Visit → List Visit
  | alone (.of layer) =>
    match layer with
    | .rangeVar _ | .columnRef _ | .paramRef _ | .aConst _ | .aliasClause _ => []
    | .joinExpr record => [alone record.larg, alone record.rarg]
    | .boolExpr record => record.args.map alone
    | .subLink record =>
      if record.subLinkType.hasRule then
        asQuery record.subselect :: record.testexpr.toList.map alone
      else []
    | .selectStmt record => [asQuery (.of (.selectStmt record))]
    | layer => layer.children.map alone
  | asQuery (.of (.selectStmt record)) =>
    match record.op, record.larg, record.rarg with
    | .none, _, _ => (record.targetList ++ record.valuesLists ++ record.fromClause).map alone
    | _, some left, some right => [asQuery left, asQuery right]
    | _, _, _ => []
  | asQuery _ => []

/-- A visit goes on to children of its node, or to its own node as a query. -/
theorem next_cases {v w : Visit} (h : w ∈ v.next) :
    w.node ∈ v.node.children ∨ v = alone w.node ∧ w = asQuery w.node := by
  cases v with
  | alone n =>
    cases n with
    | of layer =>
      cases layer
      case selectStmt record =>
        obtain rfl := List.mem_singleton.mp h
        exact .inr ⟨rfl, rfl⟩
      case rangeVar | columnRef | paramRef | aConst | aliasClause => cases h
      case joinExpr record =>
        simp only [next, List.mem_cons, List.not_mem_nil, or_false] at h
        rcases h with rfl | rfl
        · exact .inl List.mem_cons_self
        · exact .inl (List.mem_cons_of_mem _ List.mem_cons_self)
      case subLink record =>
        simp only [next] at h
        split at h
        · rcases List.mem_cons.mp h with rfl | h
          · exact .inl (List.mem_append_right _ List.mem_cons_self)
          · obtain ⟨c, child, rfl⟩ := List.mem_map.mp h
            exact .inl (List.mem_append_left _ (List.mem_append_left _ child))
        · cases h
      all_goals
        obtain ⟨c, child, rfl⟩ := List.mem_map.mp h
        exact .inl child
  | asQuery n =>
    cases n with
    | of layer =>
      cases layer
      case selectStmt record =>
        left
        show w.node ∈ record.children
        simp only [next] at h
        split at h
        · obtain ⟨c, child, rfl⟩ := List.mem_map.mp h
          simp only [List.mem_append] at child
          simp only [node, SelectStmt.children, List.mem_append]
          grind
        next left right _ =>
          simp only [List.mem_cons, List.not_mem_nil, or_false] at h
          rcases h with rfl | rfl <;> simp [node, SelectStmt.children, *]
        · cases h
      all_goals cases h

/-- A visit and all that it goes on to, in the order of the analysis. -/
def order (v : Visit) : List Visit :=
  v :: v.next.attach.flatMap fun ⟨w, _⟩ => w.order
termination_by (sizeOf v.node, match v with | alone _ => 1 | asQuery _ => 0)
decreasing_by
  rename_i h
  obtain child | ⟨e, e'⟩ := next_cases h
  · exact .left _ _ (Node.sizeOf_lt child)
  · rw [e, e']
    exact .right _ Nat.zero_lt_one

/-- A visit comes before those that follow from it. -/
theorem order_eq (v : Visit) : v.order = v :: v.next.flatMap order := by
  rw [order]
  simp

/-- The error of the first faulty visit. -/
def firstFault (v : Visit) : Option AnalysisError := v.order.findSome? fault?

/-- The first fault of a visit is its own, or else the first of those that follow from it. -/
theorem firstFault_eq (v : Visit) : v.firstFault = v.fault?.or (v.next.findSome? firstFault) := by
  rw [firstFault, order_eq, findSome?_cons_or, findSome?_flatMap]
  rfl

end Visit

/-! ## What the analysis finds -/

open Visit (alone asQuery firstFault)

/-- Asking several findings fails with the error of the first of them that is one. -/
theorem errorOf?_anyFinding (findings : List (Finding Bool)) :
    errorOf? (anyFinding findings) = findings.findSome? errorOf? := by
  induction findings with
  | nil => rfl
  | cons finding rest ih =>
    have others : ∀ first, errorOf? (anyFinding rest >>= fun others => pure (first || others)) =
        rest.findSome? errorOf? := by
      intro first
      rw [errorOf?_bind_pure, ih]
    rw [anyFinding, errorOf?_bind others, findSome?_cons_or]

/-- The errors among the findings for a node are the first faults of the visits to it. As an operand
a node is visited as it is on its own. -/
structure FaultsOf (n : Node) (f : Findings) : Prop where
  nullability : errorOf? f.nullability = (alone n).firstFault
  query : errorOf? f.query = (asQuery n).firstFault
  operand : errorOf? f.operand = (alone n).firstFault

/-- Bringing an answer down to yes or no adds no fault. -/
theorem FaultsOf.holds {n : Node} {f : Findings} (h : FaultsOf n f) :
    errorOf? f.holds = (alone n).firstFault :=
  errorOf?_map.trans h.nullability

/-- A node that is no query has the error of its own kind as a query, and the error of its
nullability as an operand. -/
theorem FaultsOf.plain {n : Node} {finding : Finding Nullability}
    (noQuery : (asQuery n).fault? = some (.notAQuery n.kind))
    (h : errorOf? finding = (alone n).firstFault) : FaultsOf n (.plain n.kind finding) where
  nullability := h
  query := by
    rw [Visit.firstFault_eq, noQuery]
    rfl
  operand := errorOf?_map.trans h

/-- A query has the same error on its own and as a query. -/
theorem FaultsOf.ofQuery {record : SelectStmt Node} {finding : Finding QueryNullability}
    (h : errorOf? finding = (asQuery (.of (.selectStmt record))).firstFault) :
    FaultsOf (.of (.selectStmt record)) (.ofQuery finding) := by
  have same : (alone (.of (.selectStmt record))).firstFault =
      (asQuery (.of (.selectStmt record))).firstFault := by
    rw [Visit.firstFault_eq (alone _)]
    simp [Visit.fault?, Visit.next]
  exact ⟨by rw [same, ← h]; exact errorOf?_map, h, by rw [same, ← h]; exact errorOf?_map⟩

/-! ### Rules

One lemma for each rule of the analysis: the findings for a record have the faults of the record
when the findings for the parts of its rule have theirs. -/

section Rules

/-- Asking some nodes, each of which fails as it does on its own, fails with the first fault. -/
theorem errorOf?_anyFinding_map {nodes : List Node} {ask : Findings → Finding Bool}
    (h : ∀ c ∈ nodes, errorOf? (ask c.findings) = (alone c).firstFault) :
    errorOf? (anyFinding ((nodes.map Node.findings).map ask)) =
      (nodes.map alone).findSome? firstFault := by
  rw [errorOf?_anyFinding, List.findSome?_map, List.findSome?_map, List.findSome?_map]
  exact findSome?_congr h

/-- The faults of a join are those of its sides, the left one first. -/
theorem joinExpr_faults {record : JoinExpr Node}
    (parts : ∀ c ∈ record.children, FaultsOf c c.findings) :
    FaultsOf (.of (.joinExpr record)) (Node.of (.joinExpr record)).findings := by
  have left := parts record.larg (by simp [JoinExpr.children])
  have right := parts record.rarg (by simp [JoinExpr.children])
  rw [Node.findings_eq]
  refine .plain rfl ?_
  calc
    _ = (errorOf? record.larg.findings.holds).or (errorOf? record.rarg.findings.holds) :=
      errorOf?_bind fun _ => errorOf?_bind_pure
    _ = (alone record.larg).firstFault.or (alone record.rarg).firstFault := by
      rw [left.holds, right.holds]
    _ = _ := by
      rw [Visit.firstFault_eq (alone (.of _))]
      simp [Visit.fault?, Visit.next, findSome?_cons_or]

/-- The faults of a boolean operator are those of its operands in order. -/
theorem boolExpr_faults {record : BoolExpr Node}
    (operands : ∀ c ∈ record.args, FaultsOf c c.findings) :
    FaultsOf (.of (.boolExpr record)) (Node.of (.boolExpr record)).findings := by
  rw [Node.findings_eq]
  refine .plain rfl ?_
  rw [Visit.firstFault_eq]
  exact errorOf?_map.trans (errorOf?_anyFinding_map fun c hc => (operands c hc).operand)

/-- Whether the analysis has a verdict on a use of a sub-select. -/
theorem SubLinkType.isSome_verdict? (type : SubLinkType) : type.verdict?.isSome = type.hasRule := by
  cases type <;> rfl

/-- A sub-link without a rule is an error itself; otherwise its query is asked before its test. -/
theorem errorOf?_subLinkFinding (type : SubLinkType) (test : Option Findings) (select : Findings) :
    errorOf? (subLinkFinding type test select) =
      if type.hasRule then
        (errorOf? select.query).or (test.toList.findSome? fun f => errorOf? f.holds)
      else some (.noSubLinkRule type) := by
  unfold subLinkFinding
  rw [← SubLinkType.isSome_verdict?]
  cases type.verdict? with
  | none => rfl
  | some verdict =>
    refine errorOf?_bind fun query => ?_
    cases test with
    | none => rfl
    | some expression =>
      show errorOf? (expression.holds >>= fun tested => pure (verdict query tested, query)) = _
      rw [errorOf?_bind_pure, Option.toList_some, findSome?_cons_or]
      exact Option.or_none.symm

/-- The faults of a sub-link are its own, or else those of its query and then of its test. -/
theorem subLink_faults {record : SubLink Node}
    (parts : ∀ c ∈ record.children, FaultsOf c c.findings) :
    FaultsOf (.of (.subLink record)) (Node.of (.subLink record)).findings := by
  have select := parts record.subselect (by simp [SubLink.children])
  have test : ∀ c ∈ record.testexpr, FaultsOf c c.findings :=
    fun c hc => parts c (by simp [SubLink.children, Option.mem_def.mp hc])
  have tested : ((record.testexpr.map Node.findings).toList.findSome? fun f => errorOf? f.holds) =
      (record.testexpr.toList.map alone).findSome? firstFault := by
    rw [Option.toList_map, List.findSome?_map, List.findSome?_map]
    exact findSome?_congr fun c hc => (test c (Option.mem_toList.mp hc)).holds
  have own : errorOf? (subLinkFinding record.subLinkType (record.testexpr.map Node.findings)
      record.subselect.findings) = (alone (.of (.subLink record))).firstFault := by
    rw [errorOf?_subLinkFinding, select.query, tested, Visit.firstFault_eq (alone (.of _))]
    simp only [Visit.fault?, Visit.next]
    split
    · rw [Option.none_or, findSome?_cons_or]
    · rfl
  rw [Node.findings_eq]
  refine ⟨errorOf?_map.trans own, ?_, errorOf?_map.trans own⟩
  rw [Visit.firstFault_eq]
  rfl

/-- A plain query asks its targets, its rows of values, and the relations that it reads. -/
theorem query_faults {record : SelectStmt Node} (plain : record.op = .none)
    (parts : ∀ c ∈ record.children, FaultsOf c c.findings) :
    FaultsOf (.of (.selectStmt record)) (Node.of (.selectStmt record)).findings := by
  have asked : ∀ nodes : List Node, (∀ c ∈ nodes, c ∈ record.children) →
      errorOf? (anyFinding ((nodes.map Node.findings).map Findings.holds)) =
        (nodes.map alone).findSome? firstFault :=
    fun nodes below => errorOf?_anyFinding_map fun c hc => (parts c (below c hc)).holds
  rw [Node.findings_eq]
  simp only [Node.layer, Layer.rule, plain, beq_self_eq_true, if_true, Rule.map, Rule.findings]
  refine .ofQuery ?_
  rw [Visit.firstFault_eq]
  simp only [Visit.fault?, Visit.next, plain, List.map_append, List.findSome?_append,
    Option.none_or]
  rw [← asked record.targetList (by simp +contextual [SelectStmt.children]),
    ← asked record.valuesLists (by simp +contextual [SelectStmt.children]),
    ← asked record.fromClause (by simp +contextual [SelectStmt.children])]
  rw [Option.or_assoc]
  exact errorOf?_bind fun _ => errorOf?_bind fun _ => errorOf?_bind_pure

/-- A set operation asks both its operands, and it is an error itself when one is missing. -/
theorem combination_faults {record : SelectStmt Node} (combines : record.op ≠ .none)
    (parts : ∀ c ∈ record.children, FaultsOf c c.findings) :
    FaultsOf (.of (.selectStmt record)) (Node.of (.selectStmt record)).findings := by
  rw [Node.findings_eq]
  simp only [Node.layer, Layer.rule, beq_iff_eq, combines, if_false, Rule.map, Rule.findings]
  refine .ofQuery ?_
  rw [Visit.firstFault_eq]
  simp only [Visit.fault?, Visit.next]
  cases hl : record.larg with
  | none =>
    cases record.rarg <;> simp
  | some l =>
    cases hr : record.rarg with
    | none => simp
    | some r =>
      have left := parts l (by simp [SelectStmt.children, hl])
      have right := parts r (by simp [SelectStmt.children, hr])
      calc
        _ = (errorOf? l.findings.query).or (errorOf? r.findings.query) :=
          errorOf?_bind fun _ => errorOf?_bind_pure
        _ = (asQuery l).firstFault.or (asQuery r).firstFault := by
          rw [left.query, right.query]
        _ = _ := by simp [findSome?_cons_or]

/-- A node without a rule of its own asks its children. -/
theorem collect_faults {n : Node} (collected : n.layer.rule = .collect n.children)
    (fault : (alone n).fault? = none) (next : (alone n).next = n.children.map alone)
    (noQuery : (asQuery n).fault? = some (.notAQuery n.kind))
    (children : ∀ c ∈ n.children, FaultsOf c c.findings) : FaultsOf n n.findings := by
  rw [Node.findings_eq, collected]
  refine .plain noQuery ?_
  rw [Visit.firstFault_eq, fault, next, Option.none_or, List.findSome?_map, errorOf?_map,
    errorOf?_mapM, List.findSome?_map]
  exact findSome?_congr fun c hc => (children c hc).nullability

end Rules

/-- **The errors among the findings for a node are the first faults of the visits to it.** -/
theorem Node.findings_faults (n : Node) : FaultsOf n n.findings := by
  have parts : ∀ c ∈ n.children, FaultsOf c c.findings :=
    fun c child => findings_faults c
  cases n with
  | of layer =>
    cases layer
    case rangeVar | columnRef | paramRef | aConst | aliasClause =>
      rw [Node.findings_eq]
      refine .plain rfl ?_
      rw [Visit.firstFault_eq]
      rfl
    case joinExpr record => exact joinExpr_faults parts
    case boolExpr record => exact boolExpr_faults parts
    case subLink record => exact subLink_faults parts
    case selectStmt record =>
      by_cases plain : record.op = .none
      · exact query_faults plain parts
      · exact combination_faults plain parts
    all_goals exact collect_faults rfl rfl rfl rfl parts
termination_by sizeOf n
decreasing_by exact Node.sizeOf_lt child

/-- **The nullability analysis fails exactly when one of the visits to a node is faulty, with the
error of the first of those**; otherwise it has an answer. Nothing that is found on the way makes it
pass a faulty visit by. -/
theorem Node.nullability_error_iff_first_fault (n : Node) :
    (∀ e, n.nullability = .error e ↔ ∃ before v after, (alone n).order = before ++ v :: after ∧
      (∀ w ∈ before, w.fault? = none) ∧ v.fault? = some e) ∧
      ((∃ answer, n.nullability = .ok answer) ↔ ∀ v ∈ (alone n).order, v.fault? = none) := by
  have errors : errorOf? n.nullability = (alone n).order.findSome? Visit.fault? :=
    n.findings_faults.nullability
  constructor
  · intro e
    rw [← errorOf?_eq_some, errors, List.findSome?_eq_some_iff]
    grind
  · rw [← errorOf?_eq_none, errors, List.findSome?_eq_none_iff]

end SqlTree
