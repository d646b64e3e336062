import SqlTree.Proofs.FaultOrder
import SqlTree.Proofs.QueryShape

/-!
# The analysis of built trees

An analysis of an arbitrary tree may fail in three ways. Two of them say that the tree has no query
where it needs one, and those do not occur for a tree that was built: the builder has put queries
where they belong. What is left are the uses of sub-selects that there is no rule for
(`Builder.analysis_of_built`).

The invariant is one of visits (`Visit.Shaped`): the tree of a visit has queries where they belong,
and what is asked as a query is one. Going on to further visits keeps it, and it leaves a visit only
one fault.
-/

namespace SqlTree

namespace Visit

/-- What holds of a visit and is kept by going on holds of all that the visit goes on to. -/
theorem forall_mem_order {P : Visit → Prop} (step : ∀ v, P v → ∀ w ∈ v.next, P w) {v : Visit}
    (h : P v) : ∀ w ∈ v.order, P w := by
  induction v using order.induct with
  | case1 v ih =>
    intro w visited
    rw [order_eq] at visited
    rcases List.mem_cons.mp visited with rfl | visited
    · exact h
    · obtain ⟨first, later, visited⟩ := List.mem_flatMap.mp visited
      exact ih first later (step v h first later) w visited

/-- A tree contains all that is visited for it. -/
theorem contains_of_mem_order {v w : Visit} (visited : w ∈ v.order) : v.node.Contains w.node := by
  have step : ∀ u : Visit, v.node.Contains u.node → ∀ w ∈ u.next, v.node.Contains w.node := by
    intro u reached w later
    rcases next_cases later with child | ⟨e, -⟩
    · exact reached.trans (Node.contains_of_mem_children child)
    · rwa [e] at reached
  exact forall_mem_order step (.self v.node) w visited

/-- A node is asked as a query as the sub-select of a sub-link, as an operand of a set operation, or
because it is a query that was visited on its own. -/
theorem mem_next_asQuery {v : Visit} {m : Node} (later : asQuery m ∈ v.next) :
    (∃ record, v.node = .of (.subLink record) ∧ m = record.subselect) ∨
      (∃ record, v.node = .of (.selectStmt record) ∧ (m ∈ record.larg ∨ m ∈ record.rarg)) ∨
      m.IsSelect := by
  cases v with
  | alone n =>
    cases n with
    | of layer =>
      cases layer
      case subLink record =>
        left
        simp only [next] at later
        split at later
        · simp only [List.mem_cons, asQuery.injEq, List.mem_map, reduceCtorEq, and_false,
            exists_false, or_false] at later
          exact ⟨record, rfl, later⟩
        · cases later
      case selectStmt record =>
        right; right
        simp only [next, List.mem_singleton, asQuery.injEq] at later
        exact ⟨record, later⟩
      all_goals simp [next] at later
  | asQuery n =>
    cases n with
    | of layer =>
      cases layer
      case selectStmt record =>
        right; left
        refine ⟨record, rfl, ?_⟩
        simp only [next] at later
        split at later
        · simp at later
        next left right _ =>
          simp only [List.mem_cons, asQuery.injEq, List.not_mem_nil, or_false] at later
          rcases later with rfl | rfl <;> simp [*]
        · cases later
      all_goals cases later

/-- A visit to a tree that has queries where they belong, and to a query where it asks for one. -/
def Shaped : Visit → Prop
  | alone n => n.Everywhere Node.QueryShaped
  | asQuery n => n.Everywhere Node.QueryShaped ∧ n.IsSelect

/-- Both kinds of visit are to a tree that has queries where they belong. -/
theorem Shaped.everywhere {v : Visit} (h : v.Shaped) : v.node.Everywhere Node.QueryShaped := by
  cases v with
  | alone n => exact h
  | asQuery n => exact h.1

/-- Going on keeps a visit shaped: the queries asked for next are the sub-select of a sub-link and
the operands of a set operation, and the shape of the record before says that they are queries. -/
theorem Shaped.next {v w : Visit} (h : v.Shaped) (later : w ∈ v.next) : w.Shaped := by
  have root : v.node.QueryShaped := h.everywhere.root
  have below : w.node.Everywhere Node.QueryShaped := by
    rcases next_cases later with child | ⟨e, -⟩
    · exact h.everywhere.child child
    · have shaped := h.everywhere
      rwa [e] at shaped
  cases w with
  | alone m => exact below
  | asQuery m =>
    refine ⟨below, ?_⟩
    rcases mem_next_asQuery later with ⟨record, e, rfl⟩ | ⟨record, e, operand⟩ | select
    · rw [e] at root
      exact root
    · rw [e] at root
      exact operand.elim (root.2.1 m) (root.2.2 m)
    · exact select

/-- The only fault of a shaped visit is a sub-link that there is no rule for. -/
theorem Shaped.fault {v : Visit} {e : AnalysisError} (h : v.Shaped) (fault : v.fault? = some e) :
    ∃ record, v.node = .of (.subLink record) ∧ record.subLinkType.hasRule = false ∧
      e = .noSubLinkRule record.subLinkType := by
  cases v with
  | alone n =>
    cases n with
    | of layer =>
      cases layer
      case subLink record =>
        simp only [fault?] at fault
        split at fault
        · cases fault
        next unruled =>
          cases fault
          exact ⟨record, rfl, by simpa using unruled, rfl⟩
      all_goals cases fault
  | asQuery n =>
    obtain ⟨record, rfl⟩ := h.2
    have both := h.everywhere.root.1
    simp only [fault?] at fault
    split at fault
    · cases fault
    · cases fault
    next combines missing =>
      obtain ⟨left, right⟩ := both combines
      obtain ⟨l, hl⟩ := Option.isSome_iff_exists.mp left
      obtain ⟨r, hr⟩ := Option.isSome_iff_exists.mp right
      exact (missing l r hl hr).elim

/-- The first fault of a shaped visit is a sub-link in the tree that there is no rule for. -/
theorem Shaped.firstFault_eq_some {v : Visit} {e : AnalysisError} (h : v.Shaped)
    (fault : v.firstFault = some e) :
    ∃ record, v.node.Contains (.of (.subLink record)) ∧ record.subLinkType.hasRule = false ∧
      e = .noSubLinkRule record.subLinkType := by
  obtain ⟨w, visited, fault⟩ := List.exists_of_findSome?_eq_some fault
  have shaped : w.Shaped := forall_mem_order (fun u (hu : u.Shaped) _ => hu.next) h w visited
  have inside : v.node.Contains w.node := contains_of_mem_order visited
  obtain ⟨record, subLink, unruled, rfl⟩ := shaped.fault fault
  rw [subLink] at inside
  exact ⟨record, inside, unruled, rfl⟩

end Visit

/-! ## Trees with queries where they belong -/

/-- A finding for a tree fails at most with the lack of a rule for some sub-link of the tree, and
not at all when there are rules for all of them. In particular nothing is missed that is needed of
a query: no node is asked as a query without being one, and no set operation lacks an operand. -/
structure Node.FailsAtSubLinks {α : Type} (n : Node) (finding : Finding α) : Prop where
  error : ∀ e, finding = .error e → ∃ record, n.Contains (.of (.subLink record)) ∧
    record.subLinkType ∈ [.rowCompare, .multiExpr, .array, .cte] ∧ e.kind = .subLink ∧
    e.detail = "no nullability rule for " ++ record.subLinkType.keyword ++ " sub-links"
  isQuery : ∀ kind, finding ≠ .error (.notAQuery kind)
  operands : ∀ op, finding ≠ .error (.missingOperand op)
  answer : (∀ record, n.Contains (.of (.subLink record)) →
    record.subLinkType ∉ [.rowCompare, .multiExpr, .array, .cte]) → ∃ a, finding = .ok a

/-- The uses of a sub-select that there is no rule for. -/
theorem SubLinkType.hasRule_eq_false {type : SubLinkType} (h : type.hasRule = false) :
    type ∈ [.rowCompare, .multiExpr, .array, .cte] := by
  cases type with
  | existence | all | any | expr => cases h
  | rowCompare | multiExpr | array | cte => simp

/-- A finding whose error is the first fault of a shaped visit fails at sub-links only. -/
theorem Visit.Shaped.failsAtSubLinks {α : Type} {v : Visit} {finding : Finding α} (h : v.Shaped)
    (errors : errorOf? finding = v.firstFault) : v.node.FailsAtSubLinks finding := by
  have faulty : ∀ e, finding = .error e → ∃ record, v.node.Contains (.of (.subLink record)) ∧
      record.subLinkType.hasRule = false ∧ e = .noSubLinkRule record.subLinkType := by
    intro e failed
    apply h.firstFault_eq_some
    rw [← errors, failed]
    rfl
  refine ⟨?_, ?_, ?_, ?_⟩
  · intro e failed
    obtain ⟨record, inside, unruled, rfl⟩ := faulty e failed
    exact ⟨record, inside, SubLinkType.hasRule_eq_false unruled, rfl, rfl⟩
  · intro kind failed
    obtain ⟨_, _, _, e⟩ := faulty _ failed
    cases e
  · intro op failed
    obtain ⟨_, _, _, e⟩ := faulty _ failed
    cases e
  · intro ruled
    cases hf : finding with
    | ok a => exact ⟨a, rfl⟩
    | error e =>
      obtain ⟨record, inside, unruled, -⟩ := faulty e hf
      exact absurd (SubLinkType.hasRule_eq_false unruled) (ruled record inside)

/-! ## Built trees -/

/-- **The analysis of a tree that was built fails only for a sub-link without a rule**, whether the
tree is asked for its nullability, for that brought down to yes or no, or, being a query, for its
properties as one. -/
theorem Builder.analysis_of_built {b : Builder} {raw : Json} {n : Node}
    (built : b.build raw = .ok (some n)) :
    n.FailsAtSubLinks n.nullability ∧ n.FailsAtSubLinks n.holds ∧
      (n.IsSelect → n.FailsAtSubLinks n.queryNullability) := by
  have shaped : n.Everywhere Node.QueryShaped := buildable_queryShaped.build built
  have faults := n.findings_faults
  refine ⟨?_, ?_, fun select => ?_⟩
  · exact Visit.Shaped.failsAtSubLinks (v := .alone n) shaped faults.nullability
  · exact Visit.Shaped.failsAtSubLinks (v := .alone n) shaped faults.holds
  · exact Visit.Shaped.failsAtSubLinks (v := .asQuery n) ⟨shaped, select⟩ faults.query

/-- `SELECT ARRAY(SELECT)` as a raw tree. -/
def Builder.arrayQuery : Json :=
  .object [("SelectStmt", .object [("targetList", .array [.object [("SubLink", .object
    [("subLinkType", .string "ARRAY_SUBLINK"),
      ("subselect", .object [("SelectStmt", .object [])])])]])])]

/-- A query of an array sub-link is built, and asking for its nullability fails there. -/
theorem Builder.analysis_of_arrayQuery : ∃ n, standard.build arrayQuery = .ok (some n) ∧
    n.nullability = .error (.noSubLinkRule .array) ∧ n.FailsAtSubLinks n.nullability ∧
      n.FailsAtSubLinks n.holds ∧ n.FailsAtSubLinks n.queryNullability := by
  have built : standard.build arrayQuery = .ok (some _) := rfl
  obtain ⟨asked, holds, query⟩ := analysis_of_built built
  refine ⟨_, built, ?_, asked, holds, query ⟨_, rfl⟩⟩
  cbv

end SqlTree
