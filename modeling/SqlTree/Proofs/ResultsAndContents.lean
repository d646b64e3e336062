import SqlTree.Proofs.SetAlgebra

/-!
# Results and contents

The two properties of a query have nothing to do with each other: whether its contents may be null
depends on what its plain queries read from, and whether its results may be null depends on what
they select. So two combinations of queries of one shape (`Node.Parallel`) agree in a property as
soon as their plain queries agree, one by one, in the clauses that decide about that property;
everything else in them may differ (`contents_eq_of_parallel`, `results_eq_of_parallel`).

A use of a query as a sub-link that looks at one of the properties inherits that
(`Node.independence_of_properties`). What is tested against the query still counts for ANY; for EXPR
it has to have an answer and does not count beyond that.

Both halves rest on one law: combinations of one shape with the same values at their queries have
the same value (`Combination.Matches.eval_eq`).
-/

namespace SqlTree

namespace Combination

variable {α : Type} {R : α → α → Prop} {e e' : Combination α}

/-- Two combinations of one shape with the same operations, whose queries are related in order. -/
inductive Matches (R : α → α → Prop) : Combination α → Combination α → Prop where
  | query {a b : α} : R a b → Matches R (query a) (query b)
  | apply {op : SetOperation} {e e' f f' : Combination α} : Matches R e e' → Matches R f f' →
      Matches R (apply op e f) (apply op e' f')

/-- Combinations that match have the same value when related queries have the same. -/
theorem Matches.eval_eq {value value' : α → Bool} (h : e.Matches R e')
    (same : ∀ a ∈ e.leaves, ∀ b ∈ e'.leaves, R a b → value a = value' b) :
    e.eval value = e'.eval value' := by
  induction h with
  | query related =>
    exact same _ (List.mem_singleton_self _) _ (List.mem_singleton_self _) related
  | apply _ _ left right =>
    rw [eval, eval, left, right]
    · intro a ha b hb related
      exact same a (List.mem_append_right _ ha) b (List.mem_append_right _ hb) related
    · intro a ha b hb related
      exact same a (List.mem_append_left _ ha) b (List.mem_append_left _ hb) related

end Combination

namespace Node

variable {n q q' : Node} {e : Combination (SelectStmt Node)} {p p' : QueryNullability}

/-! ## Plain queries -/

/-- The queries that a combination is made of are plain ones. -/
theorem ReadsAs.plain (reads : n.ReadsAs e) : ∀ r ∈ e.leaves, r.op = .none := by
  induction reads with
  | query plain => exact List.forall_mem_singleton.mpr plain
  | apply _ _ _ _ _ left right => exact List.forall_mem_append.mpr ⟨left, right⟩

/-- The properties of a plain query: its results are decided by its targets and its rows of values,
and its contents by what it reads from. -/
theorem queryNullability_plain {r : SelectStmt Node} (plain : r.op = .none)
    (found : (of (.selectStmt r)).queryNullability = .ok p) :
    (∃ targets values, anyFinding (r.targetList.map holds) = .ok targets ∧
      anyFinding (r.valuesLists.map holds) = .ok values ∧
      p.nullableResults = (targets || values)) ∧
      anyFinding (r.fromClause.map holds) = .ok p.nullableContents := by
  rw [queryNullability, findings_eq] at found
  simp only [layer, Layer.rule, plain, BEq.rfl, if_true, Rule.map, Rule.findings,
    List.map_map] at found
  obtain ⟨targets, foundTargets, rest⟩ := bind_eq_ok.mp found
  obtain ⟨values, foundValues, rest⟩ := bind_eq_ok.mp rest
  obtain ⟨sources, foundSources, same⟩ := bind_eq_ok.mp rest
  cases same
  exact ⟨⟨targets, values, foundTargets, foundValues, rfl⟩, foundSources⟩

/-! ## Combinations of one shape -/

/-- Two combinations of plain queries with the same shape and operations, whose plain queries are
related in order. -/
def Parallel (R : SelectStmt Node → SelectStmt Node → Prop) (q q' : Node) : Prop :=
  ∃ e e', q.ReadsAs e ∧ q'.ReadsAs e' ∧ e.Matches R e'

/-- Two queries that read from the same. -/
def SameSources (r r' : SelectStmt Node) : Prop := r.fromClause = r'.fromClause

/-- Two queries that produce the same targets and the same rows of values. -/
def SameTargets (r r' : SelectStmt Node) : Prop :=
  r.targetList = r'.targetList ∧ r.valuesLists = r'.valuesLists

/-- Combinations of one shape that have properties have the values of one expression each, over
plain queries that have properties and are related in order. -/
theorem Parallel.values {R : SelectStmt Node → SelectStmt Node → Prop} (h : q.Parallel R q')
    (found : q.queryNullability = .ok p) (found' : q'.queryNullability = .ok p') :
    ∃ e e' : Combination (SelectStmt Node), e.Matches R e' ∧
      (∀ r ∈ e.leaves, r.op = .none ∧ (of (.selectStmt r)).queryNullability = .ok r.properties) ∧
      (∀ r ∈ e'.leaves, r.op = .none ∧ (of (.selectStmt r)).queryNullability = .ok r.properties) ∧
      p = ⟨e.eval fun r => r.properties.nullableResults,
        e.eval fun r => r.properties.nullableContents⟩ ∧
      p' = ⟨e'.eval fun r => r.properties.nullableResults,
        e'.eval fun r => r.properties.nullableContents⟩ := by
  obtain ⟨e, e', reads, reads', shape⟩ := h
  have known := (reads.defined found).properties
  have known' := (reads'.defined found').properties
  refine ⟨e, e', shape, fun r leaf => ⟨reads.plain r leaf, known r leaf⟩,
    fun r leaf => ⟨reads'.plain r leaf, known' r leaf⟩, ?_, ?_⟩
  · exact Except.ok.inj (found.symm.trans (reads.queryNullability_eq known))
  · exact Except.ok.inj (found'.symm.trans (reads'.queryNullability_eq known'))

/-- Combinations whose plain queries read from the same agree in their contents. -/
theorem contents_eq_of_parallel (h : q.Parallel SameSources q')
    (found : q.queryNullability = .ok p) (found' : q'.queryNullability = .ok p') :
    p.nullableContents = p'.nullableContents := by
  obtain ⟨e, e', shape, plain, plain', rfl, rfl⟩ := h.values found found'
  show e.eval _ = e'.eval _
  apply shape.eval_eq
  intro r leaf r' leaf' same
  have contents := (queryNullability_plain (plain r leaf).1 (plain r leaf).2).2
  have contents' := (queryNullability_plain (plain' r' leaf').1 (plain' r' leaf').2).2
  rw [same] at contents
  exact Except.ok.inj (contents.symm.trans contents')

/-- Combinations whose plain queries produce the same agree in their results. -/
theorem results_eq_of_parallel (h : q.Parallel SameTargets q')
    (found : q.queryNullability = .ok p) (found' : q'.queryNullability = .ok p') :
    p.nullableResults = p'.nullableResults := by
  obtain ⟨e, e', shape, plain, plain', rfl, rfl⟩ := h.values found found'
  show e.eval _ = e'.eval _
  apply shape.eval_eq
  intro r leaf r' leaf' same
  obtain ⟨⟨targets, values, targeted, valued, results⟩, -⟩ :=
    queryNullability_plain (plain r leaf).1 (plain r leaf).2
  obtain ⟨⟨targets', values', targeted', valued', results'⟩, -⟩ :=
    queryNullability_plain (plain' r' leaf').1 (plain' r' leaf').2
  rw [same.1] at targeted
  rw [same.2] at valued
  cases targeted.symm.trans targeted'
  cases valued.symm.trans valued'
  exact results.trans results'.symm

/-! ## Sub-links -/

/-- What is found for the expression that a sub-link is tested against; no where there is none. -/
def tested (test : Option Node) : Finding Bool :=
  match test with
  | some expression => expression.holds
  | none => .ok false

/-- A sub-link over a query with properties has an answer when its test has, and then the verdict
on the two. -/
theorem nullability_subLink {r : SubLink Node} {verdict : QueryNullability → Bool → Bool}
    (rule : r.subLinkType.verdict? = some verdict) (found : r.subselect.queryNullability = .ok p) :
    (of (.subLink r)).nullability =
      (tested r.testexpr).map fun test => .known (verdict p test) := by
  rw [queryNullability] at found
  rw [nullability, findings_eq]
  simp only [layer, Layer.rule, Rule.map, Rule.findings, subLinkFinding, rule, found]
  cases r.testexpr with
  | none => rfl
  | some expression =>
    show Except.map _ (do let tested ← expression.holds; return (verdict p tested, p)) =
      expression.holds.map _
    cases expression.holds <;> rfl

/-- **The contents of a query and its results are independent**: combinations of one shape agree in
their contents when their plain queries read from the same, whatever they select, and in their
results when their plain queries produce the same, whatever they read from. A use of a query that
looks at one of the two only cannot tell such combinations apart. -/
theorem independence_of_properties (found : q.queryNullability = .ok p)
    (found' : q'.queryNullability = .ok p') :
    (q.Parallel SameSources q' → p.nullableContents = p'.nullableContents ∧
      ∀ (link : SubLink Node) (type : SubLinkType), type = .existence ∨ type = .any →
        (of (.subLink { link with subLinkType := type, subselect := q })).nullability =
          (of (.subLink { link with subLinkType := type, subselect := q' })).nullability) ∧
      (q.Parallel SameTargets q' → p.nullableResults = p'.nullableResults ∧
        ∀ link link' : SubLink Node, (∃ b, tested link.testexpr = .ok b) →
          (∃ b, tested link'.testexpr = .ok b) →
          (of (.subLink { link with subLinkType := .expr, subselect := q })).nullability =
            (of (.subLink { link' with subLinkType := .expr, subselect := q' })).nullability) := by
  constructor
  · intro parallel
    have same := contents_eq_of_parallel parallel found found'
    refine ⟨same, ?_⟩
    intro link type use
    rcases use with rfl | rfl
    · rw [nullability_subLink rfl found, nullability_subLink rfl found', same]
    · rw [nullability_subLink rfl found, nullability_subLink rfl found', same]
  · intro parallel
    have same := results_eq_of_parallel parallel found found'
    refine ⟨same, ?_⟩
    rintro link link' ⟨_, answer⟩ ⟨_, answer'⟩
    rw [nullability_subLink rfl found, nullability_subLink rfl found', answer, answer']
    exact congrArg (fun nullable => Except.ok (Nullability.known nullable)) same

/-- `targets FROM x JOIN y EXCEPT SELECT FROM x`, with a kind of join -/
def joinExcept (targets : List Node) (type : JoinType) : Node :=
  combinationOf .except (joinQuery targets type) (filteredQuery (rangeOf "x") none)

/-- A target that may be null is not seen by EXISTS, and a left join not by EXPR, which is asked
with a test and without. -/
theorem independence_of_joinExcept :
    (of (.subLink ⟨.existence, 0, none, [], joinExcept [nullConstant] .left, -1⟩)).nullability =
        .ok (.known true) ∧
      (of (.subLink ⟨.expr, 0, some nullConstant, [], joinExcept [nullConstant] .inner,
        -1⟩)).nullability = .ok (.known true) := by
  have found (targets type) : (joinExcept targets type).ReadsAs (.apply .except _ _) :=
    .apply nofun rfl rfl (.query rfl) (.query rfl)
  have sources : (joinExcept [] .left).Parallel SameSources (joinExcept [nullConstant] .left) :=
    ⟨_, _, found _ _, found _ _, .apply (.query rfl) (.query rfl)⟩
  have targets : (joinExcept [nullConstant] .left).Parallel SameTargets
      (joinExcept [nullConstant] .inner) :=
    ⟨_, _, found _ _, found _ _, .apply (.query ⟨rfl, rfl⟩) (.query ⟨rfl, rfl⟩)⟩
  have plain : (joinExcept [] .left).queryNullability = .ok ⟨false, true⟩ := by cbv
  have both : (joinExcept [nullConstant] .left).queryNullability = .ok ⟨true, true⟩ := by cbv
  have results : (joinExcept [nullConstant] .inner).queryNullability = .ok ⟨true, false⟩ := by cbv
  have onContents := ((independence_of_properties plain both).1 sources).2
    ⟨.existence, 0, none, [], joinExcept [] .left, -1⟩ .existence (.inl rfl)
  have onResults := ((independence_of_properties both results).2 targets).2
    ⟨.expr, 0, none, [], joinExcept [] .left, -1⟩
    ⟨.expr, 0, some nullConstant, [], joinExcept [] .left, -1⟩ ⟨_, rfl⟩ ⟨true, by cbv⟩
  exact ⟨onContents.symm.trans (by cbv), onResults.symm.trans (by cbv)⟩

end Node

end SqlTree
