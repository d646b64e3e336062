import Mathlib.Logic.Relation
import Mathlib.Order.Lattice
import SqlTree.Proofs.Influence

/-!
# The algebra of set operations

Queries that are combined by set operations form a tree of their own, over plain queries
(`Combination`, `Node.ReadsAs`). The properties of the whole are the value of that tree as an
expression, once for each of the two properties: UNION is or, INTERSECT is and, and EXCEPT is its
left operand (`Combination.eval`). Nothing else of the records counts, neither the `all` flags nor
the clauses that follow a set operation.

So what is equal by the laws of lattices, or by dropping the right operand of an EXCEPT, has the
same properties, and the same goes for everything around it: a tree in which a combination of
queries is rewritten like that, wherever it stands, gets the answer that it had before
(`Node.analysis_of_combination`). The plain queries have to have properties. A law may drop a query
or move it, and with it the error that it has otherwise.

The laws are laws of expressions, and one induction over the positions of an expression brings them
to evaluation (`Combination.Rewrites.eval_eq`). How the answer for a tree depends on the part that
is rewritten is the congruence that `Node.Rewritten.findings_eq_of_root` states for every step.
-/

namespace SqlTree

/-- Plain queries combined by set operations. -/
inductive Combination (α : Type) where
  | query (leaf : α)
  | apply (op : SetOperation) (left right : Combination α)

namespace SetOperation

/-- A set operation that is an operation of a lattice. -/
inductive IsLattice : SetOperation → Prop where
  | union : IsLattice .union
  | intersect : IsLattice .intersect

/-- The other operation of the lattice. -/
def dual : SetOperation → SetOperation
  | .union => .intersect
  | .intersect => .union
  | op => op

/-- The truth value that a set operation makes of those of its operands. -/
def eval : SetOperation → Bool → Bool → Bool
  | .union, left, right => left || right
  | .intersect, left, right => left && right
  | .except, left, _ | .none, left, _ => left

/-- The properties of a set operation are its truth values, property by property. -/
theorem combine_eq (op : SetOperation) (left right : QueryNullability) :
    op.combine left right = ⟨op.eval left.nullableResults right.nullableResults,
      op.eval left.nullableContents right.nullableContents⟩ := by
  cases op <;> rfl

end SetOperation

namespace Combination

variable {α : Type} {e f : Combination α}

/-- The plain queries in a combination, from left to right. -/
def leaves : Combination α → List α
  | query leaf => [leaf]
  | apply _ left right => left.leaves ++ right.leaves

/-- The value of a combination as an expression over truth values of its queries. -/
def eval (value : α → Bool) : Combination α → Bool
  | query leaf => value leaf
  | apply op left right => op.eval (left.eval value) (right.eval value)

/-- Two combinations that are the two sides of a law: those of lattices, and that an EXCEPT goes by
its left operand. -/
inductive Law : Combination α → Combination α → Prop where
  | comm {op : SetOperation} {e f : Combination α} : op.IsLattice →
      Law (apply op e f) (apply op f e)
  | assoc {op : SetOperation} {e f g : Combination α} : op.IsLattice →
      Law (apply op (apply op e f) g) (apply op e (apply op f g))
  | idem {op : SetOperation} {e : Combination α} : op.IsLattice → Law (apply op e e) e
  | absorb {op : SetOperation} {e f : Combination α} : op.IsLattice →
      Law (apply op e (apply op.dual e f)) e
  | distrib {op : SetOperation} {e f g : Combination α} : op.IsLattice →
      Law (apply op e (apply op.dual f g)) (apply op.dual (apply op e f) (apply op e g))
  | except {e f : Combination α} : Law (apply .except e f) e

/-- One part of a combination, at whatever position, is rewritten by a law. -/
inductive Rewrites : Combination α → Combination α → Prop where
  | here {e f : Combination α} : Law e f → Rewrites e f
  | left {op : SetOperation} {e f g : Combination α} : Rewrites e f →
      Rewrites (apply op e g) (apply op f g)
  | right {op : SetOperation} {e f g : Combination α} : Rewrites e f →
      Rewrites (apply op g e) (apply op g f)

/-- The two sides of a law have one value: the truth values are a distributive lattice. -/
theorem Law.eval_eq (value : α → Bool) (h : Law e f) : e.eval value = f.eval value := by
  cases h with
  | comm lattice =>
    cases lattice with
    | union => exact @sup_comm Bool _ _ _
    | intersect => exact @inf_comm Bool _ _ _
  | assoc lattice =>
    cases lattice with
    | union => exact @sup_assoc Bool _ _ _ _
    | intersect => exact @inf_assoc Bool _ _ _ _
  | idem lattice =>
    cases lattice with
    | union => exact @sup_idem Bool _ _
    | intersect => exact @inf_idem Bool _ _
  | absorb lattice =>
    cases lattice with
    | union => exact @sup_inf_self Bool _ _ _
    | intersect => exact @inf_sup_self Bool _ _ _
  | distrib lattice =>
    cases lattice with
    | union => exact @sup_inf_left Bool _ _ _ _
    | intersect => exact @inf_sup_left Bool _ _ _ _
  | except => rfl

/-- Rewriting by a law at any position keeps the value. -/
theorem Rewrites.eval_eq (value : α → Bool) (h : Rewrites e f) : e.eval value = f.eval value := by
  induction h with
  | here law => exact law.eval_eq value
  | left _ ih => rw [eval, eval, ih]
  | right _ ih => rw [eval, eval, ih]

/-- Combinations that are equal by the laws have one value. -/
theorem eval_eq_of_eqvGen (value : α → Bool) (h : Relation.EqvGen Rewrites e f) :
    e.eval value = f.eval value := by
  induction h with
  | rel _ _ step => exact step.eval_eq value
  | refl _ => rfl
  | symm _ _ _ ih => exact ih.symm
  | trans _ _ _ _ _ first second => exact first.trans second

end Combination

/-! ## Queries as combinations -/

namespace Node

variable {n n' : Node} {e e' : Combination (SelectStmt Node)}

/-- A query read as a combination of plain queries. -/
inductive ReadsAs : Node → Combination (SelectStmt Node) → Prop where
  | query {r : SelectStmt Node} : r.op = .none → ReadsAs (.of (.selectStmt r)) (.query r)
  | apply {r : SelectStmt Node} {left right : Node} {e f : Combination (SelectStmt Node)} :
      r.op ≠ .none → r.larg = some left → r.rarg = some right → ReadsAs left e → ReadsAs right f →
      ReadsAs (.of (.selectStmt r)) (.apply r.op e f)

/-- A query has the same findings as any other with its properties. -/
theorem findings_selectStmt (r : SelectStmt Node) :
    (of (.selectStmt r)).findings = .ofQuery (of (.selectStmt r)).queryNullability := by
  rw [queryNullability, findings_eq]
  simp only [layer, Layer.rule]
  split <;> rfl

/-- The properties of a set operation come from those of its operands. -/
theorem queryNullability_apply {r : SelectStmt Node} {left right : Node} (combines : r.op ≠ .none)
    (larg : r.larg = some left) (rarg : r.rarg = some right) :
    (of (.selectStmt r)).queryNullability = do
      let p ← left.queryNullability
      let q ← right.queryNullability
      return r.op.combine p q := by
  rw [queryNullability, findings_eq]
  simp only [layer, Layer.rule, beq_false_of_ne combines, larg, rarg]
  rfl

/-- **The properties of a combination** are its values as an expression, property by property. -/
theorem ReadsAs.queryNullability_eq {properties : SelectStmt Node → QueryNullability}
    (reads : n.ReadsAs e)
    (known : ∀ r ∈ e.leaves, (of (.selectStmt r)).queryNullability = .ok (properties r)) :
    n.queryNullability = .ok ⟨e.eval fun r => (properties r).nullableResults,
      e.eval fun r => (properties r).nullableContents⟩ := by
  induction reads with
  | query plain => exact known _ (List.mem_singleton_self _)
  | apply combines larg rarg _ _ left right =>
    have knownLeft := left fun r leaf => known r (List.mem_append_left _ leaf)
    have knownRight := right fun r leaf => known r (List.mem_append_right _ leaf)
    rw [queryNullability_apply combines larg rarg, knownLeft, knownRight]
    exact congrArg Except.ok (SetOperation.combine_eq _ _ _)

end Node

/-- All plain queries of a combination have properties. -/
def Combination.Defined (e : Combination (SelectStmt Node)) : Prop :=
  ∀ r ∈ e.leaves, ∃ p, (Node.of (.selectStmt r)).queryNullability = .ok p

/-- The properties of a query; neither of the two where the analysis has no answer. -/
def SelectStmt.properties (r : SelectStmt Node) : QueryNullability :=
  (Node.of (.selectStmt r)).queryNullability.toOption.getD .neither

/-- Where all plain queries have properties, these are the ones taken for them. -/
theorem Combination.Defined.properties {e : Combination (SelectStmt Node)} (h : e.Defined) :
    ∀ r ∈ e.leaves, (Node.of (.selectStmt r)).queryNullability = .ok r.properties := by
  intro r leaf
  obtain ⟨p, found⟩ := h r leaf
  rw [SelectStmt.properties, found]
  rfl

/-- A combination has properties for its plain queries when both operands do. -/
theorem Combination.Defined.apply {op : SetOperation} {e f : Combination (SelectStmt Node)}
    (left : e.Defined) (right : f.Defined) : (Combination.apply op e f).Defined :=
  List.forall_mem_append.mpr ⟨left, right⟩

/-- Two queries that are equal by the laws of set operations, and all of whose plain queries have
properties. What else there is in their records may be anything. -/
inductive Layer.Recombined : Layer Node → Layer Node → Prop where
  | intro {l l' : Layer Node} {e e' : Combination (SelectStmt Node)} : (Node.of l).ReadsAs e →
      (Node.of l').ReadsAs e' → e.Defined → e'.Defined →
      Relation.EqvGen Combination.Rewrites e e' → Recombined l l'

namespace Node

variable {n n' : Node} {e : Combination (SelectStmt Node)} {p : QueryNullability}

/-- A combination with properties is made of queries that all have properties, also those in the
right operand of an EXCEPT. -/
theorem ReadsAs.defined (reads : n.ReadsAs e) (found : n.queryNullability = .ok p) :
    e.Defined := by
  induction reads generalizing p with
  | query => exact List.forall_mem_singleton.mpr ⟨p, found⟩
  | apply combines larg rarg _ _ left right =>
    rw [queryNullability_apply combines larg rarg] at found
    obtain ⟨_, foundLeft, rest⟩ := bind_eq_ok.mp found
    obtain ⟨_, foundRight, -⟩ := bind_eq_ok.mp rest
    exact (left foundLeft).apply (right foundRight)

/-- Queries that are equal by the laws have the same findings. -/
theorem findings_eq_of_recombined {l l' : Layer Node} (h : l.Recombined l') :
    (of l).findings = (of l').findings := by
  obtain ⟨reads, reads', defined, defined', equal⟩ := h
  have query : (of l).queryNullability = (of l').queryNullability := by
    rw [reads.queryNullability_eq defined.properties,
      reads'.queryNullability_eq defined'.properties,
      Combination.eval_eq_of_eqvGen _ equal, Combination.eval_eq_of_eqvGen _ equal]
  have select {n : Node} {e : Combination (SelectStmt Node)} (reads : n.ReadsAs e) :
      n.findings = .ofQuery n.queryNullability := by
    cases reads <;> exact findings_selectStmt _
  rw [select reads, select reads', query]

/-- **Set operations obey the laws of lattices**, and an EXCEPT goes by its left operand: the
properties of a combination of queries are its value as an expression, and whatever stands around it
gets the same answer when it is rewritten by the laws, however often and wherever. -/
theorem analysis_of_combination :
    (∀ (n : Node) (e : Combination (SelectStmt Node))
      (properties : SelectStmt Node → QueryNullability), n.ReadsAs e →
      (∀ r ∈ e.leaves, (of (.selectStmt r)).queryNullability = .ok (properties r)) →
      n.queryNullability = .ok ⟨e.eval fun r => (properties r).nullableResults,
        e.eval fun r => (properties r).nullableContents⟩) ∧
      ∀ t t' : Node, Relation.ReflTransGen (Rewritten Layer.Recombined) t t' →
        t.queryNullability = t'.queryNullability ∧ t.nullability = t'.nullability := by
  refine ⟨fun n e properties reads known => reads.queryNullability_eq known, ?_⟩
  intro t t' changes
  have same : t.findings = t'.findings := by
    -- By induction on the number of changes.
    induction changes with
    | refl => rfl
    | tail _ step ih =>
      exact ih.trans (step.findings_eq_of_root fun _ _ => findings_eq_of_recombined)
  exact ⟨congrArg Findings.query same, congrArg Findings.nullability same⟩

/-- `left op right` -/
def combinationOf (op : SetOperation) (left right : Node) : Node :=
  .of (.selectStmt ⟨[], none, [], [], none, [], none, [], [], none, none, none, op, false,
    some left, some right⟩)

/-- `NOT EXISTS (SELECT FROM (query))` -/
def notExists (query : Node) : Node :=
  .of (.boolExpr ⟨.not, [.of (.subLink ⟨.existence, 0, none, [],
    filteredQuery (.of (.rangeSubselect ⟨false, query, none⟩)) none, -1⟩)], -1⟩)

theorem ReadsAs.combinationOf {op : SetOperation} {left right : Node}
    {e f : Combination (SelectStmt Node)} (combines : op ≠ .none) (readsLeft : left.ReadsAs e)
    (readsRight : right.ReadsAs f) : (combinationOf op left right).ReadsAs (.apply op e f) :=
  .apply combines rfl rfl readsLeft readsRight

/-- What is rewritten in a query is rewritten in `NOT EXISTS` of it. -/
theorem Rewritten.notExists {step : Layer Node → Layer Node → Prop} {q q' : Node}
    (h : Rewritten step q q') : Rewritten step (notExists q) (notExists q') := by
  have source : Rewritten step (.of (.rangeSubselect ⟨false, q, none⟩))
      (.of (.rangeSubselect ⟨false, q', none⟩)) :=
    .inside h ⟨rfl, [("lateral", .flag false)], _, _, _, _, rfl, rfl, .child⟩
  have select : Rewritten step (filteredQuery (.of (.rangeSubselect ⟨false, q, none⟩)) none)
      (filteredQuery (.of (.rangeSubselect ⟨false, q', none⟩)) none) :=
    .inside source ⟨rfl, [("distinctClause", .children []), ("intoClause", .child none),
      ("targetList", .children [])], _, _, _, _, rfl, rfl, @Content.Replaced.children _ _ _ [] []⟩
  have link : Rewritten step
      (.of (.subLink ⟨.existence, 0, none, [],
        filteredQuery (.of (.rangeSubselect ⟨false, q, none⟩)) none, -1⟩))
      (.of (.subLink ⟨.existence, 0, none, [],
        filteredQuery (.of (.rangeSubselect ⟨false, q', none⟩)) none, -1⟩)) :=
    .inside select ⟨rfl, _ :: _ :: _ :: [_], _, _, _, _, rfl, rfl, .child⟩
  exact .inside link ⟨rfl, [_], _, _, _, _, rfl, rfl, @Content.Replaced.children _ _ _ [] []⟩

/-- With `a` and `b` for `SELECT FROM x LEFT JOIN y` and `SELECT NULL FROM x JOIN y`, the three set
operations have three answers, and inside `NOT EXISTS (SELECT FROM ...)` the query
`(a op b) EXCEPT b` becomes `b op a`, with one answer for UNION and the other for INTERSECT. -/
theorem analysis_of_notExists :
    let a := joinQuery [] .left
    let b := joinQuery [nullConstant] .inner
    (combinationOf .union a b).queryNullability = .ok ⟨true, true⟩ ∧
      (combinationOf .intersect a b).queryNullability = .ok ⟨false, false⟩ ∧
      (combinationOf .except a b).queryNullability = .ok ⟨false, true⟩ ∧
      (notExists (combinationOf .except (combinationOf .union a b) b)).nullability =
        .ok (.known true) ∧
      (notExists (combinationOf .except (combinationOf .intersect a b) b)).nullability =
        .ok (.known false) := by
  intro a b
  have readsA : a.ReadsAs (.query _) := .query rfl
  have readsB : b.ReadsAs (.query _) := .query rfl
  have foundA : a.queryNullability = .ok ⟨false, true⟩ := by cbv
  have foundB : b.queryNullability = .ok ⟨true, false⟩ := by cbv
  have definedA := readsA.defined foundA
  have definedB := readsB.defined foundB
  have value (op : SetOperation) (combines : op ≠ .none) :=
    analysis_of_combination.1 (combinationOf op a b) _ SelectStmt.properties
      (readsA.combinationOf combines readsB) (definedA.apply definedB).properties
  have swapped {op : SetOperation} (lattice : op.IsLattice) :
      (notExists (combinationOf .except (combinationOf op a b) b)).nullability =
        (notExists (combinationOf op b a)).nullability := by
    have combines : op ≠ .none := by cases lattice <;> decide
    have reads : (combinationOf .except (combinationOf op a b) b).ReadsAs (.apply .except _ _) :=
      (readsA.combinationOf combines readsB).combinationOf (by decide) readsB
    have law : Rewritten Layer.Recombined (combinationOf .except (combinationOf op a b) b)
        (combinationOf op b a) :=
      .here (.intro reads (readsB.combinationOf combines readsA)
        ((definedA.apply definedB).apply definedB) (definedB.apply definedA)
        (.trans _ _ _ (.rel _ _ (.here .except)) (.rel _ _ (.here (.comm lattice)))))
    exact (analysis_of_combination.2 _ _ (.single law.notExists)).2
  have afterUnion : (notExists (combinationOf .union b a)).nullability = .ok (.known true) := by
    cbv
  have afterIntersect : (notExists (combinationOf .intersect b a)).nullability =
      .ok (.known false) := by cbv
  exact ⟨(value .union (by decide)).trans (by cbv), (value .intersect (by decide)).trans (by cbv),
    (value .except (by decide)).trans (by cbv), (swapped .union).trans afterUnion,
    (swapped .intersect).trans afterIntersect⟩

end Node

end SqlTree
