import Mathlib.Logic.Relation
import SqlTree.Analysis.Inference
import SqlTree.Proofs.Agreement
import SqlTree.Proofs.Rewriting
import SqlTree.Proofs.TableOrder

/-!
# The order of entries

A tree is reordered when the entries of a sequence change places, or the operands of a join, of a
UNION or of an INTERSECT do (`Layer.Reordered`), at whatever depth. However often that is done, the
same questions have answers, the answers are the same, and the same tables are read
(`Node.analysis_of_reordered`). An EXCEPT is not among them: it goes by its left operand.

What carries the proof is that neither analysis counts or orders. The answer for several nodes
depends on which answers there are among them and on nothing else (`anyFinding_eq_ok`), and so does
the set of tables; so both are shown for records whose sequences have the same members up to what is
being asked (`SameMembers`), which covers a permutation and a node replaced by one like it.

Which error is met first, and where in a nested answer an entry stands, does depend on the order;
nothing is said about either.
-/

namespace SqlTree

/-! ## Sequences with the same members -/

/-- Two lists with the same members, as far as `R` tells them apart. -/
structure SameMembers {α : Type} (R : α → α → Prop) (l m : List α) : Prop where
  left : ∀ a ∈ l, ∃ b ∈ m, R a b
  right : ∀ b ∈ m, ∃ a ∈ l, R a b

namespace SameMembers

variable {α β : Type} {R : α → α → Prop} {l m : List α}

theorem laws : SequenceLaws R (SameMembers R) where
  nil := ⟨by simp, by simp⟩
  single related := ⟨by simpa using related, by simpa using related⟩
  append first second := by
    refine ⟨fun a ha => ?_, fun b hb => ?_⟩
    · rcases List.mem_append.mp ha with ha | ha
      · obtain ⟨b, hb, related⟩ := first.left a ha
        exact ⟨b, List.mem_append_left _ hb, related⟩
      · obtain ⟨b, hb, related⟩ := second.left a ha
        exact ⟨b, List.mem_append_right _ hb, related⟩
    · rcases List.mem_append.mp hb with hb | hb
      · obtain ⟨a, ha, related⟩ := first.right b hb
        exact ⟨a, List.mem_append_left _ ha, related⟩
      · obtain ⟨a, ha, related⟩ := second.right b hb
        exact ⟨a, List.mem_append_right _ ha, related⟩

theorem of_perm (same : ∀ a, R a a) (h : l.Perm m) : SameMembers R l m where
  left a ha := ⟨a, h.mem_iff.mp ha, same a⟩
  right b hb := ⟨b, h.mem_iff.mpr hb, same b⟩

theorem map {f : α → β} {R' : β → β → Prop} (related : ∀ a b, R a b → R' (f a) (f b))
    (h : SameMembers R l m) : SameMembers R' (l.map f) (m.map f) := by
  refine ⟨fun x hx => ?_, fun y hy => ?_⟩
  · obtain ⟨a, ha, rfl⟩ := List.mem_map.mp hx
    obtain ⟨b, hb, r⟩ := h.left a ha
    exact ⟨f b, List.mem_map_of_mem hb, related a b r⟩
  · obtain ⟨b, hb, rfl⟩ := List.mem_map.mp hy
    obtain ⟨a, ha, r⟩ := h.right b hb
    exact ⟨f a, List.mem_map_of_mem ha, related a b r⟩

end SameMembers

/-! ## The same answers -/

/-- Two questions with the same answer, if either has one. -/
abbrev Finding.SameAnswer {α : Type} (x y : Finding α) : Prop := Agree AnyError x y

namespace Finding.SameAnswer

variable {α β : Type} {x y : Finding α}

theorem error {e e' : AnalysisError} : Finding.SameAnswer (.error e : Finding α) (.error e') :=
  Agree.error trivial

theorem of_iff (h : ∀ a, x = .ok a ↔ y = .ok a) : x.SameAnswer y := by
  cases x with
  | ok a =>
    rw [(h a).mp rfl]
    exact .ok a
  | error e =>
    cases y with
    | ok b => exact nomatch (h b).mpr rfl
    | error e' => exact error

/-- Two questions may be asked in either order. -/
theorem comm {γ : Type} {x : Finding α} {y : Finding β} {f : α → β → Finding γ}
    {g : β → α → Finding γ} (h : ∀ a b, f a b = g b a) :
    Finding.SameAnswer (x >>= fun a => y >>= f a) (y >>= fun b => x >>= g b) := by
  cases x with
  | ok a =>
    cases y with
    | ok b =>
      rw [ok_bind, ok_bind, ok_bind, ok_bind, h]
      exact .refl _
    | error e => exact error
  | error e =>
    cases y with
    | ok b => exact error
    | error e' => exact error

end Finding.SameAnswer

/-- The answer to several questions depends on which answers there are among them, not on their
order or number. -/
theorem anyFinding_eq_ok {l : List (Finding Bool)} {b : Bool} :
    anyFinding l = .ok b ↔ (∀ x ∈ l, ∃ a, x = .ok a) ∧ (b = true ↔ .ok true ∈ l) := by
  induction l generalizing b with
  | nil => cases b <;> simp [anyFinding]
  | cons x l ih =>
    cases x with
    | error e => simp [anyFinding, bind, Except.bind]
    | ok a =>
      have step : anyFinding (.ok a :: l) = .ok b ↔ ∃ c, anyFinding l = .ok c ∧ (a || c) = b := by
        change (anyFinding l >>= fun c => (.ok (a || c) : Finding Bool)) = .ok b ↔ _
        rw [bind_eq_ok]
        exact exists_congr fun c => and_congr_right fun _ => ⟨Except.ok.inj, congrArg Except.ok⟩
      rw [step]
      constructor
      · rintro ⟨c, found, rfl⟩
        obtain ⟨defined, yes⟩ := ih.mp found
        refine ⟨by simpa using defined, ?_⟩
        rw [Bool.or_eq_true_iff, yes, List.mem_cons]
        exact or_congr_left ⟨fun h => h ▸ rfl, fun h => (Except.ok.inj h).symm⟩
      · rintro ⟨defined, yes⟩
        have rest : ∀ x ∈ l, ∃ a, x = .ok a := fun x hx => defined x (List.mem_cons_of_mem _ hx)
        by_cases found : .ok true ∈ l
        · obtain rfl : b = true := yes.mpr (List.mem_cons_of_mem _ found)
          exact ⟨true, ih.mpr ⟨rest, by simp [found]⟩, Bool.or_true a⟩
        · have own : b = true ↔ a = true := by simpa [found, eq_comm] using yes
          refine ⟨false, ih.mpr ⟨rest, by simp [found]⟩, ?_⟩
          rw [Bool.or_false, Bool.eq_iff_iff, own]

namespace Findings

/-- Two nodes of which the same questions have answers, and the same ones. -/
structure SameAnswers (f g : Findings) : Prop where
  holds : f.holds.SameAnswer g.holds
  query : f.query.SameAnswer g.query
  operand : f.operand.SameAnswer g.operand

theorem SameAnswers.refl (f : Findings) : f.SameAnswers f := ⟨.refl _, .refl _, .refl _⟩

/-- The answers for a node that is no query are those for its nullability. -/
theorem SameAnswers.plain {kind : Kind} {x y : Finding Nullability}
    (h : Finding.SameAnswer (x.map Nullability.holds) (y.map Nullability.holds)) :
    (plain kind x).SameAnswers (plain kind y) :=
  ⟨h, .error, h⟩

/-- The answers for a query are those for its properties. -/
theorem SameAnswers.ofQuery {x y : Finding QueryNullability} (h : x.SameAnswer y) :
    (ofQuery x).SameAnswers (ofQuery y) :=
  ⟨h.map.map, h, h.map⟩

end Findings

/-! ## Each rule -/

section Rules

variable {l m : List Findings}

/-- Asking several nodes in another order, or some of them twice, gives the same answer. -/
theorem anyFinding_sameAnswer {ask : Findings → Finding Bool}
    (agree : ∀ f g, Findings.SameAnswers f g → (ask f).SameAnswer (ask g))
    (h : SameMembers Findings.SameAnswers l m) :
    (anyFinding (l.map ask)).SameAnswer (anyFinding (m.map ask)) := by
  obtain ⟨left, right⟩ := h.map agree
  refine .of_iff fun b => ?_
  rw [anyFinding_eq_ok, anyFinding_eq_ok]
  refine and_congr ⟨fun defined y hy => ?_, fun defined x hx => ?_⟩
    (iff_congr Iff.rfl ⟨fun yes => ?_, fun yes => ?_⟩)
  · obtain ⟨x, hx, same⟩ := right y hy
    obtain ⟨a, found⟩ := defined x hx
    exact ⟨a, (same.ok_iff a).mp found⟩
  · obtain ⟨y, hy, same⟩ := left x hx
    obtain ⟨a, found⟩ := defined y hy
    exact ⟨a, (same.ok_iff a).mpr found⟩
  · obtain ⟨y, hy, same⟩ := left _ yes
    exact (same.ok_iff true).mp rfl ▸ hy
  · obtain ⟨x, hx, same⟩ := right _ yes
    exact (same.ok_iff true).mpr rfl ▸ hx

/-- The children of a record, collected, hold when one of them does. -/
theorem holds_collect :
    ((l.mapM Findings.nullability).map Nullability.nested).map Nullability.holds =
      anyFinding (l.map Findings.holds) := by
  induction l with
  | nil => rfl
  | cons f l ih =>
    rw [List.mapM_cons, List.map_cons, anyFinding, ← ih, Findings.holds]
    cases f.nullability with
    | error e => rfl
    | ok a => cases l.mapM Findings.nullability <;> rfl

/-- The verdict on a sub-link depends on the answers for its test and its query. -/
theorem subLinkFinding_sameAnswer (type : SubLinkType) {test test' : Option Findings}
    {select select' : Findings} (tested : Option.Rel Findings.SameAnswers test test')
    (query : select.SameAnswers select') :
    (subLinkFinding type test select).SameAnswer (subLinkFinding type test' select') := by
  unfold subLinkFinding
  split
  next => exact .error
  next verdict h =>
    refine query.query.bind fun q => ?_
    cases tested with
    | none => exact .refl _
    | some expression => exact expression.holds.bind fun t => .refl _

/-- The answer of a rule comes down to itself. -/
theorem map_known_holds (x : Finding Bool) :
    (x.map Nullability.known).map Nullability.holds = x := by
  cases x <;> rfl

/-- **A rule over sequences with the same members finds the same answers.** -/
theorem Rule.Resembles.sameAnswers {kind : Kind} {r r' : Rule Findings}
    (h : r.Resembles Findings.SameAnswers (SameMembers Findings.SameAnswers) r') :
    (r.findings kind).SameAnswers (r'.findings kind) := by
  have holds : ∀ {l m}, SameMembers Findings.SameAnswers l m →
      (anyFinding (l.map Findings.holds)).SameAnswer (anyFinding (m.map Findings.holds)) :=
    fun h => anyFinding_sameAnswer (fun _ _ agree => agree.holds) h
  cases h with
  | known | blank => exact .refl _
  | join left right =>
    refine .plain (Agree.map ?_)
    exact left.holds.bind fun _ => right.holds.bind fun _ => .refl _
  | operands args =>
    refine .plain ?_
    rw [map_known_holds, map_known_holds]
    exact anyFinding_sameAnswer (fun _ _ agree => agree.operand) args
  | @subLink type _ _ _ _ test select =>
    have verdict := subLinkFinding_sameAnswer type test select
    exact ⟨verdict.map.map, .error, verdict.map⟩
  | query targets values sources =>
    refine .ofQuery ((holds targets).bind fun _ => ?_)
    exact (holds values).bind fun _ => (holds sources).bind fun _ => .refl _
  | combination left right =>
    refine .ofQuery ?_
    cases left with
    | none => exact .error
    | some left =>
      cases right with
      | none => exact .error
      | some right => exact left.query.bind fun _ => right.query.bind fun _ => .refl _
  | collect children =>
    refine .plain ?_
    rw [holds_collect, holds_collect]
    exact holds children

end Rules

/-! ## Trees with their entries reordered -/

/-- The entries of a sequence in a field change places. Sequences of sequences have their entries,
and each of these has its own. -/
inductive Content.Permuted {α : Type} : Content α → Content α → Prop where
  | children {l m : List α} : l.Perm m → Permuted (.children l) (.children m)
  | lists {ls ms : List (List α)} : ls.Perm ms → Permuted (.lists ls) (.lists ms)
  | entries {l m : List α} {ls ms : List (List α)} : l.Perm m →
      Permuted (.lists (ls ++ l :: ms)) (.lists (ls ++ m :: ms))

/-- The entries of a sequence in a record change places, or the operands of a join, of a UNION or of
an INTERSECT do. -/
inductive Layer.Reordered {α : Type} : Layer α → Layer α → Prop where
  | entries {l l' : Layer α} : l.Altered Content.Permuted l' → Reordered l l'
  | join {r : JoinExpr α} :
      Reordered (.joinExpr r) (.joinExpr { r with larg := r.rarg, rarg := r.larg })
  | operands {r : SelectStmt α} : r.op = .union ∨ r.op = .intersect →
      Reordered (.selectStmt r) (.selectStmt { r with larg := r.rarg, rarg := r.larg })

/-- A permuted field has the same members. -/
theorem Content.Permuted.resembles {α : Type} {R : α → α → Prop} (same : ∀ a, R a a)
    {c c' : Content α} (h : c.Permuted c') : c.Resembles R (SameMembers R) c' := by
  cases h with
  | children perm => exact .of_perm same perm
  | lists perm => exact .of_perm same perm.flatten
  | entries perm =>
    refine SameMembers.of_perm same ?_
    simp only [List.flatten_append, List.flatten_cons]
    exact (perm.append_right _).append_left _

/-- UNION and INTERSECT do not depend on the order of their operands. -/
theorem SetOperation.combine_comm {op : SetOperation} (h : op = .union ∨ op = .intersect)
    (q r : QueryNullability) : op.combine q r = op.combine r q := by
  rcases h with rfl | rfl
  · simp only [combine, QueryNullability.union, Bool.or_comm]
  · simp only [combine, QueryNullability.intersect, Bool.and_comm]

namespace Node

variable {n n' : Node}

/-! ### Nullability -/

/-- A record over nodes with the same answers has the same answers. -/
theorem sameAnswers_of_agreeOn
    (h : n.layer.AgreeOn Layer.everyField
      (Content.Resembles (fun a b => a.findings.SameAnswers b.findings)
        (SameMembers fun a b => a.findings.SameAnswers b.findings)) n'.layer) :
    n.findings.SameAnswers n'.findings := by
  have kind : n.kind = n'.kind := h.kind
  rw [findings_eq, findings_eq, kind]
  exact Rule.Resembles.sameAnswers ((h.some.rule SameMembers.laws).map (fun _ _ agree => agree)
    fun _ _ members => members.map fun _ _ agree => agree)

/-- A join has the same answers with its sides swapped. -/
theorem joinExpr_sameAnswers (r : JoinExpr Node) :
    (of (.joinExpr r)).findings.SameAnswers
      (of (.joinExpr { r with larg := r.rarg, rarg := r.larg })).findings := by
  rw [findings_eq, findings_eq]
  refine .plain (Agree.map (Finding.SameAnswer.comm fun left right => ?_))
  rw [Bool.or_right_comm]

/-- A UNION or an INTERSECT has the same answers with its operands swapped. -/
theorem selectStmt_sameAnswers {r : SelectStmt Node} (h : r.op = .union ∨ r.op = .intersect) :
    (of (.selectStmt r)).findings.SameAnswers
      (of (.selectStmt { r with larg := r.rarg, rarg := r.larg })).findings := by
  have combines : (r.op == .none) = false := by
    rcases h with h | h <;> rw [h] <;> rfl
  simp only [findings_eq, layer, Layer.rule, combines, Bool.false_eq_true, if_false, Rule.map,
    Rule.findings]
  refine .ofQuery ?_
  cases r.larg with
  | none => cases r.rarg <;> exact .refl _
  | some left =>
    cases r.rarg with
    | none => exact .refl _
    | some right =>
      exact .comm fun q q' => congrArg _ (SetOperation.combine_comm h q q')

/-- Reordering the entries anywhere in a tree leaves the answers as they are. -/
theorem Rewritten.sameAnswers (h : Rewritten Layer.Reordered n n') :
    n.findings.SameAnswers n'.findings := by
  refine h.related SameMembers.laws (fun n => .refl n.findings) (fun l l' step => ?_)
    fun _ _ agree => sameAnswers_of_agreeOn agree
  cases step with
  | entries altered =>
    exact sameAnswers_of_agreeOn (altered.agreeOn
      (Content.Resembles.refl SameMembers.laws fun n => .refl n.findings) fun c c' permuted =>
        permuted.resembles fun n => .refl n.findings)
  | join => exact joinExpr_sameAnswers _
  | operands op => exact selectStmt_sameAnswers op

/-! ### Tables -/

/-- Two trees that list the same names, in whatever order and however often. -/
def SameTables (n n' : Node) : Prop := ∀ name, name ∈ n.tableNames ↔ name ∈ n'.tableNames

theorem SameTables.refl (n : Node) : SameTables n n := fun _ => Iff.rfl

/-- A record over edges that list the same names lists the same names. -/
theorem sameTables_of_edges (table : n.table? = n'.table?)
    (edges : SameMembers SameTables n.tableEdges n'.tableEdges) : SameTables n n' := by
  intro name
  rw [tableNames_eq, tableNames_eq, table]
  simp only [List.mem_append, List.mem_flatMap]
  refine or_congr_right ⟨?_, ?_⟩
  · rintro ⟨a, ha, named⟩
    obtain ⟨b, hb, same⟩ := edges.left a ha
    exact ⟨b, hb, (same name).mp named⟩
  · rintro ⟨b, hb, named⟩
    obtain ⟨a, ha, same⟩ := edges.right b hb
    exact ⟨a, ha, (same name).mpr named⟩

/-- Records whose fields have the same tables have the same tables. -/
theorem sameTables_of_agreeOn
    (h : n.layer.AgreeOn Layer.everyField
      (Content.Resembles SameTables (SameMembers SameTables)) n'.layer) : SameTables n n' :=
  sameTables_of_edges h.some.table? (h.some.tableEdges SameMembers.laws)

/-- Reordering the entries anywhere in a tree leaves the set of tables as it is. -/
theorem Rewritten.sameTables (h : Rewritten Layer.Reordered n n') : SameTables n n' := by
  refine h.related SameMembers.laws SameTables.refl (fun l l' step => ?_)
    fun _ _ agree => sameTables_of_agreeOn agree
  cases step with
  | entries altered =>
    exact sameTables_of_agreeOn (altered.agreeOn
      (Content.Resembles.refl SameMembers.laws SameTables.refl) fun c c' permuted =>
        permuted.resembles SameTables.refl)
  | join => exact sameTables_of_edges rfl (.of_perm SameTables.refl (.swap _ _ _))
  | @operands r op =>
    have exchange (before left right : List Node) :
        (before ++ left ++ right).Perm (before ++ right ++ left) := by
      rw [List.append_assoc, List.append_assoc]
      exact List.perm_append_comm.append_left before
    exact sameTables_of_edges rfl (.of_perm SameTables.refl (exchange _ _ _))

/-- **The order of entries does not matter**: however the entries of sequences and the operands of
joins, of UNION and of INTERSECT change places, the same questions have answers, the answers are the
same, and the same tables are read. -/
theorem analysis_of_reordered {t t' : Node}
    (changes : Relation.ReflTransGen (Rewritten Layer.Reordered) t t') :
    (∀ b, t.holds = .ok b ↔ t'.holds = .ok b) ∧
      (∀ q, t.queryNullability = .ok q ↔ t'.queryNullability = .ok q) ∧
      ∀ name, name ∈ t.tables ↔ name ∈ t'.tables := by
  -- By induction on the number of changes.
  induction changes with
  | refl => exact ⟨fun _ => Iff.rfl, fun _ => Iff.rfl, fun _ => Iff.rfl⟩
  | tail _ step ih =>
    obtain ⟨holds, query, tables⟩ := ih
    have answers := step.sameAnswers
    refine ⟨fun b => (holds b).trans (answers.holds.ok_iff b),
      fun q => (query q).trans (answers.query.ok_iff q), fun name => (tables name).trans ?_⟩
    rw [mem_tables, mem_tables]
    exact step.sameTables name

/-- `SELECT FROM sources` -/
def sourcesQuery (sources : List Node) : Node :=
  .of (.selectStmt ⟨[], none, [], sources, none, [], none, [], [], none, none, none, .none, false,
    none, none⟩)

/-- `left UNION right` -/
def unionOf (left right : Node) : Node :=
  .of (.selectStmt ⟨[], none, [], [], none, [], none, [], [], none, none, none, .union, false,
    some left, some right⟩)

/-- `SELECT FROM a, x LEFT JOIN y UNION SELECT` gets its sources and then its operands exchanged. -/
theorem analysis_of_unionOf :
    (unionOf (sourcesQuery [joinOf .left, rangeOf "a"]) (sourcesQuery [])).holds = .ok true ∧
      (unionOf (sourcesQuery []) (sourcesQuery [rangeOf "a", joinOf .left])).holds = .ok true ∧
      (unionOf (sourcesQuery []) (sourcesQuery [rangeOf "a", joinOf .left])).queryNullability =
        .ok ⟨false, true⟩ ∧
      "a" ∈ (unionOf (sourcesQuery []) (sourcesQuery [rangeOf "a", joinOf .left])).tables := by
  have sources : Rewritten Layer.Reordered (sourcesQuery [joinOf .left, rangeOf "a"])
      (sourcesQuery [rangeOf "a", joinOf .left]) :=
    .here (.entries ⟨rfl, [("distinctClause", .children []), ("intoClause", .child none),
      ("targetList", .children [])], _, _, _, _, rfl, rfl, .children (.swap _ _ _)⟩)
  have inner : Rewritten Layer.Reordered
      (unionOf (sourcesQuery [joinOf .left, rangeOf "a"]) (sourcesQuery []))
      (unionOf (sourcesQuery [rangeOf "a", joinOf .left]) (sourcesQuery [])) :=
    .inside sources
      ⟨rfl, (unionOf (sourcesQuery []) (sourcesQuery [])).layer.contents.take 14,
        _, "larg", _, _, rfl, rfl, .child⟩
  have outer : Rewritten Layer.Reordered
      (unionOf (sourcesQuery [rangeOf "a", joinOf .left]) (sourcesQuery []))
      (unionOf (sourcesQuery []) (sourcesQuery [rangeOf "a", joinOf .left])) :=
    .here (.operands (.inl rfl))
  have holds : (unionOf (sourcesQuery [joinOf .left, rangeOf "a"]) (sourcesQuery [])).holds =
      .ok true := by cbv
  have query : (unionOf (sourcesQuery [joinOf .left, rangeOf "a"])
      (sourcesQuery [])).queryNullability = .ok ⟨false, true⟩ := by cbv
  have tables : (unionOf (sourcesQuery [joinOf .left, rangeOf "a"]) (sourcesQuery [])).tables =
      ["x", "y", "a"] := by cbv
  have read : "a" ∈ (unionOf (sourcesQuery [joinOf .left, rangeOf "a"])
      (sourcesQuery [])).tables := by
    rw [tables]
    decide
  obtain ⟨sameHolds, sameQuery, sameTables⟩ := analysis_of_reordered (.tail (.single inner) outer)
  exact ⟨holds, (sameHolds true).mp holds, (sameQuery _).mp query, (sameTables "a").mp read⟩

end Node

end SqlTree
