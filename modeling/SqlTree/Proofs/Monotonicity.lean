import Mathlib.Logic.Relation
import SqlTree.Analysis.Inference
import SqlTree.Proofs.Growth
import SqlTree.Proofs.Outcome

/-!
# More sources of null

A tree gets more sources of null in small steps (`Node.Widened`): a mark is set, a constant becomes
null, an inner join becomes an outer one, a node that the analysis has an answer for is put into a
sequence; and each of these at any depth. However many such steps are taken, what had an answer
still has one, and what was nullable stays nullable (`Node.analysis_of_widened`).

No rule of the analysis has a negation in it, so every one of them keeps the order on findings
(`Findings.Grow`): answers stay there and say no less. That is shown for each rule over whatever
parts it consults (`Rule.Grown.findings`), and the tree is gone through only once.
-/

namespace SqlTree

/-! ## The order on findings -/

/-- One truth value entails another. -/
def Entails (a b : Bool) : Prop := a = true → b = true

theorem Entails.or {a b c d : Bool} (left : Entails a c) (right : Entails b d) :
    Entails (a || b) (c || d) := by
  intro h
  rcases Bool.or_eq_true_iff.mp h with h | h
  · exact Bool.or_eq_true_iff.mpr (.inl (left h))
  · exact Bool.or_eq_true_iff.mpr (.inr (right h))

theorem Entails.and {a b c d : Bool} (left : Entails a c) (right : Entails b d) :
    Entails (a && b) (c && d) := by
  intro h
  obtain ⟨ha, hb⟩ := Bool.and_eq_true_iff.mp h
  exact Bool.and_eq_true_iff.mpr ⟨left ha, right hb⟩

/-- A query that has each property which another one has. -/
structure QueryNullability.Entails (q r : QueryNullability) : Prop where
  results : SqlTree.Entails q.nullableResults r.nullableResults
  contents : SqlTree.Entails q.nullableContents r.nullableContents

/-- An answer is still there and is related to the one before. -/
def Finding.Grows {α : Type} (R : α → α → Prop) (x y : Finding α) : Prop :=
  ∀ a, x = .ok a → ∃ b, y = .ok b ∧ R a b

namespace Finding.Grows

variable {α β : Type} {R : α → α → Prop} {S : β → β → Prop}

theorem ok {a b : α} (h : R a b) : Finding.Grows R (.ok a) (.ok b) := by
  rintro _ ⟨⟩
  exact ⟨b, rfl, h⟩

theorem error {e : AnalysisError} {y : Finding α} : Finding.Grows R (.error e) y := by
  rintro _ ⟨⟩

/-- Analyses in a row grow when each of them does. -/
theorem bind {x y : Finding α} {f g : α → Finding β} (h : Finding.Grows R x y)
    (next : ∀ a b, R a b → Finding.Grows S (f a) (g b)) :
    Finding.Grows S (x >>= f) (y >>= g) := by
  intro c found
  obtain ⟨a, first, second⟩ := bind_eq_ok.mp found
  obtain ⟨b, first', related⟩ := h a first
  obtain ⟨d, second', related'⟩ := next a b related c second
  exact ⟨d, bind_eq_ok.mpr ⟨b, first', second'⟩, related'⟩

theorem map {x y : Finding α} {f g : α → β} (h : Finding.Grows R x y)
    (next : ∀ a b, R a b → S (f a) (g b)) : Finding.Grows S (x.map f) (y.map g) := by
  intro c found
  obtain ⟨a, first, rfl⟩ := map_eq_ok.mp found
  obtain ⟨b, first', related⟩ := h a first
  exact ⟨g b, map_eq_ok.mpr ⟨b, first', rfl⟩, next a b related⟩

theorem trans {x y z : Finding α} (transitive : ∀ a b c, R a b → R b c → R a c)
    (h : Finding.Grows R x y) (h' : Finding.Grows R y z) : Finding.Grows R x z := by
  intro a found
  obtain ⟨b, found', related⟩ := h a found
  obtain ⟨c, found'', related'⟩ := h' b found'
  exact ⟨c, found'', transitive a b c related related'⟩

end Finding.Grows

namespace Findings

/-- Each finding that is an answer is still one and says no less. -/
structure Grow (f g : Findings) : Prop where
  nullability : Finding.Grows (fun a b => Entails a.holds b.holds) f.nullability g.nullability
  query : Finding.Grows QueryNullability.Entails f.query g.query
  operand : Finding.Grows Entails f.operand g.operand

/-- The findings for a node on its own and as an operand are answers. -/
structure Defined (f : Findings) : Prop where
  nullability : ∃ a, f.nullability = .ok a
  operand : ∃ a, f.operand = .ok a

variable {f g k : Findings}

theorem Grow.refl (f : Findings) : f.Grow f where
  nullability a found := ⟨a, found, id⟩
  query q found := ⟨q, found, id, id⟩
  operand a found := ⟨a, found, id⟩

theorem Grow.trans (h : f.Grow g) (h' : g.Grow k) : f.Grow k where
  nullability := h.nullability.trans (fun _ _ _ ab bc => bc ∘ ab) h'.nullability
  query := h.query.trans (fun _ _ _ ab bc => ⟨bc.1 ∘ ab.1, bc.2 ∘ ab.2⟩) h'.query
  operand := h.operand.trans (fun _ _ _ ab bc => bc ∘ ab) h'.operand

/-- The nullability of a node brought down to yes or no grows with its findings. -/
theorem Grow.holds (h : f.Grow g) : Finding.Grows Entails f.holds g.holds :=
  h.nullability.map fun _ _ more => more

/-- A node with an answer has one that comes down to yes or no. -/
theorem Defined.holds (h : f.Defined) : ∃ a, f.holds = .ok a := by
  obtain ⟨a, found⟩ := h.nullability
  exact ⟨a.holds, map_eq_ok.mpr ⟨a, found, rfl⟩⟩

/-- The findings for a node that is no query grow with its nullability. -/
theorem Grow.plain {kind : Kind} {x y : Finding Nullability}
    (h : Finding.Grows (fun a b => Entails a.holds b.holds) x y) :
    (plain kind x).Grow (plain kind y) where
  nullability := h
  query := .error
  operand := h.map fun _ _ more => more

/-- The findings for a query grow with its properties. -/
theorem Grow.ofQuery {x y : Finding QueryNullability}
    (h : Finding.Grows QueryNullability.Entails x y) : (ofQuery x).Grow (ofQuery y) where
  nullability := h.map fun _ _ more => more.1.or more.2
  query := h
  operand := h.map fun _ _ more => more.1.or more.2

end Findings

/-! ## Each rule keeps the order -/

section Rules

variable {l m : List Findings}

/-- Whether one of a grown list of findings is yes. -/
theorem anyFinding_grows {ask : Findings → Finding Bool}
    (grow : ∀ f g, Findings.Grow f g → Finding.Grows Entails (ask f) (ask g))
    (defined : ∀ f, Findings.Defined f → ∃ a, ask f = .ok a)
    (h : Grown Findings.Grow Findings.Defined l m) :
    Finding.Grows Entails (anyFinding (l.map ask)) (anyFinding (m.map ask)) := by
  induction h with
  | nil => exact .ok id
  | kept related _ ih =>
    refine (grow _ _ related).bind fun _ _ first => ?_
    exact ih.bind fun _ _ others => .ok (first.or others)
  | @new g l m fresh _ ih =>
    -- A new node has an answer, so it does not stand in the way of the others.
    intro a found
    obtain ⟨b, others, more⟩ := ih a found
    obtain ⟨first, asked⟩ := defined g fresh
    refine ⟨first || b, ?_, fun h => by simp [more h]⟩
    simp only [List.map_cons, anyFinding, asked, others]
    rfl

/-- The answers for a grown list of nodes. -/
theorem mapM_nullability_grows (h : Grown Findings.Grow Findings.Defined l m) :
    Finding.Grows (fun as bs => Entails (Nullability.anyHolds as) (Nullability.anyHolds bs))
      (l.mapM Findings.nullability) (m.mapM Findings.nullability) := by
  induction h with
  | nil => exact .ok id
  | kept related _ ih =>
    rw [List.mapM_cons, List.mapM_cons]
    refine related.nullability.bind fun _ _ first => ?_
    exact ih.bind fun _ _ others => .ok (first.or others)
  | @new g l m fresh _ ih =>
    intro as found
    obtain ⟨bs, others, more⟩ := ih as found
    obtain ⟨first, asked⟩ := fresh.nullability
    refine ⟨first :: bs, ?_, fun h => by simp [Nullability.anyHolds, more h]⟩
    rw [List.mapM_cons, asked, others]
    rfl

/-- Every verdict on a sub-link keeps the order, in the query and in the expression tested. -/
theorem SubLinkType.verdict?_entails {type : SubLinkType}
    {verdict : QueryNullability → Bool → Bool} (h : type.verdict? = some verdict)
    {q q' : QueryNullability} {t t' : Bool} (query : q.Entails q') (test : Entails t t') :
    Entails (verdict q t) (verdict q' t') := by
  cases type <;> cases h
  · exact query.contents
  · exact (query.results.or query.contents).or test
  · exact query.contents.or test
  · exact query.results

/-- The verdict on a sub-link grows with the findings for its test and its query, in every use. -/
theorem subLinkFinding_grows (type : SubLinkType) {test test' : Option Findings}
    {select select' : Findings} (tested : Option.Rel Findings.Grow test test')
    (query : select.Grow select') :
    Finding.Grows (fun a b => Entails a.1 b.1 ∧ a.2.Entails b.2)
      (subLinkFinding type test select) (subLinkFinding type test' select') := by
  unfold subLinkFinding
  split
  next => exact .error
  next verdict h =>
    refine query.query.bind fun q q' more => ?_
    have judged : ∀ t t', Entails t t' →
        Finding.Grows (fun a b : Bool × QueryNullability => Entails a.1 b.1 ∧ a.2.Entails b.2)
          (.ok (verdict q t, q)) (.ok (verdict q' t', q')) :=
      fun t t' holds => .ok ⟨SubLinkType.verdict?_entails h more holds, more⟩
    cases tested with
    | none => exact judged false false id
    | some expression => exact expression.holds.bind judged

/-- Set operations are monotone in both operands. -/
theorem SetOperation.combine_entails {op : SetOperation} {l l' r r' : QueryNullability}
    (left : l.Entails l') (right : r.Entails r') :
    (op.combine l r).Entails (op.combine l' r') := by
  cases op with
  | none | except => exact left
  | union => exact ⟨left.results.or right.results, left.contents.or right.contents⟩
  | intersect => exact ⟨left.results.and right.results, left.contents.and right.contents⟩

/-- **A rule over grown parts finds no less.** -/
theorem Rule.Grown.findings {kind : Kind} {r r' : Rule Findings}
    (h : r.Grown Findings.Grow Findings.Defined r') :
    (r.findings kind).Grow (r'.findings kind) := by
  have holds : ∀ {l m}, SqlTree.Grown Findings.Grow Findings.Defined l m →
      Finding.Grows Entails (anyFinding (l.map Findings.holds))
        (anyFinding (m.map Findings.holds)) :=
    fun h => anyFinding_grows (fun _ _ more => more.holds) (fun _ defined => defined.holds) h
  cases h with
  | known more => exact .plain (.ok more)
  | blank => exact .plain (.ok id)
  | join outer left right =>
    refine .plain (left.holds.bind fun _ _ left => right.holds.bind fun _ _ right => .ok ?_)
    exact (Entails.or outer left).or right
  | operands args =>
    refine .plain ((anyFinding_grows ?_ ?_ args).map fun _ _ more => more)
    · exact fun _ _ more => more.operand
    · exact fun _ defined => defined.operand
  | @subLink type _ _ _ _ test select =>
    have verdict := subLinkFinding_grows type test select
    exact {
      nullability := verdict.map fun _ _ more => more.1
      query := .error
      operand := verdict.map fun _ _ more => more.1.or more.2.results }
  | query targets values sources =>
    refine .ofQuery ((holds targets).bind fun _ _ targets => ?_)
    refine (holds values).bind fun _ _ values => ?_
    exact (holds sources).bind fun _ _ sources => .ok ⟨targets.or values, sources⟩
  | combination left right =>
    refine .ofQuery ?_
    cases left with
    | none => exact .error
    | some left =>
      cases right with
      | none => exact .error
      | some right =>
        refine left.query.bind fun _ _ left => ?_
        exact right.query.bind fun _ _ right => .ok (SetOperation.combine_entails left right)
  | collect children => exact .plain ((mapM_nullability_grows children).map fun _ _ more => more)

/-- A node that has an answer on its own has one as an operand. -/
theorem Rule.exists_operand {kind : Kind} {r : Rule Findings} {a : Nullability}
    (h : (r.findings kind).nullability = .ok a) : ∃ b, (r.findings kind).operand = .ok b := by
  cases r with
  | subLink type test select =>
    obtain ⟨pair, found, -⟩ := map_eq_ok.mp h
    exact ⟨_, map_eq_ok.mpr ⟨pair, found, rfl⟩⟩
  | query | combination =>
    obtain ⟨q, found, -⟩ := map_eq_ok.mp h
    exact ⟨_, map_eq_ok.mpr ⟨q, found, rfl⟩⟩
  | known | blank | join | operands | collect => exact ⟨_, map_eq_ok.mpr ⟨a, h, rfl⟩⟩

end Rules

/-! ## Trees with more sources of null -/

/-- One field of a record is changed, and nothing else. -/
structure Layer.Altered {α : Type} (change : Content α → Content α → Prop) (l l' : Layer α) :
    Prop where
  kind : l.kind = l'.kind
  field : ∃ before after name c c', l.contents = before ++ (name, c) :: after ∧
    l'.contents = before ++ (name, c') :: after ∧ change c c'

/-- A node is put into a sequence. -/
inductive Content.Inserted {α : Type} (a : α) : Content α → Content α → Prop where
  | children {before after : List α} :
      Inserted a (.children (before ++ after)) (.children (before ++ a :: after))
  | lists {before after : List α} {ls ms : List (List α)} :
      Inserted a (.lists (ls ++ (before ++ after) :: ms))
        (.lists (ls ++ (before ++ a :: after) :: ms))

/-- A node is replaced by another one. -/
inductive Content.Replaced {α : Type} (a b : α) : Content α → Content α → Prop where
  | child : Replaced a b (.child (some a)) (.child (some b))
  | children {before after : List α} :
      Replaced a b (.children (before ++ a :: after)) (.children (before ++ b :: after))
  | lists {before after : List α} {ls ms : List (List α)} :
      Replaced a b (.lists (ls ++ (before ++ a :: after) :: ms))
        (.lists (ls ++ (before ++ b :: after) :: ms))

section Fields

variable {α : Type} {R : α → α → Prop} {New : α → Prop} {a b : α} {c c' : Content α}

/-- A field grows by a new node. -/
theorem Content.Inserted.grown (same : ∀ a, R a a) (fresh : New a) (h : c.Inserted a c') :
    c.Grown R New c' := by
  have inserted (before after : List α) : SqlTree.Grown R New (before ++ after)
      (before ++ a :: after) :=
    (SqlTree.Grown.refl same before).append (.new fresh (.refl same after))
  cases h with
  | children => exact inserted _ _
  | lists => exact forall₂_replace (.refl same) (inserted _ _)

/-- A field grows when a node in it is replaced by one that is related. -/
theorem Content.Replaced.grown (same : ∀ a, R a a) (related : R a b) (h : c.Replaced a b c') :
    c.Grown R New c' := by
  have replaced (before after : List α) : SqlTree.Grown R New (before ++ a :: after)
      (before ++ b :: after) :=
    (SqlTree.Grown.refl same before).append (.kept related (.refl same after))
  cases h with
  | child => exact .some related
  | children => exact replaced _ _
  | lists => exact forall₂_replace (.refl same) (replaced _ _)

end Fields

namespace Node

/-- A tree gets one more source of null, at whatever depth. A node that is put in has an answer of
its own; if it is a sub-link, its query then has one too (`subselect_nullability`). -/
inductive Widened : Node → Node → Prop where
  | rangeVar {r : RangeVar Node} : r.nullable = false →
      Widened (.of (.rangeVar r)) (.of (.rangeVar { r with nullable := true }))
  | columnRef {r : ColumnRef Node} : r.nullable = false →
      Widened (.of (.columnRef r)) (.of (.columnRef { r with nullable := true }))
  | paramRef {r : ParamRef} : r.nullable = false →
      Widened (.of (.paramRef r)) (.of (.paramRef { r with nullable := true }))
  | aConst {r : AConst} : Widened (.of (.aConst r)) (.of (.aConst { r with val := .null }))
  | joinExpr {r : JoinExpr Node} {type : JoinType} : r.jointype = .inner → type ≠ .inner →
      Widened (.of (.joinExpr r)) (.of (.joinExpr { r with jointype := type }))
  | insert {n n' m : Node} {a : Nullability} : m.nullability = .ok a →
      n.layer.Altered (Content.Inserted m) n'.layer → Widened n n'
  | inside {n n' m m' : Node} : Widened m m' →
      n.layer.Altered (Content.Replaced m m') n'.layer → Widened n n'

/-- The analysis finds no less for a record whose rule is grown. -/
theorem findings_grow {n n' : Node} (kind : n.kind = n'.kind)
    (rule : n.layer.rule.Grown (fun a b => a.findings.Grow b.findings)
      (fun b => b.findings.Defined) n'.layer.rule) : n.findings.Grow n'.findings := by
  rw [findings_eq, findings_eq, ← kind]
  exact Rule.Grown.findings (rule.map (fun _ _ more => more) fun _ defined => defined)

/-- A node with an answer of its own has one as an operand. -/
theorem defined_of_nullability {n : Node} {a : Nullability} (h : n.nullability = .ok a) :
    n.findings.Defined := by
  refine ⟨⟨a, h⟩, ?_⟩
  unfold nullability at h
  rw [findings_eq] at h ⊢
  exact Rule.exists_operand h

/-- The analysis finds no less for a record with one field changed, when the field is grown. -/
theorem findings_grow_of_altered {change : Content Node → Content Node → Prop} {n n' : Node}
    (altered : n.layer.Altered change n'.layer)
    (grown : ∀ c c', change c c' → c.Grown (fun a b => a.findings.Grow b.findings)
      (fun b => b.findings.Defined) c') : n.findings.Grow n'.findings := by
  have same (c : Content Node) : c.Grown (fun a b => a.findings.Grow b.findings)
      (fun b => b.findings.Defined) c := .refl (fun a => .refl a.findings) c
  obtain ⟨kind, before, after, name, c, c', contents, contents', changed⟩ := altered
  refine findings_grow kind (Layer.Grown.rule ⟨kind, ?_⟩)
  rw [contents, contents']
  exact forall₂_replace (fun entry => ⟨rfl, same entry.2⟩) ⟨rfl, grown c c' changed⟩

/-- A sub-link that has an answer has a query with an answer. -/
theorem subselect_nullability {r : SubLink Node} {a : Nullability}
    (h : (Node.of (.subLink r)).nullability = .ok a) : ∃ b, r.subselect.nullability = .ok b := by
  obtain ⟨q, found⟩ : ∃ q, r.subselect.findings.query = .ok q := by
    rw [nullability, findings_eq] at h
    obtain ⟨_, judged, -⟩ := map_eq_ok.mp h
    simp only [subLinkFinding] at judged
    split at judged
    next => cases judged
    next =>
      obtain ⟨q, found, -⟩ := bind_eq_ok.mp judged
      exact ⟨q, found⟩
  rw [findings_eq] at found
  rw [nullability, findings_eq]
  generalize r.subselect.layer.rule.map findings = rule at found ⊢
  cases rule with
  | query | combination => exact ⟨_, map_eq_ok.mpr ⟨q, found, rfl⟩⟩
  | known | blank | join | operands | subLink | collect => cases found

/-- **One more source of null** leaves each answer there, saying no less. -/
theorem Widened.findings_grow {n n' : Node} (h : Widened n n') : n.findings.Grow n'.findings := by
  have refl (n : Node) : n.findings.Grow n.findings := .refl n.findings
  induction h with
  | rangeVar | columnRef | paramRef | aConst =>
    exact Node.findings_grow rfl (.known fun _ => rfl)
  | @joinExpr r type inner outer =>
    have pads : type.isOuter = true := by
      cases type with
      | inner => exact absurd rfl outer
      | left | full | right => rfl
    exact Node.findings_grow rfl (.join (fun _ => pads) (refl _) (refl _))
  | insert found altered =>
    have defined := defined_of_nullability found
    exact findings_grow_of_altered altered fun c c' inserted => inserted.grown refl defined
  | inside _ altered ih =>
    exact findings_grow_of_altered altered fun c c' replaced => replaced.grown refl ih

/-- **More sources of null**, any number of them at any depth: what had an answer has one, what held
holds, and each property that a query had it still has. -/
theorem analysis_of_widened {t t' : Node} (changes : Relation.ReflTransGen Widened t t') :
    ((∃ a, t.nullability = .ok a) → ∃ a, t'.nullability = .ok a) ∧
      (t.holds = .ok true → t'.holds = .ok true) ∧
      ∀ q, t.queryNullability = .ok q → ∃ q', t'.queryNullability = .ok q' ∧
        (q.nullableResults = true → q'.nullableResults = true) ∧
        (q.nullableContents = true → q'.nullableContents = true) := by
  have grow : t.findings.Grow t'.findings := by
    -- By induction on the number of changes.
    induction changes with
    | refl => exact .refl t.findings
    | tail _ step ih => exact ih.trans step.findings_grow
  refine ⟨fun ⟨a, found⟩ => ?_, fun holds => ?_, fun q found => ?_⟩
  · obtain ⟨b, found', -⟩ := grow.nullability a found
    exact ⟨b, found'⟩
  · obtain ⟨b, found, more⟩ := grow.holds true holds
    obtain rfl : b = true := more rfl
    exact found
  · obtain ⟨q', found', more⟩ := grow.query q found
    exact ⟨q', found', more.results, more.contents⟩

def rangeOf (relname : String) : Node :=
  .of (.rangeVar ⟨none, none, relname, true, none, none, -1, false⟩)

def joinOf (type : JoinType) : Node :=
  .of (.joinExpr ⟨type, false, rangeOf "x", rangeOf "y", [], none, none⟩)

/-- `SELECT targets FROM x JOIN y` with a kind of join. -/
def joinQuery (targets : List Node) (type : JoinType) : Node :=
  .of (.selectStmt ⟨[], none, targets, [joinOf type], none, [], none, [], [], none, none, none,
    .none, false, none, none⟩)

def nullConstant : Node := .of (.aConst ⟨.null, -1⟩)

/-- `SELECT NULL FROM x JOIN y` gets a left join and a second target. -/
theorem analysis_of_joinQuery :
    (joinQuery [nullConstant] .inner).queryNullability = .ok ⟨true, false⟩ ∧
      (∃ a, (joinQuery [nullConstant, nullConstant] .left).nullability = .ok a) ∧
      (joinQuery [nullConstant, nullConstant] .left).holds = .ok true ∧
      ∃ q, (joinQuery [nullConstant, nullConstant] .left).queryNullability = .ok q ∧
        q.nullableResults = true := by
  have join : Widened (joinOf .inner) (joinOf .left) := .joinExpr rfl (by decide)
  have source : Widened (joinQuery [nullConstant] .inner) (joinQuery [nullConstant] .left) :=
    .inside join ⟨rfl, [("distinctClause", .children []), ("intoClause", .child none),
      ("targetList", .children [nullConstant])], _, _, _, _, rfl, rfl,
      @Content.Replaced.children _ _ _ [] []⟩
  have constant : nullConstant.nullability = .ok (.known true) := by cbv
  have target : Widened (joinQuery [nullConstant] .left)
      (joinQuery [nullConstant, nullConstant] .left) :=
    .insert constant ⟨rfl, [("distinctClause", .children []), ("intoClause", .child none)],
      _, _, _, _, rfl, rfl, @Content.Inserted.children _ _ [] [nullConstant]⟩
  have own : (joinQuery [nullConstant] .inner).nullability = .ok (.known true) := by cbv
  have holds : (joinQuery [nullConstant] .inner).holds = .ok true := by cbv
  have query : (joinQuery [nullConstant] .inner).queryNullability = .ok ⟨true, false⟩ := by cbv
  obtain ⟨defined, kept, properties⟩ := analysis_of_widened (.tail (.single source) target)
  obtain ⟨q, found, results, -⟩ := properties _ query
  exact ⟨query, defined ⟨_, own⟩, kept holds, q, found, results rfl⟩

end Node

end SqlTree
