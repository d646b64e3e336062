import Mathlib.Logic.Relation
import SqlTree.Analysis.Inference
import SqlTree.Proofs.Rewriting
import SqlTree.Proofs.TableOrder

/-!
# What has no influence

Two trees that differ, however often and at whatever depth, only in what an analysis does not look
at get the same answer from it. For nullability that is the answer as a whole, with the shape of a
nested answer and with the error where there is none (`Node.nullability_of_equalOn`); for the tables
it is the list in its order (`Node.tables_of_sameReads`).

What is not looked at may be anything on either side: a tree that would itself be an error, such as
an ARRAY sub-link in a WHERE clause, or one that reads tables of its own, such as a condition of a
join. Both results rest on the lists of fields that are looked at (`Layer.consults`,
`Layer.bearsTables`); that these lists are not too long is not shown.
-/

namespace SqlTree

/-- Rules that resemble each other by equality are equal. -/
theorem Rule.Resembles.eq {α : Type} {r r' : Rule α} (h : r.Resembles (· = ·) (· = ·) r') :
    r = r' := by
  cases h with
  | known | blank => rfl
  | join left right => rw [left, right]
  | operands args => rw [args]
  | subLink test select => cases test <;> simp only [*]
  | query targets values sources => rw [targets, values, sources]
  | combination left right => cases left <;> cases right <;> simp only [*]
  | collect children => rw [children]

/-- Two fields that are the same but for their nodes, of which `F` makes the same. -/
abbrev Content.EqualBy {α β : Type} (F : α → β) : Content α → Content α → Prop :=
  Content.Resembles (fun a b => F a = F b) fun l m => l.map F = m.map F

namespace Layer

variable {α β : Type} {F : α → β} {l l' : Layer α}

/-- Two records of a kind that are equal in every field that is looked at. -/
def EqualOn (looks : Layer α → String × Content α → Bool) (l l' : Layer α) : Prop :=
  l.AgreeOn looks (· = ·) l'

/-- Two records that are the same as far as tables are concerned: equal in every field that bears
tables, or both of them plain values. -/
inductive SameReads : Layer α → Layer α → Prop where
  | fields {l l' : Layer α} : l.EqualOn bearsTables l' → SameReads l l'
  | value {v w : Scalar} : SameReads (.scalar v) (.scalar w)

/-- Records that are equal in what is looked at have the same images there. -/
theorem EqualOn.equalBy {looks : Layer α → String × Content α → Bool} (h : l.EqualOn looks l') :
    l.AgreeOn looks (Content.EqualBy F) l' :=
  h.mono (fun _ _ seen => seen) fun c _ same =>
    same ▸ Content.Resembles.refl (.image F) (fun _ => rfl) c

/-- The images of what a rule consults depend on the images in the fields consulted. -/
theorem AgreeOn.rule_map_eq (h : l.AgreeOn consults (Content.EqualBy F) l') :
    l.rule.map F = l'.rule.map F := by
  have mapped : (l.rule.map F).Resembles (· = ·) (· = ·) (l'.rule.map F) :=
    Rule.Resembles.map (fun _ _ same => same) (fun _ _ same => same) (h.rule (.image F))
  exact mapped.eq

/-- The images of the nodes that carry tables depend on those in the fields that bear tables. -/
theorem AgreeOn.tableEdges_map_eq (h : l.AgreeOn bearsTables (Content.EqualBy F) l') :
    l.tableEdges.map F = l'.tableEdges.map F :=
  h.tableEdges (.image F)

end Layer

namespace Node

variable {n n' : Node}

/-! ## Nullability -/

/-- The findings for a record depend on what is consulted in it, and there on the findings. -/
theorem findings_eq_of_agreeOn
    (h : n.layer.AgreeOn Layer.consults (Content.EqualBy findings) n'.layer) :
    n.findings = n'.findings := by
  have kind : n.kind = n'.kind := h.kind
  rw [findings_eq, findings_eq, kind, h.rule_map_eq]

/-- Rewriting one record of a tree without changing the findings for it changes none of the
findings around it. -/
theorem Rewritten.findings_eq_of_root {step : Layer Node → Layer Node → Prop}
    (h : Rewritten step n n') (root : ∀ l l', step l l' → (of l).findings = (of l').findings) :
    n.findings = n'.findings :=
  Rewritten.related (.image findings) (fun _ => rfl) root
    (fun _ _ agree => findings_eq_of_agreeOn agree.some) h

/-- Changing what is not consulted in one record of a tree changes none of the findings. -/
theorem Rewritten.findings_eq (h : Rewritten (Layer.EqualOn Layer.consults) n n') :
    n.findings = n'.findings :=
  h.findings_eq_of_root fun _ _ step => findings_eq_of_agreeOn step.equalBy

/-- **What nullability does not consult has no influence on it**: not on the answer or its shape,
not on whether there is one, and not on the error. -/
theorem nullability_of_equalOn {t t' : Node}
    (changes : Relation.ReflTransGen (Rewritten (Layer.EqualOn Layer.consults)) t t') :
    t.nullability = t'.nullability ∧ t.queryNullability = t'.queryNullability := by
  have same : t.findings = t'.findings := by
    -- By induction on the number of changes.
    induction changes with
    | refl => rfl
    | tail _ step ih => exact ih.trans step.findings_eq
  exact ⟨congrArg Findings.nullability same, congrArg Findings.query same⟩

/-- `SELECT FROM source WHERE filter` -/
def filteredQuery (source : Node) (filter : Option Node) : Node :=
  .of (.selectStmt ⟨[], none, [], [source], filter, [], none, [], [], none, none, none, .none,
    false, none, none⟩)

/-- `x JOIN y ON quals` with a kind of join. -/
def conditionalJoin (type : JoinType) (quals : Option Node) : Node :=
  .of (.joinExpr ⟨type, false, rangeOf "x", rangeOf "y", [], quals, none⟩)

/-- `ARRAY(SELECT FROM hidden)`, which has no rule. -/
def arrayLink : Node :=
  .of (.subLink ⟨.array, 0, none, [], filteredQuery (rangeOf "hidden") none, -1⟩)

/-- `SELECT FROM x LEFT JOIN y` gets a condition and a filter that are errors by themselves. -/
theorem nullability_of_filteredQuery :
    arrayLink.nullability = .error (.noSubLinkRule .array) ∧
      (filteredQuery (conditionalJoin .left (some arrayLink)) (some arrayLink)).queryNullability =
        .ok ⟨false, true⟩ := by
  have source : Rewritten (Layer.EqualOn Layer.consults) (conditionalJoin .left none)
      (conditionalJoin .left (some arrayLink)) :=
    .here ⟨rfl, by simp [Layer.contents, Layer.consults]⟩
  have condition : Rewritten (Layer.EqualOn Layer.consults)
      (filteredQuery (conditionalJoin .left none) none)
      (filteredQuery (conditionalJoin .left (some arrayLink)) none) :=
    .inside source ⟨rfl, [("distinctClause", .children []), ("intoClause", .child none),
      ("targetList", .children [])], _, _, _, _, rfl, rfl, @Content.Replaced.children _ _ _ [] []⟩
  have filter : Rewritten (Layer.EqualOn Layer.consults)
      (filteredQuery (conditionalJoin .left (some arrayLink)) none)
      (filteredQuery (conditionalJoin .left (some arrayLink)) (some arrayLink)) :=
    .here ⟨rfl, by simp [Layer.contents, Layer.consults]⟩
  have before : (filteredQuery (conditionalJoin .left none) none).queryNullability =
      .ok ⟨false, true⟩ := by cbv
  obtain ⟨-, same⟩ := nullability_of_equalOn (.tail (.single condition) filter)
  exact ⟨by cbv, same ▸ before⟩

/-! ## Tables -/

/-- The names that a record lists depend on what bears tables in it, and there on the names. -/
theorem tableNames_eq_of_agreeOn
    (h : n.layer.AgreeOn Layer.bearsTables (Content.EqualBy tableNames) n'.layer) :
    n.tableNames = n'.tableNames := by
  have table : n.table? = n'.table? := h.table?
  have edges : n.tableEdges.map tableNames = n'.tableEdges.map tableNames := h.tableEdges_map_eq
  rw [tableNames_eq, tableNames_eq, table, List.flatMap_def, List.flatMap_def, edges]

/-- Changing one record of a tree where it bears no tables leaves the names as they are listed. -/
theorem Rewritten.tableNames_eq (h : Rewritten Layer.SameReads n n') :
    n.tableNames = n'.tableNames := by
  refine Rewritten.related (.image tableNames) (fun _ => rfl) (fun l l' step => ?_)
    (fun m m' agree => ?_) h
  · cases step with
    | fields equal => exact tableNames_eq_of_agreeOn equal.equalBy
    | value => rw [Node.tableNames_eq, Node.tableNames_eq]; rfl
  · exact tableNames_eq_of_agreeOn agree.some

/-- **What bears no tables has no influence on them**: the same tables are met in the same order. -/
theorem tables_of_sameReads {t t' : Node}
    (changes : Relation.ReflTransGen (Rewritten Layer.SameReads) t t') : t.tables = t'.tables := by
  have same : t.tableNames = t'.tableNames := by
    -- By induction on the number of changes.
    induction changes with
    | refl => rfl
    | tail _ step ih => exact ih.trans step.tableNames_eq
  rw [tables_eq, tables_eq, same]

/-- A left join in a query becomes an inner join on a condition that reads a table. -/
theorem tables_of_conditionalJoin :
    arrayLink.tables = ["hidden"] ∧
      (filteredQuery (conditionalJoin .inner (some arrayLink)) none).tables = ["x", "y"] := by
  have source : Rewritten Layer.SameReads (conditionalJoin .left none)
      (conditionalJoin .inner (some arrayLink)) :=
    .here (.fields ⟨rfl, by simp [Layer.contents, Layer.bearsTables, Layer.kind]⟩)
  have join : Rewritten Layer.SameReads (filteredQuery (conditionalJoin .left none) none)
      (filteredQuery (conditionalJoin .inner (some arrayLink)) none) :=
    .inside source ⟨rfl, [("distinctClause", .children []), ("intoClause", .child none),
      ("targetList", .children [])], _, _, _, _, rfl, rfl, @Content.Replaced.children _ _ _ [] []⟩
  have before : (filteredQuery (conditionalJoin .left none) none).tables = ["x", "y"] := by cbv
  exact ⟨by cbv, tables_of_sameReads (.single join) ▸ before⟩

end Node

end SqlTree
