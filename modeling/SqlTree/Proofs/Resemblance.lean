import Mathlib.Data.List.Forall2
import SqlTree.Analysis.Rule
import SqlTree.Analysis.Tables
import SqlTree.Proofs.RecordContents
import SqlTree.Proofs.VocabularyCodes

/-!
# What the analyses see of similar records

Two records of a kind are compared field by field, on the fields that an analysis looks at and on no
others (`Layer.AgreeOn`). Which fields those are is written down once for each analysis:
`Layer.consults` for nullability, `Layer.bearsTables` for the tables.

The comparison of the nodes in a field is left open: single nodes are related by `R`, sequences of
nodes by `S`, and all that is asked is that `S` goes along with empty sequences, single nodes and
concatenation (`SequenceLaws`). Records that agree in that sense on the fields that are consulted
have rules that resemble each other (`Layer.AgreeOn.rule`), and records that agree on the fields
that bear tables have related edges (`Layer.AgreeOn.tableEdges`). These are the only places where
the kinds of record are told apart; what follows from them is a matter of choosing `R` and `S`.
-/

namespace SqlTree

section Lists

variable {α : Type}

/-- A relation between sequences that goes along with a relation between their entries. -/
structure SequenceLaws (R : α → α → Prop) (S : List α → List α → Prop) : Prop where
  nil : S [] []
  single : ∀ {a b}, R a b → S [a] [b]
  append : ∀ {l l' m m'}, S l l' → S m m' → S (l ++ m) (l' ++ m')

namespace SequenceLaws

variable {R : α → α → Prop} {S : List α → List α → Prop}

theorem refl (laws : SequenceLaws R S) (same : ∀ a, R a a) (l : List α) : S l l := by
  induction l with
  | nil => exact laws.nil
  | cons a l ih => exact laws.append (laws.single (same a)) ih

theorem toList (laws : SequenceLaws R S) {o p : Option α} (h : Option.Rel R o p) :
    S o.toList p.toList := by
  cases h with
  | none => exact laws.nil
  | some related => exact laws.single related

/-- Sequences with the same image, entry by entry, go along with entries that have the same. -/
theorem image {β : Type} (F : α → β) :
    SequenceLaws (fun a b => F a = F b) fun l m => l.map F = m.map F where
  nil := rfl
  single same := congrArg (fun b => [b]) same
  append first second := by rw [List.map_append, List.map_append, first, second]

end SequenceLaws

theorem optionRel_refl {R : α → α → Prop} (same : ∀ a, R a a) (o : Option α) :
    Option.Rel R o o := by
  cases o with
  | none => exact .none
  | some a => exact .some (same a)

theorem optionRel_map {β : Type} {R : α → α → Prop} {f : α → β} {R' : β → β → Prop}
    (related : ∀ a b, R a b → R' (f a) (f b)) {o p : Option α} (h : Option.Rel R o p) :
    Option.Rel R' (o.map f) (p.map f) := by
  cases h with
  | none => exact .none
  | some r => exact .some (related _ _ r)

end Lists

/-! ## Fields -/

namespace Content

variable {α : Type} {R : α → α → Prop} {S : List α → List α → Prop}

/-- Whether a field is of a sort that holds no nodes. -/
def isPlain : Content α → Bool
  | text _ | integer _ | flag _ | code _ | constant _ => true
  | child _ | children _ | lists _ => false

/-- A plain field holds no nodes. -/
theorem parts_eq_nil {c : Content α} (h : c.isPlain = true) : c.parts = [] := by
  cases c <;> first | rfl | cases h

/-- Two fields that are the same but for their nodes. -/
def Resembles (R : α → α → Prop) (S : List α → List α → Prop) : Content α → Content α → Prop
  | text v, text w => v = w
  | integer v, integer w => v = w
  | flag v, flag w => v = w
  | code v, code w => v = w
  | constant v, constant w => v = w
  | child v, child w => Option.Rel R v w
  | children v, children w => S v w
  | lists v, lists w => S v.flatten w.flatten
  | _, _ => False

theorem Resembles.refl (laws : SequenceLaws R S) (same : ∀ a, R a a) (c : Content α) :
    c.Resembles R S c := by
  cases c with
  | child value => exact optionRel_refl same value
  | children values => exact laws.refl same values
  | lists values => exact laws.refl same values.flatten
  | text | integer | flag | code | constant => rfl

/-- Fields that resemble each other are both plain or both not. -/
theorem Resembles.isPlain_eq {c c' : Content α} (h : c.Resembles R S c') :
    c.isPlain = c'.isPlain := by
  cases c <;> cases c' <;> first | rfl | exact h.elim

/-- The nodes in fields that resemble each other are related as sequences. -/
theorem Resembles.parts (laws : SequenceLaws R S) {c c' : Content α} (h : c.Resembles R S c') :
    S c.parts c'.parts := by
  cases c <;> cases c' <;> first | exact h.elim | skip
  case child.child => exact laws.toList h
  case children.children => exact h
  case lists.lists => exact h
  all_goals exact laws.nil

/-- The nodes in a list of fields, where those that may hold nodes resemble each other. -/
theorem flatMap_parts (laws : SequenceLaws R S) {entries entries' : List (String × Content α)}
    (h : List.Forall₂ (fun entry entry' =>
      (!entry.2.isPlain) = true ∨ (!entry'.2.isPlain) = true → entry.2.Resembles R S entry'.2)
      entries entries') :
    S (entries.flatMap fun entry => entry.2.parts)
      (entries'.flatMap fun entry => entry.2.parts) := by
  induction h with
  | nil => exact laws.nil
  | @cons entry entry' _ _ first _ ih =>
    rw [List.flatMap_cons, List.flatMap_cons]
    refine laws.append ?_ ih
    by_cases holds : (!entry.2.isPlain) = true ∨ (!entry'.2.isPlain) = true
    · exact (first holds).parts laws
    · simp only [Bool.not_eq_true', not_or, Bool.not_eq_false] at holds
      rw [parts_eq_nil holds.1, parts_eq_nil holds.2]
      exact laws.nil

end Content

/-! ## Records -/

namespace Layer

variable {α : Type} {R : α → α → Prop} {S : List α → List α → Prop}

/-- Two records of a kind with the same fields, which agree in the sense of `P` where one of them is
looked at. -/
structure AgreeOn (looks : Layer α → String × Content α → Bool)
    (P : Content α → Content α → Prop) (l l' : Layer α) : Prop where
  kind : l.kind = l'.kind
  contents : List.Forall₂ (fun entry entry' => entry.1 = entry'.1 ∧
    (looks l entry = true ∨ looks l' entry' = true → P entry.2 entry'.2)) l.contents l'.contents

/-- Every field is looked at. -/
def everyField (_ : Layer α) (_ : String × Content α) : Bool := true

/-- Agreement on fewer fields, or in a weaker sense. -/
theorem AgreeOn.mono {looks looks' : Layer α → String × Content α → Bool}
    {P Q : Content α → Content α → Prop} {l l' : Layer α} (h : l.AgreeOn looks P l')
    (fewer : ∀ l entry, looks' l entry = true → looks l entry = true)
    (weaker : ∀ c c', P c c' → Q c c') : l.AgreeOn looks' Q l' where
  kind := h.kind
  contents := h.contents.imp fun entry entry' ⟨name, agree⟩ =>
    ⟨name, fun seen => weaker _ _ (agree (seen.imp (fewer l entry) (fewer l' entry')))⟩

/-- Records that resemble each other in every field do so in those that are looked at. -/
theorem AgreeOn.some {looks : Layer α → String × Content α → Bool}
    {P : Content α → Content α → Prop} {l l' : Layer α} (h : l.AgreeOn everyField P l') :
    l.AgreeOn looks P l' :=
  h.mono (fun _ _ _ => rfl) fun _ _ agree => agree

/-! ## What nullability sees -/

/-- The fields that decide about nullability. Of a record without a rule of its own these are the
fields that may hold nodes. -/
def consults (l : Layer α) (field : String × Content α) : Bool :=
  match l with
  | selectStmt r =>
    field.1 == "op" ||
      if r.op == .none then
        field.1 == "targetList" || field.1 == "valuesLists" || field.1 == "fromClause"
      else
        field.1 == "larg" || field.1 == "rarg"
  | joinExpr _ => field.1 == "jointype" || field.1 == "larg" || field.1 == "rarg"
  | boolExpr _ => field.1 == "args"
  | subLink _ => field.1 == "subLinkType" || field.1 == "testexpr" || field.1 == "subselect"
  | rangeVar _ | columnRef _ | paramRef _ => field.1 == "nullable"
  | aConst _ => field.1 == "isnull"
  | aliasClause _ => false
  | _ => !field.2.isPlain

end Layer

/-- Two rules of the same form that see the same but for the nodes. -/
inductive Rule.Resembles {α : Type} (R : α → α → Prop) (S : List α → List α → Prop) :
    Rule α → Rule α → Prop where
  | known {nullable : Bool} : Resembles R S (.known nullable) (.known nullable)
  | blank : Resembles R S .blank .blank
  | join {type : JoinType} {left left' right right' : α} : R left left' → R right right' →
      Resembles R S (.join type left right) (.join type left' right')
  | operands {args args' : List α} : S args args' → Resembles R S (.operands args) (.operands args')
  | subLink {type : SubLinkType} {test test' : Option α} {select select' : α} :
      Option.Rel R test test' → R select select' →
      Resembles R S (.subLink type test select) (.subLink type test' select')
  | query {targets targets' values values' sources sources' : List α} :
      S targets targets' → S values values' → S sources sources' →
      Resembles R S (.query targets values sources) (.query targets' values' sources')
  | combination {op : SetOperation} {left left' right right' : Option α} :
      Option.Rel R left left' → Option.Rel R right right' →
      Resembles R S (.combination op left right) (.combination op left' right')
  | collect {children children' : List α} : S children children' →
      Resembles R S (.collect children) (.collect children')

/-- Rules that resemble each other still do when what they consult is replaced by its images. -/
theorem Rule.Resembles.map {α β : Type} {R : α → α → Prop} {S : List α → List α → Prop}
    {R' : β → β → Prop} {S' : List β → List β → Prop} {f : α → β} {r r' : Rule α}
    (related : ∀ a b, R a b → R' (f a) (f b)) (sequence : ∀ l m, S l m → S' (l.map f) (m.map f))
    (h : r.Resembles R S r') : (r.map f).Resembles R' S' (r'.map f) := by
  cases h with
  | known => exact .known
  | blank => exact .blank
  | join left right => exact .join (related _ _ left) (related _ _ right)
  | operands args => exact .operands (sequence _ _ args)
  | subLink test select => exact .subLink (optionRel_map related test) (related _ _ select)
  | query targets values sources =>
    exact .query (sequence _ _ targets) (sequence _ _ values) (sequence _ _ sources)
  | combination left right =>
    exact .combination (optionRel_map related left) (optionRel_map related right)
  | collect children => exact .collect (sequence _ _ children)

namespace Layer

variable {α : Type} {R : α → α → Prop} {S : List α → List α → Prop} {l l' : Layer α}

/-- What a record of a kind is like: a record of the type with a rule of its own, or one whose
children are collected. -/
def HasForm (l : Layer α) : Kind → Prop
  | .rangeVar => ∃ r, l = rangeVar r
  | .columnRef => ∃ r, l = columnRef r
  | .paramRef => ∃ r, l = paramRef r
  | .aConst => ∃ r, l = aConst r
  | .aliasClause => ∃ r, l = aliasClause r
  | .joinExpr => ∃ r, l = joinExpr r
  | .boolExpr => ∃ r, l = boolExpr r
  | .subLink => ∃ r, l = subLink r
  | .selectStmt => ∃ r, l = selectStmt r
  | _ => l.rule = .collect l.children

/-- A record is of the form that its kind says. -/
theorem hasForm (l : Layer α) : l.HasForm l.kind := by
  cases l
  case scalar value => cases value <;> rfl
  case rangeVar | columnRef | paramRef | aConst | aliasClause | joinExpr | boolExpr | subLink |
    selectStmt => exact ⟨_, rfl⟩
  all_goals rfl

/-- A record whose children are collected is consulted for all of them. -/
theorem consults_of_collect (h : l.rule = .collect l.children) (field : String × Content α) :
    l.consults field = !field.2.isPlain := by
  cases l
  case selectStmt r =>
    simp only [Layer.rule] at h
    split at h <;> cases h
  all_goals first | rfl | cases h

/-- Records whose children are collected resemble each other when they agree on what is
consulted. -/
theorem AgreeOn.collect (laws : SequenceLaws R S)
    (h : l.AgreeOn consults (Content.Resembles R S) l')
    (collected : l.rule = .collect l.children) (collected' : l'.rule = .collect l'.children) :
    l.rule.Resembles R S l'.rule := by
  have agree := h.contents
  simp only [consults_of_collect collected, consults_of_collect collected'] at agree
  rw [collected, collected', children_eq, children_eq]
  exact .collect (Content.flatMap_parts laws (agree.imp fun _ _ h => h.2))

/-- **Records that agree on what is consulted** have rules that resemble each other, whatever their
kind. -/
theorem AgreeOn.rule (laws : SequenceLaws R S)
    (h : l.AgreeOn consults (Content.Resembles R S) l') : l.rule.Resembles R S l'.rule := by
  -- The other record is of the same type: each kind has one form, and that is all `kind` is for.
  have form := l'.hasForm
  have contents := h.contents
  rw [← h.kind] at form
  cases l
  case rangeVar | columnRef | paramRef | aConst =>
    obtain ⟨r', rfl⟩ := form
    simp [Layer.contents, consults, Content.Resembles] at contents
    simp only [Layer.rule, contents]
    exact .known
  case aliasClause r =>
    obtain ⟨r', rfl⟩ := form
    exact .blank
  case joinExpr r =>
    obtain ⟨r', rfl⟩ := form
    simp [Layer.contents, consults, Content.Resembles] at contents
    obtain ⟨type, left, right⟩ := contents
    simp only [Layer.rule, Vocabulary.eq_of_code_eq type]
    exact .join left right
  case boolExpr r =>
    obtain ⟨r', rfl⟩ := form
    simp [Layer.contents, consults, Content.Resembles] at contents
    exact .operands contents
  case subLink r =>
    obtain ⟨r', rfl⟩ := form
    simp [Layer.contents, consults, Content.Resembles] at contents
    obtain ⟨type, test, select⟩ := contents
    simp only [Layer.rule, Vocabulary.eq_of_code_eq type]
    exact .subLink test select
  case selectStmt r =>
    obtain ⟨r', rfl⟩ := form
    by_cases plain : r.op = .none
    · simp [Layer.contents, consults, Content.Resembles, plain] at contents
      obtain ⟨targets, sources, values, op, -⟩ := contents
      simp only [Layer.rule, plain, ← Vocabulary.eq_of_code_eq op]
      exact .query targets values sources
    · simp [Layer.contents, consults, Content.Resembles, plain] at contents
      obtain ⟨-, -, -, op, left, right⟩ := contents
      simp only [Layer.rule, ← Vocabulary.eq_of_code_eq op, beq_false_of_ne plain]
      exact .combination left right
  case scalar value =>
    have collected : l'.rule = .collect l'.children := by cases value <;> exact form
    exact h.collect laws rfl collected
  -- The children of a record of another kind are collected.
  all_goals exact h.collect laws rfl form

/-! ## What carries tables -/

/-- The fields that decide about tables: those of the edges that carry tables, and the name of a
relation. -/
def bearsTables (l : Layer α) (field : String × Content α) : Bool :=
  match l.kind with
  | .rangeVar => field.1 == "schemaname" || field.1 == "relname"
  | .joinExpr => field.1 == "larg" || field.1 == "rarg"
  | .subLink => field.1 == "subselect"
  | .insertStmt => field.1 != "relation"
  | .aliasClause | .intoClause => false
  | _ => !field.2.isPlain

/-- Plain fields may be left out when the nodes are listed. -/
theorem flatMap_filter_isPlain (entries : List (String × Content α)) :
    (entries.filter fun entry => !entry.2.isPlain).flatMap (fun entry => entry.2.parts) =
      entries.flatMap fun entry => entry.2.parts := by
  induction entries with
  | nil => rfl
  | cons entry entries ih =>
    cases plain : entry.2.isPlain with
    | false => simp [plain, ih]
    | true => simp [plain, ih, Content.parts_eq_nil plain]

/-- The edges that carry tables are the nodes in the fields that do. -/
theorem tableEdges_eq (l : Layer α) :
    l.tableEdges = (l.contents.filter l.bearsTables).flatMap fun entry => entry.2.parts := by
  have others (l : Layer α) (edges : l.tableEdges = l.children)
      (fields : l.bearsTables = fun field => !field.2.isPlain) :
      l.tableEdges = (l.contents.filter l.bearsTables).flatMap fun entry => entry.2.parts := by
    rw [edges, fields, flatMap_filter_isPlain, children_eq]
  cases l
  case rangeVar | joinExpr | subLink | aliasClause | intoClause =>
    simp [tableEdges, contents, bearsTables, kind, Content.parts]
  case insertStmt =>
    simp [tableEdges, contents, bearsTables, kind, InsertStmt.readChildren, Content.parts,
      List.filter_cons]
  case scalar value => cases value <;> exact others _ rfl rfl
  all_goals exact others _ rfl rfl

/-- Whether a field bears tables depends on the kind of its record, its name, and whether it is
plain. -/
theorem bearsTables_congr (kind : l.kind = l'.kind) {field field' : String × Content α}
    (name : field.1 = field'.1) (plain : field.2.isPlain = field'.2.isPlain) :
    l.bearsTables field = l'.bearsTables field' := by
  unfold bearsTables
  rw [kind, name, plain]

/-- **Records that agree on what bears tables** have related edges that carry tables. -/
theorem AgreeOn.tableEdges (laws : SequenceLaws R S)
    (h : l.AgreeOn bearsTables (Content.Resembles R S) l') : S l.tableEdges l'.tableEdges := by
  rw [tableEdges_eq, tableEdges_eq]
  have agree := h.contents
  generalize l.contents = entries at agree
  generalize l'.contents = entries' at agree
  induction agree with
  | nil => exact laws.nil
  | @cons entry entry' entries entries' first _ ih =>
    obtain ⟨name, related⟩ := first
    by_cases bears : l.bearsTables entry = true ∨ l'.bearsTables entry' = true
    · have same := bearsTables_congr h.kind name (related bears).isPlain_eq
      have both : l'.bearsTables entry' = true := by
        rw [same, or_self] at bears
        exact bears
      rw [List.filter_cons_of_pos (same.trans both), List.filter_cons_of_pos both]
      exact laws.append ((related bears).parts laws) ih
    · rw [not_or] at bears
      rw [List.filter_cons_of_neg bears.1, List.filter_cons_of_neg bears.2]
      exact ih

/-- Records that agree on what bears tables name the same table, if any. -/
theorem AgreeOn.table? (h : l.AgreeOn bearsTables (Content.Resembles R S) l') :
    l.table? = l'.table? := by
  have none (l : Layer α) (other : l.kind ≠ .rangeVar) : l.table? = .none := by
    cases l <;> first | rfl | exact absurd rfl other
  by_cases relation : l.kind = .rangeVar
  · have form := l.hasForm
    have form' := l'.hasForm
    rw [← h.kind] at form'
    rw [relation] at form form'
    obtain ⟨r, rfl⟩ := form
    obtain ⟨r', rfl⟩ := form'
    have contents := h.contents
    simp [Layer.contents, bearsTables, Layer.kind, Content.Resembles] at contents
    simp [Layer.table?, RangeVar.qualifiedName, contents]
  · rw [none l relation, none l' (h.kind ▸ relation)]

end Layer

end SqlTree
