import SqlTree.Proofs.Outcome
import SqlTree.Proofs.Resemblance

/-!
# Records that grow

One record is grown from another of the same kind when its fields are the same but for the nodes:
each node may be replaced by one that is related to it, and new nodes may be put into the sequences
(`Layer.Grown`). Which nodes are related and which new ones are allowed is left open.

Whatever kind the records are of, the analysis then sees grown sequences, related parts, and
nothing else changed (`Layer.Grown.rule`).
-/

namespace SqlTree

section Lists

variable {α β : Type} {R : α → α → Prop} {New : α → Prop}

/-- A list grown from another: its entries related in order, with new ones in between. -/
inductive Grown (R : α → α → Prop) (New : α → Prop) : List α → List α → Prop where
  | nil : Grown R New [] []
  | kept {a b : α} {l m : List α} : R a b → Grown R New l m → Grown R New (a :: l) (b :: m)
  | new {b : α} {l m : List α} : New b → Grown R New l m → Grown R New l (b :: m)

namespace Grown

theorem refl (same : ∀ a, R a a) (l : List α) : Grown R New l l := by
  induction l with
  | nil => exact .nil
  | cons a l ih => exact .kept (same a) ih

theorem append {l m l' m' : List α} (first : Grown R New l l') (second : Grown R New m m') :
    Grown R New (l ++ m) (l' ++ m') := by
  induction first with
  | nil => exact second
  | kept related _ ih => exact .kept related ih
  | new fresh _ ih => exact .new fresh ih

theorem laws : SequenceLaws R (Grown R New) where
  nil := .nil
  single related := .kept related .nil
  append := append

theorem flatten {ls ms : List (List α)} (h : List.Forall₂ (Grown R New) ls ms) :
    Grown R New ls.flatten ms.flatten := by
  induction h with
  | nil => exact .nil
  | cons first _ ih => exact first.append ih

theorem map {f : α → β} {R' : β → β → Prop} {New' : β → Prop} {l m : List α}
    (related : ∀ a b, R a b → R' (f a) (f b)) (fresh : ∀ b, New b → New' (f b))
    (h : Grown R New l m) : Grown R' New' (l.map f) (m.map f) := by
  induction h with
  | nil => exact .nil
  | kept r _ ih => exact .kept (related _ _ r) ih
  | new n _ ih => exact .new (fresh _ n) ih

end Grown

end Lists

/-! ## Fields and records -/

section Records

variable {α β : Type} (R : α → α → Prop) (New : α → Prop)

/-- A field grown from another: the same but for the nodes in it. -/
def Content.Grown : Content α → Content α → Prop
  | text v, text w => v = w
  | integer v, integer w => v = w
  | flag v, flag w => v = w
  | code v, code w => v = w
  | constant v, constant w => v = w
  | child v, child w => Option.Rel R v w
  | children v, children w => SqlTree.Grown R New v w
  | lists v, lists w => List.Forall₂ (SqlTree.Grown R New) v w
  | _, _ => False

/-- A record grown from another of its kind: each field grown from the one of that name. -/
structure Layer.Grown (l l' : Layer α) : Prop where
  kind : l.kind = l'.kind
  contents : List.Forall₂ (fun entry entry' => entry.1 = entry'.1 ∧ entry.2.Grown R New entry'.2)
    l.contents l'.contents

/-- A rule that sees grown sequences, related parts, and otherwise no less than before. -/
inductive Rule.Grown : Rule α → Rule α → Prop where
  | known {nullable nullable' : Bool} : (nullable = true → nullable' = true) →
      Grown (.known nullable) (.known nullable')
  | blank : Grown .blank .blank
  | join {type type' : JoinType} {left left' right right' : α} :
      (type.isOuter = true → type'.isOuter = true) → R left left' → R right right' →
      Grown (.join type left right) (.join type' left' right')
  | operands {args args' : List α} : SqlTree.Grown R New args args' →
      Grown (.operands args) (.operands args')
  | subLink {type : SubLinkType} {test test' : Option α} {select select' : α} :
      Option.Rel R test test' → R select select' →
      Grown (.subLink type test select) (.subLink type test' select')
  | query {targets targets' values values' sources sources' : List α} :
      SqlTree.Grown R New targets targets' → SqlTree.Grown R New values values' →
      SqlTree.Grown R New sources sources' →
      Grown (.query targets values sources) (.query targets' values' sources')
  | combination {op : SetOperation} {left left' right right' : Option α} :
      Option.Rel R left left' → Option.Rel R right right' →
      Grown (.combination op left right) (.combination op left' right')
  | collect {children children' : List α} : SqlTree.Grown R New children children' →
      Grown (.collect children) (.collect children')

variable {R New}

theorem Rule.Grown.map {f : α → β} {R' : β → β → Prop} {New' : β → Prop} {r r' : Rule α}
    (related : ∀ a b, R a b → R' (f a) (f b)) (fresh : ∀ b, New b → New' (f b))
    (h : r.Grown R New r') : (r.map f).Grown R' New' (r'.map f) := by
  cases h with
  | known more => exact .known more
  | blank => exact .blank
  | join outer left right => exact .join outer (related _ _ left) (related _ _ right)
  | operands args => exact .operands (args.map related fresh)
  | subLink test select => exact .subLink (optionRel_map related test) (related _ _ select)
  | query targets values sources =>
    exact .query (targets.map related fresh) (values.map related fresh) (sources.map related fresh)
  | combination left right =>
    exact .combination (optionRel_map related left) (optionRel_map related right)
  | collect children => exact .collect (children.map related fresh)

theorem Content.Grown.refl (same : ∀ a, R a a) (c : Content α) : c.Grown R New c := by
  cases c with
  | child value => exact optionRel_refl same value
  | children values => exact SqlTree.Grown.refl same values
  | lists values =>
    exact List.forall₂_same.mpr fun l _ => SqlTree.Grown.refl same l
  | text | integer | flag | code | constant => rfl

/-- A field that grows resembles itself but for new nodes. -/
theorem Content.Grown.resembles {c c' : Content α} (h : c.Grown R New c') :
    c.Resembles R (SqlTree.Grown R New) c' := by
  cases c <;> cases c' <;> first | exact False.elim h | skip
  case lists.lists => exact SqlTree.Grown.flatten h
  all_goals exact h

/-- A rule that is the same but for new nodes has grown. -/
theorem Rule.Resembles.grown {r r' : Rule α} (h : r.Resembles R (SqlTree.Grown R New) r') :
    r.Grown R New r' := by
  cases h with
  | known => exact .known id
  | blank => exact .blank
  | join left right => exact .join id left right
  | operands args => exact .operands args
  | subLink test select => exact .subLink test select
  | query targets values sources => exact .query targets values sources
  | combination left right => exact .combination left right
  | collect children => exact .collect children

/-- **The rule of a grown record is grown**, whatever the kind of the record. -/
theorem Layer.Grown.rule {l l' : Layer α} (h : l.Grown R New l') : l.rule.Grown R New l'.rule := by
  have agree : l.AgreeOn everyField (Content.Resembles R (SqlTree.Grown R New)) l' :=
    ⟨h.kind, h.contents.imp fun _ _ ⟨name, grown⟩ => ⟨name, fun _ => grown.resembles⟩⟩
  exact (agree.some.rule SqlTree.Grown.laws).grown

end Records

end SqlTree
