import SqlTree.Proofs.Monotonicity
import SqlTree.Proofs.Resemblance

/-!
# One record of a tree rewritten

A tree is rewritten when one of its records, at whatever depth, is replaced by another one and
everything around it stays as it is (`Node.Rewritten`). Which record may take the place of which is
left open.

To compare what an analysis says before and after, two things are enough (`Node.Rewritten.related`):
a rewriting step at the root keeps the answers related, and so does a record whose nodes are
replaced by related ones. The induction on the depth of the step is made here, once.
-/

namespace SqlTree

section Fields

variable {α : Type} {R : α → α → Prop} {S : List α → List α → Prop} {a b : α}

/-- A field with one node replaced by a related one resembles the field before. -/
theorem Content.Replaced.resembles (laws : SequenceLaws R S) (same : ∀ a, R a a) (related : R a b)
    {c c' : Content α} (h : c.Replaced a b c') : c.Resembles R S c' := by
  have replaced (before after : List α) : S (before ++ a :: after) (before ++ b :: after) := by
    have tail : S (a :: after) (b :: after) :=
      laws.append (laws.single related) (laws.refl same after)
    exact laws.append (laws.refl same before) tail
  cases h with
  | child => exact .some related
  | children => exact replaced _ _
  | @lists before after ls ms =>
    have inner := laws.append (laws.refl same ls.flatten)
      (laws.append (replaced before after) (laws.refl same ms.flatten))
    simpa only [Resembles, List.flatten_append, List.flatten_cons] using inner

/-- A record with one field changed agrees with the record before, when the field does. -/
theorem Layer.Altered.agreeOn {change P : Content α → Content α → Prop} (same : ∀ c, P c c)
    (changed : ∀ c c', change c c' → P c c') {l l' : Layer α} (h : l.Altered change l') :
    l.AgreeOn everyField P l' := by
  obtain ⟨kind, before, after, name, c, c', contents, contents', differ⟩ := h
  refine ⟨kind, ?_⟩
  rw [contents, contents']
  exact forall₂_replace (fun entry => ⟨rfl, fun _ => same entry.2⟩)
    ⟨rfl, fun _ => changed c c' differ⟩

end Fields

namespace Node

/-- One record of a tree is rewritten, at whatever depth. -/
inductive Rewritten (step : Layer Node → Layer Node → Prop) : Node → Node → Prop where
  | here {l l' : Layer Node} : step l l' → Rewritten step (.of l) (.of l')
  | inside {n n' m m' : Node} : Rewritten step m m' →
      n.layer.Altered (Content.Replaced m m') n'.layer → Rewritten step n n'

/-- A relation between trees that each step keeps, and that goes from the nodes of a record to the
record, relates a tree to the tree with one record rewritten. -/
theorem Rewritten.related {step : Layer Node → Layer Node → Prop} {R : Node → Node → Prop}
    {S : List Node → List Node → Prop} (laws : SequenceLaws R S) (same : ∀ n, R n n)
    (root : ∀ l l', step l l' → R (.of l) (.of l'))
    (record : ∀ n n' : Node, n.layer.AgreeOn Layer.everyField (Content.Resembles R S) n'.layer →
      R n n')
    {n n' : Node} (h : Rewritten step n n') : R n n' := by
  induction h with
  | here step => exact root _ _ step
  | inside _ altered ih =>
    exact record _ _ (altered.agreeOn (Content.Resembles.refl laws same) fun c c' replaced =>
      replaced.resembles laws same ih)

end Node

end SqlTree
