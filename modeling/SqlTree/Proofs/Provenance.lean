import SqlTree.Analysis.Inference
import SqlTree.Proofs.Outcome

/-!
# Where a null comes from

An answer of the nullability analysis is left unreduced where a node has no rule of its own, so that
one can see in it where a null comes from. A path of indices leads down through the entries of an
answer (`Nullability.get?`), and a path of the same indices leads down through the children of a
node (`Node.subtree?`). The two go together: an entry of the answer for a node is the answer for the
node at the same path. So an answer that holds has a path to a node with a rule of its own, and it
is there that the yes was given (`Node.entries_of_nullability`).

What carries the induction on the path is what one answer may look like
(`Node.nullability_eq_ok`). An answer has no entries for what lies below an alias or below a node
with a rule; nothing is said about paths that lead there.
-/

namespace SqlTree

/-! ## Paths -/

namespace Nullability

/-- The entry of an answer that a path of indices leads to, through nested answers only. -/
def get? : Nullability → List Nat → Option Nullability
  | answer, [] => some answer
  | known _, _ :: _ => none
  | nested entries, i :: path => entries[i]?.bind fun entry => entry.get? path

/-- One path after another. -/
theorem get?_append (answer : Nullability) (first second : List Nat) :
    answer.get? (first ++ second) =
      (answer.get? first).bind fun entry => entry.get? second := by
  induction first generalizing answer with
  | nil =>
    rw [List.nil_append, get?]
    rfl
  | cons i path ih =>
    cases answer with
    | known nullable => rfl
    | nested entries =>
      simp only [List.cons_append, get?]
      cases entries[i]? with
      | none => rfl
      | some entry => exact ih entry

/-- Several answers hold when one of them does. -/
theorem anyHolds_iff {entries : List Nullability} :
    anyHolds entries = true ↔ ∃ entry ∈ entries, entry.holds = true := by
  induction entries with
  | nil => simp [anyHolds]
  | cons entry rest ih => simp [anyHolds, ih]

/-- An answer holds when a path leads to a yes in it. -/
theorem holds_iff_exists_entry {answer : Nullability} :
    answer.holds = true ↔ ∃ path, answer.get? path = some (known true) := by
  match answer with
  | known nullable =>
    constructor
    · intro yes
      exact ⟨[], by simpa [get?, holds] using yes⟩
    · rintro ⟨_ | ⟨i, path⟩, found⟩
      · simpa [get?, holds] using found
      · cases found
  | nested entries =>
    rw [holds, anyHolds_iff]
    constructor
    · rintro ⟨entry, mem, yes⟩
      obtain ⟨i, at_i⟩ := List.getElem?_of_mem mem
      obtain ⟨path, found⟩ := holds_iff_exists_entry.mp yes
      exact ⟨i :: path, by rw [get?, at_i]; exact found⟩
    · rintro ⟨_ | ⟨i, path⟩, found⟩
      · cases found
      · rw [get?, Option.bind_eq_some_iff] at found
        obtain ⟨entry, at_i, found⟩ := found
        have mem := List.mem_of_getElem? at_i
        exact ⟨entry, mem, holds_iff_exists_entry.mpr ⟨path, found⟩⟩
termination_by sizeOf answer
decreasing_by
  all_goals
    have := List.sizeOf_lt_of_mem mem
    simp only [nested.sizeOf_spec]
    omega

end Nullability

/-- The node that a path of child indices leads to. -/
def Node.subtree? : Node → List Nat → Option Node
  | n, [] => some n
  | n, i :: path => n.children[i]?.bind fun c => c.subtree? path

/-! ## What an answer looks like -/

/-- The kinds with a rule of their own that answers yes or no. -/
def Kind.ruled : List Kind :=
  [.rangeVar, .columnRef, .paramRef, .aConst, .joinExpr, .boolExpr, .subLink, .selectStmt]

/-- Whether a rule answers yes or no; the others have entries for children, if any. -/
def Rule.decides {α : Type} : Rule α → Bool
  | blank | collect _ => false
  | _ => true

/-- Whether a rule decides does not depend on what stands in its parts. -/
theorem Rule.decides_map {α β : Type} (f : α → β) (r : Rule α) :
    (r.map f).decides = r.decides := by
  cases r <;> rfl

/-- The rules that answer yes or no are those of the kinds with a rule of their own. -/
theorem Layer.decides_rule_iff {α : Type} {l : Layer α} :
    l.rule.decides = true ↔ l.kind ∈ Kind.ruled := by
  cases l
  case scalar value =>
    cases value <;> simp [Layer.rule, Rule.decides, Layer.kind, Scalar.kind, Kind.ruled]
  case selectStmt record =>
    simp only [Layer.rule]
    split <;> simp [Rule.decides, Layer.kind, Kind.ruled]
  all_goals simp [Layer.rule, Rule.decides, Layer.kind, Kind.ruled]

/-- A record without such a rule is an alias, which has nothing to answer for, or one whose children
are collected. -/
theorem Layer.rule_of_not_decides {α : Type} {l : Layer α} (h : l.rule.decides = false) :
    l.kind = .aliasClause ∧ l.rule = .blank ∨ l.rule = .collect l.children := by
  cases l
  case selectStmt record =>
    simp only [Layer.rule] at h
    split at h <;> cases h
  case aliasClause => exact .inl ⟨rfl, rfl⟩
  case rangeVar | columnRef | paramRef | aConst | joinExpr | boolExpr | subLink => cases h
  all_goals exact .inr rfl

/-- A rule that answers yes or no has no other answers. -/
theorem Rule.exists_known_of_decides {kind : Kind} {r : Rule Findings} {answer : Nullability}
    (decides : r.decides = true) (h : (r.findings kind).nullability = .ok answer) :
    ∃ nullable, answer = .known nullable := by
  cases r with
  | blank | collect => cases decides
  | known nullable =>
    cases h
    exact ⟨_, rfl⟩
  | operands | subLink | query | combination =>
    obtain ⟨_, _, rfl⟩ := map_eq_ok.mp h
    exact ⟨_, rfl⟩
  | join type left right =>
    obtain ⟨_, _, h⟩ := bind_eq_ok.mp h
    obtain ⟨_, _, h⟩ := bind_eq_ok.mp h
    cases h
    exact ⟨_, rfl⟩

namespace Node

/-- **The answer for a node** is a yes or a no for a kind with a rule of its own. For an alias it
has no entries, and for any other node it has the answers for the children, one for each. -/
theorem nullability_eq_ok {n : Node} {answer : Nullability} (h : n.nullability = .ok answer) :
    (n.kind ∈ Kind.ruled ∧ ∃ nullable, answer = .known nullable) ∨
      (n.kind = .aliasClause ∧ answer = .nested []) ∨
      ∃ entries, answer = .nested entries ∧
        List.Forall₂ (fun c entry => c.nullability = .ok entry) n.children entries := by
  rw [nullability, findings_eq] at h
  cases decides : n.layer.rule.decides with
  | true =>
    refine .inl ⟨Layer.decides_rule_iff.mp decides, ?_⟩
    exact Rule.exists_known_of_decides ((Rule.decides_map _ _).trans decides) h
  | false =>
    obtain ⟨kind, rule⟩ | rule := Layer.rule_of_not_decides decides
    · rw [rule] at h
      cases h
      exact .inr (.inl ⟨kind, rfl⟩)
    · rw [rule] at h
      obtain ⟨entries, answered, rfl⟩ := map_eq_ok.mp h
      exact .inr (.inr ⟨entries, rfl, List.forall₂_map_left_iff.mp (mapM_eq_ok.mp answered)⟩)

/-- An entry of the answer for a node is the answer for the node at the same path. -/
theorem nullability_of_entry {n : Node} {answer entry : Nullability} {path : List Nat}
    (h : n.nullability = .ok answer) (found : answer.get? path = some entry) :
    ∃ m, n.subtree? path = some m ∧ m.nullability = .ok entry := by
  induction path generalizing n answer with
  | nil =>
    rw [Nullability.get?] at found
    cases found
    exact ⟨n, rfl, h⟩
  | cons i path ih =>
    obtain ⟨-, nullable, rfl⟩ | ⟨-, rfl⟩ | ⟨entries, rfl, answered⟩ := nullability_eq_ok h
    · cases found
    · cases found
    · rw [Nullability.get?, Option.bind_eq_some_iff] at found
      obtain ⟨inner, at_i, found⟩ := found
      obtain ⟨lt, rfl⟩ := List.getElem?_eq_some_iff.mp at_i
      have child := answered.get (answered.length_eq ▸ lt) lt
      obtain ⟨m, led, answer⟩ := ih child found
      refine ⟨m, ?_, answer⟩
      rw [subtree?, List.getElem?_eq_getElem (answered.length_eq ▸ lt)]
      exact led

/-- A node that is answered by yes or no is of a kind with a rule of its own. -/
theorem ruled_of_known {n : Node} {nullable : Bool} (h : n.nullability = .ok (.known nullable)) :
    n.kind ∈ Kind.ruled := by
  obtain ⟨ruled, -⟩ | ⟨-, nested⟩ | ⟨_, nested, -⟩ := nullability_eq_ok h
  · exact ruled
  · cases nested
  · cases nested

/-- A node with an answer holds as the answer does. -/
theorem holds_of_nullability {n : Node} {answer : Nullability} (h : n.nullability = .ok answer) :
    n.holds = .ok answer.holds := by
  rw [nullability] at h
  rw [holds, Findings.holds, h]
  rfl

/-- **The answer for a node shows where a null comes from.** A path that leads to an entry of it
leads to the node that the entry is the answer for. If the answer holds, then a path leads to a yes
in it, and the node there has a rule of its own and holds; and it holds if any of its entries
does. -/
theorem entries_of_nullability {n : Node} {answer : Nullability} (h : n.nullability = .ok answer) :
    (∀ path entry, answer.get? path = some entry →
        ∃ m, n.subtree? path = some m ∧ m.nullability = .ok entry) ∧
      (answer.holds = true → ∃ path m, answer.get? path = some (.known true) ∧
        n.subtree? path = some m ∧ m.kind ∈ Kind.ruled ∧ m.holds = .ok true) ∧
      ∀ path entry, answer.get? path = some entry → entry.holds = true →
        answer.holds = true := by
  refine ⟨fun path entry found => nullability_of_entry h found, ?_, ?_⟩
  · intro yes
    obtain ⟨path, found⟩ := Nullability.holds_iff_exists_entry.mp yes
    obtain ⟨m, led, answered⟩ := nullability_of_entry h found
    exact ⟨path, m, found, led, ruled_of_known answered, holds_of_nullability answered⟩
  · intro path entry found yes
    obtain ⟨rest, inner⟩ := Nullability.holds_iff_exists_entry.mp yes
    refine Nullability.holds_iff_exists_entry.mpr ⟨path ++ rest, ?_⟩
    rw [Nullability.get?_append, found]
    exact inner

/-- An alias and a row of a one and a null. -/
def aliasedRow : Node :=
  of (.list [of (.aliasClause ⟨"a", [of .aStar]⟩),
    of (.list [of (.aConst ⟨.integer 1, -1⟩), of (.aConst ⟨.null, -1⟩)])])

/-- The null is found at the path to it, past the alias, which has a child but no entry. -/
theorem entries_of_aliasedRow :
    aliasedRow.nullability = .ok (.nested [.nested [], .nested [.known false, .known true]]) ∧
      (∃ path m, aliasedRow.subtree? path = some m ∧ m.kind ∈ Kind.ruled ∧ m.holds = .ok true) ∧
      ∃ m, aliasedRow.subtree? [1, 1] = some m ∧ m.nullability = .ok (.known true) := by
  have answered : aliasedRow.nullability =
      .ok (.nested [.nested [], .nested [.known false, .known true]]) := by cbv
  obtain ⟨entries, origin, -⟩ := entries_of_nullability answered
  obtain ⟨path, m, -, led, ruled, yes⟩ := origin rfl
  exact ⟨answered, ⟨path, m, led, ruled, yes⟩, entries [1, 1] _ rfl⟩

end Node

end SqlTree
