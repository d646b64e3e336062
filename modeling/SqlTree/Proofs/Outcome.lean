import Mathlib.Data.List.Forall2

/-!
# Outcomes

Steps that may fail, one after another and over a list. Two readings are kept apart: when a
sequence succeeds (`bind_eq_ok`, `mapM_eq_ok`), and which error it ends with (`errorOf?`). The
error of a list of steps is the error of the first one that fails.
-/

namespace SqlTree

variable {ε α β : Type}

/-- A list with one entry replaced is related to the list before, entry by entry. -/
theorem forall₂_replace {P : α → α → Prop} (same : ∀ a, P a a) {before after : List α} {a b : α}
    (h : P a b) : List.Forall₂ P (before ++ a :: after) (before ++ b :: after) :=
  List.rel_append (List.forall₂_same.mpr fun a _ => same a)
    (.cons h (List.forall₂_same.mpr fun a _ => same a))

/-! ## Success -/

@[simp] theorem ok_bind {a : α} {f : α → Except ε β} : (Except.ok a >>= f) = f a := rfl

@[simp] theorem map_ok {a : α} {f : α → β} : (f <$> Except.ok a : Except ε β) = .ok (f a) := rfl

/-- Two steps in a row succeed when the first one does and the second does after it. -/
theorem bind_eq_ok {x : Except ε α} {f : α → Except ε β} {b : β} :
    x >>= f = .ok b ↔ ∃ a, x = .ok a ∧ f a = .ok b := by
  cases x with
  | error e => simp [bind, Except.bind]
  | ok a => simp [bind, Except.bind]

/-- The image of an outcome is a value when the outcome is one. -/
theorem map_eq_ok {x : Except ε α} {f : α → β} {b : β} :
    f <$> x = .ok b ↔ ∃ a, x = .ok a ∧ f a = b := by
  cases x with
  | error e => simp [Functor.map, Except.map]
  | ok a => simp [Functor.map, Except.map]

/-- A list of steps succeeds with the results of its steps, in their order. -/
theorem mapM_eq_ok {f : α → Except ε β} {l : List α} {r : List β} :
    l.mapM f = .ok r ↔ List.Forall₂ (fun a b => f a = .ok b) l r := by
  induction l generalizing r with
  | nil => cases r <;> simp [pure, Except.pure]
  | cons a l ih =>
    rw [List.mapM_cons, bind_eq_ok]
    constructor
    · rintro ⟨b, first, rest⟩
      obtain ⟨bs, others, rfl⟩ := map_eq_ok.mp rest
      exact .cons first (ih.mp others)
    · rintro (_ | ⟨first, others⟩)
      exact ⟨_, first, map_eq_ok.mpr ⟨_, ih.mpr others, rfl⟩⟩

/-- What holds of every result of a step holds of all results of a list of steps. -/
theorem forall_of_mapM_eq_ok {f : α → Except ε β} {l : List α} {r : List β} {P : β → Prop}
    (h : l.mapM f = .ok r) (step : ∀ a ∈ l, ∀ b, f a = .ok b → P b) : ∀ b ∈ r, P b := by
  have related := mapM_eq_ok.mp h
  clear h
  induction related with
  | nil => simp
  | cons first _ ih =>
    rintro b hb
    rcases List.mem_cons.mp hb with rfl | hb
    · exact step _ List.mem_cons_self _ first
    · exact ih (fun a ha => step a (List.mem_cons_of_mem _ ha)) b hb

/-! ## Errors -/

/-- The first value is that of the first entry, or else of a later one. -/
theorem findSome?_cons_or {f : α → Option β} {a : α} {l : List α} :
    (a :: l).findSome? f = (f a).or (l.findSome? f) := by
  rw [List.findSome?_cons]
  cases f a <;> rfl

theorem findSome?_congr {f g : α → Option β} {l : List α} (h : ∀ a ∈ l, f a = g a) :
    l.findSome? f = l.findSome? g := by
  induction l with
  | nil => rfl
  | cons a l ih =>
    rw [List.findSome?_cons, List.findSome?_cons, h a List.mem_cons_self,
      ih fun b hb => h b (List.mem_cons_of_mem _ hb)]

/-- The first value in lists put together is the first of their first values. -/
theorem findSome?_flatMap {γ : Type} {f : β → Option γ} {g : α → List β} {l : List α} :
    (l.flatMap g).findSome? f = l.findSome? fun a => (g a).findSome? f := by
  induction l with
  | nil => rfl
  | cons a l ih =>
    rw [List.flatMap_cons, List.findSome?_append, ih, findSome?_cons_or]

/-- The error that an outcome is, if it is one. -/
def errorOf? : Except ε α → Option ε
  | .ok _ => none
  | .error e => some e

@[simp] theorem errorOf?_ok {a : α} : errorOf? (.ok a : Except ε α) = none := rfl

@[simp] theorem errorOf?_error {e : ε} : errorOf? (.error e : Except ε α) = some e := rfl

theorem errorOf?_eq_some {x : Except ε α} {e : ε} : errorOf? x = some e ↔ x = .error e := by
  cases x <;> simp

theorem errorOf?_eq_none {x : Except ε α} : errorOf? x = none ↔ ∃ a, x = .ok a := by
  cases x <;> simp

@[simp] theorem errorOf?_map {x : Except ε α} {f : α → β} : errorOf? (x.map f) = errorOf? x := by
  cases x <;> rfl

@[simp] theorem errorOf?_bind_pure {x : Except ε α} {f : α → β} :
    errorOf? (x >>= fun a => pure (f a)) = errorOf? x := by
  cases x <;> rfl

/-- A step whose error does not depend on the value before it fails second. -/
theorem errorOf?_bind {x : Except ε α} {f : α → Except ε β} {after : Option ε}
    (h : ∀ a, errorOf? (f a) = after) : errorOf? (x >>= f) = (errorOf? x).or after := by
  cases x with
  | error e => rfl
  | ok a => exact h a

/-- A list of steps fails with the error of the first step that fails. -/
theorem errorOf?_mapM {f : α → Except ε β} {l : List α} :
    errorOf? (l.mapM f) = l.findSome? fun a => errorOf? (f a) := by
  induction l with
  | nil => rfl
  | cons a l ih =>
    have rest : ∀ b, errorOf? (l.mapM f >>= fun bs => pure (b :: bs)) =
        l.findSome? fun a => errorOf? (f a) := by
      intro b
      rw [errorOf?_bind_pure, ih]
    rw [List.mapM_cons, errorOf?_bind rest, findSome?_cons_or]

/-- A list of steps fails with an error when the steps before some point succeed and the step there
fails with it. -/
theorem mapM_eq_error {f : α → Except ε β} {l : List α} {e : ε} :
    l.mapM f = .error e ↔ ∃ before a after, l = before ++ a :: after ∧
      (∀ c ∈ before, ∃ b, f c = .ok b) ∧ f a = .error e := by
  rw [← errorOf?_eq_some, errorOf?_mapM, List.findSome?_eq_some_iff]
  constructor
  · rintro ⟨before, a, after, rfl, failed, earlier⟩
    exact ⟨before, a, after, rfl, fun c mem => errorOf?_eq_none.mp (earlier c mem),
      errorOf?_eq_some.mp failed⟩
  · rintro ⟨before, a, after, rfl, earlier, failed⟩
    exact ⟨before, a, after, rfl, errorOf?_eq_some.mpr failed,
      fun c mem => errorOf?_eq_none.mpr (earlier c mem)⟩

end SqlTree
