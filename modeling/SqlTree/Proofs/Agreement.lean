import Mathlib.Order.Defs.Unbundled
import SqlTree.Proofs.Outcome

/-!
# Outcomes that agree

Two outcomes agree when they are the same value, or when both are errors and the errors are related
in a way that is left open (`Agree`). Two runs that take their steps in the same order agree as soon
as their steps do: what agrees step by step agrees as a whole, one step after another and over a
list. So it is never asked at which step a run fails.
-/

namespace SqlTree

variable {ε α β γ : Type} {E : ε → ε → Prop}

/-- The same value, or errors that are related. -/
inductive Agree (E : ε → ε → Prop) : Except ε α → Except ε α → Prop where
  | ok (a : α) : Agree E (.ok a) (.ok a)
  | error {e e' : ε} : E e e' → Agree E (.error e) (.error e')

/-- Any two errors are related. -/
def AnyError (_ _ : ε) : Prop := True

instance : Std.Refl (AnyError : ε → ε → Prop) := ⟨fun _ => trivial⟩

namespace Agree

variable {x y z : Except ε α}

theorem refl [Std.Refl E] (x : Except ε α) : Agree E x x := by
  cases x with
  | ok a => exact .ok a
  | error e => exact .error (Std.Refl.refl e)

theorem symm [Std.Symm E] (h : Agree E x y) : Agree E y x := by
  cases h with
  | ok a => exact .ok a
  | error related => exact .error (symm_of E related)

theorem trans [IsTrans ε E] (first : Agree E x y) (second : Agree E y z) : Agree E x z := by
  cases first with
  | ok a => exact second
  | error related =>
    cases second with
    | error related' => exact .error (trans_of E related related')

/-- One step after another agrees when each of them does. -/
theorem bind {f g : α → Except ε β} (h : Agree E x y) (next : ∀ a, Agree E (f a) (g a)) :
    Agree E (x >>= f) (y >>= g) := by
  cases h with
  | ok a => exact next a
  | error related => exact .error related

theorem map {f : α → β} (h : Agree E x y) : Agree E (f <$> x) (f <$> y) := by
  cases h with
  | ok a => exact .ok (f a)
  | error related => exact .error related

/-- Two lists of steps agree when their steps do, one by one. -/
theorem mapM {f g : γ → Except ε α} {l m : List γ}
    (steps : List.Forall₂ (fun a b => Agree E (f a) (g b)) l m) :
    Agree E (l.mapM f) (m.mapM g) := by
  induction steps with
  | nil => exact .ok []
  | cons first _ ih =>
    rw [List.mapM_cons, List.mapM_cons]
    exact first.bind fun b => ih.bind fun bs => .ok (b :: bs)

/-- Outcomes whose errors have to be the same are the same. -/
theorem eq (h : Agree Eq x y) : x = y := by
  cases h with
  | ok a => rfl
  | error same => rw [same]

/-- Outcomes that agree have the same value or both none. -/
theorem ok_iff (h : Agree E x y) (a : α) : x = .ok a ↔ y = .ok a := by
  cases h with
  | ok => exact Iff.rfl
  | error => exact ⟨nofun, nofun⟩

/-- An outcome that agrees with an error is an error that goes with it. -/
theorem exists_error (h : Agree E x y) {e : ε} (failed : x = .error e) :
    ∃ e', y = .error e' ∧ E e e' := by
  cases h with
  | ok => cases failed
  | error related =>
    cases failed
    exact ⟨_, rfl, related⟩

end Agree

end SqlTree
