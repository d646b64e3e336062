import SqlTree.Json.Basic

/-!
# Maps of fields

What an object holds under a key: after a field is set, after one value is replaced by another, and
read with `null` counting as absent.
-/

namespace SqlTree.Fields

theorem lookup_cons (key other : String) (value : Json) (rest : Fields) :
    List.lookup other ((key, value) :: rest) =
      if other = key then some value else rest.lookup other := by
  by_cases h : other = key
  · rw [if_pos h, h, List.lookup_cons_self]
  · rw [if_neg h, List.lookup_cons, beq_false_of_ne h]

/-- An inserted field is found, and the others as before. -/
theorem lookup_insert (key other : String) (value : Json) (fields : Fields) :
    (fields.insert key value).lookup other =
      if other = key then some value else fields.lookup other := by
  induction fields with
  | nil => exact lookup_cons key other value []
  | cons entry rest ih =>
    obtain ⟨k, v⟩ := entry
    unfold insert
    split
    next => exact lookup_cons key other value _
    next =>
      split
      next same =>
        subst same
        simp only [lookup_cons]
        split <;> rfl
      next different =>
        simp only [lookup_cons, ih]
        by_cases h : other = k
        · have : other ≠ key := fun e => different (e.symm.trans h)
          rw [if_pos h, if_neg this, if_pos h]
        · rw [if_neg h, if_neg h]

/-- Inserting a field adds no other. -/
theorem mem_insert {key : String} {value : Json} {fields : Fields} {entry : String × Json}
    (h : entry ∈ fields.insert key value) : entry = (key, value) ∨ entry ∈ fields := by
  induction fields with
  | nil => exact .inl (List.mem_singleton.mp h)
  | cons first rest ih =>
    unfold insert at h
    split at h
    · exact List.mem_cons.mp h
    · split at h
      · exact (List.mem_cons.mp h).imp_right (List.mem_cons_of_mem _)
      · rcases List.mem_cons.mp h with rfl | h
        · exact .inr List.mem_cons_self
        · exact (ih h).imp_right (List.mem_cons_of_mem _)

theorem mem_of_lookup {fields : Fields} {key : String} {value : Json}
    (found : fields.lookup key = some value) : (key, value) ∈ fields := by
  obtain ⟨before, after, rfl, -⟩ := List.lookup_eq_some_iff.mp found
  exact List.mem_append_right before List.mem_cons_self

/-- A field with a value is found with that value. -/
theorem lookup_of_value? {fields : Fields} {field : String} {raw : Json}
    (found : fields.value? field = some raw) : fields.lookup field = some raw := by
  unfold value? at found
  split at found
  · cases found
  · exact found

/-- A field of an object with one field changed is the same as before, or it is the one changed. -/
theorem lookup_change (before after : Fields) (name key : String) (raw raw' : Json) :
    (before ++ (name, raw) :: after).lookup key = (before ++ (name, raw') :: after).lookup key ∨
      key = name ∧ (before ++ (name, raw) :: after).lookup key = some raw ∧
        (before ++ (name, raw') :: after).lookup key = some raw' := by
  rw [List.lookup_append, List.lookup_append]
  cases before.lookup key with
  | some earlier => exact .inl rfl
  | none =>
    by_cases same : key = name
    · exact .inr ⟨same, by simp [same], by simp [same]⟩
    · have other : (key == name) = false := beq_false_of_ne same
      exact .inl (by simp [List.lookup_cons, other])

/-- The same, with fields that are `null` counting as absent. -/
theorem value?_change (before after : Fields) (name key : String) (raw raw' : Json)
    (filled : raw ≠ .null) (filled' : raw' ≠ .null) :
    Fields.value? (before ++ (name, raw) :: after) key =
        Fields.value? (before ++ (name, raw') :: after) key ∨
      key = name ∧ Fields.value? (before ++ (name, raw) :: after) key = some raw ∧
        Fields.value? (before ++ (name, raw') :: after) key = some raw' := by
  unfold value?
  obtain same | ⟨name, found, found'⟩ := lookup_change before after name key raw raw'
  · rw [same]
    exact .inl rfl
  · rw [found, found']
    refine .inr ⟨name, ?_, ?_⟩
    · cases raw <;> first | rfl | exact absurd rfl filled
    · cases raw' <;> first | rfl | exact absurd rfl filled'

end SqlTree.Fields
