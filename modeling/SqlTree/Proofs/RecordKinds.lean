import SqlTree.Proofs.RawChanges

/-!
# The kinds of records that are read

What is read from a record is of the kind that its tag names, whatever its fields hold
(`exists_raw_of_readRecord`). So it can be told from the raw value alone whether a field holds a
query or a plain value.
-/

namespace SqlTree

/-- The decoder of a kind makes records of that kind. -/
theorem Kind.decoder_kind (kind : Kind) :
    kind.decoder.Ensures Query.anything fun n => n.kind = kind := by
  cases kind <;> simp only [decoder, Decoder.ensures_map, Decoder.ensures_done]
  case string | integer | float | boolean =>
    simp [Decoder.stringValue, Decoder.integerValue, Decoder.floatValue, Decoder.booleanValue,
      Scalar.float?, Option.forall, Node.kind, Node.layer, Layer.kind, Scalar.kind]
  case aStar | null => rfl
  all_goals exact Decoder.ensures_of_forall fun _ => rfl

/-- A record under a tag is read as a record of the kind that the tag names. -/
theorem kind_of_readEntry {limit levels : Nat} {site : Site} {tag : String} {fields : Fields}
    {n : Node} (h : readEntry limit levels site (.object [(tag, .object fields)]) = .ok n) :
    tag = n.kind.tag := by
  cases levels with
  | zero => cases h
  | succ below =>
    rw [readEntry_tagged] at h
    split at h
    next => cases h
    next kind known =>
      have made := Decoder.post_of_run kind.decoder_kind (fun _ _ _ => trivial) h
      rw [made]
      exact Kind.ofTag?_eq_some_iff.mp known

/-- A record that is read as one of a kind is of that kind. -/
theorem kind_of_readEntry_raw {limit levels : Nat} {site : Site} {kind : Kind} {fields : Fields}
    {n : Node} (h : readEntry limit levels site (kind.raw fields) = .ok n) : n.kind = kind := by
  have known := Kind.ofTag?_tag n.kind
  rw [← kind_of_readEntry h, Kind.ofTag?_tag] at known
  exact (Option.some.inj known).symm

/-- **What is read from a record is of the kind that its tag names.** -/
theorem exists_raw_of_readRecord {limit levels : Nat} {site : Site} {raw : Json} {n : Node}
    (h : readRecord (readEntry limit levels) site raw = .ok n) :
    ∃ fields, raw = n.kind.raw fields := by
  have record : raw.IsRecord := by
    unfold readRecord at h
    split at h
    next fields =>
      rw [readEntry_eq] at h
      split at h
      case h_1 same => exact ⟨_, _, same⟩
      all_goals contradiction
    next => cases h
  obtain ⟨tag, fields, rfl⟩ := record
  obtain rfl := kind_of_readEntry h
  exact ⟨fields, rfl⟩

/-- A node of the kind of queries is a query. -/
theorem Node.kind_ne_of_select? {n : Node} (h : n.select? = none) : n.kind ≠ .selectStmt := by
  obtain ⟨l⟩ := n
  cases l
  case selectStmt => cases h
  case scalar value => cases value <;> nofun
  all_goals nofun

/-- A node of the kind of a plain value is a plain value. -/
theorem Node.kind_ne_of_scalar? {n : Node} (h : n.scalar? = none) (value : Scalar) :
    n.kind ≠ value.kind := by
  obtain ⟨l⟩ := n
  cases l
  case scalar => cases h
  all_goals cases value <;> nofun

end SqlTree
