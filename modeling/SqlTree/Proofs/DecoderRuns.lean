import SqlTree.Proofs.DoubleText
import SqlTree.Proofs.QueryShape
import SqlTree.Proofs.RecordContents
import SqlTree.Proofs.VocabularyCodes

/-!
# Records read back

When the fields of a raw record say what a record holds (`Layer.Told`), the decoder of its kind
reads that record and no other, provided that there are queries where they belong
(`Kind.decoder_run`). Nothing is said here about how a field is spelled, only about the answers that
the decoder gets; a decoder that asks for a field under another name, or for one that is not told,
does not pass.
-/

namespace SqlTree

/-! ## Fields that are told -/

section Told

variable (tag : String) (fields : Fields) (nested : Nested)

/-- The answer about a field is what the field holds. -/
def Content.Told (field : String) : Content Node → Prop
  | text value => Query.answer tag fields nested (.string field) = .ok value
  | integer value => Query.answer tag fields nested (.integer field) = .ok value
  | flag value => Query.answer tag fields nested (.flag field) = .ok value
  | code value => Query.answer tag fields nested (.spelling field) = .ok (.code value)
  | constant value =>
    Query.answer tag fields nested (.child field) =
      .ok (if value.isNull then none else some (.of (.scalar value)))
  | child value => Query.answer tag fields nested (.child field) = .ok value
  | children values => Query.answer tag fields nested (.children field) = .ok values
  | lists values => Query.answer tag fields nested (.sparseLists field) = .ok values

/-- The answers about the fields of a record are what the record holds. -/
def Layer.Told (l : Layer Node) : Prop :=
  ∀ entry ∈ l.contents, entry.2.Told tag fields nested entry.1

end Told

variable {α β : Type} {tag field : String} {fields : Fields} {nested : Nested}

/-- A field with a text in it is present. -/
theorem Query.present_of_string {text : String}
    (told : Query.answer tag fields nested (.string field) = .ok (some text)) :
    Query.answer tag fields nested (.present field) = .ok true := by
  simp only [Query.answer] at told ⊢
  split at told
  next => cases told
  next found =>
    rw [found]
    rfl
  next => cases told

/-- A field with a record in it is present, and one without is not. -/
theorem Query.present_of_child {value : Option Node}
    (told : Query.answer tag fields nested (.child field) = .ok value) :
    Query.answer tag fields nested (.present field) = .ok value.isSome := by
  simp only [Query.answer]
  obtain ⟨missing, rfl⟩ | ⟨raw, node, found, -, rfl⟩ := Query.answer_child_eq_ok.mp told
  · rw [missing]
    rfl
  · rw [found]
    rfl

/-! ## Runs of the ways to build a decoder -/

namespace Decoder

attribute [simp] run_ask

@[simp] theorem run_done {value : α} : (done value).run tag fields nested = .ok value := rfl

@[simp] theorem run_pure {value : α} :
    (pure value : Decoder α).run tag fields nested = .ok value := rfl

/-- Decoders in a row run in a row. -/
@[simp] theorem run_bind {d : Decoder α} {f : α → Decoder β} :
    (d >>= f).run tag fields nested =
      d.run tag fields nested >>= fun value => (f value).run tag fields nested := by
  change (d.bind f).run tag fields nested = _
  induction d with
  | done value => rfl
  | fail field expected => rfl
  | ask query next ih =>
    rw [Decoder.bind, run_ask, run_ask]
    cases query.answer tag fields nested with
    | error e => rfl
    | ok answer => exact ih answer

/-- A function of what a decoder reads is applied to the outcome of its run. -/
@[simp] theorem run_map {d : Decoder α} {f : α → β} :
    (f <$> d).run tag fields nested = f <$> d.run tag fields nested := by
  change (d >>= fun value => pure (f value)).run tag fields nested = _
  rw [run_bind]
  cases d.run tag fields nested <;> rfl

@[simp] theorem run_require_some {expected : Expectation} {value : α} :
    (require field expected (some value)).run tag fields nested = .ok value := rfl

/-- The value of an enumeration is resolved from the answer about its spelling. -/
@[simp] theorem run_enumeration {ε : Type} [Vocabulary ε] :
    (enumeration field : Decoder ε).run tag fields nested =
      Query.answer tag fields nested (.spelling field) >>= fun spelling =>
        (require field .enumCode (Vocabulary.resolve? (ε := ε) spelling)).run tag fields nested :=
  run_ask

/-- A field that has to hold a query holds it. -/
theorem run_selectChild {node : Node}
    (told : Query.answer tag fields nested (.child field) = .ok (some node))
    (select : node.IsSelect) : (selectChild field).run tag fields nested = .ok node := by
  obtain ⟨record, rfl⟩ := select
  simp [selectChild, requiredChild, told, Node.select?]

/-- A field that may hold a query holds it, or is empty. -/
theorem run_optionalSelectChild {value : Option Node}
    (told : Query.answer tag fields nested (.child field) = .ok value)
    (select : ∀ node ∈ value, node.IsSelect) :
    (optionalSelectChild field).run tag fields nested = .ok value := by
  have present := Query.present_of_child told
  cases value with
  | none => simp [optionalSelectChild, present]
  | some node =>
    have := run_selectChild told (select node rfl)
    simp [optionalSelectChild, present, this]

end Decoder

/-! ## Runs of the decoders -/

namespace Decoder

attribute [local simp] Layer.Told Layer.contents Content.Told requiredChild requiredString location

/-- A query is read back when its operands are queries and a set operation has both. -/
theorem selectStmt_run {r : SelectStmt Node} (told : (Layer.selectStmt r).Told tag fields nested)
    (shaped : (Layer.selectStmt r).QueryShaped) :
    selectStmt.run tag fields nested = .ok r := by
  obtain ⟨both, left, right⟩ := shaped
  simp at told
  obtain ⟨_, _, _, _, _, _, _, _, _, _, _, _, op, _, larg, rarg⟩ := told
  have operands : operands.run tag fields nested = .ok (r.op, r.larg, r.rarg) := by
    have noLeft : ¬ (r.op ≠ .none ∧ r.larg = none) := fun ⟨combines, missing⟩ => by
      simpa [missing] using (both combines).1
    have noRight : ¬ (r.op ≠ .none ∧ r.rarg = none) := fun ⟨combines, missing⟩ => by
      simpa [missing] using (both combines).2
    simp [Decoder.operands, op, run_optionalSelectChild larg left,
      run_optionalSelectChild rarg right, noLeft, noRight]
  simp [selectStmt, *]

/-- An INSERT is read back when its source, if any, is a query. -/
theorem insertStmt_run {r : InsertStmt Node} (told : (Layer.insertStmt r).Told tag fields nested)
    (shaped : (Layer.insertStmt r).QueryShaped) :
    insertStmt.run tag fields nested = .ok r := by
  simp at told
  simp [insertStmt, told, run_optionalSelectChild told.2.2.1 shaped]

/-- A sub-link is read back when its sub-select is a query. -/
theorem subLink_run {r : SubLink Node} (told : (Layer.subLink r).Told tag fields nested)
    (shaped : (Layer.subLink r).QueryShaped) : subLink.run tag fields nested = .ok r := by
  simp at told
  simp [subLink, told, run_selectChild told.2.2.2.2.1 shaped]

/-- A sub-select in FROM is read back when it is a query. -/
theorem rangeSubselect_run {r : RangeSubselect Node}
    (told : (Layer.rangeSubselect r).Told tag fields nested)
    (shaped : (Layer.rangeSubselect r).QueryShaped) :
    rangeSubselect.run tag fields nested = .ok r := by
  simp at told
  simp [rangeSubselect, told, run_selectChild told.2.1 shaped]

/-- The value of a constant is read back from the mark for null or from its record. -/
theorem aConst_run {r : AConst} (told : (Layer.aConst r).Told tag fields nested) :
    aConst.run tag fields nested = .ok r := by
  obtain ⟨val, location⟩ := r
  simp at told
  obtain ⟨null, value, location⟩ := told
  cases val with
  | null =>
    have marked : Scalar.null.isNull = true := rfl
    simp [aConst, constant, null, marked, location]
  | string | integer | float | boolean =>
    simp only [Scalar.isNull, Bool.false_eq_true, if_false] at null value
    simp [aConst, constant, null, value, Node.scalar?, location]

/-- A plain value is read back from its record; a float has its text. -/
theorem scalar_run {value : Scalar} (told : (Layer.scalar value).Told tag fields nested) :
    value.kind.decoder.run tag fields nested = .ok (.of (.scalar value)) := by
  simp [Layer.scalarContents] at told
  cases value with
  | string text =>
    simp at told
    simp [Scalar.kind, Kind.decoder, stringValue, told]
  | integer value =>
    simp at told
    simp [Scalar.kind, Kind.decoder, integerValue, told]
  | float value =>
    simp at told
    have present := Query.present_of_string told
    simp [Scalar.kind, Kind.decoder, floatValue, told, present, Scalar.float?,
      Double.parse?_toText]
  | boolean value =>
    simp at told
    simp [Scalar.kind, Kind.decoder, booleanValue, told]
  | null => rfl

end Decoder

/-- **The decoder of a kind reads a record back** from fields that say what the record holds, if
there are queries where they belong. -/
theorem Kind.decoder_run {l : Layer Node} (told : l.Told tag fields nested)
    (shaped : l.QueryShaped) : l.kind.decoder.run tag fields nested = .ok (.of l) := by
  cases l
  case selectStmt => simp [Layer.kind, Kind.decoder, Decoder.selectStmt_run told shaped]
  case insertStmt => simp [Layer.kind, Kind.decoder, Decoder.insertStmt_run told shaped]
  case subLink => simp [Layer.kind, Kind.decoder, Decoder.subLink_run told shaped]
  case rangeSubselect => simp [Layer.kind, Kind.decoder, Decoder.rangeSubselect_run told shaped]
  case aConst => simp [Layer.kind, Kind.decoder, Decoder.aConst_run told]
  case scalar => exact Decoder.scalar_run told
  case aStar => rfl
  -- The other decoders take each answer as it is.
  all_goals
    simp [Layer.Told, Layer.contents, Content.Told] at told
    simp [Layer.kind, Kind.decoder, Decoder.requiredChild, Decoder.requiredString,
      Decoder.location, Decoder.inheritance, Decoder.rawStmt, Decoder.updateStmt,
      Decoder.deleteStmt, Decoder.intoClause, Decoder.resTarget, Decoder.sortBy,
      Decoder.withClause, Decoder.commonTableExpr, Decoder.rangeVar, Decoder.rangeFunction,
      Decoder.joinExpr, Decoder.aliasClause, Decoder.boolExpr, Decoder.caseExpr, Decoder.caseWhen,
      Decoder.nullTest, Decoder.booleanTest, Decoder.rowExpr, Decoder.setToDefault, Decoder.aExpr,
      Decoder.funcCall, Decoder.typeCast, Decoder.typeName, Decoder.columnRef, Decoder.paramRef,
      Decoder.coalesceExpr, Decoder.minMaxExpr, Decoder.nullIfExpr, Decoder.aArrayExpr,
      Decoder.aIndirection, Decoder.aIndices, Decoder.collateClause, Decoder.sqlValueFunction,
      told]

end SqlTree
