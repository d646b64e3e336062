import SqlTree.Proofs.ErrorOrigins
import SqlTree.Proofs.RecordKinds

/-!
# Fields at fault

What can be wrong with a field of a raw record, told from the record alone (`Kind.Fault`). The value
of the field is not of the shape that the decoder of the kind asks for, be it the value itself or
one in its arrays and sub-lists (`Place.Misfit`). Or the field is missing and has to be there, which
goes by three tables: the fields that each kind requires (`Kind.Requires`), the fields that stand
for queries (`Kind.HoldsQuery`), and the enumerated fields with their vocabularies. What remains are
the operands of a set operation, the value of a constant and the text of a float.

The decoders complain of nothing else (`Decoder.complains_decoder`): whatever the answers are that a
decoder gets about the fields of a record, each complaint that it may make is a fault of the record.
-/

namespace SqlTree

/-- A value is not of the shape that is read at a place, or a value in its arrays is not. Records
inside it are not looked into. -/
inductive Place.Misfit : Place → Json → Expectation → Prop where
  | record {raw : Json} : (∀ fields, raw ≠ .object fields) → Misfit .record raw .record
  | recordTag {fields : Fields} : fields.length ≠ 1 → Misfit .record (.object fields) .singleTag
  | body {kind : Kind} {raw : Json} : (∀ fields, raw ≠ .object fields) →
      Misfit (.body kind) raw .record
  | entryTag {fields : Fields} : fields.length ≠ 1 → Misfit .entry (.object fields) .singleTag
  | null : Misfit .entry .null .noNulls
  | subList {site : Site} {raw : Json} : (∀ slots, subListSlots site raw ≠ .ok slots) →
      Misfit .subList raw .listOfRecords
  | array {place : Place} {raw : Json} : (∀ items, raw ≠ .array items) →
      Misfit (.all place) raw .array
  | inEntry {items : List Json} {item : Json} {expected : Expectation} : item ∈ items →
      Misfit .entry item expected → Misfit .entry (.array items) expected
  | inSubList {site : Site} {raw slot : Json} {slots : List Json} {expected : Expectation} :
      subListSlots site raw = .ok slots → slot ∈ slots → isEmptySlot slot = false →
      Misfit .record slot expected → Misfit .subList raw expected
  | inAll {place : Place} {items : List Json} {item : Json} {expected : Expectation} :
      item ∈ items → Misfit place item expected → Misfit (.all place) (.array items) expected

/-- A value is not what a question asks for. -/
inductive Query.Misfit : Query → Json → Expectation → Prop where
  | string {field : String} {raw : Json} : (∀ text, raw ≠ .string text) →
      Misfit (.string field) raw .string
  | integer {field : String} {raw : Json} : (∀ value, raw ≠ .number (.integer value)) →
      Misfit (.integer field) raw .integer
  | flag {field : String} {raw : Json} : (∀ value, raw ≠ .bool value) →
      Misfit (.flag field) raw .boolean
  | spelling {field : String} {raw : Json} : raw.spelling? = none →
      Misfit (.spelling field) raw .enumCode
  | nested {query : Query} {place : Place} {raw : Json} {expected : Expectation} :
      query.place? = some place → place.Misfit raw expected → Misfit query raw expected

namespace Kind

/-- The fields that a record of a kind has to have, with what is expected in them. -/
inductive Requires : Kind → String → Expectation → Prop where
  | statement : Requires rawStmt "stmt" .record
  | insertTarget : Requires insertStmt "relation" .record
  | updateTarget : Requires updateStmt "relation" .record
  | deleteTarget : Requires deleteStmt "relation" .record
  | cteName : Requires commonTableExpr "ctename" .string
  | cteQuery : Requires commonTableExpr "ctequery" .record
  | relationName : Requires rangeVar "relname" .string
  | subquery : Requires rangeSubselect "subquery" .record
  | leftSide : Requires joinExpr "larg" .record
  | rightSide : Requires joinExpr "rarg" .record
  | subselect : Requires subLink "subselect" .record
  | base : Requires aIndirection "arg" .record

/-- The fields of a record of a kind that stand for queries. -/
inductive HoldsQuery : Kind → String → Prop where
  | leftOperand : HoldsQuery selectStmt "larg"
  | rightOperand : HoldsQuery selectStmt "rarg"
  | source : HoldsQuery insertStmt "selectStmt"
  | subquery : HoldsQuery rangeSubselect "subquery"
  | subselect : HoldsQuery subLink "subselect"

/-- A field of a record of a kind is at fault: it is missing, or what it holds is not as
expected. -/
inductive Fault : Kind → Fields → String → Expectation → Prop where
  | misfit {kind : Kind} {fields : Fields} {query : Query} {raw : Json} {expected : Expectation} :
      kind.decoder.Asks query → fields.value? query.field = some raw →
      query.Misfit raw expected → Fault kind fields query.field expected
  | missing {kind : Kind} {fields : Fields} {field : String} {expected : Expectation} :
      kind.Requires field expected → fields.value? field = none →
      Fault kind fields field expected
  /-- A set operation lacks an operand. -/
  | operand {fields : Fields} {field : String} {spelling : Spelling} {op : SetOperation} :
      fields.spelling? "op" = some spelling → Vocabulary.resolve? spelling = some op →
      op ≠ .none → field ∈ ["larg", "rarg"] → fields.value? field = none →
      Fault selectStmt fields field .record
  /-- A code or a symbol stands for no value of its enumeration. -/
  | unknown {kind : Kind} {fields : Fields} {field : String} {ε : Type} [Vocabulary ε]
      {spelling : Spelling} : kind.Enumerates field ε → fields.spelling? field = some spelling →
      Vocabulary.resolve? (ε := ε) spelling = none → Fault kind fields field .enumCode
  | notQuery {kind other : Kind} {fields body : Fields} {field : String} :
      kind.HoldsQuery field → fields.value? field = some (other.raw body) →
      other ≠ selectStmt → Fault kind fields field .selectRecord
  | notValue {other : Kind} {fields body : Fields} : fields.value? "val" = some (other.raw body) →
      (∀ value : Scalar, other ≠ value.kind) → Fault aConst fields "val" .valueRecord
  /-- The text of a float does not read as a number. -/
  | notNumeric {fields : Fields} {field text : String} :
      field = "fval" ∨ field = "str" ∧ fields.value? "fval" = none →
      fields.value? field = some (.string text) → Scalar.float? text = none →
      Fault float fields field .numericText
  | noNumeral {fields : Fields} : fields.value? "fval" = none → fields.value? "str" = none →
      Fault float fields "str" .numericText

end Kind

namespace Query

/-- What the fields of a record tell about the answers to questions about them. -/
def told (fields : Fields) : Knowledge
  | present field, answer => answer = (fields.value? field).isSome
  | string field, answer => answer.map Json.string = fields.value? field
  | spelling field, answer => fields.spelling? field = some answer
  | child field, none => fields.value? field = none
  | child field, some node => ∃ body, fields.value? field = some (node.kind.raw body)
  | untagged _ kind, node => node.kind = kind
  | integer _, _ | flag _, _ | children _, _ | sparseLists _, _ => True

/-- A record without its tag is asked for only when its field is there. -/
def Answerable (fields : Fields) : Query → Prop
  | untagged field _ => (fields.value? field).isSome
  | _ => True

/-- An answer tells what it is told of the field: a text is the text in the field, a record is of
the kind that its tag names, and an absent field is what was assumed for it. -/
theorem told_of_answer {tag : String} {fields : Fields} {limit below : Nat} (query : Query)
    (answer : query.Answer)
    (answered : query.answer tag fields (nestedReaders limit below) = .ok answer) :
    told fields query answer := by
  cases query with
  | integer | flag | children | sparseLists => trivial
  | present field =>
    cases answered
    rfl
  | string field =>
    simp only [Query.answer] at answered
    split at answered
    next missing =>
      cases answered
      exact missing.symm
    next text found =>
      cases answered
      exact found.symm
    next => cases answered
  | spelling field =>
    rw [answer_spelling] at answered
    split at answered
    next found =>
      cases answered
      exact found
    next => cases answered
  | child field =>
    obtain ⟨missing, rfl⟩ | ⟨raw, n, found, read, rfl⟩ := answer_child_eq_ok.mp answered
    · exact missing
    · obtain ⟨body, rfl⟩ := exists_raw_of_readRecord read
      exact ⟨body, found⟩
  | untagged field kind =>
    obtain ⟨body, -, read⟩ := answer_untagged_eq_ok.mp answered
    exact kind_of_readEntry_raw ((readEntry_record ⟨tag, field⟩).trans read)

end Query

/-! ## What decoders complain of -/

namespace Decoder

variable {kind : Kind} {fields : Fields} {field : String}

/-- A decoder complains of nothing but faults of a record of a kind. -/
abbrev Complains {α : Type} (kind : Kind) (fields : Fields) (d : Decoder α) : Prop :=
  d.FailsBy (Query.told fields) (Query.Answerable fields) (kind.Fault fields)

/-- The decoder of an enumeration complains of a spelling that names no value. -/
theorem complains_enumeration {ε : Type} [Vocabulary ε] (enumerates : kind.Enumerates field ε) :
    (enumeration field : Decoder ε).Complains kind fields :=
  failsBy_enumeration.mpr ⟨trivial, fun _ written unknown => .unknown enumerates written unknown⟩

/-- A decoder of a text that has to be there complains of its absence. -/
theorem complains_requiredString (required : kind.Requires field .string) :
    (requiredString field).Complains kind fields :=
  failsBy_requiredString.mpr ⟨trivial, fun missing => .missing required missing.symm⟩

/-- A decoder of a record that has to be there complains of its absence. -/
theorem complains_requiredChild (required : kind.Requires field .record) :
    (requiredChild field).Complains kind fields :=
  failsBy_requiredChild.mpr ⟨trivial, fun missing => .missing required missing⟩

/-- A record that is not a query where one has to be. -/
theorem notQuery_of_told (query : kind.HoldsQuery field) (node : Node)
    (told : Query.told fields (.child field) (some node)) (other : node.select? = none) :
    kind.Fault fields field .selectRecord := by
  obtain ⟨body, found⟩ := told
  exact .notQuery query found (Node.kind_ne_of_select? other)

/-- A decoder of a query that has to be there complains of its absence and of other records. -/
theorem complains_selectChild (required : kind.Requires field .record)
    (query : kind.HoldsQuery field) : (selectChild field).Complains kind fields :=
  failsBy_selectChild.mpr
    ⟨⟨trivial, fun missing => .missing required missing⟩, notQuery_of_told query⟩

/-- A decoder of a query that may be missing complains of other records only. -/
theorem complains_optionalSelectChild (query : kind.HoldsQuery field) :
    (optionalSelectChild field).Complains kind fields := by
  refine failsBy_optionalSelectChild.mpr ⟨trivial, fun present => ?_⟩
  refine failsBy_selectChild.mpr ⟨⟨trivial, fun missing => ?_⟩, notQuery_of_told query⟩
  -- The field is there, so its record cannot be missing.
  change true = _ at present
  change _ = none at missing
  rw [missing] at present
  cases present

/-- A query that is not there is not there in the fields. -/
theorem absent_of_optionalSelectChild :
    (optionalSelectChild field).Ensures (Query.told fields) fun found =>
      found = none → fields.value? field = none := by
  refine ensures_optionalSelectChild.mpr ⟨fun absent _ => ?_, fun _ _ _ _ => nofun⟩
  simpa using (absent : false = (fields.value? field).isSome).symm

/-- The decoder of the operands of a set operation complains of the operation, of other records than
queries, and of a missing operand. -/
theorem complains_operands : operands.Complains .selectStmt fields := by
  refine failsBy_bind.mpr ⟨complains_enumeration .setOperation, ?_⟩
  refine ensures_enumeration.mpr fun written told op resolved => ?_
  refine failsBy_bind.mpr ⟨complains_optionalSelectChild .leftOperand, ?_⟩
  refine absent_of_optionalSelectChild.imp fun larg left => ?_
  refine failsBy_bind.mpr ⟨complains_optionalSelectChild .rightOperand, ?_⟩
  refine absent_of_optionalSelectChild.imp fun rarg right => ?_
  have lacks {field : String} (operand : field ∈ ["larg", "rarg"]) (combines : op ≠ .none)
      (absent : fields.value? field = none) : Kind.selectStmt.Fault fields field .record :=
    .operand told resolved combines operand absent
  split
  next noLeft =>
    simp at noLeft
    exact lacks (by simp) noLeft.1 (left noLeft.2)
  next =>
    split
    next noRight =>
      simp at noRight
      exact lacks (by simp) noRight.1 (right noRight.2)
    next => trivial

/-- The decoder of a float complains of a text that is no numeral, in the field that it took it
from. -/
theorem complains_floatValue : floatValue.Complains .float fields := by
  refine failsBy_bind.mpr ⟨failsBy_ask_done trivial, fun found present => ?_⟩
  refine failsBy_bind.mpr ⟨failsBy_ask_done trivial, fun text told => ?_⟩
  refine failsBy_require.mpr fun unread => ?_
  change found = (fields.value? "fval").isSome at present
  cases found with
  | true =>
    cases text with
    | none =>
      have absent : none = fields.value? "fval" := told
      rw [← absent] at present
      cases present
    | some text => exact .notNumeric (.inl rfl) told.symm unread
  | false =>
    have absent : fields.value? "fval" = none := by simpa using present.symm
    cases text with
    | none => exact .noNumeral absent told.symm
    | some text => exact .notNumeric (.inr ⟨rfl, absent⟩) told.symm unread

/-- The untagged fields of a plain value are read as a plain value. -/
theorem complains_payload {entries : List (String × Kind)}
    (plain : ∀ entry ∈ entries, ∃ value : Scalar, entry.2 = value.kind) :
    (payload entries).Complains .aConst fields := by
  induction entries with
  | nil => trivial
  | cons entry rest ih =>
    obtain ⟨value, kind⟩ := plain entry List.mem_cons_self
    refine failsBy_bind.mpr ⟨failsBy_ask_done trivial, fun found present => ?_⟩
    refine failsBy_ite.mpr ⟨fun here => ?_, fun _ => ?_⟩
    · have there : (fields.value? entry.1).isSome = true := present.symm.trans here
      refine failsBy_bind.mpr ⟨failsBy_ask_done there, fun node told => ?_⟩
      refine failsBy_require.mpr fun other => ?_
      exact absurd (Eq.trans told kind) (Node.kind_ne_of_scalar? other value)
    · exact ih fun other mem => plain other (List.mem_cons_of_mem _ mem)

/-- The decoder of a constant complains of records that are no plain values. -/
theorem complains_constant : constant.Complains .aConst fields := by
  refine failsBy_bind.mpr ⟨failsBy_ask_done trivial, fun isnull _ => ?_⟩
  refine failsBy_ite.mpr ⟨fun _ => trivial, fun _ => ?_⟩
  refine failsBy_bind.mpr ⟨failsBy_ask_done trivial, fun val told => ?_⟩
  cases val with
  | some node =>
    obtain ⟨body, found⟩ := told
    exact failsBy_require.mpr fun other => .notValue found (Node.kind_ne_of_scalar? other)
  | none =>
    refine complains_payload ?_
    simp only [payloads, List.forall_mem_cons]
    exact ⟨⟨.integer 0, rfl⟩, ⟨.float (.ofNat 0), rfl⟩, ⟨.string "", rfl⟩, ⟨.boolean false, rfl⟩,
      List.forall_mem_nil _⟩

section Table

attribute [local simp] complains_enumeration complains_requiredString complains_requiredChild
  complains_selectChild complains_optionalSelectChild Query.Answerable

attribute [-simp] failsBy_enumeration failsBy_requiredString failsBy_requiredChild
  failsBy_selectChild failsBy_optionalSelectChild

open Kind.Requires Kind.HoldsQuery Kind.Enumerates in
/-- **A decoder complains of nothing but faults of its record.** -/
theorem complains_decoder (kind : Kind) : kind.decoder.Complains kind fields := by
  cases kind
  case aStar | null => trivial
  case selectStmt => simp [Kind.decoder, selectStmt, complains_operands]
  case float => simp [Kind.decoder, complains_floatValue]
  case aConst => simp [Kind.decoder, aConst, complains_constant]
  case string => simp [Kind.decoder, stringValue, Option.forall]
  case rangeVar => simp [Kind.decoder, rangeVar, inheritance, relationName, Option.forall]
  -- The fields that have to be there, and the queries.
  case rawStmt => simp [Kind.decoder, rawStmt, statement]
  case insertStmt => simp [Kind.decoder, insertStmt, insertTarget, source]
  case updateStmt => simp [Kind.decoder, updateStmt, updateTarget]
  case deleteStmt => simp [Kind.decoder, deleteStmt, deleteTarget]
  case commonTableExpr => simp [Kind.decoder, commonTableExpr, cteName, cteQuery]
  case rangeSubselect =>
    simp [Kind.decoder, rangeSubselect, Kind.Requires.subquery, Kind.HoldsQuery.subquery]
  case joinExpr => simp [Kind.decoder, joinExpr, joinType, leftSide, rightSide]
  case subLink =>
    simp [Kind.decoder, subLink, sublinkUse, Kind.Requires.subselect, Kind.HoldsQuery.subselect]
  case aIndirection => simp [Kind.decoder, aIndirection, base]
  -- The other enumerated fields.
  case intoClause => simp [Kind.decoder, intoClause, commitAction]
  case sortBy => simp [Kind.decoder, sortBy, direction, nullsOrder]
  case boolExpr => simp [Kind.decoder, boolExpr, boolOperator]
  case nullTest => simp [Kind.decoder, nullTest, Kind.Enumerates.nullTest]
  case booleanTest => simp [Kind.decoder, booleanTest, truthTest]
  case rowExpr => simp [Kind.decoder, rowExpr, rowFormat]
  case aExpr => simp [Kind.decoder, aExpr, operatorForm]
  case minMaxExpr => simp [Kind.decoder, minMaxExpr, extreme]
  case sqlValueFunction => simp [Kind.decoder, sqlValueFunction, keyword]
  -- These decoders complain of nothing.
  all_goals
    simp [Kind.decoder, resTarget, withClause, rangeFunction, aliasClause, caseExpr, caseWhen,
      setToDefault, funcCall, typeCast, typeName, columnRef, paramRef, coalesceExpr, nullIfExpr,
      aArrayExpr, aIndices, collateClause, integerValue, booleanValue]

end Table

end Decoder

end SqlTree
