import SqlTree.Proofs.Agreement
import SqlTree.Proofs.DecoderLogic

/-!
# What a decoder asks

The questions that a decoder may ask, whatever answers it gets, decide what it can depend on: two
runs of a decoder agree when the answers to these questions do (`Decoder.agree_run`), and the answer
to a question depends on nothing but the value of one field (`Query.answer_congr`).

The questions that the decoder of a kind asks are few, and they are written down here once for each
kind (`Query.askedBy`, `Decoder.asksOnly_askedBy`). A field is asked for in one way only, besides
the question whether it is present (`Decoder.eq_of_asks`).
-/

namespace SqlTree

/-- Two maps of fields hold the same in every field with a property. A field that is `null` counts
as absent. -/
def Fields.SameOn (read : String → Prop) (fields fields' : Fields) : Prop :=
  ∀ field, read field → fields.value? field = fields'.value? field

/-- How a raw value spells a value of an enumeration. -/
def Json.spelling? : Json → Option Spelling
  | .number (.integer value) => some (.code value)
  | .string text => some (.symbol text)
  | _ => none

/-- How an enumerated field is spelled; a field that is absent has code zero. -/
def Fields.spelling? (fields : Fields) (field : String) : Option Spelling :=
  match fields.value? field with
  | none => some (.code 0)
  | some raw => raw.spelling?

namespace Query

deriving instance DecidableEq for Query

@[simp] theorem anything_iff {query : Query} {answer : query.Answer} :
    anything query answer ↔ True := Iff.rfl

/-- The field that a question is about. -/
def field : Query → String
  | present field | string field | integer field | flag field | spelling field | child field |
    untagged field _ | children field | sparseLists field => field

/-- An answer depends on the value of one field. -/
theorem answer_congr {tag : String} {fields fields' : Fields} {nested : Nested} (query : Query)
    (same : fields.value? query.field = fields'.value? query.field) :
    query.answer tag fields nested = query.answer tag fields' nested := by
  cases query <;> simp only [field] at same <;> simp only [answer, same]

/-- The answer about an enumerated field is its spelling. -/
theorem answer_spelling {tag field : String} {fields : Fields} {nested : Nested} :
    Query.answer tag fields nested (.spelling field) =
      match fields.spelling? field with
      | some written => .ok written
      | none => .error (.malformed ⟨tag, field⟩ .enumCode) := by
  simp only [answer, Fields.spelling?]
  cases fields.value? field with
  | none => rfl
  | some raw =>
    unfold Json.spelling?
    split <;> first | rfl | simp_all

end Query

namespace Decoder

variable {α β : Type} {P : Query → Prop}

/-- Whether a question may be asked, after whatever answers. -/
def Asks : Decoder α → Query → Prop
  | done _, _ | fail _ _, _ => False
  | ask query next, other => other = query ∨ ∃ answer, (next answer).Asks other

/-- Every question that may be asked is one with a property. -/
def AsksOnly (P : Query → Prop) (d : Decoder α) : Prop := ∀ query, d.Asks query → P query

/-- Two runs of a decoder agree when the answers to its questions do. -/
theorem agree_run {E : BuildError → BuildError → Prop} [Std.Refl E] {tag : String}
    {fields fields' : Fields} {nested nested' : Nested} {d : Decoder α}
    (answers : d.AsksOnly fun query =>
      Agree E (query.answer tag fields nested) (query.answer tag fields' nested')) :
    Agree E (d.run tag fields nested) (d.run tag fields' nested') := by
  induction d with
  | done value => exact .ok value
  | fail field expected => exact .refl _
  | ask query next ih =>
    rw [run_ask, run_ask]
    exact (answers query (.inl rfl)).bind fun answer =>
      ih answer fun other asks => answers other (.inr ⟨answer, asks⟩)

/-- A run depends on nothing but the fields that the decoder may ask for. -/
theorem run_congr {read : String → Prop} {tag : String} {fields fields' : Fields} {nested : Nested}
    {d : Decoder α} (same : fields.SameOn read fields')
    (asks : d.AsksOnly fun query => read query.field) :
    d.run tag fields nested = d.run tag fields' nested := by
  apply Agree.eq
  apply agree_run
  intro query asked
  rw [query.answer_congr (same query.field (asks query asked))]
  exact .refl _

/-! ## Rules for each way to build a decoder -/

@[simp] theorem asksOnly_done {value : α} : (done value).AsksOnly P := nofun

@[simp] theorem asksOnly_pure {value : α} : (pure value : Decoder α).AsksOnly P := nofun

@[simp] theorem asksOnly_fail {field : String} {expected : Expectation} :
    (fail field expected : Decoder α).AsksOnly P := nofun

/-- A decoder that asks a question asks it and what follows upon the answer. -/
@[simp] theorem asksOnly_ask {query : Query} {next : query.Answer → Decoder α} :
    (ask query next).AsksOnly P ↔ P query ∧ ∀ answer, (next answer).AsksOnly P := by
  constructor
  · intro h
    exact ⟨h query (.inl rfl), fun answer other asks => h other (.inr ⟨answer, asks⟩)⟩
  · rintro ⟨first, rest⟩ other (rfl | ⟨answer, asks⟩)
    · exact first
    · exact rest answer other asks

/-- Decoders in a row ask what each of them asks. -/
@[simp] theorem asksOnly_bind {d : Decoder α} {f : α → Decoder β} :
    (d >>= f).AsksOnly P ↔
      d.AsksOnly P ∧ d.Ensures Query.anything fun value => (f value).AsksOnly P := by
  change (d.bind f).AsksOnly P ↔ _
  induction d with
  | done value => simp [Decoder.bind]
  | fail field expected => simp [Decoder.bind]
  | ask query next ih =>
    simp only [Decoder.bind, asksOnly_ask, ih, Ensures, Query.anything_iff, true_imp_iff,
      forall_and, and_assoc]

@[simp] theorem asksOnly_map {d : Decoder α} {f : α → β} :
    (f <$> d).AsksOnly P ↔ d.AsksOnly P := by
  change (d >>= fun value => pure (f value)).AsksOnly P ↔ _
  simp

/-- A decoder that depends on a condition asks what the branch taken asks. -/
@[simp] theorem asksOnly_ite {c : Prop} [Decidable c] {d e : Decoder α} :
    (if c then d else e).AsksOnly P ↔ (c → d.AsksOnly P) ∧ (¬c → e.AsksOnly P) := by
  split <;> simp [*]

@[simp] theorem asksOnly_require {field : String} {expected : Expectation} {found : Option α} :
    (require field expected found).AsksOnly P := by
  cases found <;> simp [require]

section Fields

variable {field : String}

/-- The value of an enumeration is read by asking for its spelling. -/
@[simp] theorem asksOnly_enumeration {ε : Type} [Vocabulary ε] :
    (enumeration field : Decoder ε).AsksOnly P ↔ P (.spelling field) := by
  simp [enumeration]

@[simp] theorem asksOnly_location : location.AsksOnly P ↔ P (.integer "location") := by
  simp [location]

@[simp] theorem asksOnly_requiredString :
    (requiredString field).AsksOnly P ↔ P (.string field) := by
  simp [requiredString]

@[simp] theorem asksOnly_requiredChild :
    (requiredChild field).AsksOnly P ↔ P (.child field) := by
  simp [requiredChild]

/-- A query that has to be there is read by asking for a record. -/
@[simp] theorem asksOnly_selectChild : (selectChild field).AsksOnly P ↔ P (.child field) := by
  simp only [selectChild, asksOnly_bind, asksOnly_requiredChild, and_iff_left_iff_imp]
  refine fun _ => ensures_of_forall fun node => ?_
  cases node.select? <;> simp

/-- A query that may be missing is read by asking whether it is there and for a record. -/
@[simp] theorem asksOnly_optionalSelectChild :
    (optionalSelectChild field).AsksOnly P ↔ P (.present field) ∧ P (.child field) := by
  simp [optionalSelectChild]

end Fields

end Decoder

/-! ## The questions about each kind of record -/

namespace Query

/-- The questions that the decoder of a kind may ask. -/
def askedBy : Kind → List Query
  | .rawStmt => [child "stmt", integer "stmt_location", integer "stmt_len"]
  | .selectStmt =>
    [spelling "op", present "larg", child "larg", present "rarg", child "rarg",
      children "distinctClause", child "intoClause", children "targetList", children "fromClause",
      child "whereClause", children "groupClause", child "havingClause", children "valuesLists",
      children "sortClause", child "limitOffset", child "limitCount", child "withClause",
      flag "all"]
  | .insertStmt =>
    [child "relation", children "cols", present "selectStmt", child "selectStmt",
      children "returningList", child "withClause"]
  | .updateStmt =>
    [child "relation", children "targetList", child "whereClause", children "fromClause",
      children "returningList", child "withClause"]
  | .deleteStmt =>
    [child "relation", children "usingClause", child "whereClause", children "returningList",
      child "withClause"]
  | .intoClause =>
    [child "rel", children "colNames", children "options", spelling "onCommit",
      string "tableSpaceName", flag "skipData"]
  | .resTarget => [string "name", children "indirection", child "val", integer "location"]
  | .sortBy =>
    [child "node", spelling "sortby_dir", spelling "sortby_nulls", children "useOp",
      integer "location"]
  | .withClause => [children "ctes", flag "recursive", integer "location"]
  | .commonTableExpr =>
    [string "ctename", children "aliascolnames", child "ctequery", integer "location"]
  | .rangeVar =>
    [integer "inhOpt", flag "inh", string "catalogname", string "schemaname", string "relname",
      string "relpersistence", child "alias", integer "location", flag "nullable"]
  | .rangeSubselect => [flag "lateral", child "subquery", child "alias"]
  | .rangeFunction =>
    [flag "lateral", flag "ordinality", flag "is_rowsfrom", sparseLists "functions", child "alias",
      children "coldeflist"]
  | .joinExpr =>
    [spelling "jointype", flag "isNatural", child "larg", child "rarg", children "usingClause",
      child "quals", child "alias"]
  | .aliasClause => [string "aliasname", children "colnames"]
  | .boolExpr => [spelling "boolop", children "args", integer "location"]
  | .subLink =>
    [spelling "subLinkType", integer "subLinkId", child "testexpr", children "operName",
      child "subselect", integer "location"]
  | .caseExpr =>
    [integer "casetype", integer "casecollid", child "arg", children "args", child "defresult",
      integer "location"]
  | .caseWhen => [child "expr", child "result", integer "location"]
  | .nullTest => [child "arg", spelling "nulltesttype", flag "argisrow", integer "location"]
  | .booleanTest => [child "arg", spelling "booltesttype", integer "location"]
  | .rowExpr =>
    [children "args", children "colnames", spelling "row_format", integer "row_typeid",
      integer "location"]
  | .setToDefault =>
    [integer "typeId", integer "typeMod", integer "collation", integer "location"]
  | .aExpr =>
    [spelling "kind", children "name", child "lexpr", child "rexpr", integer "location"]
  | .funcCall =>
    [children "funcname", children "args", children "agg_order", child "agg_filter",
      flag "agg_star", flag "agg_distinct", flag "func_variadic", integer "location"]
  | .typeCast => [child "arg", child "typeName", integer "location"]
  | .typeName =>
    [children "names", children "typmods", children "arrayBounds", flag "setof",
      integer "location"]
  | .columnRef => [children "fields", integer "location", flag "nullable"]
  | .paramRef => [integer "number", integer "location", flag "nullable"]
  | .aConst =>
    [flag "isnull", child "val", present "ival", untagged "ival" .integer, present "fval",
      untagged "fval" .float, present "sval", untagged "sval" .string, present "boolval",
      untagged "boolval" .boolean, integer "location"]
  | .aStar => []
  | .coalesceExpr =>
    [integer "coalescetype", integer "coalescecollid", children "args", integer "location"]
  | .minMaxExpr => [spelling "op", integer "minmaxtype", children "args", integer "location"]
  | .nullIfExpr =>
    [integer "opno", integer "opresulttype", integer "opcollid", integer "inputcollid",
      children "args", integer "location"]
  | .aArrayExpr => [children "elements", integer "location"]
  | .aIndirection => [child "arg", children "indirection"]
  | .aIndices => [flag "is_slice", child "lidx", child "uidx"]
  | .collateClause => [child "arg", children "collname", integer "location"]
  | .sqlValueFunction => [spelling "op", integer "type", integer "typmod", integer "location"]
  | .list => [children "items"]
  | .string => [string "sval", string "str"]
  | .integer => [integer "ival"]
  | .float => [present "fval", string "fval", string "str"]
  | .boolean => [flag "boolval"]
  | .null => []

end Query

/-- The enumerated fields of each kind of record, with the enumeration that their values are of. -/
inductive Kind.Enumerates : Kind → String → (ε : Type) → [Vocabulary ε] → Prop where
  | setOperation : Enumerates .selectStmt "op" SetOperation
  | commitAction : Enumerates .intoClause "onCommit" OnCommitAction
  | direction : Enumerates .sortBy "sortby_dir" SortByDir
  | nullsOrder : Enumerates .sortBy "sortby_nulls" SortByNulls
  | joinType : Enumerates .joinExpr "jointype" JoinType
  | boolOperator : Enumerates .boolExpr "boolop" BoolExprType
  | sublinkUse : Enumerates .subLink "subLinkType" SubLinkType
  | nullTest : Enumerates .nullTest "nulltesttype" NullTestType
  | truthTest : Enumerates .booleanTest "booltesttype" BoolTestType
  | rowFormat : Enumerates .rowExpr "row_format" CoercionForm
  | operatorForm : Enumerates .aExpr "kind" AExprKind
  | extreme : Enumerates .minMaxExpr "op" MinMaxOp
  | keyword : Enumerates .sqlValueFunction "op" SqlValueFunctionOp

namespace Decoder

/-- The decoder of a kind asks no other questions than those written down for the kind. -/
theorem asksOnly_askedBy (kind : Kind) : kind.decoder.AsksOnly (· ∈ Query.askedBy kind) := by
  cases kind
  case aStar | null => simp [Kind.decoder]
  -- These decoders ask one question or another, as the answers are.
  case selectStmt => simp [Kind.decoder, Query.askedBy, selectStmt, operands]
  case rangeVar => simp [Kind.decoder, Query.askedBy, rangeVar, inheritance, Option.forall]
  case aConst =>
    simp [Kind.decoder, Query.askedBy, aConst, constant, payload, payloads, Option.forall]
  case string => simp [Kind.decoder, Query.askedBy, stringValue, Option.forall]
  case float => simp [Kind.decoder, Query.askedBy, floatValue]
  all_goals
    simp [Kind.decoder, Query.askedBy, rawStmt, insertStmt, updateStmt, deleteStmt, intoClause,
      resTarget, sortBy, withClause, commonTableExpr, rangeSubselect, rangeFunction, joinExpr,
      aliasClause, boolExpr, subLink, caseExpr, caseWhen, nullTest, booleanTest, rowExpr,
      setToDefault, aExpr, funcCall, typeCast, typeName, columnRef, paramRef, coalesceExpr,
      minMaxExpr, nullIfExpr, aArrayExpr, aIndirection, aIndices, collateClause,
      sqlValueFunction, integerValue, booleanValue]

/-- A field is asked for in one way only, but for the question whether it is present. -/
theorem eq_of_asks {kind : Kind} {query other : Query} (asks : kind.decoder.Asks query)
    (asks' : kind.decoder.Asks other) (same : other.field = query.field) :
    other = query ∨ other = .present query.field ∨ query = .present query.field := by
  have table : ∀ query ∈ Query.askedBy kind, ∀ other ∈ Query.askedBy kind,
      other.field = query.field →
        other = query ∨ other = .present query.field ∨ query = .present query.field := by
    cases kind <;> decide
  exact table query (asksOnly_askedBy kind query asks) other (asksOnly_askedBy kind other asks')
    same

end Decoder

end SqlTree
