import SqlTree.Proofs.Questions
import SqlTree.Proofs.RecordContents

/-!
# The fields that decoders read

What a record holds in a field comes from the raw field of the same name, whatever the kind of the
record. For a relation `R` between raw values and nodes, `Content.Mirrors R` extends it to fields: a
node stands for the value of its field, a sequence of nodes for the entries of an array, one by one
and in their order, and nothing for a field that is absent. If the answers that a decoder gets are
mirrored like that, so are the fields of the record that it makes (`Kind.decoder_mirrors`), and each
field that it asks for as a sequence is a field of the record (`Node.mem_contents_of_asks`).

Fields without nodes may hold anything here.
-/

namespace SqlTree

section Mirrors

variable (R : Json → Node → Prop)

/-- Nodes stand for the slots of a raw sub-list that are not empty. -/
inductive SubListMirrors : Json → List Node → Prop where
  | intro {site : Site} {raw : Json} {slots : List Json} {nodes : List Node} :
      subListSlots site raw = .ok slots →
      List.Forall₂ R (slots.filter fun slot => !isEmptySlot slot) nodes → SubListMirrors raw nodes

/-- What a field of a record holds stands for the value of the raw field, if there is one. -/
inductive Content.Mirrors : Option Json → Content Node → Prop where
  | text {found : Option Json} {value : Option String} : Mirrors found (.text value)
  | integer {found : Option Json} {value : Option Int} : Mirrors found (.integer value)
  | flag {found : Option Json} {value : Bool} : Mirrors found (.flag value)
  | code {found : Option Json} {value : Int} : Mirrors found (.code value)
  | constant {found : Option Json} {value : Scalar} : Mirrors found (.constant value)
  | noChild : Mirrors none (.child none)
  | child {raw : Json} {n : Node} : R raw n → Mirrors (some raw) (.child (some n))
  | noChildren : Mirrors none (.children [])
  | children {items : List Json} {nodes : List Node} : List.Forall₂ R items nodes →
      Mirrors (some (.array items)) (.children nodes)
  | noLists : Mirrors none (.lists [])
  | lists {raws : List Json} {nodes : List (List Node)} :
      List.Forall₂ (SubListMirrors R) raws nodes → Mirrors (some (.array raws)) (.lists nodes)

/-- The nodes in an answer stand for what a raw record has in the field that was asked for. -/
def Query.mirrored (fields : Fields) : Query.Knowledge
  | .present field, answer => answer = (fields.value? field).isSome
  | .child field, answer => Content.Mirrors R (fields.value? field) (.child answer)
  | .children field, answer => Content.Mirrors R (fields.value? field) (.children answer)
  | .sparseLists field, answer => Content.Mirrors R (fields.value? field) (.lists answer)
  | _, _ => True

end Mirrors

variable {R : Json → Node → Prop} {fields : Fields}

namespace Decoder

/-- A query that may be absent is read from its field. -/
theorem optionalSelectChild_mirrors (field : String) :
    (optionalSelectChild field).Ensures (Query.mirrored R fields) fun found =>
      Content.Mirrors R (fields.value? field) (.child found) := by
  rw [ensures_optionalSelectChild]
  refine ⟨fun absent => ?_, fun _ node found _ => found⟩
  have missing : fields.value? field = none := by simpa [Query.mirrored] using absent
  rw [missing]
  exact .noChild

/-- The operands of a query are read from their fields. -/
theorem operands_mirrors :
    operands.Ensures (Query.mirrored R fields) fun read =>
      Content.Mirrors R (fields.value? "larg") (.child read.2.1) ∧
        Content.Mirrors R (fields.value? "rarg") (.child read.2.2) := by
  simp only [operands, ensures_bind, ensures_enumeration]
  intro _ _ op _
  refine (optionalSelectChild_mirrors "larg").imp fun larg left => ?_
  refine (optionalSelectChild_mirrors "rarg").imp fun rarg right => ?_
  split
  · trivial
  · split
    · trivial
    · exact ⟨left, right⟩

end Decoder

/-- **What a record holds stands for the raw fields that it is read from**, whatever its kind. -/
theorem Kind.decoder_mirrors (kind : Kind) :
    kind.decoder.Ensures (Query.mirrored R fields) fun n =>
      ∀ entry ∈ n.layer.contents, Content.Mirrors R (fields.value? entry.1) entry.2 := by
  cases kind <;> simp only [Kind.decoder, Decoder.ensures_map, Decoder.ensures_done, Node.layer]
  case selectStmt =>
    simp only [Decoder.selectStmt, Decoder.ensures_bind]
    refine Decoder.operands_mirrors.imp ?_
    intro read operands
    simp only [Decoder.children, Decoder.child, Decoder.flag, Decoder.ensures_ask,
      Decoder.ensures_done, Decoder.ensures_pure, Query.mirrored, Layer.contents,
      List.forall_mem_cons]
    intros
    simp [Content.Mirrors.code, Content.Mirrors.flag, *]
  case insertStmt =>
    simp only [Decoder.insertStmt, Decoder.ensures_bind, Decoder.ensures_requiredChild,
      Decoder.children, Decoder.ensures_ask, Decoder.ensures_done]
    intro relation target cols columns
    refine (Decoder.optionalSelectChild_mirrors "selectStmt").imp fun selectStmt source => ?_
    simp only [Query.mirrored] at target columns
    simp +contextual [-Bool.forall_bool, Query.mirrored, Layer.contents, target, columns, source]
  case rangeVar =>
    simp +contextual [-Bool.forall_bool, Query.mirrored, Layer.contents, Content.Mirrors.text,
      Content.Mirrors.integer, Content.Mirrors.flag, Decoder.rangeVar, Decoder.inheritance]
  case aConst =>
    refine Decoder.ensures_of_forall ?_
    intro record
    simp [Layer.contents, Content.Mirrors.integer, Content.Mirrors.flag, Content.Mirrors.constant]
  case string | float =>
    refine Decoder.ensures_of_forall ?_
    intro value
    cases value <;> simp [Layer.contents, Layer.scalarContents, Content.Mirrors.text,
      Content.Mirrors.integer, Content.Mirrors.flag]
  -- The other decoders ask for their fields one after another, whatever the answers are.
  all_goals
    simp +contextual [-Bool.forall_bool, Query.mirrored, Layer.contents, Layer.scalarContents,
      Content.Mirrors.text, Content.Mirrors.integer, Content.Mirrors.flag, Content.Mirrors.code,
      Decoder.rawStmt, Decoder.updateStmt, Decoder.deleteStmt, Decoder.intoClause,
      Decoder.resTarget, Decoder.sortBy, Decoder.withClause, Decoder.commonTableExpr,
      Decoder.rangeSubselect, Decoder.rangeFunction, Decoder.joinExpr, Decoder.aliasClause,
      Decoder.boolExpr, Decoder.subLink, Decoder.caseExpr, Decoder.caseWhen, Decoder.nullTest,
      Decoder.booleanTest, Decoder.rowExpr, Decoder.setToDefault, Decoder.aExpr, Decoder.funcCall,
      Decoder.typeCast, Decoder.typeName, Decoder.columnRef, Decoder.paramRef,
      Decoder.coalesceExpr, Decoder.minMaxExpr, Decoder.nullIfExpr, Decoder.aArrayExpr,
      Decoder.aIndirection, Decoder.aIndices, Decoder.collateClause, Decoder.sqlValueFunction,
      Decoder.integerValue, Decoder.booleanValue]

/-- The fields that the decoder of a kind asks for as sequences are fields of its records. -/
theorem Node.mem_contents_of_asks {n : Node} {field : String}
    (asks : n.kind.decoder.Asks (.children field)) :
    ∃ nodes, (field, .children nodes) ∈ n.layer.contents := by
  have asked := Decoder.asksOnly_askedBy _ _ asks
  obtain ⟨l⟩ := n
  cases l
  case scalar value =>
    cases value <;> simp [Node.kind, Node.layer, Layer.kind, Scalar.kind, Query.askedBy] at asked
  all_goals
    simp_all [Node.kind, Node.layer, Layer.kind, Query.askedBy, Layer.contents, exists_or]

end SqlTree
