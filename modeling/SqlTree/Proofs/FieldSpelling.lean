import SqlTree.Proofs.DecoderRuns
import SqlTree.Proofs.ListSpelling

/-!
# Two spellings of a field

Parsers of different versions write the same thing in different ways: the value of an enumeration by
its code or by its symbol, or not at all when the code is zero; the text of a string or a float in
one field or another; the value of a constant as a record or as the untagged fields of one; and the
inheritance of a relation as an option or as a flag. The spellings of each kind of record are told
in `Kind.Respells`, the older one before the newer one.

A record reads alike in both spellings, but for the field that an error names, and with the same
number of levels (`Kind.Respells.agrees`). So a raw tree may be in the spelling of either version
at any of its records, and the same tree is built (`Builder.build_dialect`).
-/

namespace SqlTree

/-- Two maps of fields are the same but for some fields when they are so once these are left out. -/
theorem Fields.sameOn_of_filter {differing : List String} {fields fields' : Fields}
    (same : (fields.filter fun entry => entry.1 ∉ differing) =
      fields'.filter fun entry => entry.1 ∉ differing) :
    fields.SameOn (· ∉ differing) fields' := by
  intro field other
  have kept (fields : Fields) :
      (fields.filter fun entry => entry.1 ∉ differing).lookup field = fields.lookup field := by
    induction fields with
    | nil => rfl
    | cons entry rest ih =>
      by_cases differs : entry.1 ∈ differing
      · have skipped : field ≠ entry.1 := fun e => other (e ▸ differs)
        rw [List.filter_cons_of_neg (by simpa using differs), ih, List.lookup_cons,
          beq_false_of_ne skipped]
      · rw [List.filter_cons_of_pos (by simpa using differs), List.lookup_cons, List.lookup_cons,
          ih]
  unfold value?
  rw [← kept fields, ← kept fields', same]

/-- What one field holds in the older spelling another one holds in the newer spelling, and each of
the two is absent where it is not used. -/
structure Fields.Moved (older newer : String) (fields fields' : Fields) : Prop where
  held : fields.value? older = fields'.value? newer
  newer_absent : fields.value? newer = none
  older_absent : fields'.value? older = none
  others : fields.SameOn (· ∉ [older, newer]) fields'

/-- The only value of a constant is a record in the older spelling, and in the newer one it stands
without its tag in the field that names its kind. -/
structure Fields.Untagged (field : String) (kind : Kind) (body fields fields' : Fields) :
    Prop where
  listed : (field, kind) ∈ Decoder.payloads
  held : fields.value? "val" = some (kind.raw body)
  payloads_absent : ∀ payload ∈ Decoder.payloads, fields.value? payload.1 = none
  held' : fields'.value? field = some (.object body)
  val_absent : fields'.value? "val" = none
  others : fields.SameOn (· ∉ ["val", field]) fields'

/-- The fields of a record of a kind in an older and in a newer spelling. -/
inductive Kind.Respells : Kind → Fields → Fields → Prop where
  /-- The value of an enumeration is spelled by its code and by its symbol, which stand in one row
  of the vocabulary. -/
  | enumerated {kind : Kind} {field : String} {ε : Type} [Vocabulary ε] {code : Nat} {value : ε}
      {symbol : String} {fields fields' : Fields} : kind.Enumerates field ε →
      Vocabulary.entries[code]? = some (value, symbol) →
      fields.spelling? field = some (.code code) → fields'.spelling? field = some (.symbol symbol) →
      fields.SameOn (· ∉ [field]) fields' → Respells kind fields fields'
  | string {fields fields' : Fields} : fields.Moved "str" "sval" fields' →
      Respells .string fields fields'
  | float {fields fields' : Fields} : fields.Moved "str" "fval" fields' →
      Respells .float fields fields'
  | constant {field : String} {kind : Kind} {body fields fields' : Fields} :
      Fields.Untagged field kind body fields fields' → Respells .aConst fields fields'
  /-- A flag stands for an option that is not zero. -/
  | inheritance {option : Int} {fields fields' : Fields} :
      fields.value? "inh" = some (.bool (option != 0)) → fields.value? "inhOpt" = none →
      fields'.value? "inhOpt" = some (.number (.integer option)) →
      fields.SameOn (· ∉ ["inh", "inhOpt"]) fields' → Respells .rangeVar fields fields'

/-! ## Decoders that read two maps of fields alike -/

namespace Decoder

variable {α β : Type} {tag : String} {fields fields' : Fields} {nested : Nested}

/-- A decoder reads two maps of fields alike, but for the fields that errors name. -/
def Agrees (tag : String) (fields fields' : Fields) (nested : Nested) (d : Decoder α) : Prop :=
  Agree BuildError.SameButSite (d.run tag fields nested) (d.run tag fields' nested)

/-- Decoders in a row read alike when each of them does. -/
theorem agrees_bind {d : Decoder α} {f : α → Decoder β} (first : d.Agrees tag fields fields' nested)
    (next : ∀ value, (f value).Agrees tag fields fields' nested) :
    (d >>= f).Agrees tag fields fields' nested := by
  unfold Agrees
  rw [run_bind, run_bind]
  exact Agree.bind first next

/-- A function of what a decoder reads is read alike when that is. -/
theorem agrees_map {d : Decoder α} {f : α → β} (h : d.Agrees tag fields fields' nested) :
    (f <$> d).Agrees tag fields fields' nested := by
  unfold Agrees
  rw [run_map, run_map]
  exact Agree.map h

/-- A decoder that asks for none of the fields that differ. -/
theorem agrees_of_asksOnly {differing : List String} (same : fields.SameOn (· ∉ differing) fields')
    {d : Decoder α} (asks : d.AsksOnly fun query => query.field ∉ differing) :
    d.Agrees tag fields fields' nested := by
  unfold Agrees
  rw [run_congr same asks]
  exact .refl _

/-- Two spellings of one value are read alike. -/
theorem agrees_enumeration {ε : Type} [Vocabulary ε] {field : String} {older newer : Spelling}
    (spelled : fields.spelling? field = some older)
    (spelled' : fields'.spelling? field = some newer)
    (same : Vocabulary.resolve? (ε := ε) older = Vocabulary.resolve? newer) :
    (enumeration field : Decoder ε).Agrees tag fields fields' nested := by
  unfold Agrees
  rw [run_enumeration, run_enumeration, Query.answer_spelling, Query.answer_spelling, spelled,
    spelled']
  simp only [ok_bind, same]
  cases Vocabulary.resolve? (ε := ε) newer with
  | none => exact .refl _
  | some value => exact .refl _

end Decoder

/-! ## Records in two spellings -/

section Records

variable {tag : String} {fields fields' : Fields} {nested : Nested}

/-- The code and the symbol in a row of a vocabulary stand for the same value. -/
theorem Kind.Enumerates.resolve?_eq {kind : Kind} {field : String} {ε : Type} [Vocabulary ε]
    (h : kind.Enumerates field ε) {code : Nat} {value : ε} {symbol : String}
    (row : Vocabulary.entries[code]? = some (value, symbol)) :
    Vocabulary.resolve? (ε := ε) (.code code) = Vocabulary.resolve? (.symbol symbol) := by
  cases h <;> exact Vocabulary.resolve?_eq_of_row row

/-- However its enumerated field is spelled, a record reads alike. -/
theorem Kind.Enumerates.agrees {kind : Kind} {field : String} {ε : Type} [Vocabulary ε]
    (h : kind.Enumerates field ε)
    (alike : (Decoder.enumeration field : Decoder ε).Agrees tag fields fields' nested)
    (same : fields.SameOn (· ∉ [field]) fields') :
    kind.decoder.Agrees tag fields fields' nested := by
  have other {α : Type} {d : Decoder α} (asks : d.AsksOnly fun query => query.field ∉ [field]) :
      d.Agrees tag fields fields' nested :=
    Decoder.agrees_of_asksOnly same asks
  have skip {α β : Type} {d : Decoder α} {f : α → Decoder β}
      (asks : d.AsksOnly fun query => query.field ∉ [field])
      (next : ∀ value, (f value).Agrees tag fields fields' nested) :
      (d >>= f).Agrees tag fields fields' nested :=
    Decoder.agrees_bind (other asks) next
  cases h <;> apply Decoder.agrees_map
  case setOperation =>
    refine Decoder.agrees_bind (Decoder.agrees_bind alike fun op => other ?_) fun read => other ?_
    · simp [Query.field]
    · simp [Query.field]
  -- The field is the first one asked for.
  case joinType | boolOperator | sublinkUse | operatorForm | extreme | keyword =>
    refine Decoder.agrees_bind alike fun value => other ?_
    simp [Query.field]
  case direction | nullTest | truthTest =>
    refine skip ?_ fun _ => Decoder.agrees_bind alike fun value => other ?_
    · simp [Query.field]
    · simp [Query.field]
  case nullsOrder | rowFormat =>
    refine skip ?_ fun _ => skip ?_ fun _ => Decoder.agrees_bind alike fun value => other ?_
    · simp [Query.field]
    · simp [Query.field]
    · simp [Query.field]
  case commitAction =>
    refine skip ?_ fun _ => skip ?_ fun _ => skip ?_ fun _ =>
      Decoder.agrees_bind alike fun value => other ?_
    · simp [Query.field]
    · simp [Query.field]
    · simp [Query.field]
    · simp [Query.field]

/-- A text reads alike in two fields. -/
theorem Query.agree_string {field field' : String}
    (held : fields.value? field = fields'.value? field') :
    Agree BuildError.SameButSite (Query.answer tag fields nested (.string field))
      (Query.answer tag fields' nested (.string field')) := by
  simp only [Query.answer, held]
  split
  · exact .refl _
  · exact .refl _
  · exact .error (.malformed _ _ .string)

/-- What is required of two fields is the same, but for the field that is named. -/
theorem Decoder.agree_require {α : Type} {field field' : String} {expected : Expectation}
    (found : Option α) :
    Agree BuildError.SameButSite ((require field expected found).run tag fields nested)
      ((require field' expected found).run tag fields' nested) := by
  cases found with
  | none => exact .error (.malformed _ _ expected)
  | some value => exact .refl _

/-- The text of a string reads alike in both of its fields. -/
theorem Fields.Moved.agrees_string (moved : fields.Moved "str" "sval" fields') :
    Kind.string.decoder.Agrees tag fields fields' nested := by
  have older : Decoder.stringValue.run tag fields nested =
      (fun text => .string (text.getD "")) <$> Query.answer tag fields nested (.string "str") := by
    simp [Decoder.stringValue, Query.answer, moved.newer_absent]
    rfl
  have newer : Decoder.stringValue.run tag fields' nested =
      (fun text => .string (text.getD "")) <$>
        Query.answer tag fields' nested (.string "sval") := by
    cases found : fields'.value? "sval" with
    | none => simp [Decoder.stringValue, Query.answer, found, moved.older_absent]
    | some raw => cases raw <;> simp [Decoder.stringValue, Query.answer, found] <;> rfl
  refine Decoder.agrees_map ?_
  unfold Decoder.Agrees
  rw [older, newer]
  exact (Query.agree_string moved.held).map

/-- The text of a float reads alike in both of its fields. -/
theorem Fields.Moved.agrees_float (moved : fields.Moved "str" "fval" fields') :
    Kind.float.decoder.Agrees tag fields fields' nested := by
  have older : Decoder.floatValue.run tag fields nested =
      Query.answer tag fields nested (.string "str") >>= fun text =>
        (Decoder.require "str" .numericText (Scalar.float? (text.getD ""))).run tag fields
          nested := by
    simp [Decoder.floatValue, Query.answer, moved.newer_absent]
  have newer : ∃ named, Decoder.floatValue.run tag fields' nested =
      Query.answer tag fields' nested (.string "fval") >>= fun text =>
        (Decoder.require named .numericText (Scalar.float? (text.getD ""))).run tag fields'
          nested := by
    by_cases absent : fields'.value? "fval" = none
    · exact ⟨"str", by simp [Decoder.floatValue, Query.answer, absent, moved.older_absent]⟩
    · exact ⟨"fval", by simp [Decoder.floatValue, Query.answer, Option.isSome_iff_ne_none, absent]⟩
  obtain ⟨named, newer⟩ := newer
  refine Decoder.agrees_map ?_
  unfold Decoder.Agrees
  rw [older, newer]
  exact (Query.agree_string moved.held).bind fun text => Decoder.agree_require _

/-- Whether inheriting tables are included reads alike as a flag and as an option. -/
theorem agrees_rangeVar {option : Int} (flag : fields.value? "inh" = some (.bool (option != 0)))
    (absent : fields.value? "inhOpt" = none)
    (held : fields'.value? "inhOpt" = some (.number (.integer option)))
    (same : fields.SameOn (· ∉ ["inh", "inhOpt"]) fields') :
    Kind.rangeVar.decoder.Agrees tag fields fields' nested := by
  have inheritance : Decoder.inheritance.Agrees tag fields fields' nested := by
    unfold Decoder.Agrees
    simp [Decoder.inheritance, Query.answer, absent, held, flag]
    exact .refl _
  refine Decoder.agrees_map (Decoder.agrees_bind inheritance fun inh => ?_)
  refine Decoder.agrees_of_asksOnly same ?_
  simp [Query.field]

/-- The value of a constant in the only field that has one. -/
theorem Decoder.run_payload {field : String} {kind : Kind} {body : Fields}
    {entries : List (String × Kind)} (listed : (field, kind) ∈ entries)
    (held : fields.value? field = some (.object body))
    (absent : ∀ entry ∈ entries, entry.1 ≠ field → fields.value? entry.1 = none)
    (distinct : ∀ entry ∈ entries, entry.1 = field → entry = (field, kind)) :
    (payload entries).run tag fields nested =
      nested.fields kind.tag body >>= fun node =>
        (require field .valueRecord node.scalar?).run tag fields nested := by
  induction entries with
  | nil => cases listed
  | cons first rest ih =>
    obtain ⟨name, named⟩ := first
    by_cases here : name = field
    · have e := distinct _ List.mem_cons_self here
      cases e
      simp [payload, Query.answer, held]
    · have skipped : fields.value? name = none := absent _ List.mem_cons_self here
      have later : (field, kind) ∈ rest := by
        rcases List.mem_cons.mp listed with e | later
        · cases e
          exact absurd rfl here
        · exact later
      have next := ih later (fun entry mem => absent entry (List.mem_cons_of_mem _ mem))
        fun entry mem => distinct entry (List.mem_cons_of_mem _ mem)
      simpa [payload, Query.answer, skipped] using next

namespace Fields.Untagged

variable {field : String} {kind : Kind} {body : Fields} {limit below : Nat}

/-- The fields for the value of a constant are not its other fields. -/
theorem field_ne (untagged : Untagged field kind body fields fields') :
    field ≠ "isnull" ∧ field ≠ "location" := by
  have names : ∀ payload ∈ Decoder.payloads, payload.1 ≠ "isnull" ∧ payload.1 ≠ "location" := by
    decide
  exact names _ untagged.listed

/-- In the newer spelling the value of the constant is found where it stands. -/
theorem run_payload (untagged : Untagged field kind body fields fields') :
    (Decoder.payload Decoder.payloads).run tag fields' nested =
      nested.fields kind.tag body >>= fun node =>
        (Decoder.require field .valueRecord node.scalar?).run tag fields' nested := by
  have one : ∀ payload ∈ Decoder.payloads, ∀ other ∈ Decoder.payloads,
      other.1 = payload.1 → other = payload := by decide
  refine Decoder.run_payload untagged.listed untagged.held' ?_ (one _ untagged.listed)
  intro payload mem other
  have notVal : ∀ payload ∈ Decoder.payloads, payload.1 ≠ "val" := by decide
  rw [← untagged.others payload.1 (by simp [other, notVal payload mem])]
  exact untagged.payloads_absent payload mem

/-- The value of a constant reads alike as a record and without its tag: both are one level below
the constant. -/
theorem agrees_constant (untagged : Untagged field kind body fields fields') :
    Decoder.constant.Agrees tag fields fields' (nestedReaders limit below) := by
  refine Decoder.agrees_bind (Decoder.agrees_of_asksOnly untagged.others ?_) fun isnull => ?_
  · simpa [Query.field] using Ne.symm untagged.field_ne.1
  cases isnull with
  | true => exact .refl _
  | false =>
    have older : Query.answer tag fields (nestedReaders limit below) (.child "val") =
        some <$> (nestedReaders limit below).fields kind.tag body := by
      simp only [Query.answer, untagged.held]
      exact congrArg (some <$> ·) (readEntry_record ⟨tag, "val"⟩)
    have newer : Query.answer tag fields' (nestedReaders limit below) (.child "val") =
        .ok none := by
      simp only [Query.answer, untagged.val_absent]
    unfold Decoder.Agrees
    simp only [Bool.false_eq_true, if_false, Decoder.run_bind, Decoder.child, Decoder.run_ask,
      Decoder.run_done, older, newer, bind_assoc, bind_map_left, ok_bind, untagged.run_payload]
    exact (Agree.refl _).bind fun node => Decoder.agree_require node.scalar?

/-- A constant reads alike with its value as a record and without the tag of it. -/
theorem agrees_aConst (untagged : Untagged field kind body fields fields') :
    Kind.aConst.decoder.Agrees tag fields fields' (nestedReaders limit below) := by
  refine Decoder.agrees_map (Decoder.agrees_bind untagged.agrees_constant fun val => ?_)
  refine Decoder.agrees_of_asksOnly (d := Decoder.location >>= fun _ => pure _) untagged.others ?_
  simpa [Query.field] using Ne.symm untagged.field_ne.2

end Fields.Untagged

/-- **A record reads alike in both spellings**, with the same number of levels. -/
theorem Kind.Respells.agrees {kind : Kind} (h : kind.Respells fields fields') (limit below : Nat) :
    kind.decoder.Agrees tag fields fields' (nestedReaders limit below) := by
  cases h with
  | enumerated enumerates row spelled spelled' same =>
    have resolved := enumerates.resolve?_eq row
    exact enumerates.agrees (Decoder.agrees_enumeration spelled spelled' resolved) same
  | string moved => exact moved.agrees_string
  | float moved => exact moved.agrees_float
  | constant untagged => exact untagged.agrees_aConst
  | inheritance flag absent held same => exact agrees_rangeVar flag absent held same

end Records

/-! ## Trees in two spellings -/

/-- A record is written in the newer spelling instead of the older one. -/
inductive Modernized : Place → Json → Json → Prop where
  | record {kind : Kind} {fields fields' : Fields} : kind.Respells fields fields' →
      Modernized .record (kind.raw fields) (kind.raw fields')

/-- A field in its newer spelling is not noticed, but for the site of errors. -/
theorem Modernized.alike {place : Place} {raw raw' : Json} (h : Modernized place raw raw') :
    place.Alike BuildError.SameButSite raw raw' := by
  cases h with
  | record respells =>
    exact ⟨⟨_, _, rfl⟩, ⟨_, _, rfl⟩, readAlike_raw fun limit below => respells.agrees limit below⟩

namespace Builder

/-- **The spelling of fields does not matter**: whichever records of a raw tree are in the older
spelling and whichever are in the newer one, the same tree is built under each limit, and when none
is built the errors differ in the place that a malformed value is at and in nothing else. -/
theorem build_dialect {raw raw' : Json}
    (changes : Relation.EqvGen (ChangedAt Modernized .record) raw raw') (b : Builder) :
    (∀ built, b.build raw = .ok built ↔ b.build raw' = .ok built) ∧
      ∀ e, b.build raw = .error e → ∃ e', b.build raw' = .error e' ∧ e.SameButSite e' := by
  have agree : Agree BuildError.SameButSite (b.build raw) (b.build raw') := by
    induction changes with
    | rel _ _ step => exact agree_build b (step.alike fun _ _ _ => Modernized.alike)
    | refl => exact .refl _
    | symm _ _ _ ih => exact ih.symm
    | trans _ _ _ _ _ first second => exact first.trans second
  exact ⟨agree.ok_iff, fun e => agree.exists_error⟩

/-- `SELECT 'a' FROM t ORDER BY x ASC` as a raw tree, with the given constant, relation and
order. -/
def orderedQuery (constant relation order : Fields) : Json :=
  Kind.selectStmt.raw
    [("targetList", .array [Kind.aConst.raw constant]),
      ("fromClause", .array [Kind.rangeVar.raw relation]),
      ("sortClause", .array [Kind.sortBy.raw order])]

/-- The same tree is built from the output of an older parser and from that of a newer one, which
spell a constant, a relation and an order in their own ways. -/
theorem build_orderedQuery :
    ∃ n, build ⟨⟨3⟩⟩ (orderedQuery [("val", Kind.string.raw [("str", .string "a")])]
        [("relname", .string "t"), ("inh", .bool true)]
        [("sortby_dir", .number (.integer 1))]) = .ok (some n) ∧
      build ⟨⟨3⟩⟩ (orderedQuery [("sval", .object [("sval", .string "a")])]
        [("relname", .string "t"), ("inhOpt", .number (.integer 2))]
        [("sortby_dir", .string "SORTBY_ASC")]) = .ok (some n) := by
  have targetList : Kind.selectStmt.decoder.Asks (.children "targetList") :=
    .inr ⟨.code 0, .inr ⟨false, .inr ⟨false, .inr ⟨[], .inr ⟨none, .inl rfl⟩⟩⟩⟩⟩
  have fromClause : Kind.selectStmt.decoder.Asks (.children "fromClause") :=
    .inr ⟨.code 0, .inr ⟨false, .inr ⟨false, .inr ⟨[], .inr ⟨none, .inr ⟨[], .inl rfl⟩⟩⟩⟩⟩⟩
  have sortClause : Kind.selectStmt.decoder.Asks (.children "sortClause") :=
    .inr ⟨.code 0, .inr ⟨false, .inr ⟨false, .inr ⟨[], .inr ⟨none, .inr ⟨[], .inr ⟨[], .inr ⟨none,
      .inr ⟨[], .inr ⟨none, .inr ⟨[], .inl rfl⟩⟩⟩⟩⟩⟩⟩⟩⟩⟩⟩
  have val : Kind.aConst.decoder.Asks (.child "val") := .inr ⟨false, .inl rfl⟩
  have text : Kind.string.Respells [("str", .string "a")] [("sval", .string "a")] :=
    .string ⟨rfl, rfl, rfl, Fields.sameOn_of_filter rfl⟩
  have constant : Kind.aConst.Respells [("val", Kind.string.raw [("sval", .string "a")])]
      [("sval", .object [("sval", .string "a")])] :=
    @Kind.Respells.constant "sval" .string _ _ _
      { listed := by simp [Decoder.payloads]
        held := rfl
        payloads_absent := by simp [Decoder.payloads, Fields.value?, List.lookup_cons]
        held' := rfl
        val_absent := rfl
        others := Fields.sameOn_of_filter rfl }
  have inheritance : Kind.rangeVar.Respells [("relname", .string "t"), ("inh", .bool true)]
      [("relname", .string "t"), ("inhOpt", .number (.integer 2))] :=
    @Kind.Respells.inheritance 2 _ _ rfl rfl rfl (Fields.sameOn_of_filter rfl)
  have direction : Kind.sortBy.Respells [("sortby_dir", .number (.integer 1))]
      [("sortby_dir", .string "SORTBY_ASC")] :=
    @Kind.Respells.enumerated _ _ _ _ 1 _ _ _ _ .direction rfl rfl rfl (Fields.sameOn_of_filter rfl)
  have inConstant {fields fields' : Fields} (relation order : Fields)
      (changed : ChangedAt Modernized .record (Kind.aConst.raw fields) (Kind.aConst.raw fields')) :
      Relation.EqvGen (ChangedAt Modernized .record) (orderedQuery fields relation order)
        (orderedQuery fields' relation order) :=
    .rel _ _ (@ChangedAt.field _ .selectStmt (.children "targetList") _ [] _ _ _ targetList rfl
      (@ChangedAt.one _ _ [] [] _ _ (.recordEntry changed)))
  have inRelation {fields fields' : Fields} (constant order : Fields)
      (respells : Kind.rangeVar.Respells fields fields') :
      Relation.EqvGen (ChangedAt Modernized .record) (orderedQuery constant fields order)
        (orderedQuery constant fields' order) :=
    .rel _ _ (@ChangedAt.field _ .selectStmt (.children "fromClause") _ [_] _ _ _ fromClause rfl
      (@ChangedAt.one _ _ [] [] _ _ (.recordEntry (.here (.record respells)))))
  have inOrder {fields fields' : Fields} (constant relation : Fields)
      (respells : Kind.sortBy.Respells fields fields') :
      Relation.EqvGen (ChangedAt Modernized .record) (orderedQuery constant relation fields)
        (orderedQuery constant relation fields') :=
    .rel _ _ (@ChangedAt.field _ .selectStmt (.children "sortClause") _ [_, _] [] _ _ sortClause rfl
      (@ChangedAt.one _ _ [] [] _ _ (.recordEntry (.here (.record respells)))))
  have textChanged := @ChangedAt.field Modernized .aConst (.child "val") _ [] [] _ _ val rfl
    (.here (.record text))
  -- The text inside the constant first, then the constant, the relation and the order.
  have changes := (inConstant _ _ textChanged).trans _ _ _ <|
    (inConstant _ _ (.here (.record constant))).trans _ _ _ <|
      (inRelation _ _ inheritance).trans _ _ _ (inOrder _ _ direction)
  have built : build ⟨⟨3⟩⟩ (orderedQuery [("val", Kind.string.raw [("str", .string "a")])]
      [("relname", .string "t"), ("inh", .bool true)]
      [("sortby_dir", .number (.integer 1))]) = .ok (some _) := rfl
  exact ⟨_, built, ((build_dialect changes ⟨⟨3⟩⟩).1 _).mp built⟩

end Builder

end SqlTree
