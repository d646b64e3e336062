import SqlTree.Proofs.FieldFaults

/-!
# Culprits

When a raw value cannot be built, the error names what is to blame, and that is really there
(`Builder.blames_of_error`). `Reaches` follows the reading of a raw value to the values inside it,
each with the place as which it is read; so a map of fields that is built as a record of some kind
is one that is reached as the body of that kind, under its tag or without a tag. An error is then
one of these (`Blames`): a tag that names no kind, a tag over something other than a map of fields,
a record that has a field at fault, or the value itself when it is not of the shape that is read at
its place. A depth error blames nothing in particular.

The kind and the field that an error names come from the record around the value. That they are the
right ones is shown by one induction on the levels (`accountable`), which goes through the places
and never through the kinds of records.
-/

namespace SqlTree

/-- Reading a value as what stands at a place gets to a value inside it, read as what stands at
another place. -/
inductive Reaches : Place → Json → Place → Json → Prop where
  | here {place : Place} {raw : Json} : Reaches place raw place raw
  | tagged {kind : Kind} {fields : Fields} {place : Place} {part : Json} :
      Reaches (.body kind) (.object fields) place part →
      Reaches .record (kind.raw fields) place part
  | field {kind : Kind} {fields : Fields} {query : Query} {inner place : Place} {raw part : Json} :
      kind.decoder.Asks query → query.place? = some inner →
      fields.value? query.field = some raw → Reaches inner raw place part →
      Reaches (.body kind) (.object fields) place part
  | recordEntry {raw part : Json} {place : Place} : Reaches .record raw place part →
      Reaches .entry raw place part
  | arrayEntry {items : List Json} {item part : Json} {place : Place} : item ∈ items →
      Reaches .entry item place part → Reaches .entry (.array items) place part
  | slot {site : Site} {raw slot part : Json} {slots : List Json} {place : Place} :
      subListSlots site raw = .ok slots → slot ∈ slots → isEmptySlot slot = false →
      Reaches .record slot place part → Reaches .subList raw place part
  | one {inner place : Place} {items : List Json} {item part : Json} : item ∈ items →
      Reaches inner item place part → Reaches (.all inner) (.array items) place part

/-- What an error says of a raw value, read as what stands at a place of a site, is so. -/
inductive Blames (place : Place) (raw : Json) (site : Site) : BuildError → Prop where
  | unrecognized {tag : String} {fields : Fields} : Kind.ofTag? tag = none →
      Reaches place raw .record (.object [(tag, .object fields)]) →
      Blames place raw site (.unrecognized tag)
  | fieldMap {tag : String} {value : Json} : (∀ fields, value ≠ .object fields) →
      Reaches place raw .record (.object [(tag, value)]) →
      Blames place raw site (.malformed ⟨tag, ""⟩ .fieldMap)
  /-- The value itself is not of the shape that is read at its place. -/
  | here {expected : Expectation} : expected ≠ .fieldMap → place.Misfit raw expected →
      Blames place raw site (.malformed site expected)
  /-- A record in it has a field that is at fault. -/
  | field {kind : Kind} {fields : Fields} {field : String} {expected : Expectation} :
      expected ≠ .fieldMap → Reaches place raw (.body kind) (.object fields) →
      kind.Fault fields field expected →
      Blames place raw site (.malformed ⟨kind.tag, field⟩ expected)
  | depth (limit : Nat) : Blames place raw site (.depthExceeded limit)

/-- Only a tag is expected to have a map of fields, and a place is no tag. -/
theorem Place.Misfit.ne_fieldMap {place : Place} {raw : Json} {expected : Expectation}
    (h : place.Misfit raw expected) : expected ≠ .fieldMap := by
  induction h with
  | inEntry _ _ ih | inSubList _ _ _ _ ih | inAll _ _ ih => exact ih
  | record | recordTag | body | entryTag | null | subList | array => nofun

/-- A value that is not of the shape that is read at its place is blamed itself. -/
theorem Place.Misfit.blames {place : Place} {raw : Json} {site : Site} {expected : Expectation}
    (h : place.Misfit raw expected) : Blames place raw site (.malformed site expected) :=
  .here h.ne_fieldMap h

/-- No field of a record is expected to be a map of fields. -/
theorem Kind.Fault.ne_fieldMap {kind : Kind} {fields : Fields} {field : String}
    {expected : Expectation} (h : kind.Fault fields field expected) : expected ≠ .fieldMap := by
  cases h with
  | misfit _ _ misfit =>
    cases misfit with
    | nested _ misfit => exact misfit.ne_fieldMap
    | string | integer | flag | spelling => nofun
  | missing requires => cases requires <;> nofun
  | operand | unknown | notQuery | notValue | notNumeric | noNumeral => nofun

section Reading

variable {α : Type} {limit below : Nat} {place inner : Place} {raw part : Json} {site site' : Site}

/-- What is blamed on a part is blamed on the whole, where the shape of the part is accounted
for. -/
theorem FailsOnly.blames {x : Except BuildError α} (h : FailsOnly (Blames inner part site') x)
    (reaches : ∀ {other raw'}, Reaches inner part other raw' → Reaches place raw other raw')
    (own : ∀ {expected}, expected ≠ .fieldMap → inner.Misfit part expected →
      Blames place raw site (.malformed site' expected)) :
    FailsOnly (Blames place raw site) x := by
  refine h.imp fun e blames => ?_
  cases blames with
  | unrecognized unknown reached => exact .unrecognized unknown (reaches reached)
  | fieldMap other reached => exact .fieldMap other (reaches reached)
  | here other misfit => exact own other misfit
  | field other reached fault => exact .field other (reaches reached) fault
  | depth limit => exact .depth limit

/-- The same for a part that is read at the same site: when it is not of the right shape, the whole
is not. -/
theorem FailsOnly.blames_whole {x : Except BuildError α}
    (h : FailsOnly (Blames inner part site) x)
    (reaches : ∀ {other raw'}, Reaches inner part other raw' → Reaches place raw other raw')
    (misfits : ∀ {expected}, inner.Misfit part expected → place.Misfit raw expected) :
    FailsOnly (Blames place raw site) x :=
  h.blames reaches fun other misfit => .here other (misfits misfit)

/-- With some levels left, what is read at each place fails for what it is blamed for. -/
structure Accountable (limit levels : Nat) : Prop where
  entry : ∀ site raw, FailsOnly (Blames .entry raw site) (readEntry limit levels site raw)
  record : ∀ site raw,
    FailsOnly (Blames .record raw site) (readRecord (readEntry limit levels) site raw)
  body : ∀ site kind fields, FailsOnly (Blames (.body kind) (.object fields) site)
    (readEntry limit levels site (kind.raw fields))

/-- A value that is not a sub-list is refused as such. -/
theorem subListSlots_eq_error (h : ∀ slots, subListSlots site raw ≠ .ok slots) :
    subListSlots site raw = .error (.malformed site .listOfRecords) := by
  unfold subListSlots at *
  repeat' split
  all_goals first | rfl | simp_all

/-- What fails a sub-list is blamed on the sub-list or on one of its slots that are not empty, when
what fails a slot is blamed on it. -/
theorem blames_subList (slot : ∀ site raw,
      FailsOnly (Blames .record raw site) (readRecord (readEntry limit (below - 1)) site raw)) :
    FailsOnly (Blames .subList raw site) (readSubList (nestedReaders limit below) site raw) := by
  unfold readSubList
  refine FailsOnly.bind ?_ fun slots told => .mapM fun part kept => ?_
  · by_cases fits : ∃ slots, subListSlots site raw = .ok slots
    · obtain ⟨slots, told⟩ := fits
      rw [told]
      exact .ok slots
    · have none : ∀ slots, subListSlots site raw ≠ .ok slots := fun slots told => fits ⟨slots, told⟩
      rw [subListSlots_eq_error none]
      exact .error (Place.Misfit.subList none).blames
  · rw [nestedReaders_slot]
    obtain ⟨mem, filled⟩ := List.mem_filter.mp kept
    have filled : isEmptySlot part = false := by simpa using filled
    exact (slot site part).blames_whole (.slot told mem filled) (.inSubList told mem filled)

/-- What is read in an array is blamed on the array. -/
theorem blames_items {items : List Json} {read : Json → Except BuildError α}
    (item : ∀ raw, FailsOnly (Blames place raw site) (read raw)) :
    FailsOnly (Blames (.all place) (.array items) site) (items.mapM read) :=
  .mapM fun part mem => (item part).blames_whole (.one mem) (.inAll mem)

/-- What is blamed on the value of a field is blamed on the fields. -/
theorem blames_value {kind : Kind} {fields : Fields} {query : Query} {x : Except BuildError α}
    (asks : kind.decoder.Asks query) (read : query.place? = some place)
    (found : fields.value? query.field = some raw)
    (value : FailsOnly (Blames place raw ⟨kind.tag, query.field⟩) x) :
    FailsOnly (Blames (.body kind) (.object fields) site) x :=
  value.blames (.field asks read found) fun other misfit =>
    .field other .here (.misfit asks found (.nested read misfit))

/-- **The error of an answer is blamed on the record.** -/
theorem Query.blames_answer {kind : Kind} {fields : Fields} {query : Query}
    (inner : Accountable limit below) (slots : Accountable limit (below - 1))
    (asks : kind.decoder.Asks query) (answerable : query.Answerable fields) :
    FailsOnly (Blames (.body kind) (.object fields) site)
      (query.answer kind.tag fields (nestedReaders limit below)) := by
  have plain {raw : Json} {expected : Expectation} (found : fields.value? query.field = some raw)
      (misfit : query.Misfit raw expected) :
      Blames (.body kind) (.object fields) site (.malformed ⟨kind.tag, query.field⟩ expected) :=
    have fault := .misfit asks found misfit
    .field (Kind.Fault.ne_fieldMap fault) .here fault
  cases query with
  | present field => exact .ok _
  | string field =>
    simp only [answer]
    split
    next => exact .ok _
    next => exact .ok _
    next other found => exact .error (plain found (.string fun text e => other text e))
  | integer field =>
    simp only [answer]
    split
    next => exact .ok _
    next => exact .ok _
    next other found => exact .error (plain found (.integer fun value e => other value e))
  | flag field =>
    simp only [answer]
    split
    next => exact .ok _
    next => exact .ok _
    next other found => exact .error (plain found (.flag fun value e => other value e))
  | spelling field =>
    rw [answer_spelling]
    split
    next => exact .ok _
    next unspelled =>
      unfold Fields.spelling? at unspelled
      split at unspelled
      next => cases unspelled
      next found => exact .error (plain found (.spelling unspelled))
  | child field =>
    simp only [answer]
    split
    next => exact .ok _
    next found => exact .map (blames_value asks rfl found (inner.record _ _))
  | untagged field other =>
    simp only [answer]
    split
    next found =>
      rw [nestedReaders_fields, ← readEntry_record ⟨kind.tag, field⟩]
      exact blames_value asks rfl found (inner.body _ _ _)
    next other =>
      obtain ⟨raw, found⟩ := Option.isSome_iff_exists.mp answerable
      have misfit : ∀ fields, raw ≠ .object fields := fun body e => other body (e ▸ found)
      exact blames_value asks rfl found (.error (Place.Misfit.body misfit).blames)
  | children field =>
    simp only [answer]
    split
    next => exact .ok _
    next found => exact blames_value asks rfl found (blames_items (inner.entry _))
    next other found =>
      exact blames_value asks rfl found
        (.error (Place.Misfit.array fun items e => other items e).blames)
  | sparseLists field =>
    simp only [answer]
    split
    next => exact .ok _
    next found =>
      exact blames_value asks rfl found (blames_items fun _ => blames_subList slots.record)
    next other found =>
      exact blames_value asks rfl found
        (.error (Place.Misfit.array fun items e => other items e).blames)

/-- The error of a record is blamed on its fields. -/
theorem blames_run {kind : Kind} {fields : Fields} (inner : Accountable limit below)
    (slots : Accountable limit (below - 1)) :
    FailsOnly (Blames (.body kind) (.object fields) site)
      (kind.decoder.run kind.tag fields (nestedReaders limit below)) := by
  refine Decoder.failsOnly_run (Decoder.complains_decoder kind) Query.told_of_answer ?_ ?_
  · exact fun query asks answerable => Query.blames_answer inner slots asks answerable
  · exact fun field expected fault => .field fault.ne_fieldMap .here fault

/-- The error of an object is blamed on it as a record. -/
theorem blames_object {fields : Fields} {levels : Nat}
    (body : ∀ kind fields, FailsOnly (Blames (.body kind) (.object fields) site)
      (readEntry limit levels site (Kind.raw kind fields))) :
    FailsOnly (Blames .record (.object fields) site)
      (readEntry limit levels site (.object fields)) := by
  by_cases single : ∃ tag value, fields = [(tag, value)]
  · obtain ⟨tag, value, rfl⟩ := single
    by_cases map : ∃ fields, value = .object fields
    · obtain ⟨fields, rfl⟩ := map
      cases known : Kind.ofTag? tag with
      | none =>
        cases levels with
        | zero => exact .error (.depth limit)
        | succ below =>
          rw [readEntry_tagged, known]
          exact .error (.unrecognized known .here)
      | some kind =>
        obtain rfl := Kind.ofTag?_eq_some_iff.mp known
        refine (body kind fields).blames_whole .tagged fun misfit => ?_
        cases misfit with
        | body other => exact absurd rfl (other fields)
    · have other : ∀ fields, value ≠ .object fields := fun fields e => map ⟨fields, e⟩
      have refused : readEntry limit levels site (.object [(tag, value)]) =
          .error (.malformed ⟨tag, ""⟩ .fieldMap) := by
        rw [readEntry_eq]
        cases value with
        | object fields => exact absurd rfl (other fields)
        | null | bool | number | string | array => rfl
      rw [refused]
      exact .error (.fieldMap other .here)
  · have length : fields.length ≠ 1 := by
      intro one
      obtain ⟨⟨tag, value⟩, e⟩ := List.length_eq_one_iff.mp one
      exact single ⟨tag, value, e⟩
    have refused : readEntry limit levels site (.object fields) =
        .error (.malformed site .singleTag) := by
      rw [readEntry_eq]
      split
      case h_1 e | h_2 e =>
        cases e
        exact absurd rfl length
      case h_3 => rfl
      all_goals contradiction
    rw [refused]
    exact .error (Place.Misfit.recordTag length).blames

/-- **Reading fails for nothing but what it is blamed for**, with any number of levels left. -/
theorem accountable (limit levels : Nat) : Accountable limit levels := by
  induction levels using Nat.strongRecOn with
  | ind levels ih =>
    have body : ∀ site kind fields, FailsOnly (Blames (.body kind) (.object fields) site)
        (readEntry limit levels site (Kind.raw kind fields)) := by
      intro site kind fields
      cases levels with
      | zero => exact .error (.depth limit)
      | succ below =>
        rw [Kind.raw, readEntry_tagged, Kind.ofTag?_tag]
        exact blames_run (ih below (by omega)) (ih (below - 1) (by omega))
    have object : ∀ site fields, FailsOnly (Blames .record (.object fields) site)
        (readEntry limit levels site (.object fields)) :=
      fun site fields => blames_object (body site)
    refine ⟨fun site raw => ?_, fun site raw => ?_, body⟩
    · cases raw with
      | object fields =>
        refine (object site fields).blames_whole .recordEntry fun misfit => ?_
        cases misfit with
        | record other => exact absurd rfl (other fields)
        | recordTag length => exact .entryTag length
      | array items =>
        rw [readEntry_array]
        cases levels with
        | zero => exact .error (.depth limit)
        | succ below =>
          refine .map (.mapM fun item mem => ?_)
          exact ((ih below (by omega)).entry site item).blames_whole (.arrayEntry mem)
            (.inEntry mem)
      | null =>
        rw [readEntry_eq]
        exact .error Place.Misfit.null.blames
      | bool | string =>
        rw [readEntry_eq]
        exact .ok _
      | number value =>
        rw [readEntry_eq]
        cases value <;> exact .ok _
    · cases raw with
      | object fields => exact object site fields
      | null | bool | number | string | array => exact .error (Place.Misfit.record (by simp)).blames

end Reading

/-! ## Building -/

/-- A part of a parse result that is read as a statement: the place as which it is read, and the
site that is named when it is not of the right shape. -/
inductive StatementPart : Json → Place → Json → Site → Prop where
  /-- A value that is neither an array nor holds `stmts` is the only statement. -/
  | single {raw : Json} : (∀ items, raw ≠ .array items) →
      (∀ fields, raw = .object fields → fields.lookup "stmts" = none) →
      StatementPart raw .record raw .root
  | entry {items : List Json} {item : Json} : item ∈ items →
      StatementPart (.array items) .entry item .root
  | tagged {fields : Fields} {stmts : List Json} {stmt : Json} :
      fields.lookup "stmts" = some (.array stmts) → stmt ∈ stmts →
      (∀ body, stmt = .object body → Fields.has body "stmt" = false) →
      StatementPart (.object fields) .record stmt .stmts
  | untagged {fields body : Fields} {stmts : List Json} :
      fields.lookup "stmts" = some (.array stmts) → .object body ∈ stmts →
      body.has "stmt" = true → StatementPart (.object fields) (.body .rawStmt) (.object body) .stmts

/-- What an error says of a parse result is so: its `stmts` are not an array, or the error is to be
blamed on a statement. -/
inductive BlamesStatement (raw : Json) (e : BuildError) : Prop where
  | notArray {fields : Fields} {held : Json} : raw = .object fields →
      fields.lookup "stmts" = some held → (∀ items, held ≠ .array items) →
      e = .malformed .stmts .array → BlamesStatement raw e
  | part {place : Place} {part : Json} {site : Site} : StatementPart raw place part site →
      Blames place part site e → BlamesStatement raw e

namespace Builder

variable {b : Builder} {raw : Json}

/-- What fails a build is blamed on a value in the raw tree. -/
theorem blames_build : FailsOnly (Blames .record raw .root) (b.build raw) := by
  unfold build
  split
  · exact .ok _
  · exact .map ((accountable _ _).record _ _)

/-- What fails a list of statements is blamed on the value that should list them, on an entry of the
list, or on a value in one of the entries. -/
theorem blames_statements : FailsOnly (BlamesStatement raw) (b.statements raw) := by
  unfold statements
  split
  next items =>
    refine .mapM fun item mem => ?_
    exact ((accountable _ _).entry _ _).imp fun _ blames => .part (.entry mem) blames
  next fields =>
    split
    next stmts found =>
      refine .mapM fun stmt mem => ?_
      rw [statement_eq]
      by_cases untagged : ∃ body, stmt = .object body ∧ Fields.has body "stmt" = true
      · obtain ⟨body, rfl, has⟩ := untagged
        have read : tagged (.object body) = Kind.rawStmt.raw body := if_pos has
        rw [read]
        refine FailsOnly.imp ?_ fun _ blames => .part (.untagged found mem has) blames
        exact (accountable _ _).body _ _ _
      · have bare : ∀ body, stmt = .object body → Fields.has body "stmt" = false :=
          fun body e => Bool.eq_false_iff.mpr fun has => untagged ⟨body, e, has⟩
        have read : tagged stmt = stmt := by
          unfold tagged
          split
          next body => exact if_neg (by simp [bare body rfl])
          next => rfl
        rw [read]
        exact ((accountable _ _).record _ _).imp fun _ blames =>
          .part (.tagged found mem bare) blames
    next held other found =>
      exact .error (.notArray rfl found (fun items e => other items e) rfl)
    next missing =>
      refine .map (blames_build.imp fun _ blames => .part (.single nofun ?_) blames)
      rintro _ ⟨⟩
      exact missing
  next notArray notObject =>
    refine .map (blames_build.imp fun _ blames => .part (.single notArray ?_) blames)
    exact fun fields e => absurd e (notObject fields)

/-- **An error names a real culprit**: when a record or the statements of a parse result cannot be
built, what the error says is so of the raw value; and text is not spoken of. -/
theorem blames_of_error (b : Builder) (raw : Json) :
    (∀ e, b.build raw = .error e → e ≠ .invalidJson ∧ Blames .record raw .root e) ∧
      ∀ e, b.statements raw = .error e → e ≠ .invalidJson ∧ BlamesStatement raw e := by
  refine ⟨fun e failed => ?_, fun e failed => ?_⟩
  · have blames := blames_build e failed
    refine ⟨?_, blames⟩
    rintro rfl
    cases blames
  · have blames := blames_statements e failed
    refine ⟨?_, blames⟩
    rintro rfl
    cases blames with
    | notArray _ _ _ other => cases other
    | part _ blames => cases blames

/-- `f(1)` as a raw tree, where the number is written as a text. -/
def quotedNumber : Json :=
  Kind.funcCall.raw [("args", .array [Kind.aConst.raw [("ival", .object [("ival", .string "1")])]])]

/-- The untagged record of the number is to blame, and its kind is named, both for the call on its
own and for the call as the body of a statement. -/
theorem blames_quotedNumber :
    standard.build quotedNumber = .error (.malformed ⟨"Integer", "ival"⟩ .integer) ∧
      Blames .record quotedNumber .root (.malformed ⟨"Integer", "ival"⟩ .integer) ∧
      standard.statements (.object [("stmts", .array [.object [("stmt", quotedNumber)]])]) =
        .error (.malformed ⟨"Integer", "ival"⟩ .integer) ∧
      BlamesStatement (.object [("stmts", .array [.object [("stmt", quotedNumber)]])])
        (.malformed ⟨"Integer", "ival"⟩ .integer) := by
  have call : standard.build quotedNumber = .error (.malformed ⟨"Integer", "ival"⟩ .integer) := rfl
  have listed : standard.statements
      (.object [("stmts", .array [.object [("stmt", quotedNumber)]])]) =
        .error (.malformed ⟨"Integer", "ival"⟩ .integer) := rfl
  exact ⟨call, ((blames_of_error standard _).1 _ call).2, listed,
    ((blames_of_error standard _).2 _ listed).2⟩

end Builder

end SqlTree
