import SqlTree.Builder
import SqlTree.Proofs.Containment
import SqlTree.Proofs.DecodedChildren
import SqlTree.Proofs.DoubleText
import SqlTree.Proofs.Outcome

/-!
# Trees that are built

A property is `Buildable` when building keeps it: every plain value has it, a list of nodes that
have it has it, and so does a record of any kind whose nested nodes have it. Such a property holds
of every node that is read from a raw value, at whatever level (`Buildable.readEntry`), and so of
all that a builder gives back (`Buildable.build`, `Buildable.statements`). The induction over the
levels of nesting is made here, once, and nothing is asked about the raw value.

A property of single records holds everywhere in the trees that are built as soon as each decoder
ensures it whatever the answers are (`Buildable.everywhere`).
-/

namespace SqlTree

/-- Building keeps a property of nodes. -/
structure Buildable (P : Node → Prop) : Prop where
  scalar : ∀ value, P (.of (.scalar value))
  list : ∀ items, (∀ n ∈ items, P n) → P (.of (.list items))
  record : ∀ kind : Kind, kind.decoder.Ensures (Query.among P) P

variable {P : Node → Prop}

/-- A value that has to be a record is read as an entry is. -/
theorem entry_of_readRecord {read : Site → Json → Except BuildError Node} {site : Site}
    {raw : Json} {n : Node} (h : readRecord read site raw = .ok n) : read site raw = .ok n := by
  cases raw <;> first | exact h | cases h

/-! ## What is read -/

section Reading

variable {limit levels below : Nat} {site : Site} {tag : String} {fields : Fields}

/-- Records without their tag are read with as many levels as other values. -/
theorem nestedReaders_fields : (nestedReaders limit levels).fields = readFields limit levels := rfl

/-- A slot of a sparse list takes one level more than other values, if there is one. -/
theorem nestedReaders_slot : (nestedReaders limit levels).slot = readEntry limit (levels - 1) := by
  cases levels <;> rfl

/-- A number is read as the double that it is: its text reads back. -/
theorem readDouble_eq (value : Double) :
    readDouble site value = .ok (.of (.scalar (.float value))) := by
  rw [readDouble, Scalar.float?, Double.parse?_toText]
  rfl

/-- An object with a single tag is read as a record with that tag. -/
theorem readEntry_record (site : Site) :
    readEntry limit levels site (.object [(tag, .object fields)]) =
      readFields limit levels tag fields := by
  cases levels <;> rfl

/-- A record with a level left is read by the decoder of the kind that its tag names. -/
theorem readFields_succ :
    readFields limit (below + 1) tag fields =
      match Kind.ofTag? tag with
      | none => .error (.unrecognized tag)
      | some kind => kind.decoder.run tag fields (nestedReaders limit below) := by
  change readTagged (nestedReaders limit below) tag fields = _
  rw [readTagged, Registry.lookup_standard]
  cases Kind.ofTag? tag <;> rfl

/-- A record is read by the decoder of the kind that its tag names. -/
theorem readEntry_tagged :
    readEntry limit (below + 1) site (.object [(tag, .object fields)]) =
      match Kind.ofTag? tag with
      | none => .error (.unrecognized tag)
      | some kind => kind.decoder.run tag fields (nestedReaders limit below) := by
  rw [readEntry_record, readFields_succ]

/-- Reads the entries of an array, which takes a level of its own. -/
def readItems (limit levels : Nat) (site : Site) (items : List Json) :
    Except BuildError (List Node) :=
  match levels with
  | 0 => .error (.depthExceeded limit)
  | below + 1 => items.mapM (readEntry limit below site)

/-- **How a value is read**, by its form. -/
theorem readEntry_eq (raw : Json) :
    readEntry limit levels site raw =
      match raw with
      | .object [(tag, .object fields)] => readFields limit levels tag fields
      | .object [(tag, _)] => .error (.malformed ⟨tag, ""⟩ .fieldMap)
      | .object _ => .error (.malformed site .singleTag)
      | .array items => (fun nodes => .of (.list nodes)) <$> readItems limit levels site items
      | .string text => .ok (.of (.scalar (.string text)))
      | .bool value => .ok (.of (.scalar (.boolean value)))
      | .number (.integer value) => .ok (.of (.scalar (.integer value)))
      | .number (.natural value) => .ok (.of (.scalar (.float (.ofNat value))))
      | .number (.double value) => .ok (.of (.scalar (.float value)))
      | .null => .error (.malformed site .noNulls) := by
  have read : readEntry limit levels site raw =
      readValue (readFields limit levels) (readItems limit levels) site raw := by
    cases levels <;> rfl
  rw [read]
  unfold readValue
  cases raw with
  | number value =>
    cases value with
    | integer => rfl
    | natural | double => exact readDouble_eq _
  | object fields =>
    match fields with
    | [] => rfl
    | [(_, body)] | (_, body) :: _ :: _ => cases body <;> rfl
  | null | bool | string | array => rfl

/-- An array is a list of values, and takes a level of its own. -/
theorem readEntry_array (items : List Json) :
    readEntry limit levels site (.array items) =
      (fun nodes => .of (.list nodes)) <$> readItems limit levels site items :=
  readEntry_eq (.array items)

end Reading

/-! ## Answers -/

namespace Query

variable {tag field : String} {fields : Fields} {nested : Nested}

/-- The answer about a nested record: there is none, or what is there is read as a record. -/
theorem answer_child_eq_ok {value : Option Node} :
    answer tag fields nested (.child field) = .ok value ↔
      (fields.value? field = none ∧ value = none) ∨
        ∃ raw n, fields.value? field = some raw ∧
          readRecord nested.entry ⟨tag, field⟩ raw = .ok n ∧ value = some n := by
  cases found : fields.value? field with
  | none => simp [answer, found, eq_comm]
  | some raw => simp [answer, found, map_eq_ok, @eq_comm _ _ value]

/-- The answer about a record without its tag: its fields are there and are read. -/
theorem answer_untagged_eq_ok {kind : Kind} {n : Node} :
    answer tag fields nested (.untagged field kind) = .ok n ↔
      ∃ body, fields.value? field = some (.object body) ∧ nested.fields kind.tag body = .ok n := by
  simp only [answer]
  split
  next found => simp [found]
  next other => simpa using fun body found => (other body found).elim

/-- The answer about a sequence: there is none, or each entry of the array is read. -/
theorem answer_children_eq_ok {nodes : List Node} :
    answer tag fields nested (.children field) = .ok nodes ↔
      (fields.value? field = none ∧ nodes = []) ∨
        ∃ items, fields.value? field = some (.array items) ∧
          items.mapM (nested.entry ⟨tag, field⟩) = .ok nodes := by
  simp only [answer]
  split
  next missing => simp [missing, eq_comm]
  next found => simp [found]
  next other found => simpa [found] using fun raws array => (other raws array).elim

/-- The answer about a sequence of sequences: there is none, or each sub-list of the array is
read. -/
theorem answer_sparseLists_eq_ok {lists : List (List Node)} :
    answer tag fields nested (.sparseLists field) = .ok lists ↔
      (fields.value? field = none ∧ lists = []) ∨
        ∃ raws, fields.value? field = some (.array raws) ∧
          raws.mapM (readSubList nested ⟨tag, field⟩) = .ok lists := by
  simp only [answer]
  split
  next missing => simp [missing, eq_comm]
  next found => simp [found]
  next other found => simpa [found] using fun raws array => (other raws array).elim

end Query

/-! ## What readers give -/

/-- Whatever the readers for nested values give stands in a relation to the raw value. -/
structure Nested.Yield (nested : Nested) (R : Json → Node → Prop) : Prop where
  fields : ∀ tag fields n, nested.fields tag fields = .ok n → R (.object [(tag, .object fields)]) n
  entry : ∀ site raw n, nested.entry site raw = .ok n → R raw n
  slot : ∀ site raw n, nested.slot site raw = .ok n → R raw n

/-- It is enough to look at entries that are read with no more levels left than the readers have. -/
theorem nestedReaders_yield {limit below : Nat} {R : Json → Node → Prop}
    (read : ∀ levels ≤ below, ∀ site raw n, readEntry limit levels site raw = .ok n → R raw n) :
    (nestedReaders limit below).Yield R where
  fields _ _ n h := read below (Nat.le_refl _) .root _ n ((readEntry_record .root).trans h)
  entry := read below (Nat.le_refl _)
  slot := nestedReaders_slot ▸ read (below - 1) (Nat.sub_le _ _)

/-- The nodes in an answer come from the readers of nested values. -/
theorem Query.among_of_answer {tag : String} {fields : Fields} {nested : Nested}
    (yield : nested.Yield fun _ n => P n) (query : Query) (answer : query.Answer)
    (answered : query.answer tag fields nested = .ok answer) : among P query answer := by
  cases query with
  | present | string | integer | flag | spelling => simp [among, nodes]
  | child field =>
    obtain ⟨-, rfl⟩ | ⟨raw, n, -, read, rfl⟩ := answer_child_eq_ok.mp answered
    · simp [among, nodes]
    · simpa [among, nodes] using yield.entry _ _ _ (entry_of_readRecord read)
  | untagged field kind =>
    obtain ⟨body, -, read⟩ := answer_untagged_eq_ok.mp answered
    simpa [among, nodes] using yield.fields _ _ _ read
  | children field =>
    obtain ⟨-, rfl⟩ | ⟨items, -, read⟩ := answer_children_eq_ok.mp answered
    · simp [among, nodes]
    · exact forall_of_mapM_eq_ok read fun raw _ n read => yield.entry _ raw n read
  | sparseLists field =>
    obtain ⟨-, rfl⟩ | ⟨raws, -, read⟩ := answer_sparseLists_eq_ok.mp answered
    · simp [among, nodes]
    · have subLists : ∀ nodes ∈ answer, ∀ n ∈ nodes, P n := by
        refine forall_of_mapM_eq_ok read fun raw _ nodes read => ?_
        obtain ⟨slots, _, filled⟩ := bind_eq_ok.mp read
        exact forall_of_mapM_eq_ok filled fun raw _ n read =>
          yield.slot _ raw n (entry_of_readRecord read)
      intro n hn
      obtain ⟨nodes, hnodes, hn⟩ := List.mem_flatten.mp hn
      exact subLists nodes hnodes n hn

/-- The plain value that a raw value is. -/
def Json.scalar? : Json → Option Scalar
  | .string text => some (.string text)
  | .bool value => some (.boolean value)
  | .number (.integer value) => some (.integer value)
  | .number (.natural value) => some (.float (.ofNat value))
  | .number (.double value) => some (.float value)
  | _ => none

/-- **A value that is read** is a plain value, a list of entries one level down, or a record of a
known kind whose decoder ran over its fields. -/
theorem readEntry_eq_ok {limit levels : Nat} {site : Site} {raw : Json} {n : Node}
    (h : readEntry limit levels site raw = .ok n) :
    (∃ value, raw.scalar? = some value ∧ n = .of (.scalar value)) ∨
      (∃ below items nodes, levels = below + 1 ∧ raw = .array items ∧
        items.mapM (readEntry limit below site) = .ok nodes ∧ n = .of (.list nodes)) ∨
      ∃ below kind fields, levels = below + 1 ∧ raw = .object [(Kind.tag kind, .object fields)] ∧
        kind.decoder.run kind.tag fields (nestedReaders limit below) = .ok n := by
  rw [readEntry_eq] at h
  split at h
  next tag fields =>
    cases levels with
    | zero => cases h
    | succ below =>
      rw [readFields_succ] at h
      cases known : Kind.ofTag? tag with
      | none =>
        rw [known] at h
        cases h
      | some kind =>
        obtain rfl := Kind.ofTag?_eq_some_iff.mp known
        rw [known] at h
        exact .inr (.inr ⟨below, kind, fields, rfl, rfl, h⟩)
  next => cases h
  next => cases h
  next items =>
    obtain ⟨nodes, read, rfl⟩ := map_eq_ok.mp h
    cases levels with
    | zero => cases read
    | succ below => exact .inr (.inl ⟨below, items, nodes, rfl, rfl, read, rfl⟩)
  case h_10 => cases h
  all_goals
    cases h
    exact .inl ⟨_, rfl, rfl⟩

namespace Builder

variable {b : Builder} {raw : Json}

/-- The tree of a record is what is read from it at the outermost level. -/
theorem entry_of_build {n : Node} (h : b.build raw = .ok (some n)) : b.entry .root raw = .ok n := by
  unfold build at h
  split at h
  · cases h
  · obtain ⟨n', read, e⟩ := map_eq_ok.mp h
    cases e
    exact entry_of_readRecord read

/-- The tree of a record is read as an entry at the outermost level. -/
theorem exists_entry_of_build {n : Node} (h : b.build raw = .ok (some n)) :
    ∃ site raw, b.entry site raw = .ok n :=
  ⟨_, _, entry_of_build h⟩

/-- An entry of `stmts` as a tagged record: an object with a key `stmt` is the body of a `RawStmt`,
and any other value stands for itself. -/
def tagged : Json → Json
  | .object fields =>
    if Fields.has fields "stmt" then .object [(Kind.rawStmt.tag, .object fields)]
    else .object fields
  | raw => raw

/-- An entry of `stmts` is built as a record once it has its tag. -/
theorem statement_eq (entry : Json) : b.statement entry = b.record .stmts (tagged entry) := by
  cases entry with
  | object fields =>
    simp only [statement, tagged]
    split
    · exact (readEntry_record .stmts).symm
    · rfl
  | null | bool | number | string | array => rfl

/-- The trees of all statements are read as entries at the outermost level. -/
theorem exists_entry_of_statements {ns : List Node} (h : b.statements raw = .ok ns) :
    ∀ n ∈ ns, ∃ site raw, b.entry site raw = .ok n := by
  have single : ∀ raw, Option.toList <$> b.build raw = .ok ns →
      ∀ n ∈ ns, ∃ site raw, b.entry site raw = .ok n := by
    intro raw h
    obtain ⟨found, built, rfl⟩ := map_eq_ok.mp h
    intro n hn
    obtain rfl : found = some n := by simpa using hn
    exact exists_entry_of_build built
  unfold statements at h
  split at h
  · exact forall_of_mapM_eq_ok h fun _ _ _ entry => ⟨_, _, entry⟩
  · split at h
    · exact forall_of_mapM_eq_ok h fun entry _ _ built =>
        ⟨_, _, entry_of_readRecord ((statement_eq entry).symm.trans built)⟩
    · cases h
    · exact single _ h
  · exact single _ h

end Builder

namespace Buildable

/-- What building keeps holds of every value that is read. -/
theorem readEntry (keeps : Buildable P) {limit levels : Nat} {site : Site} {raw : Json} {n : Node}
    (h : readEntry limit levels site raw = .ok n) : P n := by
  induction levels using Nat.strongRecOn generalizing site raw n with
  | ind levels ih =>
    obtain ⟨value, -, rfl⟩ | ⟨below, items, nodes, rfl, -, read, rfl⟩ |
      ⟨below, kind, fields, rfl, -, run⟩ := readEntry_eq_ok h
    · exact keeps.scalar value
    · have items : ∀ n ∈ nodes, P n :=
        forall_of_mapM_eq_ok read fun _ _ _ entry => ih below (by omega) entry
      exact keeps.list nodes items
    · refine Decoder.post_of_run (keeps.record kind) (Query.among_of_answer ?_) run
      exact nestedReaders_yield fun levels le _ _ _ read => ih levels (by omega) read

/-- What building keeps holds of the tree of a record. -/
theorem build (keeps : Buildable P) {b : Builder} {raw : Json} {n : Node}
    (h : b.build raw = .ok (some n)) : P n := by
  obtain ⟨site, raw, read⟩ := Builder.exists_entry_of_build h
  exact keeps.readEntry read

/-- What building keeps holds of the trees of all statements. -/
theorem statements (keeps : Buildable P) {b : Builder} {raw : Json} {ns : List Node}
    (h : b.statements raw = .ok ns) : ∀ n ∈ ns, P n := by
  intro n hn
  obtain ⟨site, raw, read⟩ := Builder.exists_entry_of_statements h n hn
  exact keeps.readEntry read

/-- A property of single records that every decoder ensures, and that plain values and lists have
anyway, holds everywhere in the trees that are built. -/
theorem everywhere (scalar : ∀ value, P (.of (.scalar value)))
    (list : ∀ items, P (.of (.list items)))
    (record : ∀ kind : Kind, kind.decoder.Ensures Query.anything P) :
    Buildable (Node.Everywhere P) where
  scalar value := Node.everywhere_iff.mpr ⟨scalar value, fun c child => nomatch child⟩
  list items below := Node.everywhere_iff.mpr ⟨list items, below⟩
  record kind := by
    have root : kind.decoder.Ensures (Query.among (Node.Everywhere P)) P :=
      (record kind).mono (fun _ _ _ => trivial) fun _ h => h
    exact (root.and kind.decoder_children).imp fun _ h => Node.everywhere_iff.mpr h

end Buildable

end SqlTree
