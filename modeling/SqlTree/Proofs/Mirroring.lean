import SqlTree.Proofs.DecodedFields
import SqlTree.Proofs.RecordKinds

/-!
# Trees mirror what they are built from

A raw value and a node mirror each other (`Mirrors`) when they are the same plain value, when they
are an array and a list whose entries mirror each other one by one, and when they are a record and a
node of the kind that its tag names, whose fields mirror each other in the same sense. So a mirrored
node is of the kind that can be told from the raw value alone (`Json.kind?`), and a sequence of
nodes has one for each entry of the raw array, in the same order (`Mirrors.children`).

Every tree that is built mirrors its raw value (`Builder.mirrors_of_build`), at whatever depth and
under whatever limit. The induction is on the levels of nesting that are left; what one record
contributes is `Kind.decoder_mirrors`.
-/

namespace SqlTree

/-- The kind of node that a raw value stands for: that named by the tag of a record, the kind of
lists for an array, and that of the plain value otherwise. -/
def Json.kind? : Json → Option Kind
  | .object [(tag, .object _)] => Kind.ofTag? tag
  | .array _ => some .list
  | raw => raw.scalar?.map Scalar.kind

/-- The entries of an array; there are none where the field is absent. -/
def Fields.items (fields : Fields) (field : String) : List Json :=
  match fields.value? field with
  | some (.array items) => items
  | _ => []

/-- A node stands for a raw value, and so do the nodes in it for the raw values in that. -/
inductive Mirrors : Json → Node → Prop where
  | scalar {raw : Json} {value : Scalar} : raw.scalar? = some value →
      Mirrors raw (.of (.scalar value))
  | list {items : List Json} {nodes : List Node} : List.Forall₂ Mirrors items nodes →
      Mirrors (.array items) (.of (.list nodes))
  | record {fields : Fields} {n : Node} :
      (∀ entry ∈ n.layer.contents, Content.Mirrors Mirrors (fields.value? entry.1) entry.2) →
      Mirrors (n.kind.raw fields) n

namespace Mirrors

variable {raw : Json} {n : Node} {fields : Fields}

/-- A node is of the kind that can be told from the raw value that it stands for. -/
theorem kind?_eq (h : Mirrors raw n) : raw.kind? = some n.kind := by
  cases h with
  | scalar plain =>
    cases raw with
    | number value => cases value <;> cases plain <;> rfl
    | null | bool | string | array | object => cases plain <;> rfl
  | list => rfl
  | record => exact Kind.ofTag?_tag n.kind

/-- In a record that is mirrored, each field that is read as a sequence has one node for each entry
of the raw array, in the same order. -/
theorem children (h : Mirrors (n.kind.raw fields) n) {field : String}
    (asks : n.kind.decoder.Asks (.children field)) :
    ∃ nodes, (field, .children nodes) ∈ n.layer.contents ∧
      List.Forall₂ Mirrors (fields.items field) nodes := by
  obtain ⟨nodes, held⟩ := Node.mem_contents_of_asks asks
  refine ⟨nodes, held, ?_⟩
  generalize same : n.kind.raw fields = raw at h
  cases h with
  | scalar value =>
    rw [← same] at value
    cases value
  | list => cases same
  | record entries =>
    cases same
    have mirrored := entries _ held
    unfold Fields.items
    generalize fields.value? field = found at mirrored
    cases mirrored with
    | noChildren => exact .nil
    | children entries => exact entries

end Mirrors

/-! ## What is read -/

/-- The answers about a record are mirrored when what is nested in it is. -/
theorem Query.mirrored_of_answer {R : Json → Node → Prop} {tag : String} {fields : Fields}
    {nested : Nested} (yield : nested.Yield R) (query : Query) (answer : query.Answer)
    (answered : query.answer tag fields nested = .ok answer) :
    mirrored R fields query answer := by
  cases query with
  | string | integer | flag | spelling | untagged => trivial
  | present field =>
    cases answered
    rfl
  | child field =>
    simp only [mirrored]
    obtain ⟨missing, rfl⟩ | ⟨raw, n, found, read, rfl⟩ := answer_child_eq_ok.mp answered
    · rw [missing]
      exact .noChild
    · rw [found]
      exact .child (yield.entry _ _ _ (entry_of_readRecord read))
  | children field =>
    simp only [mirrored]
    obtain ⟨missing, rfl⟩ | ⟨items, found, read⟩ := answer_children_eq_ok.mp answered
    · rw [missing]
      exact .noChildren
    · rw [found]
      exact .children ((mapM_eq_ok.mp read).imp fun raw n read => yield.entry _ raw n read)
  | sparseLists field =>
    simp only [mirrored]
    obtain ⟨missing, rfl⟩ | ⟨raws, found, read⟩ := answer_sparseLists_eq_ok.mp answered
    · rw [missing]
      exact .noLists
    · rw [found]
      refine .lists ((mapM_eq_ok.mp read).imp fun raw nodes read => ?_)
      obtain ⟨slots, listed, filled⟩ := bind_eq_ok.mp read
      exact .intro listed ((mapM_eq_ok.mp filled).imp fun raw n read =>
        yield.slot _ raw n (entry_of_readRecord read))

/-- Every value that is read is mirrored. -/
theorem mirrors_of_readEntry {limit levels : Nat} {site : Site} {raw : Json} {n : Node}
    (h : readEntry limit levels site raw = .ok n) : Mirrors raw n := by
  induction levels using Nat.strongRecOn generalizing site raw n with
  | ind levels ih =>
    obtain ⟨value, plain, rfl⟩ | ⟨below, items, nodes, rfl, rfl, read, rfl⟩ |
      ⟨below, kind, fields, rfl, rfl, run⟩ := readEntry_eq_ok h
    · exact .scalar plain
    · exact .list ((mapM_eq_ok.mp read).imp fun _ _ entry => ih below (by omega) entry)
    · obtain rfl : n.kind = kind := kind_of_readEntry_raw h
      refine .record (Decoder.post_of_run n.kind.decoder_mirrors (Query.mirrored_of_answer ?_) run)
      exact nestedReaders_yield fun levels le _ _ _ read => ih levels (by omega) read

/-! ## The kinds of nodes -/

namespace Kind

theorem mem_all (kind : Kind) : kind ∈ all := List.mem_of_find?_eq_some (ofTag?_tag kind)

/-- The fields that a record of a kind cannot do without. -/
def requiredFields : Kind → Fields
  | rawStmt => [("stmt", aStar.raw [])]
  | insertStmt | updateStmt | deleteStmt => [("relation", aStar.raw [])]
  | commonTableExpr => [("ctename", .string ""), ("ctequery", aStar.raw [])]
  | rangeVar => [("relname", .string "")]
  | rangeSubselect => [("subquery", selectStmt.raw [])]
  | joinExpr => [("larg", aStar.raw []), ("rarg", aStar.raw [])]
  | subLink => [("subselect", selectStmt.raw [])]
  | aIndirection => [("arg", aStar.raw [])]
  | float => [("fval", .string "0")]
  | _ => []

/-- There are records of every kind, and they are built. -/
theorem build_requiredFields (kind : Kind) :
    ∃ n, Builder.standard.build (kind.raw kind.requiredFields) = .ok (some n) := by
  cases kind <;> exact ⟨_, rfl⟩

end Kind

/-- The tags that have a decoder are those of the kinds that nodes are of. -/
theorem Registry.mem_kinds_standard {tag : String} :
    tag ∈ standard.kinds ↔ ∃ n : Node, n.kind.tag = tag := by
  have listed : tag ∈ standard.kinds ↔ ∃ kind : Kind, kind.tag = tag := by
    simp [kinds, standard_eq, Kind.mem_all]
  rw [listed]
  constructor
  · rintro ⟨kind, rfl⟩
    obtain ⟨n, built⟩ := kind.build_requiredFields
    exact ⟨n, congrArg Kind.tag (kind_of_readEntry_raw (Builder.entry_of_build built))⟩
  · rintro ⟨n, rfl⟩
    exact ⟨n.kind, rfl⟩

namespace Builder

/-- **A tree mirrors the raw value that it is built from.** The tags that are registered are those
of the kinds that nodes are of; a record is built into a node of the kind that its tag names; and at
every depth a field that is read as a sequence has one node for each entry of the raw array, in the
same order and of the kind that the entry stands for. -/
theorem mirrors_of_build (b : Builder) :
    (∀ tag, tag ∈ Registry.standard.kinds ↔ ∃ n : Node, n.kind.tag = tag) ∧
      (∀ tag fields n, b.build (.object [(tag, .object fields)]) = .ok (some n) →
        n.kind.tag = tag) ∧
      (∀ raw n, b.build raw = .ok (some n) → Mirrors raw n) ∧
      ∀ fields n, Mirrors (n.kind.raw fields) n →
        ∀ field, n.kind.decoder.Asks (.children field) →
          ∃ nodes, (field, .children nodes) ∈ n.layer.contents ∧
            List.Forall₂ (fun entry c => Mirrors entry c ∧ entry.kind? = some c.kind)
              (fields.items field) nodes := by
  refine ⟨fun tag => Registry.mem_kinds_standard, ?_, ?_, ?_⟩
  · intro tag fields n built
    exact (kind_of_readEntry (entry_of_build built)).symm
  · intro raw n built
    exact mirrors_of_readEntry (entry_of_build built)
  · intro fields n mirrored field asks
    obtain ⟨nodes, held, entries⟩ := mirrored.children asks
    exact ⟨nodes, held, entries.imp fun _ _ entry => ⟨entry, entry.kind?_eq⟩⟩

/-- Entries of all sorts. -/
def mixedEntries : List Json :=
  [Kind.aStar.raw [], .array [.string "a", .array []], .bool true, .number (.integer 1),
    .number (.natural Numeral.maxNatural), .string ""]

/-- A row of such entries, as a raw tree. -/
def mixedRow : Json := Kind.rowExpr.raw [("args", .array mixedEntries)]

/-- A row is built when its entries are read one level down. -/
theorem build_row {limit : Nat} {entries : List Json} {nodes : List Node}
    (read : entries.mapM (readEntry (limit + 1) limit ⟨"RowExpr", "args"⟩) = .ok nodes) :
    build ⟨⟨limit + 1⟩⟩ (Kind.rowExpr.raw [("args", .array entries)]) =
      .ok (some (.of (.rowExpr ⟨nodes, [], .explicitCall, none, -1⟩))) := by
  have asked : Query.answer "RowExpr" [("args", .array entries)] (nestedReaders (limit + 1) limit)
      (.children "args") = .ok nodes := read
  refine (congrArg (some <$> ·) Decoder.run_ask).trans ?_
  change some <$> (Query.answer "RowExpr" [("args", .array entries)]
    (nestedReaders (limit + 1) limit) (.children "args") >>= _) = _
  rw [asked]
  rfl

/-- All the entries are read, the number that is no integer of 64 bits by way of its text. -/
theorem exists_mixedRow : ∃ n, (Builder.mk ⟨3⟩).build mixedRow = .ok (some n) := by
  have number : readEntry 3 2 ⟨"RowExpr", "args"⟩ (.number (.natural Numeral.maxNatural)) =
      .ok _ := readEntry_eq _
  exact ⟨_, build_row (mapM_eq_ok.mpr
    (.cons rfl (.cons rfl (.cons rfl (.cons rfl (.cons number (.cons rfl .nil)))))))⟩

/-- A limit of three is just enough for the row. -/
theorem mirrors_of_mixedRow :
    ∃ n nodes, (Builder.mk ⟨3⟩).build mixedRow = .ok (some n) ∧ n.kind.tag = "RowExpr" ∧
      Mirrors mixedRow n ∧ ("args", .children nodes) ∈ n.layer.contents ∧
      List.Forall₂ (fun entry c => Mirrors entry c ∧ entry.kind? = some c.kind) mixedEntries
        nodes := by
  obtain ⟨n, built⟩ := exists_mixedRow
  obtain ⟨-, tagged, mirrored, sequences⟩ := mirrors_of_build (Builder.mk ⟨3⟩)
  have row : n.kind = .rowExpr := kind_of_readEntry_raw (entry_of_build built)
  have asked : n.kind.decoder.Asks (.children "args") := row ▸ .inl rfl
  have whole : Mirrors mixedRow n := mirrored _ n built
  obtain ⟨nodes, held, entries⟩ :=
    sequences [("args", .array mixedEntries)] n (row ▸ whole) "args" asked
  exact ⟨n, nodes, built, tagged _ _ n built, whole, held, entries⟩

end Builder

end SqlTree
