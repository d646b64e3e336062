import Mathlib.Logic.Relation
import SqlTree.Proofs.RawChanges

/-!
# Fields that are not read

Real parser output holds more than is read from it. What a record is read as depends on the fields
that the decoder of its kind may ask for, and on each of these only as far as it is there: a field
that is `null` counts as absent (`Fields.SameOn`). Whatever else the field maps of a raw tree hold
does not matter, however wrong it would be anywhere else, and however deep it nests: a change that
keeps to it changes neither the tree that is built nor the error (`Builder.build_eq_of_unread`).

A change may be made in every map of fields that reading gets to: under a tag, in the untagged
record of a constant, and in a `List` that stands for a sub-list. A tag that names no kind is
refused before anything under it is read.
-/

namespace SqlTree

/-- A field is read under a tag: the tag names a kind whose decoder may ask for the field. -/
def ReadUnder (tag field : String) : Prop :=
  ∃ kind query, Kind.ofTag? tag = some kind ∧ kind.decoder.Asks query ∧ query.field = field

/-- The fields of one record are changed where they are not read. -/
inductive UnreadChange : Place → Json → Json → Prop where
  | record {tag : String} {fields fields' : Fields} : fields.SameOn (ReadUnder tag) fields' →
      UnreadChange .record (.object [(tag, .object fields)]) (.object [(tag, .object fields')])
  /-- A list that stands for a sub-list is taken apart without its decoder. -/
  | subList {before after fields fields' : Fields} :
      fields.SameOn (ReadUnder Kind.list.tag) fields' →
      UnreadChange .subList (.object (before ++ ("List", .object fields) :: after))
        (.object (before ++ ("List", .object fields') :: after))

/-- It is enough to look at the questions about a kind. -/
theorem Fields.sameOn_of_askedBy {kind : Kind} {fields fields' : Fields}
    (same : ∀ query ∈ Query.askedBy kind,
      fields.value? query.field = fields'.value? query.field) :
    fields.SameOn (ReadUnder kind.tag) fields' := by
  rintro field ⟨named, query, known, asks, rfl⟩
  obtain rfl : kind = named := by simpa [Kind.ofTag?_tag] using known
  exact same query (Decoder.asksOnly_askedBy kind query asks)

/-- The slots of a sub-list are the same when its items are. -/
theorem subListSlots_congr {site : Site} {before after fields fields' : Fields}
    (same : fields.value? "items" = fields'.value? "items") :
    subListSlots site (.object (before ++ ("List", .object fields) :: after)) =
      subListSlots site (.object (before ++ ("List", .object fields') :: after)) := by
  obtain unchanged | ⟨-, found, found'⟩ :=
    Fields.lookup_change before after "List" "List" (.object fields) (.object fields')
  · simp only [subListSlots, unchanged]
  · simp only [subListSlots, found, found', same]

/-- A change to what is not read is not noticed. -/
theorem UnreadChange.alike {place : Place} {raw raw' : Json} (h : UnreadChange place raw raw') :
    place.Alike Eq raw raw' := by
  cases h with
  | @record tag _ _ same =>
    refine ⟨⟨_, _, rfl⟩, ⟨_, _, rfl⟩, readAlike_tagged fun kind known limit below => ?_⟩
    have read : kind.decoder.AsksOnly fun query => ReadUnder tag query.field :=
      fun query asks => ⟨kind, query, known, asks, rfl⟩
    rw [Decoder.run_congr same read]
    exact .refl _
  | subList same =>
    intro limit levels site site' sites
    have items := same "items" ⟨.list, .children "items", rfl, .inl rfl, rfl⟩
    exact agree_readSubList sites (subListSlots_congr items)

namespace Builder

/-- **Fields that are not read do not matter**: however the field maps of a raw tree are changed
beside the fields that are read, and whether or not fields that are absent are written as `null`,
what is built is the same under each limit, the tree or the error. -/
theorem build_eq_of_unread {raw raw' : Json}
    (changes : Relation.ReflTransGen (ChangedAt UnreadChange .record) raw raw') (b : Builder) :
    b.build raw = b.build raw' := by
  -- By induction on the number of changes.
  induction changes with
  | refl => rfl
  | tail _ step ih =>
    have alike := step.alike fun _ _ _ => UnreadChange.alike
    exact ih.trans (agree_build b alike).eq

/-- `SELECT 1 FROM t` as a raw tree, with the given fields of the number and of the relation. -/
def selectOne (number relation : Fields) : Json :=
  Kind.selectStmt.raw
    [("targetList", .array [Kind.aConst.raw [("ival", .object number)]]),
      ("fromClause", .array [Kind.rangeVar.raw relation])]

/-- What nothing is built from: it nests deep, holds a `null` among the entries of a list, and has a
tag that names no kind. -/
def debris : Json :=
  Kind.list.raw [("items", .array [.null, Kind.list.raw [("items", .array [Kind.list.raw
    [("items", .array [.object [("Mystery", .object [])]])]])]])]

/-- Under a limit of three a tree is built whatever stands beside the fields of the number and of
the relation. -/
theorem build_selectOne :
    ∃ n, build ⟨⟨3⟩⟩ (selectOne [("ival", .number (.integer 1))]
        [("alias", .null), ("relname", .string "t")]) = .ok (some n) ∧
      build ⟨⟨3⟩⟩ (selectOne [("fval", debris), ("ival", .number (.integer 1))]
        [("inh", .null), ("relname", .string "t"), ("rows", debris)]) = .ok (some n) := by
  have targetList : Kind.selectStmt.decoder.Asks (.children "targetList") :=
    .inr ⟨.code 0, .inr ⟨false, .inr ⟨false, .inr ⟨[], .inr ⟨none, .inl rfl⟩⟩⟩⟩⟩
  have fromClause : Kind.selectStmt.decoder.Asks (.children "fromClause") :=
    .inr ⟨.code 0, .inr ⟨false, .inr ⟨false, .inr ⟨[], .inr ⟨none, .inr ⟨[], .inl rfl⟩⟩⟩⟩⟩⟩
  have payload : Kind.aConst.decoder.Asks (.untagged "ival" .integer) :=
    .inr ⟨false, .inr ⟨none, .inr ⟨true, .inl rfl⟩⟩⟩
  have ofNumber : Fields.SameOn (ReadUnder Kind.integer.tag) [("ival", .number (.integer 1))]
      [("fval", debris), ("ival", .number (.integer 1))] :=
    Fields.sameOn_of_askedBy (by simp [Query.askedBy, Query.field, Fields.value?, List.lookup_cons])
  have ofRelation : Fields.SameOn (ReadUnder Kind.rangeVar.tag)
      [("alias", .null), ("relname", .string "t")]
      [("inh", .null), ("relname", .string "t"), ("rows", debris)] :=
    Fields.sameOn_of_askedBy (by simp [Query.askedBy, Query.field, Fields.value?, List.lookup_cons])
  have number : ChangedAt UnreadChange .record
      (selectOne [("ival", .number (.integer 1))] [("alias", .null), ("relname", .string "t")])
      (selectOne [("fval", debris), ("ival", .number (.integer 1))]
        [("alias", .null), ("relname", .string "t")]) :=
    @ChangedAt.field _ .selectStmt (.children "targetList") _ [] _ _ _ targetList rfl
      (@ChangedAt.one _ _ [] [] _ _ (.recordEntry
        (@ChangedAt.field _ .aConst (.untagged "ival" .integer) _ [] [] _ _ payload rfl
          (.body (.here (.record ofNumber))))))
  have relation : ChangedAt UnreadChange .record
      (selectOne [("fval", debris), ("ival", .number (.integer 1))]
        [("alias", .null), ("relname", .string "t")])
      (selectOne [("fval", debris), ("ival", .number (.integer 1))]
        [("inh", .null), ("relname", .string "t"), ("rows", debris)]) :=
    @ChangedAt.field _ .selectStmt (.children "fromClause") _ [_] [] _ _ fromClause rfl
      (@ChangedAt.one _ _ [] [] _ _ (.recordEntry (.here (.record ofRelation))))
  have changes := Relation.ReflTransGen.tail (.single number) relation
  have built : build ⟨⟨3⟩⟩ (selectOne [("ival", .number (.integer 1))]
      [("alias", .null), ("relname", .string "t")]) = .ok (some _) := rfl
  exact ⟨_, built, (build_eq_of_unread changes ⟨⟨3⟩⟩).symm.trans built⟩

end Builder

end SqlTree
