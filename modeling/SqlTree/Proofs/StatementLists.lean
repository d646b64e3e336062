import SqlTree.Proofs.RawChanges

/-!
# Lists of statements

The statements of a parse result come in two envelopes: as an array of records, or as the entries of
`stmts` in an object, where the body of a `RawStmt` may stand without its tag. Once each body is put
under its tag (`StandsFor`), the two envelopes agree (`Builder.statements_of_envelope`): the same
trees are built, one for each entry and each as the entry is built for itself, or the first entry
that is not built fails both with its error. Only where that entry is not a record with a single tag
does the error tell the envelopes apart, by the field that it names at the root.

An array of statements may be cut in two anywhere: the statements of the parts are built one part
after the other.
-/

namespace SqlTree

/-- Errors that are the same but for the field that they name at the root. -/
inductive BuildError.SameButRootField : BuildError → BuildError → Prop where
  | same (e : BuildError) : SameButRootField e e
  | malformed (field field' : String) (expected : Expectation) :
      SameButRootField (.malformed ⟨Site.rootTag, field⟩ expected)
        (.malformed ⟨Site.rootTag, field'⟩ expected)

instance : Std.Refl BuildError.SameButRootField := ⟨.same⟩

/-- An entry of `stmts` stands for a record: with a key `stmt` for the `RawStmt` whose fields it is,
and otherwise for itself. -/
inductive StandsFor : Json → Json → Prop where
  | body {fields : Fields} : fields.has "stmt" = true →
      StandsFor (.object fields) (Kind.rawStmt.raw fields)
  | record {fields : Fields} : fields.has "stmt" = false →
      StandsFor (.object fields) (.object fields)

namespace Builder

variable {b : Builder}

/-- An entry that stands for a statement is read as that statement. -/
theorem tagged_eq_of_standsFor {raw record : Json} (h : StandsFor raw record) :
    tagged raw = record := by
  cases h with
  | body has => rw [tagged, if_pos has]; rfl
  | record has => rw [tagged, if_neg (by simp [has])]

/-- A record is read alike as an entry of an array and as one of `stmts`. -/
theorem agree_entry_of_standsFor {raw record : Json} (h : StandsFor raw record) :
    Agree BuildError.SameButRootField (b.entry .root record) (b.statement raw) := by
  have alike : Agree BuildError.SameButRootField (b.entry .root record) (b.entry .stmts record) :=
    ReadAlike.refl record _ _ _ _ fun expected => .malformed "" "stmts" expected
  rw [statement_eq, tagged_eq_of_standsFor h]
  cases h with
  | body => exact alike
  | record => exact alike

/-- What entries stand for is built as it is read at the outermost level. -/
theorem build_eq_of_standsFor {entries records : List Json}
    (standing : List.Forall₂ StandsFor entries records) :
    ∀ record ∈ records, b.build record = some <$> b.entry .root record := by
  induction standing with
  | nil => exact List.forall_mem_nil _
  | cons first _ ih =>
    refine List.forall_mem_cons.mpr ⟨?_, ih⟩
    cases first with
    | body => rfl
    | record => rfl

/-- **Statements are built alike in both envelopes.** Let every entry of `stmts` stand for a record.
Then the object and the array of the records have the same trees, one for each record and as it is
built for itself; or the first record that is not built fails both, the array with the very error of
the record, the object with the same but for the field at the root. An array in two parts has the
trees of both, and an error in the first part comes first. -/
theorem statements_of_envelope (b : Builder) :
    (∀ (fields : Fields) (entries records : List Json),
      fields.lookup "stmts" = some (.array entries) → List.Forall₂ StandsFor entries records →
        (∃ nodes, b.statements (.object fields) = .ok nodes ∧
          b.statements (.array records) = .ok nodes ∧
          List.Forall₂ (fun record n => b.build record = .ok (some n)) records nodes) ∨
        ∃ before record after e e', records = before ++ record :: after ∧
          (∀ r ∈ before, ∃ n, b.build r = .ok (some n)) ∧ b.build record = .error e ∧
          b.statements (.array records) = .error e ∧
          b.statements (.object fields) = .error e' ∧ e.SameButRootField e') ∧
      ∀ first second : List Json, b.statements (.array (first ++ second)) = do
        let nodes ← b.statements (.array first)
        let others ← b.statements (.array second)
        return nodes ++ others := by
  refine ⟨?_, fun first second => List.mapM_append⟩
  intro fields entries records found standing
  have object : b.statements (.object fields) =
      entries.mapM b.statement := by
    rw [statements, found]
  have array : b.statements (.array records) = records.mapM (b.entry .root) := rfl
  have alike : Agree BuildError.SameButRootField (b.statements (.array records))
      (b.statements (.object fields)) := by
    rw [object, array]
    exact .mapM (standing.flip.imp fun _ _ h => agree_entry_of_standsFor h)
  have built := build_eq_of_standsFor (b := b) standing
  cases outcome : b.statements (.array records) with
  | ok nodes =>
    refine .inl ⟨nodes, (alike.ok_iff nodes).mp outcome, rfl, ?_⟩
    refine ((List.forall₂_and_left _ _).mpr ⟨built, mapM_eq_ok.mp outcome⟩).imp ?_
    rintro record n ⟨own, read⟩
    rw [own, read]
    rfl
  | error e =>
    obtain ⟨before, record, after, split, earlier, failed⟩ := mapM_eq_error.mp outcome
    obtain ⟨e', failed', related⟩ := alike.exists_error outcome
    refine .inr ⟨before, record, after, e, e', split, ?_, ?_, rfl, failed', related⟩
    · intro r mem
      obtain ⟨n, read⟩ := earlier r mem
      rw [built r (split ▸ List.mem_append_left _ mem), read]
      exact ⟨n, rfl⟩
    · rw [built record (split ▸ List.mem_append_right _ List.mem_cons_self), failed]
      rfl

/-- An object with the given entries of `stmts`, as the result of a parse. -/
def envelope (entries : List Json) : Fields :=
  [("stmts", .array entries), ("version", .number (.integer 130003))]

/-- The body of a `RawStmt`. -/
def stmtBody : Fields := [("stmt", Kind.selectStmt.raw []), ("stmt_len", .number (.integer 8))]

/-- A body without its tag and a query with its tag are built in both envelopes. With an entry that
has no tag at all they fail with errors that differ in the field at the root. -/
theorem statements_of_stmtBody :
    (∃ nodes, nodes.length = 2 ∧
      standard.statements (.object (envelope [.object stmtBody, Kind.selectStmt.raw []])) =
        .ok nodes ∧
      standard.statements (.array [Kind.rawStmt.raw stmtBody, Kind.selectStmt.raw []]) =
        .ok nodes) ∧
      ∃ field, standard.statements (.array [Kind.rawStmt.raw stmtBody, .object []]) =
          .error (.malformed .root .singleTag) ∧
        standard.statements (.object (envelope [.object stmtBody, .object []])) =
          .error (.malformed ⟨Site.rootTag, field⟩ .singleTag) := by
  constructor
  · have listed : standard.statements
        (.array [Kind.rawStmt.raw stmtBody, Kind.selectStmt.raw []]) = .ok _ := rfl
    obtain ⟨nodes, object, array, built⟩ | ⟨_, _, _, _, _, -, -, -, failed, -, -⟩ :=
      (statements_of_envelope standard).1 (envelope [.object stmtBody, Kind.selectStmt.raw []]) _ _
        rfl (.cons (.body rfl) (.cons (.record rfl) .nil))
    · exact ⟨nodes, built.length_eq.symm, object, array⟩
    · exact nomatch listed.symm.trans failed
  · have failed : standard.statements (.array [Kind.rawStmt.raw stmtBody, .object []]) =
        .error (.malformed .root .singleTag) := rfl
    obtain ⟨_, -, array, -⟩ | ⟨_, _, _, _, _, -, -, -, array, object, related⟩ :=
      (statements_of_envelope standard).1 (envelope [.object stmtBody, .object []]) _ _
        rfl (.cons (.body rfl) (.cons (.record rfl) .nil))
    · exact nomatch failed.symm.trans array
    · obtain rfl := Except.error.inj (failed.symm.trans array)
      cases related with
      | same => exact ⟨_, failed, object⟩
      | malformed => exact ⟨_, failed, object⟩

end Builder

end SqlTree
