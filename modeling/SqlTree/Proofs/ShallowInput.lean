import SqlTree.Proofs.ErrorOrigins
import SqlTree.Proofs.JsonNesting
import SqlTree.Proofs.RawChanges

/-!
# Raw trees within the limit

A raw value that nests at most one level deeper than the limit is never refused for its depth
(`Builder.ne_depthExceeded`). Reading a record takes one level of the limit for two objects, the one
with the tag and the one with the fields; a bare array takes one level for itself; and what is
written without a tag, the value of a constant or the body of a statement, takes a level for one
object. So a value has enough levels when it nests no deeper than they are, or one deeper unless it
is an array (`Json.levels`), and the induction on the levels keeps to that.

A text is never refused for its depth under the standard settings either, if it is read with a
reader that refuses what nests too deep. The reader is a parameter here, of which nothing else is
asked (`ReadsShallow`); `Json.read?` is such a reader.
-/

namespace SqlTree

/-- An error that is not about depth. -/
def BuildError.NotDepth (e : BuildError) : Prop := ∀ limit, e ≠ .depthExceeded limit

theorem BuildError.notDepth_malformed {site : Site} {expected : Expectation} :
    (malformed site expected).NotDepth := nofun

/-- How many levels are enough for reading a value. -/
def Json.levels : Json → Nat
  | .array items => (Json.array items).nesting
  | raw => raw.nesting - 1

/-- A value takes no more levels than it nests. -/
theorem Json.levels_le_nesting (raw : Json) : raw.levels ≤ raw.nesting := by
  unfold levels
  split <;> omega

section Levels

variable {limit below : Nat} {site : Site} {raw : Json}

open FailsOnly

/-- What is read with enough levels left is not refused for its depth. -/
def ReadsWithin (limit levels : Nat) : Prop :=
  ∀ site raw, raw.levels ≤ levels → FailsOnly BuildError.NotDepth (readEntry limit levels site raw)

/-- A value that has to be a record may nest one level deeper than the levels left. -/
theorem ReadsWithin.record (reads : ReadsWithin limit below) (fits : raw.nesting ≤ below + 1) :
    FailsOnly BuildError.NotDepth (readRecord (readEntry limit below) site raw) := by
  unfold readRecord
  split
  next fields =>
    refine reads site (.object fields) ?_
    show (Json.object fields).nesting - 1 ≤ below
    omega
  next => exact .error BuildError.notDepth_malformed

/-- The slots of a sub-list nest less deep than the sub-list. -/
theorem nesting_lt_of_mem_slots {slots : List Json} {slot : Json}
    (found : subListSlots site raw = .ok slots) (mem : slot ∈ slots) :
    slot.nesting < raw.nesting := by
  unfold subListSlots at found
  split at found
  next =>
    cases found
    exact Json.nesting_lt_of_mem mem
  next fields =>
    split at found
    next body list =>
      split at found
      next =>
        cases found
        cases mem
      next items =>
        cases found
        have outer := Json.nesting_lt_of_lookup list
        have inner := Json.nesting_lt_of_lookup (Fields.lookup_of_value? items)
        have slot := Json.nesting_lt_of_mem mem
        omega
      next => cases found
    next => cases found
  next => cases found

/-- The answer to a question about a record with `below` levels left under it is not refused for
its depth when the fields nest no deeper than that. -/
theorem Query.notDepth_answer {tag : String} {fields : Fields} (query : Query)
    (entry : ReadsWithin limit below) (slot : ReadsWithin limit (below - 1))
    (fits : (Json.object fields).nesting ≤ below + 1) :
    FailsOnly BuildError.NotDepth (query.answer tag fields (nestedReaders limit below)) := by
  have value {field : String} {raw : Json} (found : fields.value? field = some raw) :
      raw.nesting ≤ below := by
    have := Json.nesting_lt_of_lookup (Fields.lookup_of_value? found)
    omega
  cases query with
  | present field => exact .ok _
  | string | integer | flag | spelling =>
    simp only [answer]
    split <;> first | exact .ok _ | exact .error BuildError.notDepth_malformed
  | child field =>
    simp only [answer]
    split
    next => exact .ok _
    next raw found =>
      have := value found
      exact .map (entry.record (by omega))
  | untagged field kind =>
    simp only [answer]
    split
    next body found =>
      -- The tag that is not written is an object of its own.
      rw [nestedReaders_fields, ← readEntry_record .root]
      refine entry _ _ ?_
      have := value found
      show (Json.object [(kind.tag, .object body)]).nesting - 1 ≤ below
      have tagged : (Json.object [(kind.tag, .object body)]).nesting ≤ below + 1 :=
        Json.nesting_object_le_iff.mpr (by simpa using this)
      omega
    next => exact .error BuildError.notDepth_malformed
  | children field =>
    simp only [answer]
    split
    next => exact .ok _
    next items found =>
      refine .mapM fun item mem => entry _ _ ?_
      have := value found
      have := Json.nesting_lt_of_mem mem
      have := item.levels_le_nesting
      omega
    next => exact .error BuildError.notDepth_malformed
  | sparseLists field =>
    simp only [answer]
    split
    next => exact .ok _
    next lists found =>
      refine .mapM fun list mem => ?_
      refine FailsOnly.bind ?_ fun slots told => .mapM fun raw kept => ?_
      · unfold subListSlots
        repeat' split
        all_goals first | exact .ok _ | exact .error BuildError.notDepth_malformed
      · rw [nestedReaders_slot]
        refine slot.record ?_
        have := value found
        have := Json.nesting_lt_of_mem mem
        have := nesting_lt_of_mem_slots told (List.mem_of_mem_filter kept)
        omega
    next => exact .error BuildError.notDepth_malformed

/-- **Enough levels are enough**: reading is within them at whatever limit and with whatever levels
are left. -/
theorem readsWithin (limit levels : Nat) : ReadsWithin limit levels := by
  induction levels using Nat.strongRecOn with
  | ind levels ih =>
    intro site raw fits
    by_cases record : ∃ tag fields, raw = .object [(tag, .object fields)]
    · obtain ⟨tag, fields, rfl⟩ := record
      have outer : (Json.object fields).nesting < (Json.object [(tag, .object fields)]).nesting :=
        Json.nesting_lt_of_lookup (List.lookup_cons_self)
      have inner : 1 ≤ (Json.object fields).nesting := Json.one_le_nesting_object
      change (Json.object [(tag, .object fields)]).nesting - 1 ≤ levels at fits
      obtain ⟨below, rfl⟩ : ∃ below, levels = below + 1 := ⟨levels - 1, by omega⟩
      rw [readEntry_tagged]
      split
      next => exact .error nofun
      next kind known =>
        refine Decoder.failsOnly_run kind.decoder.failsBy_anything (fun _ _ _ => trivial)
          (fun query _ _ => ?_) fun _ _ _ => nofun
        refine query.notDepth_answer (ih below (by omega)) (ih (below - 1) (by omega)) ?_
        omega
    · by_cases array : ∃ items, raw = .array items
      · obtain ⟨items, rfl⟩ := array
        change (Json.array items).nesting ≤ levels at fits
        have inner : 1 ≤ (Json.array items).nesting := Json.one_le_nesting_array
        obtain ⟨below, rfl⟩ : ∃ below, levels = below + 1 := ⟨levels - 1, by omega⟩
        rw [readEntry_array]
        refine .map (.mapM fun item mem => ih below (by omega) site item ?_)
        have part := Json.nesting_lt_of_mem mem
        have := item.levels_le_nesting
        omega
      · rw [readEntry_eq]
        split
        case h_1 tag fields => exact absurd ⟨tag, fields, rfl⟩ record
        case h_4 items => exact absurd ⟨items, rfl⟩ array
        all_goals first | exact .ok _ | exact .error nofun

end Levels

/-! ## Readers of text -/

/-- What a reader makes of a text nests no deeper than a bound. -/
def ReadsShallow (read : String → Option Json) (bound : Nat) : Prop :=
  ∀ text raw, read text = some raw → raw.nesting ≤ bound

/-- A reader that keeps to a bound keeps to a higher one. -/
theorem ReadsShallow.mono {read : String → Option Json} {bound bound' : Nat}
    (shallow : ReadsShallow read bound) (le : bound ≤ bound') : ReadsShallow read bound' :=
  fun text raw found => Nat.le_trans (shallow text raw found) le

/-- The reader of JSON refuses what nests deeper than its limit. -/
theorem Json.readsShallow_read? : ReadsShallow read? nestingLimit :=
  fun _ _ => nesting_le_of_readWithin?

/-! ## Builders -/

namespace Builder

variable {b : Builder} {raw : Json}

/-- A build does not fail for the depth of a value that nests at most one deeper than the limit. -/
theorem notDepth_build (fits : raw.nesting ≤ b.config.maxDepth + 1) :
    FailsOnly BuildError.NotDepth (b.build raw) := by
  unfold build
  split
  · exact .ok _
  · exact .map ((readsWithin _ _).record fits)

/-- A body that is written without its tag nests one level less deep than it is read. -/
theorem nesting_tagged_le (stmt : Json) : (tagged stmt).nesting ≤ stmt.nesting + 1 := by
  unfold tagged
  split
  next fields =>
    split
    next => exact Json.nesting_object_le_iff.mpr (by simp)
    next => exact Nat.le_succ _
  next => exact Nat.le_succ _

/-- A list of statements does not fail for the depth of a value that nests at most one deeper than
the limit. -/
theorem notDepth_statements (fits : raw.nesting ≤ b.config.maxDepth + 1) :
    FailsOnly BuildError.NotDepth (b.statements raw) := by
  unfold statements
  split
  next items =>
    refine .mapM fun item mem => readsWithin _ _ _ _ ?_
    have := Json.nesting_lt_of_mem mem
    have := item.levels_le_nesting
    omega
  next fields =>
    split
    next stmts found =>
      refine .mapM fun stmt mem => ?_
      rw [statement_eq]
      refine (readsWithin _ _).record ?_
      have := Json.nesting_lt_of_lookup found
      have := Json.nesting_lt_of_mem mem
      have := nesting_tagged_le stmt
      omega
    next => exact .error BuildError.notDepth_malformed
    next => exact .map (notDepth_build fits)
  next => exact .map (notDepth_build fits)

/-- A text does not fail for its depth when what the reader returns nests at most one deeper than
the limit. -/
theorem notDepth_buildText {read : String → Option Json} {text : String}
    (shallow : ReadsShallow read (b.config.maxDepth + 1)) :
    FailsOnly BuildError.NotDepth (b.buildText text read) := by
  unfold buildText
  split
  next found => exact notDepth_build (shallow text _ found)
  next => exact .error nofun

/-- **A raw value that nests at most one level deeper than the limit is never refused for its
depth**, whether one record is built or the statements of a parse result. So no text is, under a
limit of 126 or more, when it is read with a reader that makes nothing of it that nests more than
127 levels deep. -/
theorem ne_depthExceeded (b : Builder) :
    (∀ raw, raw.nesting ≤ b.config.maxDepth + 1 → ∀ limit,
      b.build raw ≠ .error (.depthExceeded limit) ∧
        b.statements raw ≠ .error (.depthExceeded limit)) ∧
      ∀ read, ReadsShallow read 127 →
        (126 ≤ b.config.maxDepth →
          ∀ text limit, b.buildText text read ≠ .error (.depthExceeded limit)) ∧
        ∀ text limit, Node.ofText text read ≠ .error (.depthExceeded limit) := by
  refine ⟨fun raw fits limit => ⟨?_, ?_⟩, fun read shallow => ⟨?_, ?_⟩⟩
  · exact fun failed => notDepth_build fits _ failed limit rfl
  · exact fun failed => notDepth_statements fits _ failed limit rfl
  · intro large text limit failed
    exact notDepth_buildText (shallow.mono (Nat.succ_le_succ large)) _ failed limit rfl
  · intro text limit failed
    have read : FailsOnly BuildError.NotDepth (standard.buildText text read) :=
      notDepth_buildText (shallow.mono (by decide))
    have tree : FailsOnly BuildError.NotDepth (Node.ofText _ _) := read.bind fun found _ => by
      cases found with
      | none => exact .error nofun
      | some node => exact .ok node
    exact tree _ failed limit rfl

/-- `1` as a raw tree, with the fields of the number left out. -/
def bareConstant : Json := Kind.aConst.raw [("ival", .object [])]

/-- The constant nests three levels deep. A limit of two is enough for it and a limit of one is not;
and a limit of 126 is enough for every text that is read as JSON. -/
theorem ne_depthExceeded_bareConstant :
    bareConstant.nesting = 3 ∧ (∃ n, build ⟨⟨2⟩⟩ bareConstant = .ok n) ∧
      build ⟨⟨1⟩⟩ bareConstant = .error (.depthExceeded 1) ∧
      (∀ limit, build ⟨⟨2⟩⟩ bareConstant ≠ .error (.depthExceeded limit)) ∧
      (∀ text limit, buildText ⟨⟨126⟩⟩ text Json.read? ≠ .error (.depthExceeded limit)) ∧
      ∀ text limit, Node.ofText text Json.read? ≠ .error (.depthExceeded limit) := by
  have nests : bareConstant.nesting = 3 := rfl
  have texts := (ne_depthExceeded ⟨⟨126⟩⟩).2 Json.read? Json.readsShallow_read?
  refine ⟨nests, ⟨_, rfl⟩, rfl, fun limit => ?_, texts.1 (Nat.le_refl 126), texts.2⟩
  exact ((ne_depthExceeded ⟨⟨2⟩⟩).1 bareConstant (Nat.le_of_eq nests) limit).1

end Builder

end SqlTree
