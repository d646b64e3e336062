import SqlTree.Proofs.BuiltTrees

/-!
# Raising the depth limit

A raw value is built under two limits, and the outcomes are compared. What the lower limit lets pass
the higher one lets pass too, and every step in between is the same: so a tree, and an error that is
not about depth, is the same under both limits (`Builder.outcome_of_limit_le`). The lower limit can
only put its own depth error in the place of the outcome.

The comparison is made on outcomes (`StableAbove`) and goes through every way to put outcomes
together, so nothing is asked about the forty-five decoders but that they ask questions. The
induction is on the levels that are left under the lower limit.
-/

namespace SqlTree

variable {α β : Type}

/-- An outcome under a limit next to the outcome under a higher limit: they are the same unless the
first one exceeds the depth, and then it exceeds its own limit. -/
structure StableAbove (limit : Nat) (low high : Except BuildError α) : Prop where
  same : (∀ l, low ≠ .error (.depthExceeded l)) → high = low
  limit_eq : ∀ l, low = .error (.depthExceeded l) → l = limit

namespace StableAbove

variable {limit : Nat} {low high : Except BuildError α}

/-- A limit that is exceeded says nothing about a higher limit. -/
theorem exceeded : StableAbove limit (.error (.depthExceeded limit)) high where
  same passed := absurd rfl (passed limit)
  limit_eq l e := by
    cases e
    rfl

/-- An outcome without an error is the same under both limits. -/
theorem ok (a : α) : StableAbove limit (.ok a) (.ok a) :=
  ⟨fun _ => rfl, fun _ e => nomatch e⟩

/-- A malformed value is malformed under both limits. -/
theorem malformed (site : Site) (expected : Expectation) :
    StableAbove (α := α) limit (.error (.malformed site expected))
      (.error (.malformed site expected)) :=
  ⟨fun _ => rfl, fun _ e => nomatch e⟩

/-- A tag that names no kind does so under both limits. -/
theorem unrecognized (tag : String) :
    StableAbove (α := α) limit (.error (.unrecognized tag)) (.error (.unrecognized tag)) :=
  ⟨fun _ => rfl, fun _ e => nomatch e⟩

/-- Either the lower limit is exceeded, or the outcomes are the same. -/
theorem cases (h : StableAbove limit low high) :
    low = .error (.depthExceeded limit) ∨ (∀ l, low ≠ .error (.depthExceeded l)) ∧ high = low := by
  by_cases passed : ∀ l, low ≠ .error (.depthExceeded l)
  · exact .inr ⟨passed, h.same passed⟩
  · left
    simp only [ne_eq, Classical.not_forall, Classical.not_not] at passed
    obtain ⟨l, e⟩ := passed
    rw [e, h.limit_eq l e]

/-- One step after another is stable when each of them is. -/
theorem bind {f g : α → Except BuildError β} (h : StableAbove limit low high)
    (next : ∀ a, StableAbove limit (f a) (g a)) : StableAbove limit (low >>= f) (high >>= g) := by
  obtain e | ⟨passed, e⟩ := h.cases
  · rw [e]
    exact exceeded
  · rw [e]
    cases low with
    | ok a => exact next a
    | error e =>
      refine ⟨fun _ => rfl, fun l same => absurd ?_ (passed l)⟩
      cases same
      rfl

theorem map {f : α → β} (h : StableAbove limit low high) :
    StableAbove limit (f <$> low) (f <$> high) :=
  h.bind fun a => ok (f a)

/-- A list of steps is stable when each of them is. -/
theorem mapM {f g : α → Except BuildError β} {l : List α}
    (step : ∀ a ∈ l, StableAbove limit (f a) (g a)) :
    StableAbove limit (l.mapM f) (l.mapM g) := by
  induction l with
  | nil => exact ok []
  | cons a l ih =>
    rw [List.mapM_cons, List.mapM_cons]
    have rest := ih fun b hb => step b (List.mem_cons_of_mem _ hb)
    exact (step a List.mem_cons_self).bind fun b => rest.bind fun bs => ok (b :: bs)

end StableAbove

/-! ## Reading records -/

section Records

variable {limit : Nat} {low high : Nested}

/-- Readers that are stable on a value are so where the value has to be a record. -/
theorem stable_readRecord {read read' : Site → Json → Except BuildError Node} {site : Site}
    {raw : Json} (h : StableAbove limit (read site raw) (read' site raw)) :
    StableAbove limit (readRecord read site raw) (readRecord read' site raw) := by
  cases raw with
  | object fields => exact h
  | null | bool | number | string | array => exact .malformed site .record

/-- What is nested is read alike by two sets of readers. -/
structure Nested.Stable (limit : Nat) (low high : Nested) : Prop where
  fields : ∀ tag fields, StableAbove limit (low.fields tag fields) (high.fields tag fields)
  entry : ∀ site raw, StableAbove limit (low.entry site raw) (high.entry site raw)
  slot : ∀ site raw, StableAbove limit (low.slot site raw) (high.slot site raw)

/-- A sub-list has the same slots under both limits, and its records are read alike. -/
theorem stable_readSubList {site : Site} {raw : Json} (nested : low.Stable limit high) :
    StableAbove limit (readSubList low site raw) (readSubList high site raw) := by
  have slots : StableAbove limit (subListSlots site raw) (subListSlots site raw) := by
    refine ⟨fun _ => rfl, fun l e => ?_⟩
    unfold subListSlots at e
    repeat' split at e
    all_goals cases e
  exact slots.bind fun found => .mapM fun raw _ => stable_readRecord (nested.slot site raw)

/-- An answer to a question is stable when nested values are read so. The shape of a field is
checked before the values in it, so it counts the same under both limits. -/
theorem Query.stable_answer {tag : String} {fields : Fields} (nested : low.Stable limit high)
    (query : Query) :
    StableAbove limit (query.answer tag fields low) (query.answer tag fields high) := by
  cases query with
  | present field => exact .ok _
  | string field | integer field | flag field | spelling field =>
    simp only [Query.answer]
    split <;> first | exact .ok _ | exact .malformed _ _
  | child field =>
    simp only [Query.answer]
    split
    · exact .ok none
    · exact (stable_readRecord (nested.entry _ _)).map
  | untagged field kind =>
    simp only [Query.answer]
    split
    · exact nested.fields _ _
    · exact .malformed _ _
  | children field =>
    simp only [Query.answer]
    split
    · exact .ok []
    · exact .mapM fun raw _ => nested.entry _ raw
    · exact .malformed _ _
  | sparseLists field =>
    simp only [Query.answer]
    split
    · exact .ok []
    · exact .mapM fun raw _ => stable_readSubList nested
    · exact .malformed _ _

/-- A decoder is stable when the answers to its questions are. -/
theorem Decoder.stable_run {tag : String} {fields : Fields} (d : Decoder α)
    (answers : ∀ query : Query,
      StableAbove limit (query.answer tag fields low) (query.answer tag fields high)) :
    StableAbove limit (d.run tag fields low) (d.run tag fields high) := by
  induction d with
  | done value => exact .ok value
  | fail field expected => exact .malformed _ _
  | ask query next ih =>
    rw [Decoder.run_ask, Decoder.run_ask]
    exact (answers query).bind ih

end Records

/-! ## Entries -/

/-- A value read with more levels left, and under a higher limit, is read alike. -/
theorem stable_readEntry {limit limit' levels levels' : Nat} (le : levels ≤ levels') (site : Site)
    (raw : Json) :
    StableAbove limit (readEntry limit levels site raw) (readEntry limit' levels' site raw) := by
  induction levels using Nat.strongRecOn generalizing levels' site raw with
  | ind levels ih =>
    -- With a level left under the lower limit there is one under the higher limit.
    obtain rfl | ⟨below, below', rfl, rfl⟩ :
        levels = 0 ∨ ∃ below below', levels = below + 1 ∧ levels' = below' + 1 := by
      by_cases none : levels = 0
      · exact .inl none
      · exact .inr ⟨levels - 1, levels' - 1, by omega, by omega⟩
    · rw [readEntry_eq, readEntry_eq]
      split <;> first | exact .exceeded | exact .malformed _ _ | exact .ok _
    · by_cases tagged : ∃ tag fields, raw = .object [(tag, .object fields)]
      · obtain ⟨tag, fields, rfl⟩ := tagged
        rw [readEntry_tagged, readEntry_tagged]
        cases Kind.ofTag? tag with
        | none => exact .unrecognized tag
        | some kind =>
          refine Decoder.stable_run _ (Query.stable_answer ⟨fun tag fields => ?_, ?_, ?_⟩)
          · rw [nestedReaders_fields, nestedReaders_fields, ← readEntry_record .root,
              ← readEntry_record .root]
            exact ih below (by omega) (by omega) _ _
          · exact ih below (by omega) (by omega)
          · rw [nestedReaders_slot, nestedReaders_slot]
            exact ih (below - 1) (by omega) (by omega)
      · rw [readEntry_eq, readEntry_eq]
        split
        case h_1 tag fields => exact absurd ⟨tag, fields, rfl⟩ tagged
        case h_4 items =>
          exact .map (.mapM fun raw _ => ih below (by omega) (by omega) site raw)
        all_goals first | exact .malformed _ _ | exact .ok _

/-! ## Builders -/

namespace Builder

variable {limit limit' : Nat}

/-- A record is built alike under a higher limit. -/
theorem stable_build (le : limit ≤ limit') (raw : Json) :
    StableAbove limit (build ⟨⟨limit⟩⟩ raw) (build ⟨⟨limit'⟩⟩ raw) := by
  unfold build
  split
  · exact .ok none
  · exact (stable_readRecord (stable_readEntry le _ _)).map

/-- The statements of a parse result are built alike under a higher limit. -/
theorem stable_statements (le : limit ≤ limit') (raw : Json) :
    StableAbove limit (statements ⟨⟨limit⟩⟩ raw) (statements ⟨⟨limit'⟩⟩ raw) := by
  have single : ∀ raw, StableAbove limit (Option.toList <$> build ⟨⟨limit⟩⟩ raw)
      (Option.toList <$> build ⟨⟨limit'⟩⟩ raw) := fun raw => (stable_build le raw).map
  unfold statements
  split
  · exact .mapM fun raw _ => stable_readEntry le _ raw
  · split
    · refine .mapM fun stmt _ => ?_
      rw [statement_eq, statement_eq]
      exact stable_readRecord (stable_readEntry le _ _)
    · exact .malformed _ _
    · exact single _
  · exact single _

/-- **Raising the limit never changes a tree or an error that is not about depth**, and a depth
error names the limit that was set: so lowering the limit can only turn an outcome into the depth
error of the lower limit. -/
theorem outcome_of_limit_le (le : limit ≤ limit') (raw : Json) :
    (((∀ l, build ⟨⟨limit⟩⟩ raw ≠ .error (.depthExceeded l)) →
        build ⟨⟨limit'⟩⟩ raw = build ⟨⟨limit⟩⟩ raw) ∧
      ∀ l, build ⟨⟨limit⟩⟩ raw = .error (.depthExceeded l) → l = limit) ∧
    ((∀ l, statements ⟨⟨limit⟩⟩ raw ≠ .error (.depthExceeded l)) →
        statements ⟨⟨limit'⟩⟩ raw = statements ⟨⟨limit⟩⟩ raw) ∧
      ∀ l, statements ⟨⟨limit⟩⟩ raw = .error (.depthExceeded l) → l = limit := by
  have one := stable_build le raw
  have all := stable_statements le raw
  exact ⟨⟨one.same, one.limit_eq⟩, all.same, all.limit_eq⟩

/-- `SELECT FROM f()` as a raw tree. The call stands at the third level of the tree, but as a slot
of a sparse list it takes a fourth level of the limit. -/
def functionQuery : Json :=
  .object [("SelectStmt", .object [("fromClause", .array [.object [("RangeFunction", .object
    [("functions", .array [.array [.object [("FuncCall", .object [])]]])])]])])]

/-- A limit of four builds the query, and so does any higher one; a limit of three is exceeded. -/
theorem outcome_of_functionQuery :
    4 ≤ 256 ∧ (∃ n, build ⟨⟨4⟩⟩ functionQuery = .ok (some n) ∧
        build ⟨⟨256⟩⟩ functionQuery = .ok (some n)) ∧
      build ⟨⟨3⟩⟩ functionQuery = .error (.depthExceeded 3) := by
  have built : build ⟨⟨4⟩⟩ functionQuery = .ok (some _) := rfl
  have passed : ∀ l, build ⟨⟨4⟩⟩ functionQuery ≠ .error (.depthExceeded l) :=
    fun l e => nomatch built.symm.trans e
  have kept := (outcome_of_limit_le (by decide : 4 ≤ 256) functionQuery).1.1 passed
  exact ⟨by decide, ⟨_, built, kept.trans built⟩, rfl⟩

end Builder

end SqlTree
