import SqlTree.Proofs.Outcome
import SqlTree.Proofs.Questions

/-!
# Where errors come from

What holds of every error that an outcome may be (`FailsOnly`) is shown step by step: an error of a
sequence of steps is an error of one of them. A decoder adds its own: a run fails with the error of
an answer or with a complaint. `Decoder.FailsBy` says of a decoder, without a record at hand, which
questions it may come to, given what is known of the answers before, and which complaints it may
make; `Decoder.failsOnly_run` brings this back to a run over the fields of a record.
-/

namespace SqlTree

/-! ## Outcomes -/

section Outcomes

variable {ε α β : Type} {P : ε → Prop}

/-- Every error that an outcome is has a property. -/
def FailsOnly (P : ε → Prop) (x : Except ε α) : Prop := ∀ e, x = .error e → P e

namespace FailsOnly

theorem ok (a : α) : FailsOnly P (.ok a) := nofun

theorem error {e : ε} (h : P e) : FailsOnly P (.error e : Except ε α) := by
  rintro _ ⟨⟩
  exact h

theorem imp {Q : ε → Prop} {x : Except ε α} (h : FailsOnly P x) (follows : ∀ e, P e → Q e) :
    FailsOnly Q x :=
  fun e failed => follows e (h e failed)

/-- The second step is taken with the value of the first. -/
theorem bind {x : Except ε α} {f : α → Except ε β} (first : FailsOnly P x)
    (next : ∀ a, x = .ok a → FailsOnly P (f a)) : FailsOnly P (x >>= f) := by
  cases x with
  | ok a => exact next a rfl
  | error e => exact .error (first e rfl)

theorem map {x : Except ε α} {f : α → β} (h : FailsOnly P x) : FailsOnly P (f <$> x) := by
  cases x with
  | ok a => exact .ok (f a)
  | error e => exact .error (h e rfl)

/-- A list fails as one of its entries does. -/
theorem mapM {f : α → Except ε β} {l : List α} (steps : ∀ a ∈ l, FailsOnly P (f a)) :
    FailsOnly P (l.mapM f) := by
  induction l with
  | nil => exact .ok []
  | cons a l ih =>
    rw [List.mapM_cons]
    refine (steps a List.mem_cons_self).bind fun b _ => ?_
    exact (ih fun c mem => steps c (List.mem_cons_of_mem a mem)).bind fun bs _ => .ok (b :: bs)

end FailsOnly

end Outcomes

/-! ## Decoders -/

namespace Decoder

variable {α β : Type} {known : Query.Knowledge} {asked : Query → Prop}
  {blamed : String → Expectation → Prop}

/-- Whenever the answers satisfy what is known of them, the questions asked are among those
expected, and so are the complaints. -/
def FailsBy (known : Query.Knowledge) (asked : Query → Prop)
    (blamed : String → Expectation → Prop) : Decoder α → Prop
  | done _ => True
  | fail field expected => blamed field expected
  | ask query next =>
    asked query ∧ ∀ answer, known query answer → (next answer).FailsBy known asked blamed

/-- Where nothing is expected, anything is as expected. -/
theorem failsBy_anything (d : Decoder α) :
    d.FailsBy Query.anything (fun _ => True) fun _ _ => True := by
  induction d with
  | done value => trivial
  | fail field expected => trivial
  | ask query next ih => exact ⟨trivial, fun answer _ => ih answer⟩

/-- **A run fails with the error of an answer or with a complaint of its decoder.** -/
theorem failsOnly_run {P : BuildError → Prop} {tag : String} {fields : Fields} {nested : Nested}
    {d : Decoder α} (fails : d.FailsBy known asked blamed)
    (answered : ∀ query answer, query.answer tag fields nested = .ok answer → known query answer)
    (answers : ∀ query, d.Asks query → asked query →
      FailsOnly P (query.answer tag fields nested))
    (complaints : ∀ field expected, blamed field expected → P (.malformed ⟨tag, field⟩ expected)) :
    FailsOnly P (d.run tag fields nested) := by
  induction d with
  | done value => exact .ok value
  | fail field expected => exact .error (complaints field expected fails)
  | ask query next ih =>
    obtain ⟨first, rest⟩ := fails
    rw [run_ask]
    refine (answers query (.inl rfl) first).bind fun answer told => ?_
    exact ih answer (rest answer (answered query answer told))
      fun other asks => answers other (.inr ⟨answer, asks⟩)

/-! ## Rules for each way to build a decoder -/

@[simp] theorem failsBy_done {value : α} : (done value).FailsBy known asked blamed := trivial

@[simp] theorem failsBy_pure {value : α} :
    (pure value : Decoder α).FailsBy known asked blamed := trivial

@[simp] theorem failsBy_fail {field : String} {expected : Expectation} :
    (fail field expected : Decoder α).FailsBy known asked blamed ↔ blamed field expected := Iff.rfl

/-- A question fails with its answer or with what follows. -/
@[simp] theorem failsBy_ask {query : Query} {next : query.Answer → Decoder α} :
    (ask query next).FailsBy known asked blamed ↔
      asked query ∧ ∀ answer, known query answer → (next answer).FailsBy known asked blamed :=
  Iff.rfl

/-- A question whose answer is taken as it is fails with the answer only. -/
theorem failsBy_ask_done {query : Query} (asks : asked query) :
    (ask query done).FailsBy known asked blamed :=
  ⟨asks, fun _ _ => trivial⟩

/-- Of two decoders in a row, the first fails, or the second does with a value that the first
ensures. -/
@[simp] theorem failsBy_bind {d : Decoder α} {f : α → Decoder β} :
    (d >>= f).FailsBy known asked blamed ↔
      d.FailsBy known asked blamed ∧
        d.Ensures known fun value => (f value).FailsBy known asked blamed := by
  change (d.bind f).FailsBy known asked blamed ↔ _
  induction d with
  | done value => simp [Decoder.bind]
  | fail field expected => simp [Decoder.bind, FailsBy]
  | ask query next ih =>
    simp only [Decoder.bind, FailsBy, ih, Ensures, imp_and, forall_and, and_assoc]

@[simp] theorem failsBy_map {d : Decoder α} {f : α → β} :
    (f <$> d).FailsBy known asked blamed ↔ d.FailsBy known asked blamed := by
  change (d >>= fun value => pure (f value)).FailsBy known asked blamed ↔ _
  simp

/-- A decoder that depends on a condition fails as the branch taken does. -/
@[simp] theorem failsBy_ite {c : Prop} [Decidable c] {d e : Decoder α} :
    (if c then d else e).FailsBy known asked blamed ↔
      (c → d.FailsBy known asked blamed) ∧ (¬c → e.FailsBy known asked blamed) := by
  split <;> simp [*]

/-- What is required and missing is blamed on its field. -/
@[simp] theorem failsBy_require {field : String} {expected : Expectation} {found : Option α} :
    (require field expected found).FailsBy known asked blamed ↔
      (found = none → blamed field expected) := by
  cases found <;> simp [require]

section Fields

variable {field : String}

@[simp] theorem failsBy_location :
    location.FailsBy known asked blamed ↔ asked (.integer "location") := by
  simp [location]

/-- The spelling of an enumeration is blamed when it resolves to no value. -/
@[simp] theorem failsBy_enumeration {ε : Type} [Vocabulary ε] :
    (enumeration field : Decoder ε).FailsBy known asked blamed ↔
      asked (.spelling field) ∧ ∀ spelling, known (.spelling field) spelling →
        Vocabulary.resolve? (ε := ε) spelling = none → blamed field .enumCode := by
  simp [enumeration]

/-- A text that has to be there is blamed when it is missing. -/
@[simp] theorem failsBy_requiredString :
    (requiredString field).FailsBy known asked blamed ↔
      asked (.string field) ∧ (known (.string field) none → blamed field .string) := by
  simp only [requiredString, string, failsBy_bind, failsBy_ask, failsBy_done, ensures_ask,
    ensures_done, failsBy_require, implies_true, and_true]
  refine and_congr_right fun _ => ⟨fun h told => h none told rfl, ?_⟩
  rintro h _ told rfl
  exact h told

/-- A record that has to be there is blamed when it is missing. -/
@[simp] theorem failsBy_requiredChild :
    (requiredChild field).FailsBy known asked blamed ↔
      asked (.child field) ∧ (known (.child field) none → blamed field .record) := by
  simp only [requiredChild, child, failsBy_bind, failsBy_ask, failsBy_done, ensures_ask,
    ensures_done, failsBy_require, implies_true, and_true]
  refine and_congr_right fun _ => ⟨fun h told => h none told rfl, ?_⟩
  rintro h _ told rfl
  exact h told

/-- A query that has to be there is blamed when it is missing or another record. -/
@[simp] theorem failsBy_selectChild :
    (selectChild field).FailsBy known asked blamed ↔
      (asked (.child field) ∧ (known (.child field) none → blamed field .record)) ∧
        ∀ node, known (.child field) (some node) → node.select? = none →
          blamed field .selectRecord := by
  simp only [selectChild, failsBy_bind, failsBy_requiredChild, ensures_requiredChild]
  refine and_congr_right fun _ => forall_congr' fun node => imp_congr_right fun _ => ?_
  cases node.select? <;> simp

/-- A query that may be missing is blamed as one that has to be there, when its field is present. -/
@[simp] theorem failsBy_optionalSelectChild :
    (optionalSelectChild field).FailsBy known asked blamed ↔
      asked (.present field) ∧ (known (.present field) true →
        (selectChild field).FailsBy known asked blamed) := by
  simp [optionalSelectChild, -failsBy_selectChild]

end Fields

end Decoder

end SqlTree
