import SqlTree.Record.Registry

/-!
# What a decoder ensures

A decoder is data, so what it reads can be said without a record at hand. `Decoder.Ensures known
post` means that the value satisfies `post` whenever each answer on the way satisfies what is
`known` of answers to its question; a decoder that complains ensures everything. The rules below
take a decoder apart along its questions, and `Decoder.post_of_run` brings the result back to a run
over the fields of a record.

What is known of answers is most often something about the nodes in them (`Query.among`).
-/

namespace SqlTree

namespace Query

/-- What is known of the answers to questions. -/
abbrev Knowledge := (query : Query) → query.Answer → Prop

/-- Nothing is known of the answers. -/
def anything : Knowledge := fun _ _ => True

/-- The nodes in an answer. -/
def nodes : (query : Query) → query.Answer → List Node
  | present _, _ | string _, _ | integer _, _ | flag _, _ | spelling _, _ => []
  | child _, answer => answer.toList
  | untagged _ _, answer => [answer]
  | children _, answer => answer
  | sparseLists _, answer => answer.flatten

/-- The nodes in every answer are among those with a property. -/
def among (P : Node → Prop) : Knowledge := fun query answer => ∀ n ∈ query.nodes answer, P n

end Query

namespace Decoder

variable {α β : Type} {known known' : Query.Knowledge} {post post' : α → Prop}

/-- The value read satisfies `post` whenever the answers satisfy what is known of them. -/
def Ensures (known : Query.Knowledge) : Decoder α → (α → Prop) → Prop
  | done value, post => post value
  | fail _ _, _ => True
  | ask query next, post => ∀ answer, known query answer → (next answer).Ensures known post

/-- A decoder that asks a question goes on with the answer. -/
theorem run_ask {tag : String} {fields : Fields} {nested : Nested} {query : Query}
    {next : query.Answer → Decoder α} :
    (ask query next).run tag fields nested =
      query.answer tag fields nested >>= fun answer => (next answer).run tag fields nested := by
  rw [Decoder.run]
  cases query.answer tag fields nested <;> rfl

/-- A run yields what its decoder ensures. -/
theorem post_of_run {d : Decoder α} (ensures : d.Ensures known post) {tag : String}
    {fields : Fields} {nested : Nested}
    (answers : ∀ query answer, query.answer tag fields nested = .ok answer → known query answer)
    {value : α} (run : d.run tag fields nested = .ok value) : post value := by
  induction d with
  | done v =>
    cases run
    exact ensures
  | fail field expected => cases run
  | ask query next ih =>
    unfold Decoder.run at run
    split at run
    next answer answered => exact ih answer (ensures answer (answers query answer answered)) run
    next => cases run

/-- A decoder ensures what follows, from less that is known. -/
theorem Ensures.mono {d : Decoder α} (ensures : d.Ensures known post)
    (weaker : ∀ query answer, known' query answer → known query answer)
    (follows : ∀ value, post value → post' value) : d.Ensures known' post' := by
  induction d with
  | done value => exact follows value ensures
  | fail field expected => trivial
  | ask query next ih =>
    intro answer h
    exact ih answer (ensures answer (weaker query answer h))

/-- A decoder ensures what follows from what it ensures. -/
theorem Ensures.imp {d : Decoder α} (ensures : d.Ensures known post)
    (follows : ∀ value, post value → post' value) : d.Ensures known post' :=
  ensures.mono (fun _ _ answered => answered) follows

/-- A decoder ensures two things when it ensures each. -/
theorem Ensures.and {d : Decoder α} (first : d.Ensures known post)
    (second : d.Ensures known post') : d.Ensures known fun value => post value ∧ post' value := by
  induction d with
  | done value => exact ⟨first, second⟩
  | fail field expected => trivial
  | ask query next ih => exact fun answer h => ih answer (first answer h) (second answer h)

/-- A decoder ensures what holds of every value. -/
theorem ensures_of_forall {d : Decoder α} (always : ∀ value, post value) :
    d.Ensures known post := by
  induction d with
  | done value => exact always value
  | fail field expected => trivial
  | ask query next ih => exact fun answer _ => ih answer

@[simp] theorem ensures_true {d : Decoder α} : d.Ensures known fun _ => True :=
  ensures_of_forall fun _ => trivial

/-! ## Rules for each way to build a decoder

The decoder of a single field asks one question and is done with the answer, so the rules for these
two are its rules, here and wherever a property of decoders has rules.
-/

attribute [simp] present string integer flag child untagged children sparseLists

@[simp] theorem ensures_pure {value : α} :
    (pure value : Decoder α).Ensures known post ↔ post value := Iff.rfl

@[simp] theorem ensures_done {value : α} : (done value).Ensures known post ↔ post value := Iff.rfl

@[simp] theorem ensures_fail {field : String} {expected : Expectation} :
    (fail field expected).Ensures known post := trivial

@[simp] theorem ensures_ask {query : Query} {next : query.Answer → Decoder α} :
    (ask query next).Ensures known post ↔
      ∀ answer, known query answer → (next answer).Ensures known post := Iff.rfl

/-- Of two decoders in a row, the first ensures that the second ensures what follows. -/
@[simp] theorem ensures_bind {d : Decoder α} {f : α → Decoder β} {post : β → Prop} :
    (d >>= f).Ensures known post ↔ d.Ensures known fun value => (f value).Ensures known post := by
  change (d.bind f).Ensures known post ↔ _
  induction d with
  | done value => exact Iff.rfl
  | fail field expected => exact Iff.rfl
  | ask query next ih => exact forall_congr' fun answer => imp_congr_right fun _ => ih answer

@[simp] theorem ensures_map {d : Decoder α} {f : α → β} {post : β → Prop} :
    (f <$> d).Ensures known post ↔ d.Ensures known fun value => post (f value) :=
  ensures_bind

@[simp] theorem ensures_require {field : String} {expected : Expectation} {found : Option α} :
    (require field expected found).Ensures known post ↔
      ∀ value, found = some value → post value := by
  cases found <;> simp [require]

/-- The value of an enumeration is what its spelling resolves to. -/
@[simp] theorem ensures_enumeration {ε : Type} [Vocabulary ε] {field : String} {post : ε → Prop} :
    (enumeration field).Ensures known post ↔
      ∀ spelling, known (.spelling field) spelling →
        ∀ value, Vocabulary.resolve? spelling = some value → post value := by
  simp [enumeration]

/-- A location is an integer, and `-1` where there is none. -/
@[simp] theorem ensures_location {post : Int → Prop} :
    location.Ensures known post ↔
      ∀ answer, known (.integer "location") answer → post (answer.getD (-1)) := by
  simp [location]

/-- A text that has to be there is the one in the answer. -/
@[simp] theorem ensures_requiredString {field : String} {post : String → Prop} :
    (requiredString field).Ensures known post ↔
      ∀ text, known (.string field) (some text) → post text := by
  simp only [requiredString, ensures_bind, string, ensures_ask, ensures_done,
    ensures_require]
  constructor
  · intro h text answered
    exact h _ answered text rfl
  · rintro h _ answered text rfl
    exact h text answered

/-- A record that has to be there is the one in the answer. -/
@[simp] theorem ensures_requiredChild {field : String} {post : Node → Prop} :
    (requiredChild field).Ensures known post ↔
      ∀ node, known (.child field) (some node) → post node := by
  simp only [requiredChild, ensures_bind, child, ensures_ask, ensures_done,
    ensures_require]
  constructor
  · intro h node answered
    exact h _ answered node rfl
  · rintro h _ answered node rfl
    exact h node answered

/-- The query read from a field is a node in the answer, and it is a query. -/
@[simp] theorem ensures_selectChild {field : String} {post : Node → Prop} :
    (selectChild field).Ensures known post ↔
      ∀ node, known (.child field) (some node) → node.select?.isSome → post node := by
  simp only [selectChild, ensures_bind, ensures_requiredChild]
  refine forall_congr' fun node => imp_congr_right fun _ => ?_
  cases h : node.select? <;> simp

/-- A query that may be missing is the one in the answer when the field is present. -/
@[simp] theorem ensures_optionalSelectChild {field : String} {post : Option Node → Prop} :
    (optionalSelectChild field).Ensures known post ↔
      (known (.present field) false → post none) ∧
        (known (.present field) true →
          ∀ node, known (.child field) (some node) → node.select?.isSome → post (some node)) := by
  simp [optionalSelectChild]

end Decoder

end SqlTree
