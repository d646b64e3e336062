import SqlTree.Json.Basic
import SqlTree.Node.Basic
import SqlTree.Record.Error

/-!
# Record decoders

A `Decoder α` says how a value of type `α` is read from the fields of one record: it asks for the
fields it needs, one `Query` at a time, each in view of the answers so far, and ends with a value or
with a complaint about a field. Decoders are data, so what holds of every decoder is proved once, by
induction on the questions it asks.

`Decoder.run` answers the questions from the fields of a record. What is nested in the record is
read by the readers of `Nested`, a level below the record, but for the slots of sparse lists, which
are two levels below.

A field that is absent and a field that is `null` are the same to every question.
-/

namespace SqlTree

/-- A question about one field of a record. -/
inductive Query where
  /-- Whether the field is present. -/
  | present (field : String)
  /-- A text. -/
  | string (field : String)
  /-- An integer. -/
  | integer (field : String)
  /-- A truth value; absent means false. -/
  | flag (field : String)
  /-- The code or the symbol of a value of an enumeration; absent means code zero. -/
  | spelling (field : String)
  /-- A nested record. -/
  | child (field : String)
  /-- A nested record whose tag is implied by the field, so that only its fields are written. -/
  | untagged (field : String) (kind : Kind)
  /-- A sequence of nested values; absent means empty. -/
  | children (field : String)
  /-- A sequence of sequences of records whose slots may be empty; absent means empty. -/
  | sparseLists (field : String)

/-- The type of the answers to a question. -/
abbrev Query.Answer : Query → Type
  | present _ | flag _ => Bool
  | string _ => Option String
  | integer _ => Option Int
  | spelling _ => Spelling
  | child _ => Option Node
  | untagged _ _ => Node
  | children _ => List Node
  | sparseLists _ => List (List Node)

/-- A way to read a value from the fields of a record. -/
inductive Decoder (α : Type) where
  /-- The value is known. -/
  | done (value : α)
  /-- A field is not as it should be. -/
  | fail (field : String) (expected : Expectation)
  /-- A question is asked, and its answer decides what follows. -/
  | ask (query : Query) (next : query.Answer → Decoder α)

namespace Decoder

/-- One decoder after another, which depends on the value of the first. -/
def bind {α β : Type} (d : Decoder α) (f : α → Decoder β) : Decoder β :=
  match d with
  | done value => f value
  | fail field expected => fail field expected
  | ask query next => ask query fun answer => (next answer).bind f

instance : Monad Decoder where
  pure := done
  bind := bind

/-! ## Fields -/

/-- Whether a field is present. -/
def present (field : String) : Decoder Bool := ask (.present field) done

/-- An optional text. -/
def string (field : String) : Decoder (Option String) := ask (.string field) done

/-- An optional integer. -/
def integer (field : String) : Decoder (Option Int) := ask (.integer field) done

/-- A truth value that is false when the field is absent. -/
def flag (field : String) : Decoder Bool := ask (.flag field) done

/-- An optional nested record. -/
def child (field : String) : Decoder (Option Node) := ask (.child field) done

/-- A nested record of a kind that the field implies. -/
def untagged (field : String) (kind : Kind) : Decoder Node := ask (.untagged field kind) done

/-- A sequence of nested values. -/
def children (field : String) : Decoder (List Node) := ask (.children field) done

/-- A sequence of sequences of records, without their empty slots. -/
def sparseLists (field : String) : Decoder (List (List Node)) := ask (.sparseLists field) done

/-- The value in `found`, or a complaint about the field it should have come from. -/
def require {α : Type} (field : String) (expected : Expectation) : Option α → Decoder α
  | some value => done value
  | none => fail field expected

/-- A text that has to be there. -/
def requiredString (field : String) : Decoder String := do
  require field .string (← string field)

/-- A nested record that has to be there. -/
def requiredChild (field : String) : Decoder Node := do
  require field .record (← child field)

/-- A value of an enumeration, by code or by symbol. -/
def enumeration {ε : Type} [Vocabulary ε] (field : String) : Decoder ε :=
  ask (.spelling field) fun spelling => require field .enumCode (Vocabulary.resolve? spelling)

/-- The location of a record, `-1` when it has none. -/
def location : Decoder Int := do
  return (← integer "location").getD (-1)

/-- A nested record that has to be there and to be a query. -/
def selectChild (field : String) : Decoder Node := do
  let node ← requiredChild field
  match node.select? with
  | some _ => return node
  | none => fail field .selectRecord

/-- A nested record that has to be a query when it is there. -/
def optionalSelectChild (field : String) : Decoder (Option Node) := do
  if ← present field then
    return some (← selectChild field)
  else
    return none

end Decoder

/-! ## Answers -/

/-- The readers for what is nested in a record. -/
structure Nested where
  /-- Reads a record one level below from its tag and its fields. -/
  fields : String → Fields → Except BuildError Node
  /-- Reads a value one level below, given its place. -/
  entry : Site → Json → Except BuildError Node
  /-- Reads a slot of a sparse list, two levels below, given its place. -/
  slot : Site → Json → Except BuildError Node

/-- Reads a value that has to be a record. -/
def readRecord (read : Site → Json → Except BuildError Node) (site : Site) (raw : Json) :
    Except BuildError Node :=
  match raw with
  | .object _ => read site raw
  | _ => .error (.malformed site .record)

/-- The slots of one sub-list: a bare array, or an object whose `List` has them as `items`. -/
def subListSlots (site : Site) : Json → Except BuildError (List Json)
  | .array slots => .ok slots
  | .object fields =>
    match fields.lookup "List" with
    | some (.object body) =>
      match Fields.value? body "items" with
      | none => .ok []
      | some (.array slots) => .ok slots
      | some _ => .error (.malformed site .listOfRecords)
    | _ => .error (.malformed site .listOfRecords)
  | _ => .error (.malformed site .listOfRecords)

/-- Whether a slot of a sparse list is empty: `null` or `{}`. -/
def isEmptySlot (slot : Json) : Bool := slot.isNull || slot.isEmptyObject

/-- The records of one sub-list, its empty slots left out. -/
def readSubList (nested : Nested) (site : Site) (raw : Json) : Except BuildError (List Node) := do
  let slots ← subListSlots site raw
  (slots.filter fun slot => !isEmptySlot slot).mapM (readRecord nested.slot site)

/-- The answer to a question about a record with the given tag and fields. -/
def Query.answer (tag : String) (fields : Fields) (nested : Nested) :
    (query : Query) → Except BuildError query.Answer
  | present field => .ok (fields.value? field).isSome
  | string field =>
    match fields.value? field with
    | none => .ok none
    | some (.string text) => .ok (some text)
    | some _ => .error (.malformed ⟨tag, field⟩ .string)
  | integer field =>
    match fields.value? field with
    | none => .ok none
    | some (.number (.integer value)) => .ok (some value)
    | some _ => .error (.malformed ⟨tag, field⟩ .integer)
  | flag field =>
    match fields.value? field with
    | none => .ok false
    | some (.bool value) => .ok value
    | some _ => .error (.malformed ⟨tag, field⟩ .boolean)
  | spelling field =>
    match fields.value? field with
    | none => .ok (.code 0)
    | some (.number (.integer value)) => .ok (.code value)
    | some (.string text) => .ok (.symbol text)
    | some _ => .error (.malformed ⟨tag, field⟩ .enumCode)
  | child field =>
    match fields.value? field with
    | none => .ok none
    | some raw => some <$> readRecord nested.entry ⟨tag, field⟩ raw
  | untagged field kind =>
    match fields.value? field with
    | some (.object body) => nested.fields kind.tag body
    | _ => .error (.malformed ⟨tag, field⟩ .record)
  | children field =>
    match fields.value? field with
    | none => .ok []
    | some (.array items) => items.mapM (nested.entry ⟨tag, field⟩)
    | some _ => .error (.malformed ⟨tag, field⟩ .array)
  | sparseLists field =>
    match fields.value? field with
    | none => .ok []
    | some (.array lists) => lists.mapM (readSubList nested ⟨tag, field⟩)
    | some _ => .error (.malformed ⟨tag, field⟩ .array)

/-- The value that a decoder reads from a record with the given tag and fields. -/
def Decoder.run {α : Type} (tag : String) (fields : Fields) (nested : Nested) :
    Decoder α → Except BuildError α
  | done value => .ok value
  | fail field expected => .error (.malformed ⟨tag, field⟩ expected)
  | ask query next =>
    match query.answer tag fields nested with
    | .ok answer => (next answer).run tag fields nested
    | .error e => .error e

end SqlTree
