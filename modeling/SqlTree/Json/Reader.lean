import SqlTree.Json.Token

/-!
# Reading JSON text

A value is read from its tokens by a machine with an explicit stack: one frame for each array or
object that is open around the current position. The stack is what bounds nesting: a text whose
arrays and objects nest deeper than the limit is refused. The one value has to take up the whole
text.

`Json.read?` is the reading of parse trees given as text, with the usual limit of 127 levels.
-/

namespace SqlTree.Json

/-- An array or object that is open, with what has been read of it. -/
inductive Frame where
  /-- The items read, last first. -/
  | array (items : List Json)
  /-- The fields read, and the key whose value comes next. -/
  | object (fields : Fields) (key : String)

/-- What the reader expects next. -/
inductive Expect where
  /-- A value. -/
  | value
  /-- The first item of an array, or its end. -/
  | firstItem
  /-- The first key of an object, or its end. -/
  | firstKey
  /-- A key of an object with fields. -/
  | key (fields : Fields)
  /-- The colon after a key. -/
  | colon (fields : Fields) (key : String)
  /-- What may follow a complete value: a comma or the end of what is around it. -/
  | after (value : Json)

/-- The value that a token is by itself. -/
def Token.scalar? : Token → Option Json
  | .null => some .null
  | .bool value => some (.bool value)
  | .number value => some (.number value)
  | .string value => some (.string value)
  | _ => none

/-- The start of a value inside the open frames: it is complete, or opens an array or object. -/
def begin (limit : Nat) (frames : List Frame) (token : Token) : Option (Expect × List Frame) :=
  match token with
  | .openArray => if frames.length < limit then some (.firstItem, frames) else none
  | .openObject => if frames.length < limit then some (.firstKey, frames) else none
  | token => token.scalar?.map fun value => (.after value, frames)

/-- One token. -/
def advance (limit : Nat) (expect : Expect) (frames : List Frame) (token : Token) :
    Option (Expect × List Frame) :=
  match expect, token with
  | .value, token => begin limit frames token
  | .firstItem, .closeArray => some (.after (.array []), frames)
  | .firstItem, token => begin limit (.array [] :: frames) token
  | .firstKey, .closeObject => some (.after (.object []), frames)
  | .firstKey, .string key => some (.colon [] key, frames)
  | .key fields, .string key => some (.colon fields key, frames)
  | .colon fields key, .colon => some (.value, .object fields key :: frames)
  | .after value, token =>
    match frames, token with
    | .array items :: outer, .comma => some (.value, .array (value :: items) :: outer)
    | .array items :: outer, .closeArray => some (.after (.array (value :: items).reverse), outer)
    | .object fields key :: outer, .comma => some (.key (fields.insert key value), outer)
    | .object fields key :: outer, .closeObject =>
      some (.after (.object (fields.insert key value)), outer)
    | _, _ => none
  | _, _ => none

/-- The value that tokens write, from a state of the reader on. -/
def valueFrom (limit : Nat) (expect : Expect) (frames : List Frame) : List Token → Option Json
  | [] =>
    match expect, frames with
    | .after value, [] => some value
    | _, _ => none
  | token :: rest =>
    match advance limit expect frames token with
    | some (expect, frames) => valueFrom limit expect frames rest
    | none => none

/-- The value that a text writes, with arrays and objects nested at most `limit` deep. -/
def readWithin? (limit : Nat) (text : String) : Option Json :=
  (tokens? text).bind (valueFrom limit .value [])

/-- The deepest nesting of arrays and objects in parse trees given as text. -/
def nestingLimit : Nat := 127

/-- The value that a text writes, under the usual limit on nesting. -/
def read? (text : String) : Option Json := readWithin? nestingLimit text

end SqlTree.Json
