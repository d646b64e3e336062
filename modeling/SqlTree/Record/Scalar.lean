import SqlTree.Record.Decoder

/-!
# Decoders of plain values

Strings and floats spell their payload in two ways: `sval` or `str`, and `fval` or `str`. The first
spelling decides when it is there. A missing payload is the empty text, zero or false.

A constant has its value in a `val` record, or as an untagged record in the field that names its
type, or is marked as null; a constant with none of these is the integer zero.
-/

namespace SqlTree.Decoder

/-- A string. -/
def stringValue : Decoder Scalar := do
  match ← string "sval" with
  | some text => return .string text
  | none => return .string ((← string "str").getD "")

/-- An integer. -/
def integerValue : Decoder Scalar := do
  return .integer ((← integer "ival").getD 0)

/-- A float, which is written as text. -/
def floatValue : Decoder Scalar := do
  let field := if ← present "fval" then "fval" else "str"
  let text := (← string field).getD ""
  require field .numericText (Scalar.float? text)

/-- A truth value. -/
def booleanValue : Decoder Scalar := do
  return .boolean (← flag "boolval")

/-- The fields that hold the value of a constant as an untagged record, each with the kind that it
implies, in the order in which they are looked for. -/
def payloads : List (String × Kind) :=
  [("ival", .integer), ("fval", .float), ("sval", .string), ("boolval", .boolean)]

/-- The value of a constant in the first field of a list that is present. -/
def payload : List (String × Kind) → Decoder Scalar
  | [] => return .integer 0
  | (field, kind) :: rest => do
    if ← present field then
      require field .valueRecord (← untagged field kind).scalar?
    else
      payload rest

/-- The value of a constant. -/
def constant : Decoder Scalar := do
  if ← flag "isnull" then
    return .null
  else
    match ← child "val" with
    | some node => require "val" .valueRecord node.scalar?
    | none => payload payloads

/-- A literal constant. -/
def aConst : Decoder AConst := do
  let val ← constant
  let location ← location
  return { val, location }

end SqlTree.Decoder
