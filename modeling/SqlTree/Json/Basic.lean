import SqlTree.Double.Basic

/-!
# JSON values

Raw parse trees are JSON values. Numbers keep what their literals said: an integer that fits 64
signed bits is an integer, a larger natural number of 64 bits stays one, and every other literal
is a double, also one whose value is whole.

An object is the list of its fields. `Fields.insert` keeps each key once, in increasing order, the
last value given for it winning. A field that is present with the value `null` counts as absent
wherever a record is read; `Fields.value?` is that reading, `Fields.has` tells the two apart.
-/

namespace SqlTree

/-- A JSON number, kept apart by the form of its literal. -/
inductive Number where
  /-- An integer of 64 signed bits. -/
  | integer (value : Int)
  /-- A natural number of 64 bits too large for a signed integer. -/
  | natural (value : Nat)
  /-- Any other number, as the double it reads as. -/
  | double (value : Double)
  deriving BEq

/-- A JSON value. -/
inductive Json where
  | null
  | bool (value : Bool)
  | number (value : Number)
  | string (value : String)
  | array (items : List Json)
  | object (fields : List (String × Json))

/-- The fields of an object. -/
abbrev Fields := List (String × Json)

namespace Fields

/-- The fields with a value set for a key, in key order and each key once. -/
def insert (key : String) (value : Json) : Fields → Fields
  | [] => [(key, value)]
  | (k, v) :: rest =>
    if key < k then (key, value) :: (k, v) :: rest
    else if key = k then (key, value) :: rest
    else (k, v) :: insert key value rest

/-- Whether a key is present, with whatever value. -/
def has (fields : Fields) (key : String) : Bool := (fields.lookup key).isSome

/-- The value of a field; a field that is `null` counts as absent. -/
def value? (fields : Fields) (key : String) : Option Json :=
  match fields.lookup key with
  | some .null => none
  | found => found

end Fields

namespace Json

/-- Whether the value is an empty object. -/
def isEmptyObject : Json → Bool
  | .object [] => true
  | _ => false

/-- Whether the value is `null`. -/
def isNull : Json → Bool
  | .null => true
  | _ => false

end Json

end SqlTree
