/-!
# Building errors

Why a raw parse tree cannot be built, and how each reason reads as a message. An error about a raw
value names the place of the value (`Site`): the kind of the record around it and the field it
stands in, or the root of the tree.
-/

namespace SqlTree

/-- The place of a raw value: the tag of the record around it and the field that holds it. -/
structure Site where
  kind : String
  field : String
  deriving BEq, DecidableEq, Repr

/-- What stands in for the tag of a record around the outermost value. -/
def Site.rootTag : String := "<root>"

/-- The place of the outermost value. -/
def Site.root : Site := ⟨rootTag, ""⟩

/-- The place of the statements of a parse result. -/
def Site.stmts : Site := ⟨rootTag, "stmts"⟩

/-- What a raw value was expected to be. -/
inductive Expectation where
  | record
  /-- An object with exactly one key, the tag. -/
  | singleTag
  /-- The object of fields under a tag. -/
  | fieldMap
  | string
  | integer
  | boolean
  /-- The code or the symbol of a value of an enumeration. -/
  | enumCode
  | array
  | noNulls
  | listOfRecords
  | selectRecord
  | valueRecord
  | numericText
  | number
  deriving BEq, DecidableEq, Repr

/-- The name of an expectation in messages. -/
def Expectation.name : Expectation → String
  | record => "record"
  | singleTag => "single-tag record"
  | fieldMap => "field map"
  | string => "string"
  | integer => "integer"
  | boolean => "boolean"
  | enumCode => "known enum code"
  | array => "array"
  | noNulls => "array without null entries"
  | listOfRecords => "list of records"
  | selectRecord => "SelectStmt record"
  | valueRecord => "value record"
  | numericText => "numeric text"
  | number => "number"

/-- Why a raw parse tree cannot be built. -/
inductive BuildError where
  /-- A record has a tag that names no kind. -/
  | unrecognized (tag : String)
  /-- The value at a place is not what the record around it expects there. -/
  | malformed (site : Site) (expected : Expectation)
  /-- Records nest deeper than the limit. -/
  | depthExceeded (limit : Nat)
  /-- A text is not JSON. -/
  | invalidJson
  deriving BEq, DecidableEq, Repr

/-- The message of an error. Text that is not JSON is reported without a message of its own. -/
def BuildError.message : BuildError → String
  | unrecognized tag => "BuildError: unrecognized node kind '" ++ tag ++ "'"
  | malformed site expected =>
    "BuildError: malformed record " ++ site.kind ++ "." ++ site.field ++ ", expected " ++
      expected.name
  | depthExceeded limit =>
    "BuildError: parse tree nests deeper than " ++ toString limit ++ " levels"
  | invalidJson => "BuildError: invalid json"

end SqlTree
