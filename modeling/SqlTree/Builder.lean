import SqlTree.Json.Reader
import SqlTree.Record.Registry

/-!
# Building typed trees

A raw parse tree is built into a `Node` from the outside in. What limits the recursion is the
configuration itself: a record may nest at most `maxDepth` deep, the outermost record included, so
the builder goes down with the number of levels that are left, and a record met with none left is
refused. Every record takes a level, and so does every bare array inside an array; a plain value
takes none. The shape of a record is checked before its depth, and its depth before its tag.

The statements of a parse result come as one record, as an array of records, or as an object whose
`stmts` holds them, there possibly as untagged bodies of `RawStmt`.
-/

namespace SqlTree

/-- The settings of a builder. -/
structure BuilderConfig where
  /-- How many records may nest, the outermost one included. -/
  maxDepth : Nat
  deriving BEq, DecidableEq, Repr

namespace BuilderConfig

/-- The settings used when none are given. -/
def standard : BuilderConfig := ⟨256⟩

/-- The largest depth limit that can be configured, the largest natural number of 64 bits. -/
def maxDepthBound : Nat := Nat.pow 2 64 - 1

/-- A depth limit written as a JSON value: an integer literal from zero to the largest one. -/
def depthOfJson? : Json → Option Nat
  | .number (.integer value) => if 0 ≤ value then some value.toNat else none
  | .number (.natural value) => if value ≤ maxDepthBound then some value else none
  | _ => none

/-- Settings written as a JSON value: an object whose `max_depth` may be missing and whose other
keys are ignored, or an array of at most the one setting. -/
def ofJson? : Json → Option BuilderConfig
  | .object fields =>
    match fields.lookup "max_depth" with
    | none => some standard
    | some value => (depthOfJson? value).map mk
  | .array [] => some standard
  | .array [value] => (depthOfJson? value).map mk
  | _ => none

end BuilderConfig

/-- Reads a number that is no integer. It is printed, and its text is read. -/
def readDouble (site : Site) (value : Double) : Except BuildError Node :=
  match Scalar.float? value.toText with
  | some scalar => .ok (.of (.scalar scalar))
  | none => .error (.malformed site .number)

/-- Reads a raw value as a node, given how the fields of a record and the entries of an array are
read. An object is a record with a single tag; an array is a list of values; a string, a truth value
or a number stands for the plain value that it is. -/
def readValue (fields : String → Fields → Except BuildError Node)
    (items : Site → List Json → Except BuildError (List Node)) (site : Site) (raw : Json) :
    Except BuildError Node :=
  match raw with
  | .object [(tag, .object body)] => fields tag body
  | .object [(tag, _)] => .error (.malformed ⟨tag, ""⟩ .fieldMap)
  | .object _ => .error (.malformed site .singleTag)
  | .array raws => (fun nodes => .of (.list nodes)) <$> items site raws
  | .string text => .ok (.of (.scalar (.string text)))
  | .bool value => .ok (.of (.scalar (.boolean value)))
  | .number (.integer value) => .ok (.of (.scalar (.integer value)))
  | .number (.natural value) => readDouble site (.ofNat value)
  | .number (.double value) => readDouble site value
  | .null => .error (.malformed site .noNulls)

/-- Reads a value where no level is left, so that records and arrays are refused. -/
def readPlain (limit : Nat) : Site → Json → Except BuildError Node :=
  readValue (fun _ _ => .error (.depthExceeded limit)) fun _ _ => .error (.depthExceeded limit)

/-- Reads a record with the decoder of its tag. -/
def readTagged (nested : Nested) (tag : String) (fields : Fields) : Except BuildError Node :=
  match Registry.standard.lookup tag with
  | none => .error (.unrecognized tag)
  | some decoder => decoder.run tag fields nested

/-- The readers for what is nested in a record, with `levels` levels of nesting left below it. A
record and an array each take a level of their own. -/
def nestedReaders (limit : Nat) (levels : Nat) : Nested :=
  match levels with
  | 0 =>
    { fields := fun _ _ => .error (.depthExceeded limit)
      entry := readPlain limit
      slot := readPlain limit }
  | below + 1 =>
    -- The readers further down are made when there is a value to be read with them: the number of
    -- levels may be far greater than the depth of any value.
    let fields tag body := readTagged (nestedReaders limit below) tag body
    { fields
      entry := readValue fields fun site items =>
        items.mapM ((nestedReaders limit below).entry site)
      slot := fun site raw => (nestedReaders limit below).entry site raw }

/-- Reads a record from its tag and its fields, with `levels` levels of nesting left. -/
def readFields (limit levels : Nat) : String → Fields → Except BuildError Node :=
  (nestedReaders limit levels).fields

/-- Reads a raw value as a node, with `levels` levels of nesting left. -/
def readEntry (limit levels : Nat) : Site → Json → Except BuildError Node :=
  (nestedReaders limit levels).entry

/-- A builder of typed trees. -/
structure Builder where
  config : BuilderConfig

namespace Builder

/-- The builder with the standard settings. -/
def standard : Builder := ⟨.standard⟩

/-- Reads a value at the outermost level. -/
def entry (b : Builder) : Site → Json → Except BuildError Node :=
  readEntry b.config.maxDepth b.config.maxDepth

/-- Reads a record at the outermost level from its tag and its fields. -/
def untagged (b : Builder) : String → Fields → Except BuildError Node :=
  readFields b.config.maxDepth b.config.maxDepth

/-- Reads a record at the outermost level. -/
def record (b : Builder) : Site → Json → Except BuildError Node :=
  readRecord b.entry

/-- Builds one record; `null` builds nothing. -/
def build (b : Builder) : Json → Except BuildError (Option Node)
  | .null => .ok none
  | raw => some <$> b.record .root raw

/-- Builds the record that a text holds. The text is read with a reader of JSON. -/
def buildText (b : Builder) (text : String) (read : String → Option Json := Json.read?) :
    Except BuildError (Option Node) :=
  match read text with
  | some raw => b.build raw
  | none => .error .invalidJson

/-- Builds an entry of `stmts`: the fields of a `RawStmt` when it has a key `stmt`, otherwise a
record. -/
def statement (b : Builder) : Json → Except BuildError Node
  | .object fields =>
    if Fields.has fields "stmt" then b.untagged "RawStmt" fields
    else b.record .stmts (.object fields)
  | raw => b.record .stmts raw

/-- Builds the statements of a parse result. -/
def statements (b : Builder) : Json → Except BuildError (List Node)
  | .array items => items.mapM (b.entry .root)
  | .object fields =>
    match fields.lookup "stmts" with
    | some (.array stmts) => stmts.mapM b.statement
    | some _ => .error (.malformed .stmts .array)
    | none => Option.toList <$> b.build (.object fields)
  | raw => Option.toList <$> b.build raw

end Builder

/-- The tree that has to be there. -/
def Node.required : Option Node → Except BuildError Node
  | some node => .ok node
  | none => .error (.malformed .root .record)

/-- The tree of a raw value under the standard settings; there has to be one. -/
def Node.ofJson (raw : Json) : Except BuildError Node :=
  Builder.standard.build raw >>= Node.required

/-- The tree of a text under the standard settings; there has to be one. The text is read with a
reader of JSON. -/
def Node.ofText (text : String) (read : String → Option Json := Json.read?) :
    Except BuildError Node :=
  Builder.standard.buildText text read >>= Node.required

end SqlTree
