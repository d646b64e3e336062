import SqlTree.Double.Shortest
import SqlTree.Kind

/-!
# Plain values

The values that stand in name lists and in constants. Each writes itself as text: a string between
quotation marks with nothing escaped, an integer in decimal, a float in its shortest digits.
-/

namespace SqlTree

/-- A plain value. -/
inductive Scalar where
  | string (text : String)
  | integer (value : Int)
  | float (value : Double)
  | boolean (value : Bool)
  | null
  deriving BEq

namespace Scalar

/-- The kind of record that holds a value. -/
def kind : Scalar → Kind
  | string _ => .string
  | integer _ => .integer
  | float _ => .float
  | boolean _ => .boolean
  | null => .null

/-- Whether the value is null. -/
def isNull : Scalar → Bool
  | null => true
  | _ => false

/-- The text of a value. -/
def toText : Scalar → String
  | string text => "\"" ++ text ++ "\""
  | integer value => toString value
  | float value => value.toText
  | boolean true => "true"
  | boolean false => "false"
  | null => "NULL"

instance : ToString Scalar := ⟨toText⟩

/-- The float that a text writes, as a value. -/
def float? (text : String) : Option Scalar := (Double.parse? text).map float

end Scalar

end SqlTree
