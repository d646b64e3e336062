/-!
# Vocabularies

An enumerated field of a parse tree is written either as the integer code of its value or as the
symbol that names it. A vocabulary has a table for each of the two spellings. It also lists the
values in the order of their codes, from zero and without gaps, each with its symbol; the code of a
value is its place in the list.
-/

namespace SqlTree

/-- How the values of an enumeration are written. -/
class Vocabulary (ε : Type) where
  /-- The value with a code. -/
  ofCode? : Int → Option ε
  /-- The value with a symbol. -/
  ofSymbol? : String → Option ε
  /-- The values in the order of their codes, each with its symbol. -/
  entries : List (ε × String)

/-- An enumerated field as written. -/
inductive Spelling where
  /-- By its integer code. -/
  | code (value : Int)
  /-- By its symbol. -/
  | symbol (text : String)
  deriving BEq, DecidableEq, Repr

namespace Vocabulary

variable {ε : Type} [Vocabulary ε]

/-- The value that a spelling stands for. -/
def resolve? : Spelling → Option ε
  | .code value => ofCode? value
  | .symbol text => ofSymbol? text

/-- The code of a value. -/
def code [BEq ε] (value : ε) : Int :=
  (entries : List (ε × String)).findIdx fun entry => entry.1 == value

end Vocabulary

end SqlTree
