/-!
# Text

What numbers are written with and between. Blanks are the characters with the Unicode property
`White_Space`; numbers stand between blanks in many parse trees, and the blanks are not part of
them. Of the decimal digits only the ten ASCII ones count.
-/

namespace SqlTree.Text

/-! ## Blanks -/

/-- The code points of `White_Space`, as ranges with both ends included. -/
def blankRanges : List (Nat × Nat) :=
  [(0x9, 0xD), (0x20, 0x20), (0x85, 0x85), (0xA0, 0xA0), (0x1680, 0x1680), (0x2000, 0x200A),
    (0x2028, 0x2029), (0x202F, 0x202F), (0x205F, 0x205F), (0x3000, 0x3000)]

/-- Whether a character has the property `White_Space`. -/
def isBlank (c : Char) : Bool :=
  blankRanges.any fun (first, last) => first ≤ c.toNat && c.toNat ≤ last

/-- The characters of a text without the blanks at its two ends. -/
def trim (text : List Char) : List Char :=
  ((text.dropWhile isBlank).reverse.dropWhile isBlank).reverse

/-! ## Digits -/

/-- The value of a decimal digit. -/
def digit? (c : Char) : Option Nat :=
  if '0' ≤ c ∧ c ≤ '9' then some (c.toNat - '0'.toNat) else none

/-- The longest run of decimal digits at the start of a text, as values, and what follows it. -/
def digits : List Char → List Nat × List Char
  | [] => ([], [])
  | c :: rest =>
    match digit? c with
    | some d => ((d :: (digits rest).1), (digits rest).2)
    | none => ([], c :: rest)

/-- The number that a run of decimal digits writes, most significant digit first. -/
def numberOf (ds : List Nat) : Nat :=
  ds.foldl (fun n d => n * 10 + d) 0

end SqlTree.Text
