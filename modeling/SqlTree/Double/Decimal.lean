import SqlTree.Double.Basic
import SqlTree.Text

/-!
# Doubles written in decimal

Reading a double from decimal text. The text may have blanks around it, a sign, a fraction and a
decimal exponent, or name an infinity. The result is the double nearest to the number written,
whatever the number of its digits, and a number too large for the format reads as infinity.

A decimal number is `significand * 10 ^ exponent`. Numbers far outside the range of the format are
settled from the count of their digits alone, so that a large exponent costs nothing.
-/

namespace SqlTree.Double

/-- The double nearest to `significand * 10 ^ exponent`. Every number from 10³¹⁰ on rounds to
infinity and every number below 10⁻³³⁰ to zero. -/
def ofDecimal (negative : Bool) (significand : Nat) (exponent : Int) : Double :=
  let places : Int := (Nat.repr significand).length + exponent
  if significand = 0 then zero negative
  else if 310 < places then infinity negative
  else if places < -330 then zero negative
  else match exponent with
    | .ofNat e => nearest negative (significand * Nat.pow 10 e * unitsPerOne) 1
    | .negSucc e => nearest negative (significand * unitsPerOne) (Nat.pow 10 (e + 1))

/-- A sign at the start of a text, and what follows it. -/
def signed : List Char → Bool × List Char
  | '-' :: rest => (true, rest)
  | '+' :: rest => (false, rest)
  | rest => (false, rest)

/-- A decimal exponent that takes up a whole text: nothing, which is exponent zero, or the letter
`e`, an optional sign and at least one digit. -/
def exponent? : List Char → Option Int
  | [] => some 0
  | c :: rest =>
    if c = 'e' ∨ c = 'E' then
      let (negative, body) := signed rest
      match Text.digits body with
      | ([], _) => none
      | (ds, []) => some (if negative then -(Text.numberOf ds : Int) else Text.numberOf ds)
      | (_, _ :: _) => none
    else none

/-- An unsigned decimal number that takes up a whole text, as significand and exponent. It has at
least one digit on one side of its point. -/
def decimal? (text : List Char) : Option (Nat × Int) :=
  let (whole, afterWhole) := Text.digits text
  let (fraction, afterFraction) :=
    match afterWhole with
    | '.' :: rest => Text.digits rest
    | rest => ([], rest)
  if whole.isEmpty && fraction.isEmpty then none
  else
    (exponent? afterFraction).map fun e => (Text.numberOf (whole ++ fraction), e - fraction.length)

/-- The names of infinity, in lower case. -/
def infinityNames : List String := ["inf", "infinity"]

/-- The double that a text writes, blanks at its ends aside. A text that writes none, and the name
of NaN, give nothing. -/
def parse? (text : String) : Option Double :=
  let (negative, body) := signed (Text.trim text.toList)
  if infinityNames.contains (String.ofList (body.map Char.toLower)) then some (infinity negative)
  else (decimal? body).map fun (significand, exponent) => ofDecimal negative significand exponent

end SqlTree.Double
