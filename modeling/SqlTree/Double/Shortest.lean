import SqlTree.Double.Decimal

/-!
# The shortest decimal text of a double

A double is written with the fewest significant digits that read back as the same double, and of
the decimals with that many digits the nearest one; of two equally near the larger. The text is
always positional: no exponent, no point after a whole number, as many zeros as it takes.

For each count of digits the candidates are the two neighbours of the number on the decimal grid
with that many digits. Seventeen digits are always enough; the exact decimal expansion stands
behind them, so that the text reads back by construction.
-/

namespace SqlTree.Double

/-- A decimal number `significand * 10 ^ exponent`. -/
structure Decimal where
  significand : Nat
  exponent : Int

namespace Decimal

/-- The double nearest to a decimal number. -/
def toDouble (d : Decimal) : Double := ofDecimal false d.significand d.exponent

/-- Positional notation: the digits with the point or the zeros that the exponent asks for. -/
def toText (d : Decimal) : String :=
  let digits := Nat.repr d.significand
  match d.exponent with
  | .ofNat e => digits ++ String.ofList (List.replicate e '0')
  | .negSucc e =>
    let places := e + 1
    let padded := String.ofList (List.replicate (places + 1 - digits.length) '0') ++ digits
    let whole := padded.length - places
    String.ofList (padded.toList.take whole) ++ "." ++ String.ofList (padded.toList.drop whole)

end Decimal

/-- A finite magnitude written out in full: a unit is 5¹⁰⁷⁴ times 10⁻¹⁰⁷⁴. -/
def exactDecimal (d : Double) : Decimal := ⟨d.units * Nat.pow 5 1074, -1074⟩

/-- The decimal exponent of the leading digit of a finite magnitude other than zero. -/
def leadingPlace (d : Double) : Int :=
  let scaled := d.units * Nat.pow 10 400 / unitsPerOne
  (Nat.repr scaled).length - 401

/-- The decimals with `count` significant digits next to a finite magnitude whose leading digit
stands at `lead`, nearest first. The upper one is a power of ten when every digit of the lower one
is nine. -/
def neighbours (d : Double) (lead : Int) (count : Nat) : List Decimal :=
  let place : Int := lead + 1 - count
  let num := d.units * Nat.pow 10 (-place).toNat
  let den := unitsPerOne * Nat.pow 10 place.toNat
  let floor := num / den
  let below : Decimal := ⟨floor, place⟩
  let above : Decimal :=
    if floor + 1 = Nat.pow 10 count then ⟨1, place + count⟩ else ⟨floor + 1, place⟩
  if 2 * (num % den) < den then [below, above] else [above, below]

/-- The shortest decimal that reads back as the magnitude of a finite double other than zero. -/
def shortest (d : Double) : Decimal :=
  let lead := d.leadingPlace
  let readsBack (c : Decimal) : Bool := c.toDouble.rank == d.rank
  ((List.range 17).findSome? fun count => (d.neighbours lead (count + 1)).find? readsBack).getD
    d.exactDecimal

/-- The text of a magnitude. -/
def magnitudeText (d : Double) : String :=
  if d.isInfinite then "inf"
  else if d.rank = 0 then "0"
  else d.shortest.toText

/-- The shortest text of a double that reads back as the same double. -/
def toText (d : Double) : String :=
  (if d.negative then "-" else "") ++ d.magnitudeText

instance : ToString Double := ⟨toText⟩

end SqlTree.Double
