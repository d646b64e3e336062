import SqlTree.Double.Decimal
import SqlTree.Json.Basic

/-!
# Number literals

Reading a JSON number literal. A literal without fraction and exponent is an integer while 64 bits
hold it. Every other literal is read as a double in two steps: its leading digits are gathered into
a **significand** of at most 64 bits, further digits only counting as places, and the double
nearest to the significand is scaled by a power of ten. The scaling rounds once more, and twice
more for exponents beyond 308, so the result may differ from the nearest double by a little. A
literal that scales to infinity is refused, and one too small for the format is zero.
-/

namespace SqlTree

/-- The parts of a number literal: digits before the point, digits after it, decimal exponent. -/
structure Numeral where
  /-- Whether the literal starts with a minus sign. -/
  negative : Bool
  /-- The digits before the point; at least one, and no leading zero before others. -/
  whole : List Nat
  /-- The digits after the point, when there is a point. -/
  fraction : Option (List Nat)
  /-- The exponent, when the literal has one. -/
  exponent : Option Int

namespace Numeral

/-- The largest natural number of 64 bits. -/
def maxNatural : Nat := Nat.pow 2 64 - 1

/-- The largest integer of 64 signed bits. -/
def maxInteger : Nat := Nat.pow 2 63 - 1

/-- Digits gathered into a significand, as many as 64 bits hold, and the digits left over. -/
def gather (significand : Nat) : List Nat → Nat × List Nat
  | [] => (significand, [])
  | d :: rest =>
    if significand * 10 + d ≤ maxNatural then gather (significand * 10 + d) rest
    else (significand, d :: rest)

/-- A finite double scaled by `10 ^ e`; nothing when the result is infinite. -/
def scaleUp (d : Double) (e : Nat) : Option Double :=
  if d.rank = 0 then some d
  else if 308 < e then none
  else
    let scaled := d.times (.ofDecimal false 1 e)
    if scaled.isInfinite then none else some scaled

/-- A finite double scaled by `10 ^ -e`, by at most 308 places at a time. -/
def scaleDown (d : Double) (e : Nat) : Double :=
  if e ≤ 308 then d.dividedBy (.ofDecimal false 1 e)
  else
    let smaller := d.dividedBy (.ofDecimal false 1 308)
    if smaller.rank = 0 then smaller else scaleDown smaller (e - 308)
termination_by e

/-- The magnitude of a literal as a double. Digits of the whole part that the significand does not
hold raise the exponent, digits of the fraction that it holds lower it. -/
def magnitude? (n : Numeral) : Option Double :=
  let (start, extra) := gather 0 n.whole
  let fraction := n.fraction.getD []
  let (significand, ignored) := gather start fraction
  let exponent : Int :=
    n.exponent.getD 0 + extra.length - (fraction.length - ignored.length : Nat)
  match exponent with
  | .ofNat e => scaleUp (.ofNat significand) e
  | .negSucc e => some (scaleDown (.ofNat significand) (e + 1))

/-- The number that a literal writes; nothing when it overflows. Minus zero is a double. -/
def number? (n : Numeral) : Option Number :=
  let value := Text.numberOf n.whole
  if n.fraction.isNone && n.exponent.isNone && value ≤ maxNatural then
    some <|
      if n.negative then
        if 0 < value ∧ value ≤ maxInteger + 1 then .integer (-value)
        else .double ((Double.ofNat value).withSign true)
      else if value ≤ maxInteger then .integer value
      else .natural value
  else n.magnitude?.map fun d => .double (d.withSign n.negative)

/-- The parts of a literal that takes up a whole text. -/
def ofText? (text : List Char) : Option Numeral :=
  let (negative, body) :=
    match text with
    | '-' :: rest => (true, rest)
    | rest => (false, rest)
  let (whole, afterWhole) := Text.digits body
  match whole with
  | [] | 0 :: _ :: _ => none
  | _ =>
    match afterWhole with
    | '.' :: rest =>
      match Text.digits rest with
      | ([], _) => none
      | (fraction, []) => some ⟨negative, whole, some fraction, none⟩
      | (fraction, tail) =>
        (Double.exponent? tail).map fun e => ⟨negative, whole, some fraction, some e⟩
    | [] => some ⟨negative, whole, none, none⟩
    | tail => (Double.exponent? tail).map fun e => ⟨negative, whole, none, some e⟩

end Numeral

end SqlTree
