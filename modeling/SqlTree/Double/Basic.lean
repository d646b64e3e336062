/-!
# Double-precision numbers

A `Double` is a number of the IEEE 754 binary64 format other than NaN. Its magnitude is kept as a
**rank**: the place of the magnitude in the increasing list of all magnitudes of the format, from
zero at 0 through the subnormal and the normal numbers to infinity. The rank of a finite magnitude
is also the word that the format stores for it, which is why rounding is a short computation.

Magnitudes are measured in **units** of the least positive one, 2⁻¹⁰⁷⁴, so every finite magnitude
is a whole number of units. All arithmetic here is on natural numbers and exact up to the one
rounding that `Double.nearest` makes, to the nearest double with ties to the even rank.

`Double` equality (`==`) is equality of value: the two zeros are equal.
-/

namespace SqlTree

namespace Double

/-- The number of magnitudes that share one exponent. -/
def binade : Nat := Nat.pow 2 52

/-- The rank of infinity, above every finite rank. -/
def infinityRank : Nat := 2047 * binade

/-- The number of units in one. -/
def unitsPerOne : Nat := Nat.pow 2 1074

/-- The magnitude of a finite rank, in units. -/
def unitsOfRank (rank : Nat) : Nat :=
  if rank < binade then rank else (binade + rank % binade) * Nat.pow 2 (rank / binade - 1)

/-- The natural number nearest to `num / den`; a tie goes to the even one. -/
def roundEven (num den : Nat) : Nat :=
  let floor := num / den
  let twice := 2 * (num % den)
  if twice < den || (twice == den && floor % 2 == 0) then floor else floor + 1

/-- The rank nearest to `num / den` units. A quotient of 2⁵³ units or more keeps its leading 53 bits
and gives up the `shift` bits below them; rounding up to the next power of two carries into the
next exponent by itself, because ranks are consecutive there. -/
def nearestRank (num den : Nat) : Nat :=
  let shift := (num / den).log2 - 52
  min (shift * binade + roundEven num (den * Nat.pow 2 shift)) infinityRank

end Double

/-- A double-precision number other than NaN. -/
structure Double where
  /-- Whether the number carries a minus sign; zero may. -/
  negative : Bool
  /-- The place of the magnitude among all magnitudes of the format. -/
  rank : Nat
  /-- Infinity has the greatest rank. -/
  rank_le : rank ≤ Double.infinityRank

namespace Double

/-- Equality of value: minus zero equals zero. -/
instance : BEq Double where
  beq a b := a.rank == b.rank && (a.negative == b.negative || a.rank == 0)

/-- Whether the number is one of the two infinities. -/
def isInfinite (d : Double) : Bool := d.rank == infinityRank

/-- The magnitude in units. Infinity is given the magnitude that would come next. -/
def units (d : Double) : Nat := unitsOfRank d.rank

/-- The double nearest to `num / den` units, with the given sign. -/
def nearest (negative : Bool) (num den : Nat) : Double :=
  ⟨negative, nearestRank num den, Nat.min_le_right _ _⟩

/-- Infinity with the given sign. -/
def infinity (negative : Bool) : Double := ⟨negative, infinityRank, Nat.le_refl _⟩

/-- Zero with the given sign. -/
def zero (negative : Bool) : Double := ⟨negative, 0, Nat.zero_le _⟩

/-- The double nearest to a natural number. -/
def ofNat (n : Nat) : Double := nearest false (n * unitsPerOne) 1

/-- The double with the given sign and the magnitude of `d`. -/
def withSign (negative : Bool) (d : Double) : Double := ⟨negative, d.rank, d.rank_le⟩

/-- The product of two finite magnitudes, rounded. -/
def times (a b : Double) : Double := nearest false (a.units * b.units) unitsPerOne

/-- The quotient of two finite magnitudes, rounded; the second is not zero. -/
def dividedBy (a b : Double) : Double := nearest false (a.units * unitsPerOne) b.units

end Double

end SqlTree
