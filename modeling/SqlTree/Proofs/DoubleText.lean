import SqlTree.Proofs.DecimalText

/-!
# The text of a double read back

The text of a double reads as the same double, sign of zero included (`Double.parse?_toText`). The
shortest decimal is one of those that were tried and found to read back; should none of them, there
is the exact expansion, whose significand is the number of units times a power of five. That this
one reads back is arithmetic: no rounding takes place where the number is a whole number of units,
and the rank of a whole number of units is the rank that the units were taken from.
-/

namespace SqlTree

namespace Double

/-! ## The rank of a number of units -/

-- Stated of every exponent, so that no large power is ever written out.
theorem fives_pos (n : Nat) : 0 < Nat.pow 5 n := Nat.pow_pos (by decide)

theorem twos_pos (n : Nat) : 0 < Nat.pow 2 n := Nat.pow_pos (by decide)

theorem twos_le {m n : Nat} (le : m ≤ n) : Nat.pow 2 m ≤ Nat.pow 2 n :=
  Nat.pow_le_pow_right (by decide) le

theorem binade_pos : 0 < binade := twos_pos 52

/-- A quotient without remainder is not rounded. -/
theorem roundEven_mul {den : Nat} (positive : 0 < den) (n : Nat) : roundEven (n * den) den = n := by
  have floor : n * den / den = n := Nat.mul_div_cancel n positive
  have rest : n * den % den = 0 := Nat.mul_mod_left n den
  simp only [roundEven, floor, rest, Nat.mul_zero, positive, decide_true, Bool.true_or, if_true]

/-- A number of 53 bits and `shift` zeros after them gives up the zeros. -/
theorem log2_mul_pow {m : Nat} (low : binade ≤ m) (high : m < 2 * binade) (shift : Nat) :
    Nat.log2 (m * Nat.pow 2 shift) - 52 = shift := by
  have power : 0 < Nat.pow 2 shift := twos_pos shift
  have positive : 0 < m * Nat.pow 2 shift :=
    Nat.mul_pos (Nat.lt_of_lt_of_le binade_pos low) power
  have log : Nat.log2 (m * Nat.pow 2 shift) = 52 + shift := by
    refine (Nat.log2_eq_iff (Nat.ne_of_gt positive)).mpr ⟨?_, ?_⟩
    · calc
        Nat.pow 2 (52 + shift) = binade * Nat.pow 2 shift := Nat.pow_add 2 52 shift
        _ ≤ m * Nat.pow 2 shift := Nat.mul_le_mul_right _ low
    · calc
        m * Nat.pow 2 shift < 2 * binade * Nat.pow 2 shift := Nat.mul_lt_mul_of_pos_right high power
        _ = Nat.pow 2 (52 + shift) * 2 := by
          rw [show Nat.pow 2 (52 + shift) = binade * Nat.pow 2 shift from Nat.pow_add 2 52 shift]
          rw [Nat.mul_comm (binade * _) 2, Nat.mul_assoc]
        _ = Nat.pow 2 (52 + shift + 1) := rfl
  omega

/-- The rank nearest to a whole number of units, when it is known how many bits it gives up. -/
theorem nearestRank_mul {den u shift : Nat} (positive : 0 < den) (bits : Nat.log2 u - 52 = shift) :
    nearestRank (u * den) den =
      min (shift * binade + roundEven (u * den) (den * Nat.pow 2 shift)) infinityRank := by
  rw [nearestRank, Nat.mul_div_cancel _ positive, bits]

/-- The units of a rank are rounded to that rank. -/
theorem nearestRank_unitsOfRank {rank den : Nat} (finite : rank ≤ infinityRank)
    (positive : 0 < den) : nearestRank (unitsOfRank rank * den) den = rank := by
  by_cases subnormal : rank < binade
  -- So few units keep all their bits.
  · have shift : Nat.log2 rank - 52 = 0 := by
      by_cases zero : rank = 0
      · rw [zero]
        rfl
      · have := (Nat.log2_lt zero).mpr subnormal
        omega
    rw [unitsOfRank, if_pos subnormal, nearestRank_mul positive shift,
      show Nat.pow 2 0 = 1 from rfl, Nat.mul_one, roundEven_mul positive]
    omega
  -- Any other rank stands for 53 bits and zeros, and it is the zeros that are given up.
  · obtain ⟨exponent, e⟩ : ∃ exponent, rank / binade = exponent + 1 := by
      have : 0 < rank / binade := Nat.div_pos (Nat.le_of_not_lt subnormal) binade_pos
      exact ⟨rank / binade - 1, by omega⟩
    have below : rank % binade < binade := Nat.mod_lt _ binade_pos
    have shift := log2_mul_pow (m := binade + rank % binade) (by omega) (by omega) exponent
    have power : 0 < Nat.pow 2 exponent := twos_pos exponent
    have sum : exponent * binade + (binade + rank % binade) = rank := by
      have := Nat.div_add_mod' rank binade
      rw [e, Nat.add_mul] at this
      omega
    rw [unitsOfRank, if_neg subnormal, e, Nat.add_sub_cancel, nearestRank_mul positive shift,
      Nat.mul_assoc, Nat.mul_comm (Nat.pow 2 exponent) den,
      roundEven_mul (Nat.mul_pos positive power), sum]
    omega

/-! ## The exact expansion -/

/-- Only the lowest rank has no units. -/
theorem unitsOfRank_pos {rank : Nat} (positive : 0 < rank) : 0 < unitsOfRank rank := by
  unfold unitsOfRank
  split
  · exact positive
  · exact Nat.mul_pos (Nat.add_pos_left binade_pos _) (twos_pos _)

/-- The significand of the exact expansion of a positive double is not zero. -/
theorem exact_ne_zero {rank : Nat} (positive : 0 < rank) (n : Nat) :
    unitsOfRank rank * Nat.pow 5 n ≠ 0 :=
  Nat.ne_of_gt (Nat.mul_pos (unitsOfRank_pos positive) (fives_pos n))

/-- The units of a rank are bounded by the binade that the rank is in. -/
theorem unitsOfRank_lt {rank n : Nat} (below : rank < (n + 2) * binade) :
    unitsOfRank rank < Nat.pow 2 (n + 53) := by
  have power : 2 * binade * Nat.pow 2 n = Nat.pow 2 (n + 53) := by
    rw [Nat.mul_comm]
    exact (Nat.pow_add 2 n 53).symm
  unfold unitsOfRank
  split
  next subnormal =>
    have : 2 * binade * 1 ≤ 2 * binade * Nat.pow 2 n := Nat.mul_le_mul_left _ (twos_pos n)
    omega
  next =>
    have rest : rank % binade < binade := Nat.mod_lt _ binade_pos
    have exponent : rank / binade - 1 ≤ n := by
      have : rank / binade < n + 2 := (Nat.div_lt_iff_lt_mul binade_pos).mpr below
      omega
    calc
      (binade + rank % binade) * Nat.pow 2 (rank / binade - 1) <
          2 * binade * Nat.pow 2 (rank / binade - 1) :=
        Nat.mul_lt_mul_of_pos_right (by omega) (twos_pos _)
      _ ≤ 2 * binade * Nat.pow 2 n := Nat.mul_le_mul_left _ (twos_le exponent)
      _ = Nat.pow 2 (n + 53) := power

theorem mul_mul_eq {u f p t : Nat} (h : f * p = t) : u * f * p = u * t := by
  rw [Nat.mul_assoc, h]

/-- There are `2 ^ 1074` units in one, so powers of five make them powers of ten. -/
theorem fives_mul_unitsPerOne : Nat.pow 5 1074 * unitsPerOne = Nat.pow 10 1074 := by
  decide +kernel

/-- A significand with a fitting count of digits is scaled down. -/
theorem ofDecimal_negSucc {negative : Bool} {s e : Nat} (nonzero : s ≠ 0)
    (high : (Nat.repr s).length ≤ e + 311) (low : e + 1 ≤ (Nat.repr s).length + 330) :
    ofDecimal negative s (.negSucc e) =
      nearest negative (s * unitsPerOne) (Nat.pow 10 (e + 1)) := by
  unfold ofDecimal
  dsimp only
  rw [if_neg nonzero, if_neg (by omega), if_neg (by omega)]

/-- A number that is not below a power of ten has more digits than its exponent. -/
theorem lt_length_repr {n k : Nat} (positive : 0 < k) (le : Nat.pow 10 k ≤ n) :
    k < (Nat.repr n).length :=
  Nat.lt_of_not_le fun few => Nat.not_lt_of_le le ((Nat.length_repr_le_iff positive).mp few)

/-- The exact expansion of a finite magnitude has so many digits that it is neither too large for
the format nor too small. -/
theorem length_repr_exact {rank : Nat} (positive : 0 < rank) (finite : rank < infinityRank) :
    743 < (Nat.repr (unitsOfRank rank * Nat.pow 5 1074)).length ∧
      (Nat.repr (unitsOfRank rank * Nat.pow 5 1074)).length ≤ 1384 := by
  constructor
  · refine lt_length_repr (by decide) (Nat.le_trans (m := Nat.pow 5 1074) (by decide +kernel) ?_)
    exact Nat.le_mul_of_pos_left _ (unitsOfRank_pos positive)
  · refine (Nat.length_repr_le_iff (by decide)).mpr ?_
    calc
      unitsOfRank rank * Nat.pow 5 1074 < Nat.pow 2 2098 * Nat.pow 5 1074 :=
        Nat.mul_lt_mul_of_pos_right (unitsOfRank_lt finite) (fives_pos 1074)
      _ < Nat.pow 10 1384 := by decide +kernel

/-- The exact expansion of a finite magnitude reads back. -/
theorem rank_exactDecimal {d : Double} (positive : 0 < d.rank) (finite : d.rank < infinityRank) :
    d.exactDecimal.toDouble.rank = d.rank := by
  obtain ⟨significand, e⟩ : ∃ n, n = unitsOfRank d.rank * Nat.pow 5 1074 := ⟨_, rfl⟩
  obtain ⟨low, high⟩ := length_repr_exact positive finite
  have nonzero := exact_ne_zero positive 1074
  have scaled : unitsOfRank d.rank * Nat.pow 5 1074 * unitsPerOne =
      unitsOfRank d.rank * Nat.pow 10 1074 := mul_mul_eq fives_mul_unitsPerOne
  rw [← e] at low high nonzero scaled
  have expansion : d.exactDecimal.toDouble = ofDecimal false significand (.negSucc 1073) := by
    rw [e]
    rfl
  rw [expansion, ofDecimal_negSucc nonzero (by omega) (by omega), scaled]
  exact nearestRank_unitsOfRank d.rank_le (Nat.pow_pos (by decide))

/-- The shortest decimal of a finite magnitude other than zero reads back. -/
theorem rank_shortest {d : Double} (positive : 0 < d.rank) (finite : d.rank < infinityRank) :
    d.shortest.toDouble.rank = d.rank := by
  unfold shortest
  dsimp only
  generalize found : (List.range 17).findSome? _ = candidate
  cases candidate with
  | none => exact rank_exactDecimal positive finite
  | some c =>
    obtain ⟨count, -, tried⟩ := List.exists_of_findSome?_eq_some found
    simpa using List.find?_some tried

/-- The text of a finite magnitude is that of a decimal number which reads back. -/
theorem magnitudeText_finite {d : Double} (finite : d.rank < infinityRank) :
    ∃ c : Decimal, d.magnitudeText = c.toText ∧ c.toDouble.rank = d.rank := by
  have notInfinite : d.isInfinite = false := beq_eq_false_iff_ne.mpr (Nat.ne_of_lt finite)
  unfold magnitudeText
  rw [notInfinite, if_neg Bool.false_ne_true]
  by_cases zero : d.rank = 0
  · exact ⟨⟨0, 0⟩, by rw [if_pos zero]; rfl, zero.symm⟩
  · refine ⟨d.shortest, by rw [if_neg zero], ?_⟩
    exact rank_shortest (Nat.pos_of_ne_zero zero) finite

/-! ## Reading a text -/

/-- A text without blanks is not trimmed. -/
theorem trim_eq_self {text : List Char} (solid : ∀ c ∈ text, Text.isBlank c = false) :
    Text.trim text = text := by
  have keep : ∀ cs : List Char, (∀ c ∈ cs, Text.isBlank c = false) →
      cs.dropWhile Text.isBlank = cs
    | [], _ => rfl
    | c :: cs, h => by rw [List.dropWhile_cons, h c List.mem_cons_self]; rfl
  rw [Text.trim, keep text solid, keep text.reverse fun c h => solid c (List.mem_reverse.mp h),
    List.reverse_reverse]

theorem toNat_of_isDigit {c : Char} (digit : c.isDigit) : 48 ≤ c.toNat ∧ c.toNat ≤ 57 := by
  simpa [Char.isDigit, UInt32.le_iff_toNat_le] using digit

theorem not_blank_of_isDigit {c : Char} (digit : c.isDigit) : Text.isBlank c = false := by
  have code := toNat_of_isDigit digit
  simp only [Text.isBlank, Text.blankRanges, List.any_cons, List.any_nil, Bool.or_false,
    Bool.or_eq_false_iff, Bool.and_eq_false_iff, decide_eq_false_iff_not]
  omega

theorem toLower_of_isDigit {c : Char} (digit : c.isDigit) : c.toLower = c := by
  have code := toNat_of_isDigit digit
  unfold Char.toLower
  split
  next upper =>
    have : 65 ≤ c.toNat := UInt32.le_iff_toNat_le.mp upper.1
    omega
  next => rfl

/-- No name of an infinity starts with a digit. -/
theorem not_infinity_of_isDigit {c : Char} {rest : List Char} (digit : c.isDigit) :
    infinityNames.contains (String.ofList ((c :: rest).map Char.toLower)) = false := by
  have named : ∀ name ∈ infinityNames, name.toList.head? = some 'i' := by decide
  refine Bool.eq_false_iff.mpr fun listed => ?_
  have head := named _ (List.contains_iff_mem.mp listed)
  rw [String.toList_ofList, List.map_cons, toLower_of_isDigit digit] at head
  obtain rfl : c = 'i' := Option.some.inj head
  exact absurd digit (by decide)

/-- A text that starts with a digit has no sign. -/
theorem signed_of_isDigit {c : Char} {rest : List Char} (digit : c.isDigit) :
    signed (c :: rest) = (false, c :: rest) := by
  unfold signed
  split
  next e => exact absurd ((List.cons.inj e).1 ▸ digit) (by decide)
  next e => exact absurd ((List.cons.inj e).1 ▸ digit) (by decide)
  next => rfl

/-- A decimal number with a sign before it reads as the double with that sign. -/
theorem parse?_sign (negative : Bool) (d : Decimal) :
    parse? ((if negative then "-" else "") ++ d.toText) =
      some (ofDecimal negative d.significand d.exponent) := by
  obtain ⟨c, rest, text, digit, tail⟩ := d.toText_shape
  obtain ⟨significand, exponent, read, same⟩ := d.decimal?_toText
  have solid : ∀ x ∈ c :: rest, Text.isBlank x = false := by
    intro x h
    rcases List.mem_cons.mp h with rfl | h
    · exact not_blank_of_isDigit digit
    · rcases tail x h with digit | rfl
      · exact not_blank_of_isDigit digit
      · decide
  have sign : signed (Text.trim ((if negative then "-" else "") ++ d.toText).toList) =
      (negative, c :: rest) := by
    cases negative with
    | false =>
      have plain : (if false then "-" else "") ++ d.toText = d.toText := String.empty_append
      rw [plain, text, trim_eq_self solid, signed_of_isDigit digit]
    | true =>
      have minus : ((if true then "-" else "") ++ d.toText).toList = '-' :: c :: rest := by
        rw [if_pos rfl, String.toList_append, text]
        rfl
      rw [minus, trim_eq_self (List.forall_mem_cons.mpr ⟨by decide, solid⟩)]
      rfl
  rw [parse?, sign]
  dsimp only
  rw [not_infinity_of_isDigit digit, ← text, read]
  exact congrArg some (same negative)

/-- The sign of a decimal number does not bear on its magnitude. -/
theorem ofDecimal_eq_withSign (negative : Bool) (significand : Nat) (exponent : Int) :
    ofDecimal negative significand exponent =
      withSign negative (ofDecimal false significand exponent) := by
  unfold ofDecimal
  dsimp only
  repeat' split
  all_goals rfl

/-- **The text of a double reads as that double.** -/
theorem parse?_toText (d : Double) : parse? d.toText = some d := by
  by_cases finite : d.rank < infinityRank
  · obtain ⟨c, text, rank⟩ := magnitudeText_finite finite
    have same : withSign d.negative c.toDouble = d := by
      obtain ⟨negative, r, le⟩ := d
      simp only [withSign, rank]
    rw [toText, text, parse?_sign, ofDecimal_eq_withSign]
    exact congrArg some same
  · have infinite : d = infinity d.negative := by
      have top : d.rank = infinityRank := Nat.le_antisymm d.rank_le (Nat.le_of_not_lt finite)
      obtain ⟨negative, r, le⟩ := d
      dsimp only at top
      subst top
      rfl
    rw [infinite]
    cases d.negative <;> rfl

end Double

end SqlTree
