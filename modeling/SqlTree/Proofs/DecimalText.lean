import SqlTree.Double.Shortest

/-!
# Decimal text read back

A decimal number in positional notation is a run of digits, perhaps with a point in it. Reading it
gives a decimal number again, whose significand and exponent may be others but whose double is the
same (`Decimal.decimal?_toText`).
-/

namespace SqlTree

namespace Text

/-- The value of a character that is a decimal digit. -/
def digitValue (c : Char) : Nat := c.toNat - '0'.toNat

/-- A character that is a digit reads as one. -/
theorem digit?_of_isDigit {c : Char} (h : c.isDigit) : digit? c = some (digitValue c) := by
  have range : '0' ≤ c ∧ c ≤ '9' := by
    simpa [Char.isDigit, Char.le_def] using h
  rw [digit?, if_pos range, digitValue]

/-- A run of digits is read up to where no digit follows. -/
theorem digits_append {cs rest : List Char} (all : ∀ c ∈ cs, c.isDigit)
    (stop : digits rest = ([], rest)) : digits (cs ++ rest) = (cs.map digitValue, rest) := by
  induction cs with
  | nil => exact stop
  | cons c cs ih =>
    have others := ih fun d hd => all d (List.mem_cons_of_mem _ hd)
    simp only [List.cons_append, digits, digit?_of_isDigit (all c List.mem_cons_self), others,
      List.map_cons]

/-- A text of nothing but digits is read to its end. -/
theorem digits_eq_self {cs : List Char} (all : ∀ c ∈ cs, c.isDigit) :
    digits cs = (cs.map digitValue, []) := by
  have read : digits (cs ++ []) = (cs.map digitValue, []) := digits_append all rfl
  rwa [List.append_nil] at read

/-- Zeros in front do not count. -/
theorem numberOf_replicate_zero_append (k : Nat) (ds : List Nat) :
    numberOf (List.replicate k 0 ++ ds) = numberOf ds := by
  induction k with
  | zero => rfl
  | succ k ih =>
    rw [← ih]
    rfl

/-- Each zero at the end makes the number ten times as large. -/
theorem numberOf_append_replicate_zero (k : Nat) (ds : List Nat) :
    numberOf (ds ++ List.replicate k 0) = numberOf ds * Nat.pow 10 k := by
  induction k with
  | zero => simp
  | succ k ih =>
    have last : numberOf (ds ++ List.replicate (k + 1) 0) =
        numberOf (ds ++ List.replicate k 0) * 10 := by
      rw [List.replicate_succ', ← List.append_assoc]
      simp [numberOf]
    rw [last, ih, Nat.mul_assoc]
    rfl

/-- The digits of a number write the number. -/
theorem numberOf_toDigits (n : Nat) : numberOf ((Nat.toDigits 10 n).map digitValue) = n := by
  have value : Nat.ofDigitChars 10 (Nat.toDigits 10 n) 0 = n :=
    Nat.ofDigitChars_toDigits (by decide) (by decide)
  rw [Nat.ofDigitChars] at value
  rw [numberOf, List.foldl_map]
  simpa only [Nat.mul_comm, digitValue] using value

end Text

namespace Double

open Text (digitValue)

theorem isDigit_of_mem_toDigits {n : Nat} {c : Char} (h : c ∈ Nat.toDigits 10 n) : c.isDigit :=
  Nat.isDigit_of_mem_toDigits (by decide) (by decide) h

theorem isDigit_of_mem_zeros {k : Nat} {c : Char} (h : c ∈ List.replicate k '0') : c.isDigit := by
  rw [List.eq_of_mem_replicate h]
  rfl

/-- Each zero at the end adds a digit. -/
theorem length_repr_mul_pow {s : Nat} (positive : 0 < s) (k : Nat) :
    (Nat.repr (s * Nat.pow 10 k)).length = (Nat.repr s).length + k := by
  have digits : Nat.toDigits 10 (s * Nat.pow 10 k) = Nat.toDigits 10 s ++ List.replicate k '0' := by
    induction k with
    | zero => simp
    | succ k ih =>
      have more : 0 < s * Nat.pow 10 k := Nat.mul_pos positive (Nat.pow_pos (by decide))
      have last : s * Nat.pow 10 (k + 1) = 10 * (s * Nat.pow 10 k) + 0 := by
        have shift : Nat.pow 10 (k + 1) = Nat.pow 10 k * 10 := rfl
        rw [shift, ← Nat.mul_assoc]
        omega
      rw [last, ← Nat.toDigits_append_toDigits (by decide) more (by decide), ih,
        List.replicate_succ', ← List.append_assoc]
      rfl
  rw [← String.length_toList, ← String.length_toList, Nat.toList_repr, Nat.toList_repr, digits,
    List.length_append, List.length_replicate]

/-- The double nearest to a decimal without places, spelled out. -/
theorem ofDecimal_ofNat (negative : Bool) (s e : Nat) :
    ofDecimal negative s (.ofNat e) =
      if s = 0 then zero negative
      else if 310 < ((Nat.repr s).length + Int.ofNat e : Int) then infinity negative
      else if ((Nat.repr s).length + Int.ofNat e : Int) < -330 then zero negative
      else nearest negative (s * Nat.pow 10 e * unitsPerOne) 1 := rfl

/-- Zeros may be moved from the exponent to the significand. -/
theorem ofDecimal_mul_pow (negative : Bool) (s k : Nat) :
    ofDecimal negative (s * Nat.pow 10 k) 0 = ofDecimal negative s (.ofNat k) := by
  change ofDecimal negative (s * Nat.pow 10 k) (.ofNat 0) = _
  rw [ofDecimal_ofNat, ofDecimal_ofNat]
  by_cases zero : s = 0
  · rw [if_pos zero, if_pos (by rw [zero, Nat.zero_mul])]
  · have positive : 0 < s := Nat.pos_of_ne_zero zero
    have more : s * Nat.pow 10 k ≠ 0 :=
      Nat.mul_ne_zero zero (Nat.ne_of_gt (Nat.pow_pos (by decide)))
    have places : ((Nat.repr (s * Nat.pow 10 k)).length + Int.ofNat 0 : Int) =
        (Nat.repr s).length + Int.ofNat k := by
      rw [length_repr_mul_pow positive, Int.ofNat_eq_natCast, Int.ofNat_eq_natCast]
      omega
    rw [if_neg zero, if_neg more, places, show Nat.pow 10 0 = 1 from rfl, Nat.mul_one]

/-- A run of digits is a whole number. -/
theorem decimal?_digits {cs : List Char} (all : ∀ c ∈ cs, c.isDigit) (some_digit : cs ≠ []) :
    decimal? cs = some (Text.numberOf (cs.map digitValue), 0) := by
  rw [decimal?, Text.digits_eq_self all]
  simp [exponent?, some_digit]

/-- Two runs of digits with a point between them have as many places as the second. -/
theorem decimal?_point {whole fraction : List Char} (first : ∀ c ∈ whole, c.isDigit)
    (second : ∀ c ∈ fraction, c.isDigit) (some_digit : whole ≠ []) :
    decimal? (whole ++ '.' :: fraction) =
      some (Text.numberOf ((whole ++ fraction).map digitValue), -(fraction.length : Int)) := by
  have point : Text.digits ('.' :: fraction) = ([], '.' :: fraction) := rfl
  rw [decimal?, Text.digits_append first point]
  simp [Text.digits_eq_self second, exponent?, some_digit]

namespace Decimal

/-- Positional notation is a run of digits with zeros after it, or two runs of digits with a point
between them that have zeros in front. -/
theorem toList_toText (d : Decimal) :
    (∃ k, d.exponent = .ofNat k ∧
        d.toText.toList = Nat.toDigits 10 d.significand ++ List.replicate k '0') ∨
      ∃ k zeros whole fraction, d.exponent = .negSucc k ∧
        d.toText.toList = whole ++ '.' :: fraction ∧ whole ≠ [] ∧ fraction.length = k + 1 ∧
        whole ++ fraction = List.replicate zeros '0' ++ Nat.toDigits 10 d.significand := by
  obtain ⟨s, exponent⟩ := d
  cases exponent with
  | ofNat k =>
    left
    refine ⟨k, rfl, ?_⟩
    simp [toText]
  | negSucc k =>
    right
    have count : (Nat.repr s).length = (Nat.toDigits 10 s).length := by
      rw [← String.length_toList, Nat.toList_repr]
    let zeros := k + 1 + 1 - (Nat.toDigits 10 s).length
    let padded := List.replicate zeros '0' ++ Nat.toDigits 10 s
    have length : k + 1 < padded.length := by
      simp only [padded, zeros, List.length_append, List.length_replicate]
      omega
    refine ⟨k, zeros, padded.take (padded.length - (k + 1)),
      padded.drop (padded.length - (k + 1)), rfl, ?_, ?_, ?_, List.take_append_drop _ _⟩
    · simp [toText, padded, zeros, count]
    · have : 0 < padded.length - (k + 1) := by omega
      intro empty
      have := congrArg List.length empty
      simp only [List.length_take, List.length_nil] at this
      omega
    · rw [List.length_drop]
      omega

/-- Positional notation starts with a digit and has nothing but digits and a point. -/
theorem toText_shape (d : Decimal) :
    ∃ c rest, d.toText.toList = c :: rest ∧ c.isDigit ∧ ∀ x ∈ rest, x.isDigit ∨ x = '.' := by
  have digit : ∀ c ∈ Nat.toDigits 10 d.significand, c.isDigit := fun c => isDigit_of_mem_toDigits
  have zero : ∀ k, ∀ c ∈ List.replicate k '0', c.isDigit := fun k c => isDigit_of_mem_zeros
  obtain ⟨k, -, text⟩ | ⟨k, zeros, whole, fraction, -, text, some_digit, -, all⟩ := d.toList_toText
  · obtain ⟨c, rest, e⟩ := List.exists_cons_of_ne_nil (Nat.toDigits_ne_nil (n := d.significand))
    rw [e, List.cons_append] at text
    rw [e] at digit
    refine ⟨c, _, text, digit c List.mem_cons_self, fun x h => .inl ?_⟩
    exact (List.mem_append.mp h).elim (fun h => digit x (List.mem_cons_of_mem _ h)) (zero k x)
  · have digits : ∀ c ∈ whole ++ fraction, c.isDigit := by
      intro c h
      rw [all] at h
      exact (List.mem_append.mp h).elim (zero zeros c) (digit c)
    obtain ⟨c, rest, e⟩ := List.exists_cons_of_ne_nil some_digit
    rw [e, List.cons_append] at text digits
    refine ⟨c, _, text, digits c List.mem_cons_self, fun x h => ?_⟩
    rcases List.mem_append.mp h with h | h
    · exact .inl (digits x (List.mem_cons_of_mem _ (List.mem_append_left _ h)))
    · rcases List.mem_cons.mp h with rfl | h
      · exact .inr rfl
      · exact .inl (digits x (List.mem_cons_of_mem _ (List.mem_append_right _ h)))

theorem digitValue_zero : digitValue '0' = 0 := rfl

/-- **A decimal number in positional notation reads as one with the same double.** -/
theorem decimal?_toText (d : Decimal) :
    ∃ significand exponent, decimal? d.toText.toList = some (significand, exponent) ∧
      ∀ negative, ofDecimal negative significand exponent =
        ofDecimal negative d.significand d.exponent := by
  have digit : ∀ c ∈ Nat.toDigits 10 d.significand, c.isDigit := fun c => isDigit_of_mem_toDigits
  have zero : ∀ k, ∀ c ∈ List.replicate k '0', c.isDigit := fun k c => isDigit_of_mem_zeros
  obtain ⟨k, e, text⟩ | ⟨k, zeros, whole, fraction, e, text, some_digit, places, all⟩ :=
    d.toList_toText
  · have digits : ∀ c ∈ Nat.toDigits 10 d.significand ++ List.replicate k '0', c.isDigit := by
      intro c h
      exact (List.mem_append.mp h).elim (digit c) (zero k c)
    refine ⟨d.significand * Nat.pow 10 k, 0, ?_, fun negative => ?_⟩
    · rw [text, decimal?_digits digits (by simp), List.map_append, List.map_replicate,
        digitValue_zero, Text.numberOf_append_replicate_zero, Text.numberOf_toDigits]
    · rw [e, ofDecimal_mul_pow]
  · have digits : ∀ c ∈ whole ++ fraction, c.isDigit := by
      intro c h
      rw [all] at h
      exact (List.mem_append.mp h).elim (zero zeros c) (digit c)
    refine ⟨d.significand, -(fraction.length : Int), ?_, fun negative => ?_⟩
    · rw [text, decimal?_point (fun c h => digits c (List.mem_append_left _ h))
        (fun c h => digits c (List.mem_append_right _ h)) some_digit, all, List.map_append,
        List.map_replicate, digitValue_zero, Text.numberOf_replicate_zero_append,
        Text.numberOf_toDigits]
    · rw [e, places]
      rfl

end Decimal

end Double

end SqlTree
