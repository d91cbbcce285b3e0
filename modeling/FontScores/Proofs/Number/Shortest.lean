import Mathlib
import FontScores.Number.Decimal

/-!
# The shortest numeral is read back

Rounding is exact on the numbers of a format, and reading a numeral depends only on its value, not
on where its zeros stand.  So the numeral with all its digits is read back as the magnitude it was
written for; the search for a shorter one stops only at numerals for which this was tested.
-/

namespace FontScores

/-! ## Rounding -/

theorem divNearest_mul_right (num den : Nat) {factor : Nat} (positive : 0 < factor) :
    divNearest (num * factor) (den * factor) = divNearest num den := by
  have above : den * factor < 2 * (num % den * factor) ↔ den < 2 * (num % den) := by
    rw [← Nat.mul_assoc]
    exact Nat.mul_lt_mul_right positive
  have half : 2 * (num % den * factor) = den * factor ↔ 2 * (num % den) = den := by
    rw [← Nat.mul_assoc]
    exact Nat.mul_left_inj (Nat.ne_of_gt positive)
  simp only [divNearest, Nat.mul_div_mul_right _ _ positive, Nat.mul_mod_mul_right, above, half]

theorem divNearest_exact (quotient : Nat) {den : Nat} (positive : 0 < den) :
    divNearest (quotient * den) den = quotient := by
  simp only [divNearest, Nat.mul_div_cancel _ positive, Nat.mul_mod_left]
  split
  · omega
  · rfl

namespace Format

variable {F : Format}

theorem nearest_mul_right (num den : Nat) {factor : Nat} (positive : 0 < factor) :
    F.nearest (num * factor) (den * factor) = F.nearest num den := by
  simp only [nearest, Nat.mul_div_mul_right _ _ positive]
  rw [Nat.mul_right_comm, divNearest_mul_right _ _ positive]

/-- A finite magnitude in terms of its two fields. -/
theorem units_of_exponent {exponent fraction : Nat} (small : fraction < 2 ^ F.fractionBits) :
    F.units ((exponent + 1) * 2 ^ F.fractionBits + fraction) =
      (2 ^ F.fractionBits + fraction) * 2 ^ exponent := by
  have positive : 0 < 2 ^ F.fractionBits := Nat.pow_pos (by decide)
  have quotient : ((exponent + 1) * 2 ^ F.fractionBits + fraction) / 2 ^ F.fractionBits =
      exponent + 1 := by
    rw [Nat.mul_comm, Nat.mul_add_div positive, Nat.div_eq_of_lt small, Nat.add_zero]
  have rest : ((exponent + 1) * 2 ^ F.fractionBits + fraction) % 2 ^ F.fractionBits =
      fraction := by
    rw [Nat.mul_comm, Nat.mul_add_mod, Nat.mod_eq_of_lt small]
  simp [units, quotient, rest]

/-- Rounding leaves the numbers of the format as they are. -/
theorem nearest_units {magnitude : Nat} (finite : magnitude < F.infinity) :
    F.nearest (F.units magnitude) 1 = magnitude := by
  have positive : 0 < 2 ^ F.fractionBits := Nat.pow_pos (by decide)
  have whole := Nat.div_add_mod' magnitude (2 ^ F.fractionBits)
  have small := Nat.mod_lt magnitude positive
  generalize magnitude % 2 ^ F.fractionBits = fraction at whole small
  -- Below the first power the magnitude counts grains itself, and nothing is shifted out.
  cases exponentField : magnitude / 2 ^ F.fractionBits with
  | zero =>
    have below : magnitude < 2 ^ F.fractionBits := by
      simpa [Nat.div_eq_zero_iff, Nat.ne_of_gt positive] using exponentField
    have unchanged : F.units magnitude = magnitude := by
      simp [units, exponentField, Nat.mod_eq_of_lt below]
    have noShift : magnitude.log2 - F.fractionBits = 0 := by
      by_cases zero : magnitude = 0
      · simp [zero]
      · have := (Nat.log2_lt zero).mpr below
        omega
    rw [unchanged]
    simp only [nearest, Nat.div_one, noShift, Nat.zero_mul, Nat.zero_add, Nat.pow_zero,
      Nat.mul_one]
    have whole : divNearest magnitude 1 = magnitude := by
      simpa using divNearest_exact magnitude Nat.one_pos
    rw [whole]
    omega
  | succ exponent =>
    rw [exponentField] at whole
    subst whole
    rw [units_of_exponent small]
    -- The shift is the exponent, so the quotient is exact and no digit is lost.
    have width : ((2 ^ F.fractionBits + fraction) * 2 ^ exponent).log2 =
        F.fractionBits + exponent := by
      have nonzero : (2 ^ F.fractionBits + fraction) * 2 ^ exponent ≠ 0 := by
        have : 0 < 2 ^ exponent := Nat.pow_pos (by decide)
        exact Nat.mul_ne_zero (by omega) (by omega)
      rw [Nat.log2_eq_iff nonzero, Nat.pow_succ, Nat.pow_add]
      constructor
      · exact Nat.mul_le_mul_right _ (by omega)
      · rw [Nat.mul_right_comm]
        exact Nat.mul_lt_mul_of_pos_right (by omega) (Nat.pow_pos (by decide))
    simp only [nearest, Nat.div_one, width, Nat.add_sub_cancel_left, Nat.one_mul]
    rw [divNearest_exact _ (Nat.pow_pos (by decide)), ← Nat.add_assoc, ← Nat.succ_mul]
    exact Nat.min_eq_left (Nat.le_of_lt finite)

/-! ## Numerals of the same value -/

theorem digitCount_pos (n : Nat) : 0 < digitCount n := Nat.length_toDigits_pos

theorem digitCount_le_iff {n count : Nat} (positive : 0 < count) :
    digitCount n ≤ count ↔ n < 10 ^ count :=
  Nat.length_toDigits_le_iff (by decide) positive

theorem digitCount_mul_ten {n : Nat} (positive : 0 < n) :
    digitCount (n * 10) = digitCount n + 1 := by
  have split : Nat.toDigits 10 (n * 10) = Nat.toDigits 10 n ++ Nat.toDigits 10 0 := by
    rw [Nat.toDigits_append_toDigits (by decide) positive (by decide), Nat.mul_comm, Nat.add_zero]
  simp [digitCount, split]

/-- A zero at the end of the digits is worth one in the exponent. -/
theorem ofDecimal_mul_ten (digits : Nat) (exponent : Int) :
    F.ofDecimal (digits * 10) exponent = F.ofDecimal digits (exponent + 1) := by
  by_cases zero : digits = 0
  · simp [ofDecimal, zero]
  have top : (digitCount (digits * 10) : Int) + exponent = digitCount digits + (exponent + 1) := by
    rw [digitCount_mul_ten (Nat.pos_of_ne_zero zero)]
    omega
  have stillNonzero : digits * 10 ≠ 0 := by omega
  simp only [ofDecimal, zero, stillNonzero, if_false, top]
  split
  · rfl
  split
  · rfl
  cases exponent with
  | ofNat power =>
    change F.nearest _ 1 = F.nearest (digits * 10 ^ (power + 1) * 2 ^ F.grainExponent) 1
    rw [Nat.pow_succ', Nat.mul_assoc digits]
  | negSucc power =>
    cases power with
    | zero =>
      change F.nearest _ (10 ^ 1) = F.nearest (digits * 10 ^ 0 * 2 ^ F.grainExponent) 1
      have scaled :=
        nearest_mul_right (F := F) (digits * 2 ^ F.grainExponent) 1 (by decide : 0 < 10)
      rw [Nat.mul_right_comm, Nat.pow_one, Nat.pow_zero, Nat.mul_one]
      simpa using scaled
    | succ power =>
      change F.nearest _ (10 ^ (power + 1 + 1)) =
        F.nearest (digits * 2 ^ F.grainExponent) (10 ^ (power + 1))
      rw [Nat.mul_right_comm, Nat.pow_succ _ (power + 1)]
      exact nearest_mul_right _ _ (by decide)

theorem ofDecimal_mul_pow (digits zeros : Nat) (exponent : Int) :
    F.ofDecimal (digits * 10 ^ zeros) exponent = F.ofDecimal digits (exponent + zeros) := by
  induction zeros generalizing exponent with
  | zero => simp
  | succ zeros ih =>
    rw [Nat.pow_succ, ← Nat.mul_assoc, ofDecimal_mul_ten, ih]
    congr 1
    omega

theorem ofDecimal_dropZeros (digits : Nat) (exponent : Int) :
    F.ofDecimal (dropZeros digits exponent).digits (dropZeros digits exponent).exponent =
      F.ofDecimal digits exponent := by
  fun_induction dropZeros digits exponent with
  | case1 digits exponent ends ih =>
    rw [ih, ← ofDecimal_mul_ten, Nat.div_mul_cancel (Nat.dvd_of_mod_eq_zero ends.2)]
  | case2 => rfl

/-! ## The search -/

theorem units_lt {magnitude : Nat} (finite : magnitude < F.infinity) :
    F.units magnitude < 2 ^ (F.fractionBits + 2 ^ F.exponentBits) := by
  have positive : 0 < 2 ^ F.fractionBits := Nat.pow_pos (by decide)
  have small := Nat.mod_lt magnitude positive
  have short : magnitude / 2 ^ F.fractionBits < 2 ^ F.exponentBits - 1 :=
    (Nat.div_lt_iff_lt_mul positive).mpr finite
  simp only [units]
  generalize magnitude / 2 ^ F.fractionBits = exponent at short
  generalize magnitude % 2 ^ F.fractionBits = fraction at small
  split
  · exact Nat.lt_of_lt_of_le small (Nat.pow_le_pow_right (by decide) (Nat.le_add_right _ _))
  · calc
      (2 ^ F.fractionBits + fraction) * 2 ^ (exponent - 1)
      _ < 2 ^ (F.fractionBits + 1) * 2 ^ (exponent - 1) := by
        refine Nat.mul_lt_mul_of_pos_right ?_ (Nat.pow_pos (by decide))
        rw [Nat.pow_succ]
        omega
      _ ≤ 2 ^ (F.fractionBits + 2 ^ F.exponentBits) := by
        rw [← Nat.pow_add]
        exact Nat.pow_le_pow_right (by decide) (by omega)

/-- The numeral with all digits is read back, if the reader does not give up above the grain. -/
theorem ofDecimal_exact (reaching : F.grainExponent ≤ 2 ^ F.exponentBits) {magnitude : Nat}
    (finite : magnitude < F.infinity) :
    F.ofDecimal (F.units magnitude * 5 ^ F.grainExponent) (-F.grainExponent) = magnitude := by
  have fives : 0 < 5 ^ F.grainExponent := Nat.pow_pos (by decide)
  have rounded := nearest_units finite
  by_cases zero : F.units magnitude = 0
  · rw [zero] at rounded
    simpa [ofDecimal, zero, nearest, divNearest] using rounded
  have nonzero : F.units magnitude * 5 ^ F.grainExponent ≠ 0 := by
    exact Nat.mul_ne_zero zero (Nat.ne_of_gt fives)
  have short : digitCount (F.units magnitude * 5 ^ F.grainExponent) ≤
      2 ^ F.exponentBits + F.grainExponent := by
    rw [digitCount_le_iff (Nat.lt_of_lt_of_le (Nat.pow_pos (by decide)) (Nat.le_add_right _ _))]
    have fractionBits : F.fractionBits ≤ F.grainExponent := Nat.le_add_left _ _
    calc
      F.units magnitude * 5 ^ F.grainExponent
      _ < 2 ^ (F.fractionBits + 2 ^ F.exponentBits) * 5 ^ F.grainExponent :=
        Nat.mul_lt_mul_of_pos_right (units_lt finite) fives
      _ ≤ 2 ^ (F.grainExponent + 2 ^ F.exponentBits) * 5 ^ F.grainExponent :=
        Nat.mul_le_mul_right _ (Nat.pow_le_pow_right (by decide) (by omega))
      _ = 2 ^ 2 ^ F.exponentBits * 10 ^ F.grainExponent := by
        rw [Nat.pow_add, Nat.mul_comm (2 ^ F.grainExponent), Nat.mul_assoc, ← Nat.mul_pow]
      _ ≤ 10 ^ 2 ^ F.exponentBits * 10 ^ F.grainExponent :=
        Nat.mul_le_mul_right _ (Nat.pow_le_pow_left (by decide) _)
      _ = 10 ^ (2 ^ F.exponentBits + F.grainExponent) := (Nat.pow_add ..).symm
  have some := digitCount_pos (F.units magnitude * 5 ^ F.grainExponent)
  have reach : F.decimalReach = (2 ^ F.exponentBits : Nat) := rfl
  simp only [ofDecimal, nonzero, if_false]
  rw [if_neg (by omega), if_neg (by omega)]
  cases grain : F.grainExponent with
  | zero => simpa [grain] using rounded
  | succ less =>
    change F.nearest (F.units magnitude * 5 ^ (less + 1) * 2 ^ (less + 1)) (10 ^ (less + 1)) = _
    rw [Nat.mul_assoc, ← Nat.mul_pow]
    simpa using (nearest_mul_right (F.units magnitude) 1 (Nat.pow_pos (by decide))).trans rounded

theorem reaching_single : single.grainExponent ≤ 2 ^ single.exponentBits := by decide

variable {tie : TieRule} {magnitude exact cut : Nat}

/-- A shorter numeral is taken only if it is read back. -/
theorem ofDecimal_shorterNumeral {numeral : Decimal}
    (found : F.shorterNumeral? tie magnitude exact cut = some numeral) :
    F.ofDecimal numeral.digits numeral.exponent = magnitude := by
  simp only [shorterNumeral?, Option.map_eq_some_iff] at found
  obtain ⟨digits, chosen, rfl⟩ := found
  rw [ofDecimal_dropZeros]
  split at chosen
  next below above =>
    simp only [decide_eq_true_eq] at below above
    split at chosen
    · exact Option.some.inj chosen ▸ below
    · split at chosen
      · exact Option.some.inj chosen ▸ below
      · exact Option.some.inj chosen ▸ above
  next below _ => exact Option.some.inj chosen ▸ of_decide_eq_true below
  next _ above => exact Option.some.inj chosen ▸ of_decide_eq_true above
  · cases chosen

theorem ofDecimal_searchNumeral (whole : F.ofDecimal exact (-F.grainExponent) = magnitude) :
    F.ofDecimal (F.searchNumeral tie magnitude exact cut).digits
      (F.searchNumeral tie magnitude exact cut).exponent = magnitude := by
  induction cut with
  | zero => exact (ofDecimal_dropZeros ..).trans whole
  | succ cut ih =>
    simp only [searchNumeral]
    split
    next numeral found => exact ofDecimal_shorterNumeral found
    · exact ih

/-- The shortest numeral of a finite magnitude is read back as that magnitude. -/
theorem ofDecimal_shortest (reaching : F.grainExponent ≤ 2 ^ F.exponentBits)
    (finite : magnitude < F.infinity) :
    F.ofDecimal (F.shortest tie magnitude).digits (F.shortest tie magnitude).exponent =
      magnitude :=
  ofDecimal_searchNumeral (ofDecimal_exact reaching finite)

end Format

end FontScores
