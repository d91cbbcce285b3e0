import Mathlib
import FontScores.Number.Rounding
import FontScores.Proofs.Number.Shortest

/-!
# Comparing numbers is comparing values

Two numbers are compared by their magnitudes, without looking into the fields.  A finite number is
a whole count of grains, and the count grows with the magnitude; so the comparison of magnitudes is
the comparison of what the numbers are worth, on a line that has both infinities.
-/

namespace FontScores

namespace Format

variable {F : Format}

theorem units_of_small {magnitude : Nat} (small : magnitude < 2 ^ F.fractionBits) :
    F.units magnitude = magnitude := by
  simp [units, Nat.div_eq_of_lt small, Nat.mod_eq_of_lt small]

/-- The next magnitude counts more grains, also where the exponent field moves up. -/
theorem units_lt_units_succ (magnitude : Nat) : F.units magnitude < F.units (magnitude + 1) := by
  have positive : 0 < 2 ^ F.fractionBits := Nat.pow_pos (by decide)
  -- The field of the exponent is empty, moves from empty to one, or is at least one already.
  rcases Nat.lt_trichotomy (magnitude + 1) (2 ^ F.fractionBits) with below | edge | above
  · rw [units_of_small below, units_of_small (Nat.lt_of_succ_lt below)]
    exact Nat.lt_succ_self _
  · have one : F.units ((0 + 1) * 2 ^ F.fractionBits + 0) = (2 ^ F.fractionBits + 0) * 2 ^ 0 :=
      units_of_exponent positive
    simp only [Nat.zero_add, Nat.one_mul, Nat.add_zero, Nat.pow_zero, Nat.mul_one] at one
    rw [edge, one, units_of_small (by omega)]
    omega
  · obtain ⟨exponent, field⟩ : ∃ exponent, magnitude / 2 ^ F.fractionBits = exponent + 1 :=
      Nat.exists_eq_succ_of_ne_zero (Nat.div_pos (by omega) positive).ne'
    have whole := Nat.div_add_mod' magnitude (2 ^ F.fractionBits)
    have small := Nat.mod_lt magnitude positive
    rw [field] at whole
    generalize magnitude % 2 ^ F.fractionBits = fraction at whole small
    rw [← whole, units_of_exponent small]
    have power : 0 < 2 ^ exponent := Nat.pow_pos (by decide)
    by_cases fits : fraction + 1 < 2 ^ F.fractionBits
    · rw [Nat.add_assoc, units_of_exponent fits]
      exact Nat.mul_lt_mul_of_pos_right (by omega) power
    · have full : (exponent + 1) * 2 ^ F.fractionBits + fraction + 1 =
          (exponent + 1 + 1) * 2 ^ F.fractionBits + 0 := by
        rw [Nat.add_mul (exponent + 1) 1]
        omega
      rw [full, units_of_exponent positive, Nat.pow_succ, Nat.mul_comm (2 ^ exponent),
        ← Nat.mul_assoc]
      exact Nat.mul_lt_mul_of_pos_right (by omega) power

theorem units_strictMono : StrictMono F.units := strictMono_nat_of_lt_succ units_lt_units_succ

end Format

namespace Binary

variable {F : Format} {x y : Binary F}

/-- What a number is worth, in grains.  What is no number gets a value too, which means nothing. -/
def value (x : Binary F) : WithBot (WithTop Int) :=
  if x.isFinite then ((x.grains : WithTop Int) : WithBot (WithTop Int))
  else if x.negative then ⊥
  else ((⊤ : WithTop Int) : WithBot (WithTop Int))

theorem grains_lt_grains_iff : x.grains < y.grains ↔ x.position < y.position := by
  have zero : F.units 0 = 0 := Format.units_of_small (Nat.pow_pos (by decide))
  have left : F.units x.magnitude < F.units y.magnitude ↔ x.magnitude < y.magnitude :=
    Format.units_strictMono.lt_iff_lt
  have right : F.units y.magnitude < F.units x.magnitude ↔ y.magnitude < x.magnitude :=
    Format.units_strictMono.lt_iff_lt
  have one : 0 < F.units x.magnitude ↔ 0 < x.magnitude := by
    simpa only [zero] using Format.units_strictMono (F := F).lt_iff_lt (a := 0)
  have two : 0 < F.units y.magnitude ↔ 0 < y.magnitude := by
    simpa only [zero] using Format.units_strictMono (F := F).lt_iff_lt (a := 0)
  simp only [grains, position]
  -- Each sign is taken apart; a zero has the same place with either sign.
  split <;> split <;> omega

theorem value_lt_value_iff (wide : 0 < F.infinity) (number : x.isNaN = false)
    (other : y.isNaN = false) : x.value < y.value ↔ x.position < y.position := by
  simp only [isNaN, decide_eq_false_iff_not] at number other
  have inside : x.grains < y.grains ↔ x.position < y.position := grains_lt_grains_iff
  have top (count : Int) : ((count : WithTop Int) : WithBot (WithTop Int)) < ⊤ :=
    WithBot.coe_lt_coe.mpr (WithTop.coe_lt_top count)
  by_cases one : x.magnitude < F.infinity <;> by_cases two : y.magnitude < F.infinity
  · simpa [value, isFinite, one, two] using inside
  -- One of them is infinite, so its magnitude is the largest and its sign decides.
  all_goals
    simp only [value, isFinite, one, two, position]
    cases x.negative <;> cases y.negative <;> simp [top] <;> omega

theorem value_le_value_iff (wide : 0 < F.infinity) (number : x.isNaN = false)
    (other : y.isNaN = false) : x.value ≤ y.value ↔ x.position ≤ y.position := by
  rw [← not_lt, value_lt_value_iff wide other number, not_lt]

theorem value_eq_value_iff (wide : 0 < F.infinity) (number : x.isNaN = false)
    (other : y.isNaN = false) : x.value = y.value ↔ x.position = y.position := by
  rw [le_antisymm_iff, le_antisymm_iff, value_le_value_iff wide number other,
    value_le_value_iff wide other number]

theorem less_iff (wide : 0 < F.infinity) :
    x.less y = true ↔ x.isNaN = false ∧ y.isNaN = false ∧ x.value < y.value := by
  simp only [less, Bool.and_eq_true, Bool.not_eq_true', decide_eq_true_eq, and_assoc]
  exact and_congr_right fun number => and_congr_right fun other =>
    (value_lt_value_iff wide number other).symm

theorem lessEq_iff (wide : 0 < F.infinity) :
    x.lessEq y = true ↔ x.isNaN = false ∧ y.isNaN = false ∧ x.value ≤ y.value := by
  simp only [lessEq, Bool.and_eq_true, Bool.not_eq_true', decide_eq_true_eq, and_assoc]
  exact and_congr_right fun number => and_congr_right fun other =>
    (value_le_value_iff wide number other).symm

theorem equals_iff (wide : 0 < F.infinity) :
    x.equals y = true ↔ x.isNaN = false ∧ y.isNaN = false ∧ x.value = y.value := by
  simp only [equals, Bool.and_eq_true, Bool.not_eq_true', decide_eq_true_eq, and_assoc]
  exact and_congr_right fun number => and_congr_right fun other =>
    (value_eq_value_iff wide number other).symm

end Binary

end FontScores
