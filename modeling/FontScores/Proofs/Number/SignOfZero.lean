import Mathlib
import FontScores.Number.Arithmetic

/-!
# The sign of a zero

The two zeros are one number, and `Binary.Alike` says of two numbers that they differ in nothing but
that sign.  What is taken off a number may be replaced by something alike: the difference stays the
same, or it is a zero and may change its sign.  A square does not show which sign that was.
-/

namespace FontScores.Binary

variable {F : Format} {x y : Binary F}

/-- The same number or mark, but for the sign of a zero. -/
def Alike (x y : Binary F) : Prop := x = y ∨ (x.isZero = true ∧ y.isZero = true)

instance (x y : Binary F) : Decidable (Alike x y) := inferInstanceAs (Decidable (_ ∨ _))

theorem eq_zero_of_isZero (isZero : x.isZero = true) : x = zero F x.negative := by
  obtain ⟨negative, magnitude, bounded⟩ := x
  obtain rfl : magnitude = 0 := of_decide_eq_true isZero
  rfl

theorem grains_zero (negative : Bool) : (zero F negative).grains = 0 := by
  have none : F.units 0 = 0 := by simp [Format.units]
  simp [grains, zero, none]

/-- What is left when a zero is taken off: its sign is seen only where nothing is left. -/
theorem sub_zero [UndefinedSign] (x : Single) (negative : Bool) :
    x.sub (zero _ negative) =
      if x.isNaN || x.isInfinite then x
      else if x.grains = 0 then zero _ (x.negative && !negative)
      else ofGrains _ (decide (x.grains < 0)) x.grains.natAbs 1 := by
  have opposite : (zero Format.single negative).neg = zero _ (!negative) := rfl
  have number (sign : Bool) : (zero Format.single sign).isNaN = false := rfl
  have bounded (sign : Bool) : (zero Format.single sign).isInfinite = false := rfl
  -- A zero has no grains, so the total is what the number itself has.
  simp only [sub, add, opposite, number, bounded, grains_zero, Int.add_zero]
  cases x.isNaN <;> cases x.isInfinite <;> simp [zero]

theorem Alike.sub [UndefinedSign] {y z : Single} (alike : y.Alike z) (x : Single) :
    (x.sub y).Alike (x.sub z) := by
  rcases alike with rfl | ⟨isZero, alsoZero⟩
  · exact .inl rfl
  · rw [eq_zero_of_isZero isZero, eq_zero_of_isZero alsoZero, sub_zero, sub_zero]
    by_cases special : (x.isNaN || x.isInfinite) = true
    · left
      simp only [special, if_true]
    · simp only [special]
      by_cases vanishes : x.grains = 0
      -- Zero minus zero is a zero again, and here its sign can differ.
      · right
        simp only [vanishes, if_true]
        exact ⟨rfl, rfl⟩
      · left
        simp only [vanishes, if_false]

theorem zero_mul_self [UndefinedSign] (negative : Bool) :
    (zero Format.single negative).mul (zero _ negative) = zero _ false := by
  have number : (zero Format.single negative).isNaN = false := rfl
  have bounded : (zero Format.single negative).isInfinite = false := rfl
  simp only [mul, number, bounded, Bool.or_self, Bool.false_eq_true, if_false]
  cases negative <;> decide

theorem Alike.mul_self [UndefinedSign] {x y : Single} (alike : x.Alike y) : x.mul x = y.mul y := by
  rcases alike with rfl | ⟨isZero, alsoZero⟩
  · rfl
  · rw [eq_zero_of_isZero isZero, eq_zero_of_isZero alsoZero, zero_mul_self, zero_mul_self]

end FontScores.Binary
