import Mathlib
import FontScores.Number.Arithmetic
import FontScores.Number.Numeral

/-!
# Where something that is no number comes from

Rounding gives a number whatever is rounded, perhaps an infinite one.  So what is read from a
numeral with digits is a number, and what is no number is read from one word only, in any mix of
cases and with any sign.

A comparison with something that is no number fails, and so does the comparison the other way round.
So "not above" is the same as "at most" between numbers, and says nothing elsewhere.
-/

namespace FontScores

namespace Format

variable {F : Format}

theorem ofDecimal_le_infinity (F : Format) (digits : Nat) (exponent : Int) :
    F.ofDecimal digits exponent ≤ F.infinity := by
  simp only [ofDecimal]
  -- Without digits, far above the largest number, far below the smallest one, or rounded.
  split
  · exact Nat.zero_le _
  split
  · exact le_rfl
  split
  · exact Nat.zero_le _
  split <;> exact F.nearest_le_infinity _ _

end Format

namespace Binary

variable {F : Format} {x y : Binary F}

theorem isNaN_eq_false_iff : x.isNaN = false ↔ x.magnitude ≤ F.infinity := by
  simp [isNaN]

@[simp] theorem isNaN_ofGrains (negative : Bool) (num den : Nat) :
    (ofGrains F negative num den).isNaN = false :=
  isNaN_eq_false_iff.mpr (F.nearest_le_infinity num den)

@[simp] theorem isNaN_infinite (negative : Bool) : (infinite F negative).isNaN = false :=
  isNaN_eq_false_iff.mpr le_rfl

@[simp] theorem isNaN_ofNat (negative : Bool) (n : Nat) : (ofNat F negative n).isNaN = false :=
  isNaN_ofGrains negative _ _

@[simp] theorem isNaN_convert (G : Format) (x : Binary F) : (x.convert G).isNaN = false := by
  rw [convert]
  split <;> simp

@[simp] theorem isNaN_ofDecimal (negative : Bool) (digits : Nat) (exponent : Int) :
    (ofDecimal F negative digits exponent).isNaN = false :=
  isNaN_eq_false_iff.mpr (F.ofDecimal_le_infinity digits exponent)

/-! ## Comparisons -/

/-- Between numbers, one is at most the other exactly if it is not above it. -/
theorem lessEq_iff_not_less :
    x.lessEq y = true ↔ x.isNaN = false ∧ y.isNaN = false ∧ y.less x = false := by
  cases hasX : x.isNaN <;> cases hasY : y.isNaN <;> simp [lessEq, less, hasX, hasY]

theorem lessEq_trans {z : Binary F} (first : x.lessEq y = true) (second : y.lessEq z = true) :
    x.lessEq z = true := by
  simp only [lessEq, Bool.and_eq_true, Bool.not_eq_true', decide_eq_true_eq] at *
  exact ⟨⟨first.1.1, second.1.2⟩, Int.le_trans first.2 second.2⟩

theorem lessEq_self (number : x.isNaN = false) : x.lessEq x = true := by
  simp [lessEq, number]

end Binary

/-! ## Reading -/

namespace Numeral

variable {F : Format} {text : List Char} {x : Binary F}

/-- The text is the word for what is no number, perhaps with a sign before it. -/
def SpellsNaN (text : List Char) : Prop :=
  String.ofList ((sign text).2.map Char.toLower) = "nan"

instance (text : List Char) : Decidable (SpellsNaN text) :=
  inferInstanceAs (Decidable (_ = "nan"))

theorem isDigit_of_isAlpha {c : Char} (letter : c.isAlpha = true) : c.isDigit = false := by
  simp [Char.isAlpha, Char.isUpper, Char.isLower, Char.isDigit, UInt32.le_iff_toNat_le] at *
  omega

/-- No numeral with digits starts with a letter. -/
theorem decimal?_eq_none {c : Char} {rest : List Char} (letter : c.isAlpha = true) :
    decimal? (c :: rest) = none := by
  have noDigit := isDigit_of_isAlpha letter
  have noPoint : c ≠ '.' := by
    rintro rfl
    cases letter
  simp [decimal?, noDigit, noPoint]

theorem decimal?_of_spellsNaN (word : SpellsNaN text) : decimal? (sign text).2 = none := by
  have letters : (sign text).2.map Char.toLower = "nan".toList := by
    rw [← word, String.toList_ofList]
  obtain ⟨c, rest, shape, lower, _⟩ := List.map_eq_cons_iff.mp letters
  -- The word starts with a letter, in either case.
  have letter : c.isAlpha = true := by
    rw [← Char.isAlpha_toLower_eq_isAlpha, lower]
    decide
  rw [shape, decimal?_eq_none letter]

/-- Of the words for numbers without digits, one stands for what is no number. -/
theorem infinity_lt_of_word? {magnitude : Nat}
    (known : word? F (sign text).2 = some magnitude) :
    F.infinity < magnitude ↔ SpellsNaN text := by
  have positive : 0 < 2 ^ (F.fractionBits - 1) := Nat.pow_pos (by decide)
  simp only [word?] at known
  split at known
  next infinite =>
    obtain rfl := Option.some.inj known
    refine iff_of_false (lt_irrefl _) fun word => ?_
    rw [SpellsNaN] at word
    rw [word] at infinite
    revert infinite
    decide
  next =>
    split at known
    next word =>
      obtain rfl := Option.some.inj known
      exact iff_of_true (Nat.lt_add_of_pos_right positive) word
    next => cases known

/-- What is read is no number exactly if the text is the word for that. -/
theorem isNaN_iff_of_read (read : Numeral.read F text = .ok x) :
    x.isNaN = true ↔ SpellsNaN text := by
  unfold Numeral.read at read
  split at read
  · cases read
  dsimp only at read
  -- Digits are rounded to a number; only without them does the word count.
  split at read
  next numeral digits =>
    obtain rfl := Except.ok.inj read
    refine iff_of_false (by simp) fun word => ?_
    cases digits.symm.trans (decimal?_of_spellsNaN word)
  next =>
    split at read
    next magnitude known =>
      split at read
      · obtain rfl := Except.ok.inj read
        exact decide_eq_true_iff.trans (infinity_lt_of_word? known)
      · cases read
    · cases read

end Numeral

end FontScores
