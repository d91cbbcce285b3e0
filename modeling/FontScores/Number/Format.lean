/-!
# Binary floating-point numbers

A number of a binary format is a sign and a magnitude: the exponent field and the fraction field
read as one natural number.  The magnitude grows with the size of the number, so comparing two
numbers is comparing two integers, and the next larger number has the next larger magnitude.

Every finite number is a whole multiple of the smallest positive one, the *grain* of the format.
`Format.units` counts it in grains, which makes exact arithmetic on finite numbers arithmetic on
natural numbers.
-/

namespace FontScores

/-- Powers of natural numbers are the core library's, whatever else is imported. -/
instance (priority := high) natPow : Pow Nat Nat := instPowNat

/-- The widths of the two fields of a binary format. -/
structure Format where
  fractionBits : Nat
  exponentBits : Nat
deriving DecidableEq, Repr

namespace Format

def single : Format := ⟨23, 8⟩

/-- Numbers of 64 bits: what a decimal numeral with a point or an exponent goes through when a
data file is read. -/
def double : Format := ⟨52, 11⟩

def limit (F : Format) : Nat := 2 ^ F.exponentBits * 2 ^ F.fractionBits

/-- The magnitude of infinity: the exponent field is full and the fraction empty.  Greater
magnitudes stand for no number. -/
def infinity (F : Format) : Nat := (2 ^ F.exponentBits - 1) * 2 ^ F.fractionBits

/-- The grain of the format is `2 ^ -F.grainExponent`. -/
def grainExponent (F : Format) : Nat := 2 ^ (F.exponentBits - 1) - 2 + F.fractionBits

/-- The size of the finite number with this magnitude, counted in grains. -/
def units (F : Format) (magnitude : Nat) : Nat :=
  let exponent := magnitude / 2 ^ F.fractionBits
  let fraction := magnitude % 2 ^ F.fractionBits
  if exponent = 0 then fraction else (2 ^ F.fractionBits + fraction) * 2 ^ (exponent - 1)

theorem infinity_lt_limit (F : Format) : F.infinity < F.limit := by
  have one : 0 < 2 ^ F.exponentBits := Nat.pow_pos (by decide)
  have two : 0 < 2 ^ F.fractionBits := Nat.pow_pos (by decide)
  exact Nat.mul_lt_mul_of_pos_right (by omega) two

end Format

/-- A number of format `F`: signed zeros, infinities and the marks for "not a number" included. -/
structure Binary (F : Format) where
  negative : Bool
  magnitude : Nat
  bounded : magnitude < F.limit
deriving DecidableEq, Repr

/-- The numbers that scores, coordinates and vector components are. -/
abbrev Single := Binary .single

/-- The numbers that a data file's numerals with a point or an exponent are read as. -/
abbrev Double := Binary .double

namespace Binary

variable {F : Format}

/-- Flips the sign of anything, zeros and marks included. -/
def neg (x : Binary F) : Binary F := { x with negative := !x.negative }

def zero (F : Format) (negative : Bool) : Binary F :=
  ⟨negative, 0, Nat.lt_of_le_of_lt (Nat.zero_le _) F.infinity_lt_limit⟩

def infinite (F : Format) (negative : Bool) : Binary F :=
  ⟨negative, F.infinity, F.infinity_lt_limit⟩

def isNaN (x : Binary F) : Bool := decide (F.infinity < x.magnitude)

def isInfinite (x : Binary F) : Bool := decide (x.magnitude = F.infinity)

def isFinite (x : Binary F) : Bool := decide (x.magnitude < F.infinity)

def isZero (x : Binary F) : Bool := decide (x.magnitude = 0)

/-- Where the number stands on the line; both zeros stand at 0. -/
def position (x : Binary F) : Int := if x.negative then -x.magnitude else x.magnitude

/-- The place of `x` in the total order of all numbers and marks: as `position`, but with the
negative zero just below the positive one. -/
def rank (x : Binary F) : Int := if x.negative then -x.magnitude - 1 else x.magnitude

/-- The fields of the number read as one natural number, the sign above the magnitude. -/
def bits (x : Binary F) : Nat := if x.negative then F.limit + x.magnitude else x.magnitude

/-- `x < y`; false as soon as one of them is not a number. -/
def less (x y : Binary F) : Bool := !x.isNaN && !y.isNaN && decide (x.position < y.position)

/-- `x ≤ y`; false as soon as one of them is not a number. -/
def lessEq (x y : Binary F) : Bool := !x.isNaN && !y.isNaN && decide (x.position ≤ y.position)

/-- `x = y` as numbers: the two zeros are equal, and what is not a number equals nothing. -/
def equals (x y : Binary F) : Bool := !x.isNaN && !y.isNaN && decide (x.position = y.position)

/-- The order in which rankings sort: total, and antisymmetric on all numbers and marks. -/
def rankLE (x y : Binary F) : Bool := decide (x.rank ≤ y.rank)

theorem rank_injective {x y : Binary F} (same : x.rank = y.rank) : x = y := by
  obtain ⟨xs, xm, _⟩ := x
  obtain ⟨ys, ym, _⟩ := y
  simp only [rank] at same
  cases xs <;> cases ys <;> simp_all <;> omega

theorem bits_injective {x y : Binary F} (same : x.bits = y.bits) : x = y := by
  obtain ⟨xs, xm, _⟩ := x
  obtain ⟨ys, ym, _⟩ := y
  simp only [bits] at same
  cases xs <;> cases ys <;> simp_all <;> omega

end Binary

end FontScores
