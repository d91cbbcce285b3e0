import FontScores.Number.Format

/-!
# Rounding to the nearest number

A positive quotient of natural numbers, counted in grains, goes to the nearest magnitude of the
format; exactly between two it goes to the even one, and from half a step above the largest finite
number on it goes to infinity.

A quotient of more than `fractionBits + 1` binary digits loses the digits below the last that the
format keeps, which is what `shift` counts.  The rounded significand and the shift together *are*
the magnitude, because a significand that overflows its digits moves the exponent field up by one.
-/

namespace FontScores

/-- `num / den` to the nearest natural number, a half going to the even neighbour. -/
def divNearest (num den : Nat) : Nat :=
  let quotient := num / den
  let rest := num % den
  if den < 2 * rest ∨ (2 * rest = den ∧ quotient % 2 = 1) then quotient + 1 else quotient

namespace Format

/-- The magnitude nearest to `num / den` grains. -/
def nearest (F : Format) (num den : Nat) : Nat :=
  let shift := (num / den).log2 - F.fractionBits
  min (shift * 2 ^ F.fractionBits + divNearest num (den * 2 ^ shift)) F.infinity

theorem nearest_le_infinity (F : Format) (num den : Nat) : F.nearest num den ≤ F.infinity :=
  Nat.min_le_right _ _

/-- The magnitude nearest to the square root of `square` grains of grains.  No root of a number of
the format lies exactly between two numbers, so there is no tie to settle. -/
def nearestRoot (F : Format) (square : Nat) : Nat :=
  let root := square.sqrt
  let shift := root.log2 - F.fractionBits
  let lower := root / 2 ^ shift
  let middle := (2 * lower + 1) * 2 ^ shift
  let significand := if middle * middle < 4 * square then lower + 1 else lower
  min (shift * 2 ^ F.fractionBits + significand) F.infinity

theorem nearestRoot_le_infinity (F : Format) (square : Nat) :
    F.nearestRoot square ≤ F.infinity :=
  Nat.min_le_right _ _

end Format

namespace Binary

variable {F : Format}

/-- The number of this sign nearest to `num / den` grains. -/
def ofGrains (F : Format) (negative : Bool) (num den : Nat) : Binary F :=
  ⟨negative, F.nearest num den,
    Nat.lt_of_le_of_lt (F.nearest_le_infinity num den) F.infinity_lt_limit⟩

def ofNat (F : Format) (negative : Bool) (n : Nat) : Binary F :=
  ofGrains F negative (n * 2 ^ F.grainExponent) 1

/-- A finite number as a signed count of grains. -/
def grains (x : Binary F) : Int :=
  if x.negative then -(F.units x.magnitude : Int) else F.units x.magnitude

/-- Moves a number to another format, rounding a finite one to the nearest. -/
def convert (G : Format) (x : Binary F) : Binary G :=
  if x.isFinite then
    ofGrains G x.negative (F.units x.magnitude * 2 ^ G.grainExponent) (2 ^ F.grainExponent)
  else infinite G x.negative

end Binary

end FontScores
