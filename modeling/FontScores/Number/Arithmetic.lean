import FontScores.Number.Rounding

/-!
# Arithmetic

Each operation is its exact result rounded once to the nearest number.  A result that does not
exist, such as the difference of two infinities, is the mark `undefined`; an operand that is
already no number is handed on, the first one if there are two.

The sign of that mark is left to the processor, so it is a parameter here.
-/

namespace FontScores

/-- The sign of the mark that an operation leaves where it has no result. -/
class UndefinedSign where
  negative : Bool

namespace Binary

variable {F : Format}

/-- The result of an operation that has none: the fraction field starts with a one.  By its sign the
total order puts it below every number or above. -/
def undefined [UndefinedSign] (F : Format) : Binary F :=
  let magnitude := F.infinity + 2 ^ (F.fractionBits - 1)
  if bounded : magnitude < F.limit then ⟨UndefinedSign.negative, magnitude, bounded⟩
  else infinite F UndefinedSign.negative

/-- The sum of an empty run of numbers is the negative zero: adding it changes nothing, not even
the sign of a zero. -/
def add [UndefinedSign] (x y : Binary F) : Binary F :=
  if x.isNaN then x
  else if y.isNaN then y
  else if x.isInfinite then
    if y.isInfinite && x.negative != y.negative then undefined F else x
  else if y.isInfinite then y
  else
    let total := x.grains + y.grains
    if total = 0 then zero F (x.negative && y.negative)
    else ofGrains F (decide (total < 0)) total.natAbs 1

def sub [UndefinedSign] (x y : Binary F) : Binary F :=
  if x.isNaN then x else if y.isNaN then y else add x y.neg

/-- The product of two finite numbers. -/
def product (x y : Binary F) : Binary F :=
  ofGrains F (x.negative != y.negative) (F.units x.magnitude * F.units y.magnitude)
    (2 ^ F.grainExponent)

def mul [UndefinedSign] (x y : Binary F) : Binary F :=
  let negative := x.negative != y.negative
  if x.isNaN then x
  else if y.isNaN then y
  else if x.isInfinite || y.isInfinite then
    if x.isZero || y.isZero then undefined F else infinite F negative
  else product x y

/-- The quotient of two finite numbers of which the second is no zero. -/
def quotient (x y : Binary F) : Binary F :=
  ofGrains F (x.negative != y.negative) (F.units x.magnitude * 2 ^ F.grainExponent)
    (F.units y.magnitude)

def div [UndefinedSign] (x y : Binary F) : Binary F :=
  let negative := x.negative != y.negative
  if x.isNaN then x
  else if y.isNaN then y
  else if x.isInfinite then
    if y.isInfinite then undefined F else infinite F negative
  else if y.isInfinite then zero F negative
  else if y.isZero then
    if x.isZero then undefined F else infinite F negative
  else quotient x y

/-- The root of a negative zero is that zero; of any other negative number there is none. -/
def sqrt [UndefinedSign] (x : Binary F) : Binary F :=
  if x.isNaN || x.isZero then x
  else if x.negative then undefined F
  else if x.isInfinite then x
  else
    ⟨false, F.nearestRoot (F.units x.magnitude * 2 ^ F.grainExponent),
      Nat.lt_of_le_of_lt (F.nearestRoot_le_infinity _) F.infinity_lt_limit⟩

/-- The sum from left to right, rounded after every step, starting from the negative zero. -/
def sum [UndefinedSign] (xs : List (Binary F)) : Binary F := xs.foldl add (zero F true)

end Binary

end FontScores
