import FontScores.Number.Rounding

/-!
# Decimal numerals and binary numbers

`Format.ofDecimal` reads `digits · 10 ^ exponent` as the nearest magnitude, with one rounding
however many digits there are.  `Format.shortest` goes the other way: the numeral with the fewest
digits that is read back as the same magnitude, and of those the nearest.

A finite number is exactly `N · 10 ^ -grainExponent` for a natural number `N`, because
`2 ^ -g = 5 ^ g · 10 ^ -g`.  Cutting the last `k` digits off `N` leaves the two numerals of that
length next to the number, the one below and the one above, and no other numeral of that length can
be nearer.  With nothing cut the numeral is exact, so the search always ends.
-/

namespace FontScores

/-- The number `digits · 10 ^ exponent`. -/
structure Decimal where
  digits : Nat
  exponent : Int
deriving DecidableEq, Repr

def digitCount (n : Nat) : Nat := (Nat.toDigits 10 n).length

/-- Takes the zeros off the end of `digits`, moving them into the exponent. -/
def dropZeros (digits : Nat) (exponent : Int) : Decimal :=
  if h : digits ≠ 0 ∧ digits % 10 = 0 then dropZeros (digits / 10) (exponent + 1)
  else ⟨digits, exponent⟩
termination_by digits
decreasing_by omega

/-- Which of two equally near numerals is written. -/
inductive TieRule where
  | up
  | toEven
deriving DecidableEq, Repr

namespace Format

/-- Beyond this power of ten every number is above the largest or below half the smallest. -/
def decimalReach (F : Format) : Int := (2 ^ F.exponentBits : Nat)

/-- The magnitude nearest to `digits · 10 ^ exponent`. -/
def ofDecimal (F : Format) (digits : Nat) (exponent : Int) : Nat :=
  let top := digitCount digits + exponent
  if digits = 0 then 0
  else if F.decimalReach < top then F.infinity
  else if top < -F.decimalReach then 0
  else match exponent with
    | .ofNat power => F.nearest (digits * 10 ^ power * 2 ^ F.grainExponent) 1
    | .negSucc power => F.nearest (digits * 2 ^ F.grainExponent) (10 ^ (power + 1))

theorem ofDecimal_lt_limit (F : Format) (digits : Nat) (exponent : Int) :
    F.ofDecimal digits exponent < F.limit := by
  have finite := F.infinity_lt_limit
  have rounded (num den : Nat) : F.nearest num den < F.limit :=
    Nat.lt_of_le_of_lt (F.nearest_le_infinity num den) finite
  simp only [ofDecimal]
  repeat' split
  all_goals first | exact finite | exact rounded _ _ | omega

/-- The numeral of `exact` with its last `cut` digits rounded off, if one of the two neighbours of
that length is read back as `magnitude`. -/
def shorterNumeral? (F : Format) (tie : TieRule) (magnitude exact cut : Nat) : Option Decimal :=
  let step := 10 ^ cut
  let exponent : Int := cut - F.grainExponent
  let below := exact / step
  let rest := exact % step
  let chosen : Option Nat :=
    match decide (F.ofDecimal below exponent = magnitude),
        decide (F.ofDecimal (below + 1) exponent = magnitude) with
    | true, true =>
      if 2 * rest < step then some below
      else if 2 * rest = step ∧ tie = .toEven ∧ below % 2 = 0 then some below
      else some (below + 1)
    | true, false => some below
    | false, true => some (below + 1)
    | false, false => none
  chosen.map (dropZeros · exponent)

/-- Tries the numerals from `cut` digits cut off down to none. -/
def searchNumeral (F : Format) (tie : TieRule) (magnitude exact : Nat) : Nat → Decimal
  | 0 => dropZeros exact (-F.grainExponent)
  | cut + 1 =>
    match F.shorterNumeral? tie magnitude exact (cut + 1) with
    | some numeral => numeral
    | none => F.searchNumeral tie magnitude exact cut

/-- The numeral with the fewest digits that is read back as `magnitude`. -/
def shortest (F : Format) (tie : TieRule) (magnitude : Nat) : Decimal :=
  let exact := F.units magnitude * 5 ^ F.grainExponent
  F.searchNumeral tie magnitude exact (digitCount exact - 1)

end Format

/-- The number nearest to the decimal numeral `digits · 10 ^ exponent`. -/
def Binary.ofDecimal (F : Format) (negative : Bool) (digits : Nat) (exponent : Int) : Binary F :=
  ⟨negative, F.ofDecimal digits exponent, F.ofDecimal_lt_limit digits exponent⟩

end FontScores
