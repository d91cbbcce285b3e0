import FontScores.Json.Document
import FontScores.Number.Numeral

/-!
# Numerals in JSON

The value of a numeral with a point or an exponent is computed in 64-bit numbers from its leading
digits: the digits are gathered in a 64-bit whole number until the next one would not fit.  Digits
before the point that do not fit count as powers of ten, those behind it are dropped.  The power of
ten is then multiplied or divided into the number, by `10 ^ 308` at a time, which may round more
than once.  A number beyond the largest is no value.
-/

namespace FontScores.Json

/-- A numeral as it is written: sign, digits before and behind the point, and the exponent; the
last two are there only if the point and the exponent's mark are. -/
structure Numeral where
  negative : Bool
  whole : List Char
  fraction : Option (List Char)
  exponent : Option (Bool × List Char)
deriving DecidableEq, Repr

namespace Numeral

def wordLimit : Nat := 0x10000000000000000

def digitValue (digit : Char) : Nat := digit.toNat - '0'.toNat

/-- The value of the leading digits that fit a word, after what is gathered so far, and the digits
that do not. -/
def gather (value : Nat) : List Char → Nat × List Char
  | [] => (value, [])
  | digit :: rest =>
    let next := 10 * value + digitValue digit
    if next < wordLimit then gather next rest else (value, digit :: rest)

def powerOfTen (power : Nat) : Double := Binary.ofDecimal .double false 1 power

def greatestPower : Nat := 308

/-- Divides by a power of ten, in steps of the greatest one. -/
def divideByPower (value : Double) (power : Nat) : Double :=
  if power ≤ greatestPower then value.quotient (powerOfTen power)
  else if value.isZero then value
  else divideByPower (value.quotient (powerOfTen greatestPower)) (power - greatestPower)
termination_by power
decreasing_by simp only [greatestPower] at *; omega

/-- `significand · 10 ^ power`, unless it is too large. -/
def scale (significand : Nat) (power : Int) : Option Double :=
  let value := Binary.ofNat .double false significand
  match power with
  | .ofNat power =>
    if power ≤ greatestPower then
      let product := value.product (powerOfTen power)
      if product.isInfinite then none else some product
    else if value.isZero then some value else none
  | .negSucc less => some (divideByPower value (less + 1))

/-- The greatest exponent that is read as it is written. -/
def exponentLimit : Nat := 0x80000000

/-- The value of a numeral with a point or an exponent, its sign aside. -/
def realSize (numeral : Numeral) : Option Double :=
  let (whole, beyond) := gather 0 numeral.whole
  let fraction := numeral.fraction.getD []
  let (significand, dropped) := gather whole fraction
  let places : Int := beyond.length - ((fraction.length : Int) - dropped.length)
  match numeral.exponent with
  | none => scale significand places
  | some (less, digits) =>
    let power := digitsValue digits
    if exponentLimit ≤ power then
      if significand = 0 ∨ less then some (Binary.zero _ false) else none
    else scale significand (if less then places - power else places + power)

/-- The value of a numeral, unless it is too large. -/
def value? (numeral : Numeral) : Option Number :=
  let signed (size : Double) : Number :=
    .real { size with negative := numeral.negative }
  if numeral.fraction.isNone ∧ numeral.exponent.isNone then
    let value := digitsValue numeral.whole
    if value < wordLimit then
      if ¬numeral.negative then some (.natural value)
      else if 0 < value ∧ value ≤ 0x8000000000000000 then some (.negative value)
      else some (signed (Binary.ofNat _ false value))
    else numeral.realSize.map signed
  else numeral.realSize.map signed

end Numeral

end FontScores.Json
