import FontScores.Number.Decimal

/-!
# Numbers as text

The written form is the shortest numeral that reads back, always positional: zeros fill the places
up to the point, and there is no exponent.  Signs are written for negative zero and infinity, and
not for what is no number.

The reader takes more than the writer writes: an optional sign, then either digits with at most one
point among or around them and an optional exponent, or one of the words for infinity and "not a
number" in any mix of cases.  Nothing may stand around the numeral, blanks included.
-/

namespace FontScores

inductive NumeralError where
  | empty
  | invalid
deriving DecidableEq, Repr

namespace NumeralError

def message : NumeralError → String
  | empty => "cannot parse float from empty string"
  | invalid => "invalid float literal"

end NumeralError

def digitsValue (digits : List Char) : Nat :=
  digits.foldl (fun value digit => 10 * value + (digit.toNat - '0'.toNat)) 0

namespace Numeral

/-- The sign of a numeral and what follows it. -/
def sign : List Char → Bool × List Char
  | '-' :: rest => (true, rest)
  | '+' :: rest => (false, rest)
  | rest => (false, rest)

def digits? (text : List Char) : Option Nat :=
  if text ≠ [] ∧ text.all Char.isDigit then some (digitsValue text) else none

/-- What may follow the digits: nothing, or an exponent. -/
def exponent? : List Char → Option Int
  | [] => some 0
  | mark :: rest =>
    if mark = 'e' ∨ mark = 'E' then
      let (negative, power) := sign rest
      (digits? power).map fun value => if negative then -(value : Int) else value
    else none

/-- A numeral without its sign, as `digits · 10 ^ exponent`. -/
def decimal? (text : List Char) : Option Decimal :=
  let whole := text.takeWhile Char.isDigit
  let afterWhole := text.dropWhile Char.isDigit
  let (fraction, rest) :=
    match afterWhole with
    | '.' :: more => (more.takeWhile Char.isDigit, more.dropWhile Char.isDigit)
    | other => ([], other)
  if whole = [] ∧ fraction = [] then none
  else (exponent? rest).map fun exponent =>
    ⟨digitsValue (whole ++ fraction), exponent - fraction.length⟩

/-- The words for numbers that have no digits, as their magnitude. -/
def word? (F : Format) (text : List Char) : Option Nat :=
  let word := String.ofList (text.map Char.toLower)
  if word = "inf" ∨ word = "infinity" then some F.infinity
  else if word = "nan" then some (F.infinity + 2 ^ (F.fractionBits - 1))
  else none

def read (F : Format) (text : List Char) : Except NumeralError (Binary F) :=
  if text = [] then .error .empty
  else
    let (negative, unsigned) := sign text
    match decimal? unsigned with
    | some numeral => .ok (Binary.ofDecimal F negative numeral.digits numeral.exponent)
    | none =>
      match word? F unsigned with
      | some magnitude =>
        if bounded : magnitude < F.limit then .ok ⟨negative, magnitude, bounded⟩
        else .error .invalid
      | none => .error .invalid

/-- Writes `digits · 10 ^ exponent` without an exponent. -/
def positional (numeral : Decimal) : List Char :=
  let digits := Nat.toDigits 10 numeral.digits
  match numeral.exponent with
  | .ofNat zeros => digits ++ List.replicate zeros '0'
  | .negSucc less =>
    let places := less + 1
    if digits.length ≤ places then
      '0' :: '.' :: List.replicate (places - digits.length) '0' ++ digits
    else
      digits.take (digits.length - places) ++ '.' :: digits.drop (digits.length - places)

/-- The size of a number that is one, in positional notation. -/
def writeMagnitude (F : Format) (magnitude : Nat) : List Char :=
  if magnitude = F.infinity then "inf".toList
  else if magnitude = 0 then ['0']
  else positional (F.shortest .up magnitude)

def write {F : Format} (x : Binary F) : List Char :=
  if x.isNaN then "NaN".toList
  else if x.negative then '-' :: writeMagnitude F x.magnitude
  else writeMagnitude F x.magnitude

end Numeral

def Binary.text {F : Format} (x : Binary F) : String := String.ofList (Numeral.write x)

end FontScores
