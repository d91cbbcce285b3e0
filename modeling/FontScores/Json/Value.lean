import FontScores.Number.Numeral

/-!
# Writing JSON

A number is written with its shortest digits: in full from `0.000001` up to thirteen digits before
the point, always with a point, and otherwise with one digit before the point and an exponent with
its sign.  Infinities and what is no number are `null`.

Two layouts are written: compact, and with each item on a line of its own, indented by two spaces
for every level; an empty array or object stays on one line.
-/

namespace FontScores.Json

inductive Value where
  | null
  | bool (value : Bool)
  | number (value : Single)
  | text (value : String)
  | array (items : List Value)
  | object (members : List (String × Value))

namespace Value

def ofOption {α : Type} (value : α → Value) : Option α → Value
  | none => null
  | some x => value x

end Value

/-! ### Numbers and texts -/

/-- The lowest power of ten at which the first digit of a number written in full can stand. -/
def leastFullPower : Int := -6

/-- The highest power of ten at which the first digit of a number written in full can stand. -/
def greatestFullPower : Int := 12

/-- Adds a point and a zero to digits without a point. -/
def withPoint (digits : List Char) : List Char :=
  if '.' ∈ digits then digits else digits ++ ['.', '0']

/-- A numeral with one digit before the point and an exponent. -/
def scientific (numeral : Decimal) (power : Int) : List Char :=
  let mantissa :=
    match Nat.toDigits 10 numeral.digits with
    | first :: second :: others => first :: '.' :: second :: others
    | digits => digits
  mantissa ++ 'e' :: (if power < 0 then '-' else '+') :: Nat.toDigits 10 power.natAbs

/-- The size of a number that is finite. -/
def writeSize (magnitude : Nat) : List Char :=
  if magnitude = 0 then "0.0".toList
  else
    let numeral := Format.single.shortest .toEven magnitude
    let power := numeral.exponent + digitCount numeral.digits - 1
    if leastFullPower ≤ power ∧ power ≤ greatestFullPower then
      withPoint (FontScores.Numeral.positional numeral)
    else scientific numeral power

def writeNumber (x : Single) : List Char :=
  if ¬x.isFinite then "null".toList
  else if x.negative then '-' :: writeSize x.magnitude
  else writeSize x.magnitude

/-- A character within quotes: quotes, backslashes and controls are escaped. -/
def escape (c : Char) : List Char :=
  match c with
  | '"' => ['\\', '"']
  | '\\' => ['\\', '\\']
  | '\x08' => ['\\', 'b']
  | '\t' => ['\\', 't']
  | '\n' => ['\\', 'n']
  | '\x0c' => ['\\', 'f']
  | '\r' => ['\\', 'r']
  | c =>
    if c.toNat < 0x20 then
      let digits := Nat.toDigits 16 c.toNat
      '\\' :: 'u' :: List.replicate (4 - digits.length) '0' ++ digits
    else [c]

def writeText (text : String) : List Char := '"' :: text.toList.flatMap escape ++ ['"']

/-! ### Layouts -/

mutual

def compact : Value → List Char
  | .null => "null".toList
  | .bool value => (if value then "true" else "false").toList
  | .number value => writeNumber value
  | .text value => writeText value
  | .array [] => ['[', ']']
  | .array (first :: others) => '[' :: compact first ++ compactItems others ++ [']']
  | .object [] => ['\x7b', '\x7d']
  | .object ((key, first) :: others) =>
    '\x7b' :: writeText key ++ ':' :: compact first ++ compactMembers others ++ ['\x7d']

def compactItems : List Value → List Char
  | [] => []
  | item :: others => ',' :: compact item ++ compactItems others

def compactMembers : List (String × Value) → List Char
  | [] => []
  | (key, value) :: others =>
    ',' :: writeText key ++ ':' :: compact value ++ compactMembers others

end

def newLine (level : Nat) : List Char := '\n' :: List.replicate (2 * level) ' '

mutual

/-- A value that starts at a level of indentation, its parts on lines of their own. -/
def pretty (level : Nat) : Value → List Char
  | .null => "null".toList
  | .bool value => (if value then "true" else "false").toList
  | .number value => writeNumber value
  | .text value => writeText value
  | .array [] => ['[', ']']
  | .array (first :: others) =>
    '[' :: newLine (level + 1) ++ pretty (level + 1) first ++ prettyItems (level + 1) others ++
      newLine level ++ [']']
  | .object [] => ['\x7b', '\x7d']
  | .object ((key, first) :: others) =>
    '\x7b' :: newLine (level + 1) ++ writeText key ++ ':' :: ' ' :: pretty (level + 1) first ++
      prettyMembers (level + 1) others ++ newLine level ++ ['\x7d']

def prettyItems (level : Nat) : List Value → List Char
  | [] => []
  | item :: others => ',' :: newLine level ++ pretty level item ++ prettyItems level others

def prettyMembers (level : Nat) : List (String × Value) → List Char
  | [] => []
  | (key, value) :: others =>
    ',' :: newLine level ++ writeText key ++ ':' :: ' ' :: pretty level value ++
      prettyMembers level others

end

/-- A value on one line, without its end. -/
def Value.compactText (value : Value) : String := String.ofList (compact value)

/-- A value laid out over lines, the last one ended. -/
def Value.prettyText (value : Value) : String := String.ofList (pretty 0 value ++ ['\n'])

def linesOf (values : List Value) : String :=
  String.ofList (values.flatMap fun value => compact value ++ ['\n'])

end FontScores.Json
