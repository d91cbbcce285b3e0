import FontScores.Number.Numeral
import FontScores.Table.Rules

/-!
# The table of score bounds

A row is the name of a tag, the lowest and the highest score that are usual for it, and a
description, which may stand in double quotes.  Rows without a name or with a bound that is no
numeral are passed over; a description may be missing.
-/

namespace FontScores

structure TagBounds where
  name : String
  lowest : Single
  highest : Single
  description : String
deriving DecidableEq

namespace Table

def boundsColumns : List String := ["name", "lowScore", "highScore", "description"]

def number? (row : Row) (column : String) : Option Single := do
  let field ← row.get? column
  (Numeral.read .single field.toList).toOption

/-- The bounds in a row, if a name and two numbers are there. -/
def boundsOfRow? (row : Row) : Option TagBounds := do
  let name ← row.nonEmpty? "name"
  let lowest ← number? row "lowScore"
  let highest ← number? row "highScore"
  return ⟨name, lowest, highest, description ((row.get? "description").getD "")⟩

def readBounds (text : String) : List TagBounds :=
  (rows boundsColumns text).filterMap boundsOfRow?

end Table

end FontScores
