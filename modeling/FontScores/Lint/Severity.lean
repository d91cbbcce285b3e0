import FontScores.Text.Blank

/-!
# Severities

How much a violated rule matters, as written in rule tables and reports.
-/

namespace FontScores

inductive Severity where
  | error
  | warn
  | fail
  | info
deriving DecidableEq, Repr

namespace Severity

def name : Severity → String
  | error => "ERROR"
  | warn => "WARN"
  | fail => "FAIL"
  | info => "INFO"

/-- A word that is no severity, with the blanks around it taken off. -/
structure Unknown where
  word : String
deriving DecidableEq, Repr

def Unknown.message (unknown : Unknown) : String := "unknown severity: " ++ unknown.word

/-- Reads the name of a severity; blanks around it do not count, but its case does. -/
def read (text : List Char) : Except Unknown Severity :=
  let word := String.ofList (Text.trim text)
  match [error, warn, fail, info].find? (·.name = word) with
  | some severity => .ok severity
  | none => .error ⟨word⟩

end Severity

end FontScores
