import FontScores.Lint.RuleTable
import FontScores.Table.Fields

/-!
# The rule table

A row is a rule, its severity and its description.  The description may stand in double quotes.
Rows with an empty field or an unknown severity are passed over.
-/

namespace FontScores.Table

def ruleColumns : List String := ["rule", "severity", "description"]

/-- The text of a description, without quotes around it and blanks within them. -/
def description (field : String) : String :=
  String.ofList (Text.trim (unquote field.toList))

def ruleOfRow? (row : Row) : Option LintRule := do
  let rule ← row.nonEmpty? "rule"
  let severity ← row.nonEmpty? "severity"
  let written ← row.nonEmpty? "description"
  match Severity.read severity.toList with
  | .ok severity => return ⟨rule, description written, severity⟩
  | .error _ => none

/-- The rules of a rule table. -/
def readRules (text : String) : List LintRule :=
  (rows ruleColumns text).filterMap ruleOfRow?

end FontScores.Table
