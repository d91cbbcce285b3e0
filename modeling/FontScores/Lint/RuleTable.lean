import FontScores.Lint.Severity
import FontScores.Rule.Parser

/-!
# Checking fonts against rules

A rule table is a list of rules, each with the severity and the description of the warning it gives
when it is true of a font.  The rules are read once, when the table is made.  One that cannot be
read stays in its place and gives a warning about itself every time.
-/

namespace FontScores

structure LintRule where
  rule : String
  description : String
  severity : Severity
deriving DecidableEq, Repr

structure LintWarning where
  description : String
  severity : Severity
deriving DecidableEq, Repr

/-- The warning that a row gives for a font in this context, if any; its rule has been read, as far
as it can be. -/
def LintRule.warning? (context : RuleContext) (row : LintRule) :
    Except Rule.Error Rule.Expr → Option LintWarning
  | .ok condition =>
    if condition.eval context then some ⟨row.description, row.severity⟩ else none
  | .error _ => some ⟨"Rule could not be parsed: " ++ row.rule, .error⟩

/-- The rows of a rule table, and beside them what their rules say. -/
structure RuleTable where
  rows : List LintRule
  conditions : List (Except Rule.Error Rule.Expr)

namespace RuleTable

def ofRows [PatternEngine] (rows : List LintRule) : RuleTable :=
  ⟨rows, rows.map fun row => Rule.compile row.rule⟩

def size (table : RuleTable) : Nat := table.rows.length

def lint (table : RuleTable) (font : Font) : List LintWarning :=
  (table.rows.zip table.conditions).filterMap fun (row, condition) =>
    row.warning? (RuleContext.ofFont font) condition

end RuleTable

def lint [PatternEngine] (rows : List LintRule) (font : Font) : List LintWarning :=
  (RuleTable.ofRows rows).lint font

end FontScores
