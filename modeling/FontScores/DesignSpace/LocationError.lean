import FontScores.Text.Quoted

/-!
# What can be wrong with a written location

The causes for which an axis name or a written location is refused, and their wording.
-/

namespace FontScores

inductive LocationError where
  /-- The name of an axis is empty, too long, or holds a blank or something not printable. -/
  | invalidAxisTag (name : String)
  | missingSeparator (spec : String)
  | lengthMismatch (axes values : Nat)
  /-- A coordinate is no finite number. -/
  | invalidValue (value : String)
  | duplicateAxis (name : String)
deriving DecidableEq, Repr

namespace LocationError

def message : LocationError → String
  | invalidAxisTag name =>
    "axis tag must be 1-4 printable ASCII chars: " ++ Text.quoted name
  | missingSeparator spec => "location spec is missing '@': " ++ Text.quoted spec
  | lengthMismatch axes values =>
    "location spec has " ++ Nat.repr axes ++ " axes but " ++ Nat.repr values ++ " values"
  | invalidValue value => "invalid axis value: " ++ Text.quoted value
  | duplicateAxis name => "axis " ++ name ++ " appears twice"

end LocationError

end FontScores
