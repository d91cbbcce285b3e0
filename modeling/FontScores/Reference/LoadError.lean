import FontScores.DesignSpace.LocationError
import FontScores.Reference.Files

/-!
# What can be wrong with the reference data

A file may be unreadable, or it may be read and not say what it has to.
-/

namespace FontScores

inductive Malformed where
  /-- No JSON, or JSON of another shape. -/
  | json
  | axis (family : String) (cause : LocationError)
  | boundsReversed (tag : String)
deriving DecidableEq, Repr

inductive LoadError where
  | read (path : String) (failure : ReadFailure)
  | malformed (path : String) (reason : Malformed)
deriving DecidableEq, Repr

namespace LoadError

def path : LoadError → String
  | .read path _ => path
  | .malformed path _ => path

def message : LoadError → String
  | .read path failure => "reading " ++ path ++ ": " ++ failure.message
  | .malformed path .json => "malformed " ++ path
  | .malformed path (.axis family cause) =>
    "malformed " ++ path ++ ": " ++ family ++ ": " ++ cause.message
  | .malformed path (.boundsReversed tag) =>
    "malformed " ++ path ++ ": " ++ tag ++ ": lowScore above highScore"

/-- The causes behind the error, the nearest first. -/
def causes : LoadError → List String
  | .read _ failure => failure.message :: failure.causes
  | .malformed _ _ => []

end LoadError

end FontScores
