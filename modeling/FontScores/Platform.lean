import FontScores.Number.Arithmetic
import FontScores.Pattern.Engine
import FontScores.Pattern.Match
import FontScores.Pattern.Parser

/-!
# The platform

What is left open elsewhere is chosen here, for running the program: the engine for patterns, and
the sign that common processors give to a result that does not exist.
-/

namespace FontScores.Platform

instance engine : PatternEngine where
  read? written := (Pattern.read? written).map Pattern.isFoundIn

instance undefinedSign : UndefinedSign where
  negative := true

end FontScores.Platform
