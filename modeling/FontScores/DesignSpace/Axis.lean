import FontScores.DesignSpace.AxisTag
import FontScores.Number.Format

/-!
# Variation axes

A family varies along its axes, each from a least to a greatest coordinate.
-/

namespace FontScores

structure Axis where
  tag : AxisTag
  least : Single
  greatest : Single
  default : Option Single
deriving DecidableEq

def Axis.contains (axis : Axis) (value : Single) : Bool :=
  axis.least.lessEq value && value.lessEq axis.greatest

end FontScores
