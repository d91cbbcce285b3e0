import FontScores.Number.Arithmetic

/-!
# Distance between vectors

The distance from a query to a candidate is Euclidean over the components of the query: a shorter
candidate counts as filled up with zeros, and what a longer one has beyond the query is ignored.
-/

namespace FontScores

/-- The squares of the differences, one for each component of the query. -/
def squaredDifferences [UndefinedSign] : List Single → List Single → List Single
  | [], _ => []
  | x :: xs, [] =>
    let difference := x.sub (Binary.zero _ false)
    difference.mul difference :: squaredDifferences xs []
  | x :: xs, y :: ys =>
    let difference := x.sub y
    difference.mul difference :: squaredDifferences xs ys

def distance [UndefinedSign] (query candidate : List Single) : Single :=
  (Binary.sum (squaredDifferences query candidate)).sqrt

end FontScores
