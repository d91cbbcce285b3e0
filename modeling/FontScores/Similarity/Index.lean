import FontScores.Similarity.Distance

/-!
# Families alike in style

Some families have a vector that describes their style.  The index keeps the vectors in the order in
which the families were first entered, and knows where the vector of each family stands; a new
vector for a family takes the place of the old one.

The families nearest to a family are ranked by distance, and by their order in the index where the
distances are equal.  The family itself takes part in the ranking and is left out only after the
ranking is cut, so that the answer may be one shorter than asked for.
-/

namespace FontScores

structure EmbeddingIndex where
  entries : List (String × List Single)
  positions : List (String × Nat)
  /-- The position under a family is where it stands among the entries. -/
  inStep : positions = (entries.map Prod.fst).zipIdx
deriving DecidableEq

namespace EmbeddingIndex

def empty : EmbeddingIndex := ⟨[], [], rfl⟩

def size (index : EmbeddingIndex) : Nat := index.entries.length

def position? (index : EmbeddingIndex) (family : String) : Option Nat :=
  (index.positions.find? (·.1 = family)).map Prod.snd

def contains (index : EmbeddingIndex) (family : String) : Bool := (index.position? family).isSome

def get? (index : EmbeddingIndex) (family : String) : Option (List Single) := do
  let position ← index.position? family
  let (_, vector) ← index.entries[position]?
  return vector

/-- The entries with another vector at a position. -/
def replace (entries : List (String × List Single)) (position : Nat) (vector : List Single) :
    List (String × List Single) :=
  entries.modify position fun (family, _) => (family, vector)

theorem map_fst_replace (entries : List (String × List Single)) (position : Nat)
    (vector : List Single) :
    (replace entries position vector).map Prod.fst = entries.map Prod.fst := by
  induction entries generalizing position with
  | nil => cases position <;> rfl
  | cons entry entries ih =>
    cases position with
    | zero => rfl
    | succ position => exact congrArg (entry.1 :: ·) (ih position)

/-- Sets a family's vector, in its place if the family is there and at the end if not. -/
def insert (index : EmbeddingIndex) (family : String) (vector : List Single) : EmbeddingIndex :=
  match index.position? family with
  | some position =>
    ⟨replace index.entries position vector, index.positions, by rw [map_fst_replace, index.inStep]⟩
  | none =>
    ⟨index.entries ++ [(family, vector)], index.positions ++ [(family, index.entries.length)], by
      simp [index.inStep, List.zipIdx_append]⟩

/-- All families with their distances from a query, the nearest first. -/
def ranking [UndefinedSign] (index : EmbeddingIndex) (query : List Single) :
    List (String × Single) :=
  (index.entries.map fun (family, vector) => (family, distance query vector)).mergeSort
    fun one other => one.2.rankLE other.2

/-- How many families are ranked if nothing else is asked for. -/
def neighboursByDefault : Nat := 10

/-- The families among the `count` nearest to a family, without that family itself. -/
def similar [UndefinedSign] (index : EmbeddingIndex) (family : String) (count : Nat) :
    List String :=
  match index.get? family with
  | none => []
  | some query =>
    (((index.ranking query).take count).map Prod.fst).filter (· ≠ family)

end EmbeddingIndex

end FontScores
