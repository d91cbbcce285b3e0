import Mathlib
import FontScores.Platform
import FontScores.Proofs.Number.SignOfZero
import FontScores.Proofs.Similarity.Index

/-!
# The components that a query looks at

A distance is taken over the components of the query.  Whatever a candidate has beyond them is not
looked at, and what it lacks of them counts as zero.  So vectors that are alike in these components
stand at the same distance, to the last bit, and one of them can take the place of the other in an
index: it is put where the old one was, so families at equal distances keep their order too.
-/

namespace FontScores

/-! ## Distances -/

/-- A component of a vector, which counts as filled up with zeros. -/
def component (vector : List Single) (place : ℕ) : Single := vector.getD place (Binary.zero _ false)

/-- The two vectors are alike in this many components. -/
def AlikeUpTo (count : ℕ) (vector other : List Single) : Prop :=
  ∀ place < count, (component vector place).Alike (component other place)

instance (count : ℕ) (vector other : List Single) : Decidable (AlikeUpTo count vector other) :=
  inferInstanceAs (Decidable (∀ place < count, _))

/-- Every component of the query is compared with the candidate's component at its place. -/
theorem squaredDifferences_eq [UndefinedSign] (query candidate : List Single) :
    squaredDifferences query candidate = query.mapIdx fun place x =>
      (x.sub (component candidate place)).mul (x.sub (component candidate place)) := by
  induction query generalizing candidate with
  | nil => rfl
  | cons x query ih =>
    rw [List.mapIdx_cons]
    cases candidate with
    | nil => simp only [squaredDifferences, ih, component, List.getD_nil]
    | cons y candidate =>
      simp only [squaredDifferences, ih, component, List.getD_cons_zero, List.getD_cons_succ]

/-- Vectors that are alike in the query's components are equally far from it, to the last bit. -/
theorem distance_of_alike [UndefinedSign] {query vector other : List Single}
    (alike : AlikeUpTo query.length vector other) :
    distance query vector = distance query other := by
  have squares : squaredDifferences query vector = squaredDifferences query other := by
    rw [squaredDifferences_eq, squaredDifferences_eq]
    refine List.mapIdx_eq_mapIdx_iff.mpr fun place inside => ?_
    exact ((alike place inside).sub _).mul_self
  rw [distance, distance, squares]

/-! ## Vectors in an index -/

namespace EmbeddingIndex

variable {index : EmbeddingIndex} {family asked : String} {query old new : List Single}

/-- A new vector takes the place of the old one, so what looks the same of both stays as it is. -/
theorem map_put_of_same {β : Type} {view : String × List Single → β}
    {entries : List (String × List Single)}
    (stored : (entries.find? (·.1 = family)).map Prod.snd = some old)
    (same : view (family, old) = view (family, new)) :
    (put family new entries).map view = entries.map view := by
  induction entries with
  | nil => cases stored
  | cons head rest ih =>
    obtain ⟨first, vector⟩ := head
    by_cases here : first = family
    -- The family is found at its first entry, and this is the one that is replaced.
    · subst here
      obtain rfl : vector = old := by simpa using stored
      simp [put, same]
    · rw [List.find?_cons_of_neg (by simpa using here)] at stored
      simp [put, here, ih stored]

theorem ranking_insert_of_alike [UndefinedSign] (stored : index.get? family = some old)
    (alike : AlikeUpTo query.length old new) :
    (index.insert family new).ranking query = index.ranking query := by
  have same : distance query old = distance query new := distance_of_alike alike
  rw [get?_eq] at stored
  rw [ranking, ranking, entries_insert, map_put_of_same stored (by simp only [same])]

/-- A query of `query.length` components sees no more of another family's vector than so many
components, filled up with zeros.  When a vector that is alike in them takes its place, every family
keeps its place in the ranking and its distance, and the families nearest to the one asked for are
the same ones, however many are asked for. -/
theorem similar_insert_of_alike [UndefinedSign] (present : index.get? asked = some query)
    (stored : index.get? family = some old) (other : family ≠ asked)
    (alike : AlikeUpTo query.length old new) :
    (index.insert family new).get? family = some new ∧
      (index.insert family new).get? asked = some query ∧
      (index.insert family new).ranking query = index.ranking query ∧
      ∀ count, (index.insert family new).similar asked count = index.similar asked count := by
  have kept : (index.insert family new).get? asked = some query := by
    rw [get?_insert, if_neg other, present]
  have ranked := ranking_insert_of_alike stored alike
  refine ⟨by rw [get?_insert, if_pos rfl], kept, ranked, fun count => ?_⟩
  -- The answer is read off the ranking, and the query's own vector was not touched.
  simp only [similar, kept, present, ranked]

/-- An empty vector gets a negative zero, and something infinite beyond the query's components.  Its
family still stands before the other one at the same distance. -/
theorem similar_insert_of_alike_of_longer :
    let zero : Single := Binary.zero _ false
    let far : Single := Binary.infinite _ false
    let query := [zero, zero]
    let new := [Binary.zero _ true, zero, far]
    let index : EmbeddingIndex :=
      ofEntries [("Roboto", [far]), ("Noto", []), ("Lato", query), ("Inter", [zero])]
    index.get? "Lato" = some query ∧ index.get? "Noto" = some [] ∧ "Noto" ≠ "Lato" ∧
      AlikeUpTo query.length [] new ∧ index.similar "Lato" 3 = ["Noto", "Inter"] ∧
      (index.insert "Noto" new).get? "Noto" = some new ∧
      (index.insert "Noto" new).similar "Lato" 3 = ["Noto", "Inter"] := by
  intro zero far query new index
  have present : index.get? "Lato" = some query := by decide
  have stored : index.get? "Noto" = some [] := by decide
  have alike : AlikeUpTo query.length [] new := by decide
  have found : index.similar "Lato" 3 = ["Noto", "Inter"] := by cbv
  obtain ⟨replaced, _, _, unchanged⟩ := similar_insert_of_alike present stored (by decide) alike
  exact ⟨present, stored, by decide, alike, found, replaced, (unchanged 3).trans found⟩

end EmbeddingIndex

end FontScores
