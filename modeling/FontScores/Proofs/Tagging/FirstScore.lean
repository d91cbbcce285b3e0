import Mathlib
import FontScores.Proofs.DesignSpace.Sameness
import FontScores.Proofs.Library.Consistency

/-!
# The first score for a location

Scores are pushed one after the other, and each is taken unless its location has a score.  What a
tagging then has for a location is the score that was pushed for it first.  A score that was refused
is not missed: its location is the same as one that came before, and so are all the locations for
which it would have been found.
-/

namespace FontScores.VariableTagging

variable {location asked : Location}

/-- Whether each of these scores is taken when they are pushed one after the other. -/
def answers : VariableTagging → List (Location × Single) → List Bool
  | _, [] => []
  | tagging, (location, score) :: calls =>
    (tagging.push? location score).isSome :: answers (tagging.push location score) calls

/-- The score in the first of these entries that is for a location. -/
def firstScore? (entries : List (Location × Single)) (location : Location) : Option Single :=
  (entries.find? fun entry => entry.1.Same location).map Prod.snd

theorem firstScore?_eq_none_iff {entries : List (Location × Single)} :
    firstScore? entries location = none ↔ ∀ entry ∈ entries, ¬entry.1.Same location := by
  simp [firstScore?]

theorem firstScore?_append (entries others : List (Location × Single)) (location : Location) :
    firstScore? (entries ++ others) location =
      (firstScore? entries location).or (firstScore? others location) := by
  simp [firstScore?, Option.map_or]

theorem firstScore?_congr (entries : List (Location × Single)) (same : location.Same asked) :
    firstScore? entries location = firstScore? entries asked := by
  simp only [firstScore?, same.congr_right]

theorem scoreAt?_eq (tagging : VariableTagging) (location : Location) :
    tagging.scoreAt? location = firstScore? tagging.entries location := by
  have test (entry : Location × Single) :
      (entry.1 == location) = decide (entry.1.Same location) := by
    rw [Bool.eq_iff_iff, Location.beq_iff_same, decide_eq_true_iff]
  simp only [scoreAt?, firstScore?, test]

/-! ## One score -/

/-- Behind a push the tagging has the scores it had, and this one where it had none. -/
theorem scoreAt?_push (tagging : VariableTagging) (location asked : Location) (score : Single) :
    (tagging.push location score).scoreAt? asked =
      (tagging.scoreAt? asked).or (firstScore? [(location, score)] asked) := by
  rw [push]
  cases pushed : tagging.push? location score with
  | none =>
    by_cases same : location.Same asked
    · -- The score was refused because there is one, and so there is one for what is asked for.
      have held : (tagging.scoreAt? asked).isSome = true := by
        rw [scoreAt?_eq, ← firstScore?_congr _ same, ← scoreAt?_eq]
        by_contra absent
        simp [push?, absent] at pushed
      simp [Option.or_of_isSome held]
    · simp [firstScore?, same]
  | some longer =>
    obtain ⟨_, rfl⟩ := push?_eq_some_iff.mp pushed
    simp only [Option.getD_some, scoreAt?_eq, firstScore?_append]

/-! ## Scores one after the other -/

/-- Later calls may find the first score in the tagging or before them: it makes no difference
whether it was taken. -/
theorem scoreAt?_push_or (tagging : VariableTagging) (location : Location) (score : Single)
    (calls : List (Location × Single)) (asked : Location) :
    ((tagging.push location score).scoreAt? asked).or (firstScore? calls asked) =
      (tagging.scoreAt? asked).or (firstScore? ((location, score) :: calls) asked) := by
  rw [scoreAt?_push, Option.or_assoc, ← firstScore?_append, List.singleton_append]

theorem scoreAt?_pushAll (tagging : VariableTagging) (calls : List (Location × Single))
    (asked : Location) :
    (tagging.pushAll calls).scoreAt? asked =
      (tagging.scoreAt? asked).or (firstScore? calls asked) := by
  -- On the calls, with more and more of them behind the tagging.
  induction calls generalizing tagging with
  | nil => simp [pushAll, firstScore?]
  | cons call calls ih =>
    obtain ⟨location, score⟩ := call
    rw [pushAll_cons, ih, scoreAt?_push_or]

/-- A score is taken if neither the tagging nor what is pushed earlier has one for its location. -/
theorem answers_eq (tagging : VariableTagging) (calls : List (Location × Single)) :
    answers tagging calls = calls.mapIdx fun place call =>
      ((tagging.scoreAt? call.1).or (firstScore? (calls.take place) call.1)).isNone := by
  induction calls generalizing tagging with
  | nil => rfl
  | cons call calls ih =>
    obtain ⟨location, score⟩ := call
    have first : (tagging.push? location score).isSome = (tagging.scoreAt? location).isNone := by
      cases absent : tagging.scoreAt? location <;> simp [push?, absent]
    simp only [answers, ih, List.mapIdx_cons, first, scoreAt?_push_or, List.take_succ_cons]
    simp [firstScore?]

theorem entries_pushAll (tagging : VariableTagging) (calls : List (Location × Single)) :
    (tagging.pushAll calls).entries =
      tagging.entries ++ ((calls.zip (answers tagging calls)).filter Prod.snd).map Prod.fst := by
  induction calls generalizing tagging with
  | nil => simp [pushAll]
  | cons call calls ih =>
    obtain ⟨location, score⟩ := call
    rw [pushAll_cons, ih, answers, push]
    cases pushed : tagging.push? location score with
    | none => simp
    | some longer =>
      obtain ⟨_, rfl⟩ := push?_eq_some_iff.mp pushed
      simp

/-- Of the scores that are pushed for a new tagging, exactly those are taken whose location is not
the same as that of an earlier one, be it that the earlier one was taken or refused.  The tagging
consists of the scores that were taken, in the order in which they came.  And for every location it
has the score that was pushed first for the same location, and none if there was none.  Locations
are the same if they have the same axes, in whatever order, and on each of them the same coordinate
but for the sign of a zero. -/
theorem scoreAt?_ofEntries (font tag : String) (calls : List (Location × Single)) :
    let taken := answers (empty font tag) calls
    let tagging := ofEntries font tag calls
    taken = calls.mapIdx (fun place call =>
        decide (∀ earlier ∈ calls.take place, ¬earlier.1.Same call.1)) ∧
      tagging.entries = ((calls.zip taken).filter Prod.snd).map Prod.fst ∧
      ∀ location, tagging.scoreAt? location = firstScore? calls location := by
  intro taken tagging
  refine ⟨?_, entries_pushAll (empty font tag) calls, fun location => ?_⟩
  · have unscored (place : ℕ) (call : Location × Single) :
        (((empty font tag).scoreAt? call.1).or (firstScore? (calls.take place) call.1)).isNone =
          decide (∀ earlier ∈ calls.take place, ¬earlier.1.Same call.1) := by
      rw [Bool.eq_iff_iff, decide_eq_true_iff, ← firstScore?_eq_none_iff, Option.isNone_iff_eq_none]
      rfl
    simp only [taken, answers_eq, unscored]
  · exact scoreAt?_pushAll (empty font tag) calls location

end FontScores.VariableTagging
