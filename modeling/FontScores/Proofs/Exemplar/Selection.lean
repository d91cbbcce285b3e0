import Mathlib
import FontScores.Exemplar.Selection
import FontScores.Proofs.Number.Order
import FontScores.Proofs.Ranking

/-!
# Exemplars are the foremost taggings of their ranges

Each bucket of the exemplars of a tag is a short ranking of the static taggings of that tag: by
score, the strongest or the weakest first, or by position alone.  One tagging can occur several
times in a list, so the rankings are of occurrences, that is of taggings with their positions.

The exemplars are picked in one pass that asks for one range after the other.  No score is in two
ranges, so every bucket collects what it would collect alone; and cutting a bucket whenever it is
full leaves what cutting it once leaves.

Above 80 there are no zeros and nothing that is not a number, so the total order that ranks the
strongest scores is there the order of what the scores are worth.
-/

namespace FontScores

namespace Exemplars

/-! ## Occurrences -/

/-- These are the occurrences of the static taggings of a tag, each with its position in the list,
in the order of the list. -/
structure Occurrences (tag : String) (taggings : List Tagging) (all : List (StaticTagging × ℕ)) :
    Prop where
  mem_iff : ∀ tagging position, (tagging, position) ∈ all ↔
    taggings[position]? = some (.fixed tagging) ∧ tagging.tag = tag
  ordered : all.Pairwise fun one other => one.2 < other.2

/-- The static taggings of a tag, in the order of the list. -/
def candidates (tag : String) (taggings : List Tagging) : List StaticTagging :=
  (taggings.filterMap Tagging.static?).filter (·.tag = tag)

theorem candidates_append (tag : String) (one other : List Tagging) :
    candidates tag (one ++ other) = candidates tag one ++ candidates tag other := by
  simp [candidates]

/-- What occurs are the candidates. -/
theorem exists_occurrences (tag : String) (taggings : List Tagging) :
    ∃ all, Occurrences tag taggings all ∧ all.map Prod.fst = candidates tag taggings := by
  let pick (tagging : Tagging) : Option StaticTagging := tagging.static?.filter (·.tag = tag)
  have pick_iff (tagging : Tagging) (picked : StaticTagging) :
      pick tagging = some picked ↔ tagging = .fixed picked ∧ picked.tag = tag := by
    cases tagging <;> simp [pick, Tagging.static?, Option.filter_eq_some_iff]
  let all := taggings.zipIdx.filterMap fun entry => (pick entry.1).map (·, entry.2)
  refine ⟨all, ⟨?_, ?_⟩, ?_⟩
  · intro tagging position
    simp [all, List.mk_mem_zipIdx_iff_getElem?, pick_iff]
  · have placed : taggings.zipIdx.Pairwise fun one other => one.2 < other.2 := by
      rw [← List.pairwise_map (f := Prod.snd), List.zipIdx_map_snd]
      exact List.pairwise_lt_range'
    refine placed.filterMap _ fun one other before picked isPicked also isAlso => ?_
    -- What is picked keeps its position.
    obtain ⟨_, _, rfl⟩ := Option.map_eq_some_iff.mp isPicked
    obtain ⟨_, _, rfl⟩ := Option.map_eq_some_iff.mp isAlso
    exact before
  · calc all.map Prod.fst
      _ = taggings.zipIdx.filterMap (pick ·.1) := by
        simp [all, List.map_filterMap, Function.comp_def]
      _ = (taggings.zipIdx.map Prod.fst).filterMap pick := by
        rw [List.filterMap_map]
        rfl
      _ = candidates tag taggings := by
        rw [List.zipIdx_map_fst, candidates, List.filter_filterMap]

/-- The greater score first, and of equal scores the earlier one. -/
def strongestFirst (occurrence : StaticTagging × ℕ) : (WithBot (WithTop Int))ᵒᵈ ×ₗ ℕ :=
  toLex (OrderDual.toDual occurrence.1.score.value, occurrence.2)

/-- The score that is lower in the total order first, and of equal scores the earlier one. -/
def weakestFirst (occurrence : StaticTagging × ℕ) : ℤ ×ₗ ℕ :=
  toLex (occurrence.1.score.rank, occurrence.2)

/-- Sorting the taggings of a range is sorting their occurrences. -/
theorem mergeSort_map_fst (all : List (StaticTagging × ℕ)) (range : StaticTagging → Bool)
    (le : StaticTagging → StaticTagging → Bool) (count : ℕ) :
    (((all.map Prod.fst).filter range).mergeSort le).take count =
      (((all.filter (range ·.1)).mergeSort
        fun one other => le one.1 other.1).take count).map Prod.fst := by
  rw [List.map_take, List.map_mergeSort (s := le) fun _ _ _ _ => rfl, List.filter_map]
  rfl

/-! ## Ranges of scores -/

section Ranges

variable {one other : Single}

/-- Two high scores are ranked by what they are worth. -/
theorem rankLE_of_isHigh (first : isHigh one = true) (second : isHigh other = true) :
    one.rankLE other = decide (one.value ≤ other.value) := by
  have bottom : highAbove.position = 1117782016 := by decide
  have plain {score : Single} (high : isHigh score = true) :
      score.isNaN = false ∧ score.rank = score.position := by
    -- With a minus sign the rank is one less than the position, but a high score has none.
    simp only [isHigh, Binary.less, bottom, Bool.and_eq_true, Bool.not_eq_true',
      decide_eq_true_eq] at high
    refine ⟨high.1.2, ?_⟩
    have above := high.2
    simp only [Binary.position, Binary.rank] at above ⊢
    split at above
    · omega
    · simp_all
  obtain ⟨number, same⟩ := plain first
  obtain ⟨otherNumber, otherSame⟩ := plain second
  have worth := Binary.value_le_value_iff (by decide) number otherNumber
  simp only [Binary.rankLE, same, otherSame, worth]

/-- No score is in two ranges. -/
theorem ranges_apart (score : Single) :
    ¬(isHigh score = true ∧ isLow score = true) ∧ ¬(isHigh score = true ∧ isMedium score = true) ∧
      ¬(isLow score = true ∧ isMedium score = true) := by
  have limits : lowUpTo.position < mediumAbove.position ∧
      mediumBelow.position < highAbove.position ∧ lowUpTo.position < highAbove.position := by decide
  simp only [isHigh, isLow, isMedium, Binary.less, Binary.lessEq, Bool.and_eq_true,
    Bool.not_eq_true', decide_eq_true_eq]
  omega

end Ranges

/-! ## One pass -/

/-- What the pass has collected of the taggings that it has seen. -/
structure Collected (tag : String) (seen : List Tagging) (exemplars : Exemplars) : Prop where
  high : exemplars.high = (candidates tag seen).filter (isHigh ·.score)
  low : exemplars.low = (candidates tag seen).filter (isLow ·.score)
  medium : exemplars.medium = ((candidates tag seen).filter (isMedium ·.score)).take perBucket

/-- The ranges are asked one after the other, but no score is in two of them: every bucket takes
what it would take alone. -/
theorem collect_fixed {tag : String} (exemplars : Exemplars) {tagging : StaticTagging}
    (own : tagging.tag = tag) :
    collect tag exemplars (.fixed tagging) =
      ⟨exemplars.high ++ [tagging].filter (isHigh ·.score),
        exemplars.low ++ [tagging].filter (isLow ·.score),
        exemplars.medium ++
          ([tagging].filter (isMedium ·.score)).take (perBucket - exemplars.medium.length)⟩ := by
  obtain ⟨highNotLow, highNotMedium, lowNotMedium⟩ := ranges_apart tagging.score
  rw [collect, if_neg (not_not.mpr own)]
  split
  next strong =>
    have notWeak : isLow tagging.score = false := by simpa [strong] using highNotLow
    have notBetween : isMedium tagging.score = false := by simpa [strong] using highNotMedium
    simp [strong, notWeak, notBetween]
  next notStrong =>
    split
    next weak =>
      have notBetween : isMedium tagging.score = false := by simpa [weak] using lowNotMedium
      simp [notStrong, weak, notBetween]
    next notWeak =>
      split
      next room =>
        have free : 1 ≤ perBucket - exemplars.medium.length := Nat.sub_pos_of_lt room.2
        simp [notStrong, notWeak, room.1, List.take_of_length_le, free]
      next full =>
        by_cases between : isMedium tagging.score
        · have none : perBucket - exemplars.medium.length = 0 :=
            Nat.sub_eq_zero_of_le (not_lt.mp fun room => full ⟨between, room⟩)
          simp [notStrong, notWeak, none]
        · simp [notStrong, notWeak, between]

/-- The pass goes on by one tagging. -/
theorem Collected.collect {tag : String} {seen : List Tagging} {exemplars : Exemplars}
    (collected : Collected tag seen exemplars) (tagging : Tagging) :
    Collected tag (seen ++ [tagging]) (collect tag exemplars tagging) := by
  obtain ⟨high, low, medium⟩ := collected
  -- What is no candidate changes nothing on either side.
  have passed (other : candidates tag [tagging] = []) :
      Collected tag (seen ++ [tagging]) exemplars := by
    constructor <;> rwa [candidates_append, other, List.append_nil]
  cases tagging with
  | varying tagging => exact passed rfl
  | fixed tagging =>
    by_cases own : tagging.tag = tag
    · have last : candidates tag [.fixed tagging] = [tagging] := by
        simpa [candidates, Tagging.static?] using own
      rw [collect_fixed exemplars own]
      constructor
      case high => rw [candidates_append, last, List.filter_append, high]
      case low => rw [candidates_append, last, List.filter_append, low]
      case medium =>
        -- A bucket that was cut before is full exactly if everything found would fill it.
        have room (found : List StaticTagging) :
            perBucket - (found.take perBucket).length = perBucket - found.length := by
          rw [List.length_take]
          omega
        rw [candidates_append, last, List.filter_append, List.take_append, medium, room]
    · rw [Exemplars.collect, if_pos own]
      exact passed (by simp [candidates, Tagging.static?, own])

theorem collected_foldl (tag : String) (taggings : List Tagging) :
    Collected tag taggings (taggings.foldl (Exemplars.collect tag) ⟨[], [], []⟩) := by
  -- The pass starts at the front, so the induction takes the last tagging off.
  induction taggings using List.reverseRecOn with
  | nil => exact ⟨rfl, rfl, rfl⟩
  | append_singleton taggings tagging ih =>
    rw [List.foldl_append]
    exact ih.collect tagging

/-- The pass picks what three filters pick, one for each range. -/
theorem select_eq (tag : String) (taggings : List Tagging) :
    select tag taggings =
      ⟨strongest ((candidates tag taggings).filter (isHigh ·.score)),
        weakest ((candidates tag taggings).filter (isLow ·.score)),
        ((candidates tag taggings).filter (isMedium ·.score)).take perBucket⟩ := by
  obtain ⟨high, low, medium⟩ := collected_foldl tag taggings
  simp only [select, high, low, medium]

/-! ## The selection -/

/-- The exemplars of a tag are the foremost occurrences of its static taggings in three ranges,
three of each at most: above 80 the strongest, up to 20 the weakest, strictly between 33 and 66 the
earliest.  No occurrence is in two of them. -/
theorem select_foremost (tag : String) (taggings : List Tagging) :
    ∃ all high low medium : List (StaticTagging × ℕ),
      Occurrences tag taggings all ∧
      select tag taggings = ⟨high.map Prod.fst, low.map Prod.fst, medium.map Prod.fst⟩ ∧
      Foremost strongestFirst 3
        (all.filter fun found => (Binary.ofNat .single false 80).less found.1.score) high ∧
      Foremost weakestFirst 3
        (all.filter fun found => found.1.score.lessEq (Binary.ofNat .single false 20)) low ∧
      Foremost Prod.snd 3
        (all.filter fun found => (Binary.ofNat .single false 33).less found.1.score &&
          found.1.score.less (Binary.ofNat .single false 66)) medium ∧
      high.Disjoint low ∧ high.Disjoint medium ∧ low.Disjoint medium := by
  obtain ⟨all, occurrences, same⟩ := exists_occurrences tag taggings
  have placed (range : Single → Bool) : (all.filter (range ·.1.score)).Pairwise
      fun one other => one.2 < other.2 := occurrences.ordered.filter _
  have high : Foremost strongestFirst 3 (all.filter (isHigh ·.1.score)) _ :=
    foremost_mergeSort (fun one other => other.1.score.rankLE one.1.score) (placed isHigh)
      (fun one first other second => by
        have := rankLE_of_isHigh (List.mem_filter.mp second).2 (List.mem_filter.mp first).2
        simpa [byRank] using this) 3
  have low : Foremost weakestFirst 3 (all.filter (isLow ·.1.score)) _ :=
    foremost_mergeSort (fun one other => one.1.score.rankLE other.1.score) (placed isLow)
      (fun _ _ _ _ => rfl) 3
  have medium : Foremost Prod.snd 3 (all.filter (isMedium ·.1.score)) _ :=
    .take (.refl _) (placed isMedium) 3
  refine ⟨all, _, _, _, occurrences, ?_, high, low, medium, ?_, ?_, ?_⟩
  · rw [select_eq, ← same, strongest, weakest, mk.injEq]
    refine ⟨mergeSort_map_fst _ _ _ 3, mergeSort_map_fst _ _ _ 3, ?_⟩
    rw [List.map_take, List.filter_map]
    rfl
  · exact high.disjoint low fun found => (ranges_apart found.1.score).1
  · exact high.disjoint medium fun found => (ranges_apart found.1.score).2.1
  · exact low.disjoint medium fun found => (ranges_apart found.1.score).2.2

end Exemplars

end FontScores
