import Mathlib

/-!
# The first of a ranking

A ranking orders the entries of a pool by a key, and an answer shows the first few of them.  What it
shows is described without the way in which it was found: the entries shown stand in the order of
their keys, whatever is not shown comes after all of them, and no more are left out than have to be.

A stable sort by a rank is a ranking by the rank first and then by the position in the pool, because
it leaves the entries of one rank in the order in which they were.
-/

namespace FontScores

variable {α κ : Type} [LinearOrder κ]

/-- The entries `shown` are the first `count` ones of the pool in the order of a key. -/
structure Foremost (key : α → κ) (count : Nat) (pool shown : List α) : Prop where
  among : ∀ one ∈ shown, one ∈ pool
  ordered : shown.Pairwise fun one other => key one < key other
  ahead : ∀ one ∈ shown, ∀ other ∈ pool, other ∉ shown → key one < key other
  size : shown.length = min count pool.length

namespace Foremost

variable {key : α → κ} {count : Nat} {pool shown : List α}

/-- The first entries of the whole ranking are the foremost ones. -/
theorem take {ranking : List α} (same : ranking.Perm pool)
    (ordered : ranking.Pairwise fun one other => key one < key other) (count : Nat) :
    Foremost key count pool (ranking.take count) := by
  constructor
  case among => exact fun one member => same.subset (List.mem_of_mem_take member)
  case ordered => exact ordered.sublist (List.take_sublist count ranking)
  case ahead =>
    intro one shown other member hidden
    -- What is not among the first is among the rest.
    have split := same.mem_iff.mpr member
    rw [← List.take_append_drop count ranking] at ordered split
    have later := (List.mem_append.mp split).resolve_left hidden
    exact (List.pairwise_append.mp ordered).2.2 one shown other later
  case size => rw [List.length_take, same.length_eq]

theorem nodup (foremost : Foremost key count pool shown) : shown.Nodup :=
  foremost.ordered.imp fun before same => before.ne (congrArg key same)

/-- What is shown of two ranges of a pool that have nothing in common has nothing in common. -/
theorem disjoint {κ' : Type} [LinearOrder κ'] {key' : α → κ'} {count' : Nat} {shown' : List α}
    {range range' : α → Bool} (one : Foremost key count (pool.filter range) shown)
    (two : Foremost key' count' (pool.filter range') shown')
    (apart : ∀ entry, ¬(range entry = true ∧ range' entry = true)) : shown.Disjoint shown' :=
  fun entry first second => apart entry
    ⟨(List.mem_filter.mp (one.among entry first)).2,
      (List.mem_filter.mp (two.among entry second)).2⟩

/-- An entry is shown if fewer than `count` entries come before it. -/
theorem mem_iff (foremost : Foremost key count pool shown) (distinct : pool.Nodup) {one : α}
    (member : one ∈ pool) :
    one ∈ shown ↔ (pool.filter (key · < key one)).length < count := by
  have few := foremost.size ▸ Nat.min_le_left count pool.length
  constructor
  · intro inside
    -- Whatever comes before an entry that is shown is shown too.
    have outside : one ∉ pool.filter (key · < key one) := by simp
    have before : one :: pool.filter (key · < key one) ⊆ shown := by
      rw [List.cons_subset]
      refine ⟨inside, fun other earlier => ?_⟩
      simp only [List.mem_filter, decide_eq_true_eq] at earlier
      by_contra hidden
      exact lt_asymm earlier.2 (foremost.ahead one inside other earlier.1 hidden)
    have room := (List.Nodup.subperm (List.nodup_cons.mpr ⟨outside, distinct.filter _⟩)
      before).length_le
    rw [List.length_cons] at room
    omega
  · intro close
    by_contra hidden
    -- Everything that is shown comes before it, and something is left out only if `count` are
    -- shown.
    have earlier : shown ⊆ pool.filter (key · < key one) := fun other inside => by
      simpa using ⟨foremost.among other inside, foremost.ahead other inside one member hidden⟩
    have more : one :: shown ⊆ pool := List.cons_subset.mpr ⟨member, foremost.among⟩
    have one_le := (foremost.nodup.subperm earlier).length_le
    have two_le := (List.Nodup.subperm (List.nodup_cons.mpr ⟨hidden, foremost.nodup⟩)
      more).length_le
    have size := foremost.size
    rw [List.length_cons] at two_le
    omega

end Foremost

/-! ## Stable sorting -/

section Stable

variable {rank : α → κ} {pool : List α}

/-- Whether an entry may stand before another in the order of a rank. -/
def byRank (rank : α → κ) (one other : α) : Bool := decide (rank one ≤ rank other)

theorem byRank_trans (rank : α → κ) (a b c : α) (one : byRank rank a b = true)
    (two : byRank rank b c = true) : byRank rank a c = true :=
  decide_eq_true (le_trans (of_decide_eq_true one) (of_decide_eq_true two))

theorem byRank_total (a b : α) : (byRank rank a b || byRank rank b a) = true := by
  simpa [byRank] using le_total (rank a) (rank b)

/-- What has the lower rank stands before what has the higher one. -/
theorem sublist_mergeSort (rank : α → κ) {one other : α} (first : one ∈ pool)
    (second : other ∈ pool) (lower : rank one < rank other) :
    [one, other].Sublist (pool.mergeSort (byRank rank)) := by
  have sorted := List.pairwise_mergeSort (byRank_trans rank) byRank_total pool
  have among {entry : α} (member : entry ∈ pool) : entry ∈ pool.mergeSort (byRank rank) :=
    List.mem_mergeSort.mpr member
  obtain ⟨before, after, whole⟩ := List.append_of_mem (among first)
  have member := among second
  rw [whole] at sorted member ⊢
  -- It is not before the other one, and not in its place.
  rcases List.mem_append.mp member with earlier | later
  · have le := (List.pairwise_append.mp sorted).2.2 other earlier one List.mem_cons_self
    exact absurd lower (not_lt_of_ge (of_decide_eq_true le))
  · have behind := List.mem_of_ne_of_mem (fun same => lower.ne (congrArg rank same.symm)) later
    exact ((List.singleton_sublist.mpr behind).cons_cons one).trans
      (List.sublist_append_right before _)

/-- Sorting by a rank leaves the entries of one rank as they were. -/
theorem filter_mergeSort (rank : α → κ) (pool : List α) (level : κ) :
    (pool.mergeSort (byRank rank)).filter (rank · = level) = pool.filter (rank · = level) := by
  have ordered : (pool.filter (rank · = level)).Pairwise fun one other =>
      byRank rank one other = true := by
    refine List.pairwise_of_forall_mem_list fun one first other second => decide_eq_true ?_
    simp only [List.mem_filter, decide_eq_true_eq] at first second
    exact (first.2.trans second.2.symm).le
  -- They are in order already, so they are a part of what is sorted; there are no others.
  have part := (List.sublist_mergeSort (byRank_trans rank) byRank_total ordered
    List.filter_sublist).filter (rank · = level)
  simp only [List.filter_filter, Bool.and_self] at part
  exact (part.eq_of_length ((List.mergeSort_perm pool _).filter _).length_eq.symm).symm

/-- A stable sort by a rank orders by the rank and then by the position. -/
theorem pairwise_mergeSort_lex {position : α → ℕ}
    (placed : pool.Pairwise fun one other => position one < position other) :
    (pool.mergeSort (byRank rank)).Pairwise fun one other =>
      toLex (rank one, position one) < toLex (rank other, position other) := by
  have sorted := List.pairwise_mergeSort (byRank_trans rank) byRank_total pool
  rw [List.pairwise_iff_forall_sublist] at sorted placed ⊢
  intro one other pair
  rcases (of_decide_eq_true (sorted pair)).lt_or_eq with lower | level
  · exact Prod.Lex.toLex_lt_toLex.mpr (.inl lower)
  · -- Of one rank, they stand in the pool as they do here.
    have kept := pair.filter (rank · = rank other)
    rw [filter_mergeSort] at kept
    simp only [level, decide_true, List.filter_cons_of_pos, List.filter_nil] at kept
    exact Prod.Lex.toLex_lt_toLex.mpr
      (.inr ⟨level, placed (kept.trans List.filter_sublist)⟩)

/-- The first entries of a stable sort are the foremost ones by their rank and their position. -/
theorem foremost_mergeSort (le : α → α → Bool) {position : α → ℕ}
    (placed : pool.Pairwise fun one other => position one < position other)
    (agrees : ∀ one ∈ pool, ∀ other ∈ pool, le one other = byRank rank one other) (count : Nat) :
    Foremost (fun one => toLex (rank one, position one)) count pool
      ((pool.mergeSort le).take count) := by
  have same : pool.mergeSort le = pool.mergeSort (byRank rank) := by
    simpa using List.map_mergeSort (f := id) agrees
  rw [same]
  exact .take (List.mergeSort_perm _ _) (pairwise_mergeSort_lex placed) count

end Stable

end FontScores
