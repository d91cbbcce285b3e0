import Mathlib
import FontScores.Platform
import FontScores.Proofs.Ranking
import FontScores.Proofs.Reference.Entries
import FontScores.Similarity.Index

/-!
# The families nearest to a family

An index is what was entered into it, one vector after the other: every family once, where it was
entered first and with its last vector.  The families nearest to a family are the first few of a
ranking of all families, by distance and then by position, without that family itself.  It takes
part in the ranking like any other, so it takes a place of the answer unless as many families as
were asked for stand before it.
-/

namespace FontScores

open ReferenceData (lastUnder? lastUnder?_concat)

namespace EmbeddingIndex

variable {index : EmbeddingIndex} {family : String}

/-! ## Positions -/

/-- The position under a family is the place of its first entry. -/
theorem position?_eq (index : EmbeddingIndex) (family : String) :
    index.position? family = (index.entries.map Prod.fst).idxOf? family := by
  have shifted (names : List String) (start : ℕ) :
      ((names.zipIdx start).find? (·.1 = family)).map Prod.snd =
        (names.idxOf? family).map (· + start) := by
    -- Behind the first name the numbers start one higher.
    induction names generalizing start with
    | nil => rfl
    | cons name names ih =>
      by_cases same : name = family
      · simp [List.zipIdx_cons, List.idxOf?_cons, same]
      · simp [List.zipIdx_cons, List.idxOf?_cons, same, ih, Function.comp_def, Nat.add_right_comm,
          Nat.add_assoc]
  rw [position?, index.inStep, shifted]
  simp

/-- What stands at a family's position is the first entry with its name. -/
theorem get?_eq (index : EmbeddingIndex) (family : String) :
    index.get? family = (index.entries.find? (·.1 = family)).map Prod.snd := by
  rw [get?, position?_eq]
  induction index.entries with
  | nil => rfl
  | cons entry entries ih =>
    by_cases same : entry.1 = family
    · simp [List.idxOf?_cons, same]
    · simpa [List.idxOf?_cons, same, Option.bind_map, Function.comp_def] using ih

/-- Sets a family's vector at the first entry with its name, and at the end if there is none. -/
def put (family : String) (vector : List Single) :
    List (String × List Single) → List (String × List Single)
  | [] => [(family, vector)]
  | (first, old) :: rest =>
    if first = family then (first, vector) :: rest else (first, old) :: put family vector rest

/-- A vector that is set by way of the positions is set at the first entry with the name. -/
theorem entries_insert (index : EmbeddingIndex) (family : String) (vector : List Single) :
    (index.insert family vector).entries = put family vector index.entries := by
  have set (entries : List (String × List Single)) : put family vector entries =
      ((entries.map Prod.fst).idxOf? family).elim (entries ++ [(family, vector)])
        fun position => replace entries position vector := by
    -- Behind the first entry every position is one less.
    induction entries with
    | nil => rfl
    | cons entry entries ih =>
      obtain ⟨first, old⟩ := entry
      by_cases same : first = family
      · simp [put, List.idxOf?_cons, same, replace]
      · simp only [put, same, if_false, ih, List.map_cons, List.idxOf?_cons]
        cases (entries.map Prod.fst).idxOf? family <;> simp [same, replace]
  rw [set, insert, ← position?_eq]
  cases index.position? family <;> rfl

/-! ## Entering vectors -/

/-- The index after these entries, one after the other. -/
def ofEntries (entries : List (String × List Single)) : EmbeddingIndex :=
  entries.foldl (fun index (family, vector) => index.insert family vector) empty

theorem ofEntries_concat (entries : List (String × List Single)) (family : String)
    (vector : List Single) :
    ofEntries (entries ++ [(family, vector)]) = (ofEntries entries).insert family vector := by
  simp [ofEntries]

theorem map_fst_put (family : String) (vector : List Single)
    (entries : List (String × List Single)) :
    (put family vector entries).map Prod.fst =
      if family ∈ entries.map Prod.fst then entries.map Prod.fst
      else entries.map Prod.fst ++ [family] := by
  induction entries with
  | nil => simp [put]
  | cons head rest ih =>
    obtain ⟨first, old⟩ := head
    by_cases same : first = family
    · simp [put, same]
    · simp only [put, same, if_false, List.map_cons, ih, List.mem_cons, Ne.symm same, false_or]
      split <;> simp

theorem get?_insert (index : EmbeddingIndex) (family other : String) (vector : List Single) :
    (index.insert family vector).get? other =
      if family = other then some vector else index.get? other := by
  rw [get?_eq, get?_eq, entries_insert]
  induction index.entries with
  | nil => by_cases same : family = other <;> simp [put, same]
  | cons head rest ih =>
    obtain ⟨first, old⟩ := head
    simp only [put]
    by_cases here : first = family
    · subst here
      by_cases same : first = other <;> simp [same]
    · rw [if_neg here]
      by_cases found : first = other
      · have different : family ≠ other := fun same => here (found.trans same.symm)
        simp [found, different]
      · simp [found, ih]

/-- Every family stands in the index once, in the order of the first entries. -/
theorem names_ofEntries (entries : List (String × List Single)) :
    (ofEntries entries).entries.map Prod.fst = (entries.map Prod.fst).eraseDups := by
  induction entries using List.reverseRecOn with
  | nil => rfl
  | append_singleton entries entry ih =>
    obtain ⟨family, vector⟩ := entry
    rw [ofEntries_concat, List.map_append, List.map_singleton, eraseDups_concat]
    simp only [entries_insert, map_fst_put, ih, List.mem_eraseDups]

/-- The vector of a family is the one that was entered last. -/
theorem get?_ofEntries (entries : List (String × List Single)) (family : String) :
    (ofEntries entries).get? family = lastUnder? entries family := by
  induction entries using List.reverseRecOn with
  | nil => rfl
  | append_singleton entries entry ih =>
    rw [ofEntries_concat, get?_insert, lastUnder?_concat, ih]

theorem put_of_notMem {vector : List Single} {entries : List (String × List Single)}
    (new : family ∉ entries.map Prod.fst) :
    put family vector entries = entries ++ [(family, vector)] := by
  induction entries with
  | nil => rfl
  | cons head rest ih =>
    simp only [List.map_cons, List.mem_cons, not_or] at new
    simp [put, Ne.symm new.1, ih new.2]

/-- Entries of different families are kept as they are. -/
theorem entries_ofEntries {entries : List (String × List Single)}
    (distinct : (entries.map Prod.fst).Nodup) : (ofEntries entries).entries = entries := by
  induction entries using List.reverseRecOn with
  | nil => rfl
  | append_singleton entries entry ih =>
    obtain ⟨family, vector⟩ := entry
    rw [List.map_append, List.nodup_append] at distinct
    obtain ⟨earlier, _, apart⟩ := distinct
    -- The last family is a new one, so it is entered at the end.
    have new : family ∉ entries.map Prod.fst := fun member => apart _ member _ (by simp) rfl
    rw [ofEntries_concat, entries_insert, ih earlier, put_of_notMem new]

theorem get?_eq_some_iff (distinct : (index.entries.map Prod.fst).Nodup) {vector : List Single} :
    index.get? family = some vector ↔ (family, vector) ∈ index.entries := by
  simp [get?_eq, find?_key_eq_some_iff distinct]

/-- An index is determined by its names and the vectors under them. -/
theorem entries_eq (distinct : (index.entries.map Prod.fst).Nodup) :
    index.entries =
      (index.entries.map Prod.fst).map fun name => (name, (index.get? name).getD []) := by
  rw [List.map_map]
  refine (List.map_id _).symm.trans (List.map_congr_left fun entry member => ?_)
  have found := (get?_eq_some_iff distinct).mpr member
  simp [found]

/-! ## The ranking -/

/-- The distance from a query to the vector of a family. -/
def distanceFrom [UndefinedSign] (index : EmbeddingIndex) (query : List Single)
    (family : String) : Single :=
  distance query ((index.get? family).getD [])

/-- The names in a ranking are the names of the index, sorted by distance. -/
theorem map_fst_ranking [UndefinedSign] (distinct : (index.entries.map Prod.fst).Nodup)
    (query : List Single) :
    (index.ranking query).map Prod.fst = (index.entries.map Prod.fst).mergeSort fun one other =>
      (index.distanceFrom query one).rankLE (index.distanceFrom query other) := by
  -- A name stands for one entry, so its distance can be looked up again.
  have away : ∀ entry ∈ index.entries.map fun (family, vector) => (family, distance query vector),
      entry.2 = index.distanceFrom query entry.1 := by
    intro entry member
    obtain ⟨⟨name, vector⟩, stored, rfl⟩ := List.mem_map.mp member
    simp [distanceFrom, (get?_eq_some_iff distinct).mpr stored]
  rw [ranking, List.map_mergeSort (s := fun one other =>
    (index.distanceFrom query one).rankLE (index.distanceFrom query other))]
  · simp [Function.comp_def]
  · intro one first other second
    rw [away one first, away other second]

/-- What a ranking shows first is foremost by distance and then by position. -/
theorem foremost_ranking [UndefinedSign] {position : String → ℕ}
    (placed : (index.entries.map Prod.fst).Pairwise fun one other => position one < position other)
    (query : List Single) (count : ℕ) :
    Foremost (fun name => toLex ((index.distanceFrom query name).rank, position name)) count
      (index.entries.map Prod.fst) (((index.ranking query).take count).map Prod.fst) := by
  have distinct : (index.entries.map Prod.fst).Nodup :=
    placed.imp fun before same => before.ne (congrArg position same)
  rw [List.map_take, map_fst_ranking distinct]
  exact foremost_mergeSort _ placed (fun _ _ _ _ => rfl) count

/-! ## The answer -/

/-- The families `found` are the `count` nearest ones to a family: the first ones of the ranking,
without the family itself, which takes a place if it is among them. -/
structure Nearest {κ : Type} [LinearOrder κ] (standing : String → κ) (count : ℕ)
    (names : List String) (family : String) (found : List String) : Prop where
  distinct : found.Nodup
  other : family ∉ found
  known : ∀ one ∈ found, one ∈ names
  ordered : found.Pairwise fun one other => standing one < standing other
  ahead : ∀ one ∈ found, ∀ other ∈ names, other ≠ family → other ∉ found →
    standing one < standing other
  size : found.length =
    if count ≤ (names.filter fun one => standing one < standing family).length then
      min count names.length
    else min count names.length - 1

/-- Leaving the family itself out of what is shown leaves the nearest ones. -/
theorem nearest_of_foremost {κ : Type} [LinearOrder κ] {standing : String → κ} {count : ℕ}
    {names shown : List String} (foremost : Foremost standing count names shown)
    (distinct : names.Nodup) (known : family ∈ names) :
    Nearest standing count names family (shown.filter (· ≠ family)) := by
  constructor
  case distinct => exact foremost.nodup.filter _
  case other => simp
  case known => exact fun one member => foremost.among one (List.mem_of_mem_filter member)
  case ordered => exact foremost.ordered.filter _
  case ahead =>
    intro one found other member different hidden
    refine foremost.ahead one (List.mem_of_mem_filter found) other member fun shown => hidden ?_
    exact List.mem_filter.mpr ⟨shown, by simpa using different⟩
  case size =>
    -- The names that are shown are different, so at most one of them is the family's own.
    have erased : shown.filter (· ≠ family) = shown.erase family := by
      rw [foremost.nodup.erase_eq_filter]
      exact List.filter_congr fun one _ => Bool.eq_iff_iff.mpr (by simp)
    simp only [erased, List.length_erase, foremost.mem_iff distinct known, foremost.size]
    split <;> split <;> omega

/-- Where a family stands in the ranking from a query, after these entries: by the distance to its
last vector, and then by the place of its first entry. -/
def standing [UndefinedSign] (entries : List (String × List Single)) (query : List Single)
    (family : String) : ℤ ×ₗ ℕ :=
  toLex ((distance query ((lastUnder? entries family).getD [])).rank,
    (entries.map Prod.fst).idxOf family)

/-- After any entries the index holds every family once, in the order of the first entries and with
the last vectors.  A family without a vector has no neighbours.  For any other the answer is the
foremost part of the ranking, cut before the family itself is left out. -/
theorem similar_ofEntries [UndefinedSign] (entries : List (String × List Single)) :
    let index := ofEntries entries
    let names := (entries.map Prod.fst).eraseDups
    index.entries = names.map (fun name => (name, (lastUnder? entries name).getD [])) ∧
      (∀ family, index.get? family = lastUnder? entries family) ∧
      ∀ family count,
        (index.get? family = none → index.similar family count = []) ∧
        ∀ query, index.get? family = some query →
          Nearest (standing entries query) count names family (index.similar family count) := by
  intro index names
  have stand : index.entries.map Prod.fst = names := names_ofEntries entries
  have distinct : names.Nodup := nodup_eraseDups _
  have vectors := get?_ofEntries entries
  refine ⟨?_, vectors, fun family count => ⟨fun absent => ?_, fun query present => ?_⟩⟩
  · have whole := entries_eq (stand.symm ▸ distinct)
    simpa only [stand, index, vectors] using whole
  · simp [similar, absent]
  · have placed := pairwise_idxOf_eraseDups (entries.map Prod.fst)
    rw [← names_ofEntries] at placed
    have foremost := foremost_ranking placed query count
    have known : family ∈ names := by
      rw [← stand]
      exact List.mem_map_of_mem ((get?_eq_some_iff (stand.symm ▸ distinct)).mp present)
    simp only [distanceFrom, vectors, names_ofEntries] at foremost
    simp only [similar, present]
    exact nearest_of_foremost foremost distinct known

/-- Three families at the same place, the first of which came there by a later entry: the first one
is the only one found, because the family itself is the second of the two that were asked for. -/
theorem similar_ofEntries_of_tie :
    let origin : List Single := [Binary.zero _ false]
    let entries : List (String × List Single) :=
      [("Roboto", [Binary.ofNat _ false 9]), ("Lato", origin), ("Inter", origin),
        ("Roboto", origin)]
    let index := ofEntries entries
    index.get? "Lato" = some origin ∧ index.similar "Lato" 2 = ["Roboto"] ∧
      Nearest (standing entries origin) 2 ["Roboto", "Lato", "Inter"] "Lato"
        (index.similar "Lato" 2) ∧
      index.get? "Noto" = none ∧ index.similar "Noto" 2 = [] := by
  intro origin entries index
  have stored : index = ⟨[("Roboto", origin), ("Lato", origin), ("Inter", origin)],
      [("Roboto", 0), ("Lato", 1), ("Inter", 2)], rfl⟩ := by
    decide
  have found : index.similar "Lato" 2 = ["Roboto"] := by
    rw [stored]
    cbv
  have present : index.get? "Lato" = some origin := by decide
  have absent : index.get? "Noto" = none := by decide
  have nearest := ((similar_ofEntries entries).2.2 "Lato" 2).2 origin present
  exact ⟨present, found, nearest, absent, ((similar_ofEntries entries).2.2 "Noto" 2).1 absent⟩

end EmbeddingIndex

end FontScores
