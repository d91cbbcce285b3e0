import Mathlib
import FontScores.Reference.Registry

/-!
# Entries under keys

A list of entries can name a key more than once.  The key then stands where it was named first, and
has the value that it was given last.  If every key is named once, the order of the entries has no
part in the values.
-/

namespace FontScores

/-! ## Keys in the order of their first entries -/

section Keys

variable {α : Type} [DecidableEq α] {keys : List α}

theorem eraseDups_concat (keys : List α) (key : α) :
    (keys ++ [key]).eraseDups =
      if key ∈ keys then keys.eraseDups else keys.eraseDups ++ [key] := by
  rw [List.eraseDups_append]
  split
  next old => simp [List.removeAll, old]
  next new => simp [List.removeAll, new, List.eraseDups_cons]

/-- The keys stand in the order in which they were named first. -/
theorem pairwise_idxOf_eraseDups (keys : List α) :
    keys.eraseDups.Pairwise fun one other => keys.idxOf one < keys.idxOf other := by
  induction keys using List.reverseRecOn with
  | nil => simp
  | append_singleton keys key ih =>
    have earlier : keys.eraseDups.Pairwise fun one other =>
        (keys ++ [key]).idxOf one < (keys ++ [key]).idxOf other := by
      refine ih.imp_of_mem fun first second before => ?_
      rwa [List.idxOf_append_of_mem (List.mem_eraseDups.mp first),
        List.idxOf_append_of_mem (List.mem_eraseDups.mp second)]
    rw [eraseDups_concat]
    split
    · exact earlier
    next new =>
      refine List.pairwise_append.mpr ⟨earlier, by simp, fun one first other last => ?_⟩
      have inside := List.mem_eraseDups.mp first
      rw [List.mem_singleton.mp last, List.idxOf_append_of_mem inside,
        List.idxOf_append_of_notMem new]
      exact Nat.lt_add_right _ (List.idxOf_lt_length_iff.mpr inside)

theorem nodup_eraseDups (keys : List α) : keys.eraseDups.Nodup :=
  (pairwise_idxOf_eraseDups keys).imp fun before same => before.ne (congrArg (keys.idxOf ·) same)

end Keys

/-! ## Values -/

/-- Where all keys are different, what is found under a key is what has the key. -/
theorem find?_key_eq_some_iff {α κ : Type} [DecidableEq κ] {key : α → κ} {entries : List α}
    (distinct : (entries.map key).Nodup) {wanted : κ} {entry : α} :
    entries.find? (key · = wanted) = some entry ↔ entry ∈ entries ∧ key entry = wanted := by
  constructor
  · intro found
    exact ⟨List.mem_of_find?_eq_some found, by simpa using List.find?_some found⟩
  · rintro ⟨member, rfl⟩
    cases found : entries.find? (key · = key entry) with
    | none => simpa using List.find?_eq_none.mp found entry member
    | some other =>
      have same : key other = key entry := by simpa using List.find?_some found
      rw [List.inj_on_of_nodup_map distinct (List.mem_of_find?_eq_some found) member same]

namespace ReferenceData

variable {α : Type} {entries : List (String × α)} {key : String} {value : α}

theorem lastUnder?_concat (entries : List (String × α)) (key other : String) (value : α) :
    lastUnder? (entries ++ [(key, value)]) other =
      if key = other then some value else lastUnder? entries other := by
  by_cases same : key = other <;> simp [lastUnder?, same]

theorem lastUnder?_mem (found : lastUnder? entries key = some value) : (key, value) ∈ entries := by
  obtain ⟨⟨name, last⟩, first, rfl⟩ := Option.map_eq_some_iff.mp found
  obtain rfl : name = key := by simpa using List.find?_some first
  exact List.mem_reverse.mp (List.mem_of_find?_eq_some first)

theorem exists_lastUnder?_of_mem (member : (key, value) ∈ entries) :
    ∃ last, lastUnder? entries key = some last := by
  have found : (entries.reverse.find? (·.1 = key)).isSome = true := by
    rw [List.find?_isSome]
    exact ⟨(key, value), List.mem_reverse.mpr member, by simp⟩
  obtain ⟨entry, first⟩ := Option.isSome_iff_exists.mp found
  exact ⟨entry.2, by simp [lastUnder?, first]⟩

theorem lastUnder?_eq_none_iff : lastUnder? entries key = none ↔ key ∉ entries.map Prod.fst := by
  constructor
  · intro absent member
    obtain ⟨⟨_, value⟩, inside, rfl⟩ := List.mem_map.mp member
    obtain ⟨last, found⟩ := exists_lastUnder?_of_mem inside
    cases absent.symm.trans found
  · intro absent
    refine Option.eq_none_iff_forall_ne_some.mpr fun value found => absent ?_
    exact List.mem_map_of_mem (lastUnder?_mem found)

theorem lastUnder?_eq_some_iff (distinct : (entries.map Prod.fst).Nodup) :
    lastUnder? entries key = some value ↔ (key, value) ∈ entries := by
  have backwards : (entries.reverse.map Prod.fst).Nodup := by
    rwa [List.map_reverse, List.nodup_reverse]
  simp [lastUnder?, find?_key_eq_some_iff backwards]

/-- A key without its own entries has no value, and the other keys keep theirs. -/
theorem lastUnder?_filter_ne {other : String} (different : other ≠ key) :
    lastUnder? (entries.filter (·.1 ≠ key)) other = lastUnder? entries other := by
  have kept (entry : String × α) : entry.1 ≠ key ∧ entry.1 = other ↔ entry.1 = other :=
    and_iff_right_of_imp fun same => same ▸ different
  simp only [lastUnder?, ← List.filter_reverse, List.find?_filter, decide_eq_true_eq, kept]

/-! ## Tables -/

/-- A table that holds every key once, with its last value, in any order. -/
structure Enumerates (table entries : List (String × α)) : Prop where
  distinct : (table.map Prod.fst).Nodup
  mem_iff : ∀ key value, (key, value) ∈ table ↔ lastUnder? entries key = some value

theorem Enumerates.lastUnder?_eq {table : List (String × α)}
    (enumerated : Enumerates table entries) : lastUnder? table = lastUnder? entries := by
  funext key
  refine Option.ext fun value => ?_
  rw [lastUnder?_eq_some_iff enumerated.distinct, enumerated.mem_iff]

/-- Entries with different keys are a table of themselves, and so are they in another order. -/
theorem Enumerates.of_perm {table : List (String × α)} (distinct : (entries.map Prod.fst).Nodup)
    (reordered : table.Perm entries) : Enumerates table entries where
  distinct := (reordered.map Prod.fst).nodup_iff.mpr distinct
  mem_iff _ _ := by rw [reordered.mem_iff, lastUnder?_eq_some_iff distinct]

end ReferenceData

end FontScores
