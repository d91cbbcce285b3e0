import Mathlib
import FontScores.Proofs.Library.Filling

/-!
# Rows that were offered once

Once a row has been offered to a library it is absorbed: whether it was taken in or refused, the
library refuses it from then on, as long as nothing is taken out.  Other rows may come in meanwhile.
They can only fill the slot of the row or lengthen the tagging in it, and neither makes room.

So taking in a table twice is the same as taking it in once, and so is taking in any part of it
afterwards, in whatever order and however often its rows are repeated.
-/

namespace FontScores

namespace Library

variable {library after : Library} {record other : TaggingRecord}

/-! ## One row -/

/-- A row that was taken in is refused when it comes again. -/
theorem Arranged.refused_of_taken (arranged : library.Arranged)
    (added : library.addRecord? record = some after) : after.addRecord? record = none := by
  have edited := edited_addRecord? added
  obtain ⟨_, new, taken, holds⟩ := arranged.fill?_of_addRecord? added
  rw [← Option.not_isSome_iff_eq_none, (arranged_edited arranged edited).isSome_addRecord?_iff]
  rintro ⟨_, again⟩
  rw [registry_edited edited, holds, TaggingRecord.fill?_taken taken] at again
  cases again

/-- A row that is refused is refused behind any other row as well. -/
theorem Arranged.refused_behind (arranged : library.Arranged)
    (refused : library.addRecord? record = none)
    (added : library.addRecord? other = some after) : after.addRecord? record = none := by
  have edited := edited_addRecord? added
  rw [← Option.not_isSome_iff_eq_none, arranged.isSome_addRecord?_iff] at refused
  rw [← Option.not_isSome_iff_eq_none, (arranged_edited arranged edited).isSome_addRecord?_iff,
    hasPlace_edited edited, registry_edited edited]
  rintro ⟨place, takes⟩
  apply refused
  refine ⟨place, ?_⟩
  by_cases same : record.family = other.family ∧ record.tag = other.tag
  · -- Both rows are for one slot, and what it does not take now it did not take before.
    obtain ⟨family, tag⟩ := same
    obtain ⟨_, new, taken, holds⟩ := arranged.fill?_of_addRecord? added
    rw [← family, ← tag] at taken holds
    rw [holds] at takes
    by_contra closed
    rw [Option.not_isSome_iff_eq_none] at closed
    rw [TaggingRecord.fill?_refused tag closed taken] at takes
    cases takes
  · -- The other row does not touch the slot of this one.
    have elsewhere := (arranged.slot?_addRecord? added).2 record.family record.tag
      (fun family tag => same ⟨family, tag⟩)
    rw [elsewhere] at takes
    exact takes

/-! ## Many rows -/

/-- A row that is refused stays refused while others are taken in. -/
theorem Arranged.refused_addRecords (arranged : library.Arranged)
    (refused : library.addRecord? record = none) (records : List TaggingRecord) :
    (library.addRecords records).2.addRecord? record = none := by
  induction records generalizing library with
  | nil => exact refused
  | cons first others ih =>
    rw [addRecords_cons]
    split
    next after added =>
      have arranged' := arranged_edited arranged (edited_addRecord? added)
      exact ih arranged' (arranged.refused_behind refused added)
    · exact ih arranged refused

/-- Behind a list of rows every one of them is refused. -/
theorem Arranged.absorbed_addRecords (arranged : library.Arranged)
    {records : List TaggingRecord} (member : record ∈ records) :
    (library.addRecords records).2.addRecord? record = none := by
  induction records generalizing library with
  | nil => cases member
  | cons first others ih =>
    rcases List.mem_cons.mp member with rfl | later
    · -- The row itself comes first, and is refused from then on whether or not it was taken in.
      rw [addRecords_cons]
      split
      next after added =>
        have arranged' := arranged_edited arranged (edited_addRecord? added)
        exact arranged'.refused_addRecords (arranged.refused_of_taken added) others
      next refused => exact arranged.refused_addRecords refused others
    · rw [addRecords_cons]
      split
      next after added => exact ih (arranged_edited arranged (edited_addRecord? added)) later
      · exact ih arranged later

theorem addRecords_of_refused {records : List TaggingRecord}
    (refused : ∀ record ∈ records, library.addRecord? record = none) :
    library.addRecords records = (0, library) := by
  induction records with
  | nil => rfl
  | cons first others ih =>
    rw [addRecords_cons, refused first (by simp)]
    exact ih fun record member => refused record (List.mem_cons_of_mem first member)

/-! ## Tables -/

/-- Rows that are lines of another table are read there as well. -/
theorem mem_readTaggings_of_rowLines {text again : String}
    (among : ∀ line ∈ Table.rowLines again.toList, line ∈ Table.rowLines text.toList)
    (row : record ∈ Table.readTaggings again) : record ∈ Table.readTaggings text := by
  obtain ⟨line, member, read⟩ := List.mem_filterMap.mp row
  exact List.mem_filterMap.mpr ⟨line, among line member, read⟩

/-- After any session and a table taken in behind it, no table whose rows are all lines of that one
adds anything: all of its rows are skipped, and the library stays as it is. -/
theorem importTable_absorbed (registry : Registry) (operations : List Operation)
    (text again : String)
    (among : ∀ line ∈ Table.rowLines again.toList, line ∈ Table.rowLines text.toList) :
    let library := (((ofRegistry registry).run operations).importTable text).2
    library.importTable again = (⟨0, (Table.rowLines again.toList).length⟩, library) := by
  intro library
  have arranged := arranged_run registry operations
  have refused : ∀ record ∈ Table.readTaggings again, library.addRecord? record = none := by
    intro record row
    exact arranged.absorbed_addRecords (mem_readTaggings_of_rowLines among row)
  simp [importTable, addRecords_of_refused refused]

/-- A table with a row for each reason to be skipped, taken in after a session, and then another one
that repeats some of its rows in another order. -/
theorem importTable_absorbed_of_flex :
    let operations : List Operation :=
      [.add (.fixed ⟨"Roboto Flex", "/Expressive/Loud", Binary.ofNat _ false 95⟩),
        .remove "Roboto Flex" "/Expressive/Loud"]
    let text := "Roboto Flex,wght@400,/Expressive/Loud,30\nRoboto Flex,,/Expressive/Loud,31\n" ++
      "Inter,wght@400,/Expressive/Loud,7\nInter,,/Expressive/Quiet,7\nno row"
    let again := "# again\nno row\nInter,,/Expressive/Quiet,7\n\n" ++
      "Roboto Flex,wght@400,/Expressive/Loud,30\nRoboto Flex,wght@400,/Expressive/Loud,30\n"
    let library := (((ofRegistry flexRegistry).run operations).importTable text).2
    (∀ line ∈ Table.rowLines again.toList, line ∈ Table.rowLines text.toList) ∧
      (Table.rowLines again.toList).length = 4 ∧
      library.importTable again = (⟨0, (Table.rowLines again.toList).length⟩, library) := by
  intro operations text again library
  have among : ∀ line ∈ Table.rowLines again.toList, line ∈ Table.rowLines text.toList := by
    decide +kernel
  exact ⟨among, by decide +kernel, importTable_absorbed flexRegistry operations text again among⟩

end Library

end FontScores
