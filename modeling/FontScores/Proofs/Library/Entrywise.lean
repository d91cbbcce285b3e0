import Mathlib
import FontScores.Proofs.Library.Filling
import FontScores.Proofs.Tagging.FirstScore

/-!
# A variable tagging as a whole and row by row

A variable tagging can be built first and then added, or its scores can come in as rows of a table.
The first way drops a score for a location that has one while it builds, and asks once for the tag,
the axes and the slot; the second asks at every row, and finds the tagging that the first row
started by looking for it.  Both lead to the same library, and the rows that are refused are as many
as the scores that are dropped.
-/

namespace FontScores

/-- Pushing keeps the scores there are and takes no others than those that are pushed. -/
theorem VariableTagging.mem_of_mem_pushAll {tagging : VariableTagging}
    {entries : List (Location × Single)} {entry : Location × Single}
    (member : entry ∈ (tagging.pushAll entries).entries) :
    entry ∈ tagging.entries ∨ entry ∈ entries := by
  rw [entries_pushAll, List.mem_append] at member
  refine member.imp_right fun taken => ?_
  obtain ⟨⟨call, answer⟩, kept, rfl⟩ := List.mem_map.mp taken
  exact (List.of_mem_zip (List.mem_filter.mp kept).1).1

namespace Library

variable {library : Library}

/-- A tagging of scores that the font has the axes for is taken by an empty slot. -/
theorem Arranged.add?_ofEntries (arranged : library.Arranged) {family tag : String}
    {position : Nat} {font : Font} {entries : List (Location × Single)}
    (placed : library.placed? family = some (position, font))
    (known : library.registry.tags.contains tag = true) (free : font.tagging? tag = none)
    (fitting : ∀ entry ∈ entries, font.fits entry.1 = true) :
    library.add? (.varying (.ofEntries family tag entries)) = some (library.setFont position
      { font with taggings := font.taggings ++ [.varying (.ofEntries family tag entries)] }) := by
  obtain ⟨sameFont, sameTag⟩ : (VariableTagging.ofEntries family tag entries).font = family ∧
      (VariableTagging.ofEntries family tag entries).tag = tag :=
    VariableTagging.slot_pushAll (.empty family tag) entries
  have fits : ∀ location ∈ (Tagging.varying (.ofEntries family tag entries)).locations,
      font.fits location = true := by
    intro location member
    obtain ⟨entry, held, rfl⟩ := List.mem_map.mp member
    rcases VariableTagging.mem_of_mem_pushAll held with none | given
    · cases none
    · exact fitting entry given
  have own := (arranged.name_of_placed placed).symm
  refine add?_eq_some_iff.mpr ⟨position, font, ?_, ?_, fits, sameFont.trans own, ?_, rfl⟩
  · simpa only [Tagging.font, sameFont] using placed
  · simpa only [Tagging.tag, sameTag] using known
  · simpa only [Tagging.tag, sameTag] using free

/-- After any session: where a known tag has an empty slot, scores for locations on the family's
axes can be added as one tagging, and taken in as rows they leave the library that this addition
leaves; as many rows are taken in as the tagging has scores. -/
theorem rows_make_the_tagging (registry : Registry) (operations : List Operation)
    {family tag : String} {font : Font} {entries : List (Location × Single)}
    (found : ((ofRegistry registry).run operations).font? family = some font)
    (known : registry.tags.contains tag = true)
    (empty : ((ofRegistry registry).run operations).slot? family tag = none)
    (nonempty : entries ≠ [])
    (axes : ∀ entry ∈ entries, ∀ axis ∈ entry.1.axes, axis ∈ font.axes.map Axis.tag) :
    let library := (ofRegistry registry).run operations
    let tagging := VariableTagging.ofEntries family tag entries
    let rows := entries.map fun (location, score) =>
      (⟨family, some location, tag, score⟩ : TaggingRecord)
    ∃ after, library.add? (.varying tagging) = some after ∧
      library.addRecords rows = (tagging.entries.length, after) := by
  intro library tagging rows
  have arranged := arranged_run registry operations
  obtain ⟨position, placed⟩ := font?_eq_some_iff.mp found
  have registered : library.registry.tags.contains tag = true := by
    rwa [registry_run (ofRegistry registry) operations]
  have free : font.tagging? tag = none := (slot?_of_placed placed tag).symm.trans empty
  have fitting : ∀ entry ∈ entries, font.fits entry.1 = true := fun entry member =>
    Font.fits_iff.mpr (axes entry member)
  have own := (arranged.name_of_placed placed).symm
  exact ⟨_, arranged.add?_ofEntries placed registered free fitting,
    addRecords_ofEntries nonempty placed own registered free fitting⟩

/-- Three scores, the last of them for the location of the first. -/
theorem rows_make_the_tagging_of_flex :
    let operations : List Operation := [.importTable "Inter,,/Expressive/Loud,5"]
    let library := (ofRegistry flexRegistry).run operations
    let entries : List (Location × Single) :=
      [(Location.empty.insert wght (Binary.ofNat _ false 400), Binary.ofNat _ false 30),
        (Location.empty.insert wght (Binary.ofNat _ false 900), Binary.ofNat _ false 95),
        (Location.empty.insert wght (Binary.ofNat _ false 400), Binary.ofNat _ false 7)]
    let tagging := VariableTagging.ofEntries "Roboto Flex" "/Expressive/Loud" entries
    let rows := entries.map fun (location, score) =>
      (⟨"Roboto Flex", some location, "/Expressive/Loud", score⟩ : TaggingRecord)
    ∃ font, library.font? "Roboto Flex" = some font ∧
      flexRegistry.tags.contains "/Expressive/Loud" = true ∧
      library.slot? "Roboto Flex" "/Expressive/Loud" = none ∧ entries ≠ [] ∧
      (∀ entry ∈ entries, ∀ axis ∈ entry.1.axes, axis ∈ font.axes.map Axis.tag) ∧
      tagging.entries.length = 2 ∧
      ∃ after, library.add? (.varying tagging) = some after ∧
        library.addRecords rows = (tagging.entries.length, after) := by
  intro operations library entries tagging rows
  have found : library.font? "Roboto Flex" = some (.untagged "Roboto Flex"
      [⟨wght, Binary.ofNat _ false 100, Binary.ofNat _ false 900, none⟩]) := by decide +kernel
  have known : flexRegistry.tags.contains "/Expressive/Loud" = true := by decide +kernel
  have empty : library.slot? "Roboto Flex" "/Expressive/Loud" = none := by decide +kernel
  have axes : ∀ entry ∈ entries, ∀ axis ∈ entry.1.axes,
      axis ∈ (Font.untagged "Roboto Flex"
        [⟨wght, Binary.ofNat _ false 100, Binary.ofNat _ false 900, none⟩]).axes.map Axis.tag := by
    decide +kernel
  exact ⟨_, found, known, empty, by simp [entries], axes, by decide +kernel,
    rows_make_the_tagging flexRegistry operations found known empty (by simp [entries]) axes⟩

end Library

end FontScores
