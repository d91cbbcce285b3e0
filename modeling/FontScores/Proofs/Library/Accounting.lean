import Mathlib
import FontScores.Proofs.Library.Exemplars
import FontScores.Proofs.Library.Listing
import FontScores.Proofs.Table.Taggings

/-!
# The counts of an import

A summary is kept while a table is taken in: it begins with the lines that could not be read, which
is the difference of two counts, and then each row adds one to one of its numbers.  The two counts
go through the lines by tests that are written differently, one on the line trimmed at both ends and
one on the line trimmed at its front, so the difference is below zero unless both keep the same
lines.  They do: either test is about the first character of the line that is not blank.

The number of rows that were taken in is also the number of scores that the library has more than
before, because each way to take in a row stores one score and nothing else changes how many there
are.
-/

namespace FontScores

/-! ## Lines -/

namespace Table

/-- The lines of a table that an import counts: those that are not blank and have no number sign
behind the blanks at their front. -/
def countedLines (text : List Char) : List (List Char) :=
  (Text.lines text).filter fun line =>
    Text.trim line ≠ [] ∧ (Text.trimStart line).head? ≠ some '#'

/-- The lines that are counted are the lines that are read. -/
theorem countedLines_eq_rowLines (text : List Char) : countedLines text = rowLines text := by
  refine List.filter_congr fun line _ => ?_
  -- Both tests look for the first character that is not blank.
  have first : (Text.trimStart line).head? = line.find? (!Text.isBlank ·) := by
    rw [List.find?_eq_head?_dropWhile_not]
    simp [Text.trimStart]
  have trimmed := Text.head?_trim line
  cases found : line.find? (!Text.isBlank ·) with
  | none =>
    rw [found, List.head?_eq_none_iff] at trimmed
    simp [isSkipped, trimmed]
  | some c =>
    obtain ⟨rest, shape⟩ := List.head?_eq_some_iff.mp (trimmed.trans found)
    simp [isSkipped, first, found, shape]

theorem length_readTaggings_le (text : String) :
    (readTaggings text).length ≤ (countedLines text.toList).length := by
  rw [countedLines_eq_rowLines]
  exact List.length_filterMap_le _ _

end Table

/-! ## Scores -/

/-- How many scores a tagging holds: one for the whole font, or one for each location. -/
def Tagging.scoreCount : Tagging → Nat
  | fixed _ => 1
  | varying tagging => tagging.entries.length

theorem Tagging.length_lines (tagging : Tagging) : tagging.lines.length = tagging.scoreCount := by
  cases tagging <;> simp [lines, records, scoreCount]

def Font.scoreCount (font : Font) : Nat := (font.taggings.map Tagging.scoreCount).sum

namespace Library

variable {library after : Library}

/-- How many scores a library holds. -/
def scoreCount (library : Library) : Nat := (library.taggings.map Tagging.scoreCount).sum

/-- A library is written with one line for each score. -/
theorem length_lines (library : Library) :
    (library.taggings.flatMap Tagging.lines).length = library.scoreCount := by
  rw [List.length_flatMap, scoreCount]
  congr 1
  exact List.map_congr_left fun tagging _ => tagging.length_lines

/-- A change to one font changes the number of scores by what it changes there. -/
theorem scoreCount_withChange {family : String} {position : Nat} {font : Font}
    (placed : library.placed? family = some (position, font)) (new : Font) (concerned : Tagging) :
    (library.withChange position new concerned).scoreCount + font.scoreCount =
      library.scoreCount + new.scoreCount := by
  obtain ⟨before, behind, whole, changed⟩ := taggings_at (placed?_eq_some_iff.mp placed).2
  have moved : (library.withChange position new concerned).taggings =
      before ++ new.taggings ++ behind := changed new
  simp only [scoreCount, Font.scoreCount, whole, moved, List.map_append, List.sum_append]
  omega

theorem scoreCount_add? {tagging : Tagging} (added : library.add? tagging = some after) :
    after.scoreCount = library.scoreCount + tagging.scoreCount := by
  obtain ⟨position, font, placed, _, _, _, _, rfl⟩ := add?_eq_some_iff.mp added
  have moved := scoreCount_withChange placed
    { font with taggings := font.taggings ++ [tagging] } tagging
  simp only [Font.scoreCount, List.map_append, List.map_singleton, List.sum_append,
    List.sum_singleton] at moved
  omega

/-- Each way to take in a row stores one score. -/
theorem scoreCount_addRecord? {record : TaggingRecord}
    (added : library.addRecord? record = some after) :
    after.scoreCount = library.scoreCount + 1 := by
  obtain ⟨family, location?, tag, score⟩ := record
  cases location? with
  | none => exact scoreCount_add? added
  | some location =>
    have scored : library.addAt? family tag location score = some after := added
    obtain ⟨position, font, placed, _, merged | ⟨_, started⟩⟩ := addAt?_eq_some_iff.mp scored
    · -- The tagging in the slot gets one more entry in its place.
      obtain ⟨tagging, held, _, rfl⟩ := merged
      obtain rfl : tagging.tag = tag := Font.tagging?_tag held
      obtain ⟨before, behind, split, _, replaced⟩ := Font.split_of_held held
      have moved := scoreCount_withChange placed
        (font.replace (.varying { tagging with entries := tagging.entries ++ [(location, score)] }))
        (.varying tagging)
      have longer := replaced
        (.varying { tagging with entries := tagging.entries ++ [(location, score)] }) rfl
      simp only [Font.scoreCount, split, longer, List.map_append, List.map_cons, List.sum_append,
        List.sum_cons, Tagging.scoreCount, List.length_append, List.length_singleton] at moved
      omega
    · exact scoreCount_add? started

theorem scoreCount_addRecords (library : Library) (records : List TaggingRecord) :
    (library.addRecords records).2.scoreCount =
      library.scoreCount + (library.addRecords records).1 := by
  induction records generalizing library with
  | nil => rfl
  | cons record others ih =>
    rw [addRecords_cons]
    split
    next after added =>
      dsimp only
      rw [ih after, scoreCount_addRecord? added]
      omega
    · exact ih library

/-! ## Summaries -/

/-- Takes in one row and counts it as added or as skipped. -/
def countRecord (tally : ImportSummary × Library) (record : TaggingRecord) :
    ImportSummary × Library :=
  let (taken, after) := tally.2.addRecord record
  if taken then (⟨tally.1.added + 1, tally.1.skipped⟩, after)
  else (⟨tally.1.added, tally.1.skipped + 1⟩, after)

/-- Takes in a table and keeps its summary row by row.  At the start the lines that could not be
read are skipped; nothing comes out if that number were below zero. -/
def tallyTable? (library : Library) (text : String) : Option (ImportSummary × Library) :=
  let lineCount := (Table.countedLines text.toList).length
  let records := Table.readTaggings text
  if records.length ≤ lineCount then
    some (records.foldl countRecord (⟨0, lineCount - records.length⟩, library))
  else none

theorem foldl_countRecord (summary : ImportSummary) (library : Library)
    (records : List TaggingRecord) :
    records.foldl countRecord (summary, library) =
      (⟨summary.added + (library.addRecords records).1,
        summary.skipped + (records.length - (library.addRecords records).1)⟩,
        (library.addRecords records).2) := by
  -- The summary moves on with the library.
  induction records generalizing summary library with
  | nil => rfl
  | cons record others ih =>
    rw [List.foldl_cons, countRecord, addRecords_cons, addRecord_eq]
    cases library.addRecord? record with
    | none =>
      have fewer := addRecords_le_length library others
      have step := ih ⟨summary.added, summary.skipped + 1⟩ library
      simp only [Option.map_none, Option.getD_none, Bool.false_eq_true, if_false, step,
        List.length_cons, Prod.mk.injEq, ImportSummary.mk.injEq, and_true, true_and]
      omega
    | some after =>
      have step := ih ⟨summary.added + 1, summary.skipped⟩ after
      simp only [Option.map_some, Option.getD_some, if_true, step, List.length_cons,
        Prod.mk.injEq, ImportSummary.mk.injEq, and_true]
      omega

/-- The difference is never below zero, and the summary kept row by row is the summary. -/
theorem tallyTable?_eq (library : Library) (text : String) :
    library.tallyTable? text = some (library.importTable text) := by
  have read := Table.length_readTaggings_le text
  have taken := addRecords_le_length library (Table.readTaggings text)
  simp only [tallyTable?, if_pos read, foldl_countRecord, importTable, Option.some.injEq,
    Prod.mk.injEq, ImportSummary.mk.injEq, and_true, ← Table.countedLines_eq_rowLines]
  omega

/-- Whatever table is taken in by whatever library: the number of lines less the number of rows is
not below zero, and the summary is the one kept row by row from there; the rows added and the lines
skipped are all lines that are neither blank nor comments; and the scores stored, which are as many
as the lines that the taggings are written in, are more by the rows added. -/
theorem importTable_accounts (library : Library) (text : String) :
    let summary := (library.importTable text).1
    let after := (library.importTable text).2
    library.tallyTable? text = some (summary, after) ∧
      summary.added + summary.skipped = (Table.rowLines text.toList).length ∧
      after.scoreCount = library.scoreCount + summary.added ∧
      library.scoreCount = (library.taggings.flatMap Tagging.lines).length ∧
      after.scoreCount = (after.taggings.flatMap Tagging.lines).length := by
  intro summary after
  have read := Table.length_readTaggings_le text
  have taken := addRecords_le_length library (Table.readTaggings text)
  rw [Table.countedLines_eq_rowLines] at read
  refine ⟨tallyTable?_eq library text, ?_, scoreCount_addRecords _ _, (length_lines library).symm,
    (length_lines after).symm⟩
  simp only [summary, importTable]
  omega

end Library

end FontScores
