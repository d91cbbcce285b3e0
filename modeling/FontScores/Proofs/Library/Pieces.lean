import Mathlib
import FontScores.Proofs.Library.Accounting

/-!
# Taking in a table in pieces

A table may be cut at any of its line feeds and taken in piece by piece, with the same library and
the same counts in the end.  The piece in front of the cut then ends without its line feed, so a
carriage return that went with it is left in the last line, and the last line is missing if it is
empty.  Neither is seen: blanks at the end of a row are trimmed away in each of its fields, and an
empty line is passed over.
-/

namespace FontScores

namespace TaggingRecord

open Text (isBlank)

/-- A blank at the end of a line stays behind what follows the location. -/
theorem splitLocation_concat {c : Char} (blank : isBlank c = true) (rest : List Char) :
    splitLocation (rest ++ [c]) =
      (splitLocation rest).map fun (spec, after) => (spec, after ++ [c]) := by
  have comma : c ≠ ',' := by
    rintro rfl
    cases blank
  have quote : c ≠ '"' := by
    rintro rfl
    cases blank
  rw [splitLocation, splitLocation, Text.trimStart_concat blank]
  cases start : Text.trimStart rest with
  | nil =>
    simp only [↓reduceIte, Text.cutFirst_concat comma]
    cases Text.cutFirst ',' rest <;> rfl
  | cons first others =>
    simp only [reduceCtorEq, ↓reduceIte, List.cons_append, Text.cutFirst_concat comma]
    by_cases quoted : first = '"'
    · subst quoted
      simp only [Text.cutFirst_concat quote]
      cases Text.cutFirst '"' others with
      | none => rfl
      | some pieces =>
        obtain ⟨spec, tail⟩ := pieces
        simp only [Option.map_some, Text.trimStart_concat blank]
        cases Text.trimStart tail with
        | nil => rfl
        | cons next after =>
          by_cases separated : next = ',' <;> simp [separated, Except.map]
    · simp only [List.cons.injEq, quoted, false_and, imp_self, implies_true]
      cases Text.cutFirst ',' rest <;> rfl

theorem readScore_concat {c : Char} (blank : isBlank c = true) (text : List Char) :
    readScore (text ++ [c]) = readScore text := by
  simp only [readScore, Text.trim_concat blank]

/-- Whether a line is a row, and which, or why not, does not depend on a blank at its end. -/
theorem ofLine_concat {c : Char} (blank : isBlank c = true) (line : List Char) :
    ofLine (line ++ [c]) = ofLine line := by
  have comma : c ≠ ',' := by
    rintro rfl
    cases blank
  rw [ofLine, ofLine, Text.cutFirst_concat comma]
  cases Text.cutFirst ',' line with
  | none => rfl
  | some pieces =>
    obtain ⟨family, rest⟩ := pieces
    simp only [Option.map_some, splitLocation_concat blank]
    cases splitLocation rest with
    | error cause => rfl
    | ok pieces =>
      obtain ⟨spec, rest⟩ := pieces
      simp only [Except.map, bind, Except.bind, Text.cutLast_concat comma]
      cases Text.cutLast ',' rest with
      | none => rfl
      | some pieces => simp only [Option.map_some, readScore_concat blank]

end TaggingRecord

namespace Table

/-- What each line of a tagging table that is neither blank nor a comment was read as. -/
def readings (text : List Char) : List (Except TaggingLineError TaggingRecord) :=
  (rowLines text).map TaggingRecord.ofLine

theorem length_readings (text : List Char) : (readings text).length = (rowLines text).length :=
  List.length_map _

theorem readTaggings_eq (text : String) :
    readTaggings text = (readings text.toList).filterMap Except.toOption := by
  rw [readings, List.filterMap_map]
  rfl

/-- A line feed at the end changes no row. -/
theorem readings_concat_newline (text : List Char) : readings (text ++ ['\n']) = readings text := by
  obtain ⟨before, last, ended, shape⟩ := Text.lines_concat_newline text
  have empty : isSkipped [] = true := rfl
  have returned := isSkipped_concat (c := '\r') rfl last
  have same := TaggingRecord.ofLine_concat (c := '\r') rfl last
  rcases shape with ⟨missing, rfl⟩ | kept | longer
  · simp [readings, rowLines, ended, missing, empty]
  · rw [readings, rowLines, ended, ← kept, readings, rowLines]
  · rw [readings, rowLines, ended, readings, rowLines, longer]
    cases skipped : isSkipped last <;> simp [skipped, returned, same]

/-- A table that is cut at a line feed has the rows of the two pieces. -/
theorem readings_append (front back : List Char) :
    readings (front ++ '\n' :: back) = readings front ++ readings back := by
  rw [← readings_concat_newline front]
  simp [readings, rowLines, Text.lines_append_newline front back]

end Table

namespace Library

/-- Whatever table is cut at a line feed: taking in the piece in front of it and then the one behind
it leaves the library that taking in the whole leaves, and the counts of the pieces add up to its
counts. -/
theorem importTable_pieces (library : Library) (front back : String) :
    let first := library.importTable front
    let second := first.2.importTable back
    library.importTable (front ++ "\n" ++ back) =
      (⟨first.1.added + second.1.added, first.1.skipped + second.1.skipped⟩, second.2) := by
  have cut : (front ++ "\n" ++ back).toList = front.toList ++ '\n' :: back.toList := by simp
  have rows := Table.readings_append front.toList back.toList
  have records : Table.readTaggings (front ++ "\n" ++ back) =
      Table.readTaggings front ++ Table.readTaggings back := by
    rw [Table.readTaggings_eq, cut, rows, List.filterMap_append, ← Table.readTaggings_eq,
      ← Table.readTaggings_eq]
  have lineCount : (Table.rowLines (front ++ "\n" ++ back).toList).length =
      (Table.rowLines front.toList).length + (Table.rowLines back.toList).length := by
    rw [cut, ← Table.length_readings, rows, List.length_append, Table.length_readings,
      Table.length_readings]
  -- Either piece has as many lines as it adds rows, so that the differences add up.
  have front_le := (addRecords_le_length library (Table.readTaggings front)).trans
    (Table.length_readTaggings_le front)
  have back_le := (addRecords_le_length (library.addRecords (Table.readTaggings front)).2
    (Table.readTaggings back)).trans (Table.length_readTaggings_le back)
  rw [Table.countedLines_eq_rowLines] at front_le back_le
  simp only [importTable, records, addRecords_append, lineCount, Prod.mk.injEq,
    ImportSummary.mk.injEq, and_true, true_and]
  omega

end Library

end FontScores
