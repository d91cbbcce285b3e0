import FontScores.Library.Basic
import FontScores.Table.Taggings

/-!
# The library as a table

A library is written as a tagging table and taken in again row by row.  A row with a location is
added to the variable tagging that its family has for its tag, or starts one.
-/

namespace FontScores

/-- How many rows of a table were taken in and how many were not. -/
structure ImportSummary where
  added : Nat
  skipped : Nat
deriving DecidableEq, Repr

namespace Library

/-- The tagging with the scores of one location. -/
def oneLocation (family tag : String) (location : Location) (score : Single) : Tagging :=
  .varying ((VariableTagging.empty family tag).push location score)

/-- Adds a score at a location, and says whether it was added.  A variable tagging of the family is
lengthened where it stands. -/
def addAt (library : Library) (family tag : String) (location : Location) (score : Single) :
    Bool × Library :=
  match library.placed? family with
  | none => library.add (oneLocation family tag location score)
  | some (position, font) =>
    if ¬font.fits location then (false, library)
    else
      match font.tagging? tag with
      | some (.varying tagging) =>
        ((tagging.push? location score).isSome,
          library.setFont position (font.replace (.varying (tagging.push location score))))
      | _ => library.add (oneLocation family tag location score)

def addAt? (library : Library) (family tag : String) (location : Location) (score : Single) :
    Option Library :=
  done? (library.addAt family tag location score)

/-- Takes in one row, and says whether it was taken. -/
def addRecord (library : Library) (record : TaggingRecord) : Bool × Library :=
  match record.location with
  | none => library.add (.fixed ⟨record.family, record.tag, record.score⟩)
  | some location => library.addAt record.family record.tag location record.score

def addRecord? (library : Library) (record : TaggingRecord) : Option Library :=
  done? (library.addRecord record)

/-- Takes in rows in turn and counts how many were taken. -/
def addRecords (library : Library) : List TaggingRecord → Nat × Library
  | [] => (0, library)
  | record :: others =>
    let (taken, library) := library.addRecord record
    let (added, library) := addRecords library others
    (if taken then added + 1 else added, library)

/-- Takes in a whole table.  Rows that cannot be read count as skipped. -/
def importTable (library : Library) (text : String) : ImportSummary × Library :=
  let rowCount := (Table.rowLines text.toList).length
  let (added, library) := library.addRecords (Table.readTaggings text)
  (⟨added, rowCount - added⟩, library)

def exportTable (library : Library) : String := Table.writeTaggings library.fonts

end Library

end FontScores
