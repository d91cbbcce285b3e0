import FontScores.Text.Blank
import FontScores.Text.Lines

/-!
# Tables

A table is a text with one row to a line; blank lines, and lines that start with a number sign, are
no rows.  A row has its fields between commas, without quoting: it is cut at the first commas, as
many as the table needs, and the last field keeps the others.  Blanks around a field are not part
of it.
-/

namespace FontScores.Table

/-- Whether a line holds no row: it is blank or a comment. -/
def isSkipped (line : List Char) : Bool :=
  match Text.trim line with
  | [] => true
  | c :: _ => c = '#'

/-- The lines of a table that hold a row. -/
def rowLines (text : List Char) : List (List Char) :=
  (Text.lines text).filter (!isSkipped ·)

/-- The fields of a row that were there, under the names of their columns. -/
structure Row where
  fields : List (String × Option String)
deriving DecidableEq, Repr

namespace Row

/-- Pairs columns with fields; the columns beyond the last field have none. -/
def assign : List String → List (List Char) → List (String × Option String)
  | [], _ => []
  | column :: columns, [] => (column, none) :: assign columns []
  | column :: columns, field :: fields =>
    (column, some (String.ofList (Text.trim field))) :: assign columns fields

def ofLine (columns : List String) (line : List Char) : Row :=
  ⟨assign columns (Text.cutSome ',' (columns.length - 1) line)⟩

def get? (row : Row) (column : String) : Option String :=
  (row.fields.find? (·.1 = column)).bind Prod.snd

def nonEmpty? (row : Row) (column : String) : Option String :=
  (row.get? column).filter (· ≠ "")

end Row

/-- The rows of a table with these columns. -/
def rows (columns : List String) (text : String) : List Row :=
  (rowLines text.toList).map (Row.ofLine columns)

/-- Takes off one pair of double quotes around a field, if it has them and is one line. -/
def unquote (field : List Char) : List Char :=
  match field with
  | '"' :: rest =>
    match rest.reverse with
    | '"' :: inner => if '\n' ∈ inner then field else inner.reverse
    | _ => field
  | _ => field

end FontScores.Table
