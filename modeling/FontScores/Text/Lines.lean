/-!
# Lines and fields

A text is cut into lines at line feeds; a carriage return just before a line feed goes with it, and
any other carriage return is part of its line.  What follows the last line feed is a line unless it
is empty.

Within a line, fields are cut at a separator: at its first or last occurrence, at all of them, or
at the first few, the last piece keeping the rest.
-/

namespace FontScores.Text

def lines : List Char → List (List Char)
  | [] => []
  | '\n' :: rest => [] :: lines rest
  | '\r' :: '\n' :: rest => [] :: lines rest
  | c :: rest =>
    match lines rest with
    | [] => [[c]]
    | line :: others => (c :: line) :: others

/-- The pieces before and after the first separator. -/
def cutFirst (separator : Char) : List Char → Option (List Char × List Char)
  | [] => none
  | c :: rest =>
    if c = separator then some ([], rest)
    else (cutFirst separator rest).map fun (before, after) => (c :: before, after)

/-- The pieces before and after the last separator. -/
def cutLast (separator : Char) : List Char → Option (List Char × List Char)
  | [] => none
  | c :: rest =>
    match cutLast separator rest with
    | some (before, after) => some (c :: before, after)
    | none => if c = separator then some ([], rest) else none

/-- The pieces between separators, one more than there are separators. -/
def cutAll (separator : Char) : List Char → List (List Char)
  | [] => [[]]
  | c :: rest =>
    if c = separator then [] :: cutAll separator rest
    else
      match cutAll separator rest with
      | [] => [[c]]
      | piece :: others => (c :: piece) :: others

/-- The pieces at the first separators, `extra + 1` pieces at most. -/
def cutSome (separator : Char) : Nat → List Char → List (List Char)
  | 0, text => [text]
  | extra + 1, text =>
    match cutFirst separator text with
    | none => [text]
    | some (before, after) => before :: cutSome separator extra after

/-- The texts one after the other with `separator` between them. -/
def joined (separator : Char) : List (List Char) → List Char
  | [] => []
  | [text] => text
  | text :: others => text ++ separator :: joined separator others

end FontScores.Text
