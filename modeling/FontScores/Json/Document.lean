import FontScores.Number.Arithmetic

/-!
# JSON documents as they are read

A document is read into a tree before anything is asked of it.  The tree may be damaged: where the
text stops being JSON it has a node `broken`, and nothing of the text after that point is in the
tree.  So whoever walks through the tree in the order of the text meets the damage exactly where
the text has it, and can find other faults before it.

Two things are JSON but no values: a text with half a surrogate pair, and a number too large for
any format.  They are damage only to someone who wants their value.
-/

namespace FontScores.Json

/-- The value of a numeral.  One without point and exponent is a whole number as long as it fits
64 bits. -/
inductive Number where
  | natural (value : Nat)
  | negative (size : Nat)
  | real (value : Double)
deriving DecidableEq, Repr

inductive Node where
  | broken
  | null
  | bool (value : Bool)
  /-- A numeral, without its value if that is too large. -/
  | number (value : Option Number)
  /-- A text, unless it has half a surrogate pair. -/
  | text (value : Option String)
  | array (items : List Node)
  | object (members : List (Option String × Node))
deriving Repr

namespace Node

mutual

def isWhole : Node → Bool
  | broken => false
  | null => true
  | bool _ => true
  | number _ => true
  | text _ => true
  | array items => areWhole items
  | object members => areWholeMembers members

def areWhole : List Node → Bool
  | [] => true
  | item :: others => item.isWhole && areWhole others

def areWholeMembers : List (Option String × Node) → Bool
  | [] => true
  | (_, value) :: others => value.isWhole && areWholeMembers others

end

end Node

/-- A text read as JSON, and whether something other than blanks follows the value. -/
structure Document where
  root : Node
  trailing : Bool
deriving Repr

end FontScores.Json
