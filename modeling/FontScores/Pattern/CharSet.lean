import FontScores.Text.Blank
import FontScores.Unicode.Folding
import FontScores.Unicode.Letters
import FontScores.Unicode.Numerals
import FontScores.Unicode.Words

/-!
# Sets of characters in patterns

A single place of a pattern says which characters may stand there.
-/

namespace FontScores

inductive CharSet where
  | range (first last : Char)
  | digit
  /-- Letters, marks, digits, connectors and joiners. -/
  | word
  | blank
  | none
  | complement (set : CharSet)
  | union (one other : CharSet)
  | intersection (one other : CharSet)
  | difference (one other : CharSet)
  | oneOnly (one other : CharSet)
  /-- The characters of the set and those that differ from one of them in case only. -/
  | caseless (set : CharSet)
deriving DecidableEq, Repr

namespace CharSet

def isWord (c : Char) : Bool := Unicode.isLetter c || Unicode.isWordMark c

def contains : CharSet → Char → Bool
  | range first last, c => first ≤ c && c ≤ last
  | digit, c => Unicode.isDigit c
  | word, c => isWord c
  | blank, c => Text.isBlank c
  | none, _ => false
  | complement set, c => !set.contains c
  | union one other, c => one.contains c || other.contains c
  | intersection one other, c => one.contains c && other.contains c
  | difference one other, c => one.contains c && !other.contains c
  | oneOnly one other, c => one.contains c != other.contains c
  | caseless set, c => (Unicode.caseVariants c.toNat).any fun code => set.contains (Char.ofNat code)

def single (c : Char) : CharSet := range c c

def any : CharSet := complement none

def inLine : CharSet := complement (single '\n')

def ofRanges (ranges : List (Char × Char)) : CharSet :=
  ranges.foldr (fun (first, last) set => union (range first last) set) none

/-- The sets of ASCII characters that have a name between colons. -/
def named? : String → Option CharSet
  | "alnum" => some (ofRanges [('0', '9'), ('A', 'Z'), ('a', 'z')])
  | "alpha" => some (ofRanges [('A', 'Z'), ('a', 'z')])
  | "ascii" => some (ofRanges [('\x00', '\x7f')])
  | "blank" => some (ofRanges [('\t', '\t'), (' ', ' ')])
  | "cntrl" => some (ofRanges [('\x00', '\x1f'), ('\x7f', '\x7f')])
  | "digit" => some (ofRanges [('0', '9')])
  | "graph" => some (ofRanges [('!', '~')])
  | "lower" => some (ofRanges [('a', 'z')])
  | "print" => some (ofRanges [(' ', '~')])
  | "punct" => some (ofRanges [('!', '/'), (':', '@'), ('[', '\x60'), ('\x7b', '~')])
  | "space" => some (ofRanges [('\t', '\r'), (' ', ' ')])
  | "upper" => some (ofRanges [('A', 'Z')])
  | "word" => some (ofRanges [('0', '9'), ('A', 'Z'), ('_', '_'), ('a', 'z')])
  | "xdigit" => some (ofRanges [('0', '9'), ('A', 'F'), ('a', 'f')])
  | _ => Option.none

end CharSet

end FontScores
