import FontScores.Pattern.CharSet

/-!
# Patterns

A pattern describes texts: characters from given sets, places such as the end of a line, and
sequences, choices and repetitions of patterns.  Groups do not change what a pattern matches; they
are kept because they count as nesting.
-/

namespace FontScores

/-- A place between two characters of a text, or at one of its ends. -/
inductive Anchor where
  | textStart
  | textEnd
  | lineStart
  | lineEnd
  | wordBoundary
  | noWordBoundary
  | wordStart
  | wordEnd
  | wordStartHalf
  | wordEndHalf
deriving DecidableEq, Repr

namespace Anchor

/-- Whether the place is of this kind, by the characters before and after it. -/
def holds (anchor : Anchor) (before after : Option Char) : Bool :=
  let wordBefore := before.any CharSet.isWord
  let wordAfter := after.any CharSet.isWord
  match anchor with
  | textStart => before.isNone
  | textEnd => after.isNone
  | lineStart => before.isNone || before == some '\n'
  | lineEnd => after.isNone || after == some '\n'
  | wordBoundary => wordBefore != wordAfter
  | noWordBoundary => wordBefore == wordAfter
  | wordStart => !wordBefore && wordAfter
  | wordEnd => wordBefore && !wordAfter
  | wordStartHalf => !wordBefore
  | wordEndHalf => !wordAfter

end Anchor

inductive Pattern where
  | empty
  | one (set : CharSet)
  | anchor (place : Anchor)
  | group (inner : Pattern)
  | sequence (parts : List Pattern)
  | choice (branches : List Pattern)
  /-- At least `least` times, and at most `most` times if that is given. -/
  | repeated (inner : Pattern) (least : Nat) (most : Option Nat)
deriving Repr

namespace Pattern

mutual

/-- How deep groups, sequences, choices and repetitions stand in each other. -/
def depth : Pattern → Nat
  | empty => 0
  | one _ => 0
  | anchor _ => 0
  | group inner => inner.depth + 1
  | sequence parts => greatestDepth parts + 1
  | choice branches => greatestDepth branches + 1
  | repeated inner _ _ => inner.depth + 1

def greatestDepth : List Pattern → Nat
  | [] => 0
  | part :: others => max part.depth (greatestDepth others)

end

def depthLimit : Nat := 250

end Pattern

end FontScores
