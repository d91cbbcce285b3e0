import FontScores.Pattern.Token

/-!
# Reading patterns

The tokens of a pattern are read from left to right.  For every open group the reader keeps the
branches that are complete and the parts of the branch it is in; for every open bracket, the set so
far and the operator that waits for its right-hand side.

Flags hold from where they are set to the end of the group, later branches included.  A pattern is
refused if a group or bracket does not close, a repetition has nothing to repeat, two groups have
one name, or it nests too deep.

This is the engine that the program runs with.  It knows neither sets by Unicode property nor
patterns with comments, and it sets no limit to the size of a pattern; another engine may take more
or less.
-/

namespace FontScores.Pattern

structure Flags where
  caseless : Bool
  multiline : Bool
  dotAll : Bool
deriving DecidableEq, Repr

namespace Flags

def none : Flags := ⟨false, false, false⟩

def change (flags : Flags) : Flag × Bool → Flags
  | (.caseless, on) => { flags with caseless := on }
  | (.multiline, on) => { flags with multiline := on }
  | (.dotAll, on) => { flags with dotAll := on }
  | (.lazy, _) => flags
  | (.byCodePoint, _) => flags

/-- A set as it counts under these flags. -/
def applyTo (flags : Flags) (chars : CharSet) : CharSet :=
  if flags.caseless then .caseless chars else chars

end Flags

inductive Part where
  | pattern (pattern : Pattern)
  /-- Flags set for what follows: nothing that a repetition could repeat. -/
  | flags

namespace Part

def toPattern : Part → Pattern
  | pattern inner => inner
  | flags => .empty

end Part

/-- An open group: its flags at this point, its complete branches and the parts of the one being
read, last first. -/
structure OpenGroup where
  flags : Flags
  branches : List Pattern
  parts : List Part

namespace OpenGroup

def start (flags : Flags) : OpenGroup := ⟨flags, [], []⟩

def add (group : OpenGroup) (pattern : Pattern) : OpenGroup :=
  { group with parts := .pattern pattern :: group.parts }

/-- The branch being read, as far as it goes. -/
def branch (group : OpenGroup) : Pattern :=
  match group.parts with
  | [] => .empty
  | [part] => part.toPattern
  | parts => .sequence (parts.reverse.map Part.toPattern)

/-- What the group matches if it ends here. -/
def pattern (group : OpenGroup) : Pattern :=
  match group.branches with
  | [] => group.branch
  | branches => .choice (branches.reverse ++ [group.branch])

def nextBranch (group : OpenGroup) : OpenGroup :=
  { group with branches := group.branch :: group.branches, parts := [] }

def repeatLast (group : OpenGroup) (least : Nat) (most : Option Nat) : Option OpenGroup :=
  match group.parts with
  | .pattern inner :: others =>
    some { group with parts := .pattern (.repeated inner least most) :: others }
  | _ => none

end OpenGroup

/-- An open bracket: whether its set is complemented, the left-hand side and operator that wait,
and the members since. -/
structure OpenSet where
  negated : Bool
  waiting : Option (CharSet × SetOperator)
  members : CharSet

namespace OpenSet

def start (negated : Bool) : OpenSet := ⟨negated, none, .none⟩

def add (set : OpenSet) (chars : CharSet) : OpenSet :=
  { set with members := .union set.members chars }

/-- The set so far, the waiting operator applied. -/
def value (flags : Flags) (set : OpenSet) : CharSet :=
  match set.waiting with
  | none => set.members
  | some (left, .intersection) => .intersection (flags.applyTo left) (flags.applyTo set.members)
  | some (left, .difference) => .difference (flags.applyTo left) (flags.applyTo set.members)
  | some (left, .oneOnly) => .oneOnly (flags.applyTo left) (flags.applyTo set.members)

def operate (flags : Flags) (set : OpenSet) (operator : SetOperator) : OpenSet :=
  { set with waiting := some (set.value flags, operator), members := .none }

def close (flags : Flags) (set : OpenSet) : CharSet :=
  let chars := flags.applyTo (set.value flags)
  if set.negated then .complement chars else chars

end OpenSet

/-- The state of the reader: the innermost group, the groups around it, the open brackets from the
inside out, and the names of groups so far. -/
structure Reader where
  group : OpenGroup
  outer : List OpenGroup
  sets : List OpenSet
  names : List String

namespace Reader

def start : Reader := ⟨OpenGroup.start Flags.none, [], [], []⟩

def add (reader : Reader) (pattern : Pattern) : Reader :=
  { reader with group := reader.group.add pattern }

def step (reader : Reader) (token : Token) : Option Reader :=
  let flags := reader.group.flags
  match token, reader.sets with
  | .set chars, _ =>
    some (reader.add (.one (flags.applyTo chars)))
  | .dot, _ => some (reader.add (.one (if flags.dotAll then .any else .inLine)))
  | .anchor place, _ => some (reader.add (.anchor place))
  | .start, _ =>
    some (reader.add (.anchor (if flags.multiline then .lineStart else .textStart)))
  | .stop, _ => some (reader.add (.anchor (if flags.multiline then .lineEnd else .textEnd)))
  | .repetition least most, _ =>
    (reader.group.repeatLast least most).map fun group => { reader with group }
  | .openGroup name changes, _ =>
    if name.any (· ∈ reader.names) then none
    else some {
      reader with
      group := OpenGroup.start (changes.foldl Flags.change flags)
      outer := reader.group :: reader.outer
      names := name.toList ++ reader.names }
  | .setFlags changes, _ =>
    some {
      reader with
      group := {
        reader.group with
        flags := changes.foldl Flags.change flags
        parts := .flags :: reader.group.parts } }
  | .closeGroup, _ =>
    match reader.outer with
    | [] => none
    | group :: outer =>
      some { reader with group := group.add (.group reader.group.pattern), outer }
  | .bar, _ => some { reader with group := reader.group.nextBranch }
  | .openSet negated, sets => some { reader with sets := OpenSet.start negated :: sets }
  | .member chars, set :: sets => some { reader with sets := set.add chars :: sets }
  | .operator operator, set :: sets =>
    some { reader with sets := set.operate flags operator :: sets }
  | .closeSet, [set] => some { reader.add (.one (set.close flags)) with sets := [] }
  | .closeSet, inner :: set :: sets =>
    some { reader with sets := set.add (inner.close flags) :: sets }
  | .member _, [] => none
  | .operator _, [] => none
  | .closeSet, [] => none

/-- The pattern read, if no group and no bracket is open. -/
def result? (reader : Reader) : Option Pattern :=
  match reader.outer, reader.sets with
  | [], [] => some reader.group.pattern
  | _, _ => none

end Reader

/-- Reads a written pattern; nothing if it is refused. -/
def read? (text : String) : Option Pattern := do
  let tokens ← tokens 0 text.toList
  let reader ← tokens.foldlM Reader.step Reader.start
  let pattern ← reader.result?
  if pattern.depth ≤ depthLimit then return pattern else none

end FontScores.Pattern
