import FontScores.DesignSpace.Location
import FontScores.Number.Arithmetic

/-!
# Taggings

A tagging says how strongly a font has the character that a tag names.  It is either one score for
the whole font, or a score at each of several locations of the font's design space.  The locations
of one tagging are all different; the first score given for a location stays.
-/

namespace FontScores

structure StaticTagging where
  font : String
  tag : String
  score : Single
deriving DecidableEq

structure VariableTagging where
  font : String
  tag : String
  entries : List (Location × Single)
deriving DecidableEq

namespace VariableTagging

def empty (font tag : String) : VariableTagging := ⟨font, tag, []⟩

def scoreAt? (tagging : VariableTagging) (location : Location) : Option Single :=
  (tagging.entries.find? (·.1 == location)).map Prod.snd

/-- Adds the score of another location; nothing if the location has a score already. -/
def push? (tagging : VariableTagging) (location : Location) (score : Single) :
    Option VariableTagging :=
  if (tagging.scoreAt? location).isSome then none
  else some { tagging with entries := tagging.entries ++ [(location, score)] }

/-- Adds the score of a location unless it has one. -/
def push (tagging : VariableTagging) (location : Location) (score : Single) : VariableTagging :=
  (tagging.push? location score).getD tagging

/-- The tagging with these scores, each unless an earlier one is for the same location. -/
def ofEntries (font tag : String) (entries : List (Location × Single)) : VariableTagging :=
  entries.foldl (fun tagging (location, score) => tagging.push location score) (empty font tag)

def mean? [UndefinedSign] (tagging : VariableTagging) : Option Single :=
  if tagging.entries = [] then none
  else
    some ((Binary.sum (tagging.entries.map Prod.snd)).div
      (Binary.ofNat _ false tagging.entries.length))

end VariableTagging

inductive Tagging where
  | fixed (tagging : StaticTagging)
  | varying (tagging : VariableTagging)
deriving DecidableEq

namespace Tagging

def font : Tagging → String
  | fixed tagging => tagging.font
  | varying tagging => tagging.font

def tag : Tagging → String
  | fixed tagging => tagging.tag
  | varying tagging => tagging.tag

def static? : Tagging → Option StaticTagging
  | fixed tagging => some tagging
  | varying _ => none

def isStatic (tagging : Tagging) : Bool := tagging.static?.isSome

def locations : Tagging → List Location
  | fixed _ => []
  | varying tagging => tagging.entries.map Prod.fst

end Tagging

end FontScores
