import FontScores.Tagging.Basic

/-!
# Exemplars

The exemplars of a tag are static taggings that show what its scores mean: the strongest above 80,
the weakest up to 20, and the first few strictly between 33 and 66, three of each at most.  Among
equal scores the earlier tagging comes first.  A score in none of these ranges shows nothing.

They are picked in one pass over the taggings.  What is strong or weak is collected whole, and
ranked and cut behind the pass; what lies between is collected only as long as there is room for it.
-/

namespace FontScores

structure Exemplars where
  high : List StaticTagging
  low : List StaticTagging
  medium : List StaticTagging
deriving DecidableEq

namespace Exemplars

def isEmpty (exemplars : Exemplars) : Bool :=
  exemplars.high.isEmpty && exemplars.low.isEmpty && exemplars.medium.isEmpty

def perBucket : Nat := 3

def highAbove : Single := Binary.ofNat _ false 80

def lowUpTo : Single := Binary.ofNat _ false 20

/-- Scores between these two are medium. -/
def mediumAbove : Single := Binary.ofNat _ false 33

def mediumBelow : Single := Binary.ofNat _ false 66

def isHigh (score : Single) : Bool := highAbove.less score

def isLow (score : Single) : Bool := score.lessEq lowUpTo

def isMedium (score : Single) : Bool := mediumAbove.less score && score.less mediumBelow

/-- Puts a static tagging of the tag into the bucket of its score. -/
def collect (tag : String) (exemplars : Exemplars) (tagging : Tagging) : Exemplars :=
  match tagging with
  | .varying _ => exemplars
  | .fixed tagging =>
    if tagging.tag ≠ tag then exemplars
    else if isHigh tagging.score then { exemplars with high := exemplars.high ++ [tagging] }
    else if isLow tagging.score then { exemplars with low := exemplars.low ++ [tagging] }
    else if isMedium tagging.score ∧ exemplars.medium.length < perBucket then
      { exemplars with medium := exemplars.medium ++ [tagging] }
    else exemplars

def strongest (taggings : List StaticTagging) : List StaticTagging :=
  (taggings.mergeSort fun one other => other.score.rankLE one.score).take perBucket

def weakest (taggings : List StaticTagging) : List StaticTagging :=
  (taggings.mergeSort fun one other => one.score.rankLE other.score).take perBucket

/-- Picks the exemplars of a tag from a list of taggings. -/
def select (tag : String) (taggings : List Tagging) : Exemplars :=
  let collected := taggings.foldl (collect tag) ⟨[], [], []⟩
  { collected with high := strongest collected.high, low := weakest collected.low }

end Exemplars

end FontScores
