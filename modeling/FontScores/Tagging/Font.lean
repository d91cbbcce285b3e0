import FontScores.DesignSpace.Axis
import FontScores.Tagging.Basic

/-!
# Fonts

A font is a family of typefaces with the axes it varies along and the taggings it has, one at most
for every tag.
-/

namespace FontScores

/-- What an operation leaves, if it says that it was done. -/
def done? {α : Type} (outcome : Bool × α) : Option α := if outcome.1 then some outcome.2 else none

structure Font where
  name : String
  axes : List Axis
  taggings : List Tagging
deriving DecidableEq

namespace Font

def untagged (name : String) (axes : List Axis) : Font := ⟨name, axes, []⟩

def isVariable (font : Font) : Bool := !font.axes.isEmpty

def axis? (font : Font) (tag : AxisTag) : Option Axis := font.axes.find? (·.tag = tag)

/-- Whether every axis of the location is an axis of the font. -/
def fits (font : Font) (location : Location) : Bool :=
  location.axes.all fun axis => (font.axis? axis).isSome

def tagging? (font : Font) (tag : String) : Option Tagging :=
  font.taggings.find? (·.tag = tag)

def hasTagging (font : Font) (tag : String) : Bool := (font.tagging? tag).isSome

/-- Takes a tagging at the end, unless it is another font's or its tag is taken. -/
def take (font : Font) (tagging : Tagging) : Bool × Font :=
  if tagging.font ≠ font.name then (false, font)
  else if font.hasTagging tagging.tag then (false, font)
  else (true, { font with taggings := font.taggings ++ [tagging] })

def add? (font : Font) (tagging : Tagging) : Option Font := done? (font.take tagging)

def add (font : Font) (tagging : Tagging) : Font := (font.take tagging).2

/-- Takes off the tagging of a tag; the others keep their order. -/
def remove (font : Font) (tag : String) : Font :=
  { font with taggings := font.taggings.eraseP (·.tag = tag) }

/-- Puts a tagging in the place of the font's first tagging of the same tag. -/
def replace (font : Font) (tagging : Tagging) : Font :=
  { font with
    taggings := font.taggings.set (font.taggings.findIdx (·.tag = tagging.tag)) tagging }

/-- The font's scores for its whole self: what rules look at. -/
def staticTaggings (font : Font) : List StaticTagging := font.taggings.filterMap Tagging.static?

/-- The score for the whole font under a tag. -/
def staticScore? (font : Font) (tag : String) : Option Single :=
  (font.staticTaggings.find? (·.tag = tag)).map (·.score)

end Font

end FontScores
