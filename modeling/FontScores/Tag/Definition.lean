import FontScores.Number.Numeral
import FontScores.Text.Lines

/-!
# Tags

A tag is named by a path such as `/Expressive/Loud`.  The first segment is its area, the others
narrow it down.  A definition describes the tag and says in which range its scores should lie.

The friendly name is what the path says to a reader: in the areas that classify typefaces the area
comes last (`/Sans/Geometric` is "Geometric Sans"), in all others it is left out, and a path of one
segment is that segment.
-/

namespace FontScores

structure TagDefinition where
  name : String
  description : String
  shortDescription : String
  related : List String
  lowest : Single
  highest : Single
deriving DecidableEq

namespace TagDefinition

/-- The score at the bottom of the usual range. -/
def lowestByDefault : Single := Binary.zero _ false

/-- The score at the top of the usual range. -/
def highestByDefault : Single := Binary.ofNat _ false 100

/-- A tag of which nothing but the name is known. -/
def named (name : String) : TagDefinition :=
  ⟨name, "", "", [], lowestByDefault, highestByDefault⟩

/-- Whether a score lies in the tag's range, the ends included. -/
def inRange (tag : TagDefinition) (score : Single) : Bool :=
  tag.lowest.lessEq score && score.lessEq tag.highest

/-- The parts of the path between slashes, empty ones left out. -/
def segments (tag : TagDefinition) : List String :=
  ((Text.cutAll '/' tag.name.toList).filter (· ≠ [])).map String.ofList

def area? (tag : TagDefinition) : Option String := tag.segments.head?

/-- The areas that say what kind of typeface a font is. -/
def classificationAreas : List String := ["Sans", "Serif", "Slab", "Script", "Monospace"]

def friendlyName (tag : TagDefinition) : String :=
  match tag.segments with
  | [] => tag.name
  | [only] => only
  | area :: rest =>
    let style := String.intercalate " " rest
    if area ∈ classificationAreas then style ++ " " ++ area else style

end TagDefinition

end FontScores
