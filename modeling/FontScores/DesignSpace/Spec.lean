import FontScores.DesignSpace.Location
import FontScores.Text.Lines

/-!
# Written locations

A location is written as its axes, an at sign and its coordinates, as in `wght,wdth@400,100`.
The reader takes blanks around every name and coordinate, and refuses a coordinate that is no
finite number and an axis given twice.
-/

namespace FontScores.Location

def readValue (text : List Char) : Except LocationError Single :=
  let trimmed := Text.trim text
  match Numeral.read .single trimmed with
  | .ok value =>
    if value.isFinite then .ok value else .error (.invalidValue (String.ofList trimmed))
  | .error _ => .error (.invalidValue (String.ofList trimmed))

/-- Adds the coordinates of the named axes, the first of them first. -/
def readPairs : Location → List (List Char × List Char) → Except LocationError Location
  | location, [] => .ok location
  | location, (name, value) :: others => do
    let axis ← AxisTag.ofName name
    let number ← readValue value
    if (location.get? axis).isSome then
      .error (.duplicateAxis (String.ofList axis.name))
    else readPairs (location.insert axis number) others

def ofSpec (spec : List Char) : Except LocationError Location :=
  match Text.cutFirst '@' spec with
  | none => .error (.missingSeparator (String.ofList spec))
  | some (before, after) =>
    let names := Text.cutAll ',' before
    let values := Text.cutAll ',' after
    if names.length = values.length then readPairs empty (names.zip values)
    else .error (.lengthMismatch names.length values.length)

/-- Writes a location, its axes in the order in which they were first given. -/
def spec (location : Location) : List Char :=
  Text.joined ',' (location.axes.map AxisTag.name) ++ '@' ::
    Text.joined ',' (location.coordinates.map fun (_, value) => Numeral.write value)

end FontScores.Location
