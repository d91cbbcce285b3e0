import FontScores.DesignSpace.Spec
import FontScores.Table.Fields
import FontScores.Tagging.Font

/-!
# The tagging table

A row is a family, a location, a tag and a score.  The location of a static tagging is empty; that
of a variable tagging stands in double quotes, because it may hold commas, and a variable tagging
has a row for each of its locations.  The tag is everything up to the last comma, so it may hold
commas as well.

`tableText` writes the table in its normal order: fonts by name and taggings by tag.
-/

namespace FontScores

structure TaggingRecord where
  family : String
  /-- Nothing for a static tagging. -/
  location : Option Location
  tag : String
  score : Single
deriving DecidableEq

/-- Why a line is no row of the tagging table. -/
inductive TaggingLineError where
  | missingFields
  | unterminatedLocation
  | missingCommaAfterLocation
  | missingName
  | invalidScore (text : String) (cause : NumeralError)
  | scoreNotFinite (score : Single)
  | location (cause : LocationError)
deriving DecidableEq

namespace TaggingLineError

def message : TaggingLineError → String
  | missingFields => "expected 4 fields"
  | unterminatedLocation => "unterminated location spec"
  | missingCommaAfterLocation => "expected ',' after location spec"
  | missingName => "missing family name or tag name"
  | invalidScore text cause => "invalid score " ++ Text.quoted text ++ ": " ++ cause.message
  | scoreNotFinite score => "score must be a finite number, got " ++ score.text
  | location cause => cause.message

end TaggingLineError

namespace TaggingRecord

/-- The location's text and what follows the comma after it. -/
def splitLocation (rest : List Char) : Except TaggingLineError (List Char × List Char) :=
  match Text.trimStart rest with
  | '"' :: quoted =>
    match Text.cutFirst '"' quoted with
    | none => .error .unterminatedLocation
    | some (spec, tail) =>
      match Text.trimStart tail with
      | ',' :: after => .ok (spec, after)
      | _ => .error .missingCommaAfterLocation
  | _ =>
    match Text.cutFirst ',' rest with
    | none => .error .missingFields
    | some (spec, after) => .ok (spec, after)

def readScore (text : List Char) : Except TaggingLineError Single :=
  let trimmed := Text.trim text
  match Numeral.read .single trimmed with
  | .error cause => .error (.invalidScore (String.ofList trimmed) cause)
  | .ok score => if score.isFinite then .ok score else .error (.scoreNotFinite score)

def readLocation (text : List Char) : Except TaggingLineError (Option Location) :=
  match Text.trim text with
  | [] => .ok none
  | spec =>
    match Location.ofSpec spec with
    | .ok location => .ok (some location)
    | .error cause => .error (.location cause)

def ofLine (line : List Char) : Except TaggingLineError TaggingRecord :=
  match Text.cutFirst ',' line with
  | none => .error .missingFields
  | some (familyField, rest) => do
    let (spec, rest) ← splitLocation rest
    match Text.cutLast ',' rest with
    | none => .error .missingFields
    | some (tagField, scoreField) =>
      let family := Text.trim familyField
      let tag := Text.trim tagField
      if family = [] ∨ tag = [] then .error .missingName
      else
        let score ← readScore scoreField
        let location ← readLocation spec
        return ⟨String.ofList family, location, String.ofList tag, score⟩

def line (record : TaggingRecord) : List Char :=
  let location :=
    match record.location with
    | none => []
    | some location => '"' :: location.spec ++ ['"']
  record.family.toList ++ ',' :: location ++ ',' :: record.tag.toList ++ ',' ::
    Numeral.write record.score

end TaggingRecord

/-- The rows of a tagging table; lines that cannot be read are passed over. -/
def Table.readTaggings (text : String) : List TaggingRecord :=
  (Table.rowLines text.toList).filterMap fun line => (TaggingRecord.ofLine line).toOption

/-- The rows of a tagging: one if it is static, one for each location if not. -/
def Tagging.records : Tagging → List TaggingRecord
  | fixed tagging => [⟨tagging.font, none, tagging.tag, tagging.score⟩]
  | varying tagging =>
    tagging.entries.map fun (location, score) =>
      ⟨tagging.font, some location, tagging.tag, score⟩

def Tagging.lines (tagging : Tagging) : List (List Char) := tagging.records.map TaggingRecord.line

/-- The rows of all taggings, fonts by name and taggings by tag. -/
def Table.records (fonts : List Font) : List TaggingRecord :=
  (fonts.mergeSort fun one other => one.name ≤ other.name).flatMap fun font =>
    (font.taggings.mergeSort fun one other => one.tag ≤ other.tag).flatMap Tagging.records

def Table.writeTaggings (fonts : List Font) : String :=
  String.ofList (Text.joined '\n' ((Table.records fonts).map TaggingRecord.line))

end FontScores
