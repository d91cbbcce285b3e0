import FontScores.DesignSpace.Spec
import FontScores.Exemplar.Selection
import FontScores.Json.Value
import FontScores.Lint.RuleTable
import FontScores.Tag.Definition
import FontScores.Tagging.Font

/-!
# Reports in JSON

How the values of the library are written as JSON.  A location is an object with its axes as keys,
and a tagging says of which kind it is.
-/

namespace FontScores

open Json (Value)

namespace Location

def toJson (location : Location) : Value :=
  .object (location.coordinates.map fun (axis, value) =>
    (String.ofList axis.name, .number value))

end Location

def Axis.toJson (axis : Axis) : Value :=
  .object [
    ("tag", .text (String.ofList axis.tag.name)),
    ("min", .number axis.least),
    ("max", .number axis.greatest),
    ("default_value", .ofOption .number axis.default)]

namespace StaticTagging

def members (tagging : StaticTagging) : List (String × Value) :=
  [("font", .text tagging.font), ("tag", .text tagging.tag), ("score", .number tagging.score)]

def toJson (tagging : StaticTagging) : Value := .object tagging.members

end StaticTagging

def VariableTagging.members (tagging : VariableTagging) : List (String × Value) :=
  [("font", .text tagging.font), ("tag", .text tagging.tag),
    ("scores", .array (tagging.entries.map fun (location, score) =>
      .array [location.toJson, .number score]))]

def Tagging.toJson : Tagging → Value
  | fixed tagging => .object (("kind", .text "static") :: tagging.members)
  | varying tagging => .object (("kind", .text "variable") :: tagging.members)

def Font.toJson (font : Font) : Value :=
  .object [
    ("name", .text font.name),
    ("axes", .array (font.axes.map Axis.toJson)),
    ("taggings", .array (font.taggings.map Tagging.toJson))]

def TagDefinition.toJson (tag : TagDefinition) : Value :=
  .object [
    ("name", .text tag.name),
    ("description", .text tag.description),
    ("short_description", .text tag.shortDescription),
    ("related", .array (tag.related.map .text)),
    ("lowest_score", .number tag.lowest),
    ("highest_score", .number tag.highest)]

def LintRule.toJson (rule : LintRule) : Value :=
  .object [
    ("rule", .text rule.rule),
    ("description", .text rule.description),
    ("severity", .text rule.severity.name)]

def LintWarning.toJson (warning : LintWarning) : Value :=
  .object [
    ("description", .text warning.description),
    ("severity", .text warning.severity.name)]

def warningsToJson (family : String) (warnings : List LintWarning) : Value :=
  .object [
    ("family", .text family),
    ("warnings", .array (warnings.map LintWarning.toJson))]

def Exemplars.toJson (exemplars : Exemplars) : Value :=
  .object [
    ("high", .array (exemplars.high.map StaticTagging.toJson)),
    ("low", .array (exemplars.low.map StaticTagging.toJson)),
    ("medium", .array (exemplars.medium.map StaticTagging.toJson))]

end FontScores
