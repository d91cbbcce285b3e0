import FontScores.Json.Reader
import FontScores.Lint.RuleTable
import FontScores.Reference.LoadError
import FontScores.Reference.Records
import FontScores.Similarity.Index
import FontScores.Table.Bounds
import FontScores.Tag.Catalogue

/-!
# The registry

The registry is what is known before any tagging: the tags, the families in the order of the family
data, the rules and the vectors of style.  It is put together once, from the texts of the data files
and from entries given directly, and then stays as it is.

Where several sources speak of one thing, the law is:

* a family is entered the first time it is named;
* a tag has the description of its definition, or else the first one among its rows of bounds that
  is not empty, and the bounds of the last row; a tag given directly replaces all of that;
* the vectors of the embeddings are entered in the order of the families, and those of no family are
  left out; a vector given directly replaces one of the same name.
-/

namespace FontScores

structure Registry where
  tags : TagCatalogue
  families : List Font
  rules : RuleTable
  embeddings : EmbeddingIndex

/-- What a registry is put together from.  A text that is not given counts as a file that says
nothing. -/
structure ReferenceData where
  files : DataFiles := DataFiles.usual
  familyData : Option String := none
  embeddings : Option String := none
  tagDefinitions : Option String := none
  tagBounds : Option String := none
  rules : Option String := none
  extraTags : List TagDefinition := []
  extraFamilies : List Font := []
  extraRules : List LintRule := []
  extraEmbeddings : List (String × List Single) := []

namespace ReferenceData

/-- Decodes a JSON file, or takes the value for a file that says nothing. -/
def decodeFile {α : Type} (path : String) (decoder : Json.Decoder α) (absent : α) :
    Option String → Except LoadError α
  | none => .ok absent
  | some text =>
    match (Json.Document.ofText text).decode decoder with
    | .ok value => .ok value
    | .error _ => .error (.malformed path .json)

/-! ### Tags -/

def defineTag (name : String) (record : TagRecord) : TagDefinition :=
  { TagDefinition.named name with
    description := record.description
    shortDescription := record.shortDescription
    related := record.related }

/-- Enters a row of bounds: into the tag's definition if there is one, and else as a new one. -/
def enterBounds (tags : TagCatalogue) (row : TagBounds) : TagCatalogue :=
  let known := (tags.get? row.name).getD (TagDefinition.named row.name)
  tags.register {
    known with
    lowest := row.lowest
    highest := row.highest
    description := if known.description = "" then row.description else known.description }

/-- Enters all rows of bounds, unless one has its lowest score above its highest. -/
def enterAllBounds (path : String) (tags : TagCatalogue) :
    List TagBounds → Except LoadError TagCatalogue
  | [] => .ok tags
  | row :: others =>
    if row.highest.less row.lowest then .error (.malformed path (.boundsReversed row.name))
    else enterAllBounds path (enterBounds tags row) others

def buildTags (data : ReferenceData) : Except LoadError TagCatalogue := do
  let records ← decodeFile data.files.tagDefinitions TagRecord.fileDecoder [] data.tagDefinitions
  let defined := records.foldl
    (fun tags (name, record) => tags.register (defineTag name record)) TagCatalogue.empty
  let rows := (data.tagBounds.map Table.readBounds).getD []
  let bounded ← enterAllBounds data.files.tagBounds defined rows
  return data.extraTags.foldl TagCatalogue.register bounded

/-! ### Families -/

/-- The axis of a record, if its tag is one. -/
def axisOfRecord (path family : String) (record : AxisRecord) : Except LoadError Axis :=
  match AxisTag.ofName record.tag.toList with
  | .ok tag => .ok ⟨tag, record.least, record.greatest, record.default⟩
  | .error cause => .error (.malformed path (.axis family cause))

def fontOfRecord (path : String) (record : FamilyRecord) : Except LoadError Font := do
  let axes ← record.axes.mapM (axisOfRecord path record.family)
  return Font.untagged record.family axes

/-- The fonts whose names no earlier one has. -/
def keepFirst (families : List Font) : List Font :=
  families.foldl
    (fun kept font => if kept.any (·.name = font.name) then kept else kept ++ [font]) []

def buildFamilies (data : ReferenceData) : Except LoadError (List Font) := do
  let records ← decodeFile data.files.familyData FamilyRecord.fileDecoder [] data.familyData
  let families ← records.mapM (fontOfRecord data.files.familyData)
  return keepFirst
    (families ++ data.extraFamilies.map fun font => Font.untagged font.name font.axes)

/-! ### Embeddings -/

def lastUnder? {α : Type} (entries : List (String × α)) (key : String) : Option α :=
  (entries.reverse.find? (·.1 = key)).map Prod.snd

def buildEmbeddings (data : ReferenceData) (families : List Font) :
    Except LoadError EmbeddingIndex := do
  let vectors ← decodeFile data.files.embeddings embeddingsDecoder [] data.embeddings
  let known := families.filterMap fun font =>
    (lastUnder? vectors font.name).map fun vector => (font.name, vector)
  return (known ++ data.extraEmbeddings).foldl
    (fun index (family, vector) => index.insert family vector) EmbeddingIndex.empty

/-! ### The whole -/

def build [PatternEngine] (data : ReferenceData) : Except LoadError Registry := do
  let tags ← data.buildTags
  let families ← data.buildFamilies
  let embeddings ← data.buildEmbeddings families
  let rows := (data.rules.map Table.readRules).getD []
  return ⟨tags, families, RuleTable.ofRows (rows ++ data.extraRules), embeddings⟩

end ReferenceData

namespace Registry

def family? (registry : Registry) (name : String) : Option Font :=
  registry.families.find? (·.name = name)

def readFile {m : Type → Type} [Monad m] (read : String → m (Except ReadFailure String))
    (path : String) : ExceptT LoadError m String := do
  match ← (read path : m (Except ReadFailure String)) with
  | .ok text => return text
  | .error failure => throw (.read path failure)

/-- Reads the five files of the reference data in turn and puts the registry together.  Every file
is read before any of them is looked at. -/
def load [PatternEngine] {m : Type → Type} [Monad m]
    (read : String → m (Except ReadFailure String)) (files : DataFiles) :
    m (Except LoadError Registry) := ExceptT.run do
  let familyData ← readFile read files.familyData
  let embeddings ← readFile read files.embeddings
  let tagDefinitions ← readFile read files.tagDefinitions
  let tagBounds ← readFile read files.tagBounds
  let rules ← readFile read files.rules
  ExceptT.mk (pure ({
    files
    familyData := some familyData
    embeddings := some embeddings
    tagDefinitions := some tagDefinitions
    tagBounds := some tagBounds
    rules := some rules : ReferenceData }).build)

end Registry

end FontScores
