/-!
# The files of the reference data

What is known about families and tags is kept in five files; the taggings are in a sixth.  Each has
a usual name, which can be replaced.
-/

namespace FontScores

structure DataFiles where
  familyData : String
  embeddings : String
  tagDefinitions : String
  tagBounds : String
  rules : String
  taggings : String
deriving DecidableEq, Repr

namespace DataFiles

def usual : DataFiles where
  familyData := "family_data.json"
  embeddings := "embeddings.json"
  tagDefinitions := "tag_definitions.json"
  tagBounds := "tags_metadata.csv"
  rules := "tag_rules.csv"
  taggings := "families.csv"

end DataFiles

/-- Why a text could not be read, with the causes of that, the nearest first. -/
structure ReadFailure where
  message : String
  causes : List String
deriving DecidableEq, Repr

/-- Files kept in memory, under their paths. -/
structure TextShelf where
  files : List (String × String)
deriving DecidableEq, Repr

namespace TextShelf

def read (shelf : TextShelf) (path : String) : Except ReadFailure String :=
  match shelf.files.find? (·.1 = path) with
  | some (_, text) => .ok text
  | none => .error ⟨"no such file: " ++ path, []⟩

end TextShelf

end FontScores
