import FontScores.Json.Decode

/-!
# The records of the JSON files

The family data lists families with their axes; the tag definitions and the embeddings are tables
under the names of tags and families.
-/

namespace FontScores

open Json

structure AxisRecord where
  tag : String
  least : Single
  greatest : Single
  default : Option Single
deriving DecidableEq

structure FamilyRecord where
  family : String
  axes : List AxisRecord
deriving DecidableEq

structure TagRecord where
  description : String
  shortDescription : String
  related : List String
deriving DecidableEq

namespace AxisRecord

structure Draft where
  tag : Option String := none
  least : Option Single := none
  greatest : Option Single := none
  default : Option Single := none

def decoder : Decoder AxisRecord :=
  .record
    [.of "tag" false .text fun tag draft => { draft with tag := some tag },
      .of "min" false .single fun least draft => { draft with least := some least },
      .of "max" false .single fun greatest draft => { draft with greatest := some greatest },
      .of "defaultValue" true (.optional .single) fun default draft => { draft with default }]
    ({} : Draft)
    fun draft => do return ⟨← draft.tag, ← draft.least, ← draft.greatest, draft.default⟩

end AxisRecord

namespace FamilyRecord

structure Draft where
  family : Option String := none
  axes : List AxisRecord := []

def decoder : Decoder FamilyRecord :=
  .record
    [.of "family" false .text fun family draft => { draft with family := some family },
      .of "axes" true (.list AxisRecord.decoder) fun axes draft => { draft with axes }]
    ({} : Draft)
    fun draft => do return ⟨← draft.family, draft.axes⟩

/-- The whole family data: a record of one list. -/
def fileDecoder : Decoder (List FamilyRecord) :=
  .record [.of "familyMetadataList" false (.list decoder) fun families _ => some families] none id

end FamilyRecord

namespace TagRecord

def decoder : Decoder TagRecord :=
  .record
    [.of "description" true .text fun description record => { record with description },
      .of "superShortDescription" true .text
        fun shortDescription record => { record with shortDescription },
      .of "related" true (.list .text) fun related record => { record with related }]
    ⟨"", "", []⟩ some

def fileDecoder : Decoder (List (String × TagRecord)) := .table decoder

end TagRecord

def embeddingsDecoder : Decoder (List (String × List Single)) := .table (.list .single)

end FontScores
