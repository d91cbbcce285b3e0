import FontScores.Json.Decode

/-!
# Requests to the service

The bodies of requests are records in JSON.
-/

namespace FontScores

open Json

structure Request where
  method : String
  path : String
  contentType : Option String
  body : String
deriving DecidableEq, Repr

namespace Request

structure Lint where
  family : String

structure Similar where
  family : String
  count : Option Nat

structure ShowExemplars where
  tag : String

structure AddTagging where
  family : String
  tag : String
  score : Single
  /-- The written location of the score; none, or a blank one, for a score of the whole font. -/
  location : Option String

structure RemoveTagging where
  family : String
  tag : String

structure Draft where
  family : Option String := none
  tag : Option String := none
  count : Option Nat := none
  score : Option Single := none
  location : Option String := none

def familyField : Json.Field Draft :=
  .of "family" false .text fun family draft => { draft with family := some family }

def tagField : Json.Field Draft :=
  .of "tag" false .text fun tag draft => { draft with tag := some tag }

def Lint.decoder : Decoder Lint :=
  .record [familyField] ({} : Draft) fun draft => do return ⟨← draft.family⟩

def Similar.decoder : Decoder Similar :=
  .record
    [familyField, .of "count" false (.optional .count) fun count draft => { draft with count }]
    ({} : Draft) fun draft => do return ⟨← draft.family, draft.count⟩

def ShowExemplars.decoder : Decoder ShowExemplars :=
  .record [tagField] ({} : Draft) fun draft => do return ⟨← draft.tag⟩

def AddTagging.decoder : Decoder AddTagging :=
  .record
    [familyField, tagField,
      .of "score" false .single fun score draft => { draft with score := some score },
      .of "location" false (.optional .text) fun location draft => { draft with location }]
    ({} : Draft)
    fun draft => do return ⟨← draft.family, ← draft.tag, ← draft.score, draft.location⟩

def RemoveTagging.decoder : Decoder RemoveTagging :=
  .record [familyField, tagField] ({} : Draft)
    fun draft => do return ⟨← draft.family, ← draft.tag⟩

end Request

end FontScores
