import FontScores.Json.Reader
import FontScores.Library.Import
import FontScores.Report.Encode
import FontScores.Service.MediaType
import FontScores.Service.Request

/-!
# The service

The service answers requests about one library.  Every request is one step: it is answered from the
library as it is, and the next one sees what it changed.

A request is turned away before its body is looked at if its path is unknown, its method does not
belong to the path, or its body is not said to be JSON; then if the body is longer than two
mebibytes, is not JSON, or is JSON of another shape.  The wording of these last four refusals is not
part of the service, so they have no body.
-/

namespace FontScores

structure Response where
  status : Nat
  /-- Nothing if the wording is left open. -/
  body : Option String
deriving DecidableEq, Repr

namespace Response

def ok (body : String) : Response := ⟨200, some body⟩

def json (value : Json.Value) : Response := ok value.compactText

def badRequest (message : String) : Response := ⟨400, some message⟩

def notFound (message : String) : Response := ⟨404, some message⟩

def methodNotAllowed : Response := ⟨405, some ""⟩

/-- The body is not said to be JSON. -/
def unsupportedMediaType : Response := ⟨415, none⟩

/-- The body is longer than the service takes. -/
def payloadTooLarge : Response := ⟨413, none⟩

/-- The body could not be taken as what it should be. -/
def refused : Json.Fault → Response
  | .notJson => ⟨400, none⟩
  | .otherShape => ⟨422, none⟩

def changed (changed : Bool) : Response := json (.object [("changed", .bool changed)])

end Response

inductive Route where
  | health
  | lint
  | similar
  | exemplars
  | addTagging
  | removeTagging
  | exportTaggings
deriving DecidableEq, Repr

namespace Route

/-- The route of a path; what follows a question mark is not part of the path. -/
def ofPath? (path : String) : Option Route :=
  match String.ofList (path.toList.takeWhile (· ≠ '?')) with
  | "/health" => some .health
  | "/lint" => some .lint
  | "/similar" => some .similar
  | "/exemplars" => some .exemplars
  | "/taggings/add" => some .addTagging
  | "/taggings/remove" => some .removeTagging
  | "/taggings/export" => some .exportTaggings
  | _ => none

/-- Whether the route is asked with GET; the others are asked with POST. -/
def isGet (route : Route) : Bool := route = .health || route = .exportTaggings

end Route

namespace Service

abbrev Answer := Response × Library

/-- How many bytes of a body the service takes. -/
def bodyLimit : Nat := 2 * 1024 * 1024

/-- Takes the body of a request and answers with it. -/
def withBody {α : Type} (library : Library) (request : Request) (decoder : Json.Decoder α)
    (answer : α → Answer) : Answer :=
  if request.contentType.any MediaType.isJson then
    if request.body.utf8ByteSize ≤ bodyLimit then
      match (Json.Document.ofText request.body).decode decoder with
      | .ok body => answer body
      | .error fault => (.refused fault, library)
    else (.payloadTooLarge, library)
  else (.unsupportedMediaType, library)

def lint (library : Library) (request : Request.Lint) : Answer :=
  match library.lint? request.family with
  | some warnings => (.json (warningsToJson request.family warnings), library)
  | none => (.notFound ("unknown family: " ++ request.family), library)

def similar [UndefinedSign] (library : Library) (request : Request.Similar) : Answer :=
  let count := request.count.getD EmbeddingIndex.neighboursByDefault
  let families := library.similar request.family count
  (.json (.object [
    ("family", .text request.family),
    ("similar", .array (families.map .text))]), library)

def exemplars (library : Library) (request : Request.ShowExemplars) : Answer :=
  match library.exemplars? request.tag with
  | some (exemplars, library) => (.json exemplars.toJson, library)
  | none => (.notFound ("unknown tag: " ++ request.tag), library)

/-- The location of a request to add a score, if it is not blank. -/
def location? (written : Option String) : Except LocationError (Option Location) :=
  match Text.trim ((written.getD "").toList) with
  | [] => .ok none
  | spec => (Location.ofSpec spec).map some

def addTagging (library : Library) (request : Request.AddTagging) : Answer :=
  match location? request.location with
  | .error error => (.badRequest error.message, library)
  | .ok location =>
    let (changed, library) :=
      library.addRecord ⟨request.family, location, request.tag, request.score⟩
    (.changed changed, library)

def removeTagging (library : Library) (request : Request.RemoveTagging) : Answer :=
  let (removed, library) := library.remove request.family request.tag
  (.changed removed.isSome, library)

/-- Answers a request whose method belongs to its route. -/
def answerRoute [UndefinedSign] (library : Library) (request : Request) : Route → Answer
  | .health => (.ok "ok", library)
  | .exportTaggings => (.ok library.exportTable, library)
  | .lint => withBody library request Request.Lint.decoder (lint library)
  | .similar => withBody library request Request.Similar.decoder (similar library)
  | .exemplars => withBody library request Request.ShowExemplars.decoder (exemplars library)
  | .addTagging => withBody library request Request.AddTagging.decoder (addTagging library)
  | .removeTagging =>
    withBody library request Request.RemoveTagging.decoder (removeTagging library)

def answer [UndefinedSign] (library : Library) (request : Request) : Answer :=
  match Route.ofPath? request.path with
  | none => (.notFound "", library)
  | some route =>
    if route.isGet then
      if request.method = "GET" then answerRoute library request route
      else if request.method = "HEAD" then (.ok "", library)
      else (.methodNotAllowed, library)
    else if request.method = "POST" then answerRoute library request route
    else (.methodNotAllowed, library)

def answerAll [UndefinedSign] (library : Library) : List Request → List Response × Library
  | [] => ([], library)
  | request :: others =>
    let (response, library) := answer library request
    let (responses, library) := answerAll library others
    (response :: responses, library)

end Service

end FontScores
