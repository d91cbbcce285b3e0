import Mathlib
import FontScores.Platform
import FontScores.Proofs.Json.Reading
import FontScores.Proofs.Library.Filling
import FontScores.Proofs.Service.Steps
import FontScores.Proofs.Table.Taggings

/-!
# A request for a score is a row of a table

A score comes into a library by a request or by a row.  Each way has a front of its own: the request
carries its fields apart and the row has to be cut, the request trims its location alone and the row
all of its fields, and only the row has its score checked.  Where the fields of a request can be
joined to a row and the score is finite, both fronts come to the same: one refuses what the other
refuses, with the same words, and what is left is the same addition to the library.

Only a request has a limit of size.  One above it is refused before its body is read, and stores
nothing, while its row could still be taken in.
-/

namespace FontScores

/-! ## Tables of one row -/

/-- A table of one row does what its row does. -/
theorem Library.importTable_single (library : Library) {line : List Char}
    (single : Table.rowLines line = [line]) :
    library.importTable (String.ofList line) =
      match TaggingRecord.ofLine line with
      | .error _ => (⟨0, 1⟩, library)
      | .ok record =>
        match library.addRecord? record with
        | none => (⟨0, 1⟩, library)
        | some after => (⟨1, 0⟩, after) := by
  simp only [importTable, Table.readTaggings, String.toList_ofList, single]
  cases read : TaggingRecord.ofLine line with
  | error cause => simp [read, Except.toOption, addRecords]
  | ok record =>
    cases added : library.addRecord? record with
    | none => simp [read, Except.toOption, addRecords_cons, addRecords, added]
    | some after => simp [read, Except.toOption, addRecords_cons, addRecords, added]

/-! ## The row of a request -/

namespace Request.AddTagging

variable {body : AddTagging}

/-- The location as a field: in quotes if it is there, even if it is blank. -/
def locationField (body : AddTagging) : List Char :=
  match body.location with
  | none => []
  | some text => '"' :: text.toList ++ ['"']

/-- The row with the fields of a request. -/
def row (body : AddTagging) : List Char :=
  TaggingRecord.joinedFields body.family.toList body.locationField body.tag.toList body.score

/-- What the fields of a request need so that their row is cut where it was joined. -/
structure Joinable (body : AddTagging) : Prop where
  family : Table.IsField body.family.toList
  unseparated : ',' ∉ body.family.toList
  uncommented : body.family.toList.head? ≠ some '#'
  tag : Table.IsField body.tag.toList
  location : ∀ text ∈ body.location, '\n' ∉ text.toList ∧ '"' ∉ text.toList

/-- No location and a blank one come to the same in a row as well. -/
theorem Joinable.splitLocation (joinable : body.Joinable) (after : List Char) :
    TaggingRecord.splitLocation (body.locationField ++ ',' :: after) =
      .ok ((body.location.getD "").toList, after) := by
  cases located : body.location with
  | none =>
    rw [locationField, located]
    exact TaggingRecord.splitLocation_empty
  | some text =>
    rw [locationField, located]
    exact TaggingRecord.splitLocation_quoted (joinable.location text located).2

theorem Joinable.newline_not_mem_locationField (joinable : body.Joinable) :
    '\n' ∉ body.locationField := by
  cases located : body.location with
  | none => simp [locationField, located]
  | some text => simp [locationField, located, (joinable.location text located).1]

theorem Joinable.rowLines_row (joinable : body.Joinable) :
    Table.rowLines body.row = [body.row] := by
  have line : Text.lines body.row = [body.row] := Text.lines_single
    (TaggingRecord.isLine_joinedFields joinable.family joinable.newline_not_mem_locationField
      joinable.tag)
  have kept : Table.isSkipped body.row = false :=
    TaggingRecord.isSkipped_joinedFields joinable.family joinable.uncommented
  simp [Table.rowLines, line, kept]

end Request.AddTagging

namespace Service

open Request (AddTagging)

variable {body : AddTagging}

/-- Both fronts read a location alike. -/
theorem readLocation_eq (written : Option String) :
    TaggingRecord.readLocation (written.getD "").toList =
      (location? written).mapError .location := by
  simp only [TaggingRecord.readLocation, location?]
  cases Text.trim (written.getD "").toList with
  | nil => rfl
  | cons c rest =>
    cases read : Location.ofSpec (c :: rest) <;> simp [read, Except.map, Except.mapError]

/-- Nothing but the location decides whether the row of a request can be read. -/
theorem ofLine_row (joinable : body.Joinable) (finite : body.score.isFinite = true) :
    TaggingRecord.ofLine body.row =
      ((location? body.location).mapError .location).map body.record := by
  rw [AddTagging.row, TaggingRecord.ofLine_joinedFields joinable.family joinable.unseparated
    joinable.tag joinable.splitLocation, TaggingRecord.readScore_write finite, readLocation_eq]
  simp only [String.ofList_toList]
  cases location? body.location <;> rfl

/-- A request whose location can be read tries to add the record that it stands for. -/
theorem answer_of_located [UndefinedSign] (library : Library) {request : Request}
    {location : Option Location}
    (asked : request.addition? = some body) (located : location? body.location = .ok location) :
    answer library request =
      match library.addRecord? (body.record location) with
      | some after => (.changed true, after)
      | none => (.changed false, library) := by
  rw [answer_of_addition? asked, addTagging, located]
  change (Response.changed (library.addRecord (body.record location)).1,
    (library.addRecord (body.record location)).2) = _
  rw [Library.addRecord_eq]
  cases library.addRecord? (body.record location) <;> rfl

/-! ## One answer for both -/

/-- A request is answered as a table of this one line is taken in. -/
structure AnsweredAsRow [UndefinedSign] (library : Library) (request : Request)
    (line : List Char) : Prop where
  stored : (answer library request).2 = (library.importTable (String.ofList line)).2
  rejected : (answer library request).1.status = 400 ↔
    ∃ cause, TaggingRecord.ofLine line = .error cause
  explained : ∀ cause, TaggingRecord.ofLine line = .error cause →
    (answer library request).1 = .badRequest cause.message
  changed : (answer library request).1.status ≠ 400 →
    ∃ changed, (answer library request).1 = .changed changed ∧
      (changed = true ↔ (library.importTable (String.ofList line)).1.added = 1)

section

variable [UndefinedSign] {library after : Library} {request : Request} {line : List Char}

/-- The row cannot be read, and the request is told why. -/
theorem AnsweredAsRow.of_rejected {cause : TaggingLineError}
    (answered : answer library request = (.badRequest cause.message, library))
    (read : TaggingRecord.ofLine line = .error cause)
    (imported : library.importTable (String.ofList line) = (⟨0, 1⟩, library)) :
    AnsweredAsRow library request line := by
  constructor
  case stored => rw [answered, imported]
  case rejected => simp [answered, read, Response.badRequest]
  case explained =>
    intro other same
    cases read.symm.trans same
    rw [answered]
  case changed =>
    intro accepted
    rw [answered] at accepted
    exact absurd rfl accepted

/-- The row can be read, and the request is told whether it was added. -/
theorem AnsweredAsRow.of_read {record : TaggingRecord} {changed : Bool}
    (answered : answer library request = (.changed changed, after))
    (read : TaggingRecord.ofLine line = .ok record)
    (imported : library.importTable (String.ofList line) =
      (if changed then ⟨1, 0⟩ else ⟨0, 1⟩, after)) : AnsweredAsRow library request line := by
  constructor
  case stored => rw [answered, imported]
  case rejected => simp [answered, read, Response.changed, Response.json, Response.ok]
  case explained =>
    intro cause same
    cases read.symm.trans same
  case changed =>
    intro _
    refine ⟨changed, by rw [answered], ?_⟩
    rw [imported]
    cases changed <;> simp

end

theorem answeredAsRow_of_addition? [UndefinedSign] (library : Library) {request : Request}
    (asked : request.addition? = some body) (joinable : body.Joinable)
    (finite : body.score.isFinite = true) : AnsweredAsRow library request body.row := by
  have imported := library.importTable_single joinable.rowLines_row
  have read := ofLine_row joinable finite
  cases located : location? body.location with
  | error cause =>
    rw [located] at read
    rw [read] at imported
    -- The row says of the location what the request is told.
    have answered : answer library request =
        (.badRequest (TaggingLineError.location cause).message, library) := by
      rw [answer_of_addition? asked, addTagging, located]
      rfl
    exact .of_rejected answered read imported
  | ok location =>
    rw [located] at read
    rw [read] at imported
    have answered := answer_of_located library asked located
    -- Both try to add the same record.
    cases added : library.addRecord? (body.record location) with
    | none =>
      have refused : answer library request = (.changed false, library) := by rw [answered, added]
      exact .of_read refused read (by simp [imported, Except.map, Except.mapError, added])
    | some after =>
      have taken : answer library request = (.changed true, after) := by rw [answered, added]
      exact .of_read taken read (by simp [imported, Except.map, Except.mapError, added])

/-- Whatever the library holds, a request to add a finite score is answered as its row is taken in,
if its body is within the limit of size.  Above the limit it is refused and stores nothing. -/
theorem addition_answered_as_row [UndefinedSign] (library : Library) (request : Request)
    (body : AddTagging)
    (sent : request.SentTo .addTagging) (decoded : request.decoded? AddTagging.decoder = some body)
    (joinable : body.Joinable) (finite : body.score.isFinite = true) :
    (request.body.utf8ByteSize ≤ bodyLimit → AnsweredAsRow library request body.row) ∧
      (bodyLimit < request.body.utf8ByteSize →
        answer library request = (.payloadTooLarge, library)) := by
  constructor
  · intro fits
    have asked : request.addition? = some body := by
      rw [Request.addition?, Request.body?, if_pos ⟨sent, fits⟩, decoded]
    exact answeredAsRow_of_addition? library asked joinable finite
  · exact answer_of_oversize sent rfl

/-- A score at a location with blanks in it is added to an empty library. -/
theorem addition_answered_as_row_of_flex :
    let request : Request := ⟨"POST", "/taggings/add", some "application/json",
      "\x7b\"family\":\"Roboto Flex\",\"tag\":\"/Expressive/Loud\",\"score\":30," ++
        "\"location\":\" wght @ 400\"\x7d"⟩
    let body : AddTagging :=
      ⟨"Roboto Flex", "/Expressive/Loud", Binary.ofNat _ false 30, some " wght @ 400"⟩
    let line := "Roboto Flex,\" wght @ 400\",/Expressive/Loud,30".toList
    request.SentTo .addTagging ∧ request.decoded? AddTagging.decoder = some body ∧
      body.Joinable ∧ body.score.isFinite = true ∧ request.body.utf8ByteSize ≤ bodyLimit ∧
      body.row = line ∧ (answer (.ofRegistry Library.flexRegistry) request).1 = .changed true ∧
      AnsweredAsRow (.ofRegistry Library.flexRegistry) request line := by
  intro request body line
  have sent : request.SentTo .addTagging := by decide
  have decoded : request.decoded? AddTagging.decoder = some body := by
    have read : Json.Document.ofText request.body = ⟨.object
        [(some "family", .text (some "Roboto Flex")),
          (some "tag", .text (some "/Expressive/Loud")),
          (some "score", .number (some (.natural 30))),
          (some "location", .text (some " wght @ 400"))], false⟩ := by
      dsimp only [request]
      refine Json.ofText_eq (Json.gives_object rfl (by decide) ?_)
      refine Json.gives_members rfl rfl rfl (Json.gives_text rfl rfl) (.inr ⟨_, rfl, ?_⟩)
      refine Json.gives_members rfl rfl rfl (Json.gives_text rfl rfl) (.inr ⟨_, rfl, ?_⟩)
      refine Json.gives_members rfl rfl rfl (Json.gives_numeral rfl rfl rfl rfl)
        (.inr ⟨_, rfl, ?_⟩)
      exact Json.gives_members rfl rfl rfl (Json.gives_text rfl rfl) (.inl ⟨rfl, rfl⟩)
    rw [Request.decoded?, read]
    rfl
  have joinable : body.Joinable := by
    constructor
    case family => exact ⟨by decide, by decide, by decide⟩
    case unseparated => decide
    case uncommented => decide
    case tag => exact ⟨by decide, by decide, by decide⟩
    case location =>
      rintro text ⟨⟩
      exact ⟨by decide, by decide⟩
  have finite : body.score.isFinite = true := by decide +kernel
  have fits : request.body.utf8ByteSize ≤ bodyLimit := by decide +kernel
  have row : body.row = line := by decide +kernel
  have taken : (answer (.ofRegistry Library.flexRegistry) request).1 = .changed true := by
    have asked : request.addition? = some body := by
      rw [Request.addition?, Request.body?, if_pos ⟨sent, fits⟩, decoded]
    rw [answer_of_addition? asked]
    decide +kernel
  exact ⟨sent, decoded, joinable, finite, fits, row, taken,
    row ▸ (addition_answered_as_row _ request body sent decoded joinable finite).1 fits⟩

end Service

end FontScores
