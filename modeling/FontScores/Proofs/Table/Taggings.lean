import Mathlib
import FontScores.Proofs.DesignSpace.Spec
import FontScores.Table.Taggings

/-!
# A written tagging table is read back

A row can be written when its family and its tag are fields and its score and its location can be
written.  The family may have no comma and must not look like a comment; the tag may hold commas,
because it is cut off from behind.  Every row that was read satisfies this, so no family, tag or
score comes into a library through a table that could not leave it again.

Only one thing can be read and not written: a double quote in the name of an axis, when the location
was given without quotes around it.
-/

namespace FontScores

open Text (isBlank trim trimStart cutFirst cutLast)

/-! ## Lines that hold a row -/

namespace Table

/-- A text that can be a field: on one line, with no blanks at its ends. -/
structure IsField (field : List Char) : Prop where
  nonempty : field ≠ []
  trimmed : trim field = field
  single : '\n' ∉ field

instance (field : List Char) : Decidable (IsField field) :=
  decidable_of_iff (field ≠ [] ∧ trim field = field ∧ '\n' ∉ field)
    ⟨fun ⟨nonempty, trimmed, single⟩ => ⟨nonempty, trimmed, single⟩,
      fun ⟨nonempty, trimmed, single⟩ => ⟨nonempty, trimmed, single⟩⟩

theorem isSkipped_eq_false_iff {line : List Char} :
    isSkipped line = false ↔ ∃ c, line.find? (!isBlank ·) = some c ∧ c ≠ '#' := by
  rw [← Text.head?_trim, isSkipped]
  cases trim line <;> simp

theorem isSkipped_concat {c : Char} (blank : isBlank c = true) (line : List Char) :
    isSkipped (line ++ [c]) = isSkipped line := by
  rw [isSkipped, Text.trim_concat blank, isSkipped]

theorem isField_trim {text : List Char} (nonempty : trim text ≠ []) (single : '\n' ∉ text) :
    IsField (trim text) :=
  ⟨nonempty, Text.trim_trim text, fun member => single (Text.mem_of_mem_trim member)⟩

theorem mem_rowLines {text : String} {line : List Char} (member : line ∈ rowLines text.toList) :
    isSkipped line = false ∧ '\n' ∉ line := by
  obtain ⟨cut, row⟩ := List.mem_filter.mp member
  exact ⟨by simpa using row, Text.newline_not_mem_of_mem_lines cut⟩

end Table

namespace TaggingRecord

variable {record : TaggingRecord}

/-- What a row needs so that its written form can be read, quotes apart. -/
structure Writable (record : TaggingRecord) : Prop where
  family : Table.IsField record.family.toList
  unseparated : ',' ∉ record.family.toList
  uncommented : record.family.toList.head? ≠ some '#'
  tag : Table.IsField record.tag.toList
  finite : record.score.isFinite = true
  location : ∀ location ∈ record.location, location.Writable

/-- What a row needs so that its written form is one line that is cut in the right places; its score
may be any number. -/
structure Shaped (record : TaggingRecord) : Prop where
  family : Table.IsField record.family.toList
  unseparated : ',' ∉ record.family.toList
  uncommented : record.family.toList.head? ≠ some '#'
  tag : Table.IsField record.tag.toList
  location : ∀ location ∈ record.location, location.Writable

/-- What a row needs so that its written form is one line that begins with its family. -/
structure Named (record : TaggingRecord) : Prop where
  family : Table.IsField record.family.toList
  unseparated : ',' ∉ record.family.toList
  uncommented : record.family.toList.head? ≠ some '#'
  tag : Table.IsField record.tag.toList

theorem Writable.shaped (writable : record.Writable) : record.Shaped :=
  ⟨writable.family, writable.unseparated, writable.uncommented, writable.tag, writable.location⟩

theorem Shaped.writable (shaped : record.Shaped) (finite : record.score.isFinite = true) :
    record.Writable :=
  ⟨shaped.family, shaped.unseparated, shaped.uncommented, shaped.tag, finite, shaped.location⟩

theorem Shaped.named (shaped : record.Shaped) : record.Named :=
  ⟨shaped.family, shaped.unseparated, shaped.uncommented, shaped.tag⟩

theorem Named.writable (named : record.Named) (finite : record.score.isFinite = true)
    (location : ∀ location ∈ record.location, location.Writable) : record.Writable :=
  ⟨named.family, named.unseparated, named.uncommented, named.tag, finite, location⟩

/-- No axis of the row's location has a double quote in its name. -/
def Unquoted (record : TaggingRecord) : Prop :=
  ∀ location ∈ record.location, ∀ axis ∈ location.axes, '"' ∉ axis.name

/-! ## Reading -/

theorem isFinite_of_readScore {text : List Char} {score : Single}
    (read : readScore text = .ok score) : score.isFinite = true := by
  simp only [readScore] at read
  split at read
  · cases read
  · split at read
    next finite => exact Except.ok.inj read ▸ finite
    · cases read

/-- A location that was read is what the text without the blanks around it says. -/
theorem ofSpec_of_readLocation {text : List Char} {location? : Option Location}
    (read : readLocation text = .ok location?) {location : Location}
    (held : location ∈ location?) : Location.ofSpec (trim text) = .ok location := by
  simp only [readLocation] at read
  split at read
  · obtain rfl := Except.ok.inj read
    cases held
  · split at read
    next located =>
      obtain rfl := Except.ok.inj read
      obtain rfl := Option.some.inj held
      exact located
    · cases read

theorem writable_of_readLocation {text : List Char} {location? : Option Location}
    (read : readLocation text = .ok location?) : ∀ location ∈ location?, location.Writable :=
  fun _ held => Location.writable_of_ofSpec (ofSpec_of_readLocation read held)

/-- The names of axes come from the text of the location. -/
theorem mem_of_readLocation {text : List Char} {location? : Option Location}
    (read : readLocation text = .ok location?) {location : Location}
    (held : location ∈ location?) {axis : AxisTag} (member : axis ∈ location.axes) {c : Char}
    (inside : c ∈ axis.name) : c ∈ text :=
  Text.mem_of_mem_trim
    (Location.mem_of_mem_name (ofSpec_of_readLocation read held) member inside).1

/-- What follows the location in a row is a part of the row. -/
theorem mem_of_splitLocation {rest spec after : List Char}
    (cut : splitLocation rest = .ok (spec, after)) {c : Char} (member : c ∈ after) : c ∈ rest := by
  simp only [splitLocation] at cut
  -- With quotes around it, the location ends at the closing one; else at the first comma.
  split at cut
  next quoted shape =>
    split at cut
    · cases cut
    next tail found =>
      split at cut
      next behind start =>
        obtain ⟨rfl, rfl⟩ := Prod.mk.inj (Except.ok.inj cut)
        obtain ⟨rfl, _⟩ := Text.cutFirst_eq_some_iff.mp found
        have inTail : c ∈ tail :=
          (Text.trimStart_suffix tail).subset (start.symm ▸ List.mem_cons_of_mem ',' member)
        exact (Text.trimStart_suffix rest).subset (shape.symm ▸ by simp [inTail])
      · cases cut
  · split at cut
    · cases cut
    next found =>
      obtain ⟨rfl, rfl⟩ := Prod.mk.inj (Except.ok.inj cut)
      obtain ⟨rfl, _⟩ := Text.cutFirst_eq_some_iff.mp found
      simp [member]

/-- The fields of a line from which a row was read. -/
theorem fields_of_ofLine {line : List Char} (read : ofLine line = .ok record) :
    ∃ familyField rest spec after tagField scoreField,
      cutFirst ',' line = some (familyField, rest) ∧ splitLocation rest = .ok (spec, after) ∧
        cutLast ',' after = some (tagField, scoreField) ∧
        record.family = String.ofList (trim familyField) ∧ trim familyField ≠ [] ∧
        record.tag = String.ofList (trim tagField) ∧ trim tagField ≠ [] ∧
        readScore scoreField = .ok record.score ∧ readLocation spec = .ok record.location := by
  simp only [ofLine] at read
  split at read
  · cases read
  next familyField rest found =>
    obtain ⟨⟨spec, after⟩, cut, read⟩ := bind_eq_ok_iff.mp read
    simp only at read
    split at read
    · cases read
    next tagField scoreField last =>
      split at read
      · cases read
      next named =>
        obtain ⟨score, scored, read⟩ := bind_eq_ok_iff.mp read
        obtain ⟨location?, located, read⟩ := bind_eq_ok_iff.mp read
        obtain rfl := Except.ok.inj read
        obtain ⟨hasFamily, hasTag⟩ := not_or.mp named
        exact ⟨familyField, rest, spec, after, tagField, scoreField, found, cut, last, rfl,
          hasFamily, rfl, hasTag, scored, located⟩

/-- Every row that was read from a line can be written. -/
theorem writable_of_ofLine {line : List Char} (row : Table.isSkipped line = false)
    (single : '\n' ∉ line) (read : ofLine line = .ok record) : record.Writable := by
  obtain ⟨familyField, rest, spec, after, tagField, scoreField, found, cut, last, family, hasFamily,
    tag, hasTag, scored, located⟩ := fields_of_ofLine read
  obtain ⟨rfl, unseparated⟩ := Text.cutFirst_eq_some_iff.mp found
  obtain ⟨rfl, _⟩ := Text.cutLast_eq_some_iff.mp last
  simp only [List.mem_append, List.mem_cons, not_or] at single
  have inTag : '\n' ∉ tagField := fun member =>
    single.2.2 (mem_of_splitLocation cut (by simp [member]))
  constructor
  case family =>
    rw [family, String.toList_ofList]
    exact Table.isField_trim hasFamily single.1
  case unseparated =>
    rw [family, String.toList_ofList]
    exact fun member => unseparated (Text.mem_of_mem_trim member)
  case uncommented =>
    -- The first character of the family is the first one of the line that is not blank.
    rw [family, String.toList_ofList]
    intro sign
    have first := Text.head?_trim familyField
    obtain ⟨c, visible, other⟩ := Table.isSkipped_eq_false_iff.mp row
    rw [List.find?_append, ← first, sign] at visible
    exact other (Option.some.inj visible).symm
  case tag =>
    rw [tag, String.toList_ofList]
    exact Table.isField_trim hasTag inTag
  case finite => exact isFinite_of_readScore scored
  case location => exact writable_of_readLocation located

/-! ## Writing -/

theorem readScore_write {score : Single} (finite : score.isFinite = true) :
    readScore (Numeral.write score) = .ok score := by
  simp only [readScore, Numeral.trim_write finite,
    Numeral.read_write Format.reaching_single finite, finite, if_true]

theorem readLocation_spec {location : Location} (writable : location.Writable) :
    readLocation location.spec = .ok (some location) := by
  have trimmed := Text.trim_of_visible fun _ => writable.visible
  have nonempty : location.spec ≠ [] := by simp [Location.spec]
  simp only [readLocation, trimmed, Location.ofSpec_spec writable]

theorem quote_not_mem_spec {location : Location}
    (unquoted : ∀ axis ∈ location.axes, '"' ∉ axis.name) : '"' ∉ location.spec := by
  intro member
  rcases Location.mem_spec member with comma | sign | ⟨axis, among, inside⟩ | ⟨_, _, inside⟩
  · exact absurd comma (by decide)
  · exact absurd sign (by decide)
  · exact unquoted axis among inside
  · exact Numeral.separator_not_mem_write _ (by simp) inside

theorem newline_not_mem_spec (location : Location) : '\n' ∉ location.spec := by
  intro member
  rcases Location.mem_spec member with comma | sign | ⟨axis, _, inside⟩ | ⟨_, _, inside⟩
  · exact absurd comma (by decide)
  · exact absurd sign (by decide)
  · exact absurd (AxisTag.visible_of_mem_name inside) (by decide)
  · exact Numeral.separator_not_mem_write _ (by simp) inside

/-! ### Joined fields -/

/-- A row of three fields and a score. -/
def joinedFields (family field tag : List Char) (score : Single) : List Char :=
  family ++ ',' :: (field ++ ',' :: (tag ++ ',' :: Numeral.write score))

section Fields

variable {family field spec tag after : List Char} {score : Single}

/-- An empty field for the location ends at once. -/
theorem splitLocation_empty : splitLocation (',' :: after) = .ok ([], after) := by
  have visible : trimStart (',' :: after) = ',' :: after := Text.trimStart_cons (by rfl) after
  have cut : cutFirst ',' (',' :: after) = some ([], after) :=
    Text.cutFirst_eq_some_iff.mpr ⟨rfl, by simp⟩
  simp [splitLocation, visible, cut]

/-- Between quotes anything is the location's text but another quote. -/
theorem splitLocation_quoted (unquoted : '"' ∉ spec) :
    splitLocation ('"' :: spec ++ ['"'] ++ ',' :: after) = .ok (spec, after) := by
  have quote : trimStart ('"' :: (spec ++ '"' :: ',' :: after)) =
      '"' :: (spec ++ '"' :: ',' :: after) := Text.trimStart_cons (by rfl) _
  have cut : cutFirst '"' (spec ++ '"' :: ',' :: after) = some (spec, ',' :: after) :=
    Text.cutFirst_eq_some_iff.mpr ⟨rfl, unquoted⟩
  have comma : trimStart (',' :: after) = ',' :: after := Text.trimStart_cons (by rfl) after
  simp [splitLocation, quote, cut, comma]

/-- Joined fields are cut where they were joined, so that all depends on the score and on the text
of the location. -/
theorem ofLine_joinedFields (named : Table.IsField family) (unseparated : ',' ∉ family)
    (tagged : Table.IsField tag)
    (cut : ∀ after, splitLocation (field ++ ',' :: after) = .ok (spec, after)) :
    ofLine (joinedFields family field tag score) = do
      let score ← readScore (Numeral.write score)
      let location ← readLocation spec
      return ⟨String.ofList family, location, String.ofList tag, score⟩ := by
  have first (rest : List Char) : cutFirst ',' (family ++ ',' :: rest) = some (family, rest) :=
    Text.cutFirst_eq_some_iff.mpr ⟨rfl, unseparated⟩
  have last : cutLast ',' (tag ++ ',' :: Numeral.write score) = some (tag, Numeral.write score) :=
    Text.cutLast_eq_some_iff.mpr ⟨rfl, Numeral.separator_not_mem_write _ (by simp)⟩
  have present : ¬(family = [] ∨ tag = []) := not_or.mpr ⟨named.nonempty, tagged.nonempty⟩
  simp only [ofLine, joinedFields, first, cut, last, bind, Except.bind, named.trimmed,
    tagged.trimmed, present, if_false]

theorem isSkipped_joinedFields (named : Table.IsField family)
    (uncommented : family.head? ≠ some '#') :
    Table.isSkipped (joinedFields family field tag score) = false := by
  obtain ⟨c, rest, rfl⟩ := List.exists_cons_of_ne_nil named.nonempty
  have visible : isBlank c = false := Text.head_visible named.trimmed
  have other : c ≠ '#' := by simpa using uncommented
  exact Table.isSkipped_eq_false_iff.mpr ⟨c, by simp [joinedFields, visible], other⟩

theorem isLine_joinedFields (named : Table.IsField family) (single : '\n' ∉ field)
    (tagged : Table.IsField tag) : Text.IsLine (joinedFields family field tag score) := by
  constructor
  case nonempty => simp [joinedFields]
  case single =>
    have written := Numeral.separator_not_mem_write (c := '\n') score (by simp)
    simp [joinedFields, named.single, single, tagged.single, written]
  case unreturned =>
    -- The row ends in the last character of its score.
    obtain ⟨front, last, shape⟩ : ∃ front last, Numeral.write score = front ++ [last] :=
      ⟨_, _, (List.dropLast_append_getLast (Numeral.written_ne_nil score)).symm⟩
    have written := Numeral.separator_not_mem_write (c := '\r') score (by simp)
    have other : last ≠ '\r' := by
      rintro rfl
      simp [shape] at written
    have ending : joinedFields family field tag score =
        (family ++ ',' :: (field ++ ',' :: (tag ++ ',' :: front))) ++ [last] := by
      simp [joinedFields, shape]
    rw [ending, List.getLast?_concat]
    simpa using other

end Fields

/-! ### Rows -/

/-- The field of a written row that its location is in. -/
def locationField : Option Location → List Char
  | none => []
  | some location => '"' :: location.spec ++ ['"']

theorem line_eq (record : TaggingRecord) :
    record.line = joinedFields record.family.toList (locationField record.location)
      record.tag.toList record.score := by
  obtain ⟨family, location?, tag, score⟩ := record
  cases location? <;> simp [line, locationField, joinedFields]

/-- The text in the field of a location. -/
def locationText : Option Location → List Char
  | none => []
  | some location => location.spec

/-- The location of a written row is cut off where it was put on. -/
theorem splitLocation_written (unquoted : record.Unquoted) (after : List Char) :
    splitLocation (locationField record.location ++ ',' :: after) =
      .ok (locationText record.location, after) := by
  -- A row without a location has an empty field; any other has quotes around its location.
  cases located : record.location with
  | none => exact splitLocation_empty
  | some location => exact splitLocation_quoted (quote_not_mem_spec (unquoted location located))

theorem readLocation_written (shaped : record.Shaped) :
    readLocation (locationText record.location) = .ok record.location := by
  cases located : record.location with
  | none => rfl
  | some location => exact readLocation_spec (shaped.location location located)

/-- A written row is read field by field, so that all depends on its score. -/
theorem ofLine_line_eq (shaped : record.Shaped) (unquoted : record.Unquoted) :
    ofLine record.line = (readScore (Numeral.write record.score)).map fun score =>
      { record with score } := by
  rw [line_eq, ofLine_joinedFields shaped.family shaped.unseparated shaped.tag
    (splitLocation_written unquoted), readLocation_written shaped]
  simp only [String.ofList_toList]
  cases readScore (Numeral.write record.score) <;> rfl

/-- A written row is read back. -/
theorem ofLine_line (writable : record.Writable) (unquoted : record.Unquoted) :
    ofLine record.line = .ok record := by
  rw [ofLine_line_eq writable.shaped unquoted, readScore_write writable.finite]
  rfl

/-- A written row whose score is no finite number is not read. -/
theorem ofLine_line_of_not_finite (shaped : record.Shaped) (unquoted : record.Unquoted)
    (infinite : record.score.isFinite = false) : (ofLine record.line).toOption = none := by
  rw [ofLine_line_eq shaped unquoted]
  cases read : readScore (Numeral.write record.score) with
  | error cause => rfl
  | ok score =>
    have word : ∀ text ∈ Numeral.words, (readScore text).toOption = none := by decide
    have none := word _ (Numeral.write_mem_words infinite)
    simp [read, Except.toOption] at none

/-- Whatever can be read from the line of a row is for the same family and the same tag. -/
theorem slot_of_ofLine_line (named : record.Named) (unquoted : record.Unquoted)
    {found : TaggingRecord} (read : ofLine record.line = .ok found) :
    found.family = record.family ∧ found.tag = record.tag := by
  rw [line_eq, ofLine_joinedFields named.family named.unseparated named.tag
    (splitLocation_written unquoted)] at read
  obtain ⟨score, _, read⟩ := bind_eq_ok_iff.mp read
  obtain ⟨location?, _, read⟩ := bind_eq_ok_iff.mp read
  obtain rfl := Except.ok.inj read
  simp

/-- A location between quotes ends at the first of them. -/
theorem quote_not_mem_of_splitLocation {text spec after : List Char}
    (cut : splitLocation ('"' :: text) = .ok (spec, after)) : '"' ∉ spec := by
  have quote : trimStart ('"' :: text) = '"' :: text := Text.trimStart_cons (by rfl) _
  simp only [splitLocation, quote] at cut
  split at cut
  · cases cut
  next tail found =>
    split at cut
    · obtain ⟨rfl, rfl⟩ := Prod.mk.inj (Except.ok.inj cut)
      exact (Text.cutFirst_eq_some_iff.mp found).2
    · cases cut

/-- From the line of a row no axis is read that has a quote in its name, because the location stands
between quotes. -/
theorem unquoted_of_ofLine_line (named : record.Named) {found : TaggingRecord}
    (read : ofLine record.line = .ok found) : found.Unquoted := by
  obtain ⟨familyField, rest, spec, after, tagField, scoreField, first, cut, _, _, _, _, _, _,
    located⟩ := fields_of_ofLine read
  have shape : cutFirst ',' record.line = some (record.family.toList,
      locationField record.location ++ ',' :: (record.tag.toList ++ ',' ::
        Numeral.write record.score)) := by
    rw [line_eq]
    exact Text.cutFirst_eq_some_iff.mpr ⟨rfl, named.unseparated⟩
  obtain ⟨rfl, rfl⟩ := Prod.mk.inj (Option.some.inj (shape.symm.trans first))
  have outside : '"' ∉ spec := by
    cases held : record.location with
    | none =>
      rw [held, locationField, List.nil_append, splitLocation_empty] at cut
      obtain ⟨rfl, _⟩ := Prod.mk.inj (Except.ok.inj cut)
      simp
    | some location =>
      rw [held, locationField] at cut
      exact quote_not_mem_of_splitLocation cut
  intro location held axis member inside
  exact outside (mem_of_readLocation located held member inside)

theorem isSkipped_line (named : record.Named) : Table.isSkipped record.line = false :=
  line_eq record ▸ isSkipped_joinedFields named.family named.uncommented

theorem newline_not_mem_locationField (location : Option Location) :
    '\n' ∉ locationField location := by
  cases location with
  | none => simp [locationField]
  | some location => simp [locationField, newline_not_mem_spec location]

theorem isLine_line (named : record.Named) : Text.IsLine record.line :=
  line_eq record ▸
    isLine_joinedFields named.family (newline_not_mem_locationField record.location) named.tag

end TaggingRecord

/-! ## Whole tables -/

namespace Table

variable {records : List TaggingRecord}

theorem mem_readTaggings_iff {text : String} {record : TaggingRecord} :
    record ∈ readTaggings text ↔
      ∃ line ∈ rowLines text.toList, TaggingRecord.ofLine line = .ok record := by
  have taken (line : List Char) : (TaggingRecord.ofLine line).toOption = some record ↔
      TaggingRecord.ofLine line = .ok record := by
    cases TaggingRecord.ofLine line <;> simp [Except.toOption]
  simp only [readTaggings, List.mem_filterMap, taken]

/-- Every row of a table that was read can be written. -/
theorem writable_of_mem_readTaggings {text : String} {record : TaggingRecord}
    (member : record ∈ readTaggings text) : record.Writable := by
  obtain ⟨line, row, read⟩ := mem_readTaggings_iff.mp member
  obtain ⟨kept, single⟩ := mem_rowLines row
  exact TaggingRecord.writable_of_ofLine kept single read

/-- The lines of a written table are its rows, whether or not the last line is ended. -/
theorem rowLines_written (named : ∀ record ∈ records, record.Named) {text : List Char}
    (written : text = Text.joined '\n' (records.map TaggingRecord.line) ∨
      text = Text.joined '\n' (records.map TaggingRecord.line) ++ ['\n']) :
    rowLines text = records.map TaggingRecord.line := by
  have each : ∀ line ∈ records.map TaggingRecord.line, Text.IsLine line := by
    intro line member
    obtain ⟨record, among, rfl⟩ := List.mem_map.mp member
    exact TaggingRecord.isLine_line (named record among)
  have kept : (records.map TaggingRecord.line).filter (!isSkipped ·) =
      records.map TaggingRecord.line := by
    rw [List.filter_eq_self]
    intro line member
    obtain ⟨record, among, rfl⟩ := List.mem_map.mp member
    simp [TaggingRecord.isSkipped_line (named record among)]
  rcases written with rfl | rfl
  · rw [rowLines, Text.lines_joined each, kept]
  · by_cases empty : records.map TaggingRecord.line = []
    · rw [empty]
      rfl
    · rw [rowLines, Text.lines_joined_ended empty each, kept]

/-- A written table is read back. -/
theorem readTaggings_written (writable : ∀ record ∈ records, record.Writable)
    (unquoted : ∀ record ∈ records, record.Unquoted) {text : String}
    (rows : rowLines text.toList = records.map TaggingRecord.line) :
    readTaggings text = records := by
  rw [readTaggings, rows, List.filterMap_map]
  have each : ∀ record ∈ records,
      (TaggingRecord.ofLine record.line).toOption = some record := by
    intro record member
    rw [TaggingRecord.ofLine_line (writable record member) (unquoted record member)]
    rfl
  exact (List.filterMap_congr each).trans List.filterMap_some

end Table

end FontScores
