import Mathlib
import FontScores.Proofs.Table.Taggings

/-!
# The normal form of a tagging table

A table that was read can be written again, row by row, and read again.  The reader takes locations
in two shapes, with and without quotes around them, and the writer makes only the first one.  A
location that was read from between quotes has no quote in it.  One that was read without them ends
at the first comma, so it has a single axis, whose name may hold a quote; between the quotes that
the writer puts around it, such a location ends too early and the row is refused.

So writing and reading again loses exactly the rows with a quote in the name of an axis.  All others
come back as they were and in the same order.
-/

namespace FontScores

open Text (cutFirst cutAll isBlank trimStart)

/-! ## Locations from a single field -/

/-- A location that was read from a text without commas has one axis. -/
theorem Location.single_of_ofSpec {spec : List Char} {location : Location}
    (read : ofSpec spec = .ok location) (single : ',' ∉ spec) :
    ∃ coordinate, location.coordinates = [coordinate] := by
  obtain ⟨before, after, cut, _, each⟩ := ofSpec_eq_ok_iff.mp read
  obtain ⟨rfl, _⟩ := Text.cutFirst_eq_some_iff.mp cut
  simp only [List.mem_append, List.mem_cons, not_or] at single
  rw [Text.cutAll_of_not_mem single.1, Text.cutAll_of_not_mem single.2.2] at each
  obtain ⟨coordinate, _, _, none, same⟩ := List.forall₂_cons_left_iff.mp each
  obtain rfl := List.forall₂_nil_left_iff.mp none
  exact ⟨coordinate, same⟩

namespace TaggingRecord

variable {record : TaggingRecord}

instance (record : TaggingRecord) : Decidable record.Unquoted :=
  inferInstanceAs (Decidable (∀ location ∈ record.location, _))

/-- The text of a location ends at the next quote if it began with one, and else at the next
comma. -/
theorem separator_of_splitLocation {rest spec after : List Char}
    (cut : splitLocation rest = .ok (spec, after)) : '"' ∉ spec ∨ ',' ∉ spec := by
  simp only [splitLocation] at cut
  split at cut
  · split at cut
    · cases cut
    next found =>
      split at cut
      · obtain ⟨rfl, rfl⟩ := Prod.mk.inj (Except.ok.inj cut)
        exact .inl (Text.cutFirst_eq_some_iff.mp found).2
      · cases cut
  · split at cut
    · cases cut
    next found =>
      obtain ⟨rfl, rfl⟩ := Prod.mk.inj (Except.ok.inj cut)
      exact .inr (Text.cutFirst_eq_some_iff.mp found).2

/-- What can be read and not be read again once it is written: a single axis, whose name holds a
quote and no comma. -/
structure Quoted (record : TaggingRecord) (location : Location) (axis : AxisTag) (value : Single) :
    Prop where
  located : record.location = some location
  single : location.coordinates = [(axis, value)]
  quote : '"' ∈ axis.name
  joined : ',' ∉ axis.name

theorem unquoted_or_quoted_of_ofLine {line : List Char} (read : ofLine line = .ok record) :
    record.Unquoted ∨ ∃ location axis value, record.Quoted location axis value := by
  obtain ⟨_, _, spec, _, _, _, _, cut, _, _, _, _, _, _, located⟩ := fields_of_ofLine read
  rcases separator_of_splitLocation cut with unquoted | joined
  · exact .inl fun location held axis member inside =>
      unquoted (mem_of_readLocation located held member inside)
  · rw [or_iff_not_imp_left]
    intro quoted
    simp only [Unquoted, not_forall, not_not] at quoted
    obtain ⟨location, held, axis, member, quote⟩ := quoted
    obtain ⟨⟨only, value⟩, shape⟩ := Location.single_of_ofSpec
      (ofSpec_of_readLocation located held) fun comma => joined (Text.mem_of_mem_trim comma)
    obtain rfl : axis = only := by simpa [Location.axes, shape] using member
    exact ⟨location, axis, value, held, shape, quote, fun comma =>
      joined (mem_of_readLocation located held member comma)⟩

/-! ## Rows with a quote in them -/

/-- Between quotes a location ends at the first quote, and a comma has to follow it. -/
theorem splitLocation_inner_quote {front : List Char} {c : Char} (after : List Char)
    (first : '"' ∉ front) (visible : isBlank c = false) (other : c ≠ ',') :
    splitLocation ('"' :: (front ++ '"' :: c :: after)) = .error .missingCommaAfterLocation := by
  have quote : trimStart ('"' :: (front ++ '"' :: c :: after)) =
      '"' :: (front ++ '"' :: c :: after) := Text.trimStart_cons (by rfl) _
  have cut : cutFirst '"' (front ++ '"' :: c :: after) = some (front, c :: after) :=
    Text.cutFirst_eq_some_iff.mpr ⟨rfl, first⟩
  simp [splitLocation, quote, cut, Text.trimStart_cons visible after, other]

/-- Behind the first quote in the only axis there is more of its name, or the sign behind it. -/
theorem Quoted.spec_eq {location : Location} {axis : AxisTag} {value : Single}
    (quoted : record.Quoted location axis value) :
    ∃ front c after, location.spec = front ++ '"' :: c :: after ∧ '"' ∉ front ∧
      isBlank c = false ∧ c ≠ ',' := by
  obtain ⟨front, back, shape, first⟩ := List.eq_append_cons_of_mem quoted.quote
  have written : location.spec = axis.name ++ '@' :: Numeral.write value := by
    simp [Location.spec, Location.axes, quoted.single, Text.joined]
  cases back with
  | nil => exact ⟨front, '@', Numeral.write value, by simp [written, shape], first, rfl, by decide⟩
  | cons c back =>
    have member : c ∈ axis.name := by simp [shape]
    exact ⟨front, c, back ++ '@' :: Numeral.write value, by simp [written, shape], first,
      AxisTag.visible_of_mem_name member, fun comma => quoted.joined (comma ▸ member)⟩

/-- The line of a row with a quote in its axis is refused. -/
theorem ofLine_line_of_quoted (named : record.Named) {location : Location} {axis : AxisTag}
    {value : Single} (quoted : record.Quoted location axis value) :
    ofLine record.line = .error .missingCommaAfterLocation := by
  obtain ⟨front, c, after, shape, first, visible, other⟩ := quoted.spec_eq
  have cut (rest : List Char) : cutFirst ',' (record.family.toList ++ ',' :: rest) =
      some (record.family.toList, rest) :=
    Text.cutFirst_eq_some_iff.mpr ⟨rfl, named.unseparated⟩
  have refused (rest : List Char) : splitLocation (locationField record.location ++ rest) =
      .error .missingCommaAfterLocation := by
    rw [quoted.located, locationField, shape]
    simpa using splitLocation_inner_quote (after ++ '"' :: rest) first visible other
  rw [line_eq, ofLine, joinedFields, cut]
  simp only [refused]
  rfl

/-- A row that was read comes back from its line unless it has a quote in an axis. -/
theorem toOption_ofLine_line {text : String} (member : record ∈ Table.readTaggings text) :
    (ofLine record.line).toOption = if record.Unquoted then some record else none := by
  have writable := Table.writable_of_mem_readTaggings member
  obtain ⟨line, _, read⟩ := Table.mem_readTaggings_iff.mp member
  split
  next unquoted =>
    rw [ofLine_line writable unquoted]
    rfl
  next quoted =>
    obtain ⟨location, axis, value, quoted⟩ :=
      (unquoted_or_quoted_of_ofLine read).resolve_left quoted
    rw [ofLine_line_of_quoted writable.shaped.named quoted]
    rfl

end TaggingRecord

/-! ## Whole tables -/

namespace Table

/-- Rows written as a table, one to a line. -/
def writeRows (rows : List TaggingRecord) : String :=
  String.ofList (Text.joined '\n' (rows.map TaggingRecord.line))

/-- Writing the rows of a table and reading them again, whether or not the last line is ended, keeps
exactly those without a quote in the name of an axis, in the order in which they were.  So the
written table is a normal form of the one that was read exactly when there is no such quote. -/
theorem readTaggings_writeRows (text : String) :
    let rows := readTaggings text
    let kept := rows.filter (·.Unquoted)
    readTaggings (writeRows rows) = kept ∧ readTaggings (writeRows rows ++ "\n") = kept ∧
      (readTaggings (writeRows rows) = rows ↔ ∀ row ∈ rows, row.Unquoted) := by
  intro rows kept
  have again {written : String} (lines : rowLines written.toList = rows.map TaggingRecord.line) :
      readTaggings written = kept := by
    rw [readTaggings, lines, List.filterMap_map]
    refine Eq.trans (List.filterMap_congr fun row member => ?_)
      (congrFun List.filterMap_eq_filter rows)
    simpa [Option.guard] using TaggingRecord.toOption_ofLine_line member
  have named : ∀ row ∈ rows, row.Named := fun row member =>
    (writable_of_mem_readTaggings member).shaped.named
  have plain : readTaggings (writeRows rows) = kept :=
    again (rowLines_written named (.inl (by simp [writeRows])))
  refine ⟨plain, again (rowLines_written named (.inr (by simp [writeRows]))), ?_⟩
  rw [plain, List.filter_eq_self]
  simp

/-- A quote in the name of an axis is read outside quotes, and not read again between them. -/
theorem quoted_axis_lost :
    let rows := readTaggings "Flex,a\"b@400,/Expressive/Loud,30"
    writeRows rows = "Flex,\"a\"b@400\",/Expressive/Loud,30" ∧
      readTaggings (writeRows rows) ≠ rows := by
  decide +kernel

end Table

end FontScores
