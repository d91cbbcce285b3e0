import Mathlib
import FontScores.Platform
import FontScores.Proofs.Json.Reading
import FontScores.Proofs.Library.Reimport
import FontScores.Proofs.Service.Steps

/-!
# What the service stores can be taken in again, if it is finite

A request to add a score builds its row without the checks of the table's reader.  Most of them are
made good: the family and the tag have to be known, so they are names that a table can hold, and the
location went through the reader of locations.  Nobody checks the score.  A numeral that is too
large for a score is read as infinity, it is stored and exported like any other score, and its row
is passed over when the table is taken in.

So the exported table is taken in completely exactly if all stored scores are finite, and then the
library is restored.
-/

namespace FontScores

/-- All names of the registry can be written into a table, and quotes do not occur in the names of
axes. -/
structure Registry.Plain (registry : Registry) : Prop where
  families : ∀ family ∈ registry.families, Table.IsField family.name.toList ∧
    ',' ∉ family.name.toList ∧ family.name.toList.head? ≠ some '#'
  tags : ∀ tag, registry.tags.contains tag = true → Table.IsField tag.toList
  axes : ∀ family ∈ registry.families, ∀ axis ∈ family.axes, '"' ∉ axis.tag.name

/-! ## Rows that cannot be read -/

namespace Library

variable {library : Library} {registry : Registry}

/-- Each row whose score is not finite is lost when a written table is taken in. -/
theorem skipped_of_not_finite {records : List TaggingRecord} {text : String}
    (written : text.toList = Text.joined '\n' (records.map TaggingRecord.line))
    (shaped : ∀ record ∈ records, record.Shaped) (unquoted : ∀ record ∈ records, record.Unquoted)
    {lost : TaggingRecord} (among : lost ∈ records) (infinite : lost.score.isFinite = false) :
    (library.importTable text).1.skipped ≠ 0 := by
  have lines : Table.rowLines text.toList = records.map TaggingRecord.line :=
    Table.rowLines_written (fun record row => (shaped record row).named) (.inl written)
  have unread : (TaggingRecord.ofLine lost.line).toOption = none :=
    TaggingRecord.ofLine_line_of_not_finite (shaped lost among) (unquoted lost among) infinite
  -- The line counts as a row of the table, but it yields no row that could be added.
  have fewer : (Table.readTaggings text).length < (Table.rowLines text.toList).length := by
    rw [Table.readTaggings, List.length_filterMap_lt_length_iff_exists, lines]
    exact ⟨lost.line, List.mem_map_of_mem among, unread⟩
  have taken := addRecords_le_length library (Table.readTaggings text)
  change (Table.rowLines text.toList).length - (library.addRecords (Table.readTaggings text)).1 ≠ 0
  omega

end Library

/-! ## What requests store -/

namespace TaggingRecord

/-- The location of the row, if it has one, can be written. -/
def Located (record : TaggingRecord) : Prop := ∀ location ∈ record.location, location.Writable

end TaggingRecord

namespace Service

open Library

theorem located_of_location? {written : Option String} {location : Option Location}
    (read : location? written = .ok location) : ∀ found ∈ location, found.Writable := by
  unfold location? at read
  split at read
  · cases read
    nofun
  · rintro found ⟨⟩
    cases spelled : Location.ofSpec (Text.trim (written.getD "").toList) with
    | error cause => simp [spelled, Except.map] at read
    | ok other =>
      obtain rfl : other = found := by simpa [spelled, Except.map] using read
      exact Location.writable_of_ofSpec spelled

/-- Every location that is stored by requests went through the reader. -/
theorem located_answerAll [UndefinedSign] (registry : Registry) (requests : List Request) :
    (answerAll (ofRegistry registry) requests).2.Sound ∧
      (answerAll (ofRegistry registry) requests).2.Lists TaggingRecord.Located := by
  refine answerAll_invariant (FromRow TaggingRecord.Located)
    (P := fun library => library.Sound ∧ library.Lists TaggingRecord.Located)
    sound_lists_edited ?_ ⟨sound_ofRegistry registry, lists_ofRegistry registry⟩
  rintro request _ _ ⟨body, location, _, read, rfl⟩
  exact ⟨body.record location, located_of_location? read, rfl⟩

theorem registry_answerAll [UndefinedSign] (library : Library) (requests : List Request) :
    (answerAll library requests).2.registry = library.registry :=
  answerAll_invariant (fun _ => True) (P := fun after => after.registry = library.registry)
    (fun same edited => by cases edited <;> exact same) (fun _ _ _ _ => trivial) rfl

theorem families_answerAll [UndefinedSign] (registry : Registry) (requests : List Request) :
    (answerAll (ofRegistry registry) requests).2.fonts.map (fun font => (font.name, font.axes)) =
      registry.families.map fun font => (font.name, font.axes) :=
  answerAll_invariant (fun _ => True)
    (P := fun after => after.fonts.map (fun font => (font.name, font.axes)) =
      registry.families.map fun font => (font.name, font.axes))
    (fun same edited => (families_edited edited).trans same) (fun _ _ _ _ => trivial)
    (by simp [ofRegistry, Font.untagged])

end Service

/-- With plain names, a row of the table has the shape of a line. -/
theorem Library.Sound.shaped_exported {library : Library} {registry : Registry}
    (sound : library.Sound) (located : library.Lists TaggingRecord.Located)
    (plain : registry.Plain) (common : library.registry = registry)
    (families : library.fonts.map (fun font => (font.name, font.axes)) =
      registry.families.map fun font => (font.name, font.axes))
    {record : TaggingRecord} (row : record ∈ Table.records library.fonts) : record.Shaped := by
  have named := sound.housed.named_exported ⟨plain.families, plain.tags⟩ common families row
  obtain ⟨font, present, tagging, held, row⟩ := Table.mem_records_iff.mp row
  exact ⟨named.family, named.unseparated, named.uncommented, named.tag,
    (located font present tagging held).rows record row⟩

/-! ## Export and import -/

namespace Service

open Library

/-- All scores of the library are finite. -/
def AllFinite (library : Library) : Prop :=
  ∀ record ∈ Table.records library.fonts, record.score.isFinite = true

section Exported

variable [UndefinedSign] {registry : Registry} (plain : registry.Plain) (requests : List Request)

include plain

/-- The rows that are exported after any requests are lines that are cut in the right places. -/
theorem shaped_answerAll {record : TaggingRecord}
    (row : record ∈ Table.records (answerAll (ofRegistry registry) requests).2.fonts) :
    record.Shaped ∧ record.Unquoted := by
  obtain ⟨sound, located⟩ := located_answerAll registry requests
  have families := families_answerAll registry requests
  exact ⟨sound.shaped_exported located plain (registry_answerAll _ requests) families row,
    sound.unquoted_exported families plain.axes row⟩

theorem restored_of_allFinite (finite : AllFinite (answerAll (ofRegistry registry) requests).2) :
    (answerAll (ofRegistry registry) requests).2.Restored ((ofRegistry registry).importTable
      (answerAll (ofRegistry registry) requests).2.exportTable) := by
  obtain ⟨sound, located⟩ := located_answerAll registry requests
  refine restored_of_sound sound ?_ (registry_answerAll _ requests)
    (families_answerAll registry requests) plain.axes (.inl rfl)
  intro font present tagging held
  refine ⟨(located font present tagging held).listed, fun record row => ?_⟩
  have listed := Table.mem_records_iff.mpr ⟨font, present, tagging, held, row⟩
  exact (shaped_answerAll plain requests listed).1.writable (finite record listed)

theorem skipped_eq_zero_iff_allFinite :
    ((ofRegistry registry).importTable
      (answerAll (ofRegistry registry) requests).2.exportTable).1.skipped = 0 ↔
      AllFinite (answerAll (ofRegistry registry) requests).2 := by
  constructor
  · intro all record row
    by_contra infinite
    refine skipped_of_not_finite ?_ (fun _ row => (shaped_answerAll plain requests row).1)
      (fun _ row => (shaped_answerAll plain requests row).2) row (by simpa using infinite) all
    simp [exportTable, Table.writeTaggings]
  · exact fun finite => (restored_of_allFinite plain requests finite).skipped

end Exported

theorem answer_export [UndefinedSign] {asking : Request}
    (path : Route.ofPath? asking.path = some .exportTaggings)
    (get : asking.method = "GET") (library : Library) :
    answer library asking = (.ok library.exportTable, library) := by
  simp [answer, path, Route.isGet, get, answerRoute]

/-- One family and one tag. -/
def loudRegistry : Registry := ⟨
  TagCatalogue.empty.register (TagDefinition.named "/Expressive/Loud"),
  [.untagged "Roboto" []], RuleTable.ofRows [], EmbeddingIndex.empty⟩

theorem plain_loudRegistry : loudRegistry.Plain := by
  constructor
  case families =>
    intro family member
    obtain rfl := List.mem_singleton.mp member
    exact ⟨⟨by decide, by decide, by decide⟩, by decide, by decide⟩
  case tags =>
    intro tag known
    obtain rfl : "/Expressive/Loud" = tag := by
      simpa [loudRegistry, TagCatalogue.contains, TagCatalogue.get?, TagCatalogue.register,
        TagCatalogue.enter, TagCatalogue.empty, TagDefinition.named] using known
    exact ⟨by decide, by decide, by decide⟩
  case axes =>
    intro family member
    obtain rfl := List.mem_singleton.mp member
    intro axis within
    cases within

/-- Whatever requests came in, an empty library takes in the exported table completely exactly if
all stored scores are finite, and then it holds the same taggings. -/
theorem import_of_answered_export [UndefinedSign] (registry : Registry) (plain : registry.Plain)
    (requests : List Request) (asking : Request)
    (path : Route.ofPath? asking.path = some .exportTaggings) (get : asking.method = "GET") :
    let library := (answerAll (ofRegistry registry) requests).2
    ∃ text, (answer library asking).1 = .ok text ∧
      (((ofRegistry registry).importTable text).1.skipped = 0 ↔ AllFinite library) ∧
      (AllFinite library → library.Restored ((ofRegistry registry).importTable text)) := by
  intro library
  refine ⟨library.exportTable, ?_, skipped_eq_zero_iff_allFinite plain requests,
    restored_of_allFinite plain requests⟩
  rw [answer_export path get]

/-- Once a score was added to an empty library, its row is the only one. -/
theorem mem_records_loud_iff [UndefinedSign] {adding : Request} {score : Single}
    (asked : adding.addition? = some ⟨"Roboto", "/Expressive/Loud", score, none⟩)
    {record : TaggingRecord} :
    record ∈ Table.records (answerAll (ofRegistry loudRegistry) [adding]).2.fonts ↔
      record = ⟨"Roboto", none, "/Expressive/Loud", score⟩ := by
  have stored : (answerAll (ofRegistry loudRegistry) [adding]).2.fonts =
      [⟨"Roboto", [], [.fixed ⟨"Roboto", "/Expressive/Loud", score⟩]⟩] := by
    rw [answerAll_cons, answer_of_addition? asked]
    rfl
  rw [stored]
  simp [Table.mem_records_iff, Tagging.records]

/-- A score is added and exported, and the exported table is taken in. -/
theorem import_of_answered_export_of_loud :
    let adding : Request := ⟨"POST", "/taggings/add", some "application/json",
      "\x7b\"family\":\"Roboto\",\"tag\":\"/Expressive/Loud\",\"score\":95\x7d"⟩
    let asking : Request := ⟨"GET", "/taggings/export", none, ""⟩
    let library := (answerAll (ofRegistry loudRegistry) [adding]).2
    loudRegistry.Plain ∧ Route.ofPath? asking.path = some .exportTaggings ∧
    ∃ text, (answer library asking).1 = .ok text ∧
      ((ofRegistry loudRegistry).importTable text).1.skipped = 0 ∧
      library.Restored ((ofRegistry loudRegistry).importTable text) := by
  intro adding asking library
  have asked : adding.addition? =
      some ⟨"Roboto", "/Expressive/Loud", Binary.ofNat _ false 95, none⟩ := by
    have body : Json.Document.ofText adding.body = ⟨.object
        [(some "family", .text (some "Roboto")), (some "tag", .text (some "/Expressive/Loud")),
          (some "score", .number (some (.natural 95)))], false⟩ := by
      dsimp only [adding]
      refine Json.ofText_eq (Json.gives_object rfl (by decide) ?_)
      refine Json.gives_members rfl rfl rfl (Json.gives_text rfl rfl) (.inr ⟨_, rfl, ?_⟩)
      refine Json.gives_members rfl rfl rfl (Json.gives_text rfl rfl) (.inr ⟨_, rfl, ?_⟩)
      exact Json.gives_members rfl rfl rfl (Json.gives_numeral rfl rfl rfl rfl) (.inl ⟨rfl, rfl⟩)
    exact Request.body?_eq_some_iff.mpr ⟨by decide, by decide +kernel, by rw [body]; rfl⟩
  have finite : AllFinite library := by
    intro record row
    rw [(mem_records_loud_iff asked).mp row]
    decide +kernel
  have path : Route.ofPath? asking.path = some .exportTaggings := by decide
  obtain ⟨text, answered, complete, restored⟩ :=
    import_of_answered_export loudRegistry plain_loudRegistry [adding] asking path rfl
  exact ⟨plain_loudRegistry, path, text, answered, complete.mpr finite, restored finite⟩

/-- A score that is too large is added as infinity, and its row is skipped when the exported table
is taken in. -/
theorem infinite_score_lost :
    let adding : Request := ⟨"POST", "/taggings/add", some "application/json",
      "\x7b\"family\":\"Roboto\",\"tag\":\"/Expressive/Loud\",\"score\":1e39\x7d"⟩
    let library := (answerAll (ofRegistry loudRegistry) [adding]).2
    loudRegistry.Plain ∧ (answer (ofRegistry loudRegistry) adding).1 = .changed true ∧
      ((ofRegistry loudRegistry).importTable library.exportTable).1.skipped ≠ 0 := by
  intro adding library
  have asked : adding.addition? =
      some ⟨"Roboto", "/Expressive/Loud", Binary.infinite .single false, none⟩ := by
    have numeral : Json.Numeral.value? ⟨false, ['1'], none, some (false, ['3', '9'])⟩ =
        some (.real (Binary.ofDecimal .double false 1 39)) := by
      decide +kernel
    have tooLarge : (Binary.ofDecimal .double false 1 39).convert .single =
        .infinite .single false := by
      decide +kernel
    have body : Json.Document.ofText adding.body = ⟨.object
        [(some "family", .text (some "Roboto")), (some "tag", .text (some "/Expressive/Loud")),
          (some "score", .number (some (.real (Binary.ofDecimal .double false 1 39))))],
        false⟩ := by
      dsimp only [adding]
      refine Json.ofText_eq (Json.gives_object rfl (by decide) ?_)
      refine Json.gives_members rfl rfl rfl (Json.gives_text rfl rfl) (.inr ⟨_, rfl, ?_⟩)
      refine Json.gives_members rfl rfl rfl (Json.gives_text rfl rfl) (.inr ⟨_, rfl, ?_⟩)
      exact Json.gives_members rfl rfl rfl (Json.gives_numeral rfl rfl rfl numeral)
        (.inl ⟨rfl, rfl⟩)
    refine Request.body?_eq_some_iff.mpr ⟨by decide, by decide +kernel, ?_⟩
    rw [body, ← tooLarge]
    rfl
  refine ⟨plain_loudRegistry, ?_, fun complete => ?_⟩
  · rw [answer_of_addition? asked]
    rfl
  · have finite := (skipped_eq_zero_iff_allFinite plain_loudRegistry [adding]).mp complete
    exact absurd (finite _ ((mem_records_loud_iff asked).mpr rfl)) (by decide)

end Service

end FontScores
