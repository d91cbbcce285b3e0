import Mathlib
import FontScores.Proofs.Library.Rearrangement

/-!
# Which taggings a table gives back

A library accepts a tagging whatever its axes are called and however many scores it has, but the
table is not always able to say what was accepted.  The name of an axis may hold any of the
characters that separate the parts of a location, a location need not have an axis, and a variable
tagging need not have a score.  Then the rows of the tagging, if there are any, are read as
something else or not at all.

So a tagging that was accepted comes back from the exported table only if it is representable.  It
does come back if it is, unless another tagging of the library has a quote in the name of an axis:
what stands behind that quote is read as a part of the tag, and may be the row of another slot.
-/

namespace FontScores

/-! ## Representable taggings -/

namespace Location

/-- The characters that end the name of an axis in a row. -/
def separators : List Char := [',', '@', '"']

/-- The location has an axis, and no axis has a separator in its name. -/
def Representable (location : Location) : Prop :=
  location.axes ≠ [] ∧ ∀ axis ∈ location.axes, ∀ c ∈ axis.name, c ∉ separators

variable {location : Location}

theorem Representable.unquoted (representable : location.Representable) :
    ∀ axis ∈ location.axes, '"' ∉ axis.name :=
  fun axis member inside => representable.2 axis member _ inside (by simp [separators])

theorem Representable.writable (representable : location.Representable)
    (finite : ∀ coordinate ∈ location.coordinates, coordinate.2.isFinite = true) :
    location.Writable := by
  constructor
  case nonempty => simpa [axes] using representable.1
  case finite => exact finite
  case unseparated =>
    intro axis member c inside
    have plain := representable.2 axis member c inside
    simp only [separators, List.mem_cons, not_or] at plain
    exact ⟨plain.1, plain.2.1⟩

theorem Writable.representable (writable : location.Writable)
    (unquoted : ∀ axis ∈ location.axes, '"' ∉ axis.name) : location.Representable := by
  refine ⟨by simpa [axes] using writable.nonempty, fun axis member c inside => ?_⟩
  obtain ⟨comma, sign⟩ := writable.unseparated axis member c inside
  have quote : c ≠ '"' := fun same => unquoted axis member (same ▸ inside)
  simp [separators, comma, sign, quote]

end Location

namespace Tagging

/-- The tagging is static, or it has scores and all of them are at representable locations. -/
def Representable : Tagging → Prop
  | fixed _ => True
  | varying tagging => tagging.entries ≠ [] ∧ ∀ entry ∈ tagging.entries, entry.1.Representable

/-- All scores and all coordinates of the tagging are finite. -/
structure Finite (tagging : Tagging) : Prop where
  scores : ∀ record ∈ tagging.records, record.score.isFinite = true
  coordinates : ∀ location ∈ tagging.locations, ∀ coordinate ∈ location.coordinates,
    coordinate.2.isFinite = true

/-- No axis of the tagging's locations has a double quote in its name. -/
def Unquoted (tagging : Tagging) : Prop :=
  ∀ location ∈ tagging.locations, ∀ axis ∈ location.axes, '"' ∉ axis.name

variable {tagging : Tagging}

theorem Unquoted.record (unquoted : tagging.Unquoted) {record : TaggingRecord}
    (row : record ∈ tagging.records) : record.Unquoted :=
  fun location located => unquoted location (mem_locations_of_mem_records row located)

theorem Representable.listed (representable : tagging.Representable) : tagging.records ≠ [] := by
  cases tagging with
  | fixed tagging => exact List.cons_ne_nil _ _
  | varying tagging => simpa [records] using representable.1

theorem Representable.location (representable : tagging.Representable) {location : Location}
    (member : location ∈ tagging.locations) : location.Representable := by
  cases tagging with
  | fixed tagging => cases member
  | varying tagging =>
    obtain ⟨entry, stored, rfl⟩ := List.mem_map.mp member
    exact representable.2 entry stored

/-- The rows of a representable tagging are written in a way that can be read. -/
theorem Representable.rows (representable : tagging.Representable) (finite : tagging.Finite)
    {record : TaggingRecord} (row : record ∈ tagging.records) (named : record.Named) :
    record.Writable ∧ record.Unquoted := by
  have located (location : Location) (held : location ∈ record.location) :
      location ∈ tagging.locations := mem_locations_of_mem_records row held
  constructor
  · apply named.writable (finite.scores record row)
    intro location held
    exact (representable.location (located location held)).writable
      (finite.coordinates location (located location held))
  · intro location held
    exact (representable.location (located location held)).unquoted

/-- A tagging whose rows can all be read, and there are some, is representable. -/
theorem Lists.representable
    (lists : tagging.Lists fun record => record.Writable ∧ record.Unquoted) :
    tagging.Representable := by
  cases tagging with
  | fixed tagging => trivial
  | varying tagging =>
    refine ⟨by simpa [records] using lists.listed, fun entry stored => ?_⟩
    obtain ⟨writable, unquoted⟩ := lists.rows _ (List.mem_map_of_mem stored)
    exact (writable.location entry.1 rfl).representable (unquoted entry.1 rfl)

end Tagging

/-! ## The rows of a slot in a table -/

section Rows

variable {family tag : String}

theorem rowsOf_append (one other : List TaggingRecord) :
    rowsOf family tag (one ++ other) = rowsOf family tag one ++ rowsOf family tag other :=
  List.filter_append one other

theorem rowsOf_records_same (tagging : Tagging) :
    rowsOf tagging.font tagging.tag tagging.records = tagging.records :=
  List.filter_eq_self.mpr fun _ row => decide_eq_true (Tagging.slot_of_mem_records row)

theorem rowsOf_records_other {one other : Tagging} (apart : one.Apart other) :
    rowsOf one.font one.tag other.records = [] := by
  refine List.filter_eq_nil_iff.mpr fun record row same => ?_
  obtain ⟨font, tag⟩ := Tagging.slot_of_mem_records row
  obtain ⟨sameFont, sameTag⟩ := of_decide_eq_true same
  exact apart (sameFont.symm.trans font) (sameTag.symm.trans tag)

/-- Among the rows of taggings for different slots, those of one slot are the rows of its
tagging. -/
theorem rowsOf_flatMap_records {taggings : List Tagging} {tagging : Tagging}
    (apart : taggings.Pairwise Tagging.Apart) (member : tagging ∈ taggings) :
    rowsOf tagging.font tagging.tag (taggings.flatMap Tagging.records) = tagging.records := by
  induction taggings with
  | nil => cases member
  | cons first others ih =>
    obtain ⟨before, later⟩ := List.pairwise_cons.mp apart
    rw [List.flatMap_cons, rowsOf_append]
    rcases List.mem_cons.mp member with rfl | among
    · have none : rowsOf tagging.font tagging.tag (others.flatMap Tagging.records) = [] := by
        rw [rowsOf, List.filter_flatMap, List.flatMap_eq_nil_iff]
        exact fun other stored => rowsOf_records_other (before other stored)
      rw [rowsOf_records_same, none, List.append_nil]
    · rw [rowsOf_records_other (before tagging among).symm, List.nil_append, ih later among]

/-- Reading a written table loses rows of a slot or changes their locations, but it makes no row
of another slot. -/
theorem Table.rowsOf_readTaggings_written {records : List TaggingRecord}
    (named : ∀ record ∈ records, record.Named) (unquoted : ∀ record ∈ records, record.Unquoted)
    {text : String} (rows : rowLines text.toList = records.map TaggingRecord.line) :
    rowsOf family tag (readTaggings text) =
      (rowsOf family tag records).filterMap fun record =>
        (TaggingRecord.ofLine record.line).toOption := by
  rw [readTaggings, rows, List.filterMap_map, rowsOf, rowsOf, List.filter_filterMap,
    List.filterMap_filter]
  refine List.filterMap_congr fun record member => ?_
  cases read : TaggingRecord.ofLine record.line with
  | error cause => simp [read, Except.toOption]
  | ok found =>
    obtain ⟨family, tag⟩ :=
      TaggingRecord.slot_of_ofLine_line (named record member) (unquoted record member) read
    simp [read, Except.toOption, Option.filter, family, tag]

/-- With a quote in the name of an axis it can make one.  Here the axis is called `w@1"`, and what
stands behind its quote becomes a part of the tag. -/
example :
    let quote : AxisTag := ⟨AxisTag.filled [0x77, 0x40, 0x31, 0x22], _,
      (by simp [AxisTag.IsName] : AxisTag.IsName [0x77, 0x40, 0x31, 0x22]), rfl⟩
    let b : AxisTag := ⟨AxisTag.filled [0x62], _,
      (by simp [AxisTag.IsName] : AxisTag.IsName [0x62]), rfl⟩
    let w : AxisTag := ⟨AxisTag.filled [0x77], _,
      (by simp [AxisTag.IsName] : AxisTag.IsName [0x77]), rfl⟩
    let location : Location :=
      (Location.empty.insert quote (Binary.ofNat _ false 4)).insert b (Binary.ofNat _ false 5)
    let record : TaggingRecord := ⟨"Flex", some location, "T", Binary.ofNat _ false 7⟩
    (TaggingRecord.ofLine record.line).toOption =
      some ⟨"Flex", some (Location.empty.insert w (Binary.ofNat _ false 1)), "b@4,5\",T",
        Binary.ofNat _ false 7⟩ := by
  decide +kernel

end Rows

namespace Library

variable {library after : Library} {registry : Registry} {tagging : Tagging}

theorem Housed.rowsOf_records (housed : library.Housed) {family tag : String}
    (filled : library.slot? family tag = some tagging) :
    rowsOf family tag (Table.records library.fonts) = tagging.records := by
  obtain ⟨member, rfl, rfl⟩ := housed.slot?_eq_some_iff.mp filled
  have perm : (Table.inOrder library.fonts).Perm library.taggings := Table.inOrder_perm _
  rw [Table.records_eq]
  exact rowsOf_flatMap_records ((perm.pairwise_iff Tagging.Apart.symm).mpr housed.apart)
    (perm.symm.subset member)

/-! ## Sessions that end with a tagging -/

theorem run_add {operations : List Operation}
    (added : (library.run operations).add? tagging = some after) :
    library.run (operations ++ [.add tagging]) = after := by
  rw [run, List.foldl_append]
  change ((library.run operations).add tagging).2 = after
  rw [done?_eq_some_iff.mp added]

theorem axes_font?_run (library : Library) (operations : List Operation) (family : String) :
    ((library.run operations).font? family).map Font.axes =
      (library.font? family).map Font.axes :=
  run_invariant (fun _ => True)
    (P := fun after => (after.font? family).map Font.axes = (library.font? family).map Font.axes)
    (fun same edited => (axes_font?_edited edited family).trans same) (fun _ _ _ _ => trivial) rfl

/-- What is accepted behind some session is accepted by the library without taggings. -/
theorem isSome_add?_ofRegistry {operations : List Operation}
    (added : ((ofRegistry registry).run operations).add? tagging = some after) :
    ((ofRegistry registry).add? tagging).isSome = true := by
  obtain ⟨position, font, placed, known, fitting, _⟩ :=
    (arranged_run registry operations).isSome_add?_iff.mp (Option.isSome_of_eq_some added)
  -- The font has had the same axes since the session began.
  have axes := axes_font?_run (ofRegistry registry) operations tagging.font
  rw [font?_eq_some_iff.mpr ⟨position, placed⟩, Option.map_some] at axes
  obtain ⟨fresh, found, same⟩ := Option.map_eq_some_iff.mp axes.symm
  obtain ⟨place, first⟩ := font?_eq_some_iff.mp found
  refine (arranged_ofRegistry registry).isSome_add?_iff.mpr ⟨place, fresh, first, ?_, ?_, ?_⟩
  · rwa [registry_run] at known
  · intro location given
    rw [Font.fits_iff, same]
    exact Font.fits_iff.mp (fitting location given)
  · rw [← slot?_of_placed first, slot?_ofRegistry]

/-- A tagging that is there afterwards was there before, or it is the one that was added. -/
theorem Housed.mem_taggings_of_add? (housed : library.Housed)
    (added : library.add? tagging = some after) {other : Tagging}
    (member : other ∈ after.taggings) : other = tagging ∨ other ∈ library.taggings := by
  have edited : library.Edited (fun _ => True) after := edited_of_add? trivial added
  have later := housed_edited housed edited
  obtain ⟨_, filled, elsewhere⟩ := housed.arranged.slot?_add? added
  have held := later.slot?_eq_some_iff.mpr ⟨member, rfl, rfl⟩
  by_cases same : other.font = tagging.font ∧ other.tag = tagging.tag
  · rw [same.1, same.2, filled] at held
    exact .inl (Option.some.inj held).symm
  · rw [elsewhere _ _ fun font tag => same ⟨font, tag⟩] at held
    exact .inr (housed.slot?_eq_some_iff.mp held).1

/-! ## Export and import -/

theorem importTable_library (library : Library) (text : String) :
    (library.importTable text).2 = (library.addRecords (Table.readTaggings text)).2 := rfl

section Exported

variable (named : registry.Named) {operations : List Operation}

include named

theorem named_run {record : TaggingRecord}
    (row : record ∈ Table.records ((ofRegistry registry).run operations).fonts) :
    record.Named := by
  refine (housed_run registry operations).named_exported named (registry_run _ operations) ?_ row
  rw [families_run]
  simp [ofRegistry, Font.untagged]

theorem rowLines_run :
    Table.rowLines ((ofRegistry registry).run operations).exportTable.toList =
      (Table.records ((ofRegistry registry).run operations).fonts).map TaggingRecord.line := by
  refine Table.rowLines_written (fun _ => named_run named) (.inl ?_)
  simp [exportTable, Table.writeTaggings]

/-- Whatever a library without taggings takes in from an exported table is representable. -/
theorem representable_of_reimported {family tag : String}
    (filled : ((ofRegistry registry).importTable
      ((ofRegistry registry).run operations).exportTable).2.slot? family tag = some tagging) :
    tagging.Representable := by
  rw [importTable_library] at filled
  have readable : ∀ record ∈
      Table.readTaggings ((ofRegistry registry).run operations).exportTable,
      record.Writable ∧ record.Unquoted := by
    intro record row
    refine ⟨Table.writable_of_mem_readTaggings row, ?_⟩
    obtain ⟨line, member, read⟩ := Table.mem_readTaggings_iff.mp row
    rw [rowLines_run named] at member
    obtain ⟨written, listed, rfl⟩ := List.mem_map.mp member
    exact TaggingRecord.unquoted_of_ofLine_line (named_run named listed) read
  -- A tagging that was put together from such rows is representable, and there are no others.
  obtain ⟨sound, lists⟩ := addRecords_invariant
    (FromRow fun record => record.Writable ∧ record.Unquoted) sound_lists_edited
    (fun record row => ⟨record, readable record row, rfl⟩)
    ⟨sound_ofRegistry registry, lists_ofRegistry registry⟩
  obtain ⟨member, _⟩ := sound.housed.slot?_eq_some_iff.mp filled
  obtain ⟨font, among, held⟩ := List.mem_flatMap.mp member
  exact (lists font among tagging held).representable

/-- A representable tagging comes back from the exported table to a library that accepts it. -/
theorem reimported_of_representable
    (filled : ((ofRegistry registry).run operations).slot? tagging.font tagging.tag = some tagging)
    (accepted : ((ofRegistry registry).add? tagging).isSome = true)
    (unquoted : ∀ other ∈ ((ofRegistry registry).run operations).taggings, other.Unquoted)
    (separate : tagging.Separate) (finite : tagging.Finite)
    (representable : tagging.Representable) :
    ((ofRegistry registry).importTable
      ((ofRegistry registry).run operations).exportTable).2.slot? tagging.font tagging.tag =
        some tagging := by
  obtain ⟨fresh, added⟩ := Option.isSome_iff_exists.mp accepted
  have plain : ∀ record ∈ Table.records ((ofRegistry registry).run operations).fonts,
      record.Unquoted := by
    intro record row
    obtain ⟨font, present, other, held, row⟩ := Table.mem_records_iff.mp row
    exact (unquoted other (List.mem_flatMap.mpr ⟨font, present, held⟩)).record row
  have own := (housed_run registry operations).rowsOf_records filled
  -- The rows of the slot are read as they were written, and there are no others for it.
  have rows : rowsOf tagging.font tagging.tag
      (Table.readTaggings ((ofRegistry registry).run operations).exportTable) =
        tagging.records := by
    rw [Table.rowsOf_readTaggings_written (fun _ => named_run named) plain (rowLines_run named),
      own]
    refine (List.filterMap_congr fun record row => ?_).trans List.filterMap_some
    have listed := List.mem_of_mem_filter (own.symm ▸ row : record ∈ rowsOf _ _ _)
    obtain ⟨writable, unquoted⟩ := representable.rows finite row (named_run named listed)
    rw [TaggingRecord.ofLine_line writable unquoted]
    rfl
  -- So the slot is filled as if the table had no other rows.
  have alone := rowsOf_records_same tagging
  have same := ((arranged_ofRegistry registry).slot_addRecords_congr (rows.trans alone.symm)).2
  rw [addRecords_records representable.listed separate added] at same
  rw [importTable_library]
  exact same.trans ((arranged_ofRegistry registry).slot?_add? added).2.1

end Exported

/-- When a tagging was accepted behind any session, and the table that the library then exports is
taken in by a library without taggings, what is in the slot of the tagging is representable.  If no
other tagging has a quote in the name of an axis, the slot holds the tagging with all its scores
exactly if the tagging is representable. -/
theorem accepted_tagging_reimported (registry : Registry) (named : registry.Named)
    (operations : List Operation) (tagging : Tagging) (pushed : tagging.Pushed)
    (finite : tagging.Finite) (after : Library)
    (added : ((ofRegistry registry).run operations).add? tagging = some after) :
    let again := ((ofRegistry registry).importTable after.exportTable).2
    (∀ found, again.slot? tagging.font tagging.tag = some found → found.Representable) ∧
      ((∀ other ∈ ((ofRegistry registry).run operations).taggings, other.Unquoted) →
        (again.slot? tagging.font tagging.tag = some tagging ↔ tagging.Representable)) := by
  intro again
  have housed := housed_run registry operations
  have accepted := isSome_add?_ofRegistry added
  have filled := (housed.arranged.slot?_add? added).2.1
  have members (other : Tagging) (member : other ∈ after.taggings) :=
    housed.mem_taggings_of_add? added member
  obtain rfl := run_add added
  have found (found : Tagging) (held : again.slot? tagging.font tagging.tag = some found) :
      found.Representable := representable_of_reimported named held
  refine ⟨found, fun unquoted => ⟨found tagging, fun representable => ?_⟩⟩
  refine reimported_of_representable named filled accepted ?_ pushed.separate finite representable
  intro other member
  rcases members other member with rfl | before
  · exact fun location given => (representable.location given).unquoted
  · exact unquoted other before

theorem named_flexRegistry : flexRegistry.Named := by
  constructor
  case families => decide +kernel
  case tags =>
    intro tag known
    obtain rfl : "/Expressive/Loud" = tag := by
      simpa [flexRegistry, TagCatalogue.contains, TagCatalogue.get?, TagCatalogue.register,
        TagCatalogue.enter, TagCatalogue.empty, TagDefinition.named] using known
    decide

/-- Two scores of a family that varies, added behind a score of another family. -/
theorem accepted_tagging_reimported_of_flex :
    let operations : List Operation := [.importTable "Inter,,/Expressive/Loud,5"]
    let library := (ofRegistry flexRegistry).run operations
    let tagging : Tagging := .varying (VariableTagging.ofEntries "Roboto Flex" "/Expressive/Loud"
      [(Location.empty.insert wght (Binary.ofNat _ false 400), Binary.ofNat _ false 30),
        (Location.empty.insert wght (Binary.ofNat _ false 900), Binary.ofNat _ false 95)])
    flexRegistry.Named ∧ tagging.Pushed ∧ tagging.Finite ∧
      (∀ other ∈ library.taggings, other.Unquoted) ∧ tagging.Representable ∧
      ∃ after, library.add? tagging = some after ∧
        ((ofRegistry flexRegistry).importTable after.exportTable).2.slot? tagging.font tagging.tag =
          some tagging := by
  intro operations library tagging
  have pushed : tagging.Pushed := VariableTagging.pushed_ofEntries _ _ _
  have finite : tagging.Finite := by
    constructor
    case scores => decide +kernel
    case coordinates => decide +kernel
  have unquoted : ∀ other ∈ library.taggings, other.Unquoted := by
    unfold Tagging.Unquoted
    decide +kernel
  have axes : ∀ location ∈ tagging.locations, location.axes = [wght] := by decide +kernel
  have name : wght.name = ['w', 'g', 'h', 't'] := by decide +kernel
  have representable : tagging.Representable := by
    refine ⟨by decide +kernel, fun entry stored => ?_⟩
    have alone : entry.1.axes = [wght] := axes entry.1 (List.mem_map_of_mem stored)
    rw [Location.Representable, alone]
    simp [name, Location.separators]
  obtain ⟨after, added⟩ : ∃ after, library.add? tagging = some after :=
    Option.isSome_iff_exists.mp (by decide +kernel)
  have reimported := accepted_tagging_reimported flexRegistry named_flexRegistry operations tagging
    pushed finite after added
  exact ⟨named_flexRegistry, pushed, finite, unquoted, representable, after, added,
    (reimported.2 unquoted).mpr representable⟩

/-- Three taggings that are accepted and do not come back: one at a location whose axis has a comma
in its name, one at a location without axes, and one without scores. -/
theorem accepted_taggings_lost :
    let comma : AxisTag := ⟨AxisTag.filled [0x61, 0x2c, 0x62], _,
      (by simp [AxisTag.IsName] : AxisTag.IsName [0x61, 0x2c, 0x62]), rfl⟩
    let registry : Registry := { flexRegistry with
      families := [.untagged "Flex" [⟨comma, Binary.ofNat _ false 100, Binary.ofNat _ false 900,
        none⟩]] }
    let tagging (entries : List (Location × Single)) : Tagging :=
      .varying (VariableTagging.ofEntries "Flex" "/Expressive/Loud" entries)
    let lost : List Tagging := [
      tagging [(Location.empty.insert comma (Binary.ofNat _ false 400), Binary.ofNat _ false 30)],
      tagging [(Location.empty, Binary.ofNat _ false 30)], tagging []]
    registry.Named ∧ ∀ tagging ∈ lost, tagging.Pushed ∧ tagging.Finite ∧
      ∃ after, (ofRegistry registry).add? tagging = some after ∧
        ((ofRegistry registry).importTable after.exportTable).2.slot? "Flex" "/Expressive/Loud" =
          none := by
  intro comma registry tagging lost
  have named : registry.Named := by
    constructor
    case families => decide +kernel
    case tags => exact named_flexRegistry.tags
  have lose (entries : List (Location × Single))
      (finite : (tagging entries).Finite)
      (added : ((ofRegistry registry).add? (tagging entries)).isSome = true)
      (empty : ((ofRegistry registry).importTable
        ((ofRegistry registry).add (tagging entries)).2.exportTable).2.slot? "Flex"
          "/Expressive/Loud" = none) :
      (tagging entries).Pushed ∧ (tagging entries).Finite ∧
        ∃ after, (ofRegistry registry).add? (tagging entries) = some after ∧
          ((ofRegistry registry).importTable after.exportTable).2.slot? "Flex"
            "/Expressive/Loud" = none := by
    obtain ⟨after, added⟩ := Option.isSome_iff_exists.mp added
    rw [done?_eq_some_iff.mp added] at empty
    exact ⟨VariableTagging.pushed_ofEntries _ _ _, finite, after, added, empty⟩
  refine ⟨named, ?_⟩
  simp only [lost, List.forall_mem_cons]
  refine ⟨?_, ?_, ?_, List.forall_mem_nil _⟩
  · apply lose
    · exact ⟨by decide +kernel, by decide +kernel⟩
    · decide +kernel
    · decide +kernel
  · apply lose
    · exact ⟨by decide +kernel, by decide +kernel⟩
    · decide +kernel
    · decide +kernel
  · apply lose
    · exact ⟨by decide +kernel, by decide +kernel⟩
    · decide +kernel
    · decide +kernel

end Library

end FontScores
