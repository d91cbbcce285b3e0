import Mathlib
import FontScores.Platform
import FontScores.Proofs.Library.Rows
import FontScores.Proofs.Library.Slots
import FontScores.Proofs.Table.Taggings

/-!
# A library that was written can be taken in again

A library that was filled from tables only holds taggings whose rows can be written, because that is
what reading a row guarantees and no edit loses it.  Its table then lists every tagging once, and a
library over the same registry that is still empty accepts them all: they passed the same checks
when they first came in, and no two of them are for the same slot.

The order of a font's taggings is the only thing that is lost.  The table lists them by tag, so it
does not see that order, and is the same when it is written again.
-/

namespace FontScores

open ReferenceData (lastUnder?)

/-! ## What tables bring in can be written -/

/-- The tagging has rows, and all of them can be written. -/
structure Tagging.Writable (tagging : Tagging) : Prop where
  listed : tagging.records ≠ []
  rows : ∀ record ∈ tagging.records, record.Writable

theorem Tagging.writable_iff {tagging : Tagging} :
    tagging.Writable ↔ tagging.Lists TaggingRecord.Writable :=
  ⟨fun writable => ⟨writable.listed, writable.rows⟩, fun lists => ⟨lists.listed, lists.rows⟩⟩

/-- The operations that take in tables and take out taggings. -/
def Operation.ByTable : Operation → Prop
  | importTable _ => True
  | remove _ _ => True
  | _ => False

namespace Library

variable {library after : Library}

/-- The tagging of a row that can be written. -/
def FromWritable (tagging : Tagging) : Prop :=
  ∃ record : TaggingRecord, record.Writable ∧ tagging = record.tagging

def Writable (library : Library) : Prop :=
  ∀ font ∈ library.fonts, ∀ tagging ∈ font.taggings, tagging.Writable

/-- A session that uses tables only leaves a library sound and writable. -/
theorem writable_after_session (registry : Registry) {operations : List Operation}
    (byTable : ∀ operation ∈ operations, operation.ByTable) :
    ((ofRegistry registry).run operations).Sound ∧
      ((ofRegistry registry).run operations).Writable := by
  have given : ∀ operation ∈ operations, ∀ tagging, operation.Brings tagging →
      FromWritable tagging := by
    intro operation member tagging brought
    have allowed := byTable operation member
    cases operation with
    | importTable text =>
      obtain ⟨record, row, rfl⟩ := brought
      exact ⟨record, Table.writable_of_mem_readTaggings row, rfl⟩
    | remove family tag => exact brought.elim
    | add tagging => exact allowed.elim
    | importRecord record => exact allowed.elim
    | exemplars tag => exact allowed.elim
  obtain ⟨sound, lists⟩ := run_invariant FromWritable
    (P := fun library => library.Sound ∧ library.Lists TaggingRecord.Writable)
    sound_lists_edited given ⟨sound_ofRegistry registry, lists_ofRegistry registry⟩
  refine ⟨sound, fun font member tagging held => ?_⟩
  exact Tagging.writable_iff.mpr (lists font member tagging held)

end Library

/-- All names of the registry can be written into a table. -/
structure Registry.Named (registry : Registry) : Prop where
  families : ∀ family ∈ registry.families, Table.IsField family.name.toList ∧
    ',' ∉ family.name.toList ∧ family.name.toList.head? ≠ some '#'
  tags : ∀ tag, registry.tags.contains tag = true → Table.IsField tag.toList

/-! ## The order of the table -/

namespace Font

/-- The two fonts differ in the order of their taggings at most. -/
structure Matches (one other : Font) : Prop where
  name : one.name = other.name
  axes : one.axes = other.axes
  taggings : one.taggings.Perm other.taggings

/-- The font with its taggings in the order of the table. -/
def listed (font : Font) : Font :=
  { font with taggings := font.taggings.mergeSort fun one other => one.tag ≤ other.tag }

theorem Matches.listed {one other : Font} (same : one.Matches other)
    (slots : (one.taggings.map Tagging.tag).Nodup) : one.listed = other.listed := by
  have sorted (taggings : List Tagging) :
      (taggings.mergeSort fun one other => one.tag ≤ other.tag).Pairwise
        fun one other => decide (one.tag ≤ other.tag) = true :=
    List.pairwise_mergeSort (fun _ _ _ first second => by
      simp only [decide_eq_true_eq] at *
      exact String.le_trans first second)
      (fun one other => by simpa using String.le_total one.tag other.tag) taggings
  have perm : (one.taggings.mergeSort fun one other => one.tag ≤ other.tag).Perm
      (other.taggings.mergeSort fun one other => one.tag ≤ other.tag) :=
    (List.mergeSort_perm _ _).trans (same.taggings.trans (List.mergeSort_perm _ _).symm)
  -- Two taggings of one font with the same tag are the same, so sorting leaves one order only.
  have unique (first second : Tagging)
      (member : first ∈ one.taggings.mergeSort fun one other => one.tag ≤ other.tag)
      (held : second ∈ other.taggings.mergeSort fun one other => one.tag ≤ other.tag)
      (le : decide (first.tag ≤ second.tag) = true) (ge : decide (second.tag ≤ first.tag) = true) :
      first = second := by
    rw [List.mem_mergeSort] at member held
    exact List.inj_on_of_nodup_map slots member (same.taggings.symm.subset held)
      (String.le_antisymm (of_decide_eq_true le) (of_decide_eq_true ge))
  have taggings := perm.eq_of_pairwise unique (sorted one.taggings) (sorted other.taggings)
  simp only [Font.listed, same.name, same.axes, taggings]

end Font

namespace Table

/-- The taggings of the fonts in the order of the table. -/
def inOrder (fonts : List Font) : List Tagging :=
  (fonts.mergeSort fun one other => one.name ≤ other.name).flatMap fun font => font.listed.taggings

theorem records_eq (fonts : List Font) :
    records fonts = (inOrder fonts).flatMap Tagging.records := by
  simp [records, inOrder, Font.listed, List.flatMap_assoc]

theorem inOrder_perm (fonts : List Font) : (inOrder fonts).Perm (fonts.flatMap Font.taggings) :=
  (List.mergeSort_perm _ _).flatMap fun _ _ => List.mergeSort_perm _ _

theorem mem_records_iff {fonts : List Font} {record : TaggingRecord} :
    record ∈ records fonts ↔
      ∃ font ∈ fonts, ∃ tagging ∈ font.taggings, record ∈ tagging.records := by
  simp only [records, List.mem_flatMap, List.mem_mergeSort]

/-- The table does not depend on the order of a font's taggings. -/
theorem inOrder_congr {ones others : List Font} (same : List.Forall₂ Font.Matches ones others)
    (slots : ∀ font ∈ ones, (font.taggings.map Tagging.tag).Nodup) :
    inOrder ones = inOrder others := by
  have listed : ones.map Font.listed = others.map Font.listed := by
    induction same with
    | nil => rfl
    | cons first _ ih =>
      rw [List.map_cons, List.map_cons, first.listed (slots _ (by simp)),
        ih fun font member => slots font (List.mem_cons_of_mem _ member)]
  have sorted (fonts : List Font) : inOrder fonts =
      ((fonts.map Font.listed).mergeSort fun one other => one.name ≤ other.name).flatMap
        Font.taggings := by
    rw [← List.map_mergeSort (f := Font.listed) (fun _ _ _ _ => rfl), List.flatMap_map]
    rfl
  rw [sorted, sorted, listed]

theorem writeTaggings_congr {ones others : List Font} (same : List.Forall₂ Font.Matches ones others)
    (slots : ∀ font ∈ ones, (font.taggings.map Tagging.tag).Nodup) :
    writeTaggings ones = writeTaggings others := by
  simp only [writeTaggings, records_eq, inOrder_congr same slots]

end Table

namespace Library

/-! ## The empty library accepts what the other one holds -/

variable {library : Library} {registry : Registry}

/-- The library over the same registry without taggings. -/
theorem ofRegistry_fonts
    (families : library.fonts.map (fun font => (font.name, font.axes)) =
      registry.families.map fun font => (font.name, font.axes)) :
    (ofRegistry registry).fonts =
      library.fonts.map fun font => Font.untagged font.name font.axes := by
  have pairs := congrArg (List.map fun pair => Font.untagged pair.1 pair.2) families
  simpa [List.map_map, Function.comp_def, ofRegistry] using pairs.symm

theorem Sound.ofRegistry_positions (sound : library.Sound)
    (families : library.fonts.map (fun font => (font.name, font.axes)) =
      registry.families.map fun font => (font.name, font.axes)) :
    (ofRegistry registry).positions = library.positions := by
  rw [sound.positions]
  change positionsOf (ofRegistry registry).fonts = _
  rw [ofRegistry_fonts families]
  exact positionsOf_congr (by simp [Font.untagged, Function.comp_def])

theorem Sound.accepted (sound : library.Sound) (common : library.registry = registry)
    (families : library.fonts.map (fun font => (font.name, font.axes)) =
      registry.families.map fun font => (font.name, font.axes)) {tagging : Tagging}
    (member : tagging ∈ library.taggings) :
    ((ofRegistry registry).add? tagging).isSome = true := by
  obtain ⟨font, among, held⟩ := List.mem_flatMap.mp member
  obtain ⟨position, inside, same⟩ := List.getElem_of_mem among
  have stands : library.fonts[position]? = some font := List.getElem?_eq_some_iff.mpr ⟨inside, same⟩
  have checked := (sound.each font among).each tagging held
  have fonts := ofRegistry_fonts families
  -- The checks for a font of the same name and axes were passed once; the slot is empty now.
  have placed : (ofRegistry registry).placed? tagging.font =
      some (position, Font.untagged font.name font.axes) := by
    refine placed?_eq_some_iff.mpr ⟨?_, by simp [fonts, stands]⟩
    rw [sound.ofRegistry_positions families]
    exact sound.housed.position_of_mem stands held
  have known : registry.tags.contains tagging.tag = true := common ▸ checked.known
  have fitting : ∀ location ∈ tagging.locations,
      (Font.untagged font.name font.axes).fits location = true :=
    fun location given => Font.fits_iff.mpr (checked.fitting location given)
  exact Option.isSome_iff_exists.mpr
    ⟨_, add?_eq_some_iff.mpr ⟨_, _, placed, known, fitting, checked.owned, rfl, rfl⟩⟩

/-- Of the taggings of a library, in whatever order, each font receives its own. -/
theorem Sound.received_perm (sound : library.Sound) {position : Nat} {font : Font}
    (stands : library.fonts[position]? = some font) {taggings : List Tagging}
    (perm : taggings.Perm library.taggings) :
    (received library.positions taggings position).Perm font.taggings := by
  obtain ⟨inside, same⟩ := List.getElem?_eq_some_iff.mp stands
  -- Only the font at the position itself contributes to what arrives there.
  have others {place : Nat} {other : Font} (found : library.fonts[place]? = some other)
      (different : place ≠ position) :
      received library.positions other.taggings position = [] := by
    refine List.filter_eq_nil_iff.mpr fun tagging held => ?_
    simp [sound.housed.position_of_mem found held, different]
  have own : received library.positions font.taggings position = font.taggings :=
    List.filter_eq_self.mpr fun tagging held =>
      decide_eq_true (sound.housed.position_of_mem stands held)
  have front : (library.fonts.take position).flatMap
      (fun font => received library.positions font.taggings position) = [] := by
    refine List.flatMap_eq_nil_iff.mpr fun other member => ?_
    obtain ⟨place, before, rfl⟩ := List.mem_take_iff_getElem.mp member
    exact others (List.getElem?_eq_getElem _) (by omega)
  have back : (library.fonts.drop (position + 1)).flatMap
      (fun font => received library.positions font.taggings position) = [] := by
    refine List.flatMap_eq_nil_iff.mpr fun other member => ?_
    obtain ⟨place, before, rfl⟩ := List.mem_drop_iff_getElem.mp member
    exact others (List.getElem?_eq_getElem _) (by omega)
  have split : library.fonts =
      library.fonts.take position ++ font :: library.fonts.drop (position + 1) := by
    rw [← same, ← List.drop_eq_getElem_cons, List.take_append_drop]
  have all : received library.positions library.taggings position = font.taggings := by
    rw [received, Library.taggings, List.filter_flatMap]
    change library.fonts.flatMap
      (fun font => received library.positions font.taggings position) = _
    generalize library.positions = positions at front back own ⊢
    rw [split, List.flatMap_append, List.flatMap_cons, front, back, own]
    simp
  exact all ▸ perm.filter _

/-! ## Export and import -/

/-- With such names in the registry, every row of the table begins with its family. -/
theorem Housed.named_exported (housed : library.Housed) (named : registry.Named)
    (common : library.registry = registry)
    (families : library.fonts.map (fun font => (font.name, font.axes)) =
      registry.families.map fun font => (font.name, font.axes))
    {record : TaggingRecord} (row : record ∈ Table.records library.fonts) : record.Named := by
  obtain ⟨font, present, tagging, held, row⟩ := Table.mem_records_iff.mp row
  obtain ⟨ofFont, ofTag⟩ := Tagging.slot_of_mem_records row
  obtain ⟨family, known, same⟩ := List.mem_map.mp (families ▸ List.mem_map_of_mem present)
  have own : record.family = family.name :=
    (ofFont.trans (housed.owned font present tagging held)).trans (Prod.mk.inj same).1.symm
  obtain ⟨field, unseparated, uncommented⟩ := named.families family known
  rw [← own] at field unseparated uncommented
  -- Only registered tags are stored, so the tag is one of those that are fields.
  have tagged : registry.tags.contains record.tag = true := by
    rw [ofTag, ← common]
    exact housed.known font present tagging held
  exact ⟨field, unseparated, uncommented, named.tags _ tagged⟩

/-- What a table leaves of a library when it is taken in by an empty one. -/
structure Restored (library : Library) (outcome : ImportSummary × Library) : Prop where
  skipped : outcome.1.skipped = 0
  added : outcome.1.added = (Text.lines library.exportTable.toList).length
  fonts : List.Forall₂ Font.Matches library.fonts outcome.2.fonts
  again : outcome.2.exportTable = library.exportTable

/-- The axes of all rows of the table are axes of the registry's families. -/
theorem Sound.unquoted_exported (sound : library.Sound)
    (families : library.fonts.map (fun font => (font.name, font.axes)) =
      registry.families.map fun font => (font.name, font.axes))
    (plain : ∀ family ∈ registry.families, ∀ axis ∈ family.axes, '"' ∉ axis.tag.name)
    {record : TaggingRecord} (row : record ∈ Table.records library.fonts) : record.Unquoted := by
  obtain ⟨font, present, tagging, held, row⟩ := Table.mem_records_iff.mp row
  -- An axis of a location is an axis of its font, and so of a family of the registry.
  intro location located axis given
  have fitting := ((sound.each font present).each tagging held).fitting location
    (Tagging.mem_locations_of_mem_records row located) axis given
  obtain ⟨held, stored, rfl⟩ := List.mem_map.mp fitting
  obtain ⟨family, known, same⟩ := List.mem_map.mp (families ▸ List.mem_map_of_mem present)
  exact plain family known held ((Prod.mk.inj same).2 ▸ stored)

/-- The empty library takes in the taggings of the other one, in the order of the table, and then
matches it. -/
theorem Sound.addAll?_inOrder (sound : library.Sound) (common : library.registry = registry)
    (families : library.fonts.map (fun font => (font.name, font.axes)) =
      registry.families.map fun font => (font.name, font.axes)) :
    ∃ after, (ofRegistry registry).addAll? (Table.inOrder library.fonts) = some after ∧
      List.Forall₂ Font.Matches library.fonts after.fonts := by
  have perm : (Table.inOrder library.fonts).Perm library.taggings := Table.inOrder_perm _
  have accepted : ∀ tagging ∈ Table.inOrder library.fonts,
      ((ofRegistry registry).add? tagging).isSome = true :=
    fun tagging member => sound.accepted common families (perm.subset member)
  have apart : (Table.inOrder library.fonts).Pairwise Tagging.Apart :=
    (perm.pairwise_iff Tagging.Apart.symm).mpr sound.housed.apart
  obtain ⟨after, added, fonts⟩ := addAll?_of_apart accepted apart
  refine ⟨after, added, ?_⟩
  rw [fonts, ofRegistry_fonts families, sound.ofRegistry_positions families]
  refine List.forall₂_of_length_eq_of_get (by simp) fun position here _ => ?_
  have stands : library.fonts[position]? = some (library.fonts.get ⟨position, here⟩) :=
    List.getElem?_eq_getElem here
  have arrived := (sound.received_perm stands perm).symm
  constructor
  case name => simp [Font.untagged]
  case axes => simp [Font.untagged]
  case taggings => simpa [Font.untagged] using arrived

theorem restored_of_sound (sound : library.Sound) (writable : library.Writable)
    (common : library.registry = registry)
    (families : library.fonts.map (fun font => (font.name, font.axes)) =
      registry.families.map fun font => (font.name, font.axes))
    (plain : ∀ family ∈ registry.families, ∀ axis ∈ family.axes, '"' ∉ axis.tag.name)
    {text : String} (exported : text = library.exportTable ∨ text = library.exportTable ++ "\n") :
    library.Restored ((ofRegistry registry).importTable text) := by
  have each : ∀ record ∈ Table.records library.fonts, record.Writable := by
    intro record row
    obtain ⟨font, present, tagging, held, row⟩ := Table.mem_records_iff.mp row
    exact (writable font present tagging held).rows record row
  have unquoted : ∀ record ∈ Table.records library.fonts, record.Unquoted :=
    fun _ => sound.unquoted_exported families plain
  -- First the text is read as the rows that were written, then these are taken in.
  have lines : Table.rowLines text.toList =
      (Table.records library.fonts).map TaggingRecord.line := by
    refine Table.rowLines_written (fun record row => (each record row).shaped.named)
      (exported.imp ?_ ?_)
    · rintro rfl
      simp [exportTable, Table.writeTaggings]
    · rintro rfl
      simp [exportTable, Table.writeTaggings]
  have read : Table.readTaggings text = Table.records library.fonts :=
    Table.readTaggings_written each unquoted lines
  obtain ⟨after, added, same⟩ := sound.addAll?_inOrder common families
  have held {tagging : Tagging} (member : tagging ∈ Table.inOrder library.fonts) :=
    List.mem_flatMap.mp ((Table.inOrder_perm _).subset member)
  have listed : ∀ tagging ∈ Table.inOrder library.fonts, tagging.records ≠ [] := by
    intro tagging member
    obtain ⟨font, present, held⟩ := held member
    exact (writable font present tagging held).listed
  have separate : ∀ tagging ∈ Table.inOrder library.fonts, tagging.Separate := by
    intro tagging member
    obtain ⟨font, present, held⟩ := held member
    exact ((sound.each font present).each tagging held).separate
  have taken := addRecords_flatMap listed separate added
  rw [← Table.records_eq] at taken
  have outcome : (ofRegistry registry).importTable text =
      (⟨(Table.records library.fonts).length, 0⟩, after) := by
    simp [importTable, read, lines, taken]
  rw [outcome]
  constructor
  case skipped => rfl
  case added =>
    have written := Text.lines_joined fun line member => by
      obtain ⟨record, row, same⟩ := List.mem_map.mp member
      exact same ▸ TaggingRecord.isLine_line (each record row).shaped.named
    simp [exportTable, Table.writeTaggings, written]
  case fonts => exact same
  case again =>
    exact (Table.writeTaggings_congr same fun font member => (sound.each font member).slots).symm

/-- A library that was filled from tables is restored, up to the order of each font's taggings, by
importing the table it exports into an empty library over the same registry. -/
theorem import_export_after_session (registry : Registry)
    (plain : ∀ family ∈ registry.families, ∀ axis ∈ family.axes, '"' ∉ axis.tag.name)
    (operations : List Operation) (byTable : ∀ operation ∈ operations, operation.ByTable)
    (text : String)
    (exported : text = ((ofRegistry registry).run operations).exportTable ∨
      text = ((ofRegistry registry).run operations).exportTable ++ "\n") :
    ((ofRegistry registry).run operations).Restored ((ofRegistry registry).importTable text) := by
  obtain ⟨sound, writable⟩ := writable_after_session registry byTable
  refine restored_of_sound sound writable (registry_run _ operations) ?_ plain exported
  rw [families_run]
  simp [ofRegistry, Font.untagged]

/-- A session that takes in two tables and takes a tagging out again.  The rows lost in it leave the
two locations of one tagging and a tag with commas in it. -/
theorem import_export_after_session_of_flex :
    let wght : AxisTag := ⟨AxisTag.filled [0x77, 0x67, 0x68, 0x74], _,
      (by simp [AxisTag.IsName] : AxisTag.IsName [0x77, 0x67, 0x68, 0x74]), rfl⟩
    let flex : Font := .untagged "Roboto Flex"
      [⟨wght, Binary.ofNat _ false 100, Binary.ofNat _ false 900, none⟩]
    let registry : Registry := ⟨(TagCatalogue.empty.register
        (TagDefinition.named "/Expressive/Loud")).register (TagDefinition.named "a, b, c"),
      [flex, .untagged "Inter" []], RuleTable.ofRows [], EmbeddingIndex.empty⟩
    let operations : List Operation :=
      [.importTable "Roboto Flex,wght@400,/Expressive/Loud,30\nInter,,/Expressive/Loud,5",
        .importTable "# again\nRoboto Flex,\"wght@900\",/Expressive/Loud,95.5\nInter,,a, b, c,-0",
        .remove "Inter" "/Expressive/Loud"]
    let library := (ofRegistry registry).run operations
    (∀ family ∈ registry.families, ∀ axis ∈ family.axes, '"' ∉ axis.tag.name) ∧
      (∀ operation ∈ operations, operation.ByTable) ∧
      library.Restored ((ofRegistry registry).importTable (library.exportTable ++ "\n")) := by
  intro wght flex registry operations library
  have plain : ∀ family ∈ registry.families, ∀ axis ∈ family.axes, '"' ∉ axis.tag.name := by
    decide
  have byTable : ∀ operation ∈ operations, operation.ByTable := by
    simp [operations, Operation.ByTable]
  exact ⟨plain, byTable,
    import_export_after_session registry plain operations byTable _ (.inr rfl)⟩

end Library

end FontScores
