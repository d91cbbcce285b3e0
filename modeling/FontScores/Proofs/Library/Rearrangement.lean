import Mathlib
import FontScores.Proofs.Library.Filling
import FontScores.Proofs.Library.Reimport

/-!
# Rows in another order

A library takes in rows slot by slot: what becomes of a row, and what a slot holds in the end,
depends only on the rows of that slot and on the order among them.  `fillAll` runs through the rows
of one slot, and `Arranged.slot_addRecords` says that a library does the same for each of its slots.

So a table may be rearranged as long as the rows of every slot keep their order.  The fonts then
have the same taggings, though not in the same order, and the table they are written to, which lists
them by name and tag, is the same text.
-/

namespace FontScores

/-! ## The rows of a slot -/

/-- The rows of one slot, in their order. -/
def rowsOf (family tag : String) (records : List TaggingRecord) : List TaggingRecord :=
  records.filter fun record => record.family = family ∧ record.tag = tag

theorem rowsOf_cons_same (record : TaggingRecord) (others : List TaggingRecord) :
    rowsOf record.family record.tag (record :: others) =
      record :: rowsOf record.family record.tag others :=
  List.filter_cons_of_pos (by simp)

theorem rowsOf_cons_other {family tag : String} {record : TaggingRecord}
    (other : ¬(record.family = family ∧ record.tag = tag)) (others : List TaggingRecord) :
    rowsOf family tag (record :: others) = rowsOf family tag others :=
  List.filter_cons_of_neg (by simpa using other)

/-- Lists with the same rows for every slot differ in order only. -/
theorem perm_of_rowsOf {one other : List TaggingRecord}
    (same : ∀ family tag, rowsOf family tag one = rowsOf family tag other) : one.Perm other := by
  rw [List.perm_iff_count]
  intro record
  have counted (records : List TaggingRecord) :
      (rowsOf record.family record.tag records).count record = records.count record :=
    List.count_filter (by simp)
  rw [← counted one, ← counted other, same]

/-- Those of the rows that a slot takes, and what it holds in the end. -/
def fillAll (tags : TagCatalogue) :
    Option Tagging → List TaggingRecord → List TaggingRecord × Option Tagging
  | slot, [] => ([], slot)
  | slot, record :: others =>
    match record.fill? tags slot with
    | none => fillAll tags slot others
    | some new =>
      let (taken, last) := fillAll tags (some new) others
      (record :: taken, last)

namespace Library

variable {library after : Library} {record : TaggingRecord} {family tag : String}

/-- Those of the rows that a library takes in. -/
def takenRows (library : Library) : List TaggingRecord → List TaggingRecord
  | [] => []
  | record :: others =>
    match library.addRecord? record with
    | none => takenRows library others
    | some after => record :: takenRows after others

theorem length_takenRows (library : Library) (records : List TaggingRecord) :
    (library.takenRows records).length = (library.addRecords records).1 := by
  induction records generalizing library with
  | nil => rfl
  | cons record others ih =>
    rw [takenRows, addRecords_cons]
    cases library.addRecord? record with
    | none => exact ih library
    | some after => simp [ih]

/-- The rows that a library has a place for, among those of one slot. -/
def placedRows (library : Library) (family tag : String) (records : List TaggingRecord) :
    List TaggingRecord :=
  (rowsOf family tag records).filter library.hasPlace

/-- Taking in rows fills every slot by itself. -/
theorem Arranged.slot_addRecords (arranged : library.Arranged) (records : List TaggingRecord)
    (family tag : String) :
    fillAll library.registry.tags (library.slot? family tag)
        (library.placedRows family tag records) =
      (rowsOf family tag (library.takenRows records),
        (library.addRecords records).2.slot? family tag) := by
  induction records generalizing library with
  | nil => rfl
  | cons record others ih =>
    rw [takenRows, addRecords_cons]
    cases added : library.addRecord? record with
    | none =>
      -- The row was refused, by its slot if the library has a place for it.
      rw [← ih arranged]
      by_cases same : record.family = family ∧ record.tag = tag
      · obtain ⟨rfl, rfl⟩ := same
        by_cases place : library.hasPlace record = true
        · have closed : record.fill? library.registry.tags
              (library.slot? record.family record.tag) = none := by
            by_contra takes
            rw [← ne_eq, ← Option.isSome_iff_ne_none] at takes
            have taken := arranged.isSome_addRecord?_iff.mpr ⟨place, takes⟩
            simp [added] at taken
          simp only [placedRows, rowsOf_cons_same, List.filter_cons_of_pos place, fillAll, closed]
        · simp only [placedRows, rowsOf_cons_same, List.filter_cons_of_neg place]
      · simp only [placedRows, rowsOf_cons_other same]
    | some after =>
      have edited := edited_addRecord? added
      have later := ih (arranged_edited arranged edited)
      have places : after.placedRows family tag others = library.placedRows family tag others := by
        simp only [placedRows, funext (hasPlace_edited edited)]
      rw [registry_edited edited, places] at later
      by_cases same : record.family = family ∧ record.tag = tag
      · -- The row went into this slot.
        obtain ⟨rfl, rfl⟩ := same
        obtain ⟨place, new, taken, holds⟩ := arranged.fill?_of_addRecord? added
        rw [holds] at later
        simp only [placedRows, rowsOf_cons_same, List.filter_cons_of_pos place, fillAll, taken]
        simp only [placedRows] at later
        simp only [later]
      · -- The row went into another slot, and this one is as it was.
        have elsewhere := (arranged.slot?_addRecord? added).2 family tag
          (fun one other => same ⟨one.symm, other.symm⟩)
        rw [elsewhere] at later
        simp only [rowsOf_cons_other same, ← later, placedRows]

/-- Of the rows that a library takes in, a slot sees only its own. -/
theorem Arranged.slot_addRecords_congr (arranged : library.Arranged)
    {one other : List TaggingRecord} (same : rowsOf family tag one = rowsOf family tag other) :
    rowsOf family tag (library.takenRows one) = rowsOf family tag (library.takenRows other) ∧
      (library.addRecords one).2.slot? family tag =
        (library.addRecords other).2.slot? family tag := by
  rw [← Prod.mk.injEq, ← arranged.slot_addRecords, ← arranged.slot_addRecords, placedRows,
    placedRows, same]

/-! ## Two orders -/

/-- Libraries over the same families whose slots hold the same differ only in the order of each
font's taggings. -/
theorem Arranged.matches_of_slots {one other : Library} (arranged : one.Arranged)
    (also : other.Arranged)
    (families : one.fonts.map (fun font => (font.name, font.axes)) =
      other.fonts.map fun font => (font.name, font.axes))
    (slots : ∀ family tag, one.slot? family tag = other.slot? family tag) :
    List.Forall₂ Font.Matches one.fonts other.fonts := by
  have lengths : one.fonts.length = other.fonts.length := by
    simpa using congrArg List.length families
  have positions : one.positions = other.positions := by
    rw [arranged.positions, also.positions]
    apply positionsOf_congr
    simpa [Function.comp_def] using congrArg (List.map Prod.fst) families
  refine List.forall₂_of_length_eq_of_get lengths fun position here there => ?_
  have first : one.fonts[position]? = some one.fonts[position] := List.getElem?_eq_getElem here
  have second : other.fonts[position]? = some other.fonts[position] :=
    List.getElem?_eq_getElem there
  have same : one.fonts[position].name = other.fonts[position].name ∧
      one.fonts[position].axes = other.fonts[position].axes := by
    have pairs := congrArg (·[position]?) families
    simpa [first, second] using pairs
  simp only [List.get_eq_getElem]
  generalize one.fonts[position] = font at first same ⊢
  generalize other.fonts[position] = twin at second same ⊢
  refine ⟨same.1, same.2, ?_⟩
  -- Either the name leads to both fonts, or it leads to none of them and both are empty.
  by_cases indexed : ReferenceData.lastUnder? one.positions font.name = some position
  · have placed : one.placed? font.name = some (position, font) :=
      placed?_eq_some_iff.mpr ⟨indexed, first⟩
    have placed' : other.placed? font.name = some (position, twin) :=
      placed?_eq_some_iff.mpr ⟨positions ▸ indexed, second⟩
    have held (tag : String) : font.tagging? tag = twin.tagging? tag := by
      rw [← slot?_of_placed placed, ← slot?_of_placed placed', slots]
    have distinct := arranged.slots_of_placed placed
    have distinct' := also.slots_of_placed placed'
    rw [List.perm_ext_iff_of_nodup (List.Nodup.of_map _ distinct) (List.Nodup.of_map _ distinct')]
    intro tagging
    have found : font.tagging? tagging.tag = some tagging ↔ tagging ∈ font.taggings := by
      simp [Font.tagging?_eq_some_iff distinct]
    have found' : twin.tagging? tagging.tag = some tagging ↔ tagging ∈ twin.taggings := by
      simp [Font.tagging?_eq_some_iff distinct']
    rw [← found, ← found', held]
  · have empty : font.taggings = [] := by
      by_contra tagged
      exact indexed (arranged.found position font first tagged)
    have empty' : twin.taggings = [] := by
      by_contra tagged
      apply indexed
      rw [positions, same.1]
      exact also.found position twin second tagged
    rw [empty, empty']

/-- Rows that keep their order within each slot are taken in alike. -/
theorem Arranged.addRecords_of_rowsOf (arranged : library.Arranged)
    {one other : List TaggingRecord}
    (same : ∀ family tag, rowsOf family tag one = rowsOf family tag other) :
    (library.addRecords one).1 = (library.addRecords other).1 ∧
      ∀ family tag, (library.addRecords one).2.slot? family tag =
        (library.addRecords other).2.slot? family tag := by
  constructor
  · -- Slot by slot the same rows are taken, so there are equally many in all.
    have perm := perm_of_rowsOf fun family tag =>
      (arranged.slot_addRecords_congr (same family tag)).1
    rw [← length_takenRows, ← length_takenRows, perm.length_eq]
  · exact fun family tag => (arranged.slot_addRecords_congr (same family tag)).2

end Library

/-! ## Tables -/

namespace Table

/-- Whether a line can be read as a row for this family and this tag. -/
def isRowOf (family tag : String) (line : List Char) : Bool :=
  (TaggingRecord.ofLine line).toOption.any fun record => record.family = family ∧ record.tag = tag

/-- The tables have the same lines, and for every family and tag those that are rows for them are in
the same order. -/
structure Rearranged (one other : String) : Prop where
  lines : (Text.lines one.toList).Perm (Text.lines other.toList)
  kept : ∀ family tag, (rowLines one.toList).filter (isRowOf family tag) =
    (rowLines other.toList).filter (isRowOf family tag)

/-- Only the families and tags for which there are rows need to be looked at. -/
theorem rearranged_iff {one other : String} :
    Rearranged one other ↔ (Text.lines one.toList).Perm (Text.lines other.toList) ∧
      ∀ record ∈ readTaggings one,
        (rowLines one.toList).filter (isRowOf record.family record.tag) =
          (rowLines other.toList).filter (isRowOf record.family record.tag) := by
  constructor
  · rintro ⟨lines, kept⟩
    exact ⟨lines, fun record _ => kept record.family record.tag⟩
  · rintro ⟨lines, kept⟩
    refine ⟨lines, fun family tag => ?_⟩
    by_cases named : ∃ record ∈ readTaggings one, record.family = family ∧ record.tag = tag
    · obtain ⟨record, row, rfl, rfl⟩ := named
      exact kept record row
    · -- Neither table has a row for them, because both have the same lines.
      have none (line : List Char) (member : line ∈ rowLines one.toList) :
          ¬isRowOf family tag line = true := by
        intro row
        obtain ⟨record, read, same⟩ := Option.any_eq_true _ _ |>.mp row
        exact named ⟨record, List.mem_filterMap.mpr ⟨line, member, read⟩, by simpa using same⟩
      have rows : (rowLines one.toList).Perm (rowLines other.toList) := lines.filter _
      rw [List.filter_eq_nil_iff.mpr none,
        List.filter_eq_nil_iff.mpr fun line member => none line (rows.mem_iff.mpr member)]

instance {one other : String} : Decidable (Rearranged one other) :=
  decidable_of_iff _ rearranged_iff.symm

theorem rowsOf_readTaggings (family tag text : String) :
    rowsOf family tag (readTaggings text) =
      ((rowLines text.toList).filter (isRowOf family tag)).filterMap
        fun line => (TaggingRecord.ofLine line).toOption := by
  rw [rowsOf, readTaggings, List.filter_filterMap, List.filterMap_filter]
  congr 1
  funext line
  cases read : TaggingRecord.ofLine line <;> simp [isRowOf, read, Except.toOption, Option.filter]

end Table

namespace Library

/-- Behind any session, two tables with the same lines, of which those for one family and tag are in
the same order, are taken in with the same summary, fill all slots alike and leave libraries that
export the same table. -/
theorem importTable_rearranged (registry : Registry) (operations : List Operation)
    (one other : String) (rearranged : Table.Rearranged one other) :
    let library := (ofRegistry registry).run operations
    (library.importTable one).1 = (library.importTable other).1 ∧
      (∀ family tag, (library.importTable one).2.slot? family tag =
        (library.importTable other).2.slot? family tag) ∧
      (library.importTable one).2.exportTable = (library.importTable other).2.exportTable := by
  intro library
  have arranged := arranged_run registry operations
  have rows : ∀ family tag, rowsOf family tag (Table.readTaggings one) =
      rowsOf family tag (Table.readTaggings other) := by
    intro family tag
    rw [Table.rowsOf_readTaggings, Table.rowsOf_readTaggings, rearranged.kept]
  obtain ⟨added, slots⟩ := arranged.addRecords_of_rowsOf rows
  have count : (Table.rowLines one.toList).length = (Table.rowLines other.toList).length :=
    (rearranged.lines.filter _).length_eq
  refine ⟨?_, slots, ?_⟩
  · simp only [importTable, count]
    rw [added]
  · have reached (text : String) := arranged_addRecords arranged (Table.readTaggings text)
    have families := (families_addRecords library (Table.readTaggings one)).trans
      (families_addRecords library (Table.readTaggings other)).symm
    apply Table.writeTaggings_congr
    · exact (reached one).matches_of_slots (reached other) families slots
    · exact (reached one).slots

/-- Two tables in which the rows of two slots are mixed in different ways.  One row of each slot is
refused, and which one it is depends on their order. -/
theorem importTable_rearranged_of_flex :
    let operations : List Operation := [.importTable "Roboto Flex,wght@400,/Expressive/Loud,30"]
    let one := "# two slots\nInter,,/Expressive/Loud,5\nInter,,/Expressive/Loud,6\n" ++
      "Roboto Flex,wght@900,/Expressive/Loud,90\nRoboto Flex,wght@900,/Expressive/Loud,91\nno row"
    let other := "Roboto Flex,wght@900,/Expressive/Loud,90\nno row\nInter,,/Expressive/Loud,5\n" ++
      "Roboto Flex,wght@900,/Expressive/Loud,91\n# two slots\nInter,,/Expressive/Loud,6\n"
    let library := (ofRegistry flexRegistry).run operations
    Table.Rearranged one other ∧
      (library.importTable one).1 = (library.importTable other).1 ∧
      (∀ family tag, (library.importTable one).2.slot? family tag =
        (library.importTable other).2.slot? family tag) ∧
      (library.importTable one).2.exportTable = (library.importTable other).2.exportTable := by
  intro operations one other library
  have rearranged : Table.Rearranged one other := by decide +kernel
  exact ⟨rearranged, importTable_rearranged flexRegistry operations one other rearranged⟩

end Library

end FontScores
