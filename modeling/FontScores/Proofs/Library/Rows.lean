import Mathlib
import FontScores.Proofs.Library.Consistency

/-!
# What holds of every row

A library is listed row by row, one row for each score in it.  What holds of every row that is
brought in, holds of every row that is listed, because an edit makes no new rows: a tagging is
appended with its own rows, and one that is lengthened gets the row that lengthens it.
-/

namespace FontScores

variable {P : TaggingRecord → Prop}

/-- The tagging has rows, and this holds of all of them. -/
structure Tagging.Lists (P : TaggingRecord → Prop) (tagging : Tagging) : Prop where
  listed : tagging.records ≠ []
  rows : ∀ record ∈ tagging.records, P record

theorem TaggingRecord.records_tagging (record : TaggingRecord) :
    record.tagging.records = [record] := by
  obtain ⟨family, location?, tag, score⟩ := record
  cases location? <;> rfl

theorem TaggingRecord.lists_tagging {record : TaggingRecord} (holds : P record) :
    record.tagging.Lists P := by
  constructor
  · simp [record.records_tagging]
  · simpa [record.records_tagging] using holds

theorem Tagging.mem_locations_of_mem_records {tagging : Tagging} {record : TaggingRecord}
    (member : record ∈ tagging.records) {location : Location}
    (located : location ∈ record.location) : location ∈ tagging.locations := by
  cases tagging with
  | fixed tagging =>
    rw [List.mem_singleton.mp member] at located
    cases located
  | varying tagging =>
    obtain ⟨entry, stored, rfl⟩ := List.mem_map.mp member
    obtain rfl : entry.1 = location := Option.some.inj located
    exact List.mem_map_of_mem stored

/-- A row is for the font and the tag of the tagging that it is a row of. -/
theorem Tagging.slot_of_mem_records {tagging : Tagging} {record : TaggingRecord}
    (member : record ∈ tagging.records) :
    record.family = tagging.font ∧ record.tag = tagging.tag := by
  cases tagging with
  | fixed tagging =>
    rw [List.mem_singleton.mp member]
    exact ⟨rfl, rfl⟩
  | varying tagging =>
    obtain ⟨entry, _, rfl⟩ := List.mem_map.mp member
    exact ⟨rfl, rfl⟩

/-- A tagging that gets another row of its own slot. -/
theorem Tagging.Lists.extend {tagging : VariableTagging} {location : Location} {score : Single}
    (lists : (Tagging.varying tagging).Lists P)
    (holds : P ⟨tagging.font, some location, tagging.tag, score⟩) :
    (Tagging.varying
      { tagging with entries := tagging.entries ++ [(location, score)] }).Lists P := by
  constructor
  · simp [records]
  · intro record member
    simp only [records, List.map_append, List.mem_append] at member
    rcases member with old | new
    · exact lists.rows record old
    · rw [List.mem_singleton.mp new]
      exact holds

namespace Library

variable {library after : Library}

/-- The tagging of a row of which this holds. -/
def FromRow (P : TaggingRecord → Prop) (tagging : Tagging) : Prop :=
  ∃ record : TaggingRecord, P record ∧ tagging = record.tagging

def Lists (P : TaggingRecord → Prop) (library : Library) : Prop :=
  ∀ font ∈ library.fonts, ∀ tagging ∈ font.taggings, tagging.Lists P

theorem lists_ofRegistry (registry : Registry) : (ofRegistry registry).Lists P := by
  intro font member tagging held
  obtain ⟨family, _, rfl⟩ := List.mem_map.mp member
  cases held

theorem lists_font_edited {tags : TagCatalogue} {family : String} {font new : Font}
    {concerned : Tagging} (owned : ∀ tagging ∈ font.taggings, tagging.font = family)
    (lists : ∀ tagging ∈ font.taggings, tagging.Lists P)
    (edited : font.Edited (FromRow P) tags family concerned new) :
    ∀ tagging ∈ new.taggings, tagging.Lists P := by
  intro tagging member
  cases edited with
  | append given =>
    rcases List.mem_append.mp member with earlier | last
    · exact lists tagging earlier
    · obtain ⟨record, row, same⟩ := given
      rw [List.mem_singleton.mp last, same]
      exact TaggingRecord.lists_tagging row
  | @extend extended location score given fitting held absent =>
    -- The row that lengthens the tagging is for its own font and tag, so it adds one of its rows.
    obtain ⟨record, row, same⟩ := given
    have own : extended.font = family := owned _ (Font.tagging?_mem held)
    have entry : record = ⟨extended.font, some location, extended.tag, score⟩ := by
      have rows := record.records_tagging
      rw [← same, oneLocation, ← own] at rows
      exact (List.singleton_injective rows).symm
    obtain ⟨front, back, split, _, replaced⟩ := Font.split_of_held held
    rw [replaced _ rfl] at member
    rw [split] at lists
    rcases List.mem_append.mp member with earlier | later
    · exact lists tagging (List.mem_append_left _ earlier)
    · rcases List.mem_cons.mp later with rfl | later
      · exact (lists _ (by simp)).extend (entry ▸ row)
      · exact lists tagging (by simp [later])
  | takeOut held => exact lists tagging (List.mem_of_mem_eraseP member)

/-- Soundness is carried along, because a row is known to be of its font only in a sound library. -/
theorem sound_lists_edited (holds : library.Sound ∧ library.Lists P)
    (edited : library.Edited (FromRow P) after) : after.Sound ∧ after.Lists P := by
  obtain ⟨sound, lists⟩ := holds
  have separate : ∀ tagging, FromRow P tagging → tagging.Separate := by
    rintro _ ⟨record, _, rfl⟩
    exact record.pushed_tagging.separate
  refine ⟨sound_edited separate sound edited, ?_⟩
  cases edited with
  | retrieve known => exact lists
  | @font family position before new concerned placed edited =>
    have among := List.mem_of_getElem? (placed?_eq_some_iff.mp placed).2
    have owned : ∀ tagging ∈ before.taggings, tagging.font = family := by
      intro tagging held
      have named := sound.arranged.name_of_placed placed
      exact ((sound.each before among).each tagging held).owned.trans named
    intro font member
    rcases List.mem_or_eq_of_mem_set member with elsewhere | rfl
    · exact lists font elsewhere
    · exact lists_font_edited owned (lists before among) edited

end Library

end FontScores
