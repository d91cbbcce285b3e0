import Mathlib
import FontScores.Platform
import FontScores.Proofs.Library.Slots

/-!
# When a row is taken in

Whether a row is taken in depends on two things: on the font of its family, which has to have the
axes of the row's location, and on what its slot holds.  The first never changes.  So a library
takes in rows slot by slot, and `TaggingRecord.fill?` says all that happens to one slot.

A slot that has taken a row will not take it again, and a slot that does not take a row will not
take it later on either, whatever other rows it takes in the meantime.
-/

namespace FontScores

open ReferenceData (lastUnder?)

/-! ## One slot -/

instance : ReflBEq Location := ⟨fun {location} => beq_self_eq_true location.normalForm⟩

/-- A variable tagging has a score for the location that was added last. -/
theorem VariableTagging.scoreAt?_last (tagging : VariableTagging) (location : Location)
    (score : Single) :
    VariableTagging.scoreAt? { tagging with entries := tagging.entries ++ [(location, score)] }
      location ≠ none := by
  intro absent
  have apart := scoreAt?_eq_none_iff.mp absent (location, score) (by simp)
  simp at apart

namespace TaggingRecord

variable {record other : TaggingRecord} {tags : TagCatalogue} {slot : Option Tagging}
  {new : Tagging}

/-- What the slot of a row holds once it has taken the row; nothing if it does not take it. -/
def fill? (tags : TagCatalogue) (record : TaggingRecord) : Option Tagging → Option Tagging
  | none => if tags.contains record.tag then some record.tagging else none
  | some (.fixed _) => none
  | some (.varying tagging) => do
    let location ← record.location
    let longer ← tagging.push? location record.score
    return .varying longer

/-- An empty slot asks only whether the tag is known; a filled one was asked that before. -/
theorem fill?_eq_some_iff :
    record.fill? tags slot = some new ↔
      Library.Filled record slot new ∧ (slot = none → tags.contains record.tag = true) := by
  constructor
  · intro taken
    cases slot with
    | none =>
      simp only [fill?, Option.ite_none_right_eq_some, Option.some.injEq] at taken
      obtain ⟨known, rfl⟩ := taken
      exact ⟨.started, fun _ => known⟩
    | some old =>
      cases old with
      | fixed tagging => cases taken
      | varying tagging =>
        simp only [fill?, Option.bind_eq_bind, Option.bind_eq_some_iff, Option.pure_def,
          Option.some.injEq] at taken
        obtain ⟨location, located, longer, pushed, rfl⟩ := taken
        obtain ⟨absent, rfl⟩ := VariableTagging.push?_eq_some_iff.mp pushed
        exact ⟨.lengthened located absent, nofun⟩
  · rintro ⟨filled, known⟩
    cases filled with
    | started => simp [fill?, known rfl]
    | lengthened located absent => simp [fill?, located, VariableTagging.push?, absent]

/-- A slot that has taken a row does not take it again. -/
theorem fill?_taken (taken : record.fill? tags slot = some new) :
    record.fill? tags (some new) = none := by
  obtain ⟨filled, _⟩ := fill?_eq_some_iff.mp taken
  rw [Option.eq_none_iff_forall_ne_some]
  intro newer again
  obtain ⟨again, _⟩ := fill?_eq_some_iff.mp again
  cases filled with
  | started =>
    obtain ⟨family, location?, tag, score⟩ := record
    cases location? with
    | none => cases again
    | some location =>
      cases again with
      | lengthened located absent =>
        cases located
        exact VariableTagging.scoreAt?_last (.empty family tag) location score absent
  | lengthened located _ =>
    cases again with
    | lengthened also absent =>
      cases located.symm.trans also
      exact VariableTagging.scoreAt?_last _ _ record.score absent

/-- A slot that does not take a row does not take it behind another row either. -/
theorem fill?_refused (same : record.tag = other.tag) (refused : record.fill? tags slot = none)
    (taken : other.fill? tags slot = some new) : record.fill? tags (some new) = none := by
  rw [Option.eq_none_iff_forall_ne_some] at refused ⊢
  intro newer later
  obtain ⟨later, _⟩ := fill?_eq_some_iff.mp later
  obtain ⟨filled, known⟩ := fill?_eq_some_iff.mp taken
  cases filled with
  | started =>
    -- The other row was taken by an empty slot, so the tag of both is known.
    have known : tags.contains record.tag = true := same ▸ known rfl
    exact refused record.tagging (fill?_eq_some_iff.mpr ⟨.started, fun _ => known⟩)
  | @lengthened tagging location located absent =>
    cases later with
    | @lengthened _ asked wanted missing =>
      -- A location without a score in the longer tagging has none in the shorter one.
      have missing : tagging.scoreAt? asked = none := by
        rw [VariableTagging.scoreAt?_eq_none_iff] at missing ⊢
        intro entry member
        exact missing entry (List.mem_append_left _ member)
      exact refused _ (fill?_eq_some_iff.mpr ⟨.lengthened wanted missing, nofun⟩)

end TaggingRecord

/-! ## The slots of a library -/

namespace Library

variable {library after : Library} {source : Tagging → Prop} {record : TaggingRecord}

/-- Whether the row's family is known and has the axes of the row's location. -/
def hasPlace (library : Library) (record : TaggingRecord) : Bool :=
  (library.font? record.family).any fun font => record.location.all font.fits

theorem font?_eq_some_iff {family : String} {font : Font} :
    library.font? family = some font ↔
      ∃ position, library.placed? family = some (position, font) := by
  simp [font?]

theorem hasPlace_iff : library.hasPlace record = true ↔
    ∃ position font, library.placed? record.family = some (position, font) ∧
      ∀ location ∈ record.location, font.fits location = true := by
  simp only [hasPlace, Option.any_eq_true, Option.all_eq_true, font?_eq_some_iff]
  constructor
  · rintro ⟨font, ⟨position, placed⟩, fitting⟩
    exact ⟨position, font, placed, fitting⟩
  · rintro ⟨position, font, placed, fitting⟩
    exact ⟨font, ⟨position, placed⟩, fitting⟩

theorem edited_addRecord? (added : library.addRecord? record = some after) :
    library.Edited (fun _ => True) after :=
  edited_of_addRecord? trivial added

theorem arranged_addRecords (arranged : library.Arranged) (records : List TaggingRecord) :
    (library.addRecords records).2.Arranged :=
  addRecords_invariant (fun _ => True) arranged_edited (fun _ _ => trivial) arranged

theorem families_addRecords (library : Library) (records : List TaggingRecord) :
    (library.addRecords records).2.fonts.map (fun font => (font.name, font.axes)) =
      library.fonts.map fun font => (font.name, font.axes) :=
  addRecords_invariant (fun _ => True)
    (P := fun after => after.fonts.map (fun font => (font.name, font.axes)) =
      library.fonts.map fun font => (font.name, font.axes))
    (fun same edited => (families_edited edited).trans same) (fun _ _ => trivial) rfl

/-- A view of the font of a family is found in the list of views. -/
theorem map_font? {α : Type} (library : Library) (view : Font → α) (family : String) :
    (library.font? family).map view =
      (lastUnder? library.positions family).bind fun position =>
        (library.fonts.map view)[position]? := by
  rw [font?, placed?]
  cases lastUnder? library.positions family with
  | none => rfl
  | some position => cases found : library.fonts[position]? <;> simp [found]

/-- A font with a known name keeps its axes. -/
theorem axes_font?_edited (edited : library.Edited source after) (family : String) :
    (after.font? family).map Font.axes = (library.font? family).map Font.axes := by
  have positions : after.positions = library.positions := by cases edited <;> rfl
  have axes : after.fonts.map Font.axes = library.fonts.map Font.axes := by
    simpa [Function.comp_def] using congrArg (List.map Prod.snd) (families_edited edited)
  rw [map_font?, map_font?, positions, axes]

theorem hasPlace_edited (edited : library.Edited source after) (record : TaggingRecord) :
    after.hasPlace record = library.hasPlace record := by
  have place (library : Library) : library.hasPlace record =
      ((library.font? record.family).map Font.axes).any fun axes =>
        record.location.all (Font.untagged record.family axes).fits := by
    rw [Option.any_map]
    rfl
  rw [place after, place library, axes_font?_edited edited]

/-- The font that a tagging names is looked up under that name, so it need not be asked for it. -/
theorem Arranged.isSome_add?_iff (arranged : library.Arranged) {tagging : Tagging} :
    (library.add? tagging).isSome = true ↔
      ∃ position font, library.placed? tagging.font = some (position, font) ∧
        library.registry.tags.contains tagging.tag = true ∧
        (∀ location ∈ tagging.locations, font.fits location = true) ∧
        font.tagging? tagging.tag = none := by
  rw [Option.isSome_iff_exists]
  constructor
  · rintro ⟨after, added⟩
    obtain ⟨position, font, placed, known, fitting, _, free, _⟩ := add?_eq_some_iff.mp added
    exact ⟨position, font, placed, known, fitting, free⟩
  · rintro ⟨position, font, placed, known, fitting, free⟩
    have own := (arranged.name_of_placed placed).symm
    exact ⟨_, add?_eq_some_iff.mpr ⟨position, font, placed, known, fitting, own, free, rfl⟩⟩

/-- A row that is taken in fills its slot, and it was for a font that has room for it. -/
theorem Arranged.fill?_of_addRecord? (arranged : library.Arranged)
    (added : library.addRecord? record = some after) :
    library.hasPlace record = true ∧ ∃ new,
      record.fill? library.registry.tags (library.slot? record.family record.tag) = some new ∧
      after.slot? record.family record.tag = some new := by
  obtain ⟨⟨new, holds, filled⟩, _⟩ := arranged.slot?_addRecord? added
  obtain ⟨family, location?, tag, score⟩ := record
  cases location? with
  | none =>
    obtain ⟨position, font, placed, known, _⟩ := add?_eq_some_iff.mp added
    refine ⟨hasPlace_iff.mpr ⟨position, font, placed, nofun⟩, new, ?_, holds⟩
    exact TaggingRecord.fill?_eq_some_iff.mpr ⟨filled, fun _ => known⟩
  | some location =>
    obtain ⟨position, font, placed, fitting, taken⟩ := addAt?_eq_some_iff.mp added
    refine ⟨hasPlace_iff.mpr ⟨position, font, placed, by simpa using fitting⟩, new, ?_, holds⟩
    refine TaggingRecord.fill?_eq_some_iff.mpr ⟨filled, fun empty => ?_⟩
    rcases taken with ⟨tagging, held, _⟩ | ⟨_, started⟩
    · -- A row that lengthens a tagging does not find its slot empty.
      have filled := (slot?_of_placed placed tag).symm.trans empty
      cases filled.symm.trans held
    · obtain ⟨_, _, _, known, _⟩ := add?_eq_some_iff.mp started
      exact known

/-- A row is taken in if there is room for it and its slot takes it. -/
theorem Arranged.isSome_addRecord?_iff (arranged : library.Arranged) :
    (library.addRecord? record).isSome = true ↔ library.hasPlace record = true ∧
      (record.fill? library.registry.tags
        (library.slot? record.family record.tag)).isSome = true := by
  constructor
  · intro accepted
    obtain ⟨after, added⟩ := Option.isSome_iff_exists.mp accepted
    obtain ⟨place, new, filled, _⟩ := arranged.fill?_of_addRecord? added
    exact ⟨place, Option.isSome_iff_exists.mpr ⟨new, filled⟩⟩
  · rintro ⟨place, takes⟩
    obtain ⟨position, font, placed, fitting⟩ := hasPlace_iff.mp place
    obtain ⟨new, filled⟩ := Option.isSome_iff_exists.mp takes
    rw [slot?_of_placed placed] at filled
    obtain ⟨filled, known⟩ := TaggingRecord.fill?_eq_some_iff.mp filled
    obtain ⟨family, location?, tag, score⟩ := record
    generalize held : font.tagging? tag = slot at filled known
    cases filled with
    | started =>
      -- Nothing is in the slot, so the row has to be added as a tagging of its own.
      cases location? with
      | none =>
        exact arranged.isSome_add?_iff.mpr ⟨position, font, placed, known rfl, nofun, held⟩
      | some location =>
        have fits := fitting location rfl
        have accepted : (library.add? (oneLocation family tag location score)).isSome = true := by
          refine arranged.isSome_add?_iff.mpr ⟨position, font, placed, known rfl, ?_, held⟩
          exact fun other member => List.mem_singleton.mp member ▸ fits
        obtain ⟨after, started⟩ := Option.isSome_iff_exists.mp accepted
        have apart : ∀ tagging, font.tagging? tag ≠ some (.varying tagging) := by simp [held]
        exact Option.isSome_iff_exists.mpr
          ⟨after, addAt?_eq_some_iff.mpr ⟨position, font, placed, fits, .inr ⟨apart, started⟩⟩⟩
    | @lengthened tagging location located absent =>
      obtain rfl : location? = some location := located
      exact Option.isSome_iff_exists.mpr
        ⟨_, addAt?_eq_some_iff.mpr ⟨position, font, placed, fitting location rfl,
          .inl ⟨tagging, held, absent, rfl⟩⟩⟩

/-! ## A registry to fill -/

/-- The weight axis. -/
def wght : AxisTag :=
  ⟨AxisTag.filled [0x77, 0x67, 0x68, 0x74], _,
    (by simp [AxisTag.IsName] : AxisTag.IsName [0x77, 0x67, 0x68, 0x74]), rfl⟩

/-- One family that varies in weight, one that does not vary, and one tag. -/
def flexRegistry : Registry :=
  ⟨TagCatalogue.empty.register (TagDefinition.named "/Expressive/Loud"),
    [.untagged "Roboto Flex" [⟨wght, Binary.ofNat _ false 100, Binary.ofNat _ false 900, none⟩],
      .untagged "Inter" []], RuleTable.ofRows [], EmbeddingIndex.empty⟩

end Library

end FontScores
