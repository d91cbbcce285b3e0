import Mathlib
import FontScores.Platform
import FontScores.Proofs.Library.Arrangement
import FontScores.Proofs.Reference.Families

/-!
# What holds of a library after any session

`Font.Sound` says what an edit keeps true of a font, and `Library.Sound` adds what lets a font be
found: its position is entered under its name, and a font that cannot be found that way has no
taggings.  `Library.Consistent` is what follows when, as in every registry that was built, no two
families have the same name.

A row that lengthens a variable tagging is not checked again for its family or its tag.  It needs no
such check, because the tagging that it lengthens sits in its slot already and passed them.
-/

namespace FontScores

open ReferenceData (lastUnder? lastUnder?_mem exists_lastUnder?_of_mem)

/-! ## Fonts -/

/-- No two entries of the tagging are for the same location. -/
def Tagging.Separate (tagging : Tagging) : Prop :=
  tagging.locations.Pairwise fun one other => (one == other) = false

/-- A variable tagging whose scores were pushed one after the other. -/
def Tagging.Pushed : Tagging → Prop
  | fixed _ => True
  | varying tagging =>
    ∃ entries, tagging = VariableTagging.ofEntries tagging.font tagging.tag entries

namespace VariableTagging

theorem scoreAt?_eq_none_iff {tagging : VariableTagging} {location : Location} :
    tagging.scoreAt? location = none ↔
      ∀ entry ∈ tagging.entries, (entry.1 == location) = false := by
  simp [scoreAt?]

/-- A score is pushed only for a location that has none. -/
theorem separate_extend {tagging : VariableTagging} {location : Location} {score : Single}
    (separate : (Tagging.varying tagging).Separate)
    (absent : tagging.scoreAt? location = none) :
    (Tagging.varying
      { tagging with entries := tagging.entries ++ [(location, score)] }).Separate := by
  simp only [Tagging.Separate, Tagging.locations, List.map_append, List.map_singleton,
    List.pairwise_append] at separate ⊢
  refine ⟨separate, List.pairwise_singleton _ _, fun one member other last => ?_⟩
  obtain ⟨entry, stored, rfl⟩ := List.mem_map.mp member
  rw [List.mem_singleton.mp last]
  exact scoreAt?_eq_none_iff.mp absent entry stored

theorem separate_push {tagging : VariableTagging} (location : Location) (score : Single)
    (separate : (Tagging.varying tagging).Separate) :
    (Tagging.varying (tagging.push location score)).Separate := by
  simp only [push]
  cases pushed : tagging.push? location score with
  | none => exact separate
  | some longer =>
    obtain ⟨absent, rfl⟩ := push?_eq_some_iff.mp pushed
    exact separate_extend separate absent

/-- Pushes scores in turn. -/
def pushAll (tagging : VariableTagging) (entries : List (Location × Single)) : VariableTagging :=
  entries.foldl (fun tagging (location, score) => tagging.push location score) tagging

theorem pushAll_cons (tagging : VariableTagging) (location : Location) (score : Single)
    (others : List (Location × Single)) :
    tagging.pushAll ((location, score) :: others) =
      (tagging.push location score).pushAll others := rfl

theorem separate_pushAll {tagging : VariableTagging} (entries : List (Location × Single))
    (separate : (Tagging.varying tagging).Separate) :
    (Tagging.varying (tagging.pushAll entries)).Separate := by
  induction entries generalizing tagging with
  | nil => exact separate
  | cons entry others ih => exact ih (separate_push entry.1 entry.2 separate)

/-- Scores for locations that are all different are all taken. -/
theorem pushAll_of_separate (tagging : VariableTagging) {entries : List (Location × Single)}
    (separate : (Tagging.varying
      { tagging with entries := tagging.entries ++ entries }).Separate) :
    tagging.pushAll entries = { tagging with entries := tagging.entries ++ entries } := by
  induction entries generalizing tagging with
  | nil => simp [pushAll]
  | cons entry others ih =>
    obtain ⟨location, score⟩ := entry
    have absent : tagging.scoreAt? location = none := by
      rw [scoreAt?_eq_none_iff]
      intro other member
      simp only [Tagging.Separate, Tagging.locations, List.map_append, List.map_cons,
        List.pairwise_append] at separate
      exact separate.2.2 other.1 (List.mem_map_of_mem member) location (by simp)
    have pushed : tagging.push location score =
        { tagging with entries := tagging.entries ++ [(location, score)] } := by
      simp [push, push?, absent]
    rw [pushAll_cons, pushed, ih _ (by simpa using separate)]
    simp

theorem separate_ofEntries (font tag : String) (entries : List (Location × Single)) :
    (Tagging.varying (ofEntries font tag entries)).Separate :=
  separate_pushAll entries (List.Pairwise.nil : (Tagging.varying (empty font tag)).Separate)

/-- Pushing a score leaves the font and the tag as they are. -/
theorem slot_push (tagging : VariableTagging) (location : Location) (score : Single) :
    (tagging.push location score).font = tagging.font ∧
      (tagging.push location score).tag = tagging.tag := by
  rw [push]
  cases pushed : tagging.push? location score with
  | none => exact ⟨rfl, rfl⟩
  | some longer =>
    obtain ⟨_, rfl⟩ := push?_eq_some_iff.mp pushed
    exact ⟨rfl, rfl⟩

theorem slot_pushAll (tagging : VariableTagging) (entries : List (Location × Single)) :
    (tagging.pushAll entries).font = tagging.font ∧
      (tagging.pushAll entries).tag = tagging.tag := by
  induction entries generalizing tagging with
  | nil => exact ⟨rfl, rfl⟩
  | cons entry others ih =>
    obtain ⟨location, score⟩ := entry
    obtain ⟨sameFont, sameTag⟩ := slot_push tagging location score
    rw [pushAll_cons, (ih _).1, (ih _).2, sameFont, sameTag]
    exact ⟨rfl, rfl⟩

theorem pushed_ofEntries (font tag : String) (entries : List (Location × Single)) :
    (Tagging.varying (ofEntries font tag entries)).Pushed := by
  obtain ⟨sameFont, sameTag⟩ := slot_pushAll (empty font tag) entries
  refine ⟨entries, ?_⟩
  rw [show (ofEntries font tag entries).font = font from sameFont,
    show (ofEntries font tag entries).tag = tag from sameTag]

end VariableTagging

theorem Tagging.Pushed.separate {tagging : Tagging} (pushed : tagging.Pushed) :
    tagging.Separate := by
  cases tagging with
  | fixed _ => exact List.Pairwise.nil
  | varying tagging =>
    obtain ⟨entries, same⟩ := pushed
    rw [same]
    exact VariableTagging.separate_ofEntries _ _ _

theorem TaggingRecord.pushed_tagging (record : TaggingRecord) : record.tagging.Pushed := by
  obtain ⟨family, location?, tag, score⟩ := record
  cases location? with
  | none => trivial
  | some location => exact ⟨[(location, score)], rfl⟩

theorem Font.fits_iff {font : Font} {location : Location} :
    font.fits location = true ↔ ∀ axis ∈ location.axes, axis ∈ font.axes.map Axis.tag := by
  simp only [fits, axis?, List.all_eq_true, List.find?_isSome, decide_eq_true_eq, List.mem_map]

/-- What holds of every tagging of a font with this name and these axes, given the known tags. -/
structure Tagging.SoundIn (tags : TagCatalogue) (name : String) (axes : List Axis)
    (tagging : Tagging) : Prop where
  owned : tagging.font = name
  known : tags.contains tagging.tag = true
  fitting : ∀ location ∈ tagging.locations, ∀ axis ∈ location.axes, axis ∈ axes.map Axis.tag
  separate : tagging.Separate

/-- What holds of every font of a library, given the known tags. -/
structure Font.Sound (tags : TagCatalogue) (font : Font) : Prop where
  each : ∀ tagging ∈ font.taggings, tagging.SoundIn tags font.name font.axes
  slots : (font.taggings.map Tagging.tag).Nodup

namespace Font

variable {source : Tagging → Prop} {tags : TagCatalogue} {family : String} {font after : Font}
  {concerned : Tagging}

theorem sound_untagged (tags : TagCatalogue) (name : String) (axes : List Axis) :
    (untagged name axes).Sound tags := by
  constructor <;> simp [untagged]

theorem sound_edited (separate : ∀ tagging, source tagging → tagging.Separate)
    (sound : font.Sound tags) (edited : font.Edited source tags family concerned after) :
    after.Sound tags := by
  refine ⟨fun tagging member => ?_, slots_edited sound.slots edited⟩
  rw [name_edited edited, axes_edited edited]
  cases edited with
  | append given asked own known fitting free =>
    rcases List.mem_append.mp member with earlier | last
    · exact sound.each tagging earlier
    · rw [List.mem_singleton.mp last]
      exact .mk own known (fun location at_ => fits_iff.mp (fitting location at_))
        (separate _ given)
  | @extend old location score given fitting held absent =>
    obtain ⟨one, other, split, _, replaced⟩ := split_of_held held
    rw [replaced _ rfl] at member
    rcases List.mem_append.mp member with before | member
    · exact sound.each tagging (by simp [split, before])
    rcases List.mem_cons.mp member with rfl | later
    · -- The longer tagging sits in the slot of the shorter one, which passed all the checks.
      have was := sound.each _ (tagging?_mem held)
      refine ⟨was.owned, was.known, fun other member => ?_,
        VariableTagging.separate_extend was.separate absent⟩
      simp only [Tagging.locations, List.map_append, List.map_singleton] at member
      rcases List.mem_append.mp member with stored | last
      · exact was.fitting other stored
      · rw [List.mem_singleton.mp last]
        exact fits_iff.mp fitting
    · exact sound.each tagging (by simp [split, later])
  | takeOut held => exact sound.each tagging (List.mem_of_mem_eraseP member)

end Font

/-! ## Libraries -/

namespace Library

/-- What an edit keeps true of a library. -/
structure Sound (library : Library) : Prop where
  positions : library.positions = positionsOf library.fonts
  /-- A font that its name does not lead to is empty. -/
  found : ∀ position font, library.fonts[position]? = some font → font.taggings ≠ [] →
    lastUnder? library.positions font.name = some position
  each : ∀ font ∈ library.fonts, font.Sound library.registry.tags

variable {library after : Library} {source : Tagging → Prop}

theorem Sound.arranged (sound : library.Sound) : library.Arranged :=
  ⟨sound.positions, sound.found, fun font member => (sound.each font member).slots⟩

theorem sound_ofRegistry (registry : Registry) : (ofRegistry registry).Sound := by
  have arranged := arranged_ofRegistry registry
  refine ⟨arranged.positions, arranged.found, fun font member => ?_⟩
  obtain ⟨name, axes, rfl⟩ := eq_untagged_of_mem_ofRegistry member
  exact Font.sound_untagged _ _ _

theorem sound_edited (separate : ∀ tagging, source tagging → tagging.Separate)
    (sound : library.Sound) (edited : library.Edited source after) : after.Sound := by
  have arranged := arranged_edited sound.arranged edited
  refine ⟨arranged.positions, arranged.found, fun font member => ?_⟩
  cases edited with
  | retrieve known => exact sound.each font member
  | @font family position before new concerned placed edited =>
    rcases List.mem_or_eq_of_mem_set member with old | rfl
    · exact sound.each font old
    · have among := List.mem_of_getElem? (placed?_eq_some_iff.mp placed).2
      exact Font.sound_edited separate (sound.each before among) edited

/-! ## Whole sessions over a registry that was built -/

/-- The library is one over this registry, and everything in it is where it belongs. -/
structure Consistent (registry : Registry) (library : Library) : Prop where
  families : library.fonts.map (fun font => (font.name, font.axes)) =
    registry.families.map fun font => (font.name, font.axes)
  distinct : (library.fonts.map Font.name).Nodup
  indexed : ∀ name position, lastUnder? library.positions name = some position ↔
    ∃ font, library.fonts[position]? = some font ∧ font.name = name
  owned : ∀ font ∈ library.fonts, ∀ tagging ∈ font.taggings, tagging.font = font.name
  slots : ∀ font ∈ library.fonts, (font.taggings.map Tagging.tag).Nodup
  known : ∀ font ∈ library.fonts, ∀ tagging ∈ font.taggings,
    registry.tags.contains tagging.tag = true
  fitting : ∀ font ∈ library.fonts, ∀ tagging ∈ font.taggings,
    ∀ location ∈ tagging.locations, ∀ axis ∈ location.axes, axis ∈ font.axes.map Axis.tag
  separate : ∀ font ∈ library.fonts, ∀ tagging ∈ font.taggings,
    tagging.locations.Pairwise fun one other => (one == other) = false

/-- Where no name occurs twice, a position is entered under a name exactly when the font there has
that name. -/
theorem indexed_of_nodup {fonts : List Font} (distinct : (fonts.map Font.name).Nodup)
    (name : String) (position : Nat) :
    lastUnder? (positionsOf fonts) name = some position ↔
      ∃ font, fonts[position]? = some font ∧ font.name = name := by
  have named : (∃ font, fonts[position]? = some font ∧ font.name = name) ↔
      (fonts.map Font.name)[position]? = some name := by simp
  rw [named]
  -- Backwards: some position is entered under the name, and only one font has it.
  refine ⟨fun found => mem_positionsOf.mp (lastUnder?_mem found), fun at_ => ?_⟩
  obtain ⟨last, found⟩ := exists_lastUnder?_of_mem (mem_positionsOf.mpr at_)
  have also := mem_positionsOf.mp (lastUnder?_mem found)
  obtain ⟨bound, _⟩ := List.getElem?_eq_some_iff.mp at_
  have same : position = last := (List.getElem?_inj bound distinct).mp (at_.trans also.symm)
  rw [same]
  exact found

theorem consistent_of_sound {registry : Registry} (sound : library.Sound)
    (same : library.registry = registry)
    (families : library.fonts.map (fun font => (font.name, font.axes)) =
      registry.families.map fun font => (font.name, font.axes))
    (distinct : (registry.families.map Font.name).Nodup) : library.Consistent registry := by
  subst same
  have names : library.fonts.map Font.name = library.registry.families.map Font.name := by
    simpa [List.map_map, Function.comp_def] using congrArg (List.map Prod.fst) families
  have different : (library.fonts.map Font.name).Nodup := names ▸ distinct
  have each := fun font member tagging held => (sound.each font member).each tagging held
  -- Only the index needs the names to be different; the rest holds of each font by itself.
  constructor
  case families => exact families
  case distinct => exact different
  case indexed =>
    rw [sound.positions]
    exact indexed_of_nodup different
  case owned => exact fun font member tagging held => (each font member tagging held).owned
  case slots => exact fun font member => (sound.each font member).slots
  case known => exact fun font member tagging held => (each font member tagging held).known
  case fitting => exact fun font member tagging held => (each font member tagging held).fitting
  case separate => exact fun font member tagging held => (each font member tagging held).separate

/-- After any session over a registry that was built, whose given variable taggings had their
scores pushed, the library is consistent. -/
theorem consistent_after_session [PatternEngine] (data : ReferenceData) (registry : Registry)
    (built : data.build = .ok registry) (operations : List Operation)
    (pushed : ∀ tagging, .add tagging ∈ operations → tagging.Pushed) :
    ((ofRegistry registry).run operations).Consistent registry := by
  -- A row brings in a tagging with one score at most, so only taggings given whole need the
  -- condition.
  have given : ∀ operation ∈ operations, ∀ tagging, operation.Brings tagging → tagging.Pushed := by
    intro operation member tagging brought
    cases operation with
    | add given => exact brought ▸ pushed given member
    | importRecord record => exact brought ▸ record.pushed_tagging
    | importTable text =>
      obtain ⟨record, _, rfl⟩ := brought
      exact record.pushed_tagging
    | remove family tag => exact brought.elim
    | exemplars tag => exact brought.elim
  have sound := run_invariant Tagging.Pushed
    (sound_edited fun _ => Tagging.Pushed.separate) given (sound_ofRegistry registry)
  refine consistent_of_sound sound (registry_run _ operations) ?_
    (ReferenceData.nodup_families_of_build built)
  rw [families_run]
  simp [ofRegistry, Font.untagged]

/-- A session over two families of which the second was given twice: its variable tagging gets a
score pushed and another from a row. -/
theorem consistent_after_session_of_flex :
    let wght : AxisTag := ⟨AxisTag.filled [0x77, 0x67, 0x68, 0x74], _,
      (by simp [AxisTag.IsName] : AxisTag.IsName [0x77, 0x67, 0x68, 0x74]), rfl⟩
    let flex : Font := .untagged "Roboto Flex"
      [⟨wght, Binary.ofNat _ false 100, Binary.ofNat _ false 900, none⟩]
    let data : ReferenceData := {
      extraTags := [TagDefinition.named "/Expressive/Loud"]
      extraFamilies := [.untagged "Roboto" [], flex, .untagged "Roboto Flex" []] }
    let registry : Registry := ⟨
      TagCatalogue.empty.register (TagDefinition.named "/Expressive/Loud"),
      [.untagged "Roboto" [], flex], RuleTable.ofRows [], EmbeddingIndex.empty⟩
    let tagging : Tagging := .varying (VariableTagging.ofEntries "Roboto Flex" "/Expressive/Loud"
      [(Location.empty.insert wght (Binary.ofNat _ false 400), Binary.ofNat _ false 30)])
    data.build = .ok registry ∧ tagging.Pushed ∧
      ((ofRegistry registry).run
        [.add tagging, .importTable "Roboto Flex,wght@900,/Expressive/Loud,95",
          .exemplars "/Expressive/Loud", .remove "Roboto" "/Expressive/Loud"]).Consistent
        registry := by
  intro wght flex data registry tagging
  have built : data.build = .ok registry := by rfl
  have pushed : tagging.Pushed := ⟨_, rfl⟩
  refine ⟨built, pushed, consistent_after_session data registry built _ fun given member => ?_⟩
  obtain rfl : given = tagging := by simpa using member
  exact pushed

end Library

end FontScores
