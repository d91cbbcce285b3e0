import Mathlib
import FontScores.Proofs.Library.Exemplars
import FontScores.Proofs.Library.Filling

/-!
# What an operation needs and what it changes

For each way to write to a library: exactly when it succeeds, and everything that it changes.  An
operation that succeeds changes the taggings of one font, in one place, and all it can do to the
memory is to forget the exemplars of one tag.  An operation that is refused changes nothing.

The conditions are those on what can be looked up: a family, its axes, what it has for a tag, and
the known tags.  In a library that a session led to nothing else is checked, although the store also
asks a font whether a tagging is its own.
-/

namespace FontScores

namespace Library

variable {library after : Library} {family tag : String}

/-! ## Changes to one font -/

/-- The libraries differ in nothing but the taggings of one family's font, which were `old` and are
`new`, and in that the exemplars of some tags are forgotten. -/
structure Changed (library : Library) (family : String) (old new : List Tagging)
    (forgotten : String → Prop) (after : Library) : Prop where
  registry : after.registry = library.registry
  positions : after.positions = library.positions
  fonts : ∃ position font, library.placed? family = some (position, font) ∧ font.taggings = old ∧
    after.fonts = library.fonts.set position { font with taggings := new }
  forgets : ∀ tag, forgotten tag → after.memo.get? tag = none
  remembers : ∀ tag, ¬forgotten tag → after.memo.get? tag = library.memo.get? tag

/-- The tags whose exemplars are forgotten when this tagging comes or goes. -/
def ForgottenFor (tagging : Tagging) (tag : String) : Prop :=
  tagging.isStatic = true ∧ tag = tagging.tag

theorem changed_withChange {position : Nat} {font font' : Font} {old new : List Tagging}
    (concerned : Tagging) (placed : library.placed? family = some (position, font))
    (was : font.taggings = old) (becomes : font' = { font with taggings := new }) :
    library.Changed family old new (ForgottenFor concerned)
      (library.withChange position font' concerned) := by
  subst becomes
  constructor
  case registry => rfl
  case positions => rfl
  case fonts => exact ⟨position, font, placed, was, rfl⟩
  case forgets =>
    rintro _ ⟨static, rfl⟩
    simp [withChange, forgetFor, static, ExemplarMemo.get?_forget]
  case remembers =>
    intro tag kept
    simp only [withChange, forgetFor]
    split
    next static =>
      -- One tag is forgotten, and it is not this one.
      have other : tag ≠ concerned.tag := fun same => kept ⟨static, same⟩
      rw [ExemplarMemo.get?_forget, if_neg other]
    · rfl

/-- Exemplars show nothing of a variable tagging, so none are forgotten for it. -/
theorem Changed.of_varying {old new : List Tagging} {tagging : VariableTagging}
    (changed : library.Changed family old new (ForgottenFor (.varying tagging)) after) :
    library.Changed family old new (fun _ => False) after := by
  have never (tag : String) : ¬ForgottenFor (.varying tagging) tag := by
    rintro ⟨static, _⟩
    cases static
  exact ⟨changed.registry, changed.positions, changed.fonts, nofun,
    fun tag _ => changed.remembers tag (never tag)⟩

/-! ## The three ways to write -/

/-- When a tagging is added: its family and its tag are known, the family has all axes of its
locations and nothing for its tag yet.  It then comes last. -/
structure AddsExactly (library : Library) (tagging : Tagging) : Prop where
  accepted : (library.add tagging).1 = true ↔
    ∃ font, library.font? tagging.font = some font ∧
      library.registry.tags.contains tagging.tag = true ∧
      (∀ location ∈ tagging.locations, ∀ axis ∈ location.axes, axis ∈ font.axes.map Axis.tag) ∧
      font.tagging? tagging.tag = none
  appended : (library.add tagging).1 = true → ∃ old,
    library.Changed tagging.font old (old ++ [tagging]) (ForgottenFor tagging)
      (library.add tagging).2
  refused : (library.add tagging).1 = false → (library.add tagging).2 = library

/-- When a row with a location is taken in: its family is known and has all axes of the location,
and either the slot holds a variable tagging without a score there, which gets one entry, or the
slot is empty and the tag is known, and a tagging with one entry comes last. -/
structure ScoresExactly (library : Library) (family tag : String) (location : Location)
    (score : Single) : Prop where
  accepted : (library.addRecord ⟨family, some location, tag, score⟩).1 = true ↔
    ∃ font, library.font? family = some font ∧
      (∀ axis ∈ location.axes, axis ∈ font.axes.map Axis.tag) ∧
      ((∃ tagging, font.tagging? tag = some (.varying tagging) ∧
          ∀ entry ∈ tagging.entries, (entry.1 == location) = false) ∨
        (font.tagging? tag = none ∧ library.registry.tags.contains tag = true))
  lengthened : ∀ tagging, library.slot? family tag = some (.varying tagging) →
    (library.addRecord ⟨family, some location, tag, score⟩).1 = true →
    ∃ before behind, library.Changed family (before ++ .varying tagging :: behind)
      (before ++
        .varying { tagging with entries := tagging.entries ++ [(location, score)] } :: behind)
      (fun _ => False) (library.addRecord ⟨family, some location, tag, score⟩).2
  started : library.slot? family tag = none →
    (library.addRecord ⟨family, some location, tag, score⟩).1 = true →
    ∃ old, library.Changed family old (old ++ [.varying ⟨family, tag, [(location, score)]⟩])
      (fun _ => False) (library.addRecord ⟨family, some location, tag, score⟩).2
  refused : (library.addRecord ⟨family, some location, tag, score⟩).1 = false →
    (library.addRecord ⟨family, some location, tag, score⟩).2 = library

/-- What a removal returns is what the slot holds, and it is taken from between the others. -/
structure RemovesExactly (library : Library) (family tag : String) : Prop where
  returned : (library.remove family tag).1 = library.slot? family tag
  taken : ∀ tagging, (library.remove family tag).1 = some tagging →
    ∃ before behind, library.Changed family (before ++ tagging :: behind) (before ++ behind)
      (ForgottenFor tagging) (library.remove family tag).2
  refused : (library.remove family tag).1 = none → (library.remove family tag).2 = library

theorem changed_of_add? {tagging : Tagging} (added : library.add? tagging = some after) :
    ∃ old, library.Changed tagging.font old (old ++ [tagging]) (ForgottenFor tagging) after := by
  obtain ⟨position, font, placed, _, _, _, _, rfl⟩ := add?_eq_some_iff.mp added
  exact ⟨font.taggings, changed_withChange tagging placed rfl rfl⟩

theorem Arranged.addsExactly (arranged : library.Arranged) (tagging : Tagging) :
    library.AddsExactly tagging := by
  constructor
  case accepted =>
    rw [← isSome_done?, ← add?, arranged.isSome_add?_iff]
    constructor
    · rintro ⟨position, font, placed, known, fitting, free⟩
      exact ⟨font, font?_eq_some_iff.mpr ⟨position, placed⟩, known,
        fun location given => Font.fits_iff.mp (fitting location given), free⟩
    · rintro ⟨font, found, known, fitting, free⟩
      obtain ⟨position, placed⟩ := font?_eq_some_iff.mp found
      exact ⟨position, font, placed, known,
        fun location given => Font.fits_iff.mpr (fitting location given), free⟩
  case appended => exact fun added => changed_of_add? (done?_of_done added)
  case refused => exact add_of_refused

/-- A slot takes a score at a location if it holds other locations only, or if it is empty and its
tag is known. -/
theorem isSome_fill?_located_iff {tags : TagCatalogue} {slot : Option Tagging}
    {location : Location} {score : Single} :
    (TaggingRecord.fill? tags ⟨family, some location, tag, score⟩ slot).isSome = true ↔
      (∃ tagging, slot = some (.varying tagging) ∧
          ∀ entry ∈ tagging.entries, (entry.1 == location) = false) ∨
        (slot = none ∧ tags.contains tag = true) := by
  cases slot with
  | none => simp [TaggingRecord.fill?]
  | some old =>
    cases old with
    | fixed tagging => simp [TaggingRecord.fill?]
    | varying tagging =>
      rw [Option.isSome_iff_exists]
      simp only [TaggingRecord.fill?_eq_some_iff, ← VariableTagging.scoreAt?_eq_none_iff]
      constructor
      · -- A tagging is there, so the row can only have lengthened it.
        rintro ⟨new, filled, _⟩
        cases filled with
        | lengthened located absent =>
          cases located
          exact .inl ⟨tagging, rfl, absent⟩
      · rintro (⟨_, same, absent⟩ | ⟨empty, _⟩)
        · cases same
          exact ⟨_, .lengthened rfl absent, fun free => by cases free⟩
        · cases empty

theorem Arranged.scoresExactly (arranged : library.Arranged) (family tag : String)
    (location : Location) (score : Single) :
    library.ScoresExactly family tag location score := by
  constructor
  case accepted =>
    rw [← isSome_done?, ← addRecord?, arranged.isSome_addRecord?_iff, hasPlace_iff,
      isSome_fill?_located_iff]
    constructor
    · rintro ⟨⟨position, font, placed, fitting⟩, slot⟩
      rw [slot?_of_placed placed] at slot
      exact ⟨font, font?_eq_some_iff.mpr ⟨position, placed⟩,
        Font.fits_iff.mp (fitting location rfl), slot⟩
    · rintro ⟨font, found, fitting, slot⟩
      obtain ⟨position, placed⟩ := font?_eq_some_iff.mp found
      rw [slot?_of_placed placed]
      refine ⟨⟨position, font, placed, fun _ given => ?_⟩, slot⟩
      exact Option.some.inj given ▸ Font.fits_iff.mpr fitting
  case lengthened =>
    intro tagging held added
    obtain ⟨position, font, placed, _, taken⟩ := addAt?_eq_some_iff.mp (done?_of_done added)
    rw [slot?_of_placed placed] at held
    rcases taken with ⟨other, also, _, same⟩ | ⟨apart, _⟩
    · -- The longer tagging stands where the shorter one stood.
      cases held.symm.trans also
      obtain ⟨before, behind, split, _, replaced⟩ := Font.split_of_held held
      refine ⟨before, behind, same ▸ (changed_withChange _ placed split ?_).of_varying⟩
      let longer : VariableTagging :=
        { tagging with entries := tagging.entries ++ [(location, score)] }
      have inPlace : (font.replace (.varying longer)).taggings =
          before ++ .varying longer :: behind :=
        replaced _ (show (Tagging.varying tagging).tag = tag from Font.tagging?_tag held)
      rw [← inPlace]
      rfl
    · exact absurd held (apart tagging)
  case started =>
    intro empty added
    obtain ⟨position, font, placed, _, taken⟩ := addAt?_eq_some_iff.mp (done?_of_done added)
    rw [slot?_of_placed placed] at empty
    rcases taken with ⟨tagging, held, _⟩ | ⟨_, started⟩
    · cases empty.symm.trans held
    · obtain ⟨old, changed⟩ := changed_of_add? started
      exact ⟨old, changed.of_varying⟩
  case refused => exact addRecord_of_refused

theorem removesExactly (library : Library) (family tag : String) :
    library.RemovesExactly family tag := by
  constructor
  case returned => exact fst_remove library family tag
  case taken =>
    intro tagging removed
    have found : library.remove? family tag = some (tagging, (library.remove family tag).2) := by
      rw [remove?, removed, Option.map_some]
    obtain ⟨position, font, placed, held, same⟩ := remove?_eq_some_iff.mp found
    obtain ⟨before, behind, split, left, _⟩ := Font.split_of_held held
    refine ⟨before, behind, same ▸ changed_withChange tagging placed split ?_⟩
    rw [← left]
    rfl
  case refused => exact remove_of_refused

/-- Behind any session, taggings are added, rows are taken in and taggings are removed exactly when
they can be, with no other change, and a row without a location is a static tagging to be added. -/
theorem operations_exact (registry : Registry) (operations : List Operation) :
    let library := (ofRegistry registry).run operations
    (∀ tagging, library.AddsExactly tagging) ∧
      (∀ family tag location score, library.ScoresExactly family tag location score) ∧
      (∀ family tag score,
        library.addRecord ⟨family, none, tag, score⟩ = library.add (.fixed ⟨family, tag, score⟩) ∧
          library.perform (.importRecord ⟨family, none, tag, score⟩) =
            library.perform (.add (.fixed ⟨family, tag, score⟩))) ∧
      ∀ family tag, library.RemovesExactly family tag := by
  intro library
  have arranged := arranged_run registry operations
  exact ⟨arranged.addsExactly, arranged.scoresExactly, fun _ _ _ => ⟨rfl, rfl⟩,
    library.removesExactly⟩

end Library

end FontScores
