import Mathlib
import FontScores.Proofs.Library.Operations
import FontScores.Proofs.Reference.Entries

/-!
# Where taggings are found

A tagging is looked up in two steps: the name of its family leads to a font, and its tag leads to
one of the font's taggings.  `Library.Arranged` says that both steps are unambiguous.  Every font
with taggings is the one that its name leads to, and no font has two taggings for one tag.

Nothing else is asked of the taggings, so this holds after every session, whatever was brought in.
-/

namespace FontScores

open ReferenceData (lastUnder? lastUnder?_mem)

/-! ## Fonts -/

namespace Font

variable {source : Tagging → Prop} {tags : TagCatalogue} {family : String} {font after : Font}
  {concerned : Tagging}

theorem name_edited (edited : font.Edited source tags family concerned after) :
    after.name = font.name := by
  cases edited <;> rfl

theorem axes_edited (edited : font.Edited source tags family concerned after) :
    after.axes = font.axes := by
  cases edited <;> rfl

theorem slots_append {tagging : Tagging} (slots : (font.taggings.map Tagging.tag).Nodup)
    (free : font.tagging? tagging.tag = none) :
    ((font.taggings ++ [tagging]).map Tagging.tag).Nodup := by
  rw [List.map_append, List.map_singleton]
  -- A tagging of the same tag would have been found in the slot that was free.
  refine List.nodup_append.mpr ⟨slots, by simp, fun one member other last same => ?_⟩
  obtain ⟨held, stored, rfl⟩ := List.mem_map.mp member
  rw [List.mem_singleton.mp last] at same
  exact tagging?_eq_none_iff.mp free held stored same

theorem slots_replace {old new : Tagging} (slots : (font.taggings.map Tagging.tag).Nodup)
    (held : font.tagging? old.tag = some old) (same : new.tag = old.tag) :
    ((font.replace new).taggings.map Tagging.tag).Nodup := by
  obtain ⟨one, other, split, _, replaced⟩ := split_of_held held
  rw [split] at slots
  rw [replaced new same]
  simpa [same] using slots

/-- An edit leaves every tag with one tagging at most. -/
theorem slots_edited (slots : (font.taggings.map Tagging.tag).Nodup)
    (edited : font.Edited source tags family concerned after) :
    (after.taggings.map Tagging.tag).Nodup := by
  cases edited with
  | append given asked own known fitting free => exact slots_append slots free
  | @extend old location score given fitting held absent =>
    have inPlace : font.tagging? (Tagging.varying old).tag = some (.varying old) := held
    exact slots_replace slots inPlace rfl
  | takeOut held =>
    have sublist : (font.remove concerned.tag).taggings.Sublist font.taggings :=
      List.eraseP_sublist
    exact slots.sublist (sublist.map Tagging.tag)

/-- Where every tag has one tagging at most, every tagging is the one of its tag. -/
theorem tagging?_eq_some_iff (slots : (font.taggings.map Tagging.tag).Nodup) {tag : String}
    {tagging : Tagging} :
    font.tagging? tag = some tagging ↔ tagging ∈ font.taggings ∧ tagging.tag = tag :=
  find?_key_eq_some_iff slots

end Font

/-! ## Where a font is found -/

namespace Library

theorem mem_positionsOf {fonts : List Font} {name : String} {position : Nat} :
    (name, position) ∈ positionsOf fonts ↔ (fonts.map Font.name)[position]? = some name := by
  simp only [positionsOf, List.mem_map, Prod.exists, Prod.mk.injEq, List.mem_zipIdx_iff_getElem?,
    List.getElem?_map, Option.map_eq_some_iff]
  constructor
  · rintro ⟨font, at_, found, rfl, rfl⟩
    exact ⟨font, found, rfl⟩
  · rintro ⟨font, found, rfl⟩
    exact ⟨font, position, found, rfl, rfl⟩

/-- The positions depend on nothing but the names. -/
theorem positionsOf_congr {one other : List Font} (same : one.map Font.name = other.map Font.name) :
    positionsOf one = positionsOf other := by
  have named (fonts : List Font) : positionsOf fonts = (fonts.map Font.name).zipIdx := by
    simp [positionsOf, List.zipIdx_map, Prod.map]
  rw [named, named, same]

theorem map_set_same {α β : Type} {f : α → β} {items : List α} {position : Nat} {old new : α}
    (found : items[position]? = some old) (same : f new = f old) :
    (items.set position new).map f = items.map f := by
  obtain ⟨bound, rfl⟩ := List.getElem?_eq_some_iff.mp found
  have inside : position < (items.map f).length := by simpa using bound
  rw [List.map_set, same]
  simpa using List.set_getElem_self inside

/-- Every tagging can be looked up by its family and its tag. -/
structure Arranged (library : Library) : Prop where
  positions : library.positions = positionsOf library.fonts
  /-- A font that its name does not lead to is empty. -/
  found : ∀ position font, library.fonts[position]? = some font → font.taggings ≠ [] →
    lastUnder? library.positions font.name = some position
  slots : ∀ font ∈ library.fonts, (font.taggings.map Tagging.tag).Nodup

variable {library after : Library} {source : Tagging → Prop}

theorem Arranged.name_of_placed (arranged : library.Arranged) {family : String} {position : Nat}
    {font : Font} (placed : library.placed? family = some (position, font)) :
    font.name = family := by
  obtain ⟨indexed, found⟩ := placed?_eq_some_iff.mp placed
  rw [arranged.positions] at indexed
  simpa [found] using mem_positionsOf.mp (lastUnder?_mem indexed)

theorem Arranged.slots_of_placed (arranged : library.Arranged) {family : String} {position : Nat}
    {font : Font} (placed : library.placed? family = some (position, font)) :
    (font.taggings.map Tagging.tag).Nodup :=
  arranged.slots font (List.mem_of_getElem? (placed?_eq_some_iff.mp placed).2)

theorem eq_untagged_of_mem_ofRegistry {registry : Registry} {font : Font}
    (member : font ∈ (ofRegistry registry).fonts) : ∃ name axes, font = .untagged name axes := by
  obtain ⟨family, _, rfl⟩ := List.mem_map.mp member
  exact ⟨_, _, rfl⟩

theorem arranged_ofRegistry (registry : Registry) : (ofRegistry registry).Arranged := by
  constructor
  case positions => rfl
  case found =>
    intro position font at_ tagged
    obtain ⟨name, axes, rfl⟩ := eq_untagged_of_mem_ofRegistry (List.mem_of_getElem? at_)
    exact absurd rfl tagged
  case slots =>
    intro font member
    obtain ⟨name, axes, rfl⟩ := eq_untagged_of_mem_ofRegistry member
    exact List.nodup_nil

/-! ## Through an edit -/

theorem registry_edited (edited : library.Edited source after) :
    after.registry = library.registry := by
  cases edited <;> rfl

/-- Names and axes of the fonts stay as they are. -/
theorem families_edited (edited : library.Edited source after) :
    after.fonts.map (fun font => (font.name, font.axes)) =
      library.fonts.map fun font => (font.name, font.axes) := by
  cases edited with
  | retrieve known => rfl
  | font placed edited =>
    refine map_set_same (placed?_eq_some_iff.mp placed).2 ?_
    rw [Font.name_edited edited, Font.axes_edited edited]

theorem arranged_edited (arranged : library.Arranged) (edited : library.Edited source after) :
    after.Arranged := by
  cases edited with
  | retrieve known => exact ⟨arranged.positions, arranged.found, arranged.slots⟩
  | @font family position before new concerned placed edited =>
    obtain ⟨indexed, found⟩ := placed?_eq_some_iff.mp placed
    have named : new.name = family := by
      rw [Font.name_edited edited, arranged.name_of_placed placed]
    constructor
    case positions =>
      change library.positions = positionsOf (library.fonts.set position new)
      rw [arranged.positions]
      exact positionsOf_congr (map_set_same found (Font.name_edited edited)).symm
    case found =>
      intro other font at_ tagged
      change (library.fonts.set position new)[other]? = some font at at_
      change lastUnder? library.positions font.name = some other
      -- At the position of the edit the font has its old name; elsewhere nothing has changed.
      rw [List.getElem?_set] at at_
      split at at_
      next here =>
        subst here
        split at at_
        · rw [← Option.some.inj at_, named]
          exact indexed
        · cases at_
      · exact arranged.found other font at_ tagged
    case slots =>
      intro font member
      rcases List.mem_or_eq_of_mem_set member with old | rfl
      · exact arranged.slots font old
      · exact Font.slots_edited (arranged.slots before (List.mem_of_getElem? found)) edited

/-! ## After any session -/

theorem families_run (library : Library) (operations : List Operation) :
    (library.run operations).fonts.map (fun font => (font.name, font.axes)) =
      library.fonts.map fun font => (font.name, font.axes) :=
  run_invariant (fun _ => True)
    (P := fun after => after.fonts.map (fun font => (font.name, font.axes)) =
      library.fonts.map fun font => (font.name, font.axes))
    (fun same edited => (families_edited edited).trans same) (fun _ _ _ _ => trivial) rfl

theorem arranged_run (registry : Registry) (operations : List Operation) :
    ((ofRegistry registry).run operations).Arranged :=
  run_invariant (fun _ => True) arranged_edited (fun _ _ _ _ => trivial)
    (arranged_ofRegistry registry)

end Library

end FontScores
