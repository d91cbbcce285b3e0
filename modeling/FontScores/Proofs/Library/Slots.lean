import Mathlib
import FontScores.Proofs.Library.Listing

/-!
# What is in a slot

Every font has a slot for every tag, and a slot holds one tagging at most.  A row that is taken in
fills its own slot, or lengthens the variable tagging that is in it; a tagging that is removed
leaves its slot empty.  No other slot is touched by either.

`Housed` says that every tagging is in the slot that it names, so that the slots and the taggings of
a library are the same thing.
-/

namespace FontScores

open ReferenceData (lastUnder?)

/-! ## Slots of a font -/

namespace Font

variable {source : Tagging → Prop} {tags : TagCatalogue} {family tag : String} {font after : Font}
  {old new concerned : Tagging}

theorem tagging?_append (free : font.tagging? new.tag = none) :
    Font.tagging? { font with taggings := font.taggings ++ [new] } new.tag = some new := by
  have earlier : font.taggings.find? (·.tag = new.tag) = none := free
  simp [tagging?, List.find?_append, earlier]

/-- Where every tag has one tagging at most, no other tagging has the tag of this one. -/
theorem tag_ne_of_slots {before others : List Tagging}
    (slots : ((before ++ old :: others).map Tagging.tag).Nodup) {tagging : Tagging}
    (member : tagging ∈ before ++ others) : tagging.tag ≠ old.tag := by
  rw [List.map_append, List.map_cons, List.nodup_middle, ← List.map_append] at slots
  rintro same
  exact (List.nodup_cons.mp slots).1 (same ▸ List.mem_map_of_mem member)

theorem tagging?_replace (slots : (font.taggings.map Tagging.tag).Nodup)
    (held : font.tagging? tag = some old) (same : new.tag = tag) :
    (font.replace new).tagging? tag = some new := by
  obtain rfl := tagging?_tag held
  obtain ⟨before, others, split, _, replaced⟩ := split_of_held held
  have free : before.find? (·.tag = old.tag) = none := by
    rw [split] at slots
    simpa using fun tagging member => tag_ne_of_slots slots (List.mem_append_left others member)
  rw [tagging?, replaced new same, List.find?_append, free, Option.none_or]
  exact List.find?_cons_of_pos (decide_eq_true same)

theorem tagging?_remove (slots : (font.taggings.map Tagging.tag).Nodup)
    (held : font.tagging? old.tag = some old) : (font.remove old.tag).tagging? old.tag = none := by
  obtain ⟨before, others, split, removed, _⟩ := split_of_held held
  rw [split] at slots
  rw [tagging?_eq_none_iff, removed]
  exact fun tagging => tag_ne_of_slots slots

/-- An edit leaves the slots of all other tags alone. -/
theorem tagging?_edited (edited : font.Edited source tags family concerned after)
    (other : tag ≠ concerned.tag) : after.tagging? tag = font.tagging? tag := by
  have skipped (before others : List Tagging) (tagging : Tagging)
      (same : tagging.tag = concerned.tag) :
      (before ++ tagging :: others).find? (·.tag = tag) =
        (before ++ others).find? (·.tag = tag) := by
    rw [List.find?_append, List.find?_append, List.find?_cons_of_neg]
    simpa [same] using other.symm
  cases edited with
  | append => simpa [tagging?] using skipped font.taggings [] _ rfl
  | extend given fitting held absent =>
    obtain ⟨before, others, split, _, replaced⟩ := split_of_held held
    rw [tagging?, tagging?, replaced _ rfl, split]
    refine (skipped before others _ ?_).trans (skipped before others _ ?_).symm <;> rfl
  | takeOut held =>
    obtain ⟨before, others, split, removed, _⟩ := split_of_held held
    rw [tagging?, tagging?, removed, split, skipped _ _ _ rfl]

/-- A tagging that a font has after an edit is for the slot of one that it had, or was checked. -/
theorem slot_of_mem_edited (edited : font.Edited source tags family concerned after)
    {tagging : Tagging} (member : tagging ∈ after.taggings) :
    (∃ old ∈ font.taggings, old.font = tagging.font ∧ old.tag = tagging.tag) ∨
      (tagging.font = font.name ∧ tags.contains tagging.tag = true) := by
  cases edited with
  | append given asked own known fitting free =>
    rcases List.mem_append.mp member with earlier | last
    · exact .inl ⟨tagging, earlier, rfl, rfl⟩
    · rw [List.mem_singleton.mp last]
      exact .inr ⟨own, known⟩
  | extend given fitting held absent =>
    obtain ⟨before, others, split, _, replaced⟩ := split_of_held held
    rw [replaced _ rfl] at member
    -- The longer tagging is for the slot of the shorter one, in whose place it is.
    rcases List.mem_append.mp member with earlier | member
    · exact .inl ⟨tagging, by simp [split, earlier], rfl, rfl⟩
    rcases List.mem_cons.mp member with rfl | later
    · exact .inl ⟨_, tagging?_mem held, rfl, rfl⟩
    · exact .inl ⟨tagging, by simp [split, later], rfl, rfl⟩
  | takeOut held => exact .inl ⟨tagging, List.mem_of_mem_eraseP member, rfl, rfl⟩

end Font

/-! ## Slots of a library -/

namespace Library

variable {library after : Library} {source : Tagging → Prop} {family tag : String}

/-- The tagging that a family has for a tag. -/
def slot? (library : Library) (family tag : String) : Option Tagging :=
  (library.font? family).bind (·.tagging? tag)

theorem slot?_of_placed {position : Nat} {font : Font}
    (placed : library.placed? family = some (position, font)) (tag : String) :
    library.slot? family tag = font.tagging? tag := by
  simp [slot?, font?, placed]

theorem slot?_withChange {position : Nat} {before : Font}
    (placed : library.placed? family = some (position, before)) (new : Font)
    (concerned : Tagging) (tag : String) :
    (library.withChange position new concerned).slot? family tag = new.tagging? tag :=
  slot?_of_placed (placed?_setFont placed new) tag

theorem slot?_ofRegistry (registry : Registry) (family tag : String) :
    (ofRegistry registry).slot? family tag = none := by
  cases found : (ofRegistry registry).placed? family with
  | none => simp [slot?, font?, found]
  | some place =>
    obtain ⟨position, font⟩ := place
    have among := List.mem_of_getElem? (placed?_eq_some_iff.mp found).2
    obtain ⟨given, _, rfl⟩ := List.mem_map.mp among
    rw [slot?_of_placed found]
    rfl

/-- A font is changed under its own name only. -/
theorem Arranged.font?_withChange (arranged : library.Arranged) {position : Nat} {before : Font}
    (placed : library.placed? family = some (position, before)) (new : Font) (concerned : Tagging)
    {other : String} (different : other ≠ family) :
    (library.withChange position new concerned).font? other = library.font? other := by
  change ((library.setFont position new).placed? other).map _ = (library.placed? other).map _
  simp only [placed?, setFont]
  cases indexed : lastUnder? library.positions other with
  | none => rfl
  | some place =>
    -- At the position of the change stands a font of another name.
    have apart : position ≠ place := by
      rintro rfl
      have stands := (placed?_eq_some_iff.mp placed).2
      have found : library.placed? other = some (position, before) :=
        placed?_eq_some_iff.mpr ⟨indexed, stands⟩
      exact different ((arranged.name_of_placed found).symm.trans (arranged.name_of_placed placed))
    simp [List.getElem?_set_ne apart]

/-- An edit of a font leaves all slots alone but the one of the tagging that it is about. -/
theorem Arranged.slot?_edited (arranged : library.Arranged) {position : Nat} {before new : Font}
    {concerned : Tagging} (placed : library.placed? family = some (position, before))
    (edited : before.Edited source library.registry.tags family concerned new)
    {other tag : String} (elsewhere : other = family → tag ≠ concerned.tag) :
    (library.withChange position new concerned).slot? other tag = library.slot? other tag := by
  by_cases same : other = family
  · subst same
    rw [slot?_withChange placed, slot?_of_placed placed]
    exact Font.tagging?_edited edited (elsewhere rfl)
  · rw [slot?, slot?, arranged.font?_withChange placed new concerned same]

/-! ## Taggings in their slots -/

/-- Every tagging is with the font that it names, and its tag is known. -/
structure Housed (library : Library) : Prop where
  arranged : library.Arranged
  owned : ∀ font ∈ library.fonts, ∀ tagging ∈ font.taggings, tagging.font = font.name
  known : ∀ font ∈ library.fonts, ∀ tagging ∈ font.taggings,
    library.registry.tags.contains tagging.tag = true

theorem Sound.housed (sound : library.Sound) : library.Housed :=
  ⟨sound.arranged,
    fun font member tagging held => ((sound.each font member).each tagging held).owned,
    fun font member tagging held => ((sound.each font member).each tagging held).known⟩

theorem housed_edited (housed : library.Housed) (edited : library.Edited source after) :
    after.Housed := by
  have arranged := arranged_edited housed.arranged edited
  cases edited with
  | retrieve known => exact ⟨arranged, housed.owned, housed.known⟩
  | @font family position before new concerned placed edited =>
    have among := List.mem_of_getElem? (placed?_eq_some_iff.mp placed).2
    have checked : ∀ tagging ∈ new.taggings,
        tagging.font = new.name ∧ library.registry.tags.contains tagging.tag = true := by
      intro tagging member
      rw [Font.name_edited edited]
      rcases Font.slot_of_mem_edited edited member with ⟨old, held, font, tag⟩ | checked
      · rw [← font, ← tag]
        exact ⟨housed.owned before among old held, housed.known before among old held⟩
      · exact checked
    constructor
    case arranged => exact arranged
    case owned =>
      intro font member
      rcases List.mem_or_eq_of_mem_set member with elsewhere | rfl
      · exact housed.owned font elsewhere
      · exact fun tagging held => (checked tagging held).1
    case known =>
      intro font member
      rcases List.mem_or_eq_of_mem_set member with elsewhere | rfl
      · exact housed.known font elsewhere
      · exact fun tagging held => (checked tagging held).2

theorem housed_run (registry : Registry) (operations : List Operation) :
    ((ofRegistry registry).run operations).Housed :=
  run_invariant (fun _ => True) housed_edited (fun _ _ _ _ => trivial)
    (sound_ofRegistry registry).housed

/-- The font that a tagging sits in is the one that its font's name leads to. -/
theorem Housed.position_of_mem (housed : library.Housed) {position : Nat} {font : Font}
    {tagging : Tagging} (stands : library.fonts[position]? = some font)
    (held : tagging ∈ font.taggings) :
    lastUnder? library.positions tagging.font = some position := by
  rw [housed.owned font (List.mem_of_getElem? stands) tagging held]
  exact housed.arranged.found position font stands (List.ne_nil_of_mem held)

/-- A slot holds the tagging of the library that is for it. -/
theorem Housed.slot?_eq_some_iff (housed : library.Housed) {tagging : Tagging} :
    library.slot? family tag = some tagging ↔
      tagging ∈ library.taggings ∧ tagging.font = family ∧ tagging.tag = tag := by
  constructor
  · intro filled
    obtain ⟨font, found, held⟩ := Option.bind_eq_some_iff.mp filled
    obtain ⟨⟨position, _⟩, placed, rfl⟩ := Option.map_eq_some_iff.mp found
    have among := List.mem_of_getElem? (placed?_eq_some_iff.mp placed).2
    have member := Font.tagging?_mem held
    refine ⟨List.mem_flatMap.mpr ⟨_, among, member⟩, ?_, Font.tagging?_tag held⟩
    exact (housed.owned _ among tagging member).trans (housed.arranged.name_of_placed placed)
  · rintro ⟨member, rfl, rfl⟩
    obtain ⟨font, among, held⟩ := List.mem_flatMap.mp member
    obtain ⟨position, stands⟩ := List.getElem?_of_mem among
    have placed : library.placed? tagging.font = some (position, font) :=
      placed?_eq_some_iff.mpr ⟨housed.position_of_mem stands held, stands⟩
    rw [slot?_of_placed placed,
      Font.tagging?_eq_some_iff (housed.arranged.slots_of_placed placed)]
    exact ⟨held, rfl⟩

/-- No two taggings of a library are for the same slot. -/
theorem Housed.apart (housed : library.Housed) : library.taggings.Pairwise Tagging.Apart := by
  refine List.pairwise_flatMap.mpr ⟨fun font member => ?_, ?_⟩
  · have slots := List.pairwise_map.mp (housed.arranged.slots font member)
    exact slots.imp fun {one other} (different : one.tag ≠ other.tag) _ => different
  -- Of two fonts: each tagging leads to the position of its own font.
  · rw [List.pairwise_iff_getElem]
    intro one other inside within before first held second stored same
    have here := housed.position_of_mem (List.getElem?_eq_getElem inside) held
    have there := housed.position_of_mem (List.getElem?_eq_getElem within) stored
    rw [same, there] at here
    have := Option.some.inj here
    omega

/-! ## Rows and removals -/

/-- What is in the slot of a row before and after it was taken in. -/
inductive Filled (record : TaggingRecord) : Option Tagging → Tagging → Prop
  | started : Filled record none record.tagging
  | lengthened {tagging : VariableTagging} {location : Location}
      (located : record.location = some location) (absent : tagging.scoreAt? location = none) :
      Filled record (some (.varying tagging))
        (.varying { tagging with entries := tagging.entries ++ [(location, record.score)] })

/-- A tagging that is added as a whole finds its slot empty, fills it and touches no other. -/
theorem Arranged.slot?_add? (arranged : library.Arranged) {tagging : Tagging}
    (added : library.add? tagging = some after) :
    library.slot? tagging.font tagging.tag = none ∧
      after.slot? tagging.font tagging.tag = some tagging ∧
      ∀ family tag, (family = tagging.font → tag ≠ tagging.tag) →
        after.slot? family tag = library.slot? family tag := by
  obtain ⟨position, font, placed, known, fitting, own, free, rfl⟩ := add?_eq_some_iff.mp added
  refine ⟨(slot?_of_placed placed _).trans free, ?_, fun family tag elsewhere => ?_⟩
  · exact (slot?_withChange placed _ _ _).trans (Font.tagging?_append free)
  · have edited : font.Edited (fun _ => True) library.registry.tags tagging.font tagging _ :=
      .append trivial rfl own known fitting free
    exact arranged.slot?_edited placed edited elsewhere

/-- A row that is taken in fills its slot and touches no other. -/
theorem Arranged.slot?_addRecord? (arranged : library.Arranged) {record : TaggingRecord}
    (added : library.addRecord? record = some after) :
    (∃ new, after.slot? record.family record.tag = some new ∧
      Filled record (library.slot? record.family record.tag) new) ∧
    ∀ family tag, (family = record.family → tag ≠ record.tag) →
      after.slot? family tag = library.slot? family tag := by
  obtain ⟨family, location?, tag, score⟩ := record
  cases location? with
  | none =>
    obtain ⟨free, filled, elsewhere⟩ := arranged.slot?_add? added
    exact ⟨⟨_, filled, free ▸ .started⟩, elsewhere⟩
  | some location =>
    obtain ⟨position, font, placed, fitting, merged | ⟨_, started⟩⟩ := addAt?_eq_some_iff.mp added
    · -- The slot holds a variable tagging, and it gets one more entry.
      obtain ⟨tagging, held, absent, rfl⟩ := merged
      obtain rfl : tagging.tag = tag := Font.tagging?_tag held
      have slots := arranged.slots_of_placed placed
      have edited : font.Edited (fun _ => True) library.registry.tags family (.varying tagging)
          (font.replace (.varying
            { tagging with entries := tagging.entries ++ [(location, score)] })) :=
        .extend trivial fitting held absent
      refine ⟨⟨.varying { tagging with entries := tagging.entries ++ [(location, score)] }, ?_, ?_⟩,
        fun _ _ elsewhere => arranged.slot?_edited placed edited elsewhere⟩
      · rw [slot?_withChange placed]
        exact Font.tagging?_replace slots held rfl
      · rw [slot?_of_placed placed, held]
        exact .lengthened rfl absent
    · obtain ⟨free, filled, elsewhere⟩ := arranged.slot?_add? started
      exact ⟨⟨_, filled, free ▸ .started⟩, elsewhere⟩

/-- A removal returns what is in its slot. -/
theorem fst_remove (library : Library) (family tag : String) :
    (library.remove family tag).1 = library.slot? family tag := by
  simp only [remove, slot?, font?]
  cases library.placed? family with
  | none => rfl
  | some place => cases held : place.2.tagging? tag <;> simp [held]

/-- A removal empties its slot and touches no other. -/
theorem Arranged.slot?_remove? (arranged : library.Arranged) {tagging : Tagging}
    (removed : library.remove? family tag = some (tagging, after)) :
    after.slot? family tag = none ∧
      ∀ other another, (other = family → another ≠ tag) →
        after.slot? other another = library.slot? other another := by
  obtain ⟨position, font, placed, held, rfl⟩ := remove?_eq_some_iff.mp removed
  obtain rfl := Font.tagging?_tag held
  have slots := arranged.slots_of_placed placed
  have edited : font.Edited (fun _ => True) library.registry.tags family tagging _ := .takeOut held
  refine ⟨?_, fun other another elsewhere => arranged.slot?_edited placed edited elsewhere⟩
  exact (slot?_withChange placed _ _ _).trans (Font.tagging?_remove slots held)

end Library

end FontScores
