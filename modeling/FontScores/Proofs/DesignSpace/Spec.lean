import Mathlib
import FontScores.DesignSpace.Spec
import FontScores.Proofs.DesignSpace.AxisTag
import FontScores.Proofs.Number.WrittenNumber
import FontScores.Proofs.Reading
import FontScores.Proofs.Text.Lines

/-!
# A written location is read back

The reader puts every axis it reads behind those it has, and refuses one that it has already.  So
the coordinates that come out are those that went in, one for each pair of a name and a value and in
the same order.  A location is written in a way that can be read if it has an axis, its coordinates
are finite and no axis has a name with a separator in it; the reader makes no other locations.
-/

namespace FontScores

open Text (cutFirst cutAll joined trim)

/-! ## Scores and coordinates as fields -/

namespace Numeral

theorem not_mem_write {x : Single} (finite : x.isFinite = true) {c : Char}
    (other : (c.isDigit || c == '.' || c == '-') = false) : c ∉ write x := by
  intro member
  rcases mem_write Format.reaching_single finite member with digit | rfl | rfl
  · simp [digit] at other
  · simp at other
  · simp at other

/-- What is written for the numbers that are not finite. -/
def words : List (List Char) := ["NaN".toList, "inf".toList, "-inf".toList]

theorem write_mem_words {x : Single} (infinite : x.isFinite = false) : write x ∈ words := by
  have above : Format.single.infinity ≤ x.magnitude := by simpa [Binary.isFinite] using infinite
  by_cases number : x.isNaN
  · simp [write, number, words]
  · have same : x.magnitude = Format.single.infinity := by
      have below : x.magnitude ≤ Format.single.infinity := by simpa [Binary.isNaN] using number
      omega
    cases sign : x.negative <;> simp [write, number, writeMagnitude, same, sign, words]

/-- Whatever the number, its written form does not break a line, a row or a field. -/
theorem separator_not_mem_write (x : Single) {c : Char}
    (separator : c ∈ [',', '"', '\n', '\r']) : c ∉ write x := by
  cases finite : x.isFinite with
  | true =>
    have plain : ∀ c ∈ [',', '"', '\n', '\r'], (c.isDigit || c == '.' || c == '-') = false := by
      simp
    exact not_mem_write finite (plain c separator)
  | false =>
    have plain : ∀ c ∈ [',', '"', '\n', '\r'], ∀ word ∈ words, c ∉ word := by simp [words]
    exact plain c separator _ (write_mem_words finite)

theorem written_ne_nil (x : Single) : write x ≠ [] := by
  cases finite : x.isFinite with
  | true => exact write_ne_nil Format.reaching_single finite
  | false =>
    have inhabited : ∀ word ∈ words, word ≠ [] := by simp [words]
    exact inhabited _ (write_mem_words finite)

theorem visible_of_mem_write {x : Single} (finite : x.isFinite = true) {c : Char}
    (member : c ∈ write x) : Text.isBlank c = false := by
  rcases mem_write Format.reaching_single finite member with digit | rfl | rfl
  · have bounds : 48 ≤ c.toNat ∧ c.toNat ≤ 57 := by
      simpa [Char.isDigit, UInt32.le_iff_toNat_le] using digit
    simp [Text.isBlank]
    omega
  · rfl
  · rfl

theorem trim_write {x : Single} (finite : x.isFinite = true) : trim (write x) = write x :=
  Text.trim_of_visible fun _ => visible_of_mem_write finite

end Numeral

namespace Location

variable {start location : Location}

/-! ## Pairs -/

theorem get?_eq_none_iff {axis : AxisTag} : location.get? axis = none ↔ axis ∉ location.axes := by
  simp only [get?, axes, Option.map_eq_none_iff, List.find?_eq_none, decide_eq_true_eq,
    List.mem_map, not_exists, not_and]

theorem coordinates_insert {axis : AxisTag} (value : Single) (absent : axis ∉ location.axes) :
    (location.insert axis value).coordinates = location.coordinates ++ [(axis, value)] := by
  obtain ⟨coordinates, distinct⟩ := location
  change put axis value coordinates = _
  change axis ∉ coordinates.map Prod.fst at absent
  induction coordinates with
  | nil => rfl
  | cons head rest ih =>
    simp only [List.map_cons, List.mem_cons, not_or] at absent
    have later := ih (List.nodup_cons.mp distinct).2 absent.2
    simp [put, Ne.symm absent.1, later]

/-- The pairs are read to a location exactly when it has their coordinates behind those that were
there. -/
theorem readPairs_eq_ok_iff {pairs : List (List Char × List Char)} :
    readPairs start pairs = .ok location ↔
      ∃ rest, location.coordinates = start.coordinates ++ rest ∧
        List.Forall₂ (fun pair coordinate => AxisTag.ofName pair.1 = .ok coordinate.1 ∧
          readValue pair.2 = .ok coordinate.2) pairs rest := by
  -- On the pairs, with more and more coordinates read before them.
  induction pairs generalizing start with
  | nil =>
    simp only [readPairs, Except.ok.injEq, List.forall₂_nil_left_iff]
    constructor
    · rintro rfl
      exact ⟨[], by simp, rfl⟩
    · rintro ⟨_, same, rfl⟩
      obtain ⟨coordinates, _⟩ := start
      obtain ⟨_, _⟩ := location
      simpa using same.symm
  | cons pair others ih =>
    simp only [readPairs, bind_eq_ok_iff, List.forall₂_cons_left_iff]
    constructor
    · rintro ⟨axis, named, value, valued, read⟩
      split at read
      · cases read
      next fresh =>
        have absent : axis ∉ start.axes := get?_eq_none_iff.mp (by simpa using fresh)
        obtain ⟨rest, same, each⟩ := ih.mp read
        rw [coordinates_insert value absent, List.append_assoc] at same
        exact ⟨_, same, (axis, value), rest, ⟨named, valued⟩, each, rfl⟩
    · rintro ⟨_, same, ⟨axis, value⟩, rest, ⟨named, valued⟩, each, rfl⟩
      -- The result has no axis twice, so this one was not there before.
      have absent : axis ∉ start.axes := by
        have distinct := location.distinct
        rw [same, List.map_append, List.map_cons] at distinct
        exact fun member => (List.nodup_append.mp distinct).2.2 axis member axis (by simp) rfl
      refine ⟨axis, named, value, valued, ?_⟩
      rw [if_neg (by simp [get?_eq_none_iff.mpr absent])]
      refine ih.mpr ⟨rest, ?_, each⟩
      rw [coordinates_insert value absent, List.append_assoc, same]
      rfl

theorem ofSpec_eq_ok_iff {spec : List Char} :
    ofSpec spec = .ok location ↔
      ∃ before after, cutFirst '@' spec = some (before, after) ∧
        (cutAll ',' before).length = (cutAll ',' after).length ∧
        List.Forall₂ (fun pair coordinate => AxisTag.ofName pair.1 = .ok coordinate.1 ∧
          readValue pair.2 = .ok coordinate.2)
          ((cutAll ',' before).zip (cutAll ',' after)) location.coordinates := by
  simp only [ofSpec]
  split
  next absent => simp [absent]
  next before after cut =>
    simp only [cut, Option.some.injEq, Prod.mk.injEq]
    split
    next equal =>
      rw [readPairs_eq_ok_iff]
      constructor
      · rintro ⟨rest, same, each⟩
        obtain rfl : location.coordinates = rest := by simpa [empty] using same
        exact ⟨before, after, ⟨rfl, rfl⟩, equal, each⟩
      · rintro ⟨_, _, ⟨rfl, rfl⟩, _, each⟩
        exact ⟨_, by simp [empty], each⟩
    next unequal =>
      constructor
      · rintro ⟨⟩
      · rintro ⟨_, _, ⟨rfl, rfl⟩, equal, _⟩
        exact absurd equal unequal

/-! ## Writable locations -/

/-- What a location needs so that its written form can be read. -/
structure Writable (location : Location) : Prop where
  nonempty : location.coordinates ≠ []
  finite : ∀ coordinate ∈ location.coordinates, coordinate.2.isFinite = true
  unseparated : ∀ axis ∈ location.axes, ∀ c ∈ axis.name, c ≠ ',' ∧ c ≠ '@'

theorem isFinite_of_readValue {text : List Char} {value : Single}
    (read : readValue text = .ok value) : value.isFinite = true := by
  simp only [readValue] at read
  split at read
  · split at read
    next finite => exact Except.ok.inj read ▸ finite
    · cases read
  · cases read

theorem readValue_write {value : Single} (finite : value.isFinite = true) :
    readValue (Numeral.write value) = .ok value := by
  simp only [readValue, Numeral.trim_write finite,
    Numeral.read_write Format.reaching_single finite, finite, if_true]

theorem exists_of_forall₂ {α β : Type} {R : α → β → Prop} {as : List α} {bs : List β}
    (related : List.Forall₂ R as bs) {b : β} (member : b ∈ bs) : ∃ a ∈ as, R a b := by
  induction related with
  | nil => cases member
  | @cons first other _ _ here _ ih =>
    rcases List.mem_cons.mp member with rfl | member
    · exact ⟨first, by simp, here⟩
    · obtain ⟨a, among, holds⟩ := ih member
      exact ⟨a, List.mem_cons_of_mem first among, holds⟩

/-- The names of axes come from between the separators of the text. -/
theorem mem_of_mem_name {spec : List Char} (read : ofSpec spec = .ok location) {axis : AxisTag}
    (member : axis ∈ location.axes) {c : Char} (inside : c ∈ axis.name) :
    c ∈ spec ∧ c ≠ ',' ∧ c ≠ '@' := by
  obtain ⟨before, after, cut, _, each⟩ := ofSpec_eq_ok_iff.mp read
  obtain ⟨rfl, outside⟩ := Text.cutFirst_eq_some_iff.mp cut
  obtain ⟨coordinate, stored, rfl⟩ := List.mem_map.mp member
  obtain ⟨pair, among, named, _⟩ := exists_of_forall₂ each stored
  rw [AxisTag.name_of_ofName named] at inside
  have part := Text.mem_of_mem_cutAll (List.of_mem_zip among).1 (Text.mem_of_mem_trim inside)
  exact ⟨List.mem_append_left _ part.1, part.2, fun same => outside (same ▸ part.1)⟩

/-- Every location that was read can be written. -/
theorem writable_of_ofSpec {spec : List Char} (read : ofSpec spec = .ok location) :
    location.Writable := by
  obtain ⟨before, after, cut, equal, each⟩ := ofSpec_eq_ok_iff.mp read
  constructor
  case nonempty =>
    intro none
    -- A text has at least one piece, so at least one pair was read.
    have count := each.length_eq
    rw [none, List.length_zip, ← equal, Nat.min_self, List.length_nil] at count
    exact Text.cutAll_ne_nil before (List.length_eq_zero_iff.mp count)
  case finite =>
    intro coordinate member
    obtain ⟨pair, _, _, valued⟩ := exists_of_forall₂ each member
    exact isFinite_of_readValue valued
  case unseparated => exact fun axis member c inside => (mem_of_mem_name read member inside).2

/-- The characters of a written location. -/
theorem mem_spec {c : Char} (member : c ∈ location.spec) :
    c = ',' ∨ c = '@' ∨ (∃ axis ∈ location.axes, c ∈ axis.name) ∨
      ∃ coordinate ∈ location.coordinates, c ∈ Numeral.write coordinate.2 := by
  simp only [spec, List.mem_append, List.mem_cons] at member
  rcases member with names | sign | values
  · rcases Text.mem_joined names with comma | ⟨name, among, inside⟩
    · exact .inl comma
    · obtain ⟨axis, stored, rfl⟩ := List.mem_map.mp among
      exact .inr (.inr (.inl ⟨axis, stored, inside⟩))
  · exact .inr (.inl sign)
  · rcases Text.mem_joined values with comma | ⟨value, among, inside⟩
    · exact .inl comma
    · obtain ⟨coordinate, stored, rfl⟩ := List.mem_map.mp among
      exact .inr (.inr (.inr ⟨coordinate, stored, inside⟩))

theorem Writable.visible (writable : location.Writable) {c : Char}
    (member : c ∈ location.spec) : Text.isBlank c = false := by
  rcases mem_spec member with rfl | rfl | ⟨axis, _, inside⟩ | ⟨coordinate, stored, inside⟩
  · rfl
  · rfl
  · exact AxisTag.visible_of_mem_name inside
  · exact Numeral.visible_of_mem_write (writable.finite coordinate stored) inside

/-- A written location is read back. -/
theorem ofSpec_spec (writable : location.Writable) : ofSpec location.spec = .ok location := by
  have names : location.axes.map AxisTag.name ≠ [] := by simp [axes, writable.nonempty]
  have plain : ∀ name ∈ location.axes.map AxisTag.name, ',' ∉ name := by
    intro name among inside
    obtain ⟨axis, stored, rfl⟩ := List.mem_map.mp among
    exact (writable.unseparated axis stored ',' inside).1 rfl
  have values : location.coordinates.map (fun coordinate => Numeral.write coordinate.2) ≠ [] := by
    simp [writable.nonempty]
  have numbers : ∀ value ∈ location.coordinates.map fun coordinate => Numeral.write coordinate.2,
      ',' ∉ value := by
    intro value among
    obtain ⟨coordinate, stored, rfl⟩ := List.mem_map.mp among
    exact Numeral.not_mem_write (writable.finite coordinate stored) (by decide)
  have outside : '@' ∉ joined ',' (location.axes.map AxisTag.name) := by
    intro member
    rcases Text.mem_joined member with comma | ⟨name, among, inside⟩
    · exact absurd comma (by decide)
    · obtain ⟨axis, stored, rfl⟩ := List.mem_map.mp among
      exact (writable.unseparated axis stored '@' inside).2 rfl
  -- Both halves are cut into what they were joined from, and each pair is read back.
  refine ofSpec_eq_ok_iff.mpr ⟨_, _, Text.cutFirst_eq_some_iff.mpr ⟨rfl, outside⟩, ?_⟩
  rw [Text.cutAll_joined names plain, Text.cutAll_joined values numbers]
  refine ⟨by simp [axes], ?_⟩
  rw [axes, List.map_map, List.zip_map', List.forall₂_map_left_iff, List.forall₂_same]
  exact fun coordinate stored =>
    ⟨AxisTag.ofName_name _, readValue_write (writable.finite coordinate stored)⟩

end Location

end FontScores
