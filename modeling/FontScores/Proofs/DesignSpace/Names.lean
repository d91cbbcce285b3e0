import Mathlib
import FontScores.Proofs.DesignSpace.NormalForm
import FontScores.Report.Encode

/-!
# Axes are known by their names

A text names an axis if its bytes, between the blanks around it, are one to four printable ASCII
characters.  The filling that makes four bytes of them is taken off again, so the tag is shown under
the name that it was read from, and two texts name the same axis exactly if they differ in nothing
but the blanks.

Where a location is written, its coordinates are listed under the names of their axes: by position
in the table, and as the members of an object in a report.  The names of different axes are
different, so under the name of an axis stands the coordinate on that axis and no other.
-/

namespace FontScores

open Text (joined trim)

namespace AxisTag

variable {text : List Char}

/-! ## Bytes and characters of a name -/

theorem isName_bytes_iff (text : List Char) :
    IsName (text.flatMap String.utf8EncodeChar) ↔
      (1 ≤ (String.ofList text).utf8ByteSize ∧ (String.ofList text).utf8ByteSize ≤ 4) ∧
        ∀ byte ∈ (String.ofList text).toByteArray.data, 0x21 ≤ byte ∧ byte ≤ 0x7e := by
  have bytes : (String.ofList text).toByteArray.data.toList =
      text.flatMap String.utf8EncodeChar := by
    simp [String.ofList, List.utf8Encode]
  simp only [IsName, ← bytes, Array.mem_toList_iff]
  rfl

theorem utf8_of_forall_ascii (ascii : ∀ c ∈ text, c.toNat < 128) :
    text.flatMap String.utf8EncodeChar = text.map fun c => UInt8.ofNat c.toNat := by
  rw [← List.flatMap_pure_eq_map]
  exact List.flatMap_congr fun c member => utf8_of_ascii (ascii c member)

theorem printable_byte_iff {c : Char} (ascii : c.toNat < 128) :
    (0x21 ≤ UInt8.ofNat c.toNat ∧ UInt8.ofNat c.toNat ≤ 0x7e) ↔ '!' ≤ c ∧ c ≤ '~' := by
  have code : (UInt8.ofNat c.toNat).toNat = c.toNat :=
    UInt8.toNat_ofNat_of_lt (Nat.lt_trans ascii (by decide))
  rw [UInt8.le_iff_toNat_le, UInt8.le_iff_toNat_le, code, Char.le_def, Char.le_def,
    UInt32.le_iff_toNat_le, UInt32.le_iff_toNat_le]
  rfl

/-- The bytes are those of one to four printable ASCII characters. -/
theorem isName_utf8_iff :
    IsName (text.flatMap String.utf8EncodeChar) ↔
      (1 ≤ text.length ∧ text.length ≤ 4) ∧ ∀ c ∈ text, '!' ≤ c ∧ c ≤ '~' := by
  -- Either side leaves ASCII characters only, and those are one byte each.
  have same (ascii : ∀ c ∈ text, c.toNat < 128) :
      IsName (text.flatMap String.utf8EncodeChar) ↔
        (1 ≤ text.length ∧ text.length ≤ 4) ∧ ∀ c ∈ text, '!' ≤ c ∧ c ≤ '~' := by
    rw [utf8_of_forall_ascii ascii, IsName, List.length_map, List.forall_mem_map]
    refine and_congr_right fun _ => forall₂_congr fun c member => ?_
    exact printable_byte_iff (ascii c member)
  constructor
  · intro named
    refine (same fun c member => ascii_of_utf8 fun byte inside => ?_).mp named
    exact (named.2 byte (List.mem_flatMap.mpr ⟨c, member, inside⟩)).2
  · intro printable
    refine (same fun c member => ?_).mpr printable
    have high := UInt32.le_iff_toNat_le.mp (Char.le_def.mp (printable.2 c member).2)
    exact Nat.lt_of_le_of_lt high (by decide)

/-! ## Tags and texts -/

theorem exists_ofName_iff :
    (∃ tag, ofName text = .ok tag) ↔ IsName ((trim text).flatMap String.utf8EncodeChar) := by
  simp only [ofName]
  split <;> simp [*]

theorem eq_iff_of_ofName {other : List Char} {tag also : AxisTag} (read : ofName text = .ok tag)
    (read' : ofName other = .ok also) : tag = also ↔ trim text = trim other := by
  rw [← name_injective.eq_iff, name_of_ofName read, name_of_ofName read']

end AxisTag

/-- Under keys that tell names apart, what is found under the key of a name is its own entry. -/
theorem lookup_map_key {α β γ κ : Type} [DecidableEq α] [BEq κ] [LawfulBEq κ] {key : α → κ}
    (injective : Function.Injective key) (view : β → γ) (entries : List (α × β)) (name : α) :
    (entries.map fun entry => (key entry.1, view entry.2)).lookup (key name) =
      ((entries.find? (·.1 = name)).map Prod.snd).map view := by
  induction entries with
  | nil => rfl
  | cons entry entries ih =>
    by_cases here : entry.1 = name
    · simp [here]
    · have apart : key name ≠ key entry.1 := fun same => here (injective same).symm
      simp [List.lookup_cons, beq_false_of_ne apart, here, ih]

namespace Location

/-- The names of the axes, in the order in which a location is written. -/
def names (location : Location) : List (List Char) := location.axes.map AxisTag.name

/-- The coordinates as they are written, in the order of the axes. -/
def numerals (location : Location) : List (List Char) :=
  location.coordinates.map fun (_, value) => Numeral.write value

theorem nodup_names (location : Location) : location.names.Nodup :=
  location.distinct.map AxisTag.name_injective

theorem lookup_names (location : Location) (axis : AxisTag) :
    (location.names.zip location.numerals).lookup axis.name =
      (location.get? axis).map Numeral.write := by
  rw [names, numerals, axes, List.map_map, List.zip_map']
  exact lookup_map_key AxisTag.name_injective Numeral.write location.coordinates axis

/-- In a report too the axes have different names. -/
theorem key_injective : Function.Injective fun axis : AxisTag => String.ofList axis.name :=
  fun _ _ same => AxisTag.name_injective (String.ofList_injective same)

/-- A text names an axis exactly if, without the blanks around it, it has one to four bytes and all
of them are printable; these are the texts of one to four printable ASCII characters.  The axis is
shown under just that text, and two texts name the same axis exactly if they are the same without
their blanks.  So the names that are written of a location are all different, in the table as in a
report, and what is written for the name of an axis is the coordinate on that axis. -/
theorem names_tell_axes_apart :
    (∀ text : List Char,
      let shown := String.ofList (trim text)
      ((∃ tag, AxisTag.ofName text = .ok tag) ↔
          (1 ≤ shown.utf8ByteSize ∧ shown.utf8ByteSize ≤ 4) ∧
            ∀ byte ∈ shown.toByteArray.data, 0x21 ≤ byte ∧ byte ≤ 0x7e) ∧
        ((∃ tag, AxisTag.ofName text = .ok tag) ↔
          (1 ≤ (trim text).length ∧ (trim text).length ≤ 4) ∧
            ∀ c ∈ trim text, '!' ≤ c ∧ c ≤ '~') ∧
        ∀ tag, AxisTag.ofName text = .ok tag → tag.name = trim text ∧
          ∀ other also, AxisTag.ofName other = .ok also → (tag = also ↔ trim text = trim other)) ∧
      ∀ location : Location,
        location.spec = joined ',' location.names ++ '@' :: joined ',' location.numerals ∧
          location.names.Nodup ∧
          (∀ axis, (location.names.zip location.numerals).lookup axis.name =
            (location.get? axis).map Numeral.write) ∧
          ∃ members, location.toJson = .object members ∧ (members.map Prod.fst).Nodup ∧
            ∀ axis : AxisTag, members.lookup (String.ofList axis.name) =
              (location.get? axis).map .number := by
  refine ⟨fun text => ⟨?_, ?_, fun tag read => ⟨?_, fun other also read' => ?_⟩⟩,
    fun location => ⟨rfl, nodup_names location, lookup_names location, _, rfl, ?_, fun axis => ?_⟩⟩
  · rw [AxisTag.exists_ofName_iff, AxisTag.isName_bytes_iff]
  · rw [AxisTag.exists_ofName_iff, AxisTag.isName_utf8_iff]
  · exact AxisTag.name_of_ofName read
  · exact AxisTag.eq_iff_of_ofName read read'
  · simpa [Function.comp_def] using location.distinct.map key_injective
  · exact lookup_map_key key_injective Json.Value.number location.coordinates axis

/-- A short name with blanks around it names the same axis as without them, and not the axis with a
longer name. -/
theorem names_tell_axes_apart_of_blanks :
    ∃ short also long, AxisTag.ofName "\u2003ab\t".toList = .ok short ∧
      AxisTag.ofName "ab".toList = .ok also ∧ AxisTag.ofName "abc".toList = .ok long ∧
      short.name = "ab".toList ∧ short = also ∧ short ≠ long := by
  have blanks : trim "\u2003ab\t".toList = ['a', 'b'] := by decide +kernel
  have plain : trim "ab".toList = ['a', 'b'] := by decide +kernel
  have longer : trim "abc".toList = ['a', 'b', 'c'] := by decide +kernel
  have texts := names_tell_axes_apart.1
  obtain ⟨short, read⟩ := (texts "\u2003ab\t".toList).2.1.mpr (by rw [blanks]; simp)
  obtain ⟨also, read'⟩ := (texts "ab".toList).2.1.mpr (by rw [plain]; simp)
  obtain ⟨long, readLong⟩ := (texts "abc".toList).2.1.mpr (by rw [longer]; simp)
  obtain ⟨name, same⟩ := (texts "\u2003ab\t".toList).2.2 short read
  have apart : trim "\u2003ab\t".toList ≠ trim "abc".toList := by
    rw [blanks, longer]
    decide
  exact ⟨short, also, long, read, read', readLong, name.trans blanks,
    (same _ also read').mpr (blanks.trans plain.symm), mt (same _ long readLong).mp apart⟩

end Location

end FontScores
