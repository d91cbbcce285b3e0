import Mathlib
import FontScores.DesignSpace.AxisTag
import FontScores.Proofs.Text.Blank

/-!
# The name of an axis

A tag and its name determine each other.  The name is made of visible ASCII characters, so its bytes
are its characters, the filling is no part of it, and nothing around it is trimmed off.
-/

namespace FontScores

namespace AxisTag

open Text (isBlank trim)

/-! ## Bytes and characters -/

theorem utf8_of_ascii {c : Char} (ascii : c.toNat < 128) :
    String.utf8EncodeChar c = [UInt8.ofNat c.toNat] := by
  have small : c.val.toNat ≤ 0x7f := Nat.le_of_lt_succ ascii
  simp only [String.utf8EncodeChar, small, if_true]
  rfl

/-- The first byte of any other character is above the names' bytes. -/
theorem ascii_of_utf8 {c : Char} (printable : ∀ byte ∈ String.utf8EncodeChar c, byte ≤ 0x7e) :
    c.toNat < 128 := by
  have bytes {n : Nat} (small : n < 256) (le : UInt8.ofNat n ≤ 0x7e) : n ≤ 0x7e := by
    have := UInt8.le_iff_toNat_le.mp le
    rwa [UInt8.toNat_ofNat_of_lt' small] at this
  -- A character of two, three or four bytes starts with one of at least 0xc0.
  rcases Nat.lt_or_ge c.toNat 128 with ascii | large
  · exact ascii
  · simp only [Char.toNat] at large
    simp only [String.utf8EncodeChar] at printable
    split at printable
    · omega
    · split at printable
      · have := bytes (by omega) (printable _ List.mem_cons_self)
        omega
      · split at printable
        · have := bytes (by omega) (printable _ List.mem_cons_self)
          omega
        · have := bytes (by omega) (printable _ List.mem_cons_self)
          omega

theorem toNat_ofNat_ascii {code : Nat} (ascii : code < 128) : (Char.ofNat code).toNat = code := by
  have valid : code.isValidChar := .inl (by omega)
  rw [Char.ofNat, dif_pos valid]
  rfl

theorem characters_of_utf8 {text : List Char}
    (printable : ∀ byte ∈ text.flatMap String.utf8EncodeChar, byte ≤ 0x7e) :
    (text.flatMap String.utf8EncodeChar).map (fun byte => Char.ofNat byte.toNat) = text := by
  induction text with
  | nil => rfl
  | cons c rest ih =>
    simp only [List.flatMap_cons, List.mem_append] at printable
    have ascii := ascii_of_utf8 fun byte member => printable byte (.inl member)
    have later := ih fun byte member => printable byte (.inr member)
    rw [List.flatMap_cons, List.map_append, later, utf8_of_ascii ascii]
    have code : (UInt8.ofNat c.toNat).toNat = c.toNat :=
      UInt8.toNat_ofNat_of_lt (Nat.lt_trans ascii (by decide))
    simp [code]

theorem utf8_of_characters {name : List UInt8} (printable : ∀ byte ∈ name, byte ≤ 0x7e) :
    (name.map fun byte => Char.ofNat byte.toNat).flatMap String.utf8EncodeChar = name := by
  induction name with
  | nil => rfl
  | cons byte rest ih =>
    have small := UInt8.le_iff_toNat_le.mp (printable byte (by simp))
    have ascii : byte.toNat < 128 := Nat.lt_of_le_of_lt small (by decide)
    have code := toNat_ofNat_ascii ascii
    rw [List.map_cons, List.flatMap_cons, utf8_of_ascii (code.symm ▸ ascii), code,
      ih fun other member => printable other (List.mem_cons_of_mem byte member)]
    simp

/-! ## The filling -/

theorem unfilled_filled {name : List UInt8} (isName : IsName name) :
    unfilled (filled name) = name := by
  -- A name has no space in it, so removing the filling stops at its last byte.
  have last : name.reverse.dropWhile (· == space) = name.reverse := by
    cases shape : name.reverse with
    | nil => rfl
    | cons byte rest =>
      have member : byte ∈ name := List.mem_reverse.mp (shape ▸ List.mem_cons_self)
      have visible : (byte == space) = false := by
        have := UInt8.le_iff_toNat_le.mp (isName.2 byte member).1
        simp only [beq_eq_false_iff_ne]
        rintro rfl
        exact absurd this (by decide)
      rw [List.dropWhile_cons_of_neg (by simp [visible])]
  rw [unfilled, filled, List.reverse_append, List.reverse_replicate, List.dropWhile_append_of_pos
    (fun byte member => by simp [List.eq_of_mem_replicate member]), last, List.reverse_reverse]

/-- What a name is made of. -/
theorem name_eq (tag : AxisTag) : ∃ bytes, IsName bytes ∧ tag.bytes = filled bytes ∧
    tag.name = bytes.map fun byte => Char.ofNat byte.toNat := by
  obtain ⟨_, bytes, isName, rfl⟩ := tag
  exact ⟨bytes, isName, rfl, by rw [name, unfilled_filled isName]⟩

theorem visible_of_mem_name {tag : AxisTag} {c : Char} (member : c ∈ tag.name) :
    isBlank c = false := by
  obtain ⟨bytes, isName, _, same⟩ := tag.name_eq
  rw [same] at member
  obtain ⟨byte, among, rfl⟩ := List.mem_map.mp member
  have low := UInt8.le_iff_toNat_le.mp (isName.2 byte among).1
  have high := UInt8.le_iff_toNat_le.mp (isName.2 byte among).2
  change 33 ≤ byte.toNat at low
  change byte.toNat ≤ 126 at high
  rw [isBlank, toNat_ofNat_ascii (by omega)]
  simp
  omega

/-! ## Reading and writing -/

theorem ofName_name (tag : AxisTag) : ofName tag.name = .ok tag := by
  have trimmed : trim tag.name = tag.name :=
    Text.trim_of_visible fun _ => visible_of_mem_name
  obtain ⟨bytes, isName, filling, same⟩ := tag.name_eq
  have encoded : tag.name.flatMap String.utf8EncodeChar = bytes := by
    rw [same]
    exact utf8_of_characters fun byte member => (isName.2 byte member).2
  obtain ⟨_, named⟩ := tag
  subst filling
  simp only [ofName, trimmed, encoded, isName, dite_true]

/-- The name of a tag that was read is the text it was read from, without the blanks around it. -/
theorem name_of_ofName {text : List Char} {tag : AxisTag} (read : ofName text = .ok tag) :
    tag.name = trim text := by
  simp only [ofName] at read
  split at read
  next named =>
    obtain rfl := Except.ok.inj read
    rw [name, unfilled_filled named]
    exact characters_of_utf8 fun byte member => (named.2 byte member).2
  · cases read

end AxisTag

end FontScores
