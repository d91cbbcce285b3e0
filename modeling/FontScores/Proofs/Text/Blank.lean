import Mathlib
import FontScores.Text.Blank

/-!
# Texts without blanks at their ends

Trimming a text leaves it with something other than a blank at both ends, so that trimming again
changes nothing.  What comes first is the first character of the text that is not blank.
-/

namespace FontScores.Text

theorem trimEnd_eq_rdropWhile (text : List Char) : trimEnd text = text.rdropWhile isBlank := rfl

theorem trimEnd_front (text : List Char) : trimEnd text <+: text :=
  List.rdropWhile_prefix isBlank text

theorem trimStart_suffix (text : List Char) : trimStart text <:+ text :=
  List.dropWhile_suffix isBlank

theorem mem_of_mem_trim {text : List Char} {c : Char} (member : c ∈ trim text) : c ∈ text :=
  (trimStart_suffix text).subset ((trimEnd_front _).subset member)

theorem trimStart_cons {c : Char} (visible : isBlank c = false) (rest : List Char) :
    trimStart (c :: rest) = c :: rest := by
  simp [trimStart, visible]

/-- Trimming at the end does not take away a first character that is not blank. -/
theorem head?_trimEnd {c : Char} (visible : isBlank c = false) (rest : List Char) :
    (trimEnd (c :: rest)).head? = some c := by
  have kept : trimEnd (c :: rest) ≠ [] := by
    rw [trimEnd_eq_rdropWhile, Ne, List.rdropWhile_eq_nil_iff]
    intro all
    simp [all c (by simp)] at visible
  rw [List.head?_eq_some_head kept, (trimEnd_front _).head kept]
  rfl

/-- The first character that is left is the first one that is not blank. -/
theorem head?_trim (text : List Char) : (trim text).head? = text.find? (!isBlank ·) := by
  have first : (trimStart text).head? = text.find? (!isBlank ·) := by
    rw [List.find?_eq_head?_dropWhile_not]
    simp [trimStart]
  rw [trim, ← first]
  cases start : trimStart text with
  | nil => rfl
  | cons c rest =>
    rw [start, List.head?_cons] at first
    have visible : isBlank c = false := by simpa using List.find?_some first.symm
    exact head?_trimEnd visible rest

theorem trim_trim (text : List Char) : trim (trim text) = trim text := by
  have start : trimStart (trim text) = trim text := by
    cases shape : trim text with
    | nil => rfl
    | cons c rest =>
      have first := head?_trim text
      rw [shape, List.head?_cons] at first
      exact trimStart_cons (by simpa using List.find?_some first.symm) rest
  rw [trim, start, trim, trimEnd_eq_rdropWhile, trimEnd_eq_rdropWhile]
  exact List.rdropWhile_idempotent isBlank _

theorem trimEnd_concat {c : Char} (blank : isBlank c = true) (text : List Char) :
    trimEnd (text ++ [c]) = trimEnd text := by
  rw [trimEnd_eq_rdropWhile, List.rdropWhile_concat_pos _ _ _ blank, trimEnd_eq_rdropWhile]

theorem trimStart_concat {c : Char} (blank : isBlank c = true) (text : List Char) :
    trimStart (text ++ [c]) = if trimStart text = [] then [] else trimStart text ++ [c] := by
  simp [trimStart, List.dropWhile_append, blank]

theorem trim_concat {c : Char} (blank : isBlank c = true) (text : List Char) :
    trim (text ++ [c]) = trim text := by
  rw [trim, trimStart_concat blank]
  split
  next none => rw [trim, none]
  next => exact trimEnd_concat blank _

theorem trim_append_blanks {blanks : List Char} (blank : ∀ c ∈ blanks, isBlank c = true)
    (text : List Char) : trim (text ++ blanks) = trim text := by
  induction blanks using List.reverseRecOn with
  | nil => rw [List.append_nil]
  | append_singleton blanks c ih =>
    rw [← List.append_assoc, trim_concat (blank c (by simp))]
    exact ih fun d member => blank d (List.mem_append_left _ member)

theorem trim_blanks_append {blanks : List Char} (blank : ∀ c ∈ blanks, isBlank c = true)
    (text : List Char) : trim (blanks ++ text) = trim text := by
  rw [trim, trimStart, List.dropWhile_append_of_pos blank, ← trimStart, ← trim]

/-- The padded text is the text with blanks around it. -/
def Padded (text padded : List Char) : Prop :=
  ∃ front back, padded = front ++ text ++ back ∧ ∀ c ∈ front ++ back, isBlank c = true

theorem Padded.refl (text : List Char) : Padded text text :=
  ⟨[], [], by simp, nofun⟩

theorem Padded.trim_eq {text padded : List Char} (around : Padded text padded)
    (trimmed : trim text = text) : trim padded = text := by
  obtain ⟨front, back, rfl, blank⟩ := around
  rw [trim_append_blanks fun c member => blank c (List.mem_append_right front member),
    trim_blanks_append fun c member => blank c (List.mem_append_left back member), trimmed]

theorem Padded.not_mem {text padded : List Char} (around : Padded text padded) {c : Char}
    (visible : isBlank c = false) (absent : c ∉ text) : c ∉ padded := by
  obtain ⟨front, back, rfl, blank⟩ := around
  have outside : c ∉ front ++ back := fun member => by simp [blank c member] at visible
  simp only [List.mem_append, not_or] at outside ⊢
  exact ⟨⟨outside.1, absent⟩, outside.2⟩

theorem trim_of_visible {text : List Char} (visible : ∀ c ∈ text, isBlank c = false) :
    trim text = text := by
  have start : trimStart text = text := by
    cases text with
    | nil => rfl
    | cons c rest => exact trimStart_cons (visible c (by simp)) rest
  rw [trim, start, trimEnd_eq_rdropWhile, List.rdropWhile_eq_self_iff]
  intro nonempty
  simp [visible _ (List.getLast_mem nonempty)]

/-- A text that was trimmed starts with something that is not blank. -/
theorem head_visible {c : Char} {rest : List Char} (trimmed : trim (c :: rest) = c :: rest) :
    isBlank c = false := by
  have first := head?_trim (c :: rest)
  rw [trimmed, List.head?_cons] at first
  simpa using List.find?_some first.symm

end FontScores.Text
