import Mathlib
import FontScores.Number.Numeral
import FontScores.Proofs.Number.Shortest

/-!
# A written number is read back

The positional form spells out a decimal as digits with at most one point, and the reader gives
those digits back.  Zeros that the writer had to put in front of the point make the digits longer
and the exponent smaller, which changes no value.  So a finite number that is written and read again
is the same number, the sign of a zero included.
-/

namespace FontScores

/-! ## Digits -/

theorem digitsValue_append (front back : List Char) :
    digitsValue (front ++ back) = 10 ^ back.length * digitsValue front + digitsValue back := by
  have chars (digits : List Char) : digitsValue digits = Nat.ofDigitChars 10 digits 0 :=
    (Nat.ofDigitChars_eq_foldl).symm
  rw [chars, chars, chars, Nat.ofDigitChars_append, Nat.ofDigitChars_eq_ofDigitChars_zero]

theorem digitsValue_zeros (count : Nat) : digitsValue (List.replicate count '0') = 0 :=
  (Nat.ofDigitChars_eq_foldl).symm.trans (by rw [Nat.ofDigitChars_replicate_zero, Nat.mul_zero])

theorem digitsValue_toDigits (n : Nat) : digitsValue (Nat.toDigits 10 n) = n :=
  (Nat.ofDigitChars_eq_foldl).symm.trans Nat.ofDigitChars_ten_toDigits

theorem isDigit_of_mem_zeros {count : Nat} {c : Char} (member : c ∈ List.replicate count '0') :
    c.isDigit = true := by
  rw [List.eq_of_mem_replicate member]
  decide

theorem isDigit_of_mem_toDigits {n : Nat} {c : Char} (member : c ∈ Nat.toDigits 10 n) :
    c.isDigit = true :=
  Nat.isDigit_of_mem_toDigits (by decide) (by decide) member

namespace Numeral

/-! ## Plain numerals -/

/-- Digits, perhaps with a point and more digits behind them, and the decimal that they spell. -/
inductive Spells : List Char → Decimal → Prop
  | whole {digits : List Char} (nonempty : digits ≠ [])
      (all : ∀ c ∈ digits, c.isDigit = true) : Spells digits ⟨digitsValue digits, 0⟩
  | point {whole fraction : List Char} (nonempty : whole ≠ [])
      (front : ∀ c ∈ whole, c.isDigit = true) (back : ∀ c ∈ fraction, c.isDigit = true) :
      Spells (whole ++ '.' :: fraction) ⟨digitsValue (whole ++ fraction), -fraction.length⟩

namespace Spells

variable {text : List Char} {numeral : Decimal}

theorem decimal?_eq (spells : Spells text numeral) : decimal? text = some numeral := by
  cases spells with
  | whole nonempty all =>
    have taken : text.takeWhile Char.isDigit = text := List.takeWhile_eq_self_iff.mpr all
    have rest : text.dropWhile Char.isDigit = [] := List.dropWhile_eq_nil_iff.mpr all
    simp [decimal?, taken, rest, nonempty, exponent?]
  | @point whole fraction nonempty front back =>
    have before : (whole ++ '.' :: fraction).takeWhile Char.isDigit = whole := by
      rw [List.takeWhile_append_of_pos front, List.takeWhile_cons_of_neg (by decide),
        List.append_nil]
    have after : (whole ++ '.' :: fraction).dropWhile Char.isDigit = '.' :: fraction := by
      rw [List.dropWhile_append_of_pos front, List.dropWhile_cons_of_neg (by decide)]
    have taken : fraction.takeWhile Char.isDigit = fraction := List.takeWhile_eq_self_iff.mpr back
    have rest : fraction.dropWhile Char.isDigit = [] := List.dropWhile_eq_nil_iff.mpr back
    simp [decimal?, before, after, taken, rest, nonempty, exponent?]

theorem first (spells : Spells text numeral) :
    ∃ digit rest, text = digit :: rest ∧ digit.isDigit = true := by
  cases spells with
  | whole nonempty all =>
    obtain ⟨digit, rest, rfl⟩ := List.exists_cons_of_ne_nil nonempty
    exact ⟨digit, rest, rfl, all digit (by simp)⟩
  | point nonempty front back =>
    obtain ⟨digit, rest, rfl⟩ := List.exists_cons_of_ne_nil nonempty
    exact ⟨digit, _, rfl, front digit (by simp)⟩

theorem mem (spells : Spells text numeral) {c : Char} (member : c ∈ text) :
    c.isDigit = true ∨ c = '.' := by
  cases spells with
  | whole nonempty all => exact .inl (all c member)
  | point nonempty front back =>
    simp only [List.mem_append, List.mem_cons] at member
    rcases member with member | rfl | member
    · exact .inl (front c member)
    · exact .inr rfl
    · exact .inl (back c member)

/-- The sign is read off a plain numeral as what stands in front of it. -/
theorem sign_eq (spells : Spells text numeral) (negative : Bool) :
    sign (if negative then '-' :: text else text) = (negative, text) := by
  obtain ⟨digit, rest, rfl, isDigit⟩ := spells.first
  cases negative with
  | true => rfl
  | false =>
    simp only [Bool.false_eq_true, if_false]
    have minus : digit ≠ '-' := by rintro rfl; simp at isDigit
    have plus : digit ≠ '+' := by rintro rfl; simp at isDigit
    simp [sign, minus, plus]

end Spells

/-! ## The written form -/

/-- The written decimal is read with more zeros at the end of its digits, if it is whole. -/
theorem spells_positional (numeral : Decimal) :
    ∃ zeros : Nat, Spells (positional numeral)
      ⟨numeral.digits * 10 ^ zeros, numeral.exponent - zeros⟩ := by
  obtain ⟨digits, exponent⟩ := numeral
  have nonempty : Nat.toDigits 10 digits ≠ [] := Nat.toDigits_ne_nil
  have value := digitsValue_toDigits digits
  have all := fun c => isDigit_of_mem_toDigits (n := digits) (c := c)
  cases exponent with
  | ofNat zeros =>
    have filled : ∀ c ∈ Nat.toDigits 10 digits ++ List.replicate zeros '0', c.isDigit = true := by
      intro c member
      rcases List.mem_append.mp member with digit | zero
      · exact all c digit
      · exact isDigit_of_mem_zeros zero
    have spelled := Spells.whole (by simp [nonempty]) filled
    rw [digitsValue_append, value, digitsValue_zeros] at spelled
    exact ⟨zeros, by simpa [positional, Nat.mul_comm] using spelled⟩
  | negSucc less =>
    refine ⟨0, ?_⟩
    simp only [positional, Nat.pow_zero, Nat.mul_one, Int.natCast_zero, Int.sub_zero]
    generalize Nat.toDigits 10 digits = shown at nonempty value all
    -- The point stands before all digits, with zeros between, or among them.
    split
    next short =>
      have filled : ∀ c ∈ List.replicate (less + 1 - shown.length) '0' ++ shown,
          c.isDigit = true := by
        intro c member
        rcases List.mem_append.mp member with zero | digit
        · exact isDigit_of_mem_zeros zero
        · exact all c digit
      have length : less + 1 - shown.length + shown.length = less + 1 := by omega
      have front : ∀ c ∈ ['0'], c.isDigit = true := by simp
      have spelled := Spells.point (by simp) front filled
      rw [digitsValue_append, digitsValue_append, digitsValue_zeros, value, List.length_append,
        List.length_replicate, length] at spelled
      simpa [digitsValue, Int.negSucc_eq] using spelled
    next long =>
      have length : shown.length - (shown.length - (less + 1)) = less + 1 := by omega
      have front : ∀ c ∈ shown.take (shown.length - (less + 1)), c.isDigit = true :=
        fun c member => all c (List.mem_of_mem_take member)
      have back : ∀ c ∈ shown.drop (shown.length - (less + 1)), c.isDigit = true :=
        fun c member => all c (List.mem_of_mem_drop member)
      have spelled := Spells.point (by simp [nonempty]; omega) front back
      rw [List.take_append_drop, value, List.length_drop, length] at spelled
      exact spelled

variable {F : Format} {x : Binary F}

/-- A finite number is written as a plain numeral of its size, behind its sign. -/
theorem write_spells (reaching : F.grainExponent ≤ 2 ^ F.exponentBits)
    (finite : x.isFinite = true) :
    ∃ size numeral, write x = (if x.negative then '-' :: size else size) ∧
      Spells size numeral ∧ F.ofDecimal numeral.digits numeral.exponent = x.magnitude := by
  have below : x.magnitude < F.infinity := by simpa [Binary.isFinite] using finite
  have number : ¬x.isNaN := by simp [Binary.isNaN]; omega
  have written : write x = if x.negative then '-' :: writeMagnitude F x.magnitude
      else writeMagnitude F x.magnitude := by
    simp [write, number]
  -- Zero has a written form of its own, since it has no shortest numeral.
  by_cases zero : x.magnitude = 0
  · have size : writeMagnitude F x.magnitude = ['0'] := by
      rw [writeMagnitude, if_neg (Nat.ne_of_lt below), if_pos zero]
    have spelled : Spells ['0'] ⟨0, 0⟩ := .whole (by simp) (by simp)
    exact ⟨_, _, written, size ▸ spelled, by simp [Format.ofDecimal, zero]⟩
  · have size : writeMagnitude F x.magnitude = positional (F.shortest .up x.magnitude) := by
      rw [writeMagnitude, if_neg (Nat.ne_of_lt below), if_neg zero]
    obtain ⟨zeros, spelled⟩ := spells_positional (F.shortest .up x.magnitude)
    refine ⟨_, _, written, size ▸ spelled, ?_⟩
    rw [Format.ofDecimal_mul_pow, Int.sub_add_cancel]
    exact Format.ofDecimal_shortest reaching below

theorem write_ne_nil (reaching : F.grainExponent ≤ 2 ^ F.exponentBits)
    (finite : x.isFinite = true) : write x ≠ [] := by
  obtain ⟨size, numeral, written, spells, _⟩ := write_spells reaching finite
  obtain ⟨digit, rest, rfl, _⟩ := spells.first
  rw [written]
  split <;> simp

theorem mem_write (reaching : F.grainExponent ≤ 2 ^ F.exponentBits)
    (finite : x.isFinite = true) {c : Char} (member : c ∈ write x) :
    c.isDigit = true ∨ c = '.' ∨ c = '-' := by
  obtain ⟨size, numeral, written, spells, _⟩ := write_spells reaching finite
  have inside : c ∈ size → c.isDigit = true ∨ c = '.' ∨ c = '-' := fun member =>
    (spells.mem member).imp_right .inl
  rw [written] at member
  split at member
  · rcases List.mem_cons.mp member with minus | member
    · exact .inr (.inr minus)
    · exact inside member
  · exact inside member

/-- A finite number that is written and read again is the same number. -/
theorem read_write (reaching : F.grainExponent ≤ 2 ^ F.exponentBits)
    (finite : x.isFinite = true) : read F (write x) = .ok x := by
  obtain ⟨size, numeral, written, spells, magnitude⟩ := write_spells reaching finite
  simp only [read, write_ne_nil reaching finite, if_false]
  rw [written, spells.sign_eq]
  simp only [spells.decimal?_eq, Binary.ofDecimal, magnitude]

/-! ## Numerals of digits and points -/

/-- Digits and points, one of which at least is a digit that comes first or behind a first point. -/
theorem front_of_decimal? {body : List Char} {numeral : Decimal}
    (plain : ∀ c ∈ body, c.isDigit = true ∨ c = '.') (spelled : decimal? body = some numeral) :
    ∃ c rest, (body = c :: rest ∨ body = '.' :: c :: rest) ∧ c.isDigit = true := by
  cases body with
  | nil => simp [decimal?] at spelled
  | cons c rest =>
    rcases plain c (by simp) with digit | rfl
    · exact ⟨c, rest, .inl rfl, digit⟩
    · cases rest with
      | nil => simp [decimal?] at spelled
      | cons next rest =>
        by_cases digit : next.isDigit = true
        · exact ⟨next, rest, .inr rfl, digit⟩
        · simp [decimal?, digit] at spelled

theorem toLower_of_plain {c : Char} (plain : c.isDigit = true ∨ c = '.') : c.toLower = c := by
  apply Char.toLower_eq_of_not_isUpper
  rcases plain with digit | rfl
  · simp [Char.isDigit, Char.isUpper, UInt32.le_iff_toNat_le] at digit ⊢
    omega
  · decide

theorem word?_plain {F : Format} {body : List Char}
    (plain : ∀ c ∈ body, c.isDigit = true ∨ c = '.') : word? F body = none := by
  have same : body.map Char.toLower = body := by
    rw [List.map_congr_left fun c member => toLower_of_plain (plain c member), List.map_id']
  have other (word : String) (named : 'n' ∈ word.toList) : String.ofList body ≠ word := by
    rintro rfl
    rw [String.toList_ofList] at named
    have := plain _ named
    simp at this
  rw [word?, same]
  simp [other "inf" (by simp), other "infinity" (by simp), other "nan" (by simp)]

/-- A plain numeral that is read has a digit up front, or behind a point. -/
theorem front_of_read {F : Format} {signs body : List Char} {value : Binary F}
    (signed : signs ∈ [[], ['-'], ['+']]) (plain : ∀ c ∈ body, c.isDigit = true ∨ c = '.')
    (spelled : read F (signs ++ body) = .ok value) :
    ∃ c rest, (body = c :: rest ∨ body = '.' :: c :: rest) ∧ c.isDigit = true := by
  -- Without a sign of its own the body starts with a digit or a point, which is no sign.
  have unsigned : ∃ negative, sign (signs ++ body) = (negative, body) := by
    simp only [List.mem_cons, List.not_mem_nil, or_false] at signed
    rcases signed with rfl | rfl | rfl
    · refine ⟨false, ?_⟩
      rw [List.nil_append, sign]
      · rintro rest rfl
        simpa using plain '-'
      · rintro rest rfl
        simpa using plain '+'
    · exact ⟨true, rfl⟩
    · exact ⟨false, rfl⟩
  obtain ⟨negative, unsigned⟩ := unsigned
  cases found : decimal? body with
  | none =>
    rw [read] at spelled
    split at spelled
    · contradiction
    · simp [unsigned, found, word?_plain plain] at spelled
  | some numeral => exact front_of_decimal? plain found

end Numeral

end FontScores
