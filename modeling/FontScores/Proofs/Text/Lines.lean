import Mathlib
import FontScores.Text.Lines

/-!
# Cutting undoes joining

Each way of cutting a text is determined by what it may leave in its pieces: the first separator has
none before it, the last one none after it, and no piece between separators holds one.  A text that
was joined is therefore cut into the pieces it was joined from, if they hold no separator.

For lines there is one more condition, because the end of a line takes a carriage return with it.
-/

namespace FontScores.Text

variable {separator : Char}

/-! ## One cut -/

theorem cutFirst_eq_some_iff {text before after : List Char} :
    cutFirst separator text = some (before, after) ↔
      text = before ++ separator :: after ∧ separator ∉ before := by
  induction text generalizing before after with
  | nil => simp [cutFirst]
  | cons c rest ih =>
    simp only [cutFirst]
    split
    next here =>
      subst here
      simp only [Option.some.injEq, Prod.mk.injEq]
      constructor
      · rintro ⟨rfl, rfl⟩
        simp
      · rintro ⟨shape, absent⟩
        cases before with
        | nil => exact ⟨rfl, (List.cons.inj shape).2⟩
        | cons first front => exact absurd (by simp [(List.cons.inj shape).1]) absent
    next other =>
      simp only [Option.map_eq_some_iff, Prod.exists, Prod.mk.injEq]
      constructor
      · rintro ⟨front, back, found, rfl, rfl⟩
        obtain ⟨rfl, absent⟩ := ih.mp found
        exact ⟨rfl, by simp [Ne.symm other, absent]⟩
      · rintro ⟨shape, absent⟩
        cases before with
        | nil => exact absurd (List.cons.inj shape).1 other
        | cons first front =>
          obtain ⟨rfl, rfl⟩ := List.cons.inj shape
          have found := ih.mpr ⟨rfl, fun member => absent (List.mem_cons_of_mem c member)⟩
          exact ⟨front, after, found, rfl, rfl⟩

theorem cutLast_eq_none_iff {text : List Char} :
    cutLast separator text = none ↔ separator ∉ text := by
  induction text with
  | nil => simp [cutLast]
  | cons c rest ih =>
    simp only [cutLast]
    split
    next before after found => simp [← ih, found]
    next absent => simp [← ih, absent, eq_comm]

theorem cutLast_eq_some_iff {text before after : List Char} :
    cutLast separator text = some (before, after) ↔
      text = before ++ separator :: after ∧ separator ∉ after := by
  induction text generalizing before after with
  | nil => simp [cutLast]
  | cons c rest ih =>
    simp only [cutLast]
    split
    -- The rest has a separator, so the last one is there and not up front.
    next front back found =>
      obtain ⟨rfl, absent⟩ := ih.mp found
      simp only [Option.some.injEq, Prod.mk.injEq]
      constructor
      · rintro ⟨rfl, rfl⟩
        exact ⟨rfl, absent⟩
      · rintro ⟨shape, only⟩
        cases before with
        | nil =>
          rw [← (List.cons.inj shape).2] at only
          exact absurd (by simp) only
        | cons first other =>
          obtain ⟨rfl, again⟩ := List.cons.inj shape
          have same := found.symm.trans (ih.mpr ⟨again, only⟩)
          simpa using same
    next none =>
      have absent := cutLast_eq_none_iff.mp none
      constructor
      · intro found
        split at found
        next here =>
          obtain ⟨rfl, rfl⟩ : [] = before ∧ rest = after := by simpa using found
          exact ⟨by simp [here], absent⟩
        · cases found
      · rintro ⟨shape, only⟩
        cases before with
        | nil =>
          obtain ⟨rfl, rfl⟩ := List.cons.inj shape
          simp
        | cons first other =>
          rw [(List.cons.inj shape).2] at absent
          exact absurd (by simp) absent

/-- What stands behind the first separator goes on as the text does. -/
theorem cutFirst_concat {c : Char} (other : c ≠ separator) (text : List Char) :
    cutFirst separator (text ++ [c]) =
      (cutFirst separator text).map fun (before, after) => (before, after ++ [c]) := by
  induction text with
  | nil => simp [cutFirst, other]
  | cons first rest ih =>
    simp only [List.cons_append, cutFirst, ih]
    split
    · rfl
    · simp [Function.comp_def]

theorem cutLast_concat {c : Char} (other : c ≠ separator) (text : List Char) :
    cutLast separator (text ++ [c]) =
      (cutLast separator text).map fun (before, after) => (before, after ++ [c]) := by
  induction text with
  | nil => simp [cutLast, other]
  | cons first rest ih =>
    simp only [List.cons_append, cutLast, ih]
    cases cutLast separator rest with
    | some pieces => rfl
    | none =>
      dsimp only [Option.map_none]
      split <;> rfl

/-! ## All cuts -/

theorem cutAll_ne_nil (text : List Char) : cutAll separator text ≠ [] := by
  cases text with
  | nil => simp [cutAll]
  | cons c rest =>
    simp only [cutAll]
    split
    · simp
    · split <;> simp

/-- The pieces are parts of the text without a separator. -/
theorem mem_of_mem_cutAll {text piece : List Char} (cut : piece ∈ cutAll separator text)
    {c : Char} (member : c ∈ piece) : c ∈ text ∧ c ≠ separator := by
  induction text generalizing piece with
  | nil => simp_all [cutAll]
  | cons first rest ih =>
    simp only [cutAll] at cut
    split at cut
    · rcases List.mem_cons.mp cut with rfl | cut
      · cases member
      · exact ⟨List.mem_cons_of_mem first (ih cut member).1, (ih cut member).2⟩
    next other =>
      -- The character belongs to the first piece of the rest.
      split at cut
      next none => exact absurd none (cutAll_ne_nil rest)
      next piece others pieces =>
        rcases List.mem_cons.mp cut with rfl | cut
        · rcases List.mem_cons.mp member with rfl | member
          · exact ⟨by simp, other⟩
          · have inside := ih (pieces ▸ List.mem_cons_self) member
            exact ⟨List.mem_cons_of_mem first inside.1, inside.2⟩
        · have inside := ih (pieces ▸ List.mem_cons_of_mem piece cut) member
          exact ⟨List.mem_cons_of_mem first inside.1, inside.2⟩

theorem cutAll_of_not_mem {text : List Char} (absent : separator ∉ text) :
    cutAll separator text = [text] := by
  induction text with
  | nil => rfl
  | cons c rest ih =>
    simp only [List.mem_cons, not_or] at absent
    obtain ⟨other, absent⟩ := absent
    simp [cutAll, Ne.symm other, ih absent]

theorem cutAll_append {before : List Char} (absent : separator ∉ before) (after : List Char) :
    cutAll separator (before ++ separator :: after) = before :: cutAll separator after := by
  induction before with
  | nil => simp [cutAll]
  | cons c rest ih =>
    simp only [List.mem_cons, not_or] at absent
    obtain ⟨other, absent⟩ := absent
    simp [cutAll, Ne.symm other, ih absent]

theorem cutAll_joined {pieces : List (List Char)} (nonempty : pieces ≠ [])
    (absent : ∀ piece ∈ pieces, separator ∉ piece) :
    cutAll separator (joined separator pieces) = pieces := by
  induction pieces with
  | nil => exact absurd rfl nonempty
  | cons piece others ih =>
    have first := absent piece (by simp)
    cases others with
    | nil => exact cutAll_of_not_mem first
    | cons next others =>
      have later := ih (by simp) fun other member => absent other (List.mem_cons_of_mem _ member)
      rw [joined.eq_3 _ _ _ (by simp), cutAll_append first, later]

theorem mem_joined {pieces : List (List Char)} {c : Char} (member : c ∈ joined separator pieces) :
    c = separator ∨ ∃ piece ∈ pieces, c ∈ piece := by
  induction pieces with
  | nil => cases member
  | cons piece others ih =>
    cases others with
    | nil => exact .inr ⟨piece, by simp, member⟩
    | cons next others =>
      simp only [joined, List.mem_append, List.mem_cons] at member
      rcases member with here | same | later
      · exact .inr ⟨piece, by simp, here⟩
      · exact .inl same
      · rcases ih later with same | ⟨other, among, inside⟩
        · exact .inl same
        · exact .inr ⟨other, List.mem_cons_of_mem piece among, inside⟩

/-! ## Lines -/

theorem lines_cons {c : Char} {rest : List Char} (other : c ≠ '\n')
    (free : c = '\r' → rest.head? ≠ some '\n') :
    lines (c :: rest) =
      match lines rest with
      | [] => [[c]]
      | line :: others => (c :: line) :: others := by
  have unreturned : ∀ tail, c = '\r' → rest = '\n' :: tail → False := by
    rintro tail same rfl
    exact free same rfl
  exact lines.eq_4 c rest other unreturned

theorem lines_eq_nil_iff {text : List Char} : lines text = [] ↔ text = [] := by
  fun_cases lines text <;> simp_all

/-- A character in front of a text is part of its first line, if it does not end one. -/
theorem lines_cons_append {c : Char} {rest : List Char} (other : c ≠ '\n')
    (free : ∀ tail, c = '\r' → rest = '\n' :: tail → False) (nonempty : rest ≠ [])
    (back : List Char) :
    lines (c :: rest ++ back) =
      match lines (rest ++ back) with
      | [] => [[c]]
      | line :: others => (c :: line) :: others := by
  refine lines_cons other fun returned => ?_
  obtain ⟨next, tail, rfl⟩ := List.exists_cons_of_ne_nil nonempty
  intro feed
  obtain rfl : next = '\n' := by simpa using feed
  exact free tail returned rfl

/-- A line feed between two texts ends the lines of the first. -/
theorem lines_append_newline (front back : List Char) :
    lines (front ++ '\n' :: back) = lines (front ++ ['\n']) ++ lines back := by
  fun_induction lines front with
  | case1 => simp [lines]
  | case2 rest ih => simp [lines, ih]
  | case3 rest ih => simp [lines, ih]
  | case4 c rest other free none ih =>
    obtain rfl : rest = [] := lines_eq_nil_iff.mp none
    -- A carriage return is the only character that goes with the line feed.
    by_cases returned : c = '\r'
    · simp [returned, lines]
    · simp [lines_cons other fun same => absurd same returned, lines]
  | case5 c rest other free line others cut ih =>
    have nonempty : rest ≠ [] := fun none => by simp [none, lines] at cut
    rw [lines_cons_append other free nonempty, lines_cons_append other free nonempty, ih]
    obtain ⟨first, more, ended⟩ := List.exists_cons_of_ne_nil
      (lines_eq_nil_iff.not.mpr (by simp) : lines (rest ++ ['\n']) ≠ [])
    simp [ended]

/-- With a line feed behind it a text has the same lines, except that an empty one may be there
more, or that the last one has lost a carriage return. -/
theorem lines_concat_newline (text : List Char) :
    ∃ before last, lines (text ++ ['\n']) = before ++ [last] ∧
      (lines text = before ∧ last = [] ∨ lines text = before ++ [last] ∨
        lines text = before ++ [last ++ ['\r']]) := by
  fun_induction lines text with
  | case1 => exact ⟨[], [], rfl, .inl ⟨rfl, rfl⟩⟩
  | case2 rest ih =>
    obtain ⟨before, last, ended, shape⟩ := ih
    exact ⟨[] :: before, last, by simp [lines, ended], by simpa using shape⟩
  | case3 rest ih =>
    obtain ⟨before, last, ended, shape⟩ := ih
    exact ⟨[] :: before, last, by simp [lines, ended], by simpa using shape⟩
  | case4 c rest other free none ih =>
    obtain rfl : rest = [] := lines_eq_nil_iff.mp none
    by_cases returned : c = '\r'
    · exact ⟨[], [], by simp [returned, lines], .inr (.inr (by simp [returned]))⟩
    · refine ⟨[], [c], ?_, .inr (.inl rfl)⟩
      simp [lines_cons other fun same => absurd same returned, lines]
  | case5 c rest other free line others cut ih =>
    have nonempty : rest ≠ [] := fun none => by simp [none, lines] at cut
    obtain ⟨before, last, ended, shape⟩ := ih
    rw [lines_cons_append other free nonempty, ended]
    rw [cut] at shape
    -- The character is put in front of the last line if that is also the first.
    cases before with
    | nil =>
      refine ⟨[], c :: last, rfl, .inr ?_⟩
      rcases shape with ⟨none, -⟩ | same | returned
      · cases none
      · simp_all
      · simp_all
    | cons first middle =>
      refine ⟨(c :: first) :: middle, last, rfl, ?_⟩
      simpa [and_assoc] using shape

theorem newline_not_mem_of_mem_lines {text line : List Char} (cut : line ∈ lines text) :
    '\n' ∉ line := by
  fun_induction lines text generalizing line with
  | case1 => cases cut
  | case2 rest ih =>
    rcases List.mem_cons.mp cut with rfl | later
    · simp
    · exact ih later
  | case3 rest ih =>
    rcases List.mem_cons.mp cut with rfl | later
    · simp
    · exact ih later
  | case4 c rest other free none ih =>
    rw [List.mem_singleton.mp cut]
    simpa [eq_comm] using other
  | case5 c rest other free piece others pieces ih =>
    rcases List.mem_cons.mp cut with rfl | later
    · have single := ih (pieces ▸ List.mem_cons_self)
      simp [single, Ne.symm other]
    · exact ih (pieces ▸ List.mem_cons_of_mem piece later)

/-- A text that can be a line, and the last one even if nothing ends it. -/
structure IsLine (line : List Char) : Prop where
  nonempty : line ≠ []
  single : '\n' ∉ line
  /-- A carriage return at the end would go with the end of the line. -/
  unreturned : line.getLast? ≠ some '\r'

theorem IsLine.tail {c next : Char} {rest : List Char} (isLine : IsLine (c :: next :: rest)) :
    IsLine (next :: rest) :=
  ⟨by simp, fun member => isLine.single (List.mem_cons_of_mem c member),
    by simpa using isLine.unreturned⟩

theorem lines_append {line : List Char} (isLine : IsLine line) (rest : List Char) :
    lines (line ++ '\n' :: rest) = line :: lines rest := by
  induction line with
  | nil => exact absurd rfl isLine.nonempty
  | cons c line ih =>
    -- Only the last character could take a carriage return to the line feed behind it.
    have other : c ≠ '\n' := fun same => isLine.single (same ▸ List.mem_cons_self)
    cases line with
    | nil =>
      have unreturned : c ≠ '\r' := by simpa using isLine.unreturned
      rw [List.cons_append, lines_cons other fun same => absurd same unreturned]
      simp [lines]
    | cons next line =>
      have free : next ≠ '\n' := fun same => isLine.single (by simp [same])
      rw [List.cons_append, lines_cons other fun _ => by simpa using free, ih isLine.tail]

/-- Whatever it ends in, a text without a line feed is one line. -/
theorem lines_unbroken {line : List Char} (nonempty : line ≠ []) (single : '\n' ∉ line) :
    lines line = [line] := by
  induction line with
  | nil => exact absurd rfl nonempty
  | cons c line ih =>
    simp only [List.mem_cons, not_or] at single
    cases line with
    | nil =>
      rw [lines_cons (Ne.symm single.1) fun _ => by simp]
      simp [lines]
    | cons next line =>
      have free : next ≠ '\n' := fun same => single.2 (by simp [same])
      rw [lines_cons (Ne.symm single.1) fun _ => by simpa using free, ih (by simp) single.2]

theorem lines_single {line : List Char} (isLine : IsLine line) : lines line = [line] :=
  lines_unbroken isLine.nonempty isLine.single

theorem lines_joined {texts : List (List Char)} (each : ∀ line ∈ texts, IsLine line) :
    lines (joined '\n' texts) = texts := by
  induction texts with
  | nil => rfl
  | cons line others ih =>
    have first := each line (by simp)
    cases others with
    | nil => exact lines_single first
    | cons next others =>
      have later := ih fun other member => each other (List.mem_cons_of_mem line member)
      rw [joined.eq_3 _ _ _ (by simp), lines_append first, later]

/-- A line feed behind the last line ends it. -/
theorem lines_joined_ended {texts : List (List Char)} (nonempty : texts ≠ [])
    (each : ∀ line ∈ texts, IsLine line) : lines (joined '\n' texts ++ ['\n']) = texts := by
  induction texts with
  | nil => exact absurd rfl nonempty
  | cons line others ih =>
    have first := each line (by simp)
    cases others with
    | nil => exact lines_append first []
    | cons next others =>
      have later := ih (by simp) fun other member => each other (List.mem_cons_of_mem line member)
      rw [joined.eq_3 _ _ _ (by simp), List.append_assoc, List.cons_append, lines_append first,
        later]

/-! ### Either line ending -/

/-- A carriage return in front of the line feed is no part of the line. -/
theorem lines_append_returned {line : List Char} (single : '\n' ∉ line) (rest : List Char) :
    lines (line ++ '\r' :: '\n' :: rest) = line :: lines rest := by
  induction line with
  | nil => simp [lines]
  | cons c line ih =>
    simp only [List.mem_cons, not_or] at single
    have free : (line ++ '\r' :: '\n' :: rest).head? ≠ some '\n' := by
      cases line with
      | nil => simp
      | cons next line => simpa using fun same => single.2 (by simp [same])
    rw [List.cons_append, lines_cons (Ne.symm single.1) fun _ => free, ih single.2]

/-- The first line is what stands before the line feed, unless that ends in a carriage return. -/
theorem lines_append_ended {line : List Char} (single : '\n' ∉ line) (rest : List Char) :
    ∃ cut, (cut = line ∨ cut ++ ['\r'] = line) ∧
      lines (line ++ '\n' :: rest) = cut :: lines rest := by
  by_cases returned : line.getLast? = some '\r'
  · obtain ⟨cut, rfl⟩ := List.getLast?_eq_some_iff.mp returned
    have before : '\n' ∉ cut := fun member => single (List.mem_append_left _ member)
    refine ⟨cut, .inr rfl, ?_⟩
    rw [List.append_assoc]
    exact lines_append_returned before rest
  · refine ⟨line, .inl rfl, ?_⟩
    cases line with
    | nil => simp [lines]
    | cons c line => exact lines_append ⟨by simp, single, returned⟩ rest

/-- The text is made of these lines, each with a line feed behind it, or a carriage return and a
line feed.  Behind the last one there may be nothing. -/
inductive HasLines : List (List Char) → List Char → Prop
  | nil : HasLines [] []
  | unended {line : List Char} (nonempty : line ≠ []) (single : '\n' ∉ line) : HasLines [line] line
  | ended {line rest : List Char} {others : List (List Char)} (single : '\n' ∉ line)
      (following : HasLines others rest) : HasLines (line :: others) (line ++ '\n' :: rest)
  | returned {line rest : List Char} {others : List (List Char)} (single : '\n' ∉ line)
      (following : HasLines others rest) : HasLines (line :: others) (line ++ '\r' :: '\n' :: rest)

theorem HasLines.cons {c : Char} {line text : List Char} {others : List (List Char)}
    (other : c ≠ '\n') (hasLines : HasLines (line :: others) text) :
    HasLines ((c :: line) :: others) (c :: text) := by
  cases hasLines with
  | unended nonempty single => exact .unended (by simp) (by simp [Ne.symm other, single])
  | ended single following => exact .ended (by simp [Ne.symm other, single]) following
  | returned single following => exact .returned (by simp [Ne.symm other, single]) following

/-- Every text is made of the lines that are cut out of it. -/
theorem hasLines_lines (text : List Char) : HasLines (lines text) text := by
  fun_induction lines text with
  | case1 => exact .nil
  | case2 rest ih => exact @HasLines.ended [] rest _ nofun ih
  | case3 rest ih => exact @HasLines.returned [] rest _ nofun ih
  | case4 c rest other free none ih =>
    obtain rfl : rest = [] := lines_eq_nil_iff.mp none
    exact .unended (by simp) (by simpa using Ne.symm other)
  | case5 c rest other free line others cut ih => exact (cut ▸ ih).cons other

/-- The lines that a text is made of are cut out of it, up to a carriage return at the end of any of
them. -/
theorem HasLines.cut {written : List (List Char)} {text : List Char}
    (hasLines : HasLines written text) :
    List.Forall₂ (fun line cut => cut = line ∨ cut ++ ['\r'] = line) written (lines text) := by
  induction hasLines with
  | nil => exact .nil
  | unended nonempty single =>
    rw [lines_unbroken nonempty single]
    exact .cons (.inl rfl) .nil
  | ended single _ ih =>
    obtain ⟨cut, same, first⟩ := lines_append_ended single _
    rw [first]
    exact .cons same ih
  | returned single _ ih =>
    rw [lines_append_returned single]
    exact .cons (.inl rfl) ih

theorem hasLines_joined {texts : List (List Char)}
    (each : ∀ line ∈ texts, line ≠ [] ∧ '\n' ∉ line) : HasLines texts (joined '\n' texts) := by
  induction texts with
  | nil => exact .nil
  | cons line others ih =>
    obtain ⟨nonempty, single⟩ := each line (by simp)
    cases others with
    | nil => exact .unended nonempty single
    | cons next others =>
      rw [joined.eq_3 _ _ _ (by simp)]
      exact .ended single (ih fun other member => each other (List.mem_cons_of_mem line member))

end FontScores.Text
