import Mathlib
import FontScores.Json.Reader

/-!
# Reading a document step by step

The reader goes through a document by a recursion over three functions.  Here is what each of them
makes of a text, depending only on what comes next behind the blanks: a value without parts, an
array or an object, and the items or the members of one, one after the other.
-/

namespace FontScores.Json

/-- The reader took this value and left this rest. -/
structure Read.Gives {α : Type} {input : List Char} (read : Read α input) (value : α)
    (rest : List Char) : Prop where
  value : read.value = value
  rest : read.rest.map Subtype.val = some rest

variable {input rest : List Char}

theorem Read.Gives.widen {α : Type} {value : α} {other : List Char} {read : Read α input}
    (given : read.Gives value rest) (fewer : input.length ≤ other.length) :
    (read.widen fewer).Gives value rest :=
  ⟨given.value, by simpa [Read.widen, Option.map_map, Function.comp_def] using given.rest⟩

theorem Read.Gives.map {α β : Type} {value : α} {read : Read α input}
    (given : read.Gives value rest) (f : α → β) : (read.map f).Gives (f value) rest :=
  ⟨congrArg f given.value, given.rest⟩

/-- Behind blanks, a value without parts is taken as it is by itself. -/
theorem gives_scalar {c : Char} {tail : List Char} {node : Node}
    (start : skipBlanks input = c :: tail) (noArray : c ≠ '[') (noObject : c ≠ '\x7b')
    (given : (readScalar (c :: tail)).Gives node rest) : (readValue input).Gives node rest := by
  rw [readValue]
  split
  next same => exact absurd (List.cons.inj (start.symm.trans same)).1 noArray
  next same => exact absurd (List.cons.inj (start.symm.trans same)).1 noObject
  · rw [← start] at given
    exact given.widen _

theorem gives_text {quoted : List Char} {value : Option String}
    {shorter : rest.length < quoted.length} (start : skipBlanks input = '"' :: quoted)
    (closed : takeText quoted = some ⟨value, rest, shorter⟩) :
    (readValue input).Gives (.text value) rest := by
  refine gives_scalar start (by decide) (by decide) ?_
  rw [readScalar, closed]
  exact ⟨rfl, rfl⟩

/-- A numeral without a sign. -/
theorem gives_numeral {c : Char} {tail : List Char} {numeral : Numeral}
    {shorter : rest.length < (c :: tail).length} {number : Option Number}
    (start : skipBlanks input = c :: tail) (digit : c.isDigit = true)
    (read : takeNumeral (c :: tail) = some ⟨numeral, rest, shorter⟩)
    (value : numeral.value? = number) : (readValue input).Gives (.number number) rest := by
  have other {mark : Char} (apart : mark.isDigit = false) : c ≠ mark := by
    rintro rfl
    rw [digit] at apart
    cases apart
  refine gives_scalar start (other rfl) (other rfl) ?_
  rw [readScalar]
  · split
    next word =>
      -- A word starts with a letter.
      unfold word? at word
      split at word <;> simp_all
    · rw [read, ← value]
      exact ⟨rfl, rfl⟩
  · exact fun rest same => other rfl (List.cons.inj same).1

theorem gives_object {inside : List Char} {members : List (Option String × Node)}
    (start : skipBlanks input = '\x7b' :: inside)
    (inhabited : (skipBlanks inside).head? ≠ some '\x7d')
    (given : (readMembers inside).Gives members rest) :
    (readValue input).Gives (.object members) rest := by
  rw [readValue]
  split
  next same => exact absurd (List.cons.inj (start.symm.trans same)).1 (by decide)
  next same =>
    obtain rfl := (List.cons.inj (start.symm.trans same)).2
    dsimp only
    split
    next closing => simp [closing] at inhabited
    · exact (given.map _).widen _
  next other => exact absurd start (other inside)

theorem gives_array {inside : List Char} {items : List Node}
    (start : skipBlanks input = '[' :: inside)
    (inhabited : (skipBlanks inside).head? ≠ some ']')
    (given : (readItems inside).Gives items rest) :
    (readValue input).Gives (.array items) rest := by
  rw [readValue]
  split
  next same =>
    obtain rfl := (List.cons.inj (start.symm.trans same)).2
    dsimp only
    split
    next closing => simp [closing] at inhabited
    · exact (given.map _).widen _
  next same => exact absurd (List.cons.inj (start.symm.trans same)).1 (by decide)
  next other _ => exact absurd start (other inside)

/-- The items of an array, the first of which is the last one or has others behind a comma. -/
theorem gives_items {behind : List Char} {node : Node} {others : List Node}
    (value : (readValue input).Gives node behind)
    (following : (skipBlanks behind = ']' :: rest ∧ others = []) ∨
      ∃ more, skipBlanks behind = ',' :: more ∧ (readItems more).Gives others rest) :
    (readItems input).Gives (node :: others) rest := by
  obtain ⟨⟨left, shorter⟩, found, rfl⟩ := Option.map_eq_some_iff.mp value.rest
  obtain rfl := value.value
  rw [readItems, found]
  dsimp only
  rcases following with ⟨closing, rfl⟩ | ⟨more, comma, given⟩
  · split
    next same =>
      obtain rfl := (List.cons.inj (closing.symm.trans same)).2
      exact ⟨rfl, rfl⟩
    next same => exact absurd (List.cons.inj (closing.symm.trans same)).1 (by decide)
    next other _ => exact absurd closing (other rest)
  · split
    next same => exact absurd (List.cons.inj (comma.symm.trans same)).1 (by decide)
    next same =>
      obtain rfl := (List.cons.inj (comma.symm.trans same)).2
      exact (given.map _).widen _
    next other => exact absurd comma (other more)

/-- The members of an object, the first of which is the last one or has others behind a comma. -/
theorem gives_members {quoted named inside behind : List Char} {key : Option String}
    {shorter : named.length < quoted.length} {node : Node} {others : List (Option String × Node)}
    (start : skipBlanks input = '"' :: quoted)
    (closed : takeText quoted = some ⟨key, named, shorter⟩)
    (colon : skipBlanks named = ':' :: inside)
    (value : (readValue inside).Gives node behind)
    (following : (skipBlanks behind = '\x7d' :: rest ∧ others = []) ∨
      ∃ more, skipBlanks behind = ',' :: more ∧ (readMembers more).Gives others rest) :
    (readMembers input).Gives ((key, node) :: others) rest := by
  obtain ⟨⟨left, shorter⟩, found, rfl⟩ := Option.map_eq_some_iff.mp value.rest
  obtain rfl := value.value
  rw [readMembers]
  split
  next same =>
    obtain rfl := (List.cons.inj (start.symm.trans same)).2
    rw [closed]
    dsimp only
    split
    next same =>
      obtain rfl := (List.cons.inj (colon.symm.trans same)).2
      rw [found]
      dsimp only
      -- The value was read; what stands behind it decides whether there are others.
      rcases following with ⟨closing, rfl⟩ | ⟨more, comma, given⟩
      · split
        next same =>
          obtain rfl := (List.cons.inj (closing.symm.trans same)).2
          exact ⟨rfl, rfl⟩
        next same => exact absurd (List.cons.inj (closing.symm.trans same)).1 (by decide)
        next other _ => exact absurd closing (other rest)
      · split
        next same => exact absurd (List.cons.inj (comma.symm.trans same)).1 (by decide)
        next same =>
          obtain rfl := (List.cons.inj (comma.symm.trans same)).2
          exact (given.map _).widen _
        next other => exact absurd comma (other more)
    next other => exact absurd colon (other inside)
  next other => exact absurd start (other quoted)

/-- A document that ends with its value. -/
theorem ofText_eq {text : String} {node : Node} (given : (readValue text.toList).Gives node []) :
    Document.ofText text = ⟨node, false⟩ := by
  obtain ⟨⟨left, shorter⟩, found, empty⟩ := Option.map_eq_some_iff.mp given.rest
  obtain rfl : left = [] := empty
  have trailing :
      (readValue text.toList).rest.any (fun rest => skipBlanks rest.1 ≠ []) = false := by
    rw [found]
    rfl
  exact congrArg₂ Document.mk given.value trailing

end FontScores.Json
