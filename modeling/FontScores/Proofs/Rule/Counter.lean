import Mathlib
import FontScores.Proofs.Rule.Parsing

/-!
# Reading with a counter

The levels of nesting can also be counted up: a counter starts at zero, grows by one behind each `!`
and `(` unless it has reached the limit, and shrinks again when what stands behind that mark has
been read.  Here the readers hand such a counter on, from each part to the next one, so that nothing
but the counter tells how deep a part is.

They are the readers that count down.  Where the counter says how many levels are gone, the same is
read, and the counter is back at its value whenever something has been read, so that taking one off
never goes below zero.
-/

namespace FontScores.Rule

/-- What is taken from the front of the input, with the counter behind it. -/
abbrev Counted (α : Type) (input : List Lexeme) : Type := Except Error (Nat × Taken α input)

/-- A reader with a counter, for inputs that are not longer than the bound. -/
abbrev CountingReader (α : Type) (bound : Nat) : Type :=
  (depth : Nat) → (input : List Lexeme) → input.length ≤ bound → Counted α input

/-- Goes one level down, unless the limit is reached. -/
def descend (depth offset : Nat) : Except Error Nat :=
  if depthLimit ≤ depth then .error ⟨offset, .tooDeep⟩ else .ok (depth + 1)

/-- Items with a separator between each two. -/
def countChain {α : Type} {bound : Nat} (separator : Token) (item : CountingReader α bound) :
    CountingReader (List α) bound := fun depth input short =>
  match item depth input short with
  | .error error => .error error
  | .ok (depth, first) =>
    match after : first.rest with
    | found :: rest =>
      if found.token = separator then
        have fewer : rest.length < input.length := by
          have := first.shorter
          rw [after] at this
          exact Nat.lt_of_succ_lt this
        have still : rest.length ≤ bound := Nat.le_of_lt (Nat.lt_of_lt_of_le fewer short)
        match countChain separator item depth rest still with
        | .error error => .error error
        | .ok (depth, others) =>
          .ok (depth, ⟨first.value :: others.value, others.rest, Nat.lt_trans others.shorter fewer⟩)
      else .ok (depth, first.map fun value => [value])
    | [] => .ok (depth, first.map fun value => [value])
termination_by _ input => input.length

def countConjunction {bound : Nat} (unary : CountingReader Expr bound) :
    CountingReader Expr bound := fun depth input short => do
  let (depth, terms) ← countChain .and unary depth input short
  return (depth, terms.map allOf)

def countDisjunction {bound : Nat} (unary : CountingReader Expr bound) :
    CountingReader Expr bound := fun depth input short => do
  let (depth, terms) ← countChain .or (countConjunction unary) depth input short
  return (depth, terms.map anyOf)

def countUnary [PatternEngine] (stop depth : Nat) (input : List Lexeme) : Counted Expr input :=
  match input with
  | ⟨.bang, offset⟩ :: rest => do
    let depth ← descend depth offset
    let (depth, negated) ← countUnary stop depth rest
    return (depth - 1, (negated.map .not).behind _)
  | ⟨.openParen, offset⟩ :: rest => do
    let depth ← descend depth offset
    let unary : CountingReader Expr rest.length := fun depth input _ => countUnary stop depth input
    let (depth, body) ← countDisjunction unary depth rest (Nat.le_refl _)
    let closing ← expect stop .closeParen .closeParen body.rest
    return (depth - 1, ⟨body.value, closing.rest,
      Nat.lt_succ_of_lt (Nat.lt_trans closing.shorter body.shorter)⟩)
  -- A test or a literal leaves the counter alone.
  | input => (readLevel stop none input).map fun test => (depth, test)
termination_by input.length

/-- A whole expression, with a counter that has this value in front of it. -/
def countExpr [PatternEngine] (stop depth : Nat) (input : List Lexeme) : Counted Expr input :=
  let unary : CountingReader Expr input.length := fun depth input _ => countUnary stop depth input
  countDisjunction unary depth input (Nat.le_refl _)

/-! ## The counter comes back -/

section Counting

variable {α : Type} {bound depth : Nat}

/-- A chain of items that bring the counter back brings it back. -/
theorem countChain_eq {separator : Token} {item : CountingReader α bound} {reader : Reader α}
    (same : ∀ input short, item depth input short = (reader input).map (depth, ·))
    (input : List Lexeme) (short : input.length ≤ bound) :
    countChain separator item depth input short =
      (chain separator reader input).map (depth, ·) := by
  fun_induction chain separator reader input with
  | case1 input error stuck =>
    rw [countChain, same, stuck]
    rfl
  | case2 input first read found rest after separated fewer error stuck ih =>
    obtain ⟨value, _, shorter⟩ := first
    obtain rfl : _ = found :: rest := after
    rw [countChain, same, read]
    -- The rest of the chain is found with the counter back at its value.
    simp only [Except.map, if_pos separated, ih (Nat.le_of_lt (Nat.lt_of_lt_of_le fewer short)),
      stuck]
  | case3 input first read found rest after separated fewer more taken ih =>
    obtain ⟨value, _, shorter⟩ := first
    obtain rfl : _ = found :: rest := after
    rw [countChain, same, read]
    simp only [Except.map, if_pos separated, ih (Nat.le_of_lt (Nat.lt_of_lt_of_le fewer short)),
      taken]
  | case4 input first read found rest after other =>
    obtain ⟨value, _, shorter⟩ := first
    obtain rfl : _ = found :: rest := after
    rw [countChain, same, read]
    simp only [Except.map, if_neg other]
  | case5 input first read after =>
    obtain ⟨value, _, shorter⟩ := first
    obtain rfl : _ = [] := after
    rw [countChain, same, read]
    rfl

variable {unary : CountingReader Expr bound} {reader : Reader Expr}

theorem countConjunction_eq
    (same : ∀ input short, unary depth input short = (reader input).map (depth, ·))
    (input : List Lexeme) (short : input.length ≤ bound) :
    countConjunction unary depth input short = (readConjunction reader input).map (depth, ·) := by
  rw [countConjunction, countChain_eq same, readConjunction]
  cases chain .and reader input <;> rfl

theorem countDisjunction_eq
    (same : ∀ input short, unary depth input short = (reader input).map (depth, ·))
    (input : List Lexeme) (short : input.length ≤ bound) :
    countDisjunction unary depth input short = (readDisjunction reader input).map (depth, ·) := by
  rw [countDisjunction, countChain_eq (countConjunction_eq same), readDisjunction]
  cases chain .or (readConjunction reader) input <;> rfl

/-- What does not open a level is read without regard to the levels that are left. -/
theorem readLevel_eq_of_not_opens [PatternEngine] (stop : Nat) (one other : Option (Reader Expr))
    {input : List Lexeme}
    (closed : ∀ next ∈ input.head?, next.token ≠ .bang ∧ next.token ≠ .openParen) :
    readLevel stop one input = readLevel stop other input := by
  unfold readLevel
  split
  next => simp at closed
  next => simp at closed
  all_goals rfl

/-- Where the counter says how many levels are gone, as many are left as the reader counts down
from, and behind what was read the counter has its value again. -/
theorem countUnary_eq [PatternEngine] (stop : Nat) {depth : Nat} (few : depth ≤ depthLimit)
    (input : List Lexeme) :
    countUnary stop depth input =
      (readUnary stop (depthLimit - depth) input).map (depth, ·) := by
  induction size : input.length using Nat.strong_induction_on generalizing depth input with
  | _ size ih =>
  subst size
  unfold countUnary
  split
  next offset rest =>
    rcases Nat.lt_or_ge depth depthLimit with more | full
    · have inside := ih rest.length (Nat.lt_succ_self _) (Nat.succ_le_of_lt more) rest rfl
      have left : depthLimit - depth = depthLimit - (depth + 1) + 1 := by omega
      rw [left, readUnary, readLevel, descend, if_neg (Nat.not_le_of_lt more)]
      simp only [bind, Except.bind, Nat.succ_eq_add_one, inside]
      -- The mark is over, and one is taken off what it had added.
      cases readUnary stop (depthLimit - (depth + 1)) rest <;> rfl
    · rw [Nat.sub_eq_zero_of_le full, readUnary, readLevel, descend, if_pos full]
      rfl
  next offset rest =>
    rcases Nat.lt_or_ge depth depthLimit with more | full
    · have inside : countExpr stop (depth + 1) rest =
          (readDisjunction (readUnary stop (depthLimit - (depth + 1))) rest).map
            (depth + 1, ·) := by
        apply countDisjunction_eq
        intro input short
        exact ih input.length (Nat.lt_succ_of_le short) (Nat.succ_le_of_lt more) input rfl
      have left : depthLimit - depth = depthLimit - (depth + 1) + 1 := by omega
      rw [left, readUnary, readLevel, descend, if_neg (Nat.not_le_of_lt more)]
      rw [countExpr] at inside
      simp only [bind, Except.bind, inside]
      cases readDisjunction (readUnary stop (depthLimit - (depth + 1))) rest with
      | error => rfl
      | ok body =>
        dsimp only [Except.map]
        cases expect stop .closeParen .closeParen body.rest <;> rfl
    · rw [Nat.sub_eq_zero_of_le full, readUnary, readLevel, descend, if_pos full]
      rfl
  next bang paren =>
    obtain ⟨inner, same⟩ := readUnary_eq_readLevel stop (depthLimit - depth)
    rw [same, readLevel_eq_of_not_opens stop none inner]
    rintro ⟨token, offset⟩ member
    obtain ⟨rest, rfl⟩ := List.head?_eq_some_iff.mp member
    constructor
    · rintro rfl
      exact bang offset rest rfl
    · rintro rfl
      exact paren offset rest rfl

theorem countExpr_eq [PatternEngine] (stop : Nat) {depth : Nat} (few : depth ≤ depthLimit)
    (input : List Lexeme) :
    countExpr stop depth input =
      (readDisjunction (readUnary stop (depthLimit - depth)) input).map (depth, ·) :=
  countDisjunction_eq (fun input _ => countUnary_eq stop few input) input (Nat.le_refl _)

end Counting

end FontScores.Rule
