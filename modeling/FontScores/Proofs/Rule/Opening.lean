import Mathlib
import FontScores.Proofs.Rule.ErrorPlace

/-!
# Where an expression may begin

`Opening` says of a row of tokens that it leads to a place where an expression has to begin, inside
a row of the grammar, and how many `!` and `(` may still be opened there.  It follows the grammar:
what was closed before that place is a sentence, and what is still open is not closed yet.

Two things are said about it without the grammar.  A row leads to such a place exactly if it can be
completed when `true` stands there.  And the levels that are gone are the `!` and `(` that are open,
which can be counted by going through the tokens once.
-/

namespace FontScores.Rule

/-- The row is the front of a sentence at this level, and behind it an expression begins that may
open the last number of levels. -/
inductive Opening [PatternEngine] : Nat → Level → List Token → Nat → Prop
  | here {levels : Nat} : Opening levels .unary [] levels
  | not {levels left : Nat} {tokens : List Token} (negated : Opening levels .unary tokens left) :
      Opening (levels + 1) .unary (.bang :: tokens) left
  | group {levels left : Nat} {tokens : List Token}
      (body : Opening levels .disjunction tokens left) :
      Opening (levels + 1) .unary (.openParen :: tokens) left
  | unary {levels left : Nat} {tokens : List Token} (first : Opening levels .unary tokens left) :
      Opening levels .conjunction tokens left
  | and {levels left : Nat} {front back : List Token}
      (closed : Sentence Scattered levels .unary front)
      (others : Opening levels .conjunction back left) :
      Opening levels .conjunction (front ++ .and :: back) left
  | conjunction {levels left : Nat} {tokens : List Token}
      (first : Opening levels .conjunction tokens left) : Opening levels .disjunction tokens left
  | or {levels left : Nat} {front back : List Token}
      (closed : Sentence Scattered levels .conjunction front)
      (others : Opening levels .disjunction back left) :
      Opening levels .disjunction (front ++ .or :: back) left

/-! ## Completing with a literal -/

/-- With `true` at the place and the open parentheses closed behind it, the row is a sentence. -/
theorem Opening.completed [PatternEngine] {levels left : Nat} {level : Level} {tokens : List Token}
    (opening : Opening levels level tokens left) :
    ∃ more, Sentence Scattered levels level (tokens ++ .name "true" :: more) := by
  induction opening with
  | here => exact ⟨[], .literal true⟩
  | not _ ih =>
    obtain ⟨more, sentence⟩ := ih
    exact ⟨more, .not sentence⟩
  | group _ ih =>
    obtain ⟨more, sentence⟩ := ih
    exact ⟨more ++ [.closeParen], by simpa using Sentence.group sentence⟩
  | unary _ ih =>
    obtain ⟨more, sentence⟩ := ih
    exact ⟨more, .unary sentence⟩
  | and closed _ ih =>
    obtain ⟨more, sentence⟩ := ih
    exact ⟨more, by simpa using Sentence.and closed sentence⟩
  | conjunction _ ih =>
    obtain ⟨more, sentence⟩ := ih
    exact ⟨more, .conjunction sentence⟩
  | or closed _ ih =>
    obtain ⟨more, sentence⟩ := ih
    exact ⟨more, by simpa using Sentence.or closed sentence⟩

theorem name_not_mem_strewn {names : List String} {tokens : List Token}
    (strewn : Strewn names tokens) (word : String) : .name word ∉ tokens := by
  induction strewn with
  | nil => simp
  | name _ _ ih => simpa using ih
  | comma _ ih => simpa using ih

theorem true_not_mem_operand (operand : Operand) : .name "true" ∉ operand.tokens := by
  cases operand <;> simp [Operand.tokens]

section Splitting

variable {front back left right tokens : List Token} {first middle token : Token}

theorem split_behind (same : first :: tokens = left ++ token :: right) (other : token ≠ first) :
    ∃ more, left = first :: more ∧ tokens = more ++ token :: right := by
  cases left with
  | nil => exact absurd (List.cons.inj same).1.symm other
  | cons next more =>
    obtain ⟨rfl, rfl⟩ := List.cons.inj same
    exact ⟨more, rfl, rfl⟩

/-- A token of a row that is joined from two by another token belongs to one of them. -/
theorem split_joined (same : front ++ middle :: back = left ++ token :: right)
    (other : token ≠ middle) :
    (∃ more, front = left ++ token :: more) ∨
      ∃ more, left = front ++ middle :: more ∧ back = more ++ token :: right := by
  rcases List.append_eq_append_iff.mp same with ⟨tail, rfl, rest⟩ | ⟨tail, rfl, rest⟩
  · obtain ⟨more, rfl, rfl⟩ := split_behind rest other
    exact .inr ⟨more, rfl, rfl⟩
  · cases tail with
    | nil => exact absurd (List.cons.inj rest).1 other
    | cons next more =>
      obtain ⟨rfl, _⟩ := List.cons.inj rest
      exact .inl ⟨more, rfl⟩

end Splitting

/-- In a sentence the literal `true` stands only where an expression begins. -/
theorem Sentence.opening [PatternEngine] {levels : Nat} {level : Level}
    {tokens front back : List Token} (sentence : Sentence Scattered levels level tokens)
    (split : tokens = front ++ .name "true" :: back) :
    ∃ left, Opening levels level front left := by
  induction sentence generalizing front back with
  | conjunction _ ih =>
    obtain ⟨left, opening⟩ := ih split
    exact ⟨left, .conjunction opening⟩
  | or closed _ ih ih' =>
    rcases split_joined split nofun with ⟨more, before⟩ | ⟨more, rfl, behind⟩
    · obtain ⟨left, opening⟩ := ih before
      exact ⟨left, .conjunction opening⟩
    · obtain ⟨left, opening⟩ := ih' behind
      exact ⟨left, .or closed opening⟩
  | unary _ ih =>
    obtain ⟨left, opening⟩ := ih split
    exact ⟨left, .unary opening⟩
  | and closed _ ih ih' =>
    rcases split_joined split nofun with ⟨more, before⟩ | ⟨more, rfl, behind⟩
    · obtain ⟨left, opening⟩ := ih before
      exact ⟨left, .unary opening⟩
    · obtain ⟨left, opening⟩ := ih' behind
      exact ⟨left, .and closed opening⟩
  | not _ ih =>
    obtain ⟨more, rfl, behind⟩ := split_behind split nofun
    obtain ⟨left, opening⟩ := ih behind
    exact ⟨left, .not opening⟩
  | group _ ih =>
    obtain ⟨more, rfl, behind⟩ := split_behind split nofun
    -- The closing parenthesis is the last token, so the literal stands before it.
    rcases split_joined behind nofun with ⟨more, inside⟩ | ⟨more, _, none⟩
    · obtain ⟨left, opening⟩ := ih inside
      exact ⟨left, .group opening⟩
    · simp at none
  | literal value =>
    obtain rfl : front = [] := by
      cases front with
      | nil => rfl
      | cons first front => simp at split
    exact ⟨_, .here⟩
  | familyIs | familyIsNot | familyLike =>
    -- The tests have no such word among their tokens.
    have member : Token.name "true" ∈ front ++ .name "true" :: back := by simp
    rw [← split] at member
    simp at member
  | familyIn listed =>
    obtain ⟨first, others, rest, rfl, strewn⟩ := listed
    have member : Token.name "true" ∈ front ++ .name "true" :: back := by simp
    rw [← split] at member
    simp [name_not_mem_strewn strewn] at member
  | present tag =>
    have member : Token.name "true" ∈ front ++ .name "true" :: back := by simp
    rw [← split] at member
    exact absurd member (true_not_mem_operand _)
  | compare one _ other =>
    have member : Token.name "true" ∈ front ++ .name "true" :: back := by simp
    rw [← split] at member
    simp [true_not_mem_operand] at member

/-! ## Counting what is open -/

/-- What is open behind a token, innermost first.  A `!` lasts until the expression behind it is
over, which is seen at the next token that closes a group or goes on with a chain. -/
def opened (marks : List Token) : Token → List Token
  | .openParen => .openParen :: marks
  | .bang => .bang :: marks
  | .closeParen => (marks.dropWhile (· = .bang)).tail
  | .and => marks.dropWhile (· = .bang)
  | .or => marks.dropWhile (· = .bang)
  | _ => marks

/-- How many `!` and `(` are open behind the tokens. -/
def openMarks (tokens : List Token) : Nat := (tokens.foldl opened []).length

section Counting

variable {levels left : Nat} {level : Level} {tokens : List Token}

/-- Going on with a chain leaves what was open before the chain. -/
theorem dropWhile_bang {marks : List Token} (outside : marks.head? ≠ some .bang) (count : Nat) :
    (List.replicate count Token.bang ++ marks).dropWhile (· = .bang) = marks := by
  induction count with
  | zero =>
    cases marks with
    | nil => rfl
    | cons mark marks => simpa using outside
  | succ count ih => simpa [List.replicate_succ] using ih

theorem foldl_opened_strewn {names : List String} (strewn : Strewn names tokens)
    (marks : List Token) : tokens.foldl opened marks = marks := by
  induction strewn with
  | nil => rfl
  | name _ _ ih => exact ih
  | comma _ ih => exact ih

theorem foldl_opened_operand (operand : Operand) (marks : List Token) :
    operand.tokens.foldl opened marks = marks := by
  cases operand <;> rfl

/-- Whatever a sentence opens is closed at its end, but for the `!` that it begins with.  A chain
does not stand right behind a `!`. -/
theorem Sentence.foldl_opened [PatternEngine] (sentence : Sentence Scattered levels level tokens)
    (marks : List Token) (outside : level ≠ .unary → marks.head? ≠ some .bang) :
    ∃ count, tokens.foldl opened marks = List.replicate count .bang ++ marks := by
  induction sentence generalizing marks with
  | conjunction _ ih => exact ih marks fun _ => outside nofun
  | or _ _ ih ih' =>
    obtain ⟨count, closed⟩ := ih marks fun _ => outside nofun
    obtain ⟨count', closed'⟩ := ih' marks outside
    refine ⟨count', ?_⟩
    rw [List.foldl_append, closed, List.foldl_cons, opened, dropWhile_bang (outside nofun),
      closed']
  | unary _ ih => exact ih marks fun chain => absurd rfl chain
  | and _ _ ih ih' =>
    obtain ⟨count, closed⟩ := ih marks fun chain => absurd rfl chain
    obtain ⟨count', closed'⟩ := ih' marks outside
    refine ⟨count', ?_⟩
    rw [List.foldl_append, closed, List.foldl_cons, opened, dropWhile_bang (outside nofun),
      closed']
  | not _ ih =>
    obtain ⟨count, closed⟩ := ih (.bang :: marks) fun chain => absurd rfl chain
    refine ⟨count + 1, ?_⟩
    rw [List.foldl_cons, opened, closed, List.replicate_succ', List.append_assoc]
    rfl
  | group _ ih =>
    obtain ⟨count, closed⟩ := ih (.openParen :: marks) fun _ => nofun
    refine ⟨0, ?_⟩
    rw [List.cons_append, List.foldl_cons, opened, List.foldl_append, closed, List.foldl_cons,
      opened, dropWhile_bang (by simp)]
    rfl
  | literal | familyIs | familyIsNot | familyLike => exact ⟨0, rfl⟩
  | familyIn listed =>
    obtain ⟨first, others, rest, rfl, strewn⟩ := listed
    refine ⟨0, ?_⟩
    simp [opened, foldl_opened_strewn strewn]
  | present tag => exact ⟨0, foldl_opened_operand _ marks⟩
  | compare one _ other =>
    refine ⟨0, ?_⟩
    simp [opened, foldl_opened_operand]

/-- What is open where an expression begins is what the levels are fewer by. -/
theorem Opening.length_foldl_opened [PatternEngine] (opening : Opening levels level tokens left)
    (marks : List Token) (outside : level ≠ .unary → marks.head? ≠ some .bang) :
    (tokens.foldl opened marks).length + left = levels + marks.length := by
  induction opening generalizing marks with
  | here => exact Nat.add_comm _ _
  | not _ ih =>
    have inside := ih (.bang :: marks) fun chain => absurd rfl chain
    simp only [List.foldl_cons, opened, List.length_cons] at inside ⊢
    omega
  | group _ ih =>
    have inside := ih (.openParen :: marks) fun _ => nofun
    simp only [List.foldl_cons, opened, List.length_cons] at inside ⊢
    omega
  | unary _ ih => exact ih marks fun chain => absurd rfl chain
  | and closed _ ih =>
    obtain ⟨count, closed⟩ := closed.foldl_opened marks fun chain => absurd rfl chain
    rw [List.foldl_append, closed, List.foldl_cons, opened, dropWhile_bang (outside nofun)]
    exact ih marks outside
  | conjunction _ ih => exact ih marks fun _ => outside nofun
  | or closed _ ih =>
    obtain ⟨count, closed⟩ := closed.foldl_opened marks fun _ => outside nofun
    rw [List.foldl_append, closed, List.foldl_cons, opened, dropWhile_bang (outside nofun)]
    exact ih marks outside

/-- An expression may begin behind the tokens if they can be completed with `true` there, and then
it may open what is left of the levels. -/
theorem opening_iff [PatternEngine] : Opening depthLimit .disjunction tokens left ↔
    Viable (tokens ++ [.name "true"]) ∧ openMarks tokens + left = depthLimit := by
  have counted {left : Nat} (opening : Opening depthLimit .disjunction tokens left) :
      openMarks tokens + left = depthLimit := opening.length_foldl_opened [] fun _ => nofun
  constructor
  · intro opening
    obtain ⟨more, sentence⟩ := opening.completed
    exact ⟨⟨more, accepted_iff.mpr (by simpa using sentence)⟩, counted opening⟩
  · rintro ⟨⟨more, accepted⟩, count⟩
    obtain ⟨rest, opening⟩ := (accepted_iff.mp accepted).opening (List.append_assoc _ _ _)
    have same := counted opening
    obtain rfl : rest = left := by omega
    exact opening

/-- The second `!` is closed by `&&`, and the other marks are open. -/
example : openMarks [.bang, .openParen, .bang, .name "true", .and, .bang] = 3 := by decide

end Counting

end FontScores.Rule
