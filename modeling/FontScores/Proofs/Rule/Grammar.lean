import Mathlib
import FontScores.Pattern.Engine
import FontScores.Rule.Expr
import FontScores.Proofs.Number.Order

/-!
# The grammar of rules and what a rule means

A rule is meant as a tree.  `Tree.Holds` says when it holds, without a reader or an evaluator:
connectives are the logical ones, and a comparison compares what two numbers are worth, which is
false as soon as one of them is a score that the font does not have.

`Phrase` says which tokens write a tree.  It follows the grammar level by level and goes beyond it
in two ways only: parentheses may stand around anything, and a chain of `||` or `&&` writes every
tree that groups its members.  The number counts the `!` and `(` that may still be opened.
-/

namespace FontScores

/-- What a comparison says about the values of two numbers. -/
def Comparison.Relates (comparison : Comparison) (left right : Single) : Prop :=
  match comparison with
  | greater => left.isNaN = false ∧ right.isNaN = false ∧ left.value > right.value
  | atLeast => left.isNaN = false ∧ right.isNaN = false ∧ left.value ≥ right.value
  | less => left.isNaN = false ∧ right.isNaN = false ∧ left.value < right.value
  | atMost => left.isNaN = false ∧ right.isNaN = false ∧ left.value ≤ right.value
  | equal => left.isNaN = false ∧ right.isNaN = false ∧ left.value = right.value
  | unequal => ¬(left.isNaN = false ∧ right.isNaN = false ∧ left.value = right.value)

theorem Comparison.holds_iff (comparison : Comparison) (left right : Single) :
    comparison.holds left right = true ↔ comparison.Relates left right := by
  have wide : 0 < Format.single.infinity := by decide
  cases comparison with
  | greater => exact (Binary.less_iff wide).trans and_left_comm
  | atLeast => exact (Binary.lessEq_iff wide).trans and_left_comm
  | less => exact Binary.less_iff wide
  | atMost => exact Binary.lessEq_iff wide
  | equal => exact Binary.equals_iff wide
  | unequal =>
    -- Unequal is the one comparison that holds of what is no number.
    have refuted : holds .unequal left right = true ↔ ¬left.equals right = true := by simp [holds]
    exact refuted.trans (not_congr (Binary.equals_iff wide))

namespace Rule

/-- A rule as it is meant. -/
inductive Tree where
  | or (left right : Tree)
  | and (left right : Tree)
  | not (inner : Tree)
  | group (inner : Tree)
  | literal (value : Bool)
  | familyIs (name : String)
  | familyIsNot (name : String)
  | familyIn (first : String) (others : List String)
  | familyLike (pattern : String)
  | present (tag : String)
  | compare (left : Operand) (comparison : Comparison) (right : Operand)

/-- The number that a side of a comparison stands for, if there is one. -/
def Operand.StandsFor (context : RuleContext) : Operand → Single → Prop
  | score tag, value => context.score? tag = some value
  | number written, value => written = value

/-- When a rule holds. -/
def Tree.Holds [PatternEngine] (context : RuleContext) : Tree → Prop
  | or left right => left.Holds context ∨ right.Holds context
  | and left right => left.Holds context ∧ right.Holds context
  | not inner => ¬inner.Holds context
  | group inner => inner.Holds context
  | literal value => value = true
  | familyIs name => context.family = name
  | familyIsNot name => context.family ≠ name
  | familyIn first others => context.family ∈ first :: others
  | familyLike pattern =>
    ∃ isFoundIn, PatternEngine.read? pattern = some isFoundIn ∧ isFoundIn context.family = true
  | present tag => ∃ score, context.score? tag = some score
  | compare left comparison right => ∃ one two,
    left.StandsFor context one ∧ right.StandsFor context two ∧ comparison.Relates one two

/-- A comparison that mentions a tag without a score is false, whatever the comparison. -/
theorem Tree.not_holds_of_absent [PatternEngine] {context : RuleContext} {tag : String}
    {left right : Operand} (absent : context.score? tag = none)
    (mentioned : left = .score tag ∨ right = .score tag)
    (comparison : Comparison) : ¬(compare left comparison right).Holds context := by
  rintro ⟨one, two, first, second, _⟩
  rcases mentioned with rfl | rfl
  · exact absurd (absent.symm.trans first) nofun
  · exact absurd (absent.symm.trans second) nofun

/-- Some condition in the tree is negated.  That a family is not of a name is no negation. -/
def Tree.Negates : Tree → Prop
  | or left right | and left right => left.Negates ∨ right.Negates
  | not _ => True
  | group inner => inner.Negates
  | _ => False

/-! ## Phrases -/

def Operand.tokens : Operand → List Token
  | score tag => [.name "tags", .openBracket, .text tag, .closeBracket]
  | number value => [.number value]

/-- The names of a list, with a comma between two of them or without. -/
inductive Names : List String → List Token → Prop
  | last (name : String) : Names [name] [.text name]
  | apart (name : String) {others : List String} {tokens : List Token}
      (following : Names others tokens) : Names (name :: others) (.text name :: tokens)
  | comma (name : String) {others : List String} {tokens : List Token}
      (following : Names others tokens) : Names (name :: others) (.text name :: .comma :: tokens)

/-- Names and commas in any order, as the reader takes them behind the first name of a list. -/
inductive Strewn : List String → List Token → Prop
  | nil : Strewn [] []
  | name (name : String) {others : List String} {tokens : List Token}
      (following : Strewn others tokens) : Strewn (name :: others) (.text name :: tokens)
  | comma {names : List String} {tokens : List Token}
      (following : Strewn names tokens) : Strewn names (.comma :: tokens)

theorem Names.strewn {names : List String} {tokens : List Token} (named : Names names tokens) :
    Strewn names tokens := by
  induction named with
  | last name => exact .name name .nil
  | apart name _ ih => exact .name name ih
  | comma name _ ih => exact .name name (.comma ih)

/-- A list starts with its first name, and behind it commas may stand anywhere. -/
theorem Names.strewn_tail {first : String} {others : List String} {tokens : List Token}
    (named : Names (first :: others) tokens) :
    ∃ rest, tokens = .text first :: rest ∧ Strewn others rest := by
  cases named with
  | last => exact ⟨[], rfl, .nil⟩
  | apart _ following => exact ⟨_, rfl, following.strewn⟩
  | comma _ following => exact ⟨_, rfl, .comma following.strewn⟩

/-- How loosely a phrase may bind where it stands. -/
inductive Level where
  | disjunction
  | conjunction
  | unary

/-- The tokens write the tree, at this level and with at most so many `!` and `(` open at once. -/
inductive Phrase [PatternEngine] : Nat → Level → Tree → List Token → Prop
  | or {levels : Nat} {left right : Tree} {front back : List Token}
      (before : Phrase levels .disjunction left front)
      (after : Phrase levels .disjunction right back) :
      Phrase levels .disjunction (.or left right) (front ++ .or :: back)
  | and {levels : Nat} {left right : Tree} {front back : List Token}
      (before : Phrase levels .conjunction left front)
      (after : Phrase levels .conjunction right back) :
      Phrase levels .conjunction (.and left right) (front ++ .and :: back)
  | conjunction {levels : Nat} {tree : Tree} {tokens : List Token}
      (only : Phrase levels .conjunction tree tokens) : Phrase levels .disjunction tree tokens
  | unary {levels : Nat} {tree : Tree} {tokens : List Token}
      (only : Phrase levels .unary tree tokens) : Phrase levels .conjunction tree tokens
  | not {levels : Nat} {inner : Tree} {tokens : List Token}
      (negated : Phrase levels .unary inner tokens) :
      Phrase (levels + 1) .unary (.not inner) (.bang :: tokens)
  | group {levels : Nat} {inner : Tree} {tokens : List Token}
      (body : Phrase levels .disjunction inner tokens) :
      Phrase (levels + 1) .unary (.group inner) (.openParen :: tokens ++ [.closeParen])
  /-- Parentheses that the tree says nothing about, needed or not. -/
  | parentheses {levels : Nat} {inner : Tree} {tokens : List Token}
      (body : Phrase levels .disjunction inner tokens) :
      Phrase (levels + 1) .unary inner (.openParen :: tokens ++ [.closeParen])
  | yes {levels : Nat} : Phrase levels .unary (.literal true) [.name "true"]
  | no {levels : Nat} : Phrase levels .unary (.literal false) [.name "false"]
  | familyIs {levels : Nat} (name : String) :
      Phrase levels .unary (.familyIs name) [.name "family", .comparison .equal, .text name]
  | familyIsNot {levels : Nat} (name : String) :
      Phrase levels .unary (.familyIsNot name) [.name "family", .comparison .unequal, .text name]
  | familyIn {levels : Nat} {first : String} {others : List String} {tokens : List Token}
      (names : Names (first :: others) tokens) :
      Phrase levels .unary (.familyIn first others)
        (.name "family" :: .name "in" :: .openBracket :: tokens ++ [.closeBracket])
  | familyLike {levels : Nat} {pattern : String} (accepted : (PatternEngine.read? pattern).isSome) :
      Phrase levels .unary (.familyLike pattern) [.name "family", .resembles, .text pattern]
  | present {levels : Nat} (tag : String) :
      Phrase levels .unary (.present tag) (Operand.score tag).tokens
  | compare {levels : Nat} (left : Operand) (comparison : Comparison) (right : Operand) :
      Phrase levels .unary (.compare left comparison right)
        (left.tokens ++ .comparison comparison :: right.tokens)

end Rule

end FontScores
