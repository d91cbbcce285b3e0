import Mathlib
import FontScores.Rule.Parser
import FontScores.Proofs.Rule.Grammar

/-!
# A phrase is read as what it means

A reader that gets a phrase takes the whole phrase, whatever stands behind it, unless that goes on
with a token by which the phrase would be longer.  The readers do not keep how a chain is grouped:
what they return for it is a list of terms, in the order in which the phrase has them, so a phrase
that is joined from two has the terms of both.
-/

namespace FontScores.Rule

/-- The reader takes this value off the input and leaves the rest. -/
def Reads {α : Type} (reader : Reader α) (input : List Lexeme) (value : α) (rest : List Lexeme) :
    Prop :=
  ∃ taken, reader input = .ok taken ∧ taken.value = value ∧ taken.rest = rest

/-! ## Chains -/

section Chains

variable {α : Type} {separator : Token} {item : Reader α}

theorem reads_chain_last {input rest : List Lexeme} {value : α} (read : Reads item input value rest)
    (outside : ∀ next ∈ rest.head?, next.token ≠ separator) :
    Reads (chain separator item) input [value] rest := by
  obtain ⟨taken, read, rfl, rfl⟩ := read
  unfold Reads
  rw [chain, read]
  split
  next error => contradiction
  next first same =>
    cases same
    split
    -- The next token is not the separator, so the chain stops.
    next found rest after =>
      rw [if_neg (outside found (by simp [after]))]
      exact ⟨_, rfl, rfl, rfl⟩
    next after => exact ⟨_, rfl, rfl, rfl⟩

theorem reads_chain_more {input middle rest : List Lexeme} {value : α} {values : List α}
    {offset : Nat} (read : Reads item input value (⟨separator, offset⟩ :: middle))
    (others : Reads (chain separator item) middle values rest) :
    Reads (chain separator item) input (value :: values) rest := by
  obtain ⟨taken, read, rfl, after⟩ := read
  obtain ⟨more, others, rfl, rfl⟩ := others
  unfold Reads
  rw [chain, read]
  split
  next error => contradiction
  next first same =>
    cases same
    split
    -- The next token is the separator, and the others are read behind it.
    next found rest next =>
      cases after.symm.trans next
      rw [if_pos rfl, others]
      exact ⟨_, rfl, rfl, rfl⟩
    next next =>
      rw [after] at next
      contradiction

/-- The items that a chain starts with, read one by one, each but the last with the separator behind
it.  Nothing is said about what stands behind the last one. -/
inductive Chained (separator : Token) (item : Reader α) :
    List Lexeme → List α → List Lexeme → Prop
  | last {input rest : List Lexeme} {value : α} (read : Reads item input value rest) :
      Chained separator item input [value] rest
  | more {input middle rest : List Lexeme} {value : α} {values : List α} {offset : Nat}
      (read : Reads item input value (⟨separator, offset⟩ :: middle))
      (others : Chained separator item middle values rest) :
      Chained separator item input (value :: values) rest

theorem Chained.append {input middle rest : List Lexeme} {front back : List α} {offset : Nat}
    (before : Chained separator item input front (⟨separator, offset⟩ :: middle))
    (after : Chained separator item middle back rest) :
    Chained separator item input (front ++ back) rest := by
  -- On the front: the separator in the middle stands behind its last item.
  generalize whole : Lexeme.mk separator offset :: middle = left at before
  induction before with
  | last read =>
    subst whole
    exact .more read after
  | more read _ ih => exact .more read (ih whole)

theorem Chained.reads {input rest : List Lexeme} {values : List α}
    (chained : Chained separator item input values rest)
    (outside : ∀ next ∈ rest.head?, next.token ≠ separator) :
    Reads (chain separator item) input values rest := by
  induction chained with
  | last read => exact reads_chain_last read outside
  | more read _ ih => exact reads_chain_more read (ih outside)

end Chains

theorem reads_conjunction {unary : Reader Expr} {input rest : List Lexeme} {terms : List Expr}
    (chained : Chained .and unary input terms rest)
    (outside : ∀ next ∈ rest.head?, next.token ≠ .and) :
    Reads (readConjunction unary) input (allOf terms) rest := by
  obtain ⟨taken, read, rfl, rfl⟩ := chained.reads outside
  exact ⟨taken.map allOf, by rw [readConjunction, read]; rfl, rfl, rfl⟩

theorem reads_disjunction {unary : Reader Expr} {input rest : List Lexeme} {terms : List Expr}
    (chained : Chained .or (readConjunction unary) input terms rest)
    (outside : ∀ next ∈ rest.head?, next.token ≠ .or) :
    Reads (readDisjunction unary) input (anyOf terms) rest := by
  obtain ⟨taken, read, rfl, rfl⟩ := chained.reads outside
  exact ⟨taken.map anyOf, by rw [readDisjunction, read]; rfl, rfl, rfl⟩

/-! ## Terms -/

namespace Expr

variable (context : RuleContext)

theorem evalAll_append (front back : List Expr) :
    evalAll context (front ++ back) = (evalAll context front && evalAll context back) := by
  induction front with
  | nil => simp [evalAll]
  | cons term others ih => simp [evalAll, ih, Bool.and_assoc]

theorem evalAny_append (front back : List Expr) :
    evalAny context (front ++ back) = (evalAny context front || evalAny context back) := by
  induction front with
  | nil => simp [evalAny]
  | cons term others ih => simp [evalAny, ih, Bool.or_assoc]

end Expr

theorem eval_allOf (context : RuleContext) (terms : List Expr) :
    (allOf terms).eval context = Expr.evalAll context terms := by
  unfold allOf
  split
  · simp [Expr.evalAll]
  · rw [Expr.eval]

theorem eval_anyOf (context : RuleContext) (terms : List Expr) :
    (anyOf terms).eval context = Expr.evalAny context terms := by
  unfold anyOf
  split
  · simp [Expr.evalAny]
  · rw [Expr.eval]

/-- The expression holds in the contexts in which the tree does. -/
def Expr.Means [PatternEngine] (expr : Expr) (tree : Tree) : Prop :=
  ∀ context, expr.eval context = true ↔ tree.Holds context

/-! ## Tests -/

theorem Operand.standsFor_iff {context : RuleContext} {operand : Operand} {value : Single} :
    operand.StandsFor context value ↔ operand.value? context = some value := by
  cases operand <;> simp [StandsFor, value?]

theorem reads_operand (stop : Nat) (operand : Operand) {input : List Lexeme}
    (written : input.map Lexeme.token = operand.tokens) (rest : List Lexeme) :
    Reads (readOperand stop) (input ++ rest) operand rest := by
  cases operand with
  | number value =>
    obtain ⟨⟨_, _⟩, _, rfl, rfl, more⟩ := List.map_eq_cons_iff.mp written
    cases List.map_eq_nil_iff.mp more
    exact ⟨_, rfl, rfl, rfl⟩
  | score tag =>
    simp only [Operand.tokens, List.map_eq_cons_iff, List.map_eq_nil_iff] at written
    obtain ⟨⟨_, _⟩, _, rfl, rfl, ⟨_, _⟩, _, rfl, rfl, ⟨_, _⟩, _, rfl, rfl, ⟨_, _⟩, _, rfl, rfl,
      rfl⟩ := written
    exact ⟨_, rfl, rfl, rfl⟩

theorem reads_compare (stop : Nat) (left : Operand) (comparison : Comparison) (right : Operand)
    {input : List Lexeme}
    (written : input.map Lexeme.token = left.tokens ++ .comparison comparison :: right.tokens)
    (rest : List Lexeme) :
    Reads (readScoreTest stop) (input ++ rest) (.compare left comparison right) rest := by
  obtain ⟨front, back, rfl, first, more⟩ := List.map_eq_append_iff.mp written
  obtain ⟨⟨_, offset⟩, back, rfl, rfl, second⟩ := List.map_eq_cons_iff.mp more
  obtain ⟨one, readLeft, rfl, after⟩ :=
    reads_operand stop left first (⟨.comparison comparison, offset⟩ :: (back ++ rest))
  obtain ⟨two, readRight, rfl, left⟩ := reads_operand stop right second rest
  unfold Reads
  rw [List.append_assoc, List.cons_append, readScoreTest, readLeft]
  simp only [bind, Except.bind]
  split
  next found _ tail next =>
    cases after.symm.trans next
    rw [readRight]
    exact ⟨_, rfl, rfl, left⟩
  next other => exact absurd after (other _ _ _)

theorem reads_present (stop : Nat) (tag : String) {input : List Lexeme}
    (written : input.map Lexeme.token = (Operand.score tag).tokens) {rest : List Lexeme}
    (outside : ∀ next ∈ rest.head?, ∀ comparison, next.token ≠ .comparison comparison) :
    Reads (readScoreTest stop) (input ++ rest) (.present tag) rest := by
  obtain ⟨one, read, value, left⟩ := reads_operand stop (.score tag) written rest
  unfold Reads
  rw [readScoreTest, read]
  -- A comparison behind the tag would be read on, so there must be none.
  simp only [bind, Except.bind]
  split
  next found _ tail next =>
    exact absurd rfl (outside _ (by rw [← left, next]; rfl) found)
  next other =>
    split
    next same =>
      cases value.symm.trans same
      exact ⟨_, rfl, rfl, left⟩
    next same =>
      cases value.symm.trans same

theorem reads_names_text {stop offset : Nat} {name : String} {others : List String}
    {tail rest : List Lexeme} (read : Reads (readNames stop) tail others rest) :
    Reads (readNames stop) (⟨.text name, offset⟩ :: tail) (name :: others) rest := by
  obtain ⟨taken, read, rfl, left⟩ := read
  exact ⟨(taken.map (name :: ·)).behind _, by rw [readNames, read]; rfl, rfl, left⟩

theorem reads_names_comma {stop offset : Nat} {names : List String} {tail rest : List Lexeme}
    (read : Reads (readNames stop) tail names rest) :
    Reads (readNames stop) (⟨.comma, offset⟩ :: tail) names rest := by
  obtain ⟨taken, read, rfl, left⟩ := read
  exact ⟨taken.behind _, by rw [readNames, read]; rfl, rfl, left⟩

theorem reads_names (stop : Nat) {names : List String} {tokens : List Token}
    (strewn : Strewn names tokens) {input : List Lexeme} (written : input.map Lexeme.token = tokens)
    (offset : Nat) (rest : List Lexeme) :
    Reads (readNames stop) (input ++ ⟨.closeBracket, offset⟩ :: rest) names rest := by
  induction strewn generalizing input with
  | nil =>
    cases List.map_eq_nil_iff.mp written
    exact ⟨_, rfl, rfl, rfl⟩
  | name name _ ih =>
    obtain ⟨⟨_, _⟩, others, rfl, rfl, more⟩ := List.map_eq_cons_iff.mp written
    exact reads_names_text (ih more)
  | comma _ ih =>
    obtain ⟨⟨_, _⟩, others, rfl, rfl, more⟩ := List.map_eq_cons_iff.mp written
    exact reads_names_comma (ih more)

/-- Behind its first name, a list is read by the reader of the other names. -/
theorem reads_familyList (stop : Nat) {first : String} {others : List String}
    {opening offset : Nat} {tail rest : List Lexeme}
    (read : Reads (readNames stop) tail others rest) :
    Reads (readFamilyList stop) (⟨.openBracket, opening⟩ :: ⟨.text first, offset⟩ :: tail)
      (first :: others) rest := by
  obtain ⟨taken, read, rfl, left⟩ := read
  unfold Reads readFamilyList
  simp only [expect, readText, if_true, bind, Except.bind, Taken.head, read]
  exact ⟨_, rfl, rfl, left⟩

/-! ## Phrases -/

/-- What may stand behind a phrase of the level, so that the phrase is over. -/
def Level.isOver : Level → Token → Bool
  | _, .closeParen => true
  | .conjunction, .or | .unary, .or | .unary, .and => true
  | _, _ => false

theorem Level.isOver_unary {token : Token} (ends : Level.conjunction.isOver token = true) :
    Level.unary.isOver token = true := by
  cases token <;> simp_all [isOver]

variable [PatternEngine]

/-- The reader of the level takes such tokens off any input that ends the phrase behind them, and
what it returns means the tree.  Of a chain it takes the terms. -/
def Understood (levels : Nat) (level : Level) (tree : Tree) (tokens : List Token) : Prop :=
  match level with
  | .unary => ∃ expr : Expr, expr.Means tree ∧
    ∀ stop input rest, input.map Lexeme.token = tokens →
      (∀ next ∈ rest.head?, Level.unary.isOver next.token = true) →
      Reads (readUnary stop levels) (input ++ rest) expr rest
  | .conjunction => ∃ terms : List Expr,
    (∀ context, Expr.evalAll context terms = true ↔ tree.Holds context) ∧
    ∀ stop input rest, input.map Lexeme.token = tokens →
      (∀ next ∈ rest.head?, Level.unary.isOver next.token = true) →
      Chained .and (readUnary stop levels) (input ++ rest) terms rest
  | .disjunction => ∃ terms : List Expr,
    (∀ context, Expr.evalAny context terms = true ↔ tree.Holds context) ∧
    ∀ stop input rest, input.map Lexeme.token = tokens →
      (∀ next ∈ rest.head?, Level.conjunction.isOver next.token = true) →
      Chained .or (readConjunction (readUnary stop levels)) (input ++ rest) terms rest

section Steps

variable {levels : Nat} {tree left right : Tree} {tokens front back : List Token}

theorem understood_or (before : Understood levels .disjunction left front)
    (after : Understood levels .disjunction right back) :
    Understood levels .disjunction (.or left right) (front ++ .or :: back) := by
  obtain ⟨one, meansLeft, readLeft⟩ := before
  obtain ⟨two, meansRight, readRight⟩ := after
  refine ⟨one ++ two, ?_, ?_⟩
  · intro context
    rw [Expr.evalAny_append, Bool.or_eq_true, meansLeft, meansRight, Tree.Holds]
  · intro stop input rest written outside
    obtain ⟨first, more, rfl, same, following⟩ := List.map_eq_append_iff.mp written
    obtain ⟨⟨_, offset⟩, second, rfl, rfl, other⟩ := List.map_eq_cons_iff.mp following
    rw [List.append_assoc, List.cons_append]
    -- Behind the front stands `||`, and there each conjunction is over.
    exact (readLeft stop first _ same (by simp [Level.isOver])).append
      (readRight stop second rest other outside)

theorem understood_and (before : Understood levels .conjunction left front)
    (after : Understood levels .conjunction right back) :
    Understood levels .conjunction (.and left right) (front ++ .and :: back) := by
  obtain ⟨one, meansLeft, readLeft⟩ := before
  obtain ⟨two, meansRight, readRight⟩ := after
  refine ⟨one ++ two, ?_, ?_⟩
  · intro context
    rw [Expr.evalAll_append, Bool.and_eq_true, meansLeft, meansRight, Tree.Holds]
  · intro stop input rest written outside
    obtain ⟨first, more, rfl, same, following⟩ := List.map_eq_append_iff.mp written
    obtain ⟨⟨_, offset⟩, second, rfl, rfl, other⟩ := List.map_eq_cons_iff.mp following
    rw [List.append_assoc, List.cons_append]
    -- Behind the front stands `&&`, and there whatever binds more tightly is over.
    exact (readLeft stop first _ same (by simp [Level.isOver])).append
      (readRight stop second rest other outside)

theorem understood_unary (only : Understood levels .unary tree tokens) :
    Understood levels .conjunction tree tokens := by
  obtain ⟨expr, means, reads⟩ := only
  refine ⟨[expr], ?_, ?_⟩
  · intro context
    simpa [Expr.evalAll] using means context
  · intro stop input rest written outside
    exact .last (reads stop input rest written outside)

theorem understood_conjunction (only : Understood levels .conjunction tree tokens) :
    Understood levels .disjunction tree tokens := by
  obtain ⟨terms, means, chained⟩ := only
  refine ⟨[allOf terms], ?_, ?_⟩
  · intro context
    simpa [Expr.evalAny, eval_allOf] using means context
  · intro stop input rest written outside
    apply Chained.last
    apply reads_conjunction
    · apply chained stop input rest written
      exact fun next member => Level.isOver_unary (outside next member)
    · rintro next member same
      simpa [same, Level.isOver] using outside next member

/-! ### Nesting -/

theorem reads_not {stop offset : Nat} {tail rest : List Lexeme} {expr : Expr}
    (read : Reads (readUnary stop levels) tail expr rest) :
    Reads (readUnary stop (levels + 1)) (⟨.bang, offset⟩ :: tail) (.not expr) rest := by
  obtain ⟨taken, read, rfl, left⟩ := read
  exact ⟨(taken.map .not).behind _, by rw [readUnary, readLevel, read]; rfl, rfl, left⟩

theorem reads_parentheses {stop opening closing : Nat} {tail rest : List Lexeme} {expr : Expr}
    (read : Reads (readDisjunction (readUnary stop levels)) tail expr
      (⟨.closeParen, closing⟩ :: rest)) :
    Reads (readUnary stop (levels + 1)) (⟨.openParen, opening⟩ :: tail) expr rest := by
  obtain ⟨body, read, rfl, after⟩ := read
  obtain ⟨closed, expected, left⟩ : ∃ closed, expect stop .closeParen .closeParen body.rest =
      .ok closed ∧ closed.rest = rest := by
    rw [after]
    exact ⟨_, rfl, rfl⟩
  unfold Reads
  rw [readUnary, readLevel, read]
  simp only [bind, Except.bind, expected]
  exact ⟨_, rfl, rfl, left⟩

theorem understood_not (negated : Understood levels .unary tree tokens) :
    Understood (levels + 1) .unary (.not tree) (.bang :: tokens) := by
  obtain ⟨expr, means, reads⟩ := negated
  refine ⟨.not expr, ?_, ?_⟩
  · intro context
    simp [Expr.eval, Tree.Holds, ← means context]
  · intro stop input rest written outside
    obtain ⟨⟨_, offset⟩, tail, rfl, rfl, more⟩ := List.map_eq_cons_iff.mp written
    exact reads_not (reads stop tail rest more outside)

/-- Whatever stands in parentheses is read without regard to what stands behind them. -/
theorem understood_parentheses (body : Understood levels .disjunction tree tokens) :
    Understood (levels + 1) .unary tree (.openParen :: tokens ++ [.closeParen]) := by
  obtain ⟨terms, means, chained⟩ := body
  refine ⟨anyOf terms, ?_, ?_⟩
  · intro context
    rw [eval_anyOf, means]
  · intro stop input rest written outside
    obtain ⟨⟨_, opening⟩, others, rfl, rfl, more⟩ := List.map_eq_cons_iff.mp written
    obtain ⟨inside, last, rfl, same, close⟩ := List.map_eq_append_iff.mp more
    obtain ⟨⟨_, closing⟩, _, rfl, rfl, nothing⟩ := List.map_eq_cons_iff.mp close
    cases List.map_eq_nil_iff.mp nothing
    rw [List.cons_append, List.append_assoc]
    apply reads_parentheses
    apply reads_disjunction
    -- Inside, the phrase is over at the closing parenthesis.
    · exact chained stop inside _ same (by simp [Level.isOver])
    · simp

/-! ### Tests -/

theorem readUnary_eq_readLevel (stop levels : Nat) :
    ∃ inner, readUnary stop levels = readLevel stop inner := by
  cases levels with
  | zero => exact ⟨none, rfl⟩
  | succ levels => exact ⟨some (readUnary stop levels), rfl⟩

theorem reads_family {stop offset : Nat} {tail rest : List Lexeme} {expr : Expr}
    (read : Reads (readFamilyTest stop) tail expr rest) :
    Reads (readUnary stop levels) (⟨.name "family", offset⟩ :: tail) expr rest := by
  obtain ⟨inner, same⟩ := readUnary_eq_readLevel stop levels
  obtain ⟨taken, read, rfl, left⟩ := read
  rw [same]
  exact ⟨taken.behind _, by rw [readLevel, read]; rfl, rfl, left⟩

theorem reads_score {stop : Nat} {operand : Operand} {input rest : List Lexeme} {expr : Expr}
    {others : List Token} (written : input.map Lexeme.token = operand.tokens ++ others)
    (read : Reads (readScoreTest stop) (input ++ rest) expr rest) :
    Reads (readUnary stop levels) (input ++ rest) expr rest := by
  obtain ⟨inner, same⟩ := readUnary_eq_readLevel stop levels
  obtain ⟨taken, read, rfl, left⟩ := read
  rw [same]
  refine ⟨taken, ?_, rfl, left⟩
  cases operand with
  | number value =>
    obtain ⟨⟨_, _⟩, _, rfl, rfl, _⟩ := List.map_eq_cons_iff.mp written
    exact read
  | score tag =>
    obtain ⟨⟨_, _⟩, _, rfl, rfl, _⟩ := List.map_eq_cons_iff.mp written
    exact read

theorem reads_familyLike {stop sign offset : Nat} {text : String}
    {isFoundIn : String → Bool} (accepted : PatternEngine.read? text = some isFoundIn)
    (rest : List Lexeme) :
    Reads (readFamilyTest stop) (⟨.resembles, sign⟩ :: ⟨.text text, offset⟩ :: rest)
      (.familyLike isFoundIn) rest := by
  unfold Reads
  rw [readFamilyTest, readText]
  simp only [bind, Except.bind, Taken.head, accepted]
  exact ⟨_, rfl, rfl, rfl⟩

theorem reads_familyIn {stop word opening offset closing : Nat} {first : String}
    {others : List String} {tokens : List Token} (strewn : Strewn others tokens)
    {input : List Lexeme} (written : input.map Lexeme.token = tokens) (rest : List Lexeme) :
    Reads (readFamilyTest stop)
      (⟨.name "in", word⟩ :: ⟨.openBracket, opening⟩ :: ⟨.text first, offset⟩ ::
        (input ++ ⟨.closeBracket, closing⟩ :: rest))
      (.familyIn (first :: others)) rest := by
  obtain ⟨taken, read, value, left⟩ :=
    @reads_familyList stop first others opening offset _ rest
      (reads_names stop strewn written closing rest)
  refine ⟨(taken.map .familyIn).behind _, by rw [readFamilyTest, read]; rfl, ?_, left⟩
  exact congrArg Expr.familyIn value

theorem understood_literal (value : Bool) {word : String}
    (spelled : word = if value then "true" else "false") :
    Understood levels .unary (.literal value) [.name word] := by
  refine ⟨.literal value, fun context => by simp [Expr.eval, Tree.Holds], ?_⟩
  intro stop input rest written outside
  obtain ⟨⟨_, _⟩, _, rfl, rfl, more⟩ := List.map_eq_cons_iff.mp written
  cases List.map_eq_nil_iff.mp more
  obtain ⟨inner, same⟩ := readUnary_eq_readLevel stop levels
  rw [same]
  cases value with
  | true =>
    cases spelled
    exact ⟨_, rfl, rfl, rfl⟩
  | false =>
    cases spelled
    exact ⟨_, rfl, rfl, rfl⟩

/-- A test of the family by a sign and a text, whatever the two mean. -/
theorem understood_familyTest {sign : Token} {text : String} {expr : Expr} (means : expr.Means tree)
    (reads : ∀ stop one two rest,
      Reads (readFamilyTest stop) (⟨sign, one⟩ :: ⟨.text text, two⟩ :: rest) expr rest) :
    Understood levels .unary tree [.name "family", sign, .text text] := by
  refine ⟨expr, means, ?_⟩
  intro stop input rest written outside
  simp only [List.map_eq_cons_iff, List.map_eq_nil_iff] at written
  obtain ⟨⟨_, _⟩, _, rfl, rfl, ⟨_, one⟩, _, rfl, rfl, ⟨_, two⟩, _, rfl, rfl, rfl⟩ := written
  exact reads_family (reads stop one two rest)

theorem understood_familyIs (name : String) :
    Understood levels .unary (.familyIs name)
      [.name "family", .comparison .equal, .text name] := by
  have means : (Expr.familyIs name).Means (.familyIs name) := by
    intro context
    simp [Expr.eval, Tree.Holds]
  exact understood_familyTest means fun _ _ _ _ => ⟨_, rfl, rfl, rfl⟩

theorem understood_familyIsNot (name : String) :
    Understood levels .unary (.familyIsNot name)
      [.name "family", .comparison .unequal, .text name] := by
  have means : (Expr.not (.familyIs name)).Means (.familyIsNot name) := by
    intro context
    simp [Expr.eval, Tree.Holds]
  exact understood_familyTest means fun _ _ _ _ => ⟨_, rfl, rfl, rfl⟩

theorem understood_familyLike {text : String} (accepted : (PatternEngine.read? text).isSome) :
    Understood levels .unary (.familyLike text) [.name "family", .resembles, .text text] := by
  obtain ⟨isFoundIn, accepted⟩ := Option.isSome_iff_exists.mp accepted
  have means : (Expr.familyLike isFoundIn).Means (.familyLike text) := by
    intro context
    simp [Expr.eval, Tree.Holds, accepted]
  exact understood_familyTest means fun _ _ _ rest => reads_familyLike accepted rest

theorem understood_familyIn {first : String} {others : List String} {names : List Token}
    (strewn : Strewn others names) :
    Understood levels .unary (.familyIn first others)
      (.name "family" :: .name "in" :: .openBracket :: .text first :: names ++
        [.closeBracket]) := by
  refine ⟨.familyIn (first :: others), fun context => by simp [Expr.eval, Tree.Holds], ?_⟩
  intro stop input rest written outside
  simp only [List.cons_append, List.map_eq_cons_iff, List.map_eq_append_iff, List.map_eq_nil_iff]
    at written
  obtain ⟨⟨_, _⟩, _, rfl, rfl, ⟨_, _⟩, _, rfl, rfl, ⟨_, _⟩, _, rfl, rfl, ⟨_, _⟩, _, rfl, rfl,
    inside, _, rfl, same, ⟨_, _⟩, _, rfl, rfl, rfl⟩ := written
  rw [List.cons_append, List.cons_append, List.cons_append, List.cons_append, List.append_assoc]
  exact reads_family (reads_familyIn strewn same rest)

theorem understood_present (tag : String) :
    Understood levels .unary (.present tag) (Operand.score tag).tokens := by
  refine ⟨.present tag, fun context => ?_, ?_⟩
  · simp [Expr.eval, Tree.Holds, Option.isSome_iff_exists]
  intro stop input rest written outside
  have whole : input.map Lexeme.token = (Operand.score tag).tokens ++ [] := by
    rw [written, List.append_nil]
  apply reads_score whole
  apply reads_present stop tag written
  intro next member comparison same
  simpa [same, Level.isOver] using outside next member

theorem understood_compare (left : Operand) (comparison : Comparison) (right : Operand) :
    Understood levels .unary (.compare left comparison right)
      (left.tokens ++ .comparison comparison :: right.tokens) := by
  refine ⟨.compare left comparison right, fun context => ?_, ?_⟩
  · simp only [Expr.eval, Tree.Holds, Operand.standsFor_iff, ← Comparison.holds_iff]
    -- If one side has no value, neither the expression nor the tree holds.
    cases left.value? context <;> cases right.value? context <;> simp
  · intro stop input rest written outside
    exact reads_score written (reads_compare stop left comparison right written rest)

end Steps

theorem understood_phrase {levels : Nat} {level : Level} {tree : Tree} {tokens : List Token}
    (phrase : Phrase levels level tree tokens) : Understood levels level tree tokens := by
  induction phrase with
  | or _ _ before after => exact understood_or before after
  | and _ _ before after => exact understood_and before after
  | conjunction _ only => exact understood_conjunction only
  | unary _ only => exact understood_unary only
  | not _ negated => exact understood_not negated
  | group _ body => exact understood_parentheses body
  | parentheses _ body => exact understood_parentheses body
  | yes => exact understood_literal true rfl
  | no => exact understood_literal false rfl
  | familyIs name => exact understood_familyIs name
  | familyIsNot name => exact understood_familyIsNot name
  | familyIn names =>
    obtain ⟨rest, rfl, strewn⟩ := names.strewn_tail
    exact understood_familyIn strewn
  | familyLike accepted => exact understood_familyLike accepted
  | present tag => exact understood_present tag
  | compare left comparison right => exact understood_compare left comparison right

/-- Tokens that are understood are accepted as a whole, wherever the source ends. -/
theorem readAll_of_understood (stop : Nat) {lexed : List Lexeme} {tree : Tree}
    (understood : Understood depthLimit .disjunction tree (lexed.map Lexeme.token)) :
    ∃ expr, readAll stop lexed = .ok expr ∧ expr.Means tree := by
  obtain ⟨terms, means, chained⟩ := understood
  -- Nothing stands behind the tokens, so they are over at the end of the source.
  have whole := reads_disjunction (chained stop lexed [] rfl (by simp)) (by simp)
  rw [List.append_nil] at whole
  obtain ⟨taken, read, value, nothing⟩ := whole
  refine ⟨anyOf terms, ?_, ?_⟩
  · rw [readAll, read]
    simp only [bind, Except.bind, nothing, value]
    rfl
  · intro context
    rw [eval_anyOf, means]

theorem compile_eq_readAll {source : String} {lexed : List Lexeme}
    (cut : lexemes 0 source.toList = .ok lexed) :
    compile source = readAll (width source.toList) lexed := by
  rw [compile, cut]
  rfl

theorem compile_of_understood {source : String} {lexed : List Lexeme} {tree : Tree}
    (cut : lexemes 0 source.toList = .ok lexed)
    (understood : Understood depthLimit .disjunction tree (lexed.map Lexeme.token)) :
    ∃ expr, compile source = .ok expr ∧ expr.Means tree := by
  rw [compile_eq_readAll cut]
  exact readAll_of_understood (width source.toList) understood

end FontScores.Rule
