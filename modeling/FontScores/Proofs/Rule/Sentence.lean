import Mathlib
import FontScores.Rule.Error
import FontScores.Proofs.Rule.Grammar

/-!
# Which rows of tokens are rules

`Sentence` is the grammar of rules without their meaning, production by production.  It asks three
things that the productions alone do not: a number is no condition by itself, a pattern has to be
one that can be read, and the count says how many `!` and `(` may still be opened.

What may stand between the brackets of a family list is left open.  The grammar allows one comma
between two names and none at the end, which is `Listed`; `Scattered` allows commas anywhere behind
the first name.  The two differ in nothing but commas that stand before another comma or before a
closing bracket.
-/

namespace FontScores.Rule

/-- A list as the grammar has it. -/
def Listed (tokens : List Token) : Prop := ∃ names, Names names tokens

/-- A name, and then names and commas in any order. -/
def Scattered (tokens : List Token) : Prop :=
  ∃ first others rest, tokens = .text first :: rest ∧ Strewn others rest

/-- The row is a rule at this level, with at most so many `!` and `(` open at once. -/
inductive Sentence [PatternEngine] (list : List Token → Prop) : Nat → Level → List Token → Prop
  | conjunction {levels : Nat} {tokens : List Token}
      (only : Sentence list levels .conjunction tokens) : Sentence list levels .disjunction tokens
  | or {levels : Nat} {front back : List Token} (first : Sentence list levels .conjunction front)
      (others : Sentence list levels .disjunction back) :
      Sentence list levels .disjunction (front ++ .or :: back)
  | unary {levels : Nat} {tokens : List Token}
      (only : Sentence list levels .unary tokens) : Sentence list levels .conjunction tokens
  | and {levels : Nat} {front back : List Token} (first : Sentence list levels .unary front)
      (others : Sentence list levels .conjunction back) :
      Sentence list levels .conjunction (front ++ .and :: back)
  | not {levels : Nat} {tokens : List Token} (negated : Sentence list levels .unary tokens) :
      Sentence list (levels + 1) .unary (.bang :: tokens)
  | group {levels : Nat} {tokens : List Token} (body : Sentence list levels .disjunction tokens) :
      Sentence list (levels + 1) .unary (.openParen :: tokens ++ [.closeParen])
  | literal {levels : Nat} (value : Bool) :
      Sentence list levels .unary [.name (if value then "true" else "false")]
  | familyIs {levels : Nat} (name : String) :
      Sentence list levels .unary [.name "family", .comparison .equal, .text name]
  | familyIsNot {levels : Nat} (name : String) :
      Sentence list levels .unary [.name "family", .comparison .unequal, .text name]
  | familyIn {levels : Nat} {tokens : List Token} (names : list tokens) :
      Sentence list levels .unary
        (.name "family" :: .name "in" :: .openBracket :: tokens ++ [.closeBracket])
  | familyLike {levels : Nat} {pattern : String} (accepted : (PatternEngine.read? pattern).isSome) :
      Sentence list levels .unary [.name "family", .resembles, .text pattern]
  | present {levels : Nat} (tag : String) :
      Sentence list levels .unary (Operand.score tag).tokens
  | compare {levels : Nat} (left : Operand) (comparison : Comparison) (right : Operand) :
      Sentence list levels .unary (left.tokens ++ .comparison comparison :: right.tokens)

/-! ## Commas -/

/-- No comma stands before another comma or before a closing bracket. -/
def CommasApart (tokens : List Token) : Prop :=
  tokens.IsChain fun first next => first = .comma → next ≠ .comma ∧ next ≠ .closeBracket

instance (tokens : List Token) : Decidable (CommasApart tokens) :=
  inferInstanceAs (Decidable (List.IsChain _ tokens))

/-- Behind what is no comma, anything may stand. -/
theorem commasApart_cons {token : Token} {tokens : List Token} (other : token ≠ .comma)
    (apart : CommasApart tokens) : CommasApart (token :: tokens) := by
  cases tokens with
  | nil => exact .singleton _
  | cons next tokens => exact .cons_cons (fun same => absurd same other) apart

/-- What is neither a comma nor a closing bracket may stand between two rows. -/
theorem commasApart_append {front back : List Token} {middle : Token} (before : CommasApart front)
    (after : CommasApart back) (comma : middle ≠ .comma) (bracket : middle ≠ .closeBracket) :
    CommasApart (front ++ middle :: back) := by
  refine List.isChain_append.mpr ⟨before, commasApart_cons comma after, ?_⟩
  rintro last _ first ⟨⟩ _
  exact ⟨comma, bracket⟩

theorem commasApart_operand (operand : Operand) : CommasApart operand.tokens := by
  cases operand <;> simp [Operand.tokens, CommasApart]

theorem commasApart_names {names : List String} {tokens : List Token} (named : Names names tokens) :
    CommasApart (tokens ++ [.closeBracket]) := by
  induction named with
  | last name => simp [CommasApart]
  | apart name _ ih => exact commasApart_cons nofun ih
  | comma name following ih =>
    -- Behind the comma stands a name.
    refine commasApart_cons nofun ?_
    cases following <;> exact .cons_cons (fun _ => ⟨nofun, nofun⟩) ih

theorem Sentence.commasApart [PatternEngine] {levels : Nat} {level : Level} {tokens : List Token}
    (sentence : Sentence Listed levels level tokens) : CommasApart tokens := by
  induction sentence with
  | conjunction _ only | unary _ only => exact only
  | or _ _ before after | and _ _ before after => exact commasApart_append before after nofun nofun
  | not _ negated => exact commasApart_cons nofun negated
  | group _ body =>
    exact commasApart_cons nofun (commasApart_append body .nil nofun nofun)
  | literal | familyIs | familyIsNot | familyLike => simp [CommasApart]
  | familyIn listed =>
    obtain ⟨names, named⟩ := listed
    exact commasApart_cons nofun (commasApart_cons nofun
      (commasApart_cons nofun (commasApart_names named)))
  | present tag => exact commasApart_operand (.score tag)
  | compare left comparison right =>
    exact commasApart_append (commasApart_operand left) (commasApart_operand right) nofun nofun

/-! ## From one form of list to another -/

theorem Listed.scattered {tokens : List Token} (listed : Listed tokens) : Scattered tokens := by
  obtain ⟨names, named⟩ := listed
  cases names with
  | nil => cases named
  | cons first others =>
    obtain ⟨rest, rfl, strewn⟩ := named.strewn_tail
    exact ⟨first, others, rest, rfl, strewn⟩

theorem names_of_strewn {names : List String} {tokens : List Token} (strewn : Strewn names tokens)
    (apart : CommasApart (tokens ++ [.closeBracket])) (first : String) :
    Names (first :: names) (.text first :: tokens) := by
  induction strewn generalizing first with
  | nil => exact .last first
  | name name _ ih => exact .apart first (ih apart.tail name)
  | comma following ih =>
    -- Only a name can stand behind the comma, and the list goes on with it.
    cases following with
    | nil => exact absurd rfl (apart.rel rfl).2
    | comma => exact absurd rfl (apart.rel rfl).1
    | name second others =>
      cases ih apart.tail first with
      | apart _ named => exact .comma first named

theorem Scattered.listed {tokens : List Token} (scattered : Scattered tokens)
    (apart : CommasApart (tokens ++ [.closeBracket])) : Listed tokens := by
  obtain ⟨first, others, rest, rfl, strewn⟩ := scattered
  exact ⟨first :: others, names_of_strewn strewn apart.tail first⟩

theorem infix_left (front : List Token) (middle : Token) (back : List Token) :
    front <:+: front ++ middle :: back :=
  (List.prefix_append front _).isInfix

theorem infix_right (front : List Token) (middle : Token) (back : List Token) :
    back <:+: front ++ middle :: back :=
  ((List.suffix_cons middle back).trans (List.suffix_append front _)).isInfix

/-- A row stays a sentence with other lists, if its own lists have that form too. -/
theorem Sentence.imp [PatternEngine] {one other : List Token → Prop} {levels : Nat}
    {level : Level} {tokens : List Token} (sentence : Sentence one levels level tokens)
    (same : ∀ names, one names → names ++ [.closeBracket] <:+: tokens → other names) :
    Sentence other levels level tokens := by
  -- A list inside a part of the row is inside the whole row.
  induction sentence with
  | conjunction _ only => exact .conjunction (only same)
  | or _ _ before after =>
    refine .or (before fun names listed inside => same names listed ?_)
      (after fun names listed inside => same names listed ?_)
    · exact inside.trans (infix_left _ _ _)
    · exact inside.trans (infix_right _ _ _)
  | unary _ only => exact .unary (only same)
  | and _ _ before after =>
    refine .and (before fun names listed inside => same names listed ?_)
      (after fun names listed inside => same names listed ?_)
    · exact inside.trans (infix_left _ _ _)
    · exact inside.trans (infix_right _ _ _)
  | not _ negated =>
    refine .not (negated fun names listed inside => same names listed ?_)
    exact inside.trans (infix_right [] _ _)
  | group _ body =>
    refine .group (body fun names listed inside => same names listed ?_)
    exact inside.trans ((infix_left _ _ _).trans (infix_right [] _ _))
  | literal value => exact .literal value
  | familyIs name => exact .familyIs name
  | familyIsNot name => exact .familyIsNot name
  | familyIn listed =>
    refine .familyIn (same _ listed ?_)
    exact ((List.suffix_cons _ _).trans ((List.suffix_cons _ _).trans
      (List.suffix_cons _ _))).isInfix
  | familyLike accepted => exact .familyLike accepted
  | present tag => exact .present tag
  | compare left comparison right => exact .compare left comparison right

theorem Sentence.scattered [PatternEngine] {levels : Nat} {level : Level} {tokens : List Token}
    (sentence : Sentence Listed levels level tokens) : Sentence Scattered levels level tokens :=
  sentence.imp fun _ listed _ => listed.scattered

theorem Sentence.listed [PatternEngine] {levels : Nat} {level : Level} {tokens : List Token}
    (sentence : Sentence Scattered levels level tokens) (apart : CommasApart tokens) :
    Sentence Listed levels level tokens :=
  sentence.imp fun _ scattered inside => scattered.listed <| List.IsChain.infix apart inside

end FontScores.Rule
