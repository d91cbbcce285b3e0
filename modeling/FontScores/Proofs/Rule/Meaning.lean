import Mathlib
import FontScores.Platform
import FontScores.Proofs.Rule.Lexing
import FontScores.Proofs.Rule.Parsing

/-!
# A rule means what it was written for

However a tree is written, the text is accepted, and evaluating what was read says whether the tree
holds.  A tree whose numbers are finite and whose patterns are accepted can be written, if no more
than 256 levels are open at once when it is written with the parentheses that it needs.
-/

namespace FontScores.Rule

/-! ## Phrases need one blank -/

theorem apart_of_next (first : Token) {next : Token} (run : next.isRun = false)
    (equals : next.startsEquals = false) : Apart first next := by
  intro sticks
  simp [Token.sticksTo, run, equals] at sticks

theorem apart_of_first {first : Token} (next : Token) (run : first.isRun = false)
    (equals : first.takesEquals = false) : Apart first next := by
  intro sticks
  simp [Token.sticksTo, run, equals] at sticks

/-- Two rows with a token between them that sticks to nothing before it. -/
theorem isChain_append {front back : List Token} {middle : Token} (before : front.IsChain Apart)
    (after : (middle :: back).IsChain Apart) (run : middle.isRun = false)
    (equals : middle.startsEquals = false) : (front ++ middle :: back).IsChain Apart := by
  rw [List.isChain_append]
  refine ⟨before, after, ?_⟩
  rintro last _ first ⟨⟩
  exact apart_of_next last run equals

theorem isChain_operand (operand : Operand) : operand.tokens.IsChain Apart := by
  cases operand with
  | number value => exact .singleton _
  | score tag =>
    simp [Operand.tokens, Apart, Token.sticksTo, Token.isRun, Token.startsEquals, Token.takesEquals]

theorem isChain_names {names : List String} {tokens : List Token} (named : Names names tokens)
    (bracket : Token) (run : bracket.isRun = false) (equals : bracket.takesEquals = false) :
    (bracket :: tokens).IsChain Apart := by
  induction named generalizing bracket with
  | last => exact .cons_cons (apart_of_first _ run equals) (.singleton _)
  | apart _ _ ih => exact .cons_cons (apart_of_first _ run equals) (ih _ rfl rfl)
  | comma _ _ ih =>
    exact .cons_cons (apart_of_first _ run equals)
      (.cons_cons (apart_of_first _ rfl rfl) (ih _ rfl rfl))

theorem Phrase.front [PatternEngine] {levels : Nat} {level : Level} {tree : Tree}
    {tokens : List Token} (phrase : Phrase levels level tree tokens) :
    ∃ first rest, tokens = first :: rest ∧ first.startsEquals = false := by
  induction phrase with
  | or _ _ before _ | and _ _ before _ =>
    obtain ⟨first, rest, rfl, equals⟩ := before
    exact ⟨first, _, rfl, equals⟩
  | conjunction _ only | unary _ only => exact only
  | compare left comparison right => cases left <;> exact ⟨_, _, rfl, rfl⟩
  | _ => exact ⟨_, _, rfl, rfl⟩

theorem Phrase.isChain [PatternEngine] {levels : Nat} {level : Level} {tree : Tree}
    {tokens : List Token} (phrase : Phrase levels level tree tokens) : tokens.IsChain Apart := by
  induction phrase with
  | or _ after before ih =>
    obtain ⟨first, rest, rfl, _⟩ := after.front
    exact isChain_append before (.cons_cons (apart_of_first _ rfl rfl) ih) rfl rfl
  | and _ after before ih =>
    obtain ⟨first, rest, rfl, _⟩ := after.front
    exact isChain_append before (.cons_cons (apart_of_first _ rfl rfl) ih) rfl rfl
  | conjunction _ only | unary _ only => exact only
  | not negated ih =>
    obtain ⟨first, rest, rfl, equals⟩ := negated.front
    refine .cons_cons ?_ ih
    intro sticks
    simp [Token.sticksTo, Token.isRun, equals] at sticks
  | group body ih | parentheses body ih =>
    obtain ⟨first, rest, rfl, _⟩ := body.front
    exact isChain_append (.cons_cons (apart_of_first _ rfl rfl) ih) (.singleton _) rfl rfl
  | yes | no => exact .singleton _
  | familyIs | familyIsNot | familyLike =>
    refine .cons_cons ?_ (.cons_cons (apart_of_first _ rfl rfl) (.singleton _))
    simp [Apart, Token.sticksTo, Token.isRun, Token.takesEquals]
  | familyIn names =>
    refine isChain_append ?_ (.singleton _) rfl rfl
    -- The one place of the grammar where two words stand next to each other.
    refine .cons_cons (fun _ => ⟨rfl, rfl⟩) (.cons_cons (apart_of_next _ rfl rfl) ?_)
    exact isChain_names names _ rfl rfl
  | present tag => exact isChain_operand (.score tag)
  | compare left comparison right =>
    cases left <;> cases right <;>
      simp [Operand.tokens, Apart, Token.sticksTo, Token.isRun, Token.takesEquals,
        Token.startsEquals]

/-! ## Reading what was written -/

/-- However a tree is written, what is read holds in the contexts in which the tree does. -/
theorem compile_of_written [PatternEngine] {tree : Tree} {text : String}
    (written : Written tree text) :
    ∃ expr, compile text = .ok expr ∧ expr.Means tree := by
  obtain ⟨tokens, phrase, layout⟩ := written
  obtain ⟨lexed, cut, same⟩ := lexes_of_layout layout phrase.isChain 0
  exact compile_of_understood cut (same ▸ understood_phrase phrase)

/-! ## Writing a tree -/

/-- Whether the side of a comparison can be written. -/
def Operand.Proper : Operand → Prop
  | score _ => True
  | number value => value.isFinite = true

/-- The numbers of the tree are finite, and its patterns are accepted. -/
def Tree.Proper [PatternEngine] : Tree → Prop
  | or left right | and left right => left.Proper ∧ right.Proper
  | not inner | group inner => inner.Proper
  | familyLike pattern => (PatternEngine.read? pattern).isSome
  | compare left _ right => left.Proper ∧ right.Proper
  | _ => True

/-- How many `!` and `(` are open at once when the tree is written at a level with no more
parentheses than it needs there. -/
def Tree.nesting : Tree → Level → Nat
  | or left right, .disjunction => max (left.nesting .disjunction) (right.nesting .disjunction)
  | or left right, _ => max (left.nesting .disjunction) (right.nesting .disjunction) + 1
  | and left right, .unary => max (left.nesting .conjunction) (right.nesting .conjunction) + 1
  | and left right, _ => max (left.nesting .conjunction) (right.nesting .conjunction)
  | not inner, _ => inner.nesting .unary + 1
  | group inner, _ => inner.nesting .disjunction + 1
  | _, _ => 0

def namesTokens (first : String) (others : List String) : List Token :=
  .text first :: others.flatMap fun name => [.comma, .text name]

/-- The tokens of the tree at a level, with no more parentheses than it needs there. -/
def Tree.tokens : Tree → Level → List Token
  | or left right, .disjunction => left.tokens .disjunction ++ .or :: right.tokens .disjunction
  | or left right, _ =>
    .openParen :: (left.tokens .disjunction ++ .or :: right.tokens .disjunction) ++ [.closeParen]
  | and left right, .unary =>
    .openParen :: (left.tokens .conjunction ++ .and :: right.tokens .conjunction) ++ [.closeParen]
  | and left right, _ => left.tokens .conjunction ++ .and :: right.tokens .conjunction
  | not inner, _ => .bang :: inner.tokens .unary
  | group inner, _ => .openParen :: inner.tokens .disjunction ++ [.closeParen]
  | literal value, _ => [.name (if value then "true" else "false")]
  | familyIs name, _ => [.name "family", .comparison .equal, .text name]
  | familyIsNot name, _ => [.name "family", .comparison .unequal, .text name]
  | familyIn first others, _ =>
    .name "family" :: .name "in" :: .openBracket :: namesTokens first others ++ [.closeBracket]
  | familyLike pattern, _ => [.name "family", .resembles, .text pattern]
  | present tag, _ => (Operand.score tag).tokens
  | compare left comparison right, _ => left.tokens ++ .comparison comparison :: right.tokens

/-- A character between two double quotes. -/
def escape (c : Char) : List Char :=
  if c = '"' ∨ c = '\\' then ['\\', c] else [c]

def Token.spelled : Token → List Char
  | .name word => word.toList
  | .text content => '"' :: content.toList.flatMap escape ++ ['"']
  | .number value => Numeral.write value
  | token => token.mark?.getD []

/-- The tree as a text, with a blank before each token. -/
def Tree.text (tree : Tree) : String :=
  String.ofList ((tree.tokens .disjunction).flatMap fun token => ' ' :: token.spelled)

/-- A phrase that binds most tightly may stand anywhere. -/
theorem Phrase.anywhere [PatternEngine] {levels : Nat} {tree : Tree} {tokens : List Token}
    (phrase : Phrase levels .unary tree tokens) (level : Level) :
    Phrase levels level tree tokens := by
  cases level with
  | disjunction => exact .conjunction (.unary phrase)
  | conjunction => exact .unary phrase
  | unary => exact phrase

theorem names_namesTokens (first : String) (others : List String) :
    Names (first :: others) (namesTokens first others) := by
  induction others generalizing first with
  | nil => exact .last first
  | cons second others ih => exact .comma first (ih second)

theorem phrase_tokens [PatternEngine] {tree : Tree} (proper : tree.Proper) {level : Level}
    {levels : Nat} (fits : tree.nesting level ≤ levels) :
    Phrase levels level tree (tree.tokens level) := by
  induction tree generalizing level levels with
  | or left right before after =>
    -- The members stand at the same level wherever the whole does.
    have joined {levels : Nat} (fits : (Tree.or left right).nesting .disjunction ≤ levels) :
        Phrase levels .disjunction (.or left right) ((Tree.or left right).tokens .disjunction) :=
      .or (before proper.1 (max_le_iff.mp fits).1) (after proper.2 (max_le_iff.mp fits).2)
    cases level with
    | disjunction => exact joined fits
    | conjunction | unary =>
      obtain ⟨levels, rfl⟩ := Nat.exists_eq_add_of_le' (Nat.le_of_add_left_le fits)
      -- The parentheses take one level, which is what the nesting counts.
      have whole := Phrase.parentheses (joined (Nat.le_of_add_le_add_right fits))
      exact whole.anywhere _
  | and left right before after =>
    have joined {levels : Nat} (fits : (Tree.and left right).nesting .conjunction ≤ levels) :
        Phrase levels .conjunction (.and left right) ((Tree.and left right).tokens .conjunction) :=
      .and (before proper.1 (max_le_iff.mp fits).1) (after proper.2 (max_le_iff.mp fits).2)
    cases level with
    | disjunction => exact .conjunction (joined fits)
    | conjunction => exact joined fits
    | unary =>
      obtain ⟨levels, rfl⟩ := Nat.exists_eq_add_of_le' (Nat.le_of_add_left_le fits)
      exact .parentheses (.conjunction (joined (Nat.le_of_add_le_add_right fits)))
  | not inner ih =>
    obtain ⟨levels, rfl⟩ := Nat.exists_eq_add_of_le' (Nat.le_of_add_left_le fits)
    have negated := ih proper (Nat.le_of_add_le_add_right fits)
    exact (Phrase.not negated).anywhere level
  | group inner ih =>
    obtain ⟨levels, rfl⟩ := Nat.exists_eq_add_of_le' (Nat.le_of_add_left_le fits)
    have body := ih proper (Nat.le_of_add_le_add_right fits)
    exact (Phrase.group body).anywhere level
  | literal value =>
    cases value with
    | true => exact Phrase.yes.anywhere level
    | false => exact Phrase.no.anywhere level
  | familyIs name => exact (Phrase.familyIs name).anywhere level
  | familyIsNot name => exact (Phrase.familyIsNot name).anywhere level
  | familyIn first others => exact (Phrase.familyIn (names_namesTokens first others)).anywhere level
  | familyLike pattern => exact (Phrase.familyLike proper).anywhere level
  | present tag => exact (Phrase.present tag).anywhere level
  | compare left comparison right => exact (Phrase.compare left comparison right).anywhere level

/-! ### Spelling its tokens -/

theorem escaped_flatMap_escape (value : List Char) : Escaped '"' value (value.flatMap escape) := by
  induction value with
  | nil => exact .nil
  | cons c value ih =>
    rw [List.flatMap_cons, escape]
    split
    -- Exactly the characters that must be escaped are.
    next special => exact .escaped c ih
    next plain =>
      obtain ⟨other, visible⟩ := not_or.mp plain
      exact .plain other visible ih

theorem spelling_text (text : String) : Spelling (.text text) (Token.text text).spelled := by
  have spelling := Spelling.text (.inl rfl) (escaped_flatMap_escape text.toList)
  rwa [String.ofList_toList] at spelling

/-- The written form of a finite number is among its spellings. -/
theorem spelling_number {value : Single} (finite : value.isFinite = true) :
    Spelling (.number value) (Token.number value).spelled := by
  change Spelling (.number value) (Numeral.write value)
  have read := Numeral.read_write Format.reaching_single finite
  obtain ⟨size, numeral, written, spells, _⟩ := Numeral.write_spells Format.reaching_single finite
  have plain : ∀ c ∈ size, c.isDigit = true ∨ c = '.' := fun c member => spells.mem member
  have signed : Numeral.write value = (if value.negative then ['-'] else []) ++ size := by
    rw [written]
    split <;> rfl
  rw [signed] at read ⊢
  exact .number (by split <;> simp) plain read

theorem spelling_operand (operand : Operand) (proper : operand.Proper) {token : Token}
    (member : token ∈ operand.tokens) : Spelling token token.spelled := by
  cases operand with
  | number value =>
    cases List.mem_singleton.mp member
    exact spelling_number proper
  | score tag =>
    simp only [Operand.tokens, List.mem_cons, List.not_mem_nil, or_false] at member
    rcases member with rfl | rfl | rfl | rfl
    · exact .word (by decide)
    · exact .mark rfl
    · exact spelling_text tag
    · exact .mark rfl

theorem spelling_names {names : List String} {tokens : List Token} (named : Names names tokens)
    {token : Token} (member : token ∈ tokens) : Spelling token token.spelled := by
  induction named with
  | last name =>
    cases List.mem_singleton.mp member
    exact spelling_text name
  | apart name _ ih =>
    rcases List.mem_cons.mp member with rfl | member
    · exact spelling_text name
    · exact ih member
  | comma name _ ih =>
    rcases List.mem_cons.mp member with rfl | member
    · exact spelling_text name
    rcases List.mem_cons.mp member with rfl | member
    · exact .mark rfl
    · exact ih member

/-- All tokens that write a proper tree can be spelled. -/
theorem spelling_phrase [PatternEngine] {levels : Nat} {level : Level} {tree : Tree}
    {tokens : List Token} (phrase : Phrase levels level tree tokens) (proper : tree.Proper)
    {token : Token} (member : token ∈ tokens) : Spelling token token.spelled := by
  induction phrase with
  | or _ _ before after | and _ _ before after =>
    simp only [List.mem_append, List.mem_cons] at member
    rcases member with member | rfl | member
    · exact before proper.1 member
    · exact .mark rfl
    · exact after proper.2 member
  | conjunction _ ih | unary _ ih => exact ih proper member
  | not _ ih =>
    rcases List.mem_cons.mp member with rfl | member
    · exact .mark rfl
    · exact ih proper member
  | group _ ih | parentheses _ ih =>
    simp only [List.cons_append, List.mem_cons, List.mem_append, List.not_mem_nil, or_false]
      at member
    rcases member with rfl | member | rfl
    · exact .mark rfl
    · exact ih proper member
    · exact .mark rfl
  | yes | no =>
    cases List.mem_singleton.mp member
    exact .word (by decide)
  | familyIs text | familyIsNot text | @familyLike _ text =>
    simp only [List.mem_cons, List.not_mem_nil, or_false] at member
    rcases member with rfl | rfl | rfl
    · exact .word (by decide)
    · exact .mark rfl
    · exact spelling_text text
  | familyIn names =>
    simp only [List.cons_append, List.mem_cons, List.mem_append, List.not_mem_nil, or_false]
      at member
    rcases member with rfl | rfl | rfl | member | rfl
    · exact .word (by decide)
    · exact .word (by decide)
    · exact .mark rfl
    · exact spelling_names names member
    · exact .mark rfl
  | present tag => exact spelling_operand (.score tag) trivial member
  | compare left comparison right =>
    simp only [List.mem_append, List.mem_cons] at member
    rcases member with member | rfl | member
    · exact spelling_operand left proper.1 member
    · cases comparison <;> exact .mark rfl
    · exact spelling_operand right proper.2 member

theorem layout_spelled {tokens : List Token}
    (spellings : ∀ token ∈ tokens, Spelling token token.spelled) :
    Layout tokens (tokens.flatMap fun token => ' ' :: token.spelled) := by
  have blank : ∀ c ∈ [' '], Text.isBlank c = true := by simp [Text.isBlank]
  induction tokens with
  | nil => exact .done (by simp)
  | cons token tokens ih =>
    have following := ih fun other member => spellings other (List.mem_cons_of_mem token member)
    refine .token blank (spellings token (List.mem_cons_self ..)) ?_ following
    -- If another token follows, its blank does.
    rintro - next
    obtain ⟨others, rfl⟩ := List.head?_eq_some_iff.mp next
    exact ⟨' ', rfl, blank ' ' (by simp)⟩

theorem written_text [PatternEngine] {tree : Tree} (proper : tree.Proper)
    (fits : tree.nesting .disjunction ≤ 256) :
    Written tree tree.text := by
  have phrase := phrase_tokens proper fits
  refine ⟨_, phrase, ?_⟩
  rw [Tree.text, String.toList_ofList]
  exact layout_spelled fun token => spelling_phrase phrase proper

example : (Tree.and (.or (.literal true) (.present "/Loud")) (.not (.literal false))).text =
    " ( true || tags [ \"/Loud\" ] ) && ! false" := rfl

/-- However a tree is written, the text is accepted and what is read holds in the contexts in which
the tree does; and every tree that is proper and nested at most 256 deep can be written. -/
theorem rule_means_its_tree [PatternEngine] :
    (∀ (tree : Tree) (text : String), Written tree text →
      ∃ expr, compile text = .ok expr ∧
        ∀ context, expr.eval context = true ↔ tree.Holds context) ∧
    (∀ tree : Tree, tree.Proper → tree.nesting .disjunction ≤ 256 → Written tree tree.text) := by
  constructor
  · intro tree text written
    exact compile_of_written written
  · intro tree proper fits
    exact written_text proper fits

theorem rule_means_its_tree_of_loud :
    ∃ expr, compile " tags [ \"/Loud\" ] >= 0 && ! ( true || family =~ \"^Noto\" )" = .ok expr ∧
      ∀ context, expr.eval context = true ↔
        (Tree.and (.compare (.score "/Loud") .atLeast (.number (.zero .single false)))
          (.not (.or (.literal true) (.familyLike "^Noto")))).Holds context := by
  have accepted : (PatternEngine.read? "^Noto").isSome := by decide +kernel
  have written := rule_means_its_tree.2
    (.and (.compare (.score "/Loud") .atLeast (.number (.zero .single false)))
      (.not (.or (.literal true) (.familyLike "^Noto"))))
    ⟨⟨trivial, rfl⟩, trivial, accepted⟩ (by decide)
  exact rule_means_its_tree.1 _ _ written

end FontScores.Rule
