import Mathlib
import FontScores.Platform
import FontScores.Proofs.Rule.Acceptance
import FontScores.Proofs.Rule.Cutting

/-!
# Rules put together from other rules

The text of a rule can be used as a part of a longer one.  Two things have to hold for that.  The
text is cut into the same tokens as when it stands alone, whatever its last token is, because the
parts are joined by marks.  And the tokens are understood in the same way with more levels of
nesting around them, as long as there are enough of these.

Between `||` a rule can stand as it is, since nothing binds more loosely.  To stand elsewhere it is
put in parentheses, each of which costs a level.
-/

namespace FontScores.Rule

/-! ## Texts -/

section Texts

variable {front back text rest : List Char} {first second tokens others : List Token}

/-- A text is cut as it is alone, if the next one starts with a mark. -/
theorem Lexes.append (one : Lexes front first) (two : Lexes back second)
    (mark : ∀ c ∈ back.head?, c ∈ marks ∧ c ≠ '=') : Lexes (front ++ back) (first ++ second) := by
  intro offset
  obtain ⟨before, cut, rfl⟩ := one offset
  obtain ⟨after, cut', rfl⟩ := two (offset + width front)
  rw [lexemes_eq_ok_iff] at cut cut'
  refine ⟨before ++ after, lexemes_eq_ok_iff.mpr (cut.append ?_ cut'), List.map_append⟩
  intro token c member
  exact goesOn_of_mem_marks token (mark c member).1 (mark c member).2

theorem Lexes.mark {token : Token} {written : List Char} (following : Lexes rest others)
    (fixed : token.mark? = some written) (outside : ∀ c ∈ rest.head?, token.goesOn c = false) :
    Lexes (written ++ rest) (token :: others) :=
  following.token (scans_mark fixed outside)

theorem Lexes.parentheses (inside : Lexes text tokens) (following : Lexes rest others) :
    Lexes (['('] ++ (text ++ ([')'] ++ rest))) (.openParen :: tokens ++ .closeParen :: others) := by
  apply Lexes.mark _ rfl fun _ _ => rfl
  apply inside.append
  · exact following.mark rfl fun _ _ => rfl
  · rintro c ⟨⟩
    decide

end Texts

/-! ## Meaning -/

/-- The source is a rule with at most so many `!` and `(` open at once. -/
def NestsWithin [PatternEngine] (levels : Nat) (source : String) : Prop :=
  ∃ lexed, lexemes 0 source.toList = .ok lexed ∧
    Sentence Scattered levels .disjunction (lexed.map Lexeme.token)

section Meaning

variable {source : String} {tokens : List Token} {tree : Tree} {expr : Expr} {levels : Nat}

/-- The accepted sources are those that nest no deeper than they may. -/
theorem nestsWithin_iff [PatternEngine] :
    NestsWithin depthLimit source ↔ ∃ expr, compile source = .ok expr := by
  constructor
  · rintro ⟨lexed, cut, sentence⟩
    exact (compile_isOk_iff cut).mpr sentence
  · rintro ⟨expr, compiled⟩
    obtain ⟨lexed, cut, _⟩ := bind_eq_ok_iff.mp compiled
    exact ⟨lexed, cut, (compile_isOk_iff cut).mp ⟨expr, compiled⟩⟩

theorem compile_of_lexes [PatternEngine] (lexes : Lexes source.toList tokens)
    (understood : Understood depthLimit .disjunction tree tokens) :
    ∃ expr, compile source = .ok expr ∧ expr.Means tree := by
  obtain ⟨lexed, cut, rfl⟩ := lexes 0
  exact compile_of_understood cut understood

/-- The tokens of an accepted source mean what the source means, with any number of levels from
that on which it needs. -/
theorem understood_of_compile [PatternEngine] (compiled : compile source = .ok expr)
    (nests : NestsWithin levels source) (few : levels ≤ depthLimit) :
    ∃ tokens tree, Lexes source.toList tokens ∧ expr.Means tree ∧
      ∀ more, Understood (levels + more) .disjunction tree tokens := by
  obtain ⟨lexed, cut, sentence⟩ := nests
  obtain ⟨tree, _, understood⟩ := understood_sentence sentence
  -- Compiling is reading with all levels, so it finds the same tree.
  obtain ⟨more, whole⟩ := Nat.exists_eq_add_of_le few
  obtain ⟨read, compiled', means⟩ := compile_of_understood cut (whole ▸ understood more)
  obtain rfl : read = expr := Except.ok.inj (compiled'.symm.trans compiled)
  exact ⟨_, tree, (lexemes_eq_ok_iff.mp cut).lexes, means, understood⟩

end Meaning

/-! ## Composition -/

section Composition

variable {a b : String} {one other : Expr}

theorem compile_or [PatternEngine] (compiled : compile a = .ok one)
    (compiled' : compile b = .ok other) :
    ∃ expr, compile (a ++ "||" ++ b) = .ok expr ∧
      ∀ context, expr.eval context = (one.eval context || other.eval context) := by
  obtain ⟨tokens, left, lexes, means, understood⟩ :=
    understood_of_compile compiled (nestsWithin_iff.mpr ⟨one, compiled⟩) le_rfl
  obtain ⟨tokens', right, lexes', means', understood'⟩ :=
    understood_of_compile compiled' (nestsWithin_iff.mpr ⟨other, compiled'⟩) le_rfl
  have whole : Lexes (a ++ "||" ++ b).toList (tokens ++ .or :: tokens') := by
    have text : (a ++ "||" ++ b).toList = a.toList ++ (['|', '|'] ++ b.toList) := by simp
    rw [text]
    apply lexes.append
    · exact lexes'.mark rfl fun _ _ => rfl
    · rintro c ⟨⟩
      decide
  obtain ⟨expr, read, joined⟩ :=
    compile_of_lexes whole (understood_or (understood 0) (understood' 0))
  refine ⟨expr, read, fun context => ?_⟩
  rw [Bool.eq_iff_iff, Bool.or_eq_true, joined, means, means', Tree.Holds]

theorem compile_and [PatternEngine] (compiled : compile a = .ok one)
    (compiled' : compile b = .ok other) (nests : NestsWithin 255 a) (nests' : NestsWithin 255 b) :
    ∃ expr, compile ("(" ++ a ++ ")&&(" ++ b ++ ")") = .ok expr ∧
      ∀ context, expr.eval context = (one.eval context && other.eval context) := by
  obtain ⟨tokens, left, lexes, means, understood⟩ :=
    understood_of_compile compiled nests (by decide)
  obtain ⟨tokens', right, lexes', means', understood'⟩ :=
    understood_of_compile compiled' nests' (by decide)
  have whole : Lexes ("(" ++ a ++ ")&&(" ++ b ++ ")").toList
      (.openParen :: tokens ++
        .closeParen :: .and :: (.openParen :: tokens' ++ [.closeParen])) := by
    have text : ("(" ++ a ++ ")&&(" ++ b ++ ")").toList =
        ['('] ++ (a.toList ++ ([')'] ++ (['&', '&'] ++
          (['('] ++ (b.toList ++ ([')'] ++ [])))))) := by
      simp
    rw [text]
    apply lexes.parentheses
    apply Lexes.mark _ rfl fun _ _ => rfl
    exact lexes'.parentheses lexes_nil
  -- The level that each pair of parentheses costs is the one that the rule in it can spare.
  have joined := understood_and (understood_unary (understood_parentheses (understood 0)))
    (understood_unary (understood_parentheses (understood' 0)))
  rw [List.append_assoc] at joined
  obtain ⟨expr, read, means_and⟩ := compile_of_lexes whole (understood_conjunction joined)
  refine ⟨expr, read, fun context => ?_⟩
  rw [Bool.eq_iff_iff, Bool.and_eq_true, means_and, means, means', Tree.Holds]

theorem compile_not [PatternEngine] (compiled : compile a = .ok one) (nests : NestsWithin 254 a) :
    ∃ expr, compile ("!(" ++ a ++ ")") = .ok expr ∧
      ∀ context, expr.eval context = !one.eval context := by
  obtain ⟨tokens, tree, lexes, means, understood⟩ :=
    understood_of_compile compiled nests (by decide)
  have whole : Lexes ("!(" ++ a ++ ")").toList
      (.bang :: (.openParen :: tokens ++ [.closeParen])) := by
    have text : ("!(" ++ a ++ ")").toList =
        ['!'] ++ (['('] ++ (a.toList ++ ([')'] ++ []))) := by
      simp
    rw [text]
    apply Lexes.mark _ rfl
    · rintro c ⟨⟩
      rfl
    · exact lexes.parentheses lexes_nil
  -- One level for `!`, and one for the parentheses behind it.
  have negated := understood_not (understood_parentheses (understood 0))
  obtain ⟨expr, read, means_not⟩ :=
    compile_of_lexes whole (understood_conjunction (understood_unary negated))
  refine ⟨expr, read, fun context => ?_⟩
  rw [Bool.eq_iff_iff, Bool.not_eq_true', means_not, Tree.Holds, ← means, Bool.not_eq_true]

end Composition

/-- Two rules with `||` between them are a rule, and it means their disjunction.  In parentheses
with `&&` between them they mean their conjunction, and a rule in parentheses behind `!` means its
negation, where the levels around them do not make them nest too deeply. -/
theorem rules_compose [PatternEngine] (a b : String) (one other : Expr)
    (compiled : compile a = .ok one) (compiled' : compile b = .ok other) :
    (∃ expr, compile (a ++ "||" ++ b) = .ok expr ∧
      ∀ context, expr.eval context = (one.eval context || other.eval context)) ∧
    (NestsWithin 255 a → NestsWithin 255 b →
      ∃ expr, compile ("(" ++ a ++ ")&&(" ++ b ++ ")") = .ok expr ∧
        ∀ context, expr.eval context = (one.eval context && other.eval context)) ∧
    (NestsWithin 254 a →
      ∃ expr, compile ("!(" ++ a ++ ")") = .ok expr ∧
        ∀ context, expr.eval context = !one.eval context) := by
  refine ⟨compile_or compiled compiled', fun nests nests' => ?_, fun nests => ?_⟩
  · exact compile_and compiled compiled' nests nests'
  · exact compile_not compiled nests

/-- A rule that ends in a number, and one whose list ends in a comma. -/
theorem rules_compose_of_loud :
    let a := "tags['/Expressive/Loud']>-.5"
    let b := "!family in ['Inter' 'Lato',]"
    ∃ one other, compile a = .ok one ∧ compile b = .ok other ∧
      NestsWithin 254 a ∧ NestsWithin 255 a ∧ NestsWithin 255 b ∧
      (∃ expr, compile (a ++ "||" ++ b) = .ok expr ∧
        ∀ context, expr.eval context = (one.eval context || other.eval context)) ∧
      (∃ expr, compile ("(" ++ a ++ ")&&(" ++ b ++ ")") = .ok expr ∧
        ∀ context, expr.eval context = (one.eval context && other.eval context)) ∧
      ∃ expr, compile ("!(" ++ a ++ ")") = .ok expr ∧
        ∀ context, expr.eval context = !one.eval context := by
  intro a b
  have cut : ∃ half, lexemes 0 a.toList = .ok
      [⟨.name "tags", 0⟩, ⟨.openBracket, 4⟩, ⟨.text "/Expressive/Loud", 5⟩, ⟨.closeBracket, 23⟩,
        ⟨.comparison .greater, 24⟩, ⟨.number half, 25⟩] :=
    ⟨(Binary.ofNat _ true 1).div (Binary.ofNat _ false 2), by decide +kernel⟩
  have cut' : lexemes 0 b.toList = .ok
      [⟨.bang, 0⟩, ⟨.name "family", 1⟩, ⟨.name "in", 8⟩, ⟨.openBracket, 11⟩, ⟨.text "Inter", 12⟩,
        ⟨.text "Lato", 20⟩, ⟨.comma, 26⟩, ⟨.closeBracket, 27⟩] := by
    decide +kernel
  have scattered : Scattered [.text "Inter", .text "Lato", .comma] :=
    ⟨_, _, _, rfl, .name "Lato" (.comma .nil)⟩
  obtain ⟨half, cut⟩ := cut
  have nests (levels : Nat) : NestsWithin levels a :=
    ⟨_, cut, .conjunction (.unary (.compare (.score _) .greater (.number half)))⟩
  have nests' (levels : Nat) : NestsWithin (levels + 1) b :=
    ⟨_, cut', .conjunction (.unary (.not (.familyIn scattered)))⟩
  obtain ⟨one, compiled⟩ := nestsWithin_iff.mp (nests depthLimit)
  obtain ⟨other, compiled'⟩ := nestsWithin_iff.mp (nests' 255)
  obtain ⟨disjunction, conjunction, negation⟩ := rules_compose a b one other compiled compiled'
  exact ⟨one, other, compiled, compiled', nests 254, nests 255, nests' 254, disjunction,
    conjunction (nests 255) (nests' 254), negation (nests 254)⟩

end FontScores.Rule
