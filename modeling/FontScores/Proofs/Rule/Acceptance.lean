import Mathlib
import FontScores.Platform
import FontScores.Proofs.Rule.Lookahead
import FontScores.Proofs.Rule.Parsing

/-!
# Which sources are accepted

The tokens that the reader of whole sources accepts are a sentence, because every reader takes only
what its part of the grammar allows.  The other way round, every sentence is understood, because it
writes some tree.

So the sources that are accepted are exactly those whose tokens are a sentence, but one in whose
lists commas may be scattered.  The grammar is stricter there and nowhere else.
-/

namespace FontScores.Rule

section Engine

variable [PatternEngine]

/-! ## Sentences are understood -/

/-- A sentence writes some tree, and the same one where more levels are left.  Nothing is negated in
the tree unless the sentence has a `!`. -/
theorem understood_sentence {levels : Nat} {level : Level} {tokens : List Token}
    (sentence : Sentence Scattered levels level tokens) :
    ∃ tree, (tree.Negates → .bang ∈ tokens) ∧
      ∀ more, Understood (levels + more) level tree tokens := by
  induction sentence with
  | conjunction _ only =>
    obtain ⟨tree, negated, only⟩ := only
    exact ⟨tree, negated, fun more => understood_conjunction (only more)⟩
  | or _ _ first others =>
    obtain ⟨left, negated, first⟩ := first
    obtain ⟨right, negated', others⟩ := others
    refine ⟨.or left right, ?_,
      fun more => understood_or (understood_conjunction (first more)) (others more)⟩
    rintro (inside | inside)
    · exact List.mem_append_left _ (negated inside)
    · exact List.mem_append_right _ (List.mem_cons_of_mem _ (negated' inside))
  | unary _ only =>
    obtain ⟨tree, negated, only⟩ := only
    exact ⟨tree, negated, fun more => understood_unary (only more)⟩
  | and _ _ first others =>
    obtain ⟨left, negated, first⟩ := first
    obtain ⟨right, negated', others⟩ := others
    refine ⟨.and left right, ?_,
      fun more => understood_and (understood_unary (first more)) (others more)⟩
    rintro (inside | inside)
    · exact List.mem_append_left _ (negated inside)
    · exact List.mem_append_right _ (List.mem_cons_of_mem _ (negated' inside))
  | not _ negated =>
    obtain ⟨inner, _, negated⟩ := negated
    refine ⟨.not inner, fun _ => List.mem_cons_self, fun more => ?_⟩
    rw [Nat.add_right_comm]
    exact understood_not (negated more)
  | group _ body =>
    obtain ⟨inner, negated, body⟩ := body
    refine ⟨inner, fun inside => ?_, fun more => ?_⟩
    · exact List.mem_append_left _ (List.mem_cons_of_mem _ (negated inside))
    · rw [Nat.add_right_comm]
      exact understood_parentheses (body more)
  | literal value => exact ⟨.literal value, nofun, fun _ => understood_literal value rfl⟩
  | familyIs name => exact ⟨.familyIs name, nofun, fun _ => understood_familyIs name⟩
  | familyIsNot name => exact ⟨.familyIsNot name, nofun, fun _ => understood_familyIsNot name⟩
  | familyIn scattered =>
    -- The commas are lost, only the names make up the tree.
    obtain ⟨first, others, rest, rfl, strewn⟩ := scattered
    exact ⟨.familyIn first others, nofun, fun _ => understood_familyIn strewn⟩
  | familyLike accepted => exact ⟨.familyLike _, nofun, fun _ => understood_familyLike accepted⟩
  | present tag => exact ⟨.present tag, nofun, fun _ => understood_present tag⟩
  | compare left comparison right =>
    exact ⟨.compare left comparison right, nofun,
      fun _ => understood_compare left comparison right⟩

/-! ## Whole sources -/

theorem sentence_of_readAll {stop : Nat} {lexed : List Lexeme} {expr : Expr}
    (read : readAll stop lexed = .ok expr) :
    Sentence Scattered depthLimit .disjunction (lexed.map Lexeme.token) := by
  rw [readAll_eq, bind_step] at read
  obtain ⟨_, whole, _⟩ := map_eq_ok_iff.mp read
  obtain ⟨⟨body, rest⟩, begun, ended⟩ := bind_eq_ok_iff.mp whole
  obtain ⟨front, rfl, sentence, _⟩ :=
    (prompt_disjunction (prompt_unary stop depthLimit) lexed).taken begun
  -- A token left over would have been refused.
  cases rest with
  | nil => rwa [List.append_nil]
  | cons => cases ended

/-- A row of tokens is accepted exactly if it is a sentence, wherever its tokens stand. -/
theorem readAll_isOk_iff (stop : Nat) (lexed : List Lexeme) :
    (∃ expr, readAll stop lexed = .ok expr) ↔
      Sentence Scattered depthLimit .disjunction (lexed.map Lexeme.token) := by
  constructor
  · rintro ⟨expr, read⟩
    exact sentence_of_readAll read
  · intro sentence
    obtain ⟨tree, _, understood⟩ := understood_sentence sentence
    obtain ⟨expr, read, _⟩ := readAll_of_understood stop (understood 0)
    exact ⟨expr, read⟩

section Sources

variable {source : String} {lexed : List Lexeme}

theorem compile_isOk_iff (cut : lexemes 0 source.toList = .ok lexed) :
    (∃ expr, compile source = .ok expr) ↔
      Sentence Scattered depthLimit .disjunction (lexed.map Lexeme.token) := by
  rw [compile_eq_readAll cut]
  exact readAll_isOk_iff _ lexed

end Sources

/-- A source is accepted exactly if its tokens are a sentence in whose lists commas may be
scattered.  Of the accepted rows the grammar has those in which no comma stands before another one
or before a closing bracket. -/
theorem accepts_exactly (source : String) (lexed : List Lexeme)
    (cut : lexemes 0 source.toList = .ok lexed) :
    ((∃ expr, compile source = .ok expr) ↔
      Sentence Scattered depthLimit .disjunction (lexed.map Lexeme.token)) ∧
    (Sentence Listed depthLimit .disjunction (lexed.map Lexeme.token) ↔
      (∃ expr, compile source = .ok expr) ∧ CommasApart (lexed.map Lexeme.token)) := by
  have accepted := compile_isOk_iff cut
  refine ⟨accepted, ?_, ?_⟩
  · intro sentence
    exact ⟨accepted.mpr sentence.scattered, sentence.commasApart⟩
  · rintro ⟨compiled, apart⟩
    exact (accepted.mp compiled).listed apart

end Engine

/-- A negated list that has one comma and one gap, in two quote styles. -/
theorem accepts_exactly_of_lato :
    ∃ lexed, lexemes 0 "!family in ['A' \"B\", 'C']".toList = .ok lexed ∧
      (∃ expr, compile "!family in ['A' \"B\", 'C']" = .ok expr) ∧
      Sentence Listed depthLimit .disjunction (lexed.map Lexeme.token) := by
  have cut : lexemes 0 "!family in ['A' \"B\", 'C']".toList = .ok
      [⟨.bang, 0⟩, ⟨.name "family", 1⟩, ⟨.name "in", 8⟩, ⟨.openBracket, 11⟩, ⟨.text "A", 12⟩,
        ⟨.text "B", 16⟩, ⟨.comma, 19⟩, ⟨.text "C", 21⟩, ⟨.closeBracket, 24⟩] := by
    cbv
  have listed : Listed [.text "A", .text "B", .comma, .text "C"] :=
    ⟨_, .apart "A" (.comma "B" (.last "C"))⟩
  have sentence : Sentence Listed depthLimit .disjunction _ :=
    .conjunction (.unary (.not (.familyIn listed)))
  have exactly := accepts_exactly _ _ cut
  exact ⟨_, cut, (exactly.2.mp sentence).1, sentence⟩

/-- Two commas in a row and a comma at the end of a list are accepted, and the grammar has
neither. -/
theorem accepts_stray_commas :
    (∃ lexed, lexemes 0 "family in [\"Inter\",,\"Lato\"]".toList = .ok lexed ∧
      (∃ expr, compile "family in [\"Inter\",,\"Lato\"]" = .ok expr) ∧
      ¬Sentence Listed depthLimit .disjunction (lexed.map Lexeme.token)) ∧
    (∃ lexed, lexemes 0 "family in [\"Inter\",]".toList = .ok lexed ∧
      (∃ expr, compile "family in [\"Inter\",]" = .ok expr) ∧
      ¬Sentence Listed depthLimit .disjunction (lexed.map Lexeme.token)) := by
  constructor
  · have cut : lexemes 0 "family in [\"Inter\",,\"Lato\"]".toList = .ok
        [⟨.name "family", 0⟩, ⟨.name "in", 7⟩, ⟨.openBracket, 10⟩, ⟨.text "Inter", 11⟩,
          ⟨.comma, 18⟩, ⟨.comma, 19⟩, ⟨.text "Lato", 20⟩, ⟨.closeBracket, 26⟩] := by
      cbv
    have scattered : Scattered [.text "Inter", .comma, .comma, .text "Lato"] :=
      ⟨_, _, _, rfl, .comma (.comma (.name "Lato" .nil))⟩
    refine ⟨_, cut, (compile_isOk_iff cut).mpr ?_, fun sentence => ?_⟩
    · exact .conjunction (.unary (.familyIn scattered))
    · exact absurd sentence.commasApart (by decide)
  · have cut : lexemes 0 "family in [\"Inter\",]".toList = .ok
        [⟨.name "family", 0⟩, ⟨.name "in", 7⟩, ⟨.openBracket, 10⟩, ⟨.text "Inter", 11⟩,
          ⟨.comma, 18⟩, ⟨.closeBracket, 19⟩] := by
      cbv
    have scattered : Scattered [.text "Inter", .comma] := ⟨_, _, _, rfl, .comma .nil⟩
    refine ⟨_, cut, (compile_isOk_iff cut).mpr ?_, fun sentence => ?_⟩
    · exact .conjunction (.unary (.familyIn scattered))
    · exact absurd sentence.commasApart (by decide)

end FontScores.Rule
