import Mathlib
import FontScores.Platform
import FontScores.Proofs.Rule.Acceptance

/-!
# What more tags can do to a rule

A rule without a `!` that is true stays true when tags are added.  A comparison is false as soon as
one of its tags has no score, `!=` like the others, so a score that is added can only make it true;
and whatever is said about the family, a `family !=` too, does not look at tags.  Only a `!` can
turn a score that is added into a condition that fails.
-/

namespace FontScores

/-- The other context is for the same family and has all scores of this one, unchanged, and may have
scores for further tags. -/
structure RuleContext.ExtendedBy (context more : RuleContext) : Prop where
  family : more.family = context.family
  scores : ∀ tag score, context.score? tag = some score → more.score? tag = some score

namespace RuleContext

theorem extendedBy_withScore {context : RuleContext} {tag : String}
    (absent : context.score? tag = none) (score : Single) :
    context.ExtendedBy (context.withScore tag score) := by
  refine ⟨rfl, fun other held found => ?_⟩
  have apart : other ≠ tag := by
    rintro rfl
    cases absent.symm.trans found
  simpa only [withScore, if_neg apart] using found

/-- Taggings that a font gets besides those it has leave its scores as they are: a new score for a
tag that has one already does not count. -/
theorem extendedBy_ofFont (font : Font) (taggings : List Tagging) :
    (ofFont font).ExtendedBy (ofFont { font with taggings := font.taggings ++ taggings }) := by
  refine ⟨rfl, fun tag score held => ?_⟩
  obtain ⟨tagging, found, rfl⟩ := Option.map_eq_some_iff.mp held
  simp only [ofFont, Font.staticScore?, Font.staticTaggings, List.filterMap_append,
    List.find?_append] at found ⊢
  rw [found, Option.some_or, Option.map_some]

end RuleContext

namespace Rule

variable {context more : RuleContext}

theorem Operand.StandsFor.mono (extended : context.ExtendedBy more) {operand : Operand}
    {value : Single} (stands : operand.StandsFor context value) : operand.StandsFor more value := by
  cases operand with
  | score tag => exact extended.scores tag value stands
  | number => exact stands

/-- A tree in which nothing is negated goes on to hold. -/
theorem Tree.Holds.mono [PatternEngine] (extended : context.ExtendedBy more) {tree : Tree}
    (holds : tree.Holds context) (plain : ¬tree.Negates) : tree.Holds more := by
  induction tree with
  | or left right first second =>
    obtain ⟨inLeft, inRight⟩ := not_or.mp plain
    exact holds.imp (first · inLeft) (second · inRight)
  | and left right first second =>
    obtain ⟨inLeft, inRight⟩ := not_or.mp plain
    exact ⟨first holds.1 inLeft, second holds.2 inRight⟩
  | not inner => exact absurd trivial plain
  | group inner ih => exact ih holds plain
  | literal value => exact holds
  | familyIs | familyIsNot | familyIn | familyLike =>
    -- The family is the same in both.
    rw [Holds, extended.family]
    exact holds
  | present tag =>
    obtain ⟨score, found⟩ := holds
    exact ⟨score, extended.scores tag score found⟩
  | compare left comparison right =>
    -- Both sides had values, and have the same ones now.
    obtain ⟨one, two, first, second, related⟩ := holds
    exact ⟨one, two, first.mono extended, second.mono extended, related⟩

/-- What an accepted source says is said by a tree, and that negates nothing unless the source has a
`!`. -/
theorem exists_tree_of_compile [PatternEngine] {source : String} {lexed : List Lexeme} {expr : Expr}
    (cut : lexemes 0 source.toList = .ok lexed) (compiled : compile source = .ok expr) :
    ∃ tree, expr.Means tree ∧ (tree.Negates → .bang ∈ lexed.map Lexeme.token) := by
  obtain ⟨tree, negated, understood⟩ :=
    understood_sentence ((compile_isOk_iff cut).mp ⟨expr, compiled⟩)
  obtain ⟨same, again, means⟩ := compile_of_understood cut (understood 0)
  cases compiled.symm.trans again
  exact ⟨tree, means, negated⟩

theorem eval_mono_of_compile [PatternEngine] {source : String} {lexed : List Lexeme} {expr : Expr}
    (cut : lexemes 0 source.toList = .ok lexed) (compiled : compile source = .ok expr)
    (plain : .bang ∉ lexed.map Lexeme.token) (extended : context.ExtendedBy more)
    (holds : expr.eval context = true) : expr.eval more = true := by
  obtain ⟨tree, means, negated⟩ := exists_tree_of_compile cut compiled
  have before : tree.Holds context := (means context).mp holds
  exact (means more).mpr (before.mono extended fun inside => plain (negated inside))

/-- A rule whose source has no `!` token and that is true in a context is true in every context for
the same family that has all scores of the first one, unchanged, and any further scores.  A
`family !=` may stand in the source or not. -/
theorem evaluate_mono [PatternEngine] {source : String} {lexed : List Lexeme}
    (cut : lexemes 0 source.toList = .ok lexed) (plain : .bang ∉ lexed.map Lexeme.token)
    {context more : RuleContext} (extended : context.ExtendedBy more)
    (holds : evaluate source context = .ok true) : evaluate source more = .ok true := by
  obtain ⟨expr, compiled, value⟩ := bind_eq_ok_iff.mp holds
  have still := eval_mono_of_compile cut compiled plain extended (Except.ok.inj value)
  exact bind_eq_ok_iff.mpr ⟨expr, compiled, congrArg Except.ok still⟩

/-- What was true for the lack of a score is false when it comes. -/
example :
    evaluate "!tags['/X']" (.named "B") = .ok true ∧
      evaluate "!tags['/X']" ((RuleContext.named "B").withScore "/X" (.ofNat .single false 7)) =
        .ok false := by
  decide +kernel

/-- The tag that is compared has a score, and another tag is given the score that it must not
have. -/
theorem evaluate_mono_of_unequal :
    let source := "family != 'A' && tags['/X'] != 5"
    let context := (RuleContext.named "B").withScore "/X" (.ofNat .single false 7)
    let more := context.withScore "/Y" (.ofNat .single false 5)
    ∃ lexed, lexemes 0 source.toList = .ok lexed ∧ .bang ∉ lexed.map Lexeme.token ∧
      context.ExtendedBy more ∧ evaluate source context = .ok true ∧
      evaluate source more = .ok true := by
  intro source context more
  have cut : lexemes 0 source.toList = .ok
      [⟨.name "family", 0⟩, ⟨.comparison .unequal, 7⟩, ⟨.text "A", 10⟩, ⟨.and, 14⟩,
        ⟨.name "tags", 17⟩, ⟨.openBracket, 21⟩, ⟨.text "/X", 22⟩, ⟨.closeBracket, 26⟩,
        ⟨.comparison .unequal, 28⟩, ⟨.number (.ofNat .single false 5), 31⟩] := by
    decide +kernel
  have extended : context.ExtendedBy more := RuleContext.extendedBy_withScore rfl _
  have holds : evaluate source context = .ok true := by decide +kernel
  exact ⟨_, cut, by simp, extended, holds, evaluate_mono cut (by simp) extended holds⟩

end Rule

end FontScores
