import FontScores.Rule.Token
import FontScores.Tagging.Font

/-!
# Rule expressions and their meaning

A rule is a condition on a font: on its family name and on the scores it has for its whole self.
A comparison with the score of a tag that the font does not have is false, whatever the comparison;
so an expression always has a value.
-/

namespace FontScores

/-- What a rule is evaluated against: a family name, and a score for some tags. -/
structure RuleContext where
  family : String
  score? : String → Option Single

namespace RuleContext

def named (family : String) : RuleContext := ⟨family, fun _ => none⟩

def withScore (context : RuleContext) (tag : String) (score : Single) : RuleContext :=
  { context with score? := fun other => if other = tag then some score else context.score? other }

/-- A font's name and its scores for the whole font. -/
def ofFont (font : Font) : RuleContext := ⟨font.name, font.staticScore?⟩

end RuleContext

namespace Rule

inductive Operand where
  | score (tag : String)
  | number (value : Single)
deriving DecidableEq

def Operand.value? (context : RuleContext) : Operand → Option Single
  | score tag => context.score? tag
  | number value => some value

inductive Expr where
  | literal (value : Bool)
  | not (inner : Expr)
  | all (terms : List Expr)
  | any (terms : List Expr)
  | present (tag : String)
  | compare (left : Operand) (comparison : Comparison) (right : Operand)
  | familyIs (name : String)
  | familyIn (names : List String)
  /-- The family passes a test, which a pattern stands for. -/
  | familyLike (isFoundIn : String → Bool)

namespace Expr

mutual

def eval (context : RuleContext) : Expr → Bool
  | literal value => value
  | not inner => !inner.eval context
  | all terms => evalAll context terms
  | any terms => evalAny context terms
  | present tag => (context.score? tag).isSome
  | compare left comparison right =>
    match left.value? context, right.value? context with
    | some left, some right => comparison.holds left right
    | _, _ => false
  | familyIs name => context.family == name
  | familyIn names => names.contains context.family
  | familyLike isFoundIn => isFoundIn context.family

def evalAll (context : RuleContext) : List Expr → Bool
  | [] => true
  | term :: others => term.eval context && evalAll context others

def evalAny (context : RuleContext) : List Expr → Bool
  | [] => false
  | term :: others => term.eval context || evalAny context others

end

end Expr

end Rule

end FontScores
