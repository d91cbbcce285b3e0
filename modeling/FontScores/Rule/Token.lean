import FontScores.Number.Numeral
import FontScores.Text.Quoted

/-!
# Tokens of rules

A rule is written with names, quoted texts, numbers, brackets and operators.  A message names a
token by its kind and, where tokens of a kind differ, by what it holds.
-/

namespace FontScores

inductive Comparison where
  | greater
  | atLeast
  | less
  | atMost
  | equal
  | unequal
deriving DecidableEq, Repr

namespace Comparison

def symbol : Comparison → String
  | greater => ">"
  | atLeast => ">="
  | less => "<"
  | atMost => "<="
  | equal => "=="
  | unequal => "!="

/-- Whether the comparison holds of two numbers.  With something that is no number only
"unequal" does. -/
def holds (comparison : Comparison) (left right : Single) : Bool :=
  match comparison with
  | greater => right.less left
  | atLeast => right.lessEq left
  | less => left.less right
  | atMost => left.lessEq right
  | equal => left.equals right
  | unequal => !left.equals right

end Comparison

namespace Rule

inductive Token where
  | name (name : String)
  | text (text : String)
  | number (value : Single)
  | openParen
  | closeParen
  | openBracket
  | closeBracket
  | comma
  | bang
  | and
  | or
  | comparison (comparison : Comparison)
  | resembles
deriving DecidableEq

def Token.shown : Token → String
  | .name written => "identifier `" ++ written ++ "`"
  | .text value => "string " ++ Text.quoted value
  | .number value => "number " ++ value.text
  | .openParen => "`(`"
  | .closeParen => "`)`"
  | .openBracket => "`[`"
  | .closeBracket => "`]`"
  | .comma => "`,`"
  | .bang => "`!`"
  | .and => "`&&`"
  | .or => "`||`"
  | .comparison operator => "`" ++ operator.symbol ++ "`"
  | .resembles => "`=~`"

/-- A token and where it starts, in bytes of the source. -/
structure Lexeme where
  token : Token
  offset : Nat
deriving DecidableEq

end Rule

end FontScores
