import FontScores.Rule.Token

/-!
# What can be wrong with a rule

Every error has the place where it was noticed, in bytes from the start of the source.
-/

namespace FontScores.Rule

inductive Expectation where
  | expression
  | text
  | closeParen
  | openBracket
  | openBracketAfterTags
  | closeBracket
  | familyTest
  | operand
deriving DecidableEq, Repr

def Expectation.shown : Expectation → String
  | .expression => "an expression"
  | .text => "a quoted string"
  | .closeParen => "`)`"
  | .openBracket => "`[`"
  | .openBracketAfterTags => "`[` after `tags`"
  | .closeBracket => "`]`"
  | .familyTest => "`==`, `!=`, `in` or `=~` after `family`"
  | .operand => "`tags[...]` or a number"

def depthLimit : Nat := 256

inductive Fault where
  | halfEqual
  | halfAnd
  | halfOr
  | unterminatedText
  | invalidNumber (text : String)
  | unexpectedCharacter (c : Char)
  /-- The rule is complete before this token. -/
  | unexpected (token : Token)
  /-- Another token was needed, or the end of the rule came too early. -/
  | expected (what : Expectation) (found : Option Token)
  | tooDeep
  | bareNumber
  | emptyFamilyList
  | invalidPattern
deriving DecidableEq

def Fault.message : Fault → String
  | .halfEqual => "expected `==` or `=~`"
  | .halfAnd => "expected `&&`"
  | .halfOr => "expected `||`"
  | .unterminatedText => "unterminated string"
  | .invalidNumber text => "invalid number `" ++ text ++ "`"
  | .unexpectedCharacter c => "unexpected character `" ++ c.toString ++ "`"
  | .unexpected token => "unexpected " ++ token.shown
  | .expected what none => "expected " ++ what.shown ++ ", found end of rule"
  | .expected what (some token) => "expected " ++ what.shown ++ ", found " ++ token.shown
  | .tooDeep => "nesting deeper than " ++ Nat.repr depthLimit ++ " levels"
  | .bareNumber => "a number on its own is not a condition"
  | .emptyFamilyList => "empty family list"
  | .invalidPattern => "invalid pattern"

structure Error where
  offset : Nat
  fault : Fault
deriving DecidableEq

def Error.message (error : Error) : String :=
  error.fault.message ++ " at offset " ++ Nat.repr error.offset

end FontScores.Rule
