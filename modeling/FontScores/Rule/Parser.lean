import FontScores.Pattern.Engine
import FontScores.Rule.Expr
import FontScores.Rule.Lexer
import FontScores.Text.Taken

/-!
# Reading rules

The grammar, loosest binding first; `…*` stands for any number of repetitions:

    disjunction  conjunction ( || conjunction )*
    conjunction  unary ( && unary )*
    unary        ! unary  |  ( disjunction )  |  true  |  false  |  family test  |  score test
    family test  family == text  |  family != text  |  family =~ text
                 family in [ text ( ,* text )* ,* ]
    score test   operand comparison operand  |  tags [ text ]
    operand      tags [ text ]  |  number

Only `!` and `(` nest, and `unary` carries the number of levels that may still be opened, so the
reader recurs on that number.  Chains may be of any length: `chain` recurs on the tokens left.

An error is noticed at the first token that no rule could have at its place.  Only a number that
turns out to stand alone is reported where it started.
-/

namespace FontScores.Rule

/-- A reader takes something from the front of the tokens, or says what is wrong with them. -/
abbrev Reader (α : Type) := (input : List Lexeme) → Except Error (Taken α input)

/-- The error of finding something else than what was looked for; `stop` is where the source
ends. -/
def mismatch (stop : Nat) (what : Expectation) : List Lexeme → Error
  | [] => ⟨stop, .expected what none⟩
  | found :: _ => ⟨found.offset, .expected what (some found.token)⟩

def expect (stop : Nat) (token : Token) (what : Expectation) : Reader Unit
  | [] => .error (mismatch stop what [])
  | found :: rest =>
    if found.token = token then .ok (.head ()) else .error (mismatch stop what (found :: rest))

def readText (stop : Nat) : Reader (String × Nat)
  | ⟨.text text, offset⟩ :: _ => .ok (.head (text, offset))
  | input => .error (mismatch stop .text input)

/-- A tag in brackets, after the word `tags`. -/
def readTag (stop : Nat) : Reader String := fun input => do
  let opening ← expect stop .openBracket .openBracketAfterTags input
  let tag ← readText stop opening.rest
  let closing ← expect stop .closeBracket .closeBracket tag.rest
  return ⟨tag.value.1, closing.rest,
    Nat.lt_trans closing.shorter (Nat.lt_trans tag.shorter opening.shorter)⟩

def readOperand (stop : Nat) : Reader Operand
  | ⟨.number value, _⟩ :: _ => .ok (.head (.number value))
  | ⟨.name "tags", _⟩ :: rest => do
    let tag ← readTag stop rest
    return (tag.map .score).behind _
  | input => .error (mismatch stop .operand input)

/-- A comparison, or a tag alone. -/
def readScoreTest (stop : Nat) : Reader Expr := fun input => do
  let left ← readOperand stop input
  match after : left.rest with
  | ⟨.comparison comparison, _⟩ :: rest =>
    let right ← readOperand stop rest
    return ⟨.compare left.value comparison right.value, right.rest, by
      have one := left.shorter
      have two := right.shorter
      rw [after] at one
      simp only [List.length_cons] at one
      omega⟩
  | rest =>
    match left.value with
    | .score tag => return ⟨.present tag, rest, after ▸ left.shorter⟩
    | .number _ => .error ⟨input.head?.elim stop Lexeme.offset, .bareNumber⟩

/-- The names of a family list after the first one, with the closing bracket. -/
def readNames (stop : Nat) : Reader (List String)
  | ⟨.closeBracket, _⟩ :: _ => .ok (.head [])
  | ⟨.comma, _⟩ :: rest => do
    let others ← readNames stop rest
    return others.behind _
  | ⟨.text name, _⟩ :: rest => do
    let others ← readNames stop rest
    return (others.map (name :: ·)).behind _
  | input => .error (mismatch stop .text input)

/-- A family list, after the word `in`. -/
def readFamilyList (stop : Nat) : Reader (List String) := fun input => do
  let opening ← expect stop .openBracket .openBracket input
  match after : opening.rest with
  | ⟨.closeBracket, offset⟩ :: _ => .error ⟨offset, .emptyFamilyList⟩
  | rest =>
    let first ← readText stop rest
    let others ← readNames stop first.rest
    return ⟨first.value.1 :: others.value, others.rest,
      Nat.lt_trans others.shorter (Nat.lt_trans first.shorter (after ▸ opening.shorter))⟩

/-- A test of the family's name, after the word `family`. -/
def readFamilyTest [PatternEngine] (stop : Nat) : Reader Expr
  | ⟨.comparison .equal, _⟩ :: rest => do
    let name ← readText stop rest
    return (name.map fun (name, _) => .familyIs name).behind _
  | ⟨.comparison .unequal, _⟩ :: rest => do
    let name ← readText stop rest
    return (name.map fun (name, _) => .not (.familyIs name)).behind _
  | ⟨.name "in", _⟩ :: rest => do
    let names ← readFamilyList stop rest
    return (names.map .familyIn).behind _
  | ⟨.resembles, _⟩ :: rest => do
    let written ← readText stop rest
    match PatternEngine.read? written.value.1 with
    | some isFoundIn => return (written.map fun _ => .familyLike isFoundIn).behind _
    | none => .error ⟨written.value.2, .invalidPattern⟩
  | input => .error (mismatch stop .familyTest input)

/-- Items with a separator between each two. -/
def chain {α : Type} (separator : Token) (item : Reader α) : Reader (List α) := fun input =>
  match item input with
  | .error error => .error error
  | .ok first =>
    match after : first.rest with
    | found :: rest =>
      if found.token = separator then
        have fewer : rest.length < input.length := by
          have := first.shorter
          rw [after] at this
          exact Nat.lt_of_succ_lt this
        match chain separator item rest with
        | .error error => .error error
        | .ok others =>
          .ok ⟨first.value :: others.value, others.rest, Nat.lt_trans others.shorter fewer⟩
      else .ok (first.map fun value => [value])
    | [] => .ok (first.map fun value => [value])
termination_by input => input.length

/-- One expression alone, or all of several. -/
def allOf : List Expr → Expr
  | [only] => only
  | terms => .all terms

/-- One expression alone, or any of several. -/
def anyOf : List Expr → Expr
  | [only] => only
  | terms => .any terms

/-- Expressions joined by `&&`. -/
def readConjunction (unary : Reader Expr) : Reader Expr := fun input => do
  let terms ← chain .and unary input
  return terms.map allOf

/-- Expressions joined by `||`, each of them expressions joined by `&&`. -/
def readDisjunction (unary : Reader Expr) : Reader Expr := fun input => do
  let terms ← chain .or (readConjunction unary) input
  return terms.map anyOf

/-- One level of nesting: `inner` reads what may stand behind `!` and inside `(`, if anything. -/
def readLevel [PatternEngine] (stop : Nat) (inner : Option (Reader Expr)) : Reader Expr
  | ⟨.bang, offset⟩ :: rest =>
    match inner with
    | none => .error ⟨offset, .tooDeep⟩
    | some unary => do
      let negated ← unary rest
      return (negated.map .not).behind _
  | ⟨.openParen, offset⟩ :: rest =>
    match inner with
    | none => .error ⟨offset, .tooDeep⟩
    | some unary => do
      let body ← readDisjunction unary rest
      let closing ← expect stop .closeParen .closeParen body.rest
      return ⟨body.value, closing.rest,
        Nat.lt_succ_of_lt (Nat.lt_trans closing.shorter body.shorter)⟩
  | ⟨.name "true", _⟩ :: _ => .ok (.head (.literal true))
  | ⟨.name "false", _⟩ :: _ => .ok (.head (.literal false))
  | ⟨.name "family", _⟩ :: rest => do
    let test ← readFamilyTest stop rest
    return test.behind _
  | ⟨.name "tags", offset⟩ :: rest => readScoreTest stop (⟨.name "tags", offset⟩ :: rest)
  | ⟨.number value, offset⟩ :: rest => readScoreTest stop (⟨.number value, offset⟩ :: rest)
  | input => .error (mismatch stop .expression input)

/-- An expression that no `&&` or `||` joins to another, with so many levels of nesting left. -/
def readUnary [PatternEngine] (stop : Nat) : Nat → Reader Expr
  | 0 => readLevel stop none
  | levels + 1 => readLevel stop (some (readUnary stop levels))

/-- The expression that the tokens of a whole source make up. -/
def readAll [PatternEngine] (stop : Nat) (input : List Lexeme) : Except Error Expr := do
  let expr ← readDisjunction (readUnary stop depthLimit) input
  match expr.rest with
  | [] => return expr.value
  | extra :: _ => .error ⟨extra.offset, .unexpected extra.token⟩

def compile [PatternEngine] (source : String) : Except Error Expr := do
  let lexemes ← lexemes 0 source.toList
  readAll (width source.toList) lexemes

def evaluate [PatternEngine] (source : String) (context : RuleContext) : Except Error Bool := do
  let expr ← compile source
  return expr.eval context

end FontScores.Rule
