import Mathlib
import FontScores.Number.Numeral
import FontScores.Rule.Lexer
import FontScores.Proofs.Rule.Grammar

/-!
# Writing rules down

A text writes a row of tokens if it spells each of them, with any blanks before, between and behind
them.  Only the word `in` needs a blank before it, to be kept apart from the word `family`.

A quoted text stands between two quotes of either kind.  A backslash goes before each backslash and
each quote of that kind, and may go before any other character.  A number may be any numeral made of
digits and points, with a sign before it or not, that is read as that number.
-/

namespace FontScores.Rule

/-! ## Spelling tokens -/

/-- How the content of a text is written between two quotes. -/
inductive Escaped (quote : Char) : List Char → List Char → Prop
  | nil : Escaped quote [] []
  | plain {c : Char} {value written : List Char} (other : c ≠ quote) (visible : c ≠ '\\')
      (following : Escaped quote value written) : Escaped quote (c :: value) (c :: written)
  | escaped (c : Char) {value written : List Char} (following : Escaped quote value written) :
      Escaped quote (c :: value) ('\\' :: c :: written)

/-- The words that rules are written with. -/
def keywords : List String := ["true", "false", "family", "in", "tags"]

/-- The spelling of a token that is always spelled alike and is no word. -/
def Token.mark? : Token → Option (List Char)
  | .openParen => some ['(']
  | .closeParen => some [')']
  | .openBracket => some ['[']
  | .closeBracket => some [']']
  | .comma => some [',']
  | .bang => some ['!']
  | .and => some ['&', '&']
  | .or => some ['|', '|']
  | .comparison .greater => some ['>']
  | .comparison .atLeast => some ['>', '=']
  | .comparison .less => some ['<']
  | .comparison .atMost => some ['<', '=']
  | .comparison .equal => some ['=', '=']
  | .comparison .unequal => some ['!', '=']
  | .resembles => some ['=', '~']
  | _ => none

inductive Spelling : Token → List Char → Prop
  | mark {token : Token} {written : List Char} (fixed : token.mark? = some written) :
      Spelling token written
  | word {word : String} (known : word ∈ keywords) : Spelling (.name word) word.toList
  | text {quote : Char} {value written : List Char} (quotes : quote = '"' ∨ quote = '\x27')
      (content : Escaped quote value written) :
      Spelling (.text (String.ofList value)) (quote :: written ++ [quote])
  | number {value : Single} {sign body : List Char} (signs : sign ∈ [[], ['-'], ['+']])
      (digits : ∀ c ∈ body, c.isDigit = true ∨ c = '.')
      (read : Numeral.read .single (sign ++ body) = .ok value) :
      Spelling (.number value) (sign ++ body)

/-! ## Rows of tokens -/

/-- The text spells the tokens one after the other. -/
inductive Layout : List Token → List Char → Prop
  | done {blanks : List Char} (blank : ∀ c ∈ blanks, Text.isBlank c = true) : Layout [] blanks
  | token {token : Token} {tokens : List Token} {blanks written text : List Char}
      (blank : ∀ c ∈ blanks, Text.isBlank c = true) (spelling : Spelling token written)
      (gap : token = .name "family" → tokens.head? = some (.name "in") →
        ∃ c ∈ text.head?, Text.isBlank c = true)
      (following : Layout tokens text) :
      Layout (token :: tokens) (blanks ++ written ++ text)

/-- The text writes the tree: some tokens write it, with at most 256 levels open at once, and the
text spells these tokens. -/
def Written [PatternEngine] (tree : Tree) (text : String) : Prop :=
  ∃ tokens, Phrase 256 .disjunction tree tokens ∧ Layout tokens text.toList

end FontScores.Rule
