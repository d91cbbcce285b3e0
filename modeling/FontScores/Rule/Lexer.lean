import FontScores.Rule.Error
import FontScores.Text.Blank
import FontScores.Unicode.Letters
import FontScores.Unicode.Numerals

/-!
# Cutting rules into tokens

`scan` reads the token at the front of a text that starts with no blank.  What it returns says
which characters the token was made of, so nothing is lost: token by token and blank by blank, the
pieces are the source again.

A text stands between two quotes of one kind; a backslash takes the next character as it is.  A
number is a run of digits and points, with a sign before it if a digit or a point follows the sign,
or a point before it if a digit follows the point.
-/

namespace FontScores.Rule

def width : List Char → Nat
  | [] => 0
  | c :: rest => c.utf8Size + width rest

/-- The token at the front of `input`, and the characters it is made of. -/
structure Scanned (input : List Char) where
  token : Token
  source : List Char
  rest : List Char
  complete : source ++ rest = input
  nonempty : source ≠ []

theorem Scanned.shorter {input : List Char} (scanned : Scanned input) :
    scanned.rest.length < input.length := by
  have whole := congrArg List.length scanned.complete
  have some := List.length_pos_iff.2 scanned.nonempty
  rw [List.length_append] at whole
  omega

/-- The content of a quoted text up to its closing quote, the characters that it took with that
quote, and the rest. -/
def closeText (quote : Char) : List Char → Option (List Char × List Char × List Char)
  | [] => none
  | c :: rest =>
    if c = quote then some ([], [c], rest)
    else if c = '\\' then
      match rest with
      | [] => none
      | escaped :: rest =>
        (closeText quote rest).map fun (value, source, after) =>
          (escaped :: value, c :: escaped :: source, after)
    else
      (closeText quote rest).map fun (value, source, after) => (c :: value, c :: source, after)

theorem closeText_complete {quote : Char} {input value source rest : List Char}
    (closed : closeText quote input = some (value, source, rest)) : source ++ rest = input := by
  fun_induction closeText quote input generalizing value source rest with
  | case1 => simp at closed
  | case2 =>
    simp only [Option.some.injEq, Prod.mk.injEq] at closed
    obtain ⟨_, rfl, rfl⟩ := closed
    rfl
  | case3 => simp at closed
  | case4 _ _ _ ih =>
    simp only [Option.map_eq_some_iff, Prod.mk.injEq, Prod.exists] at closed
    obtain ⟨_, _, _, inner, _, rfl, rfl⟩ := closed
    simp [ih inner]
  | case5 _ _ _ _ ih =>
    simp only [Option.map_eq_some_iff, Prod.mk.injEq, Prod.exists] at closed
    obtain ⟨_, _, _, inner, _, rfl, rfl⟩ := closed
    simp [ih inner]

/-- Whether a number starts here: a digit, a point before a digit, or a sign before either. -/
def startsNumber : List Char → Bool
  | [] => false
  | c :: rest =>
    c.isDigit ||
      match rest with
      | [] => false
      | next :: _ =>
        ((c == '-' || c == '+' || c == '.') && next.isDigit) ||
          ((c == '-' || c == '+') && next == '.')

def isNumberChar (c : Char) : Bool := c.isDigit || c == '.'

def isNameStart (c : Char) : Bool := Unicode.isLetter c || c == '_'

def isNameChar (c : Char) : Bool := Unicode.isLetter c || Unicode.isNumeral c || c == '_'

def scanOne (c : Char) (rest : List Char) (token : Token) : Except Fault (Scanned (c :: rest)) :=
  .ok ⟨token, [c], rest, rfl, by simp⟩

def scanTwo (c next : Char) (rest : List Char) (token : Token) :
    Except Fault (Scanned (c :: next :: rest)) :=
  .ok ⟨token, [c, next], rest, rfl, by simp⟩

def scanText (quote : Char) (rest : List Char) : Except Fault (Scanned (quote :: rest)) :=
  match closed : closeText quote rest with
  | none => .error .unterminatedText
  | some (value, source, after) =>
    .ok ⟨.text (String.ofList value), quote :: source, after,
      by simp [closeText_complete closed], by simp⟩

/-- A number, from its first character on. -/
def scanNumber (c : Char) (rest : List Char) : Except Fault (Scanned (c :: rest)) :=
  let source := c :: rest.takeWhile isNumberChar
  match Numeral.read .single source with
  | .ok value =>
    .ok ⟨.number value, source, rest.dropWhile isNumberChar,
      by simp [source, List.takeWhile_append_dropWhile], by simp [source]⟩
  | .error _ => .error (.invalidNumber (String.ofList source))

def scanName (c : Char) (rest : List Char) : Except Fault (Scanned (c :: rest)) :=
  .ok ⟨.name (String.ofList (c :: rest.takeWhile isNameChar)), c :: rest.takeWhile isNameChar,
    rest.dropWhile isNameChar, by simp [List.takeWhile_append_dropWhile], by simp⟩

/-- The token at the front of a text that starts with no blank. -/
def scan (c : Char) (rest : List Char) : Except Fault (Scanned (c :: rest)) :=
  match c, rest with
  | '(', rest => scanOne _ rest .openParen
  | ')', rest => scanOne _ rest .closeParen
  | '[', rest => scanOne _ rest .openBracket
  | ']', rest => scanOne _ rest .closeBracket
  | ',', rest => scanOne _ rest .comma
  | '!', '=' :: rest => scanTwo _ _ rest (.comparison .unequal)
  | '!', rest => scanOne _ rest .bang
  | '=', '=' :: rest => scanTwo _ _ rest (.comparison .equal)
  | '=', '~' :: rest => scanTwo _ _ rest .resembles
  | '=', _ => .error .halfEqual
  | '<', '=' :: rest => scanTwo _ _ rest (.comparison .atMost)
  | '<', rest => scanOne _ rest (.comparison .less)
  | '>', '=' :: rest => scanTwo _ _ rest (.comparison .atLeast)
  | '>', rest => scanOne _ rest (.comparison .greater)
  | '&', '&' :: rest => scanTwo _ _ rest .and
  | '&', _ => .error .halfAnd
  | '|', '|' :: rest => scanTwo _ _ rest .or
  | '|', _ => .error .halfOr
  | '"', rest => scanText _ rest
  | '\x27', rest => scanText _ rest
  | c, rest =>
    if startsNumber (c :: rest) then scanNumber c rest
    else if isNameStart c then scanName c rest
    else .error (.unexpectedCharacter c)

/-- The tokens of a source that starts at `offset`. -/
def lexemes (offset : Nat) (input : List Char) : Except Error (List Lexeme) :=
  match input with
  | [] => .ok []
  | c :: rest =>
    if Text.isBlank c then lexemes (offset + c.utf8Size) rest
    else
      match scan c rest with
      | .error fault => .error ⟨offset, fault⟩
      | .ok scanned =>
        have := scanned.shorter
        match lexemes (offset + width scanned.source) scanned.rest with
        | .error error => .error error
        | .ok others => .ok (⟨scanned.token, offset⟩ :: others)
termination_by input.length
decreasing_by
  · exact Nat.lt_succ_self _
  · exact this

end FontScores.Rule
