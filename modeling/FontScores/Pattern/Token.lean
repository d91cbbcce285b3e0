import FontScores.Number.Numeral
import FontScores.Pattern.Basic
import FontScores.Text.Hex
import FontScores.Text.Taken

/-!
# Tokens of written patterns

A written pattern is cut into tokens: sets of characters, places, repetitions, the parts of groups
and, between brackets, the parts of a set.  Where brackets are open a different grammar rules, so
the scanner counts them.

Everything that has no meaning here is refused: escapes of letters and digits without a meaning,
braces that are no repetition, and groups that look around.
-/

namespace FontScores.Pattern

/-- A property of the matching that a group can switch on or off. -/
inductive Flag where
  | caseless
  | multiline
  | dotAll
  /-- Which of several matches is preferred; whether there is one does not depend on it. -/
  | lazy
  /-- Matching by code points, which is always on. -/
  | byCodePoint
deriving DecidableEq, Repr

/-- How two sets between brackets are combined. -/
inductive SetOperator where
  | intersection
  | difference
  | oneOnly
deriving DecidableEq, Repr

inductive Token where
  | set (chars : CharSet)
  | dot
  | anchor (place : Anchor)
  /-- The start of the text, or of a line where lines count. -/
  | start
  /-- The end of the text, or of a line where lines count. -/
  | stop
  | repetition (least : Nat) (most : Option Nat)
  | openGroup (name : Option String) (flags : List (Flag × Bool))
  | setFlags (flags : List (Flag × Bool))
  | closeGroup
  | bar
  | openSet (negated : Bool)
  | member (chars : CharSet)
  | operator (operator : SetOperator)
  | closeSet
deriving DecidableEq, Repr

inductive Escape where
  | char (c : Char)
  | set (chars : CharSet)
  | anchor (place : Anchor)
deriving DecidableEq, Repr

def charOfCode? (code : Nat) : Option Char :=
  if code.isValidChar then some (Char.ofNat code) else none

/-- A code in hexadecimal: any number of digits in braces, or exactly `width` digits. -/
def takeCode (width : Nat) (input : List Char) : Option (Taken Char input) :=
  match input with
  | [] => none
  | '\x7b' :: rest =>
    let digits := rest.takeWhile Text.isHexDigit
    match h : rest.dropWhile Text.isHexDigit with
    | '\x7d' :: after =>
      if digits = [] then none
      else (charOfCode? (Text.hexValue digits)).map fun c =>
        ⟨c, after, by
          have fewer := length_dropWhile_le Text.isHexDigit rest
          rw [h] at fewer
          simp only [List.length_cons] at fewer ⊢
          omega⟩
    | _ => none
  | c :: rest =>
    let digits := (c :: rest).take width
    if digits.length = width ∧ digits.all Text.isHexDigit then
      (charOfCode? (Text.hexValue digits)).map fun value =>
        ⟨value, rest.drop (width - 1), by
          simp only [List.length_drop, List.length_cons]
          omega⟩
    else none

/-- The names of word boundaries in braces. -/
def boundary? : String → Option Anchor
  | "start" => some .wordStart
  | "end" => some .wordEnd
  | "start-half" => some .wordStartHalf
  | "end-half" => some .wordEndHalf
  | _ => none

def isBoundaryChar (c : Char) : Bool := c.isAlpha || c == '-'

/-- A word boundary, after its letter: of a special kind if a name in braces follows. -/
def takeBoundary (letter : Char) (input : List Char) : Option (Taken Escape (letter :: input)) :=
  match input with
  | '\x7b' :: c :: rest =>
    if isBoundaryChar c then
      let name := String.ofList ((c :: rest).takeWhile isBoundaryChar)
      match h : (c :: rest).dropWhile isBoundaryChar with
      | '\x7d' :: after => (boundary? name).map fun place =>
        ⟨.anchor place, after, by
          have fewer := length_dropWhile_le isBoundaryChar (c :: rest)
          rw [h] at fewer
          simp only [List.length_cons] at fewer ⊢
          omega⟩
      | _ => none
    else some ⟨.anchor .wordBoundary, _, Nat.lt_succ_self _⟩
  | _ => some ⟨.anchor .wordBoundary, _, Nat.lt_succ_self _⟩

/-- Whether the character stands for itself after a backslash: ASCII, and no letter, no digit and
no angle bracket. -/
def isEscapable (c : Char) : Bool :=
  c.toNat < 0x80 && !c.isAlphanum && c != '<' && c != '>'

/-- An escape, after its backslash. -/
def takeEscape (input : List Char) : Option (Taken Escape input) :=
  match input with
  | [] => none
  | c :: rest =>
    match c with
    | 'd' => some (.head (.set .digit))
    | 'D' => some (.head (.set (.complement .digit)))
    | 's' => some (.head (.set .blank))
    | 'S' => some (.head (.set (.complement .blank)))
    | 'w' => some (.head (.set .word))
    | 'W' => some (.head (.set (.complement .word)))
    | 'x' => (takeCode 2 rest).map fun taken => (taken.map Escape.char).behind _
    | 'u' => (takeCode 4 rest).map fun taken => (taken.map Escape.char).behind _
    | 'U' => (takeCode 8 rest).map fun taken => (taken.map Escape.char).behind _
    | 'a' => some (.head (.char '\x07'))
    | 'f' => some (.head (.char '\x0c'))
    | 't' => some (.head (.char '\t'))
    | 'n' => some (.head (.char '\n'))
    | 'r' => some (.head (.char '\r'))
    | 'v' => some (.head (.char '\x0b'))
    | 'A' => some (.head (.anchor .textStart))
    | 'z' => some (.head (.anchor .textEnd))
    | 'B' => some (.head (.anchor .noWordBoundary))
    | '<' => some (.head (.anchor .wordStart))
    | '>' => some (.head (.anchor .wordEnd))
    | 'b' => takeBoundary _ rest
    | c => if isEscapable c then some (.head (.char c)) else none

/-- A count with blanks around it, and what follows. -/
def takeCount (input : List Char) : Option Nat × List Char :=
  let digits := Text.trimStart input
  (Numeral.digits? (digits.takeWhile Char.isDigit), Text.trimStart (digits.dropWhile Char.isDigit))

theorem length_takeCount_le (input : List Char) : (takeCount input).2.length ≤ input.length :=
  Nat.le_trans (length_dropWhile_le _ _)
    (Nat.le_trans (length_dropWhile_le _ _) (length_dropWhile_le _ _))

def countLimit : Nat := 0x100000000

/-- The counts of a repetition, after its opening brace. -/
def takeRepetition (input : List Char) : Option (Taken (Nat × Option Nat) input) :=
  match first : takeCount input with
  | (some least, rest) =>
    have fewer : rest.length ≤ input.length := by
      have := length_takeCount_le input
      rwa [first] at this
    if least < countLimit then
      match rest with
      | '\x7d' :: after =>
        some ⟨(least, some least), after, Nat.lt_of_succ_le fewer⟩
      | ',' :: '\x7d' :: after =>
        some ⟨(least, none), after, Nat.lt_of_succ_le (Nat.le_of_succ_le fewer)⟩
      | ',' :: more =>
        match second : takeCount more with
        | (some most, '\x7d' :: after) =>
          if most < countLimit ∧ least ≤ most then
            some ⟨(least, some most), after, by
              have := length_takeCount_le more
              rw [second] at this
              simp only [List.length_cons] at this fewer
              omega⟩
          else none
        | _ => none
      | _ => none
    else none
  | _ => none

/-- Whether a group's name may contain the character, at its start or later. -/
def isGroupNameChar (first : Bool) (c : Char) : Bool :=
  c == '_' || Unicode.isLetter c ||
    (!first && (c == '.' || c == '[' || c == ']' || Unicode.isNumeral c))

/-- A group's name up to the closing angle bracket, after the opening one. -/
def takeGroupName (input : List Char) : Option (Taken Token input) :=
  let name := input.takeWhile (· != '>')
  match h : input.dropWhile (· != '>') with
  | _ :: after =>
    match name with
    | [] => none
    | first :: others =>
      if isGroupNameChar true first && others.all (isGroupNameChar false) then
        some ⟨.openGroup (some (String.ofList name)) [], after, by
          have fewer := length_dropWhile_le (· != '>') input
          rw [h] at fewer
          exact Nat.lt_of_succ_le fewer⟩
      else none
  | [] => none

def flag? : Char → Option Flag
  | 'i' => some .caseless
  | 'm' => some .multiline
  | 's' => some .dotAll
  | 'U' => some .lazy
  | 'u' => some .byCodePoint
  | _ => none

/-- The flags before a colon or a closing parenthesis: those before a dash are switched on, those
after it off; none is named twice, and a dash has flags after it. -/
def flags? : Bool → List Flag → List Char → Option (List (Flag × Bool))
  | _, _, [] => some []
  | true, seen, '-' :: rest => if rest = [] then none else flags? false seen rest
  | on, seen, c :: rest => do
    let flag ← flag? c
    if flag ∈ seen ∨ (flag = .byCodePoint ∧ on = false) then none
    else return (flag, on) :: (← flags? on (flag :: seen) rest)

/-- What follows an opening parenthesis: nothing special, a name, or flags. -/
def takeGroupStart (input : List Char) : Option (Taken Token ('(' :: input)) :=
  match input with
  | '?' :: 'P' :: '<' :: rest => (takeGroupName rest).map fun taken =>
      taken.widen (by simp only [List.length_cons]; omega)
  | '?' :: '<' :: rest => (takeGroupName rest).map fun taken =>
      taken.widen (by simp only [List.length_cons]; omega)
  | '?' :: rest =>
    let isEnd (c : Char) : Bool := c == ':' || c == ')'
    let written := rest.takeWhile (!isEnd ·)
    match h : rest.dropWhile (!isEnd ·) with
    | closing :: after =>
      have shorter : after.length < ('(' :: '?' :: rest).length := by
        have fewer := length_dropWhile_le (!isEnd ·) rest
        rw [h] at fewer
        simp only [List.length_cons] at fewer ⊢
        omega
      (flags? true [] written).bind fun flags =>
        if closing = ':' then some ⟨.openGroup none flags, after, shorter⟩
        else if flags = [] then none
        else some ⟨.setFlags flags, after, shorter⟩
    | [] => none
  | rest => some ⟨.openGroup none [], rest, Nat.lt_succ_self _⟩

/-- Whether a caret stands first, and what follows it. -/
def takeCaret : List Char → Bool × List Char
  | '^' :: rest => (true, rest)
  | input => (false, input)

theorem length_takeCaret_le (input : List Char) : (takeCaret input).2.length ≤ input.length := by
  unfold takeCaret
  split <;> simp

/-- The set of ASCII characters named between brackets and colons, after the opening bracket. -/
def takeNamedSet (input : List Char) : Option (Taken CharSet input) :=
  match input with
  | ':' :: rest =>
    let (negated, body) := takeCaret rest
    match h : (takeCaret rest).2.dropWhile (· != ':') with
    | ':' :: ']' :: after =>
      (CharSet.named? (String.ofList (body.takeWhile (· != ':')))).map fun chars =>
        ⟨if negated then .complement chars else chars, after, by
          have fewer := length_dropWhile_le (· != ':') (takeCaret rest).2
          have := length_takeCaret_le rest
          rw [h] at fewer
          simp only [List.length_cons] at fewer ⊢
          omega⟩
    | _ => none
  | _ => none

/-- The start of a set after its opening bracket: a caret complements it, and dashes, or a single
closing bracket, stand for themselves when they come first. -/
def takeSetStart (input : List Char) : Taken (List Token) ('[' :: input) :=
  let negated := (takeCaret input).1
  let body := (takeCaret input).2
  let dashes := body.takeWhile (· == '-')
  have fewer : (body.dropWhile (· == '-')).length ≤ input.length :=
    Nat.le_trans (length_dropWhile_le _ _) (length_takeCaret_le input)
  match h : body.dropWhile (· == '-') with
  | ']' :: after =>
    if dashes = [] then
      ⟨[.openSet negated, .member (.single ']')], after, by
        rw [h] at fewer
        exact Nat.lt_succ_of_le (Nat.le_of_succ_le fewer)⟩
    else
      ⟨.openSet negated :: dashes.map fun c => .member (.single c), ']' :: after, by
        rw [h] at fewer
        exact Nat.lt_succ_of_le fewer⟩
  | rest =>
    ⟨.openSet negated :: dashes.map fun c => .member (.single c), rest, by
      rw [h] at fewer
      exact Nat.lt_succ_of_le fewer⟩

/-- One character or escape between brackets. -/
def takeSetItem (input : List Char) : Option (Taken Escape input) :=
  match input with
  | [] => none
  | '\\' :: rest => (takeEscape rest).map (·.behind '\\')
  | c :: rest => some ⟨.char c, rest, Nat.lt_succ_self _⟩

/-- One member of a set: an item, or a range of two characters around a dash.  A dash before a
closing bracket or another dash makes no range. -/
def takeMember (input : List Char) : Option (Taken Token input) := do
  let first ← takeSetItem input
  let alone : Option (Taken Token input) :=
    match first.value with
    | .char c => some (first.map fun _ => .member (.single c))
    | .set chars => some (first.map fun _ => .member chars)
    | .anchor _ => none
  match h : first.rest with
  | '-' :: c :: rest =>
    if c = ']' ∨ c = '-' then alone
    else
      let last ← takeSetItem (c :: rest)
      match first.value, last.value with
      | .char low, .char high =>
        if low ≤ high then
          some ⟨.member (.range low high), last.rest, by
            have one := first.shorter
            have two := last.shorter
            rw [h] at one
            simp only [List.length_cons] at one two
            omega⟩
        else none
      | _, _ => none
  | _ => alone

/-- The next tokens between brackets. -/
def takeInSet (input : List Char) : Option (Taken (List Token) input) :=
  match input with
  | [] => none
  | ']' :: rest => some ⟨[.closeSet], rest, Nat.lt_succ_self _⟩
  | '&' :: '&' :: rest =>
    some ⟨[.operator .intersection], rest, by simp only [List.length_cons]; omega⟩
  | '-' :: '-' :: rest =>
    some ⟨[.operator .difference], rest, by simp only [List.length_cons]; omega⟩
  | '~' :: '~' :: rest =>
    some ⟨[.operator .oneOnly], rest, by simp only [List.length_cons]; omega⟩
  | '[' :: rest =>
    match takeNamedSet rest with
    | some taken => some ((taken.map fun chars => [.member chars]).behind '[')
    | none => some (takeSetStart rest)
  | c :: rest => (takeMember (c :: rest)).map fun taken => taken.map fun token => [token]

/-- Leaves out the question mark that makes a repetition prefer few rounds. -/
def afterRepetition : List Char → List Char
  | '?' :: rest => rest
  | rest => rest

theorem length_afterRepetition_le (input : List Char) :
    (afterRepetition input).length ≤ input.length := by
  unfold afterRepetition
  split <;> simp

/-- A repetition by one character, with the question mark that may follow it. -/
def repetitionBefore {mark : Char} (rest : List Char) (least : Nat) (most : Option Nat) :
    Taken (List Token) (mark :: rest) :=
  ⟨[.repetition least most], afterRepetition rest,
    Nat.lt_succ_of_le (length_afterRepetition_le rest)⟩

/-- The next tokens outside brackets. -/
def takeOutside (input : List Char) : Option (Taken (List Token) input) :=
  match input with
  | [] => none
  | c :: rest =>
    match c with
    | '(' => (takeGroupStart rest).map fun taken =>
        (taken.map fun token => [token]).widen (Nat.le_refl _)
    | ')' => some (.head [.closeGroup])
    | '|' => some (.head [.bar])
    | '[' => some ((takeSetStart rest).widen (Nat.le_refl _))
    | '*' => some (repetitionBefore rest 0 none)
    | '+' => some (repetitionBefore rest 1 none)
    | '?' => some (repetitionBefore rest 0 (some 1))
    | '\x7b' => (takeRepetition rest).map fun taken =>
        ⟨[.repetition taken.value.1 taken.value.2], afterRepetition taken.rest,
          Nat.lt_succ_of_le (Nat.le_trans (length_afterRepetition_le _)
            (Nat.le_of_lt taken.shorter))⟩
    | '.' => some (.head [.dot])
    | '^' => some (.head [.start])
    | '$' => some (.head [.stop])
    | '\\' => (takeEscape rest).map fun taken =>
        (taken.map fun escape =>
          match escape with
          | .char c => [.set (.single c)]
          | .set chars => [.set chars]
          | .anchor place => [.anchor place]).behind _
    | c => some (.head [.set (.single c)])

/-- How many brackets are open after a token. -/
def Token.openSets (openBefore : Nat) : Token → Nat
  | .openSet _ => openBefore + 1
  | .closeSet => openBefore - 1
  | _ => openBefore

/-- The tokens of a written pattern, `depth` being the number of brackets open before it. -/
def tokens (depth : Nat) (input : List Char) : Option (List Token) :=
  match input with
  | [] => some []
  | c :: rest => do
    let taken ← if depth = 0 then takeOutside (c :: rest) else takeInSet (c :: rest)
    let others ← tokens (taken.value.foldl Token.openSets depth) taken.rest
    return taken.value ++ others
termination_by input.length
decreasing_by exact taken.shorter

end FontScores.Pattern
