import FontScores.Json.Numeral
import FontScores.Text.Hex
import FontScores.Text.Taken

/-!
# Reading JSON

The grammar is strict: no comments, no trailing commas, no leading zeros, no raw controls in texts,
and nothing but the four blanks between tokens.  Reading never fails as a whole; where the grammar
is broken the tree ends with a broken node, and the text after it is not looked at.
-/

namespace FontScores.Json

def isBlank (c : Char) : Bool := c == ' ' || c == '\n' || c == '\t' || c == '\r'

def skipBlanks (input : List Char) : List Char := input.dropWhile isBlank

theorem length_skipBlanks_le (input : List Char) : (skipBlanks input).length ≤ input.length :=
  length_dropWhile_le _ _

/-! ### Texts -/

/-- A character of a text, or a code that is half of a pair. -/
inductive TextUnit where
  | char (c : Char)
  | half (code : Nat)
deriving DecidableEq, Repr

def unitOfCode (code : Nat) : TextUnit :=
  if code.isValidChar then .char (Char.ofNat code) else .half code

/-- What one letter stands for after a backslash. -/
def escaped? : Char → Option Char
  | '"' => some '"'
  | '\\' => some '\\'
  | '/' => some '/'
  | 'b' => some '\x08'
  | 'f' => some '\x0c'
  | 'n' => some '\n'
  | 'r' => some '\r'
  | 't' => some '\t'
  | _ => none

/-- The units of a text up to its closing quote, and what follows the quote. -/
def textUnits : List Char → Option (List TextUnit × List Char)
  | [] => none
  | '"' :: rest => some ([], rest)
  | '\\' :: 'u' :: a :: b :: c :: d :: rest =>
    if [a, b, c, d].all Text.isHexDigit then
      (textUnits rest).map fun (units, after) =>
        (unitOfCode (Text.hexValue [a, b, c, d]) :: units, after)
    else none
  | '\\' :: letter :: rest =>
    match escaped? letter with
    | some c => (textUnits rest).map fun (units, after) => (.char c :: units, after)
    | none => none
  | c :: rest =>
    if c.toNat < 0x20 ∨ c = '\\' then none
    else (textUnits rest).map fun (units, after) => (.char c :: units, after)

theorem length_textUnits {input rest : List Char} {units : List TextUnit}
    (read : textUnits input = some (units, rest)) : rest.length < input.length := by
  fun_induction textUnits input generalizing units rest with
  | case1 => simp at read
  | case2 =>
    simp only [Option.some.injEq, Prod.mk.injEq] at read
    simp [← read.2]
  | case3 _ _ _ _ _ _ ih =>
    simp only [Option.map_eq_some_iff, Prod.mk.injEq, Prod.exists] at read
    obtain ⟨_, _, inner, _, rfl⟩ := read
    have := ih inner
    simp only [List.length_cons]
    omega
  | case4 => simp at read
  | case5 _ _ _ _ _ ih =>
    simp only [Option.map_eq_some_iff, Prod.mk.injEq, Prod.exists] at read
    obtain ⟨_, _, inner, _, rfl⟩ := read
    have := ih inner
    simp only [List.length_cons]
    omega
  | case6 => simp at read
  | case7 => simp at read
  | case8 _ _ _ _ _ _ ih =>
    simp only [Option.map_eq_some_iff, Prod.mk.injEq, Prod.exists] at read
    obtain ⟨_, _, inner, _, rfl⟩ := read
    have := ih inner
    simp only [List.length_cons]
    omega

def isHighHalf (code : Nat) : Bool := 0xd800 ≤ code && code < 0xdc00

def isLowHalf (code : Nat) : Bool := 0xdc00 ≤ code && code < 0xe000

/-- The characters of a text, its pairs joined; nothing if a half is left alone. -/
def joinPairs : List TextUnit → Option (List Char)
  | [] => some []
  | .char c :: rest => (joinPairs rest).map (c :: ·)
  | .half high :: .half low :: rest =>
    if isHighHalf high && isLowHalf low then
      let code := 0x10000 + (high - 0xd800) * 0x400 + (low - 0xdc00)
      (joinPairs rest).map (Char.ofNat code :: ·)
    else none
  | .half _ :: _ => none

/-- A text after its opening quote, with its value if it has one. -/
def takeText (input : List Char) : Option (Taken (Option String) input) :=
  match read : textUnits input with
  | none => none
  | some (units, rest) => some ⟨(joinPairs units).map String.ofList, rest, length_textUnits read⟩

/-! ### Numerals -/

/-- Digits behind a point, if there is a point; at least one must follow it. -/
def takeFraction (input : List Char) : Option (Option (List Char) × List Char) :=
  match input with
  | '.' :: rest =>
    let digits := rest.takeWhile Char.isDigit
    if digits = [] then none else some (some digits, rest.dropWhile Char.isDigit)
  | _ => some (none, input)

theorem length_takeFraction {input rest : List Char} {digits : Option (List Char)}
    (taken : takeFraction input = some (digits, rest)) : rest.length ≤ input.length := by
  unfold takeFraction at taken
  split at taken
  · next more =>
    have := length_dropWhile_le Char.isDigit more
    dsimp only at taken
    split at taken
    · simp at taken
    · simp only [Option.some.injEq, Prod.mk.injEq] at taken
      rw [← taken.2]
      exact Nat.le_succ_of_le this
  · simp only [Option.some.injEq, Prod.mk.injEq] at taken
    simp [taken.2]

/-- An exponent, if its mark is there; at least one digit must follow the mark and its sign. -/
def takeExponent (input : List Char) : Option (Option (Bool × List Char) × List Char) :=
  match input with
  | [] => some (none, [])
  | mark :: rest =>
    if mark = 'e' ∨ mark = 'E' then
      let (less, unsigned) := FontScores.Numeral.sign rest
      let digits := unsigned.takeWhile Char.isDigit
      if digits = [] then none
      else some (some (less, digits), unsigned.dropWhile Char.isDigit)
    else some (none, input)

theorem length_sign_le (input : List Char) :
    (FontScores.Numeral.sign input).2.length ≤ input.length := by
  unfold FontScores.Numeral.sign
  split <;> simp

theorem length_takeExponent {input rest : List Char} {exponent : Option (Bool × List Char)}
    (taken : takeExponent input = some (exponent, rest)) : rest.length ≤ input.length := by
  unfold takeExponent at taken
  split at taken
  · simp only [Option.some.injEq, Prod.mk.injEq] at taken
    simp [← taken.2]
  · next mark more =>
    have shorter := Nat.le_trans (length_dropWhile_le Char.isDigit
      (FontScores.Numeral.sign more).2) (length_sign_le more)
    split at taken
    · dsimp only at taken
      split at taken
      · simp at taken
      · simp only [Option.some.injEq, Prod.mk.injEq] at taken
        rw [← taken.2]
        exact Nat.le_succ_of_le shorter
    · simp only [Option.some.injEq, Prod.mk.injEq] at taken
      simp [← taken.2]

/-- The digits before the point: a zero alone, or digits that start with no zero. -/
def takeWhole (input : List Char) : Option (Taken (List Char) input) :=
  match input with
  | '0' :: rest =>
    if rest.head?.any Char.isDigit then none else some (.head ['0'])
  | c :: rest =>
    if c.isDigit then
      some ⟨c :: rest.takeWhile Char.isDigit, rest.dropWhile Char.isDigit,
        Nat.lt_succ_of_le (length_dropWhile_le _ _)⟩
    else none
  | [] => none

def takeNumeral (input : List Char) : Option (Taken Numeral input) := do
  let negative := input.head? == some '-'
  let whole ← takeWhole (if negative then input.drop 1 else input)
  match first : takeFraction whole.rest with
  | none => none
  | some (fraction, afterFraction) =>
    match second : takeExponent afterFraction with
    | none => none
    | some (exponent, rest) =>
      return ⟨⟨negative, whole.value, fraction, exponent⟩, rest, by
        have one := whole.shorter
        have two := length_takeFraction first
        have three := length_takeExponent second
        have : (if negative then input.drop 1 else input).length ≤ input.length := by
          split <;> simp
        omega⟩

/-! ### Values -/

/-- A part of a tree, and what follows it in the text unless the text breaks off in it. -/
structure Read (α : Type) (input : List Char) where
  value : α
  rest : Option { rest : List Char // rest.length < input.length }

/-- A value that ends with the text `rest` before it. -/
def Read.upTo {α : Type} {input : List Char} (value : α) (rest : List Char)
    (shorter : rest.length < input.length) : Read α input :=
  ⟨value, some ⟨rest, shorter⟩⟩

/-- A value in which the text breaks off. -/
def Read.cut {α : Type} {input : List Char} (value : α) : Read α input := ⟨value, none⟩

def Read.map {α β : Type} {input : List Char} (f : α → β) (read : Read α input) : Read β input :=
  ⟨f read.value, read.rest⟩

/-- What was read from a shorter text was read from a longer one with the same rest. -/
def Read.widen {α : Type} {input other : List Char} (read : Read α input)
    (fewer : input.length ≤ other.length) : Read α other :=
  ⟨read.value, read.rest.map fun rest => ⟨rest.1, Nat.lt_of_lt_of_le rest.2 fewer⟩⟩

/-- The words that are values. -/
def word? : List Char → Option (Node × List Char)
  | 't' :: 'r' :: 'u' :: 'e' :: rest => some (.bool true, rest)
  | 'f' :: 'a' :: 'l' :: 's' :: 'e' :: rest => some (.bool false, rest)
  | 'n' :: 'u' :: 'l' :: 'l' :: rest => some (.null, rest)
  | _ => none

theorem length_word? {input rest : List Char} {node : Node}
    (read : word? input = some (node, rest)) : rest.length < input.length := by
  unfold word? at read
  split at read <;> simp only [Option.some.injEq, Prod.mk.injEq, reduceCtorEq] at read
  all_goals
    rw [← read.2]
    simp only [List.length_cons]
    omega

/-- A value that holds no other values. -/
def readScalar (input : List Char) : Read Node input :=
  match input with
  | '"' :: rest =>
    match takeText rest with
    | some taken => .upTo (.text taken.value) taken.rest (Nat.lt_succ_of_lt taken.shorter)
    | none => .cut .broken
  | input =>
    match read : word? input with
    | some (node, rest) => .upTo node rest (length_word? read)
    | none =>
      match takeNumeral input with
      | some taken => .upTo (.number taken.value.value?) taken.rest taken.shorter
      | none => .cut .broken

mutual

/-- A value after blanks. -/
def readValue (input : List Char) : Read Node input :=
  have fewer := length_skipBlanks_le input
  match start : skipBlanks input with
  | '[' :: rest =>
    have shorter : rest.length < input.length := by
      rw [start] at fewer
      exact fewer
    match closing : skipBlanks rest with
    | ']' :: after => .upTo (.array []) after (by
        have := length_skipBlanks_le rest
        rw [closing] at this
        simp only [List.length_cons] at this
        omega)
    | _ => ((readItems rest).map .array).widen (Nat.le_of_lt shorter)
  | '\x7b' :: rest =>
    have shorter : rest.length < input.length := by
      rw [start] at fewer
      exact fewer
    match closing : skipBlanks rest with
    | '\x7d' :: after => .upTo (.object []) after (by
        have := length_skipBlanks_le rest
        rw [closing] at this
        simp only [List.length_cons] at this
        omega)
    | _ => ((readMembers rest).map .object).widen (Nat.le_of_lt shorter)
  | scalar => (readScalar scalar).widen (start ▸ fewer)
termination_by (input.length, 0)

/-- The items of an array from one of them on. -/
def readItems (input : List Char) : Read (List Node) input :=
  let first := readValue input
  match first.rest with
  | none => .cut [first.value]
  | some ⟨rest, shorter⟩ =>
    have fewer := length_skipBlanks_le rest
    match next : skipBlanks rest with
    | ']' :: after => .upTo [first.value] after (by
        rw [next] at fewer
        simp only [List.length_cons] at fewer
        omega)
    | ',' :: after =>
      have : after.length < input.length := by
        rw [next] at fewer
        simp only [List.length_cons] at fewer
        omega
      ((readItems after).map (first.value :: ·)).widen (Nat.le_of_lt this)
    | _ => .cut [first.value, .broken]
termination_by (input.length, 1)

/-- The members of an object from one of them on. -/
def readMembers (input : List Char) : Read (List (Option String × Node)) input :=
  have fewer := length_skipBlanks_le input
  match start : skipBlanks input with
  | '"' :: quoted =>
    match takeText quoted with
    | none => .cut [(none, .broken)]
    | some key =>
      have keyFewer := length_skipBlanks_le key.rest
      match colon : skipBlanks key.rest with
      | ':' :: rest =>
        have beforeValue : rest.length < input.length := by
          have := key.shorter
          rw [colon] at keyFewer
          rw [start] at fewer
          simp only [List.length_cons] at keyFewer fewer
          omega
        let value := readValue rest
        let member := (key.value, value.value)
        match value.rest with
        | none => .cut [member]
        | some ⟨rest, shorter⟩ =>
          have restFewer := length_skipBlanks_le rest
          match next : skipBlanks rest with
          | '\x7d' :: after => .upTo [member] after (by
              rw [next] at restFewer
              simp only [List.length_cons] at restFewer
              omega)
          | ',' :: after =>
            have : after.length < input.length := by
              rw [next] at restFewer
              simp only [List.length_cons] at restFewer
              omega
            ((readMembers after).map (member :: ·)).widen (Nat.le_of_lt this)
          | _ => .cut [member, (none, .broken)]
      | _ => .cut [(key.value, .broken)]
  | _ => .cut [(none, .broken)]
termination_by (input.length, 1)

end

def Document.ofText (text : String) : Document :=
  let read := readValue text.toList
  ⟨read.value, read.rest.any fun rest => skipBlanks rest.1 ≠ []⟩

end FontScores.Json
