import Mathlib
import FontScores.Proofs.Number.WrittenNumber
import FontScores.Proofs.Rule.Layout

/-!
# A text is cut into the tokens that it spells

The scanner takes a spelled token off a text, whatever stands behind it, unless that goes on with a
character which the scanner would take as well.  Blanks never do.  Of two tokens next to each other,
only few can: a name or a number before another one, and a sign that an equals sign makes longer
before one that starts with it.
-/

namespace FontScores.Rule

/-! ## Characters -/

/-- The code points of the blank characters. -/
def blankCodes : List Nat :=
  [0x09, 0x0a, 0x0b, 0x0c, 0x0d, 0x20, 0x85, 0xa0, 0x1680, 0x2000, 0x2001, 0x2002, 0x2003, 0x2004,
    0x2005, 0x2006, 0x2007, 0x2008, 0x2009, 0x200a, 0x2028, 0x2029, 0x202f, 0x205f, 0x3000]

theorem mem_blankCodes {c : Char} (blank : Text.isBlank c = true) : c.toNat ∈ blankCodes := by
  simp only [Text.isBlank, Bool.or_eq_true, Bool.and_eq_true, decide_eq_true_eq,
    beq_iff_eq] at blank
  simp only [blankCodes, List.mem_cons, List.not_mem_nil, or_false]
  omega

theorem isNameChar_of_isBlank {c : Char} (blank : Text.isBlank c = true) :
    isNameChar c = false := by
  -- The tables are long, but only the blank code points are looked up in them.
  have none : ∀ code ∈ blankCodes, Unicode.letters.contains code = false ∧
      Unicode.numerals.contains code = false ∧ code ≠ '_'.toNat := by
    decide +kernel
  obtain ⟨letter, numeral, mark⟩ := none _ (mem_blankCodes blank)
  have other : c ≠ '_' := by
    rintro rfl
    exact mark rfl
  simp [isNameChar, Unicode.isLetter, Unicode.isNumeral, letter, numeral, other]

theorem isBlank_of_isDigit {c : Char} (digit : c.isDigit = true) : Text.isBlank c = false := by
  rw [Char.isDigit_iff_toNat] at digit
  have zero : '0'.toNat = 48 := rfl
  have nine : '9'.toNat = 57 := rfl
  rw [← Bool.not_eq_true]
  intro blank
  have listed := mem_blankCodes blank
  simp only [blankCodes, List.mem_cons, List.not_mem_nil, or_false] at listed
  omega

/-- The characters that some tokens start with and no name or number does. -/
def marks : List Char := ['(', ')', '[', ']', ',', '!', '=', '<', '>', '&', '|', '"', '\x27']

/-- The point and the signs, with which a number can start. -/
def numberSigns : List Char := ['.', '-', '+']

theorem isNameChar_of_isNameStart {c : Char} (start : isNameStart c = true) :
    isNameChar c = true := by
  rw [isNameStart, Bool.or_eq_true] at start
  rcases start with letter | mark
  · simp [isNameChar, letter]
  · simp [isNameChar, mark]

theorem isBlank_of_isNameStart {c : Char} (start : isNameStart c = true) :
    Text.isBlank c = false := by
  rw [← Bool.not_eq_true]
  intro blank
  have none := isNameChar_of_isBlank blank
  rw [isNameChar_of_isNameStart start] at none
  contradiction

/-- A name starts with no character that another token starts with. -/
theorem not_mem_of_isNameStart {c : Char} (start : isNameStart c = true) :
    c ∉ marks ∧ c ∉ numberSigns ∧ c.isDigit = false := by
  have none : ∀ code ∈ List.range 64 ++ [0x5b, 0x5d, 0x7c],
      Unicode.letters.contains code = false ∧ code ≠ '_'.toNat := by
    decide +kernel
  have outside : ¬(c.toNat < 64 ∨ c.toNat ∈ [0x5b, 0x5d, 0x7c]) := by
    intro member
    obtain ⟨letter, mark⟩ := none c.toNat (by rwa [List.mem_append, List.mem_range])
    have other : c ≠ '_' := by
      rintro rfl
      exact mark rfl
    simp [isNameStart, Unicode.isLetter, letter, other] at start
  refine ⟨fun member => outside ?_, fun member => outside ?_, ?_⟩
  · have low : ∀ mark ∈ marks, mark.toNat < 64 ∨ mark.toNat ∈ [0x5b, 0x5d, 0x7c] := by
      simp [marks]
    exact low c member
  · have low : ∀ sign ∈ numberSigns, sign.toNat < 64 := by simp [numberSigns]
    exact .inl (low c member)
  · rw [← Bool.not_eq_true]
    intro digit
    rw [Char.isDigit_iff_toNat] at digit
    have nine : '9'.toNat = 57 := rfl
    omega

theorem not_mem_marks_of_isDigit {c : Char} (digit : c.isDigit = true) : c ∉ marks := by
  intro member
  have none : ∀ mark ∈ marks, mark.isDigit = false := by simp [marks]
  rw [none c member] at digit
  contradiction

/-! ## One token -/

/-- The scanner takes the token off the text and leaves the rest. -/
def Scans (text : List Char) (token : Token) (rest : List Char) : Prop :=
  ∃ c tail, text = c :: tail ∧ Text.isBlank c = false ∧
    ∃ scanned, scan c tail = .ok scanned ∧ scanned.token = token ∧ scanned.rest = rest

/-- Whether the scanner would take this character too, if it stood behind the token. -/
def Token.goesOn : Token → Char → Bool
  | .name _, c => isNameChar c
  | .number _, c => isNumberChar c
  | .bang, c | .comparison .less, c | .comparison .greater, c => c == '='
  | _, _ => false

theorem scan_of_not_mem_marks {c : Char} (other : c ∉ marks) (rest : List Char) :
    scan c rest =
      if startsNumber (c :: rest) then scanNumber c rest
      else if isNameStart c then scanName c rest
      else .error (.unexpectedCharacter c) := by
  unfold scan
  split <;> simp_all [marks]

theorem takeWhile_run {p : Char → Bool} {run rest : List Char} (inside : ∀ c ∈ run, p c = true)
    (outside : ∀ c ∈ rest.head?, p c = false) : (run ++ rest).takeWhile p = run := by
  rw [List.takeWhile_append_of_pos inside]
  cases rest with
  | nil => simp
  | cons c rest => simp [outside c rfl]

theorem dropWhile_run {p : Char → Bool} {run rest : List Char} (inside : ∀ c ∈ run, p c = true)
    (outside : ∀ c ∈ rest.head?, p c = false) : (run ++ rest).dropWhile p = rest := by
  rw [List.dropWhile_append_of_pos inside]
  cases rest with
  | nil => rfl
  | cons c rest => simp [outside c rfl]

/-! ### Marks -/

theorem scans_mark {token : Token} {written rest : List Char} (fixed : token.mark? = some written)
    (outside : ∀ c ∈ rest.head?, token.goesOn c = false) : Scans (written ++ rest) token rest := by
  -- What stands behind matters only to a mark that an equals sign would make longer.
  cases token with
  | openParen | closeParen | openBracket | closeBracket | comma | and | or | resembles =>
    cases fixed
    exact ⟨_, _, rfl, by decide, _, rfl, rfl, rfl⟩
  | bang =>
    cases fixed
    refine ⟨'!', rest, rfl, by decide, ?_⟩
    rw [scan]
    · exact ⟨_, rfl, rfl, rfl⟩
    · rintro after rfl
      simp [Token.goesOn] at outside
  | comparison comparison =>
    cases comparison with
    | atLeast | atMost | equal | unequal =>
      cases fixed
      exact ⟨_, _, rfl, by decide, _, rfl, rfl, rfl⟩
    | greater =>
      cases fixed
      refine ⟨'>', rest, rfl, by decide, ?_⟩
      rw [scan]
      · exact ⟨_, rfl, rfl, rfl⟩
      · rintro after rfl
        simp [Token.goesOn] at outside
    | less =>
      cases fixed
      refine ⟨'<', rest, rfl, by decide, ?_⟩
      rw [scan]
      · exact ⟨_, rfl, rfl, rfl⟩
      · rintro after rfl
        simp [Token.goesOn] at outside
  | name | text | number => cases fixed

/-! ### Texts -/

theorem closeText_escaped {quote : Char} (quotes : quote ≠ '\\') {value written : List Char}
    (content : Escaped quote value written) (rest : List Char) :
    closeText quote (written ++ quote :: rest) = some (value, written ++ [quote], rest) := by
  induction content with
  | nil =>
    rw [closeText.eq_def]
    simp
  | plain other visible _ ih =>
    rw [List.cons_append, closeText.eq_def]
    simp [other, visible, ih]
  | escaped c _ ih =>
    rw [List.cons_append, List.cons_append, closeText.eq_def]
    simp [quotes.symm, ih]

theorem scanText_of_closeText {quote : Char} {input value source rest : List Char}
    (closed : closeText quote input = some (value, source, rest)) :
    ∃ scanned, scanText quote input = .ok scanned ∧
      scanned.token = .text (String.ofList value) ∧ scanned.rest = rest := by
  unfold scanText
  split
  next failed =>
    rw [closed] at failed
    contradiction
  next found =>
    rw [closed] at found
    cases found
    exact ⟨_, rfl, rfl, rfl⟩

theorem scans_text {quote : Char} (quotes : quote = '"' ∨ quote = '\x27')
    {value written : List Char} (content : Escaped quote value written) (rest : List Char) :
    Scans (quote :: written ++ [quote] ++ rest) (.text (String.ofList value)) rest := by
  have visible : quote ≠ '\\' := by rcases quotes with rfl | rfl <;> decide
  have reads := scanText_of_closeText (closeText_escaped visible content rest)
  have same : quote :: written ++ [quote] ++ rest = quote :: (written ++ quote :: rest) := by simp
  rw [same]
  refine ⟨quote, written ++ quote :: rest, rfl, ?_, ?_⟩
  · rcases quotes with rfl | rfl <;> decide
  · rcases quotes with rfl | rfl
    · exact reads
    · exact reads

/-! ### Names -/

theorem scans_name {c : Char} {run rest : List Char} (start : isNameStart c = true)
    (inside : ∀ d ∈ run, isNameChar d = true) (outside : ∀ d ∈ rest.head?, isNameChar d = false) :
    Scans (c :: run ++ rest) (.name (String.ofList (c :: run))) rest := by
  obtain ⟨other, unsigned, letter⟩ := not_mem_of_isNameStart start
  -- No name is mistaken for a number, whatever stands behind it.
  have noNumber : startsNumber (c :: (run ++ rest)) = false := by
    simp only [numberSigns, List.mem_cons, List.not_mem_nil, or_false, not_or] at unsigned
    cases run ++ rest <;> simp [startsNumber, letter, unsigned]
  refine ⟨c, run ++ rest, rfl, isBlank_of_isNameStart start, ?_⟩
  rw [scan_of_not_mem_marks other, noNumber, if_neg Bool.false_ne_true, if_pos start]
  refine ⟨_, rfl, ?_, dropWhile_run inside outside⟩
  simp only [takeWhile_run inside outside]

/-- The words of rules are names. -/
theorem keyword_shape {word : String} (known : word ∈ keywords) :
    ∃ c run, word = String.ofList (c :: run) ∧ isNameStart c = true ∧
      run.all isNameChar = true := by
  simp only [keywords, List.mem_cons, List.not_mem_nil, or_false] at known
  rcases known with rfl | rfl | rfl | rfl | rfl
  all_goals exact ⟨_, _, rfl, by decide, by decide⟩

theorem scans_word {word : String} (known : word ∈ keywords) {rest : List Char}
    (outside : ∀ c ∈ rest.head?, isNameChar c = false) :
    Scans (word.toList ++ rest) (.name word) rest := by
  obtain ⟨c, run, rfl, start, inside⟩ := keyword_shape known
  rw [String.toList_ofList]
  exact scans_name start (List.all_eq_true.mp inside) outside

/-! ### Numbers -/

theorem isNumberChar_iff {c : Char} : isNumberChar c = true ↔ c.isDigit = true ∨ c = '.' := by
  simp [isNumberChar]

/-- A numeral that can be read starts in a way by which the scanner knows a number. -/
theorem startsNumber_of_read {signs body : List Char} {value : Single}
    (signed : signs ∈ [[], ['-'], ['+']]) (plain : ∀ c ∈ body, c.isDigit = true ∨ c = '.')
    (read : Numeral.read .single (signs ++ body) = .ok value) (rest : List Char) :
    startsNumber (signs ++ body ++ rest) = true := by
  obtain ⟨c, tail, front, digit⟩ := Numeral.front_of_read signed plain read
  simp only [List.mem_cons, List.not_mem_nil, or_false] at signed
  -- A digit or a point before one, with each of the signs: the scanner tests for all of these.
  rcases signed with rfl | rfl | rfl <;> rcases front with rfl | rfl <;> simp [startsNumber, digit]

/-- What a numeral is made of: it starts with no mark, and goes on with digits and points. -/
theorem numeral_shape {signs body : List Char} {value : Single}
    (signed : signs ∈ [[], ['-'], ['+']]) (plain : ∀ c ∈ body, c.isDigit = true ∨ c = '.')
    (read : Numeral.read .single (signs ++ body) = .ok value) :
    ∃ c run, signs ++ body = c :: run ∧ c ∉ marks ∧ Text.isBlank c = false ∧
      ∀ d ∈ run, isNumberChar d = true := by
  have inside : ∀ d ∈ body, isNumberChar d = true :=
    fun d member => isNumberChar_iff.mpr (plain d member)
  simp only [List.mem_cons, List.not_mem_nil, or_false] at signed
  rcases signed with rfl | rfl | rfl
  · cases body with
    | nil => simp [Numeral.read] at read
    | cons c run =>
      refine ⟨c, run, rfl, ?_, ?_, fun d member => inside d (List.mem_cons_of_mem c member)⟩
      · rcases plain c (List.mem_cons_self ..) with digit | rfl
        · exact not_mem_marks_of_isDigit digit
        · simp [marks]
      · rcases plain c (List.mem_cons_self ..) with digit | rfl
        · exact isBlank_of_isDigit digit
        · decide
  · exact ⟨'-', body, rfl, by simp [marks], by decide, inside⟩
  · exact ⟨'+', body, rfl, by simp [marks], by decide, inside⟩

theorem scanNumber_of_read {c : Char} {run rest : List Char} {value : Single}
    (inside : ∀ d ∈ run, isNumberChar d = true) (outside : ∀ d ∈ rest.head?, isNumberChar d = false)
    (read : Numeral.read .single (c :: run) = .ok value) :
    ∃ scanned, scanNumber c (run ++ rest) = .ok scanned ∧ scanned.token = .number value ∧
      scanned.rest = rest := by
  have taken := takeWhile_run inside outside
  have left := dropWhile_run inside outside
  unfold scanNumber
  simp only [taken, left, read]
  exact ⟨_, rfl, rfl, rfl⟩

theorem scans_number {signs body rest : List Char} {value : Single}
    (signed : signs ∈ [[], ['-'], ['+']]) (plain : ∀ c ∈ body, c.isDigit = true ∨ c = '.')
    (read : Numeral.read .single (signs ++ body) = .ok value)
    (outside : ∀ c ∈ rest.head?, isNumberChar c = false) :
    Scans (signs ++ body ++ rest) (.number value) rest := by
  have starts := startsNumber_of_read signed plain read rest
  obtain ⟨c, run, shape, other, visible, inside⟩ := numeral_shape signed plain read
  rw [shape, List.cons_append] at starts
  rw [shape] at read ⊢
  refine ⟨c, run ++ rest, rfl, visible, ?_⟩
  rw [scan_of_not_mem_marks other, if_pos starts]
  exact scanNumber_of_read inside outside read

/-! ### All tokens -/

theorem scans_spelling {token : Token} {written rest : List Char}
    (spelling : Spelling token written)
    (outside : ∀ c ∈ rest.head?, token.goesOn c = false) : Scans (written ++ rest) token rest := by
  cases spelling with
  | mark fixed => exact scans_mark fixed outside
  | word known => exact scans_word known outside
  | text quotes content => exact scans_text quotes content rest
  | number signs digits read => exact scans_number signs digits read outside

/-! ## Rows of tokens -/

/-- Wherever it starts, the text is cut into these tokens. -/
def Lexes (text : List Char) (tokens : List Token) : Prop :=
  ∀ offset, ∃ lexed, lexemes offset text = .ok lexed ∧ lexed.map Lexeme.token = tokens

theorem lexes_nil : Lexes [] [] := by
  intro offset
  exact ⟨[], by rw [lexemes], rfl⟩

theorem Lexes.blanks {blanks text : List Char} {tokens : List Token} (lexes : Lexes text tokens)
    (blank : ∀ c ∈ blanks, Text.isBlank c = true) : Lexes (blanks ++ text) tokens := by
  -- The tokens start later by as much as the blanks are wide.
  induction blanks with
  | nil => exact lexes
  | cons c blanks ih =>
    intro offset
    obtain ⟨lexed, cut, same⟩ :=
      ih (fun d member => blank d (List.mem_cons_of_mem c member)) (offset + c.utf8Size)
    refine ⟨lexed, ?_, same⟩
    rw [List.cons_append, lexemes, if_pos (blank c (List.mem_cons_self ..))]
    exact cut

theorem Lexes.token {text rest : List Char} {token : Token} {tokens : List Token}
    (lexes : Lexes rest tokens) (scans : Scans text token rest) : Lexes text (token :: tokens) := by
  intro offset
  obtain ⟨c, tail, rfl, visible, scanned, taken, rfl, rfl⟩ := scans
  -- The offsets are of no concern here, but the rest is cut at the one where it starts.
  obtain ⟨lexed, cut, rfl⟩ := lexes (offset + width scanned.source)
  refine ⟨⟨scanned.token, offset⟩ :: lexed, ?_, rfl⟩
  rw [lexemes, visible, if_neg Bool.false_ne_true]
  simp only [taken, cut]

/-! ## What can stand next to what -/

/-- Names and numbers, which go on as long as their characters do. -/
def Token.isRun : Token → Bool
  | .name _ | .number _ => true
  | _ => false

/-- Marks that an equals sign behind them would make another mark. -/
def Token.takesEquals : Token → Bool
  | .bang | .comparison .less | .comparison .greater => true
  | _ => false

/-- Marks that start with an equals sign. -/
def Token.startsEquals : Token → Bool
  | .comparison .equal | .resembles => true
  | _ => false

/-- Whether the two tokens need a blank between them. -/
def Token.sticksTo (first next : Token) : Bool :=
  first.isRun && next.isRun || first.takesEquals && next.startsEquals

/-- What a spelled token starts with. -/
theorem Spelling.front {token : Token} {written : List Char} (spelling : Spelling token written) :
    ∃ c tail, written = c :: tail ∧
      (token.isRun = false → isNameChar c = false ∧ isNumberChar c = false) ∧
      (token.startsEquals = false → c ≠ '=') := by
  cases spelling with
  | mark fixed =>
    cases token with
    | comparison comparison =>
      cases comparison <;> cases fixed <;> exact ⟨_, _, rfl, by decide, by decide⟩
    | name | text | number => cases fixed
    | _ => cases fixed; exact ⟨_, _, rfl, by decide, by decide⟩
  | word known =>
    obtain ⟨c, run, rfl, start, _⟩ := keyword_shape known
    refine ⟨c, run, String.toList_ofList, by simp [Token.isRun], ?_⟩
    rintro - rfl
    exact (not_mem_of_isNameStart start).1 (by decide)
  | text quotes content =>
    refine ⟨_, _, rfl, fun _ => ?_, fun _ => ?_⟩
    · rcases quotes with rfl | rfl <;> decide
    · rcases quotes with rfl | rfl <;> decide
  | number signs digits read =>
    obtain ⟨c, run, written, other, _⟩ := numeral_shape signs digits read
    refine ⟨c, run, written, by simp [Token.isRun], ?_⟩
    rintro - rfl
    exact other (by decide)

/-- A token that does not stick to the next one is over where that one starts. -/
theorem goesOn_of_apart {first next : Token} {written : List Char}
    (spelling : Spelling next written) (apart : first.sticksTo next = false) (rest : List Char) :
    ∀ c ∈ (written ++ rest).head?, first.goesOn c = false := by
  obtain ⟨front, tail, rfl, run, equals⟩ := spelling.front
  rintro c ⟨⟩
  simp only [Token.sticksTo, Bool.or_eq_false_iff, Bool.and_eq_false_iff] at apart
  -- A name or number could only go on into another one, a mark only into an equals sign.
  obtain ⟨runs, marks⟩ := apart
  cases first with
  | name => exact (run (runs.resolve_left nofun)).1
  | number => exact (run (runs.resolve_left nofun)).2
  | bang => simpa [Token.goesOn] using equals (marks.resolve_left nofun)
  | comparison comparison =>
    cases comparison with
    | less | greater => simpa [Token.goesOn] using equals (marks.resolve_left nofun)
    | _ => rfl
  | _ => rfl

/-- A token is over at whatever can be a part of no name, no number and no longer mark. -/
theorem goesOn_eq_false (token : Token) {c : Char} (name : isNameChar c = false)
    (number : isNumberChar c = false) (other : c ≠ '=') : token.goesOn c = false := by
  have equals : (c == '=') = false := beq_eq_false_iff_ne.mpr other
  cases token with
  | name => exact name
  | number => exact number
  | bang => exact equals
  | comparison comparison => cases comparison <;> first | rfl | exact equals
  | _ => rfl

theorem goesOn_of_isBlank (token : Token) {c : Char} (blank : Text.isBlank c = true) :
    token.goesOn c = false := by
  apply goesOn_eq_false token (isNameChar_of_isBlank blank)
  · rw [← Bool.not_eq_true, isNumberChar_iff]
    rintro (digit | rfl)
    · rw [isBlank_of_isDigit digit] at blank
      contradiction
    · contradiction
  · rintro rfl
    contradiction

/-- Two tokens next to each other that need a blank between them are `family` and `in`. -/
def Apart (first next : Token) : Prop :=
  first.sticksTo next = true → first = .name "family" ∧ next = .name "in"

/-- Laid out, tokens are cut out of the text again. -/
theorem lexes_of_layout {tokens : List Token} {text : List Char} (layout : Layout tokens text)
    (apart : tokens.IsChain Apart) : Lexes text tokens := by
  induction layout with
  | done blank => simpa using lexes_nil.blanks blank
  | @token token tokens blanks written text blank spelling gap following ih =>
    rw [List.append_assoc]
    apply Lexes.blanks _ blank
    apply Lexes.token (ih apart.tail)
    apply scans_spelling spelling
    -- The text goes on with a blank, or with the next token, or is over.
    cases following with
    | done blank =>
      intro c member
      exact goesOn_of_isBlank token (blank c (List.mem_of_head? member))
    | @token next tokens blanks written text blank spelling _ _ =>
      cases blanks with
      | cons c blanks =>
        rintro d ⟨⟩
        exact goesOn_of_isBlank token (blank c (List.mem_cons_self ..))
      | nil =>
        cases sticks : token.sticksTo next with
        | false => simpa using goesOn_of_apart spelling sticks text
        | true =>
          obtain ⟨rfl, rfl⟩ := apart.rel sticks
          obtain ⟨c, first, blank⟩ := gap rfl rfl
          rintro d member
          cases first.symm.trans member
          exact goesOn_of_isBlank _ blank

end FontScores.Rule
