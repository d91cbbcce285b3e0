import Mathlib
import FontScores.Proofs.Rule.Lexing

/-!
# How a text is cut

`Cut` says what a row of lexemes has to do with the text that it was cut from, without scanning:
blanks are skipped, every token stands where it starts, and it is over only where no character
follows that would belong to it.  A text has one such row at most, and it is the one that the
scanner finds.

So a text that is cut can be taken apart before any of its lexemes, and two texts can be put
together where the second starts with a mark.
-/

namespace FontScores.Rule

/-! ## One token -/

/-- How a token can be written: as rules spell it, or as any other name. -/
inductive Lexical : Token → List Char → Prop
  | spelled {token : Token} {written : List Char} (spelling : Spelling token written) :
      Lexical token written
  | name {c : Char} {run : List Char} (start : isNameStart c = true)
      (inside : ∀ d ∈ run, isNameChar d = true) :
      Lexical (.name (String.ofList (c :: run))) (c :: run)

theorem scans_lexical {token : Token} {written rest : List Char} (lexical : Lexical token written)
    (outside : ∀ c ∈ rest.head?, token.goesOn c = false) : Scans (written ++ rest) token rest := by
  cases lexical with
  | spelled spelling => exact scans_spelling spelling outside
  | name start inside => exact scans_name start inside outside

theorem escaped_of_closeText {quote : Char} {input value source rest : List Char}
    (closed : closeText quote input = some (value, source, rest)) :
    ∃ written, source = written ++ [quote] ∧ Escaped quote value written := by
  fun_induction closeText quote input generalizing value source rest with
  | case1 => cases closed
  | case2 =>
    cases closed
    exact ⟨[], rfl, .nil⟩
  | case3 => cases closed
  | case4 escaped _ _ ih =>
    simp only [Option.map_eq_some_iff, Prod.mk.injEq, Prod.exists] at closed
    obtain ⟨_, _, _, inner, rfl, rfl, rfl⟩ := closed
    obtain ⟨written, rfl, content⟩ := ih inner
    exact ⟨'\\' :: escaped :: written, rfl, .escaped escaped content⟩
  | case5 c rest other visible ih =>
    simp only [Option.map_eq_some_iff, Prod.mk.injEq, Prod.exists] at closed
    obtain ⟨_, _, _, inner, rfl, rfl, rfl⟩ := closed
    obtain ⟨written, rfl, content⟩ := ih inner
    exact ⟨c :: written, rfl, .plain other visible content⟩

/-- What the scanner asks of a number shows where its sign ends. -/
theorem spelling_of_startsNumber {c : Char} {run rest : List Char} {value : Single}
    (starts : startsNumber (c :: rest) = true) (inside : ∀ d ∈ run, isNumberChar d = true)
    (read : Numeral.read .single (c :: run) = .ok value) : Spelling (.number value) (c :: run) := by
  have plain : ∀ d ∈ run, d.isDigit = true ∨ d = '.' :=
    fun d member => isNumberChar_iff.mp (inside d member)
  have signed : c.isDigit = true ∨ c = '.' ∨ c = '-' ∨ c = '+' := by
    simp only [startsNumber, Bool.or_eq_true] at starts
    rcases starts with digit | sign
    · exact .inl digit
    · cases rest with
      | nil => simp at sign
      | cons next rest =>
        simp only [Bool.and_eq_true, Bool.or_eq_true, beq_iff_eq] at sign
        tauto
  rcases signed with digit | rfl | rfl | rfl
  · exact @Spelling.number _ [] _ (by simp) (by simpa [digit] using plain) read
  · exact @Spelling.number _ [] _ (by simp) (by simpa using plain) read
  · exact @Spelling.number _ ['-'] _ (by simp) plain read
  · exact @Spelling.number _ ['+'] _ (by simp) plain read

/-- The token that was scanned is one that can be written like this, and it is over where the rest
begins. -/
def Scanned.Exact {input : List Char} (scanned : Scanned input) : Prop :=
  Lexical scanned.token scanned.source ∧
    ∀ c ∈ scanned.rest.head?, scanned.token.goesOn c = false

section Scanners

variable {c : Char} {rest : List Char} {token : Token}

theorem exact_scanOne {scanned : Scanned (c :: rest)} (taken : scanOne c rest token = .ok scanned)
    (fixed : token.mark? = some [c]) (outside : ∀ d ∈ rest.head?, token.goesOn d = false) :
    scanned.Exact := by
  cases taken
  exact ⟨.spelled (.mark fixed), outside⟩

theorem exact_scanTwo {next : Char} {scanned : Scanned (c :: next :: rest)}
    (taken : scanTwo c next rest token = .ok scanned) (fixed : token.mark? = some [c, next])
    (outside : ∀ d ∈ rest.head?, token.goesOn d = false) : scanned.Exact := by
  cases taken
  exact ⟨.spelled (.mark fixed), outside⟩

theorem exact_scanText {scanned : Scanned (c :: rest)} (taken : scanText c rest = .ok scanned)
    (quotes : c = '"' ∨ c = '\x27') : scanned.Exact := by
  unfold scanText at taken
  split at taken
  · cases taken
  next value source after closed =>
    cases taken
    obtain ⟨written, rfl, content⟩ := escaped_of_closeText closed
    exact ⟨.spelled (.text quotes content), fun _ _ => rfl⟩

theorem outside_dropWhile (p : Char → Bool) (input : List Char) :
    ∀ d ∈ (input.dropWhile p).head?, p d = false := by
  intro d member
  have first := List.head?_dropWhile_not p input
  rw [Option.mem_def.mp member] at first
  simpa using first

theorem exact_scanNumber {scanned : Scanned (c :: rest)} (taken : scanNumber c rest = .ok scanned)
    (starts : startsNumber (c :: rest) = true) : scanned.Exact := by
  unfold scanNumber at taken
  dsimp only at taken
  split at taken
  next value read =>
    cases taken
    refine ⟨.spelled (spelling_of_startsNumber starts ?_ read), ?_⟩
    · exact fun d member => List.mem_takeWhile_imp member
    · exact outside_dropWhile _ _
  · cases taken

theorem exact_scanName {scanned : Scanned (c :: rest)} (taken : scanName c rest = .ok scanned)
    (start : isNameStart c = true) : scanned.Exact := by
  cases taken
  refine ⟨.name start ?_, ?_⟩
  · exact fun d member => List.mem_takeWhile_imp member
  · exact outside_dropWhile _ _

/-- No equals sign follows, so a mark that it would make longer is over. -/
theorem head?_ne_equals (short : ∀ after, rest = '=' :: after → False) :
    ∀ d ∈ rest.head?, (d == '=') = false := by
  intro d member
  rw [beq_eq_false_iff_ne]
  rintro rfl
  obtain ⟨after, rfl⟩ := List.head?_eq_some_iff.mp member
  exact short after rfl

theorem exact_scan {scanned : Scanned (c :: rest)} (taken : scan c rest = .ok scanned) :
    scanned.Exact := by
  unfold scan at taken
  -- One case for each mark, those of two characters before those of one; then quotes, numbers and
  -- names.
  split at taken
  · exact exact_scanOne taken rfl fun _ _ => rfl
  · exact exact_scanOne taken rfl fun _ _ => rfl
  · exact exact_scanOne taken rfl fun _ _ => rfl
  · exact exact_scanOne taken rfl fun _ _ => rfl
  · exact exact_scanOne taken rfl fun _ _ => rfl
  · exact exact_scanTwo taken rfl fun _ _ => rfl
  next short => exact exact_scanOne taken rfl (head?_ne_equals short)
  · exact exact_scanTwo taken rfl fun _ _ => rfl
  · exact exact_scanTwo taken rfl fun _ _ => rfl
  · cases taken
  · exact exact_scanTwo taken rfl fun _ _ => rfl
  next short => exact exact_scanOne taken rfl (head?_ne_equals short)
  · exact exact_scanTwo taken rfl fun _ _ => rfl
  next short => exact exact_scanOne taken rfl (head?_ne_equals short)
  · exact exact_scanTwo taken rfl fun _ _ => rfl
  · cases taken
  · exact exact_scanTwo taken rfl fun _ _ => rfl
  · cases taken
  · exact exact_scanText taken (.inl rfl)
  · exact exact_scanText taken (.inr rfl)
  · split at taken
    next starts => exact exact_scanNumber taken starts
    · split at taken
      next start => exact exact_scanName taken start
      · cases taken

end Scanners

/-! ## Whole texts -/

@[simp]
theorem width_append (front back : List Char) :
    width (front ++ back) = width front + width back := by
  induction front with
  | nil => simp [width]
  | cons c front ih => simp [width, ih, Nat.add_assoc]

/-- The text starts at this offset and is cut into these lexemes. -/
inductive Cut : Nat → List Char → List Lexeme → Prop
  | done {offset : Nat} : Cut offset [] []
  | blank {offset : Nat} {c : Char} {text : List Char} {lexed : List Lexeme}
      (blank : Text.isBlank c = true) (following : Cut (offset + c.utf8Size) text lexed) :
      Cut offset (c :: text) lexed
  | token {offset : Nat} {token : Token} {written text : List Char} {lexed : List Lexeme}
      (lexical : Lexical token written) (outside : ∀ c ∈ text.head?, token.goesOn c = false)
      (following : Cut (offset + width written) text lexed) :
      Cut offset (written ++ text) (⟨token, offset⟩ :: lexed)

section Texts

variable {offset : Nat} {text front back : List Char} {lexed before after : List Lexeme}

theorem cut_of_lexemes (lexes : lexemes offset text = .ok lexed) : Cut offset text lexed := by
  fun_induction lexemes offset text generalizing lexed with
  | case1 =>
    cases lexes
    exact .done
  | case2 offset c rest blank ih => exact .blank blank (ih lexes)
  | case3 => cases lexes
  | case4 => cases lexes
  | case5 offset c rest visible scanned taken _ others following ih =>
    cases lexes
    obtain ⟨lexical, outside⟩ := exact_scan taken
    have whole := Cut.token lexical outside (ih following)
    rwa [scanned.complete] at whole

theorem lexemes_of_cut (cut : Cut offset text lexed) : lexemes offset text = .ok lexed := by
  induction cut with
  | done => rw [lexemes]
  | blank blank _ ih => rw [lexemes, if_pos blank, ih]
  | @token offset token written text lexed lexical outside _ ih =>
    obtain ⟨c, tail, split, visible, scanned, taken, rfl, rfl⟩ := scans_lexical lexical outside
    -- The scanner took what the token is written with, since it left the same rest.
    obtain rfl : scanned.source = written :=
      List.append_cancel_right (scanned.complete.trans split.symm)
    rw [split, lexemes, visible, if_neg Bool.false_ne_true]
    simp only [taken, ih]

/-- The scanner finds the one way to cut a text. -/
theorem lexemes_eq_ok_iff : lexemes offset text = .ok lexed ↔ Cut offset text lexed :=
  ⟨cut_of_lexemes, lexemes_of_cut⟩

/-! ### Putting texts together -/

/-- A text may go on behind a token with anything by which the token does not get longer. -/
theorem Cut.append (cut : Cut offset front before)
    (outside : ∀ token : Token, ∀ c ∈ back.head?, token.goesOn c = false)
    (following : Cut (offset + width front) back after) :
    Cut offset (front ++ back) (before ++ after) := by
  induction cut with
  | done => simpa [width] using following
  | blank blank _ ih =>
    apply Cut.blank blank
    apply ih
    rwa [Nat.add_assoc]
  | @token offset token written text lexed lexical closed _ ih =>
    rw [List.append_assoc]
    apply Cut.token lexical
    · -- What follows the token is the rest of the first text, or the second one if that is over.
      cases text with
      | nil => exact outside token
      | cons c text => exact closed
    · apply ih
      rwa [Nat.add_assoc, ← width_append]

/-- Wherever it starts, the text is cut into the same tokens. -/
theorem Cut.lexes (cut : Cut offset text lexed) : Lexes text (lexed.map Lexeme.token) := by
  induction cut with
  | done => exact lexes_nil
  | @blank _ c _ _ blank _ ih =>
    have blanks : ∀ d ∈ [c], Text.isBlank d = true := by simpa using blank
    exact ih.blanks blanks
  | token lexical outside _ ih => exact ih.token (scans_lexical lexical outside)

/-- No token goes on with a mark, but for the equals sign. -/
theorem goesOn_of_mem_marks (token : Token) {c : Char} (mark : c ∈ marks) (other : c ≠ '=') :
    token.goesOn c = false := by
  obtain ⟨name, number⟩ : isNameChar c = false ∧ isNumberChar c = false := by
    simp only [marks, List.mem_cons, List.not_mem_nil, or_false] at mark
    rcases mark with rfl | rfl | rfl | rfl | rfl | rfl | rfl | rfl | rfl | rfl | rfl | rfl | rfl
    all_goals decide
  exact goesOn_eq_false token name number other

/-! ### Taking texts apart -/

theorem width_pos (nonempty : text ≠ []) : 0 < width text := by
  cases text with
  | nil => contradiction
  | cons c text =>
    have some := c.utf8Size_pos
    rw [width]
    omega

theorem Lexical.ne_nil {token : Token} {written : List Char} (lexical : Lexical token written) :
    written ≠ [] := by
  cases lexical with
  | name => exact List.cons_ne_nil _ _
  | spelled spelling =>
    obtain ⟨c, tail, rfl, _⟩ := spelling.front
    exact List.cons_ne_nil c tail

/-- Every lexeme starts inside the text. -/
theorem Cut.bounds (cut : Cut offset text lexed) :
    ∀ lexeme ∈ lexed, offset ≤ lexeme.offset ∧ lexeme.offset < offset + width text := by
  induction cut with
  | done => exact nofun
  | blank _ _ ih =>
    intro lexeme member
    have inside := ih lexeme member
    rw [width]
    omega
  | @token offset token written text lexed lexical _ _ ih =>
    have some := width_pos lexical.ne_nil
    rw [width_append]
    rintro lexeme (_ | ⟨_, member⟩)
    · dsimp only
      omega
    · have inside := ih lexeme member
      omega

theorem mem_head?_append_left {c : Char} (member : c ∈ front.head?) :
    c ∈ (front ++ back).head? := by
  cases front with
  | nil => cases member
  | cons d front => exact member

/-- Between any two of its lexemes a text can be taken apart, right before the second. -/
theorem Cut.split (cut : Cut offset text (before ++ after)) :
    ∃ front back, text = front ++ back ∧ Cut offset front before ∧
      Cut (offset + width front) back after ∧
      ∀ next ∈ after.head?, next.offset = offset + width front := by
  generalize whole : before ++ after = lexed at cut
  -- The induction follows the whole row; `before` gets shorter with it until it is used up.
  induction cut generalizing before with
  | done =>
    obtain ⟨rfl, rfl⟩ := List.append_eq_nil_iff.mp whole
    exact ⟨[], [], rfl, .done, .done, nofun⟩
  | @blank offset c text lexed blank _ ih =>
    obtain ⟨front, back, rfl, one, two, next⟩ := ih whole
    rw [Nat.add_assoc, ← width] at two next
    exact ⟨c :: front, back, rfl, .blank blank one, two, next⟩
  | @token offset token written text lexed lexical outside following ih =>
    cases before with
    | nil =>
      obtain rfl : after = _ := whole
      refine ⟨[], written ++ text, rfl, .done, .token lexical outside following, ?_⟩
      rintro next ⟨⟩
      rfl
    | cons first before =>
      rw [List.cons_append, List.cons.injEq] at whole
      obtain ⟨rfl, whole⟩ := whole
      obtain ⟨front, back, rfl, one, two, next⟩ := ih whole
      rw [Nat.add_assoc, ← width_append] at two next
      refine ⟨written ++ front, back, (List.append_assoc _ _ _).symm, ?_, two, next⟩
      exact .token lexical (fun c member => outside c (mem_head?_append_left member)) one

/-- Where the scanner is stuck, the text before that place is cut. -/
theorem cut_of_error {error : Error} (failed : lexemes offset text = .error error) :
    ∃ front back lexed, text = front ++ back ∧ Cut offset front lexed ∧
      error.offset = offset + width front := by
  fun_induction lexemes offset text with
  | case1 => cases failed
  | case2 offset c rest blank ih =>
    obtain ⟨front, back, lexed, rfl, cut, place⟩ := ih failed
    rw [Nat.add_assoc, ← width] at place
    exact ⟨c :: front, back, lexed, rfl, .blank blank cut, place⟩
  | case3 =>
    cases failed
    exact ⟨[], _, [], rfl, .done, rfl⟩
  | case4 offset c rest visible scanned taken _ error following ih =>
    cases failed
    obtain ⟨lexical, outside⟩ := exact_scan taken
    obtain ⟨front, back, lexed, split, cut, place⟩ := ih following
    rw [Nat.add_assoc, ← width_append] at place
    refine ⟨scanned.source ++ front, back, ⟨scanned.token, offset⟩ :: lexed, ?_, ?_, place⟩
    · rw [List.append_assoc, ← split, scanned.complete]
    · refine .token lexical (fun c member => outside c ?_) cut
      rw [split]
      exact mem_head?_append_left member
  | case5 => cases failed

end Texts

end FontScores.Rule
