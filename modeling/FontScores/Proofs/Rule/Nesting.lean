import Mathlib
import FontScores.Platform
import FontScores.Proofs.Rule.Composition
import FontScores.Proofs.Rule.Counter
import FontScores.Proofs.Rule.Height
import FontScores.Proofs.Rule.Opening

/-!
# Where a rule nests too deeply

The reader gives up exactly at a `!` or `(` with which an expression would begin where no level is
left.  Only the reader of one level can do that, since no test nests.  In one direction the place is
found by following the reader down, which takes off what was closed before; in the other the reader
is led there by the grammar.

Nothing else is limited.  A chain stays on its level however long it is, so rows that are rules by
themselves can be joined without end.
-/

namespace FontScores.Rule

/-! ## Tests do not nest -/

/-- The result is not that the levels have run out. -/
def Shallow {α : Type} (result : Except Error α) : Prop :=
  ∀ offset, result ≠ .error ⟨offset, .tooDeep⟩

section Tests

variable {α β : Type} (stop : Nat) (input : List Lexeme)

theorem shallow_ok (value : α) : Shallow (.ok value : Except Error α) := nofun

theorem Shallow.bind {stage : Except Error α} {next : α → Except Error β}
    (first : Shallow stage) (second : ∀ value, Shallow (next value)) :
    Shallow (stage >>= next) := by
  intro offset failed
  rcases bind_eq_error_iff.mp failed with stuck | ⟨value, _, stuck⟩
  · exact first offset stuck
  · exact second value offset stuck

theorem shallow_mismatch (what : Expectation) :
    Shallow (.error (mismatch stop what input) : Except Error α) := by
  intro offset failed
  cases input <;> cases failed

theorem shallow_expect (token : Token) (what : Expectation) (input : List Lexeme) :
    Shallow (expect stop token what input) := by
  cases input with
  | nil => exact shallow_mismatch stop [] what
  | cons found rest =>
    rw [expect]
    split
    · exact shallow_ok _
    · exact shallow_mismatch stop (found :: rest) what

theorem shallow_text : Shallow (readText stop input) := by
  unfold readText
  split
  · exact shallow_ok _
  · exact shallow_mismatch stop _ .text

theorem shallow_tag : Shallow (readTag stop input) :=
  (shallow_expect stop _ _ _).bind fun _ => (shallow_text stop _).bind fun _ =>
    (shallow_expect stop _ _ _).bind fun _ => shallow_ok _

theorem shallow_operand : Shallow (readOperand stop input) := by
  unfold readOperand
  split
  · exact shallow_ok _
  · exact (shallow_tag stop _).bind fun _ => shallow_ok _
  · exact shallow_mismatch stop _ .operand

theorem shallow_scoreTest : Shallow (readScoreTest stop input) := by
  refine (shallow_operand stop input).bind fun left => ?_
  split
  · exact (shallow_operand stop _).bind fun _ => shallow_ok _
  · split
    · exact shallow_ok _
    · nofun

theorem shallow_names : Shallow (readNames stop input) := by
  fun_induction readNames stop input with
  | case1 => exact shallow_ok _
  | case2 _ _ ih => exact ih.bind fun _ => shallow_ok _
  | case3 _ _ _ ih => exact ih.bind fun _ => shallow_ok _
  | case4 input => exact shallow_mismatch stop input .text

theorem shallow_familyList : Shallow (readFamilyList stop input) := by
  refine (shallow_expect stop _ _ input).bind fun opening => ?_
  split
  · nofun
  · exact (shallow_text stop _).bind fun _ => (shallow_names stop _).bind fun _ => shallow_ok _

theorem shallow_familyTest [PatternEngine] : Shallow (readFamilyTest stop input) := by
  unfold readFamilyTest
  split
  · exact (shallow_text stop _).bind fun _ => shallow_ok _
  · exact (shallow_text stop _).bind fun _ => shallow_ok _
  · exact (shallow_familyList stop _).bind fun _ => shallow_ok _
  · refine (shallow_text stop _).bind fun written => ?_
    cases PatternEngine.read? written.value.1 with
    | some pattern => exact shallow_ok _
    | none => nofun
  · exact shallow_mismatch stop _ .familyTest

end Tests

/-! ## From the reader to the place -/

/-- A token that opens a level. -/
def Token.Opens (token : Token) : Prop := token = .openParen ∨ token = .bang

/-- An expression would begin with a mark at this offset, and what stands before it has this
form. -/
def OpensAt (form : List Token → Prop) (input : List Lexeme) (offset : Nat) : Prop :=
  ∃ front mark back, input = front ++ mark :: back ∧ mark.offset = offset ∧ mark.token.Opens ∧
    form (front.map Lexeme.token)

section Following

variable {α : Type} {stop offset : Nat} {form whole : List Token → Prop} {input : List Lexeme}

theorem OpensAt.imp (opens : OpensAt form input offset)
    (same : ∀ tokens, form tokens → whole tokens) : OpensAt whole input offset := by
  obtain ⟨front, mark, back, split, place, kind, formed⟩ := opens
  exact ⟨front, mark, back, split, place, kind, same _ formed⟩

theorem OpensAt.behind {rest : List Lexeme} (front : List Lexeme)
    (opens : OpensAt (fun tokens => whole (front.map Lexeme.token ++ tokens)) rest offset) :
    OpensAt whole (front ++ rest) offset := by
  obtain ⟨middle, mark, back, rfl, place, kind, formed⟩ := opens
  refine ⟨front ++ middle, mark, back, (List.append_assoc _ _ _).symm, place, kind, ?_⟩
  rwa [List.map_append]

/-- Where a chain runs out of levels: in its first item, or behind items that were closed. -/
theorem opensAt_of_chain [PatternEngine] {separator : Token} {item : Reader α}
    {closed : List Token → Prop}
    (prompt : ∀ input, PromptAt stop (fun _ => closed) (stepOf item) input)
    (opens : ∀ input, item input = .error ⟨offset, .tooDeep⟩ → OpensAt form input offset)
    (first : ∀ tokens, form tokens → whole tokens)
    (more : ∀ front back, closed front → whole back → whole (front ++ separator :: back))
    (input : List Lexeme) (failed : chain separator item input = .error ⟨offset, .tooDeep⟩) :
    OpensAt whole input offset := by
  fun_induction chain separator item input with
  | case1 input error stuck =>
    cases failed
    exact (opens input stuck).imp first
  | case2 input head read found rest after same _ error stuck ih =>
    cases failed
    -- The reader of the item took a closed front off, with a separator behind it.
    have begun : stepOf item input = .ok (head.value, head.rest) := by
      rw [stepOf, read]
      rfl
    obtain ⟨front, split, formed, _⟩ := (prompt input).taken begun
    rw [split, after, List.append_cons]
    apply OpensAt.behind
    apply (ih stuck).imp
    intro tokens formed'
    simpa [same] using more _ tokens formed formed'
  | case3 | case4 | case5 => cases failed

theorem readConjunction_eq_error_iff {unary : Reader Expr} {error : Error} :
    readConjunction unary input = .error error ↔ chain .and unary input = .error error := by
  rw [readConjunction]
  cases chain .and unary input <;> simp [bind, Except.bind, pure, Except.pure]

theorem readDisjunction_eq_error_iff {unary : Reader Expr} {error : Error} :
    readDisjunction unary input = .error error ↔
      chain .or (readConjunction unary) input = .error error := by
  rw [readDisjunction]
  cases chain .or (readConjunction unary) input <;> simp [bind, Except.bind, pure, Except.pure]

variable {levels : Nat}

theorem opensAt_of_disjunction [PatternEngine] {unary : Reader Expr}
    (prompt : ∀ input, PromptAt stop (fun _ => Sentence Scattered levels .unary) (stepOf unary)
      input)
    (opens : ∀ input, unary input = .error ⟨offset, .tooDeep⟩ →
      OpensAt (Opening levels .unary · 0) input offset)
    (input : List Lexeme) (failed : readDisjunction unary input = .error ⟨offset, .tooDeep⟩) :
    OpensAt (Opening levels .disjunction · 0) input offset := by
  apply opensAt_of_chain (prompt_conjunction prompt) _ (fun _ => .conjunction) (fun _ _ => .or)
    input (readDisjunction_eq_error_iff.mp failed)
  intro input failed
  exact opensAt_of_chain prompt opens (fun _ => .unary) (fun _ _ => .and) input
    (readConjunction_eq_error_iff.mp failed)

/-- One level runs out where the level below it does, or at its own mark if there is none below. -/
theorem opensAt_of_level [PatternEngine] {inner : Option (Reader Expr)}
    (failed : readLevel stop inner input = .error ⟨offset, .tooDeep⟩)
    (below : ∀ unary ∈ inner, ∃ fewer, levels = fewer + 1 ∧
      (∀ input, PromptAt stop (fun _ => Sentence Scattered fewer .unary) (stepOf unary) input) ∧
      ∀ input, unary input = .error ⟨offset, .tooDeep⟩ →
        OpensAt (Opening fewer .unary · 0) input offset)
    (last : inner = none → levels = 0) : OpensAt (Opening levels .unary · 0) input offset := by
  unfold readLevel at failed
  split at failed
  next offset rest =>
    split at failed
    next =>
      cases failed
      exact ⟨[], _, rest, rfl, rfl, .inr rfl, last rfl ▸ .here⟩
    next unary =>
      obtain ⟨fewer, rfl, _, opens⟩ := below unary rfl
      -- Behind the inner reader nothing fails any more.
      rcases bind_eq_error_iff.mp failed with stuck | ⟨_, _, ⟨⟩⟩
      apply OpensAt.behind [⟨.bang, offset⟩]
      exact (opens rest stuck).imp fun tokens => .not
  next offset rest =>
    split at failed
    next =>
      cases failed
      exact ⟨[], _, rest, rfl, rfl, .inl rfl, last rfl ▸ .here⟩
    next unary =>
      obtain ⟨fewer, rfl, prompt, opens⟩ := below unary rfl
      -- A parenthesis that is not closed is another error.
      rcases bind_eq_error_iff.mp failed with stuck | ⟨body, _, closing⟩
      · apply OpensAt.behind [⟨.openParen, offset⟩]
        exact (opensAt_of_disjunction prompt opens rest stuck).imp fun tokens => .group
      · rcases bind_eq_error_iff.mp closing with stuck | ⟨_, _, ⟨⟩⟩
        exact absurd stuck (shallow_expect stop _ _ _ _)
  · cases failed
  · cases failed
  · exact absurd failed (((shallow_familyTest stop _).bind fun _ => shallow_ok _) _)
  · exact absurd failed (shallow_scoreTest stop _ _)
  · exact absurd failed (shallow_scoreTest stop _ _)
  · exact absurd failed (shallow_mismatch stop _ _ _)

/-- A reader that runs out of levels does so at a mark that opens one. -/
theorem opensAt_of_unary [PatternEngine] (input : List Lexeme)
    (failed : readUnary stop levels input = .error ⟨offset, .tooDeep⟩) :
    OpensAt (Opening levels .unary · 0) input offset := by
  induction levels generalizing input with
  | zero =>
    have failed : readLevel stop none input = .error ⟨offset, .tooDeep⟩ := failed
    exact opensAt_of_level failed nofun fun _ => rfl
  | succ levels ih =>
    have failed : readLevel stop (some (readUnary stop levels)) input =
        .error ⟨offset, .tooDeep⟩ := failed
    refine opensAt_of_level failed ?_ nofun
    rintro _ ⟨⟩
    exact ⟨levels, rfl, prompt_unary stop levels, ih⟩

end Following

/-! ## From the place to the reader -/

/-- The reader of rows of this level. -/
def readerAt [PatternEngine] (stop levels : Nat) : Level → Reader Expr
  | .unary => readUnary stop levels
  | .conjunction => readConjunction (readUnary stop levels)
  | .disjunction => readDisjunction (readUnary stop levels)

section Leading

variable {α : Type} {stop levels : Nat} {separator : Token} {item : Reader α}
  {input rest : List Lexeme} {error : Error}

theorem Level.isOver_conjunction {token : Token} (ends : Level.disjunction.isOver token = true) :
    Level.conjunction.isOver token = true := by
  cases token <;> simp_all [isOver]

/-- A sentence is read by the reader of its level, where it is over. -/
theorem Sentence.reads [PatternEngine] {level : Level} {tokens : List Token}
    (sentence : Sentence Scattered levels level tokens) (written : input.map Lexeme.token = tokens)
    (outside : ∀ next ∈ rest.head?, level.isOver next.token = true) :
    ∃ expr, Reads (readerAt stop levels level) (input ++ rest) expr rest := by
  obtain ⟨tree, _, understood⟩ := understood_sentence sentence
  have understood := understood 0
  cases level with
  | unary =>
    obtain ⟨expr, _, reads⟩ := understood
    exact ⟨expr, reads stop input rest written outside⟩
  | conjunction =>
    obtain ⟨terms, _, chained⟩ := understood
    refine ⟨allOf terms, reads_conjunction (chained stop input rest written ?_) ?_⟩
    · exact fun next member => Level.isOver_unary (outside next member)
    · rintro next member same
      simpa [same, Level.isOver] using outside next member
  | disjunction =>
    obtain ⟨terms, _, chained⟩ := understood
    refine ⟨anyOf terms, reads_disjunction (chained stop input rest written ?_) ?_⟩
    · exact fun next member => Level.isOver_conjunction (outside next member)
    · rintro next member same
      simpa [same, Level.isOver] using outside next member

theorem chain_eq_error_of_first (failed : item input = .error error) :
    chain separator item input = .error error := by
  rw [chain, failed]

theorem chain_eq_error_of_more {value : α} {offset : Nat}
    (read : Reads item input value (⟨separator, offset⟩ :: rest))
    (failed : chain separator item rest = .error error) :
    chain separator item input = .error error := by
  obtain ⟨taken, read, _, after⟩ := read
  rw [chain, read]
  split
  next => contradiction
  next first same =>
    cases same
    split
    next found tail next =>
      cases after.symm.trans next
      rw [if_pos rfl, failed]
    next next =>
      rw [after] at next
      contradiction

/-- The reader is led to the place and gives up there. -/
theorem Opening.fails [PatternEngine] {level : Level} {tokens : List Token} {left : Nat}
    (opening : Opening levels level tokens left) (exhausted : left = 0) {front back : List Lexeme}
    {mark : Lexeme} (written : front.map Lexeme.token = tokens) (opens : mark.token.Opens) :
    readerAt stop levels level (front ++ mark :: back) = .error ⟨mark.offset, .tooDeep⟩ := by
  induction opening generalizing front with
  | here =>
    -- The reader without levels sees the mark.
    cases List.map_eq_nil_iff.mp written
    subst exhausted
    obtain ⟨token, offset⟩ := mark
    rcases opens with same | same <;> cases same <;> rfl
  | not _ ih =>
    obtain ⟨⟨_, offset⟩, others, rfl, rfl, more⟩ := List.map_eq_cons_iff.mp written
    have stuck : readUnary stop _ (others ++ mark :: back) = _ := ih exhausted more
    rw [readerAt, List.cons_append, readUnary, readLevel, stuck]
    rfl
  | group _ ih =>
    obtain ⟨⟨_, offset⟩, others, rfl, rfl, more⟩ := List.map_eq_cons_iff.mp written
    have stuck : readDisjunction (readUnary stop _) (others ++ mark :: back) = _ :=
      ih exhausted more
    rw [readerAt, List.cons_append, readUnary, readLevel, stuck]
    rfl
  | unary _ ih =>
    exact readConjunction_eq_error_iff.mpr (chain_eq_error_of_first (ih exhausted written))
  | and closed _ ih =>
    obtain ⟨first, more, rfl, same, following⟩ := List.map_eq_append_iff.mp written
    obtain ⟨⟨_, offset⟩, second, rfl, rfl, other⟩ := List.map_eq_cons_iff.mp following
    rw [List.append_assoc, List.cons_append]
    -- What was closed is read and passed by; the reader fails on the others.
    have ends : ∀ next ∈ (Lexeme.mk .and offset :: (second ++ mark :: back)).head?,
        Level.unary.isOver next.token = true := by
      simp [Level.isOver]
    obtain ⟨expr, reads⟩ := closed.reads same ends
    apply readConjunction_eq_error_iff.mpr (chain_eq_error_of_more reads _)
    exact readConjunction_eq_error_iff.mp (ih exhausted other)
  | conjunction _ ih =>
    exact readDisjunction_eq_error_iff.mpr (chain_eq_error_of_first (ih exhausted written))
  | or closed _ ih =>
    obtain ⟨first, more, rfl, same, following⟩ := List.map_eq_append_iff.mp written
    obtain ⟨⟨_, offset⟩, second, rfl, rfl, other⟩ := List.map_eq_cons_iff.mp following
    rw [List.append_assoc, List.cons_append]
    have ends : ∀ next ∈ (Lexeme.mk .or offset :: (second ++ mark :: back)).head?,
        Level.conjunction.isOver next.token = true := by
      simp [Level.isOver]
    obtain ⟨expr, reads⟩ := closed.reads same ends
    apply readDisjunction_eq_error_iff.mpr (chain_eq_error_of_more reads _)
    exact readDisjunction_eq_error_iff.mp (ih exhausted other)

end Leading

/-! ## Whole sources -/

/-- Reading tokens gives up for want of levels exactly where the place is. -/
theorem readAll_tooDeep_iff [PatternEngine] {stop offset : Nat} {input : List Lexeme} :
    readAll stop input = .error ⟨offset, .tooDeep⟩ ↔
      OpensAt (Opening depthLimit .disjunction · 0) input offset := by
  constructor
  · intro failed
    rw [readAll] at failed
    rcases bind_eq_error_iff.mp failed with stuck | ⟨expr, _, ended⟩
    · exact opensAt_of_disjunction (prompt_unary stop depthLimit)
        (fun input => opensAt_of_unary input) input stuck
    · -- What stands behind a whole expression is refused for another reason.
      split at ended <;> cases ended
  · rintro ⟨front, mark, back, rfl, rfl, opens, opening⟩
    have stuck : readDisjunction (readUnary stop depthLimit) (front ++ mark :: back) = _ :=
      opening.fails rfl rfl opens
    rw [readAll, stuck]
    rfl

/-- The scanner is stuck for other reasons. -/
theorem scan_ne_tooDeep (c : Char) (rest : List Char) : scan c rest ≠ .error .tooDeep := by
  have number : scanNumber c rest ≠ .error .tooDeep := by
    unfold scanNumber
    dsimp only
    split <;> nofun
  have text (quote : Char) (rest : List Char) : scanText quote rest ≠ .error .tooDeep := by
    unfold scanText
    split <;> nofun
  unfold scan
  split
  case h_19 | h_20 => exact text _ _
  case h_21 =>
    split
    · exact number
    · split <;> nofun
  all_goals nofun

theorem shallow_lexemes (offset : Nat) (text : List Char) : Shallow (lexemes offset text) := by
  intro place failed
  fun_induction lexemes offset text with
  | case1 => cases failed
  | case2 _ _ _ _ ih => exact ih failed
  | case3 offset c rest _ fault stuck =>
    cases failed
    exact scan_ne_tooDeep c rest stuck
  | case4 _ _ _ _ _ _ _ error stuck ih =>
    cases failed
    exact ih stuck
  | case5 => cases failed

/-- A source is refused for its nesting exactly at a `!` or `(` that stands where an expression may
begin, inside as many open ones as the limit allows. -/
theorem compile_tooDeep_iff [PatternEngine] {source : String} {offset : Nat} :
    compile source = .error ⟨offset, .tooDeep⟩ ↔
      ∃ front mark back, lexemes 0 source.toList = .ok (front ++ mark :: back) ∧
        mark.offset = offset ∧ (mark.token = .openParen ∨ mark.token = .bang) ∧
        Viable (front.map Lexeme.token ++ [.name "true"]) ∧
        openMarks (front.map Lexeme.token) = depthLimit := by
  constructor
  · intro failed
    rw [compile] at failed
    rcases bind_eq_error_iff.mp failed with stuck | ⟨lexed, cut, failed⟩
    · exact absurd stuck (shallow_lexemes 0 source.toList offset)
    · obtain ⟨front, mark, back, rfl, place, kind, opening⟩ := readAll_tooDeep_iff.mp failed
      obtain ⟨viable, count⟩ := opening_iff.mp opening
      exact ⟨front, mark, back, cut, place, kind, viable, count⟩
  · rintro ⟨front, mark, back, cut, place, kind, viable, count⟩
    rw [compile_eq_readAll cut, readAll_tooDeep_iff]
    exact ⟨front, mark, back, rfl, place, kind, opening_iff.mpr ⟨viable, count⟩⟩

/-! ## Long chains -/

/-- The tokens of the source are a row of the grammar at this level; for disjunctions this is
`NestsWithin` with all levels. -/
def Writes [PatternEngine] (level : Level) (source : String) : Prop :=
  ∃ lexed, lexemes 0 source.toList = .ok lexed ∧
    Sentence Scattered depthLimit level (lexed.map Lexeme.token)

section Chains

variable {levels : Nat} {level : Level} {rows : List (List Token)} {sources : List String}

theorem sentence_conjunction [PatternEngine] (nonempty : rows ≠ [])
    (each : ∀ row ∈ rows, Sentence Scattered levels .unary row) :
    Sentence Scattered levels .conjunction ([.and].intercalate rows) := by
  induction rows with
  | nil => exact absurd rfl nonempty
  | cons row others ih =>
    have first := each row List.mem_cons_self
    cases others with
    | nil => simpa using Sentence.unary first
    | cons next others =>
      have rest := ih (by simp) fun other member => each other (List.mem_cons_of_mem row member)
      simpa [List.intercalate_cons_cons] using Sentence.and first rest

theorem sentence_disjunction [PatternEngine] (nonempty : rows ≠ [])
    (each : ∀ row ∈ rows, Sentence Scattered levels .conjunction row) :
    Sentence Scattered levels .disjunction ([.or].intercalate rows) := by
  induction rows with
  | nil => exact absurd rfl nonempty
  | cons row others ih =>
    have first := each row List.mem_cons_self
    cases others with
    | nil => simpa using Sentence.conjunction first
    | cons next others =>
      have rest := ih (by simp) fun other member => each other (List.mem_cons_of_mem row member)
      simpa [List.intercalate_cons_cons] using Sentence.or first rest

/-- Texts with a mark between each two are cut into their own tokens and those of the marks. -/
theorem lexes_intercalate {token : Token} {c : Char} {written : List Char}
    (fixed : token.mark? = some (c :: written)) (joins : c ∈ marks ∧ c ≠ '=')
    (loose : ∀ next, token.goesOn next = false) {texts : List (List Char)}
    (each : List.Forall₂ Lexes texts rows) :
    Lexes ((c :: written).intercalate texts) ([token].intercalate rows) := by
  induction each with
  | nil => exact lexes_nil
  | cons first others ih =>
    cases others with
    | nil => simpa using first
    | cons second others =>
      rw [List.intercalate_cons_cons, List.intercalate_cons_cons, List.append_assoc,
        List.append_assoc]
      apply first.append
      · exact ih.mark fixed fun next _ => loose next
      · rintro _ ⟨⟩
        exact joins

theorem exists_rows [PatternEngine] (each : ∀ source ∈ sources, Writes level source) :
    ∃ rows, List.Forall₂ Lexes (sources.map String.toList) rows ∧
      ∀ row ∈ rows, Sentence Scattered depthLimit level row := by
  induction sources with
  | nil => exact ⟨[], .nil, nofun⟩
  | cons source others ih =>
    obtain ⟨rows, lexes, sentences⟩ :=
      ih fun other member => each other (List.mem_cons_of_mem source member)
    obtain ⟨lexed, cut, sentence⟩ := each source List.mem_cons_self
    exact ⟨_ :: rows, .cons (lexemes_eq_ok_iff.mp cut).lexes lexes,
      List.forall_mem_cons.mpr ⟨sentence, sentences⟩⟩

/-- Sources with a sign between each two have the rows of each with its token between them. -/
theorem exists_lexed_intercalate [PatternEngine] {token : Token} {sign : String} {c : Char}
    {written : List Char} (spelled : sign.toList = c :: written)
    (fixed : token.mark? = some (c :: written)) (joins : c ∈ marks ∧ c ≠ '=')
    (loose : ∀ next, token.goesOn next = false) (nonempty : sources ≠ [])
    (each : ∀ source ∈ sources, Writes level source) :
    ∃ lexed rows, lexemes 0 (sign.intercalate sources).toList = .ok lexed ∧
      lexed.map Lexeme.token = [token].intercalate rows ∧ rows ≠ [] ∧
      ∀ row ∈ rows, Sentence Scattered depthLimit level row := by
  obtain ⟨rows, lexes, sentences⟩ := exists_rows each
  obtain ⟨lexed, cut, same⟩ := lexes_intercalate fixed joins loose lexes 0
  refine ⟨lexed, rows, ?_, same, ?_, sentences⟩
  · rw [String.toList_intercalate, spelled]
    exact cut
  · rintro rfl
    exact nonempty (by simpa using lexes)

theorem writes_conjunction [PatternEngine] (nonempty : sources ≠ [])
    (each : ∀ source ∈ sources, Writes .unary source) :
    Writes .conjunction ("&&".intercalate sources) := by
  have loose (next : Char) : Token.and.goesOn next = false := rfl
  obtain ⟨lexed, rows, cut, same, filled, sentences⟩ :=
    exists_lexed_intercalate (rfl : "&&".toList = ['&', '&']) rfl (by decide) loose nonempty each
  exact ⟨lexed, cut, same ▸ sentence_conjunction filled sentences⟩

theorem writes_disjunction [PatternEngine] (nonempty : sources ≠ [])
    (each : ∀ source ∈ sources, Writes .conjunction source) :
    Writes .disjunction ("||".intercalate sources) := by
  have loose (next : Char) : Token.or.goesOn next = false := rfl
  obtain ⟨lexed, rows, cut, same, filled, sentences⟩ :=
    exists_lexed_intercalate (rfl : "||".toList = ['|', '|']) rfl (by decide) loose nonempty each
  exact ⟨lexed, cut, same ▸ sentence_disjunction filled sentences⟩

theorem Writes.conjunction [PatternEngine] {source : String} (writes : Writes .conjunction source) :
    Writes .disjunction source := by
  obtain ⟨lexed, cut, sentence⟩ := writes
  exact ⟨lexed, cut, .conjunction sentence⟩

end Chains

/-- A source is refused for its nesting exactly at a `!` or `(` where an expression may begin,
inside 256 open ones.  The readers that count these up have their counter back behind whatever they
have read.  What compiles is no higher than two for each level and four more, so that it is
evaluated with so many calls open at most; and chains compile whatever their length. -/
theorem nesting_is_capped [PatternEngine] :
    (∀ source offset, compile source = .error ⟨offset, .tooDeep⟩ ↔
      ∃ front mark back, lexemes 0 source.toList = .ok (front ++ mark :: back) ∧
        mark.offset = offset ∧ (mark.token = .openParen ∨ mark.token = .bang) ∧
        Viable (front.map Lexeme.token ++ [.name "true"]) ∧
        openMarks (front.map Lexeme.token) = 256) ∧
    (∀ stop depth input, depth ≤ 256 →
      countUnary stop depth input = (readUnary stop (256 - depth) input).map (depth, ·) ∧
      countExpr stop depth input =
        (readDisjunction (readUnary stop (256 - depth)) input).map (depth, ·)) ∧
    (∀ source expr, compile source = .ok expr →
      expr.height ≤ 2 * (256 + 1) + 2 ∧
      ∀ context, expr.evalWithin context (2 * (256 + 1) + 2) = some (expr.eval context)) ∧
    (∀ sources, sources ≠ [] → (∀ source ∈ sources, Writes .unary source) →
      ∃ expr, compile ("&&".intercalate sources) = .ok expr) ∧
    (∀ sources, sources ≠ [] → (∀ source ∈ sources, Writes .conjunction source) →
      ∃ expr, compile ("||".intercalate sources) = .ok expr) := by
  refine ⟨fun _ _ => compile_tooDeep_iff, fun stop depth input few => ?_,
    fun source expr compiled => ?_, fun sources nonempty each => ?_,
    fun sources nonempty each => ?_⟩
  · exact ⟨countUnary_eq stop few input, countExpr_eq stop few input⟩
  · have low := height_compile_le compiled
    exact ⟨low, fun context => Expr.evalWithin_eq context low⟩
  · exact nestsWithin_iff.mp (writes_conjunction nonempty each).conjunction
  · exact nestsWithin_iff.mp (writes_disjunction nonempty each)

/-- A chain of a thousand groups with a negation in each, and the counter at its limit. -/
theorem nesting_is_capped_of_chain :
    let sources := List.replicate 1000 "(!true)"
    sources ≠ [] ∧ (∀ source ∈ sources, Writes .unary source) ∧
      (∃ expr, compile ("&&".intercalate sources) = .ok expr ∧ expr.height ≤ 516 ∧
        ∀ context, expr.evalWithin context 516 = some (expr.eval context)) ∧
      countUnary 6 256 [⟨.name "true", 2⟩] =
        (readUnary 6 0 [⟨.name "true", 2⟩]).map (256, ·) := by
  intro sources
  have cut : lexemes 0 "(!true)".toList =
      .ok [⟨.openParen, 0⟩, ⟨.bang, 1⟩, ⟨.name "true", 2⟩, ⟨.closeParen, 6⟩] := by
    decide +kernel
  have writes : Writes .unary "(!true)" :=
    ⟨_, cut, .group (.conjunction (.unary (.not (.literal true))))⟩
  have each : ∀ source ∈ sources, Writes .unary source := by
    intro source member
    obtain rfl := List.eq_of_mem_replicate member
    exact writes
  have nonempty : sources ≠ [] := List.cons_ne_nil "(!true)" (List.replicate 999 "(!true)")
  obtain ⟨_, counted, low, joined, _⟩ := nesting_is_capped
  obtain ⟨expr, compiled⟩ := joined sources nonempty each
  exact ⟨nonempty, each, ⟨expr, compiled, low _ expr compiled⟩,
    (counted 6 256 [⟨.name "true", 2⟩] (Nat.le_refl _)).1⟩

end FontScores.Rule
