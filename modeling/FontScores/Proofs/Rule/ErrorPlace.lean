import Mathlib
import FontScores.Platform
import FontScores.Proofs.Rule.Acceptance
import FontScores.Proofs.Rule.Cutting

/-!
# An error is where the source cannot be repaired

A row of tokens is viable if some continuation of it is accepted.  The reader has the correct prefix
property: the tokens before the place of an error are viable, and together with the token at that
place they are not.  The number that stands alone is viable too, and the error about it says where
it starts.

In the source the place of an error is between two characters, and the tokens before it are those
that start before it.  Where the scanner is stuck there are no tokens to speak of, but the text
before that place is cut into some.
-/

namespace FontScores.Rule

/-! ## Rows of tokens -/

/-- The reader accepts some source that has these tokens. -/
def Accepted [PatternEngine] (tokens : List Token) : Prop :=
  ∃ stop lexed expr, lexed.map Lexeme.token = tokens ∧ readAll stop lexed = .ok expr

/-- The tokens are the beginning of a row that is accepted. -/
def Viable [PatternEngine] (tokens : List Token) : Prop := ∃ more, Accepted (tokens ++ more)

section Tokens

variable {tokens : List Token} {stop : Nat} {input : List Lexeme} {error : Error}

theorem accepted_iff [PatternEngine] :
    Accepted tokens ↔ Sentence Scattered depthLimit .disjunction tokens := by
  constructor
  · rintro ⟨stop, lexed, expr, rfl, read⟩
    exact sentence_of_readAll read
  · intro sentence
    -- Any places will do for the tokens.
    have placed : (tokens.map fun token => Lexeme.mk token 0).map Lexeme.token = tokens := by
      simp [Function.comp_def]
    rw [← placed] at sentence
    obtain ⟨expr, read⟩ := (readAll_isOk_iff 0 _).mpr sentence
    exact ⟨0, _, expr, placed, read⟩

theorem not_accepted_of_error [PatternEngine] (failed : readAll stop input = .error error) :
    ¬Accepted (input.map Lexeme.token) := by
  rw [accepted_iff, ← readAll_isOk_iff stop]
  rintro ⟨expr, read⟩
  rw [read] at failed
  contradiction

/-- The reader notices an error at the first token that makes it. -/
theorem viable_of_error [PatternEngine] (failed : readAll stop input = .error error) :
    ∃ front back, input = front ++ back ∧ error.offset = place stop back ∧
      ((PatternEngine.read? "").isSome → Viable (front.map Lexeme.token)) ∧
      (error.fault ≠ .bareNumber → ∀ found ∈ back.head?,
        ¬Viable (front.map Lexeme.token ++ [found.token])) := by
  have stuck := failed
  rw [readAll_eq, map_eq_error_iff] at stuck
  obtain ⟨front, back, rfl, placed, completed, fails⟩ := (prompt_all stop input).refused stuck
  refine ⟨front, back, rfl, placed, fun empty => ?_, ?_⟩
  · obtain ⟨_, more, sentence⟩ := completed empty
    exact ⟨more, accepted_iff.mpr sentence⟩
  -- Whatever follows the token at the error, the reader is stuck there again.
  rintro other found member ⟨more, accepted⟩
  obtain ⟨error', again⟩ :=
    fails other (found :: more.map fun token => Lexeme.mk token 0) member.symm
  have failed' : readAll stop (front ++ found :: more.map fun token => Lexeme.mk token 0) =
      .error error' := by
    rw [readAll_eq, again]
    rfl
  apply not_accepted_of_error failed'
  simpa [Function.comp_def] using accepted

end Tokens

/-! ## Places in a source -/

section Places

variable {offset : Nat} {text : List Char} {lexed front back : List Lexeme}

/-- Every lexeme starts behind those before it. -/
theorem Cut.sorted (cut : Cut offset text lexed) : lexed.Pairwise (·.offset < ·.offset) := by
  induction cut with
  | done => exact .nil
  | blank _ _ ih => exact ih
  | token lexical _ following ih =>
    refine List.Pairwise.cons (fun next member => ?_) ih
    have after := (following.bounds next member).1
    have some := width_pos lexical.ne_nil
    dsimp only
    omega

/-- The place where a row goes on divides the text between two characters, and the lexemes into
those that start before it and the others. -/
theorem Cut.at_place (cut : Cut 0 text (front ++ back)) :
    ∃ before after, text = before ++ after ∧ width before = place (width text) back ∧
      (∀ lexeme ∈ front, lexeme.offset < place (width text) back) ∧
      ∀ lexeme ∈ back, place (width text) back ≤ lexeme.offset := by
  cases back with
  | nil =>
    rw [List.append_nil] at cut
    refine ⟨text, [], (List.append_nil _).symm, rfl, fun lexeme member => ?_, nofun⟩
    have inside := cut.bounds lexeme member
    rw [place, List.head?_nil, Option.elim_none]
    omega
  | cons next rest =>
    obtain ⟨before, after, rfl, one, two, starts⟩ := cut.split
    have place_eq : place (width (before ++ after)) (next :: rest) = width before := by
      rw [place, List.head?_cons, Option.elim_some, starts next rfl, Nat.zero_add]
    rw [place_eq]
    refine ⟨before, after, rfl, rfl, fun lexeme member => ?_, fun lexeme member => ?_⟩
    · have inside := one.bounds lexeme member
      omega
    · have inside := two.bounds lexeme member
      omega

/-- The lexemes that start before the place where a row goes on. -/
theorem Cut.filter_before (cut : Cut 0 text (front ++ back)) :
    (front ++ back).filter (·.offset < place (width text) back) = front := by
  obtain ⟨_, _, _, _, before, after⟩ := cut.at_place
  rw [List.filter_append, List.filter_eq_self.mpr (by simpa using before),
    List.filter_eq_nil_iff.mpr (by simpa using after), List.append_nil]

/-- A lexeme that starts where a row goes on is the first of the others. -/
theorem Cut.head?_of_offset (cut : Cut 0 text (front ++ back)) {found : Lexeme}
    (member : found ∈ front ++ back) (starts : found.offset = place (width text) back) :
    found ∈ back.head? := by
  obtain ⟨_, _, _, _, before, _⟩ := cut.at_place
  rcases List.mem_append.mp member with earlier | later
  · have less := before found earlier
    omega
  · cases back with
    | nil => cases later
    | cons next rest =>
      rcases List.mem_cons.mp later with rfl | behind
      · rfl
      · have sorted := (List.pairwise_append.mp cut.sorted).2.1
        have greater := List.rel_of_pairwise_cons sorted behind
        rw [place, List.head?_cons, Option.elim_some] at starts
        omega

/-- Only behind the last lexeme a row goes on at the end of the source. -/
theorem Cut.place_eq_width_iff (cut : Cut 0 text (front ++ back)) :
    place (width text) back = width text ↔ back = [] := by
  constructor
  · intro atEnd
    cases back with
    | nil => rfl
    | cons next rest =>
      have inside := cut.bounds next (by simp)
      rw [place, List.head?_cons, Option.elim_some] at atEnd
      omega
  · rintro rfl
    rfl

end Places

theorem utf8ByteSize_ofList (text : List Char) :
    (String.ofList text).utf8ByteSize = width text := by
  induction text with
  | nil => rfl
  | cons c text ih =>
    rw [String.ofList_cons, String.utf8ByteSize_append, String.utf8ByteSize_singleton, ih, width]

/-! ## Sources -/

/-- The place of an error is between two characters of the source.  If the scanner is stuck there,
the text before it can be cut.  If not, the tokens that start before it are viable.  At the end of
the source they are not accepted; elsewhere a token starts there with which they are not viable any
more, unless it is a number that stands alone.

The engine is only asked to accept the empty pattern, with which a row can be completed whose own
pattern was refused. -/
theorem error_place [PatternEngine] (empty : (PatternEngine.read? "").isSome) (source : String)
    (error : Error) (failed : compile source = .error error) :
    (∃ before after, source = before ++ after ∧ before.utf8ByteSize = error.offset ∧
      ((∃ stuck, lexemes 0 source.toList = .error stuck) →
        ∃ lexed, lexemes 0 before.toList = .ok lexed)) ∧
    ∀ lexed, lexemes 0 source.toList = .ok lexed →
      let earlier := (lexed.filter (·.offset < error.offset)).map Lexeme.token
      Viable earlier ∧
      (error.offset = source.utf8ByteSize → ¬Accepted earlier) ∧
      (error.offset ≠ source.utf8ByteSize → ∃ found ∈ lexed, found.offset = error.offset) ∧
      (error.fault ≠ .bareNumber → ∀ found ∈ lexed, found.offset = error.offset →
        ¬Viable (earlier ++ [found.token])) := by
  have size : source.utf8ByteSize = width source.toList := by
    rw [← utf8ByteSize_ofList, String.ofList_toList]
  cases cut : lexemes 0 source.toList with
  | error stuck =>
    -- The scanner is stuck, and the reader was not asked.
    obtain ⟨front, back, lexed, whole, cut', placed⟩ := cut_of_error cut
    have same : stuck = error := by
      rw [compile, cut] at failed
      exact Except.error.inj failed
    refine ⟨⟨String.ofList front, String.ofList back, ?_, ?_, fun _ => ⟨lexed, ?_⟩⟩,
      fun _ read => by cases read⟩
    · rw [← String.ofList_append, ← whole, String.ofList_toList]
    · rw [utf8ByteSize_ofList, ← same, placed, Nat.zero_add]
    · rw [String.toList_ofList]
      exact lexemes_of_cut cut'
  | ok lexed =>
    rw [compile_eq_readAll cut] at failed
    obtain ⟨front, back, rfl, placed, viable, stuck⟩ := viable_of_error failed
    have cut' := cut_of_lexemes cut
    obtain ⟨before, after, whole, starts, _, _⟩ := cut'.at_place
    refine ⟨⟨String.ofList before, String.ofList after, ?_, ?_, by rintro ⟨_, ⟨⟩⟩⟩, ?_⟩
    · rw [← String.ofList_append, ← whole, String.ofList_toList]
    · rw [utf8ByteSize_ofList, starts, placed]
    rintro _ ⟨⟩ earlier
    have same : earlier = front.map Lexeme.token := by
      simp only [earlier, placed, cut'.filter_before]
    rw [same, size, placed]
    -- What `viable_of_error` says of tokens, said of places in the source.
    refine ⟨viable empty, fun atEnd => ?_, fun inside => ?_, fun other found member begins => ?_⟩
    · obtain rfl := cut'.place_eq_width_iff.mp atEnd
      rw [List.append_nil] at failed
      exact not_accepted_of_error failed
    · cases back with
      | nil => exact absurd rfl inside
      | cons next rest => exact ⟨next, by simp, rfl⟩
    · exact stuck other found (cut'.head?_of_offset member begins)

/-- A pattern that cannot be read, in parentheses that are still open. -/
theorem error_place_of_bracket :
    let source := "(true || family =~ '[')"
    let earlier : List Token := [.openParen, .name "true", .or, .name "family", .resembles]
    compile source = .error ⟨19, .invalidPattern⟩ ∧
      (∃ before after, source = before ++ after ∧ before.utf8ByteSize = 19) ∧
      (PatternEngine.read? "").isSome ∧ Viable earlier ∧ ¬Viable (earlier ++ [.text "["]) := by
  intro source earlier
  have empty : (PatternEngine.read? "").isSome := by decide +kernel
  have failed : compile source = .error ⟨19, .invalidPattern⟩ := by
    have stuck : (compile source).map (fun _ => ()) = .error ⟨19, .invalidPattern⟩ := by
      decide +kernel
    exact map_eq_error_iff.mp stuck
  have cut : lexemes 0 source.toList = .ok
      [⟨.openParen, 0⟩, ⟨.name "true", 1⟩, ⟨.or, 6⟩, ⟨.name "family", 9⟩, ⟨.resembles, 16⟩,
        ⟨.text "[", 19⟩, ⟨.closeParen, 22⟩] := by
    decide +kernel
  obtain ⟨⟨before, after, whole, starts, _⟩, rows⟩ := error_place empty source _ failed
  obtain ⟨viable, _, _, stuck⟩ := rows _ cut
  exact ⟨failed, ⟨before, after, whole, starts⟩, empty, viable,
    stuck nofun ⟨.text "[", 19⟩ (by simp) rfl⟩

end FontScores.Rule
