import Mathlib
import FontScores.Rule.Parser
import FontScores.Proofs.Reading
import FontScores.Proofs.Rule.Sentence

/-!
# Readers look one token ahead

A reader decides by the next token whether to take it, to stop before it or to refuse it, and never
goes back.  `PromptAt` says what follows from that for one input.  If the reader succeeds, it takes
the same tokens off any other input that goes on with them and with the same next one.  If it fails,
the error is at the first token that cannot be repaired: what stands before that can be completed,
and whatever stands behind it, the reader fails again.

A number that stands alone is the exception.  It is reported where it started, although with a
comparison behind it all would be well; so of that error only the first half is true.

A pattern that is refused can be completed only with one that is not.  The empty pattern serves for
that, if the engine accepts it.

There is one law for each way in which readers are put together, and then one lemma for each reader.
-/

namespace FontScores.Rule

/-! ## Readers as steps -/

/-- A reader without the proof that it takes something. -/
abbrev Step (α : Type) := StateT (List Lexeme) (Except Error) α

/-- What comes out of a reader, and what is left. -/
def outcome {α : Type} {input : List Lexeme} (result : Except Error (Taken α input)) :
    Except Error (α × List Lexeme) :=
  result.map fun taken => (taken.value, taken.rest)

def stepOf {α : Type} (reader : Reader α) : Step α := fun input => outcome (reader input)

/-- A reader behind another one is a step behind another one. -/
theorem outcome_bind {α β : Type} {input rest : List Lexeme} {reader : Reader α}
    {body : Taken α rest → Except Error (Taken β input)} {following : α → Step β}
    (same : ∀ taken, outcome (body taken) = following taken.value taken.rest) :
    outcome (reader rest >>= body) = (stepOf reader >>= following) rest := by
  change _ = outcome (reader rest) >>= fun out => following out.1 out.2
  cases reader rest with
  | error => rfl
  | ok taken => exact same taken

theorem bind_step {α β : Type} (step : Step α) (following : α → Step β) (input : List Lexeme) :
    (step >>= following) input = step input >>= fun out => following out.1 out.2 := rfl

/-- Where the input starts: at its first lexeme, or else where the source ends. -/
def place (stop : Nat) (input : List Lexeme) : Nat := input.head?.elim stop Lexeme.offset

theorem head?_append_congr {front other rest : List Lexeme} (same : other.head? = rest.head?) :
    (front ++ other).head? = (front ++ rest).head? := by
  cases front with
  | nil => exact same
  | cons first front => rfl

/-- What does not start with a lexeme does not start with it if the rest is another one. -/
theorem head?_apart {found : Lexeme} {input other : List Lexeme}
    (same : other.head? = input.head?) (apart : ∀ rest, input = found :: rest → False) :
    ∀ rest, other = found :: rest → False := by
  rintro rest rfl
  obtain ⟨tail, rfl⟩ := List.head?_eq_some_iff.mp same.symm
  exact apart tail rfl

section Laws

variable [PatternEngine]

structure PromptAt {α : Type} (stop : Nat) (form : α → List Token → Prop) (step : Step α)
    (input : List Lexeme) : Prop where
  taken : ∀ {value : α} {rest : List Lexeme}, step input = .ok (value, rest) →
    ∃ front, input = front ++ rest ∧ form value (front.map Lexeme.token) ∧
      ∀ other, other.head? = rest.head? → step (front ++ other) = .ok (value, other)
  refused : ∀ {error : Error}, step input = .error error →
    ∃ front back, input = front ++ back ∧ error.offset = place stop back ∧
      ((PatternEngine.read? "").isSome →
        ∃ value more, form value (front.map Lexeme.token ++ more)) ∧
      (error.fault ≠ .bareNumber →
        ∀ other, other.head? = back.head? → ∃ again, step (front ++ other) = .error again)

namespace PromptAt

variable {α β : Type} {stop : Nat} {form : α → List Token → Prop} {step next : Step α}
  {input rest : List Lexeme} {value : α} {tokens : List Token}

/-! ### Laws -/

/-- A step that stops before a token takes nothing. -/
theorem done (value : α)
    (stops : ∀ other, other.head? = input.head? → step other = .ok (value, other))
    (formed : form value []) : PromptAt stop form step input where
  taken := by
    intro value' rest read
    cases (stops input rfl).symm.trans read
    exact ⟨[], rfl, formed, stops⟩
  refused := by
    intro error failed
    cases (stops input rfl).symm.trans failed

theorem refuse (value : α) (tokens : List Token) (fails : ∀ other, other.head? = input.head? →
      ∃ fault, step other = .error ⟨place stop input, fault⟩)
    (formed : (PatternEngine.read? "").isSome → form value tokens) :
    PromptAt stop form step input where
  taken := by
    intro value' rest read
    obtain ⟨fault, failed⟩ := fails input rfl
    cases failed.symm.trans read
  refused := by
    intro error failed
    obtain ⟨fault, failed'⟩ := fails input rfl
    cases failed'.symm.trans failed
    refine ⟨[], input, rfl, rfl, fun empty => ⟨value, tokens, formed empty⟩, fun _ other same => ?_⟩
    obtain ⟨fault', again⟩ := fails other same
    exact ⟨_, again⟩

/-- The error of a number that stands alone needs no more than some continuation. -/
theorem bare (value : α) (fails : step input = .error ⟨place stop input, .bareNumber⟩)
    (formed : form value tokens) : PromptAt stop form step input where
  taken := by
    intro value' rest read
    cases fails.symm.trans read
  refused := by
    intro error failed
    cases fails.symm.trans failed
    exact ⟨[], input, rfl, rfl, fun _ => ⟨value, tokens, formed⟩, fun other => absurd rfl other⟩

/-- A step that takes some tokens and goes on as another one. -/
theorem behind (front : List Lexeme) (next : Step α)
    (goesOn : ∀ other, step (front ++ other) = next other)
    (prompt : PromptAt stop (fun value tokens => form value (front.map Lexeme.token ++ tokens))
      next rest) : PromptAt stop form step (front ++ rest) where
  taken := by
    intro value left read
    rw [goesOn] at read
    obtain ⟨middle, rfl, formed, again⟩ := prompt.taken read
    refine ⟨front ++ middle, (List.append_assoc _ _ _).symm, ?_, fun other same => ?_⟩
    · rwa [List.map_append]
    · rw [List.append_assoc, goesOn]
      exact again other same
  refused := by
    intro error failed
    rw [goesOn] at failed
    obtain ⟨middle, back, rfl, placed, completed, fails⟩ := prompt.refused failed
    refine ⟨front ++ middle, back, (List.append_assoc _ _ _).symm, placed, fun empty => ?_,
      fun other tail same => ?_⟩
    · obtain ⟨value, more, formed⟩ := completed empty
      refine ⟨value, more, ?_⟩
      rwa [List.map_append, List.append_assoc]
    · rw [List.append_assoc, goesOn]
      exact fails other tail same

/-- Two steps need to agree only where the next token is the same. -/
theorem congr (same : ∀ other, other.head? = input.head? → step other = next other)
    (prompt : PromptAt stop form next input) : PromptAt stop form step input where
  taken := by
    intro value left read
    rw [same input rfl] at read
    obtain ⟨front, rfl, formed, again⟩ := prompt.taken read
    refine ⟨front, rfl, formed, fun other tail => ?_⟩
    rw [same _ (head?_append_congr tail)]
    exact again other tail
  refused := by
    intro error failed
    rw [same input rfl] at failed
    obtain ⟨front, back, rfl, placed, completed, fails⟩ := prompt.refused failed
    refine ⟨front, back, rfl, placed, completed, fun other rest tail => ?_⟩
    rw [same _ (head?_append_congr tail)]
    exact fails other rest tail

/-- One step after another.  Whatever the first has taken, the second must be able to end. -/
theorem bind {step : Step α} {following : α → Step β} {first : α → List Token → Prop}
    (second : α → β → List Token → Prop) {whole : β → List Token → Prop}
    (one : PromptAt stop first step input)
    (two : ∀ value rest, step input = .ok (value, rest) →
      PromptAt stop (second value) (following value) rest)
    (ends : ∀ value front, first value front → ∃ result back, second value result back)
    (joins : ∀ value result front back, first value front → second value result back →
      whole result (front ++ back)) :
    PromptAt stop whole (step >>= following) input where
  taken := by
    intro result left read
    rw [bind_step] at read
    obtain ⟨⟨value, rest⟩, begun, goesOn⟩ := bind_eq_ok_iff.mp read
    obtain ⟨front, rfl, formed, again⟩ := one.taken begun
    obtain ⟨middle, rfl, ended, again'⟩ := (two value rest begun).taken goesOn
    refine ⟨front ++ middle, (List.append_assoc _ _ _).symm, ?_, fun other same => ?_⟩
    · rw [List.map_append]
      exact joins value result _ _ formed ended
    · -- The first step stops where it did, since the tokens behind it begin as they did.
      rw [List.append_assoc, bind_step]
      exact bind_eq_ok_iff.mpr ⟨_, again _ (head?_append_congr same), again' other same⟩
  refused := by
    intro error failed
    rw [bind_step] at failed
    rcases bind_eq_error_iff.mp failed with stuck | ⟨⟨value, rest⟩, begun, stuck⟩
    · obtain ⟨front, back, rfl, placed, completed, fails⟩ := one.refused stuck
      refine ⟨front, back, rfl, placed, fun empty => ?_, fun found other same => ?_⟩
      · obtain ⟨value, more, formed⟩ := completed empty
        obtain ⟨result, tokens, ended⟩ := ends value _ formed
        refine ⟨result, more ++ tokens, ?_⟩
        rw [← List.append_assoc]
        exact joins value result _ _ formed ended
      · obtain ⟨error', failed⟩ := fails found other same
        refine ⟨error', ?_⟩
        rw [bind_step]
        exact bind_eq_error_iff.mpr (.inl failed)
    · obtain ⟨front, rfl, formed, again⟩ := one.taken begun
      obtain ⟨middle, back, rfl, placed, completed, fails⟩ :=
        (two value rest begun).refused stuck
      refine ⟨front ++ middle, back, (List.append_assoc _ _ _).symm, placed, fun empty => ?_,
        fun found other same => ?_⟩
      · obtain ⟨result, more, ended⟩ := completed empty
        refine ⟨result, more, ?_⟩
        rw [List.map_append, List.append_assoc]
        exact joins value result _ _ formed ended
      · obtain ⟨error', failed⟩ := fails found other same
        refine ⟨error', ?_⟩
        rw [List.append_assoc, bind_step]
        exact bind_eq_error_iff.mpr (.inr ⟨_, again _ (head?_append_congr same), failed⟩)

/-- The value does not matter for how a step looks ahead. -/
theorem map {step : Step α} {whole : β → List Token → Prop} {f : α → β}
    (prompt : PromptAt stop form step input)
    (formed : ∀ value tokens, form value tokens → whole (f value) tokens) :
    PromptAt stop whole (step >>= fun value => pure (f value)) input := by
  apply prompt.bind (fun value result tokens => result = f value ∧ tokens = [])
  · intro value rest _
    exact done _ (fun _ _ => rfl) ⟨rfl, rfl⟩
  · exact fun value _ _ => ⟨f value, [], rfl, rfl⟩
  · rintro value _ front _ first ⟨rfl, rfl⟩
    rw [List.append_nil]
    exact formed value front first

theorem imp {whole : α → List Token → Prop} (prompt : PromptAt stop form step input)
    (formed : ∀ value tokens, form value tokens → whole value tokens) :
    PromptAt stop whole step input := by
  have same := prompt.map (f := id) formed
  rwa [show (step >>= fun value => pure (id value)) = step from bind_pure step] at same

end PromptAt

/-! ## Tokens and operands -/

/-- A step that looks for something else than the next token is stuck before it. -/
theorem PromptAt.mismatch {α : Type} {stop : Nat} {form : α → List Token → Prop} {step : Step α}
    {input : List Lexeme} (what : Expectation) (value : α) (tokens : List Token)
    (refuses : ∀ other, other.head? = input.head? → step other = .error (mismatch stop what other))
    (formed : (PatternEngine.read? "").isSome → form value tokens) :
    PromptAt stop form step input := by
  apply PromptAt.refuse value tokens _ formed
  intro other same
  rw [refuses other same, place, ← same]
  cases other with
  | nil => exact ⟨_, rfl⟩
  | cons found rest => exact ⟨_, rfl⟩

/-- A reader that takes a token and returns what another one makes of the rest. -/
theorem PromptAt.behind_reader {α β : Type} {stop : Nat} {inner : β → List Token → Prop}
    {form : α → List Token → Prop} {reader : Reader α} {others : Reader β} {found : Lexeme}
    {rest : List Lexeme} {f : β → α}
    (goesOn : ∀ other, reader (found :: other) =
      others other >>= fun taken => pure ((taken.map f).behind found))
    (prompt : PromptAt stop inner (stepOf others) rest)
    (formed : ∀ value tokens, inner value tokens → form (f value) (found.token :: tokens)) :
    PromptAt stop form (stepOf reader) (found :: rest) := by
  apply PromptAt.behind [found] (stepOf others >>= fun value => pure (f value))
  · intro other
    rw [stepOf, List.singleton_append, goesOn]
    apply outcome_bind
    exact fun _ => rfl
  · exact prompt.map formed

end Laws

section Tokens

variable (stop : Nat)

theorem stepOf_readTag : stepOf (readTag stop) =
    stepOf (expect stop .openBracket .openBracketAfterTags) >>= fun _ => stepOf (readText stop) >>=
      fun name => stepOf (expect stop .closeBracket .closeBracket) >>= fun _ => pure name.1 := by
  funext input
  rw [stepOf, readTag]
  apply outcome_bind
  intro opening
  apply outcome_bind
  intro name
  apply outcome_bind
  intro closing
  rfl

variable [PatternEngine]

theorem prompt_expect (token : Token) (what : Expectation) (input : List Lexeme) :
    PromptAt stop (fun _ tokens => tokens = [token]) (stepOf (expect stop token what)) input := by
  fun_cases expect stop token what input with
  | case1 =>
    apply PromptAt.mismatch what () [token] _ fun _ => rfl
    intro other same
    rw [List.head?_eq_none_iff.mp same]
    rfl
  | case2 found rest expected =>
    apply PromptAt.behind [found] (pure ())
    · intro other
      rw [stepOf, List.singleton_append, expect, if_pos expected]
      rfl
    · exact .done _ (fun _ _ => rfl) (by simp [expected])
  | case3 found rest unexpected =>
    apply PromptAt.mismatch what () [token] _ fun _ => rfl
    intro other same
    obtain ⟨tail, rfl⟩ := List.head?_eq_some_iff.mp same
    rw [stepOf, expect, if_neg unexpected]
    rfl

theorem prompt_text (input : List Lexeme) :
    PromptAt stop (fun value tokens => tokens = [.text value.1]) (stepOf (readText stop))
      input := by
  fun_cases readText stop input with
  | case1 text offset rest =>
    exact .behind [⟨.text text, offset⟩] (pure (text, offset)) (fun _ => rfl)
      (.done _ (fun _ _ => rfl) rfl)
  | case2 input apart =>
    apply PromptAt.mismatch .text ("", 0) _ _ fun _ => rfl
    intro other same
    rw [stepOf, readText]
    · rfl
    · exact fun text offset => head?_apart same (apart text offset)

theorem prompt_tag (input : List Lexeme) :
    PromptAt stop (fun tag tokens => tokens = [.openBracket, .text tag, .closeBracket])
      (stepOf (readTag stop)) input := by
  rw [stepOf_readTag]
  apply (prompt_expect stop _ _ input).bind
    (fun _ tag tokens => tokens = [.text tag, .closeBracket])
  · intro _ rest _
    apply (prompt_text stop rest).bind
      (fun name tag tokens => tag = name.1 ∧ tokens = [.closeBracket])
    · intro name rest _
      exact (prompt_expect stop _ _ rest).map fun _ tokens closed => ⟨rfl, closed⟩
    · exact fun name _ _ => ⟨name.1, _, rfl, rfl⟩
    · rintro name _ _ _ rfl ⟨rfl, rfl⟩
      rfl
  · exact fun _ _ _ => ⟨"", _, rfl⟩
  · rintro _ tag _ _ rfl rfl
    rfl

theorem prompt_operand (input : List Lexeme) :
    PromptAt stop (fun operand tokens => tokens = operand.tokens) (stepOf (readOperand stop))
      input := by
  fun_cases readOperand stop input with
  | case1 value offset rest =>
    exact .behind [⟨.number value, offset⟩] (pure (.number value))
      (fun _ => rfl) (.done _ (fun _ _ => rfl) rfl)
  | case2 offset rest =>
    apply PromptAt.behind_reader (fun _ => rfl) (prompt_tag stop rest)
    rintro tag _ rfl
    rfl
  | case3 input number tag =>
    apply PromptAt.mismatch .operand (Operand.score "") _ _ fun _ => rfl
    intro other same
    rw [stepOf, readOperand]
    · rfl
    · exact fun value offset => head?_apart same (number value offset)
    · exact fun offset => head?_apart same (tag offset)

end Tokens

/-! ## Tests -/

section Tests

variable (stop : Nat)

/-- What stands behind a tag: a comparison, or nothing that belongs to the test. -/
def afterTag (tag : String) : Step Expr
  | ⟨.comparison comparison, _⟩ :: rest =>
    (stepOf (readOperand stop) >>= fun right => pure (.compare (.score tag) comparison right)) rest
  | rest => .ok (.present tag, rest)

theorem stepOf_readScoreTest_tags (offset : Nat) (input : List Lexeme) :
    stepOf (readScoreTest stop) (⟨.name "tags", offset⟩ :: input) =
      (stepOf (readTag stop) >>= afterTag stop) input := by
  change outcome ((readTag stop input >>= _) >>= _) = outcome (readTag stop input) >>= _
  cases readTag stop input with
  | error => rfl
  | ok tag =>
    obtain ⟨tag, rest, shorter⟩ := tag
    change _ = afterTag stop tag rest
    cases rest with
    | nil => rfl
    | cons next rest =>
      obtain ⟨token, after⟩ := next
      cases token with
      | comparison comparison =>
        rw [afterTag]
        change outcome (readOperand stop rest >>= _) = _
        apply outcome_bind
        exact fun _ => rfl
      | _ => rfl

/-- What stands behind the opening bracket of a list. -/
def listBody : Step (List String)
  | ⟨.closeBracket, offset⟩ :: _ => .error ⟨offset, .emptyFamilyList⟩
  | input => (stepOf (readText stop) >>= fun first => stepOf (readNames stop) >>= fun others =>
      pure (first.1 :: others)) input

theorem stepOf_readFamilyList : stepOf (readFamilyList stop) =
    stepOf (expect stop .openBracket .openBracket) >>= fun _ => listBody stop := by
  funext input
  rw [stepOf, readFamilyList]
  apply outcome_bind
  rintro ⟨_, rest, shorter⟩
  dsimp only
  split
  · rfl
  next apart =>
    rw [listBody]
    · apply outcome_bind
      intro first
      apply outcome_bind
      exact fun _ => rfl
    · exact apart

variable [PatternEngine] {levels : Nat}

/-- A number needs a comparison behind it, and the error of a missing one is at the number. -/
theorem prompt_scoreTest_number (value : Single) (offset : Nat) (rest : List Lexeme) :
    PromptAt stop (fun _ => Sentence Scattered levels .unary) (stepOf (readScoreTest stop))
      (⟨.number value, offset⟩ :: rest) := by
  have formed : Sentence Scattered levels .unary _ :=
    .compare (.number value) .equal (.number value)
  cases rest with
  | nil => exact .bare (.literal true) rfl formed
  | cons next rest =>
    obtain ⟨token, after⟩ := next
    cases token with
    | comparison comparison =>
      apply PromptAt.behind [⟨.number value, offset⟩, ⟨.comparison comparison, after⟩]
        (stepOf (readOperand stop) >>= fun right =>
          pure (.compare (.number value) comparison right))
      · intro other
        change outcome (readOperand stop other >>= _) = _
        apply outcome_bind
        exact fun _ => rfl
      · apply (prompt_operand stop rest).map
        rintro right _ rfl
        exact .compare (.number value) comparison right
    | _ => exact .bare (.literal true) rfl formed

theorem prompt_afterTag (tag : String) (input : List Lexeme) :
    PromptAt stop (fun _ tokens =>
      Sentence Scattered levels .unary ((Operand.score tag).tokens ++ tokens))
      (afterTag stop tag) input := by
  fun_cases afterTag stop tag input with
  | case1 comparison offset rest =>
    apply PromptAt.behind [⟨.comparison comparison, offset⟩] _ (fun _ => rfl)
    apply (prompt_operand stop rest).map
    rintro right _ rfl
    exact .compare (.score tag) comparison right
  | case2 input apart =>
    apply PromptAt.done (.present tag)
    · intro other same
      rw [afterTag]
      exact fun comparison offset => head?_apart same (apart comparison offset)
    · rw [List.append_nil]
      exact .present tag

theorem prompt_scoreTest_tags (offset : Nat) (rest : List Lexeme) :
    PromptAt stop (fun _ => Sentence Scattered levels .unary) (stepOf (readScoreTest stop))
      (⟨.name "tags", offset⟩ :: rest) := by
  apply PromptAt.behind [⟨.name "tags", offset⟩] _ (stepOf_readScoreTest_tags stop offset)
  apply (prompt_tag stop rest).bind
    (fun tag _ tokens =>
      Sentence Scattered levels .unary ((Operand.score tag).tokens ++ tokens))
  · exact fun tag rest _ => prompt_afterTag stop tag rest
  · intro tag _ _
    exact ⟨.present tag, [], (List.append_nil _).symm ▸ .present tag⟩
  · rintro tag test _ back rfl sentence
    exact sentence

theorem prompt_names (input : List Lexeme) :
    PromptAt stop (fun names tokens => ∃ inside, tokens = inside ++ [.closeBracket] ∧
      Strewn names inside) (stepOf (readNames stop)) input := by
  fun_induction readNames stop input with
  | case1 offset rest =>
    exact .behind [⟨.closeBracket, offset⟩] (pure []) (fun _ => rfl)
      (.done _ (fun _ _ => rfl) ⟨[], rfl, .nil⟩)
  | case2 offset rest ih =>
    apply PromptAt.behind_reader (f := id) (fun _ => rfl) ih
    rintro names _ ⟨inside, rfl, strewn⟩
    exact ⟨.comma :: inside, rfl, .comma strewn⟩
  | case3 name offset rest ih =>
    apply PromptAt.behind_reader (fun _ => rfl) ih
    rintro names _ ⟨inside, rfl, strewn⟩
    exact ⟨.text name :: inside, rfl, .name name strewn⟩
  | case4 input close comma text =>
    apply PromptAt.mismatch .text [] _ _ fun _ => ⟨[], rfl, .nil⟩
    intro other same
    rw [stepOf, readNames]
    · rfl
    · exact fun offset => head?_apart same (close offset)
    · exact fun offset => head?_apart same (comma offset)
    · exact fun name offset => head?_apart same (text name offset)

theorem prompt_listBody (input : List Lexeme) :
    PromptAt stop (fun _ tokens => ∃ inside, tokens = inside ++ [.closeBracket] ∧ Scattered inside)
      (listBody stop) input := by
  fun_cases listBody stop input with
  | case1 offset rest =>
    apply PromptAt.refuse [""] [.text "", .closeBracket]
    · intro other same
      obtain ⟨tail, rfl⟩ := List.head?_eq_some_iff.mp same
      exact ⟨_, rfl⟩
    · exact fun _ => ⟨[.text ""], rfl, _, _, _, rfl, .nil⟩
  | case2 input apart =>
    apply PromptAt.congr
    · intro other same
      rw [listBody]
      exact fun offset => head?_apart same (apart offset)
    apply (prompt_text stop input).bind
      (fun _ _ tokens => ∃ inside names, tokens = inside ++ [.closeBracket] ∧
        Strewn names inside)
    · intro first rest _
      apply (prompt_names stop rest).map
      rintro names _ ⟨inside, rfl, strewn⟩
      exact ⟨inside, names, rfl, strewn⟩
    · exact fun _ _ _ => ⟨[], _, [], [], rfl, .nil⟩
    · rintro first _ _ _ rfl ⟨inside, names, rfl, strewn⟩
      exact ⟨.text first.1 :: inside, rfl, first.1, names, inside, rfl, strewn⟩

theorem prompt_familyList (input : List Lexeme) :
    PromptAt stop (fun _ tokens => ∃ inside, tokens = .openBracket :: inside ++ [.closeBracket] ∧
      Scattered inside) (stepOf (readFamilyList stop)) input := by
  rw [stepOf_readFamilyList]
  apply (prompt_expect stop _ _ input).bind
    (fun _ _ tokens => ∃ inside, tokens = inside ++ [.closeBracket] ∧ Scattered inside)
  · exact fun _ rest _ => prompt_listBody stop rest
  · exact fun _ _ _ => ⟨[], _, [.text ""], rfl, _, _, _, rfl, .nil⟩
  · rintro _ _ _ _ rfl ⟨inside, rfl, scattered⟩
    exact ⟨inside, rfl, scattered⟩

/-- The text of a pattern.  One that is no pattern is refused where it stands. -/
def patternText : Step Expr
  | ⟨.text text, offset⟩ :: rest =>
    match PatternEngine.read? text with
    | some isFoundIn => .ok (.familyLike isFoundIn, rest)
    | none => .error ⟨offset, .invalidPattern⟩
  | input => .error (mismatch stop .text input)

theorem prompt_patternText (input : List Lexeme) :
    PromptAt stop
      (fun _ tokens => ∃ text, (PatternEngine.read? text).isSome ∧ tokens = [.text text])
      (patternText stop) input := by
  fun_cases patternText stop input with
  | case1 text offset rest isFoundIn accepted =>
    apply PromptAt.behind [⟨.text text, offset⟩] (pure (.familyLike isFoundIn))
    · intro other
      rw [List.singleton_append, patternText, accepted]
      rfl
    · exact .done _ (fun _ _ => rfl) ⟨text, Option.isSome_of_eq_some accepted, rfl⟩
  | case2 text offset rest rejected =>
    -- Another pattern could have stood here, the empty one.
    apply PromptAt.refuse (.literal true) _ _ fun empty => ⟨"", empty, rfl⟩
    intro other same
    obtain ⟨tail, rfl⟩ := List.head?_eq_some_iff.mp same
    rw [patternText, rejected]
    exact ⟨_, rfl⟩
  | case3 input apart =>
    apply PromptAt.mismatch .text (.literal true) _ _ fun empty => ⟨"", empty, rfl⟩
    intro other same
    rw [patternText]
    exact fun text offset => head?_apart same (apart text offset)

theorem stepOf_readFamilyTest_like (offset : Nat) (input : List Lexeme) :
    stepOf (readFamilyTest stop) (⟨.resembles, offset⟩ :: input) = patternText stop input := by
  rw [stepOf, readFamilyTest]
  fun_cases patternText stop input with
  | case1 text offset rest isFoundIn accepted =>
    simp only [readText, bind, Except.bind, Taken.head, accepted]
    rfl
  | case2 text offset rest rejected =>
    simp only [readText, bind, Except.bind, Taken.head, rejected]
    rfl
  | case3 input apart =>
    rw [readText]
    · rfl
    · exact apart

theorem prompt_familyTest (input : List Lexeme) :
    PromptAt stop (fun _ tokens => Sentence Scattered levels .unary (.name "family" :: tokens))
      (stepOf (readFamilyTest stop)) input := by
  fun_cases readFamilyTest stop input with
  | case1 offset rest =>
    apply PromptAt.behind_reader (fun _ => rfl) (prompt_text stop rest)
    rintro name _ rfl
    exact .familyIs name.1
  | case2 offset rest =>
    apply PromptAt.behind_reader (fun _ => rfl) (prompt_text stop rest)
    rintro name _ rfl
    exact .familyIsNot name.1
  | case3 offset rest =>
    apply PromptAt.behind_reader (fun _ => rfl) (prompt_familyList stop rest)
    rintro names _ ⟨inside, rfl, scattered⟩
    exact .familyIn scattered
  | case4 offset rest =>
    apply PromptAt.behind [⟨.resembles, offset⟩] _
      (stepOf_readFamilyTest_like stop offset)
    apply (prompt_patternText stop rest).imp
    rintro _ _ ⟨text, accepted, rfl⟩
    exact .familyLike accepted
  | case5 input equal unequal list pattern =>
    apply PromptAt.mismatch .familyTest (.literal true) _ _ fun _ => .familyIs ""
    intro other same
    rw [stepOf, readFamilyTest]
    · rfl
    · exact fun offset => head?_apart same (equal offset)
    · exact fun offset => head?_apart same (unequal offset)
    · exact fun offset => head?_apart same (list offset)
    · exact fun offset => head?_apart same (pattern offset)

end Tests

/-! ## Chains -/

section Chains

variable {α : Type} {stop : Nat} {separator : Token} {item : Reader α}

theorem length_of_stepOf {input rest : List Lexeme} {value : α}
    (read : stepOf item input = .ok (value, rest)) : rest.length < input.length := by
  unfold stepOf outcome at read
  cases taken : item input with
  | error => simp [taken, Except.map] at read
  | ok first =>
    rw [taken] at read
    cases read
    exact first.shorter

/-- What stands behind an item: a separator and more items, or nothing that belongs to the chain. -/
def furtherItems (separator : Token) (item : Reader α) (first : α) : Step (List α)
  | found :: rest =>
    if found.token = separator then
      (stepOf (chain separator item) >>= fun others => pure (first :: others)) rest
    else .ok ([first], found :: rest)
  | [] => .ok ([first], [])

theorem stepOf_chain :
    stepOf (chain separator item) = stepOf item >>= furtherItems separator item := by
  funext input
  change _ = outcome (item input) >>= fun out => furtherItems separator item out.1 out.2
  rw [stepOf, chain]
  cases item input with
  | error => rfl
  | ok first =>
    obtain ⟨value, rest, shorter⟩ := first
    cases rest with
    | nil => rfl
    | cons found rest =>
      change _ = furtherItems separator item value (found :: rest)
      by_cases same : found.token = separator
      · simp only [furtherItems, if_pos same]
        change _ = outcome (chain separator item rest) >>= _
        cases chain separator item rest <;> rfl
      · simp only [furtherItems, if_neg same]
        rfl

variable [PatternEngine]

theorem prompt_furtherItems {whole : List Token → Prop} (first : α) {rest : List Lexeme}
    (others : ∀ tail, tail.length < rest.length →
      PromptAt stop (fun _ => whole) (stepOf (chain separator item)) tail) :
    PromptAt stop (fun _ tokens => tokens = [] ∨ ∃ back, tokens = separator :: back ∧ whole back)
      (furtherItems separator item first) rest := by
  cases rest with
  | nil =>
    apply PromptAt.done [first] _ (.inl rfl)
    intro other same
    rw [List.head?_eq_none_iff.mp same]
    rfl
  | cons found rest =>
    by_cases same : found.token = separator
    · apply PromptAt.behind [found]
        (stepOf (chain separator item) >>= fun others => pure (first :: others))
      · intro other
        rw [List.singleton_append, furtherItems, if_pos same]
      · apply (others rest (Nat.lt_succ_self _)).map
        intro _ tokens formed
        exact .inr ⟨tokens, by simp [same], formed⟩
    · apply PromptAt.done [first] _ (.inl rfl)
      intro other begins
      obtain ⟨tail, rfl⟩ := List.head?_eq_some_iff.mp begins
      rw [furtherItems, if_neg same]

theorem prompt_chain {form whole : List Token → Prop}
    (prompt : ∀ input, PromptAt stop (fun _ => form) (stepOf item) input)
    (last : ∀ front, form front → whole front)
    (more : ∀ front back, form front → whole back → whole (front ++ separator :: back))
    (input : List Lexeme) :
    PromptAt stop (fun _ => whole) (stepOf (chain separator item)) input := by
  -- Every item takes something off, so what stands behind its separator is shorter.
  induction size : input.length using Nat.strong_induction_on generalizing input with
  | _ size ih =>
  subst size
  rw [stepOf_chain]
  apply (prompt input).bind (fun _ _ tokens =>
    tokens = [] ∨ ∃ back, tokens = separator :: back ∧ whole back)
  · intro first rest read
    have shorter := length_of_stepOf read
    apply prompt_furtherItems
    exact fun tail fewer => ih tail.length (Nat.lt_trans fewer shorter) tail rfl
  · exact fun first _ _ => ⟨[first], [], .inl rfl⟩
  · rintro _ _ front _ formed (rfl | ⟨back, rfl, following⟩)
    · rw [List.append_nil]
      exact last front formed
    · exact more front back formed following

end Chains

/-! ## Levels -/

section Levels

variable [PatternEngine] {levels : Nat}

theorem prompt_conjunction {stop : Nat} {unary : Reader Expr}
    (prompt : ∀ input, PromptAt stop (fun _ => Sentence Scattered levels .unary) (stepOf unary)
      input) (input : List Lexeme) :
    PromptAt stop (fun _ => Sentence Scattered levels .conjunction)
      (stepOf (readConjunction unary)) input := by
  have same : stepOf (readConjunction unary) =
      stepOf (chain .and unary) >>= fun terms => pure (allOf terms) := by
    funext input
    exact outcome_bind fun _ => rfl
  rw [same]
  exact (prompt_chain prompt (fun _ => .unary) (fun _ _ => .and) input).map fun _ _ => id

theorem prompt_disjunction {stop : Nat} {unary : Reader Expr}
    (prompt : ∀ input, PromptAt stop (fun _ => Sentence Scattered levels .unary) (stepOf unary)
      input) (input : List Lexeme) :
    PromptAt stop (fun _ => Sentence Scattered levels .disjunction)
      (stepOf (readDisjunction unary)) input := by
  have same : stepOf (readDisjunction unary) =
      stepOf (chain .or (readConjunction unary)) >>= fun terms => pure (anyOf terms) := by
    funext input
    exact outcome_bind fun _ => rfl
  rw [same]
  exact (prompt_chain (prompt_conjunction prompt) (fun _ => .conjunction) (fun _ _ => .or)
    input).map fun _ _ => id

/-- One level is prompt if the level below it is, where there is one. -/
theorem prompt_level (stop : Nat) (inner : Option (Reader Expr))
    (below : ∀ unary ∈ inner, ∃ fewer, levels = fewer + 1 ∧ ∀ input,
      PromptAt stop (fun _ => Sentence Scattered fewer .unary) (stepOf unary) input)
    (input : List Lexeme) :
    PromptAt stop (fun _ => Sentence Scattered levels .unary) (stepOf (readLevel stop inner))
      input := by
  have literal (value : Bool) : Sentence Scattered levels .unary _ := .literal value
  fun_cases readLevel stop inner input with
  | case1 offset rest =>
    apply PromptAt.refuse (.literal true) _ _ fun _ => literal true
    intro other same
    obtain ⟨tail, rfl⟩ := List.head?_eq_some_iff.mp same
    exact ⟨_, rfl⟩
  | case2 offset rest unary =>
    obtain ⟨fewer, rfl, prompt⟩ := below unary rfl
    apply PromptAt.behind_reader (fun _ => rfl) (prompt rest)
    exact fun _ _ negated => .not negated
  | case3 offset rest =>
    apply PromptAt.refuse (.literal true) _ _ fun _ => literal true
    intro other same
    obtain ⟨tail, rfl⟩ := List.head?_eq_some_iff.mp same
    exact ⟨_, rfl⟩
  | case4 offset rest unary =>
    obtain ⟨fewer, rfl, prompt⟩ := below unary rfl
    apply PromptAt.behind [⟨.openParen, offset⟩]
      (stepOf (readDisjunction unary) >>= fun body =>
        stepOf (expect stop .closeParen .closeParen) >>= fun _ => pure body)
    · intro other
      apply outcome_bind
      intro body
      apply outcome_bind
      exact fun _ => rfl
    · apply (prompt_disjunction prompt rest).bind
        (fun _ _ tokens => tokens = [.closeParen])
      · exact fun _ rest _ => (prompt_expect stop _ _ rest).map fun _ _ => id
      · exact fun body _ _ => ⟨body, _, rfl⟩
      · rintro _ _ front _ sentence rfl
        exact .group sentence
  | case5 _ offset rest =>
    exact .behind [⟨.name "true", offset⟩] (pure (.literal true))
      (fun _ => rfl) (.done _ (fun _ _ => rfl) (literal true))
  | case6 _ offset rest =>
    exact .behind [⟨.name "false", offset⟩] (pure (.literal false))
      (fun _ => rfl) (.done _ (fun _ _ => rfl) (literal false))
  | case7 _ offset rest =>
    exact .behind_reader (f := id) (fun _ => rfl) (prompt_familyTest stop rest) fun _ _ => id
  | case8 _ offset rest =>
    apply (prompt_scoreTest_tags stop offset rest).congr
    intro other same
    obtain ⟨tail, rfl⟩ := List.head?_eq_some_iff.mp same
    rfl
  | case9 _ value offset rest =>
    apply (prompt_scoreTest_number stop value offset rest).congr
    intro other same
    obtain ⟨tail, rfl⟩ := List.head?_eq_some_iff.mp same
    rfl
  | case10 _ input bang paren yes no family tags number =>
    apply PromptAt.mismatch .expression (.literal true) _ _ fun _ => literal true
    intro other same
    rw [stepOf, readLevel]
    · rfl
    · exact fun offset => head?_apart same (bang offset)
    · exact fun offset => head?_apart same (paren offset)
    · exact fun offset => head?_apart same (yes offset)
    · exact fun offset => head?_apart same (no offset)
    · exact fun offset => head?_apart same (family offset)
    · exact fun offset => head?_apart same (tags offset)
    · exact fun value offset => head?_apart same (number value offset)

theorem prompt_unary (stop levels : Nat) (input : List Lexeme) :
    PromptAt stop (fun _ => Sentence Scattered levels .unary) (stepOf (readUnary stop levels))
      input := by
  induction levels generalizing input with
  | zero => exact prompt_level stop none nofun input
  | succ levels ih =>
    apply prompt_level stop
    -- The reader inside is the one with a level less.
    rintro _ ⟨⟩
    exact ⟨levels, rfl, ih⟩

/-! ## Whole sources -/

/-- What stands behind the expression of a whole source: nothing. -/
def ending (expr : Expr) : Step Expr
  | [] => .ok (expr, [])
  | extra :: _ => .error ⟨extra.offset, .unexpected extra.token⟩

theorem readAll_eq (stop : Nat) (input : List Lexeme) :
    readAll stop input =
      ((stepOf (readDisjunction (readUnary stop depthLimit)) >>= ending) input).map Prod.fst := by
  change _ = (outcome _ >>= fun out => ending out.1 out.2).map Prod.fst
  rw [readAll]
  cases readDisjunction (readUnary stop depthLimit) input with
  | error => rfl
  | ok expr =>
    obtain ⟨expr, rest, shorter⟩ := expr
    cases rest <;> rfl

theorem prompt_all (stop : Nat) (input : List Lexeme) :
    PromptAt stop (fun _ => Sentence Scattered depthLimit .disjunction)
      (stepOf (readDisjunction (readUnary stop depthLimit)) >>= ending) input := by
  apply (prompt_disjunction (prompt_unary stop depthLimit) input).bind
    (fun _ _ tokens => tokens = [])
  · intro expr rest _
    cases rest with
    | nil =>
      apply PromptAt.done expr _ rfl
      intro other same
      rw [List.head?_eq_none_iff.mp same]
      rfl
    | cons extra rest =>
      apply PromptAt.refuse expr _ _ fun _ => rfl
      intro other same
      obtain ⟨tail, rfl⟩ := List.head?_eq_some_iff.mp same
      exact ⟨_, rfl⟩
  · exact fun expr _ _ => ⟨expr, [], rfl⟩
  · rintro _ _ front _ sentence rfl
    rwa [List.append_nil]

end Levels

end FontScores.Rule
