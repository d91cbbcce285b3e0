import Mathlib
import FontScores.Proofs.Reading
import FontScores.Proofs.Rule.Parsing

/-!
# How high an expression is

An expression is evaluated by going down to its parts, so its height says how many calls are open at
once.  A chain is one expression over all its terms, however many there are; only a level of nesting
makes an expression higher, by two at most, because a group can be a disjunction of conjunctions.
-/

namespace FontScores.Rule

namespace Expr

mutual

/-- The number of expressions on the longest way down, this one included. -/
def height : Expr → Nat
  | not inner => inner.height + 1
  | all terms => heights terms + 1
  | any terms => heights terms + 1
  | _ => 1

/-- The height of the highest of several expressions. -/
def heights : List Expr → Nat
  | [] => 0
  | term :: others => max term.height (heights others)

end

/-- Evaluates with so many calls open at most, one in another; nothing if that is not enough. -/
def evalWithin (context : RuleContext) : Nat → Expr → Option Bool
  | 0, _ => none
  | calls + 1, not inner => (evalWithin context calls inner).map fun value => !value
  | calls + 1, all terms => terms.allM (evalWithin context calls)
  | calls + 1, any terms => terms.anyM (evalWithin context calls)
  | _ + 1, test => some (test.eval context)

theorem heights_le_iff {terms : List Expr} {bound : Nat} :
    heights terms ≤ bound ↔ ∀ term ∈ terms, term.height ≤ bound := by
  induction terms with
  | nil => simp [heights]
  | cons term others ih => simp [heights, ih]

section Evaluation

variable {context : RuleContext} {terms : List Expr} {within : Expr → Option Bool}

theorem allM_eq (each : ∀ term ∈ terms, within term = some (term.eval context)) :
    terms.allM within = some (evalAll context terms) := by
  induction terms with
  | nil => rfl
  | cons term others ih =>
    have rest := ih fun other member => each other (List.mem_cons_of_mem term member)
    rw [List.allM, each term List.mem_cons_self, evalAll]
    cases term.eval context
    · rfl
    · exact rest

theorem anyM_eq (each : ∀ term ∈ terms, within term = some (term.eval context)) :
    terms.anyM within = some (evalAny context terms) := by
  induction terms with
  | nil => rfl
  | cons term others ih =>
    have rest := ih fun other member => each other (List.mem_cons_of_mem term member)
    rw [List.anyM, each term List.mem_cons_self, evalAny]
    cases term.eval context
    · exact rest
    · rfl

/-- As many calls as the expression is high are enough. -/
theorem evalWithin_eq (context : RuleContext) {calls : Nat} {expr : Expr}
    (enough : expr.height ≤ calls) : expr.evalWithin context calls = some (expr.eval context) := by
  induction calls generalizing expr with
  | zero => cases expr <;> simp [height] at enough
  | succ calls ih =>
    cases expr with
    | not inner =>
      rw [height, Nat.succ_le_succ_iff] at enough
      rw [evalWithin, ih enough, eval]
      rfl
    | all terms =>
      rw [height, Nat.succ_le_succ_iff, heights_le_iff] at enough
      rw [evalWithin, eval]
      exact allM_eq fun term member => ih (enough term member)
    | any terms =>
      rw [height, Nat.succ_le_succ_iff, heights_le_iff] at enough
      rw [evalWithin, eval]
      exact anyM_eq fun term member => ih (enough term member)
    | _ => rfl

end Evaluation

end Expr

/-! ## What readers return -/

section Readers

variable {α : Type} {stop bound : Nat} {input : List Lexeme}

theorem height_allOf_le {terms : List Expr} (each : ∀ term ∈ terms, term.height ≤ bound) :
    (allOf terms).height ≤ bound + 1 := by
  unfold allOf
  split
  next only => exact Nat.le_succ_of_le (each only (by simp))
  next => exact Nat.succ_le_succ (Expr.heights_le_iff.mpr each)

theorem height_anyOf_le {terms : List Expr} (each : ∀ term ∈ terms, term.height ≤ bound) :
    (anyOf terms).height ≤ bound + 1 := by
  unfold anyOf
  split
  next only => exact Nat.le_succ_of_le (each only (by simp))
  next => exact Nat.succ_le_succ (Expr.heights_le_iff.mpr each)

/-- What holds of every item holds of all items of a chain, however long it is. -/
theorem forall_of_chain {P : α → Prop} {separator : Token} {item : Reader α}
    (each : ∀ input taken, item input = .ok taken → P taken.value) {taken : Taken (List α) input}
    (read : chain separator item input = .ok taken) : ∀ value ∈ taken.value, P value := by
  fun_induction chain separator item input with
  | case1 => cases read
  | case2 => cases read
  | case3 input first begun found rest after same _ others more ih =>
    cases read
    exact List.forall_mem_cons.mpr ⟨each input first begun, ih more⟩
  | case4 input first begun | case5 input first begun =>
    cases read
    exact List.forall_mem_singleton.mpr (each input first begun)

theorem height_disjunction_le {unary : Reader Expr}
    (each : ∀ input taken, unary input = .ok taken → taken.value.height ≤ bound)
    {taken : Taken Expr input} (read : readDisjunction unary input = .ok taken) :
    taken.value.height ≤ bound + 2 := by
  obtain ⟨conjunctions, chained, same⟩ := bind_eq_ok_iff.mp read
  cases same
  refine height_anyOf_le (forall_of_chain ?_ chained)
  intro input taken read
  obtain ⟨terms, chained, same⟩ := bind_eq_ok_iff.mp read
  cases same
  exact height_allOf_le (forall_of_chain each chained)

theorem height_scoreTest_le {taken : Taken Expr input}
    (read : readScoreTest stop input = .ok taken) : taken.value.height ≤ 2 := by
  obtain ⟨left, _, read⟩ := bind_eq_ok_iff.mp read
  split at read
  · obtain ⟨right, _, same⟩ := bind_eq_ok_iff.mp read
    cases same
    exact Nat.le_succ 1
  · split at read
    · cases read
      exact Nat.le_succ 1
    · cases read

/-- The negated name makes two: it is a test with a negation around it. -/
theorem height_familyTest_le [PatternEngine] {taken : Taken Expr input}
    (read : readFamilyTest stop input = .ok taken) : taken.value.height ≤ 2 := by
  unfold readFamilyTest at read
  split at read
  · obtain ⟨name, _, same⟩ := bind_eq_ok_iff.mp read
    cases same
    exact Nat.le_succ 1
  · obtain ⟨name, _, same⟩ := bind_eq_ok_iff.mp read
    cases same
    exact Nat.le_refl 2
  · obtain ⟨names, _, same⟩ := bind_eq_ok_iff.mp read
    cases same
    exact Nat.le_succ 1
  · obtain ⟨written, _, read⟩ := bind_eq_ok_iff.mp read
    split at read
    · cases read
      exact Nat.le_succ 1
    · cases read
  · cases read

/-- A level adds two to what is below it, where there is something below it. -/
theorem height_level_le [PatternEngine] {inner : Option (Reader Expr)} {taken : Taken Expr input}
    (read : readLevel stop inner input = .ok taken)
    (below : ∀ unary ∈ inner, ∃ low, bound = low + 2 ∧
      ∀ input taken, unary input = .ok taken → taken.value.height ≤ low)
    (least : 2 ≤ bound) : taken.value.height ≤ bound := by
  unfold readLevel at read
  split at read
  · split at read
    · cases read
    next unary =>
      obtain ⟨low, rfl, each⟩ := below unary rfl
      obtain ⟨negated, begun, same⟩ := bind_eq_ok_iff.mp read
      cases same
      exact Nat.le_succ_of_le (Nat.succ_le_succ (each _ negated begun))
  · split at read
    · cases read
    next unary =>
      obtain ⟨low, rfl, each⟩ := below unary rfl
      obtain ⟨body, begun, closing⟩ := bind_eq_ok_iff.mp read
      obtain ⟨closed, _, same⟩ := bind_eq_ok_iff.mp closing
      cases same
      have within := height_disjunction_le each begun
      exact within
  · cases read
    exact Nat.le_of_succ_le least
  · cases read
    exact Nat.le_of_succ_le least
  · obtain ⟨test, begun, same⟩ := bind_eq_ok_iff.mp read
    cases same
    exact (height_familyTest_le begun).trans least
  · exact (height_scoreTest_le read).trans least
  · exact (height_scoreTest_le read).trans least
  · cases read

theorem height_unary_le [PatternEngine] {levels : Nat} {taken : Taken Expr input}
    (read : readUnary stop levels input = .ok taken) : taken.value.height ≤ 2 * levels + 2 := by
  induction levels generalizing input with
  | zero =>
    have read : readLevel stop none input = .ok taken := read
    exact height_level_le read nofun (Nat.le_refl 2)
  | succ levels ih =>
    refine height_level_le read ?_ (by omega)
    rintro _ ⟨⟩
    exact ⟨2 * levels + 2, by omega, fun input taken => ih⟩

end Readers

/-- A rule is no higher than its levels of nesting allow. -/
theorem height_compile_le [PatternEngine] {source : String} {expr : Expr}
    (compiled : compile source = .ok expr) :
    expr.height ≤ 2 * (depthLimit + 1) + 2 := by
  obtain ⟨lexed, _, read⟩ := bind_eq_ok_iff.mp compiled
  obtain ⟨whole, read, ended⟩ := bind_eq_ok_iff.mp read
  have low := height_disjunction_le (fun input taken => height_unary_le) read
  split at ended
  · cases ended
    exact low
  · cases ended

end FontScores.Rule
