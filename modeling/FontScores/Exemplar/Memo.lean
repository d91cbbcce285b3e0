import FontScores.Exemplar.Selection

/-!
# Remembered exemplars

Exemplars are picked once per tag and remembered until they are forgotten, by tag or all together.
-/

namespace FontScores

structure ExemplarMemo where
  entries : List (String × Exemplars)
deriving DecidableEq

namespace ExemplarMemo

def empty : ExemplarMemo := ⟨[]⟩

def get? (memo : ExemplarMemo) (tag : String) : Option Exemplars :=
  (memo.entries.find? (·.1 = tag)).map Prod.snd

/-- Remembers the exemplars of a tag of which none are remembered. -/
def remember (memo : ExemplarMemo) (tag : String) (exemplars : Exemplars) : ExemplarMemo :=
  ⟨(tag, exemplars) :: memo.entries⟩

/-- The remembered exemplars of a tag, or else those given, which are then remembered. -/
def «recall» (memo : ExemplarMemo) (tag : String) (fresh : Exemplars) : Exemplars × ExemplarMemo :=
  match memo.get? tag with
  | some exemplars => (exemplars, memo)
  | none => (fresh, memo.remember tag fresh)

def forget (memo : ExemplarMemo) (tag : String) : ExemplarMemo :=
  ⟨memo.entries.filter (·.1 ≠ tag)⟩

theorem get?_empty (tag : String) : empty.get? tag = none := rfl

theorem get?_remember (memo : ExemplarMemo) (tag other : String) (exemplars : Exemplars) :
    (memo.remember tag exemplars).get? other =
      if tag = other then some exemplars else memo.get? other := by
  by_cases same : tag = other <;> simp [remember, get?, same]

theorem get?_forget (memo : ExemplarMemo) (tag other : String) :
    (memo.forget tag).get? other = if other = tag then none else memo.get? other := by
  have kept (entry : String × Exemplars) (different : other ≠ tag) :
      (!decide (entry.1 = tag) && decide (entry.1 = other)) = decide (entry.1 = other) := by
    by_cases h : entry.1 = other <;> simp [h, different]
  by_cases same : other = tag
  · subst same
    simp [forget, get?, List.find?_filter]
  · simp [forget, get?, List.find?_filter, kept _ same, same]

end ExemplarMemo

end FontScores
