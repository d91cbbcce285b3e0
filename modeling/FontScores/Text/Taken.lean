/-!
# What a reader takes from its input

A reader that succeeds has taken something from the front of its input: it returns a value and the
rest, with the fact that the rest is shorter.  Readers that call themselves on the rest end because
of it.
-/

namespace FontScores

/-- A value read from the front of `input`, and what is left of it. -/
structure Taken {α : Type} (β : Type) (input : List α) where
  value : β
  rest : List α
  shorter : rest.length < input.length

namespace Taken

variable {α β γ : Type} {input : List α}

/-- Takes the first element alone. -/
def head {first : α} (value : β) : Taken β (first :: input) :=
  ⟨value, input, Nat.lt_succ_self _⟩

def map (f : β → γ) (taken : Taken β input) : Taken γ input :=
  ⟨f taken.value, taken.rest, taken.shorter⟩

/-- What was taken from a shorter input was taken from a longer one with the same rest. -/
def widen {other : List α} (taken : Taken β input) (fewer : input.length ≤ other.length) :
    Taken β other :=
  ⟨taken.value, taken.rest, Nat.lt_of_lt_of_le taken.shorter fewer⟩

/-- What was taken behind the first element was taken from the whole. -/
def behind (first : α) (taken : Taken β input) : Taken β (first :: input) :=
  taken.widen (Nat.le_succ _)

end Taken

theorem length_dropWhile_le {α : Type} (p : α → Bool) (input : List α) :
    (input.dropWhile p).length ≤ input.length :=
  (List.dropWhile_sublist p).length_le

end FontScores
