import Mathlib
import FontScores.Text.Taken

/-!
# Readers in stages

What follows from the success or the failure of a reader that works in stages, each of which can
fail.
-/

namespace FontScores

variable {ε α β : Type} {stage : Except ε α} {next : α → Except ε β}

theorem bind_eq_ok_iff {result : β} :
    stage >>= next = .ok result ↔ ∃ value, stage = .ok value ∧ next value = .ok result := by
  cases stage <;> simp [bind, Except.bind]

theorem bind_eq_error_iff {error : ε} :
    stage >>= next = .error error ↔
      stage = .error error ∨ ∃ value, stage = .ok value ∧ next value = .error error := by
  cases stage <;> simp [bind, Except.bind]

theorem map_eq_ok_iff {f : α → β} {result : β} :
    stage.map f = .ok result ↔ ∃ value, stage = .ok value ∧ f value = result := by
  cases stage <;> simp [Except.map]

theorem map_eq_error_iff {f : α → β} {error : ε} :
    stage.map f = .error error ↔ stage = .error error := by
  cases stage <;> simp [Except.map]

/-- A stage that is followed by none that can fail. -/
theorem exists_bind_ok_iff {f : α → β} :
    (∃ result, (stage >>= fun value => .ok (f value)) = .ok result) ↔
      ∃ value, stage = .ok value := by
  cases stage <;> simp [bind, Except.bind]

/-- A stage is only seen through what the next one makes of it. -/
theorem bind_congr_of_map_eq {γ : Type} {one other : Except ε α} {view : α → γ}
    (same : one.map view = other.map view)
    (seen : ∀ first second, view first = view second → next first = next second) :
    one >>= next = other >>= next := by
  cases one <;> cases other <;> simp only [Except.map, Except.error.injEq, Except.ok.injEq,
    reduceCtorEq] at same
  · rw [same]
  · exact seen _ _ same

/-- A reader that is used on each item of a list gives what it gives for each of them. -/
theorem mapM_eq_ok_iff {reader : α → Except ε β} {items : List α} {results : List β} :
    items.mapM reader = .ok results ↔
      List.Forall₂ (fun item result => reader item = .ok result) items results := by
  induction items generalizing results with
  | nil => cases results <;> simp [pure, Except.pure]
  | cons item items ih =>
    simp only [List.mapM_cons, bind_eq_ok_iff, pure, Except.pure, Except.ok.injEq, ih]
    cases results <;> simp

theorem exists_mapM_eq_ok_iff {reader : α → Except ε β} {items : List α} :
    (∃ results, items.mapM reader = .ok results) ↔
      ∀ item ∈ items, ∃ result, reader item = .ok result := by
  induction items with
  | nil => simp [pure, Except.pure]
  | cons item items ih =>
    simp only [List.mapM_cons, bind_eq_ok_iff, pure, Except.pure, Except.ok.injEq,
      List.forall_mem_cons, ← ih]
    constructor
    · rintro ⟨_, first, read, others, rest, _⟩
      exact ⟨⟨first, read⟩, others, rest⟩
    · rintro ⟨⟨first, read⟩, others, rest⟩
      exact ⟨_, first, read, others, rest, rfl⟩

/-- Every result was read from one of the items. -/
theorem exists_of_mem_mapM {reader : α → Except ε β} {items : List α} {results : List β}
    (read : items.mapM reader = .ok results) {result : β} (member : result ∈ results) :
    ∃ item ∈ items, reader item = .ok result := by
  rw [mapM_eq_ok_iff] at read
  induction read with
  | nil => cases member
  | cons here _ ih =>
    rcases List.mem_cons.mp member with rfl | later
    · exact ⟨_, List.mem_cons_self, here⟩
    · obtain ⟨item, among, isRead⟩ := ih later
      exact ⟨item, List.mem_cons_of_mem _ among, isRead⟩

/-- Items in another order are read to the same results in another order. -/
theorem exists_mapM_of_perm {reader : α → Except ε β} {items others : List α}
    (reordered : items.Perm others) {results : List β} (read : items.mapM reader = .ok results) :
    ∃ found, others.mapM reader = .ok found ∧ results.Perm found := by
  obtain ⟨found, each, same⟩ := List.perm_comp_forall₂ reordered.symm (mapM_eq_ok_iff.mp read)
  exact ⟨found, mapM_eq_ok_iff.mpr each, same.symm⟩

end FontScores
