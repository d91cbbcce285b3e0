import Mathlib
import FontScores.Platform
import FontScores.Proofs.Exemplar.Selection
import FontScores.Proofs.Library.Operations

/-!
# Remembered exemplars are never out of date

The library forgets the exemplars of a tag only when a static tagging of that tag comes or goes.
That is enough: the exemplars of a tag depend on nothing but its candidates, the static taggings of
that tag in the order of the fonts, and no other edit touches these.
-/

namespace FontScores

/-! ## What exemplars depend on -/

namespace Exemplars

theorem select_congr {tag : String} {one other : List Tagging}
    (same : candidates tag one = candidates tag other) : select tag one = select tag other := by
  rw [select_eq, select_eq, same]

/-- A tagging that varies, or has another tag, is no candidate. -/
theorem candidates_cons_apart {tag : String} {tagging : Tagging}
    (apart : tagging.isStatic = true → tagging.tag ≠ tag) (others : List Tagging) :
    candidates tag (tagging :: others) = candidates tag others := by
  cases tagging with
  | fixed tagging =>
    have other : tagging.tag ≠ tag := apart rfl
    simp [candidates, Tagging.static?, other]
  | varying tagging =>
    simp only [candidates]
    rw [List.filterMap_cons_none rfl]

/-- An edit leaves the candidates of a tag alone unless it is about a static tagging of it. -/
theorem candidates_edited {source : Tagging → Prop} {tags : TagCatalogue} {family tag : String}
    {before after : Font} {concerned : Tagging}
    (edited : before.Edited source tags family concerned after)
    (apart : concerned.isStatic = true → concerned.tag ≠ tag) :
    candidates tag after.taggings = candidates tag before.taggings := by
  cases edited with
  | append =>
    rw [candidates_append, candidates_cons_apart apart]
    simp [candidates]
  -- What was there and what takes its place both vary, so neither is a candidate.
  | extend given fitting held absent =>
    obtain ⟨one, other, split, _, replaced⟩ := Font.split_of_held held
    rw [replaced _ rfl, split]
    simp only [candidates_append]
    rw [candidates_cons_apart (by simp [Tagging.isStatic, Tagging.static?]),
      candidates_cons_apart (by simp [Tagging.isStatic, Tagging.static?])]
  | takeOut held =>
    obtain ⟨one, other, split, removed, _⟩ := Font.split_of_held held
    rw [removed, split]
    simp only [candidates_append]
    rw [candidates_cons_apart apart]

end Exemplars

namespace Library

variable {library : Library}

/-- The taggings before, of and after the font at a position. -/
theorem taggings_at {position : Nat} {font : Font} (found : library.fonts[position]? = some font) :
    ∃ before after, library.taggings = before ++ font.taggings ++ after ∧
      ∀ new, (library.setFont position new).taggings = before ++ new.taggings ++ after := by
  obtain ⟨bound, same⟩ := List.getElem?_eq_some_iff.mp found
  -- Cut the fonts around the position: only the one in the middle is replaced.
  have whole : library.fonts = library.fonts.take position ++
      font :: library.fonts.drop (position + 1) := by
    rw [← same, ← List.drop_eq_getElem_cons bound, List.take_append_drop]
  refine ⟨(library.fonts.take position).flatMap Font.taggings,
    (library.fonts.drop (position + 1)).flatMap Font.taggings, ?_, fun new => ?_⟩
  · calc
      library.taggings = _ := congrArg (List.flatMap Font.taggings) whole
      _ = _ := by simp
  · simp only [taggings, setFont, List.set_eq_take_append_cons_drop, bound, if_true]
    simp

/-! ## The memory through an edit -/

/-- What is remembered is what would be picked now. -/
def MemoCurrent (library : Library) : Prop :=
  ∀ tag exemplars, library.memo.get? tag = some exemplars →
    exemplars = Exemplars.select tag library.taggings

/-- What was remembered and is not forgotten was not about the tagging that changed. -/
theorem get?_forgetFor {memo : ExemplarMemo} {concerned : Tagging} {tag : String}
    {exemplars : Exemplars} (kept : (forgetFor memo concerned).get? tag = some exemplars) :
    memo.get? tag = some exemplars ∧ (concerned.isStatic = true → concerned.tag ≠ tag) := by
  simp only [forgetFor] at kept
  split at kept
  · rw [ExemplarMemo.get?_forget] at kept
    split at kept
    · cases kept
    next other => exact ⟨kept, fun _ same => other same.symm⟩
  next varying => exact ⟨kept, fun static => absurd static varying⟩

theorem memoCurrent_edited {source : Tagging → Prop} {after : Library}
    (current : library.MemoCurrent) (edited : library.Edited source after) :
    after.MemoCurrent := by
  intro tag exemplars remembered
  cases edited with
  | font placed edited =>
    -- What is still remembered was so before, and the edit was not about a candidate for it.
    obtain ⟨old, apart⟩ := get?_forgetFor remembered
    obtain ⟨_, found⟩ := placed?_eq_some_iff.mp placed
    obtain ⟨one, other, was, becomes⟩ := taggings_at found
    rw [current tag exemplars old]
    apply Exemplars.select_congr
    change _ = Exemplars.candidates tag (library.setFont _ _).taggings
    rw [becomes, was]
    simp only [Exemplars.candidates_append, Exemplars.candidates_edited edited apart]
  | @retrieve asked known =>
    -- Either nothing new is remembered, or what was just selected from the taggings as they are.
    simp only [ExemplarMemo.«recall»] at remembered
    split at remembered
    · exact current tag exemplars remembered
    · rw [ExemplarMemo.get?_remember] at remembered
      split at remembered
      next same =>
        subst same
        exact (Option.some.inj remembered).symm
      · exact current tag exemplars remembered

theorem memoCurrent_ofRegistry (registry : Registry) : (ofRegistry registry).MemoCurrent := by
  intro tag exemplars remembered
  simp [ofRegistry, ExemplarMemo.get?_empty] at remembered

theorem memoCurrent_run (registry : Registry) (operations : List Operation) :
    ((ofRegistry registry).run operations).MemoCurrent :=
  run_invariant (fun _ => True) memoCurrent_edited (fun _ _ _ _ => trivial)
    (memoCurrent_ofRegistry registry)

/-- With a current memory the answer is a fresh selection, whether or not it was remembered. -/
theorem exemplars?_of_memoCurrent (current : library.MemoCurrent) {tag : String}
    (known : library.registry.tags.contains tag = true) :
    (library.exemplars? tag).map Prod.fst = some (Exemplars.select tag library.taggings) := by
  simp only [exemplars?, known, if_true, Option.map_some, ExemplarMemo.«recall»]
  cases remembered : library.memo.get? tag with
  | none => rfl
  | some exemplars => rw [current tag exemplars remembered]

/-! ## Whole sessions -/

/-- After any session, the exemplars of a known tag are those that would be picked from the
taggings as they are; asking for those of an unknown tag has no answer and changes nothing. -/
theorem exemplars_after_session (registry : Registry) (operations : List Operation)
    (tag : String) :
    let library := (ofRegistry registry).run operations
    (registry.tags.contains tag = true →
      (library.exemplars? tag).map Prod.fst = some (Exemplars.select tag library.taggings)) ∧
    (registry.tags.contains tag = false →
      library.exemplars? tag = none ∧
      (library.perform (.exemplars tag)).memo = library.memo ∧
      (library.perform (.exemplars tag)).taggings = library.taggings) := by
  -- No operation changes which tags are known.
  have same : ((ofRegistry registry).run operations).registry = registry :=
    registry_run (ofRegistry registry) operations
  refine ⟨fun known => ?_, fun unknown => ?_⟩
  · have stillKnown : ((ofRegistry registry).run operations).registry.tags.contains tag = true := by
      rw [same]
      exact known
    exact exemplars?_of_memoCurrent (memoCurrent_run registry operations) stillKnown
  · have refused : ((ofRegistry registry).run operations).exemplars? tag = none := by
      simp [exemplars?, same, unknown]
    exact ⟨refused, by simp [perform, refused], by simp [perform, refused]⟩

/-- A session that fills the memory, then removes and imports taggings of the remembered tag. -/
theorem exemplars_after_session_of_loud :
    let registry : Registry := ⟨
      TagCatalogue.empty.register (TagDefinition.named "/Expressive/Loud"),
      [Font.untagged "Roboto" [], Font.untagged "Lato" []], RuleTable.ofRows [],
      EmbeddingIndex.empty⟩
    let library := (ofRegistry registry).run
      [.add (.fixed ⟨"Roboto", "/Expressive/Loud", Binary.ofNat _ false 95⟩),
        .exemplars "/Expressive/Loud", .remove "Roboto" "/Expressive/Loud",
        .importTable "Lato,,/Expressive/Loud,10\nLato,wght@400,/Expressive/Loud,20"]
    registry.tags.contains "/Expressive/Loud" = true ∧
    (library.exemplars? "/Expressive/Loud").map Prod.fst =
      some (Exemplars.select "/Expressive/Loud" library.taggings) ∧
    registry.tags.contains "/Unknown" = false ∧ library.exemplars? "/Unknown" = none ∧
    (library.perform (.exemplars "/Unknown")).memo = library.memo ∧
    (library.perform (.exemplars "/Unknown")).taggings = library.taggings := by
  intro registry library
  have known : registry.tags.contains "/Expressive/Loud" = true := by decide
  have unknown : registry.tags.contains "/Unknown" = false := by decide
  exact ⟨known, (exemplars_after_session registry _ "/Expressive/Loud").1 known, unknown,
    (exemplars_after_session registry _ "/Unknown").2 unknown⟩

end Library

end FontScores
