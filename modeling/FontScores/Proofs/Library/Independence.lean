import Mathlib
import FontScores.Platform
import FontScores.Proofs.Library.Arrangement
import FontScores.Proofs.Library.Exemplars
import FontScores.Proofs.Library.Filling

/-!
# What warnings and exemplars do not depend on

Two sessions over one registry can leave a family with the same static scores although they went
about it differently: in another order, with other taggings that vary, with questions in between.
`Siblings` is what any two such libraries have in common.  From it follows that the warnings for a
family are a function of its static scores alone, and the exemplars of a tag a function of the
static taggings in their order.
-/

namespace FontScores

namespace Font

variable {font other : Font} {tag : String} {score : Single}

/-- One of the font's taggings gives this score for the whole font. -/
def Scores (font : Font) (tag : String) (score : Single) : Prop :=
  ∃ tagging ∈ font.staticTaggings, tagging.tag = tag ∧ tagging.score = score

theorem mem_staticTaggings {tagging : StaticTagging} :
    tagging ∈ font.staticTaggings ↔ Tagging.fixed tagging ∈ font.taggings := by
  simp only [staticTaggings, List.mem_filterMap]
  constructor
  · rintro ⟨stored, member, static⟩
    cases stored with
    | fixed found =>
      cases static
      exact member
    | varying => cases static
  · intro member
    exact ⟨.fixed tagging, member, rfl⟩

/-- Where every tag has one tagging at most, the static scores are a map, and looking up finds in it
whatever any of the taggings says. -/
theorem staticScore?_eq_some_iff (slots : (font.taggings.map Tagging.tag).Nodup) :
    font.staticScore? tag = some score ↔ font.Scores tag score := by
  simp only [staticScore?, Option.map_eq_some_iff]
  constructor
  · rintro ⟨tagging, found, rfl⟩
    exact ⟨tagging, List.mem_of_find?_eq_some found, by simpa using List.find?_some found, rfl⟩
  · rintro ⟨tagging, member, rfl, rfl⟩
    cases found : font.staticTaggings.find? (·.tag = tagging.tag) with
    | none => simpa using List.find?_eq_none.mp found tagging member
    | some first =>
      -- The first tagging of the tag is the only one, variable ones included.
      have same : first.tag = tagging.tag := by simpa using List.find?_some found
      have stored := mem_staticTaggings.mp (List.mem_of_find?_eq_some found)
      have equal := List.inj_on_of_nodup_map slots stored (mem_staticTaggings.mp member) same
      exact ⟨first, rfl, congrArg StaticTagging.score (Tagging.fixed.inj equal)⟩

/-- A rule sees the name of the font and its static scores as a map. -/
theorem ofFont_congr (named : font.name = other.name)
    (slots : (font.taggings.map Tagging.tag).Nodup)
    (others : (other.taggings.map Tagging.tag).Nodup)
    (same : ∀ tag score, font.Scores tag score ↔ other.Scores tag score) :
    RuleContext.ofFont font = RuleContext.ofFont other := by
  have scores : font.staticScore? = other.staticScore? := by
    funext tag
    apply Option.ext
    intro score
    rw [staticScore?_eq_some_iff slots, staticScore?_eq_some_iff others, same]
  rw [RuleContext.ofFont, RuleContext.ofFont, named, scores]

end Font

/-- Only static taggings are candidates for exemplars. -/
theorem Exemplars.candidates_flatMap (tag : String) (fonts : List Font) :
    candidates tag (fonts.flatMap Font.taggings) =
      (fonts.flatMap Font.staticTaggings).filter (·.tag = tag) := by
  rw [candidates, List.filterMap_flatMap]
  rfl

namespace Library

/-! ## Two sessions over one registry -/

/-- What two libraries have in common that sessions made of one registry. -/
structure Siblings (one other : Library) : Prop where
  registry : one.registry = other.registry
  names : one.fonts.map Font.name = other.fonts.map Font.name
  arranged : one.Arranged
  arranged' : other.Arranged
  current : one.MemoCurrent
  current' : other.MemoCurrent

theorem names_run (registry : Registry) (operations : List Operation) :
    ((ofRegistry registry).run operations).fonts.map Font.name =
      (ofRegistry registry).fonts.map Font.name := by
  have same := congrArg (List.map Prod.fst) (families_run (ofRegistry registry) operations)
  simpa only [List.map_map, Function.comp_def] using same

theorem siblings_run (registry : Registry) (first second : List Operation) :
    Siblings ((ofRegistry registry).run first) ((ofRegistry registry).run second) where
  registry := by rw [registry_run, registry_run]
  names := by rw [names_run, names_run]
  arranged := arranged_run registry first
  arranged' := arranged_run registry second
  current := memoCurrent_run registry first
  current' := memoCurrent_run registry second

namespace Siblings

variable {one other : Library} (siblings : Siblings one other)

include siblings

theorem symm : Siblings other one :=
  ⟨siblings.registry.symm, siblings.names.symm, siblings.arranged', siblings.arranged,
    siblings.current', siblings.current⟩

theorem positions : one.positions = other.positions := by
  rw [siblings.arranged.positions, siblings.arranged'.positions, positionsOf_congr siblings.names]

/-- Where one library has a font, the other has one of the same name. -/
theorem font_at {position : Nat} {font : Font} (found : one.fonts[position]? = some font) :
    ∃ twin, other.fonts[position]? = some twin ∧ font.name = twin.name := by
  have same := congrArg (·[position]?) siblings.names
  simp only [List.getElem?_map, found, Option.map_some] at same
  obtain ⟨twin, found, named⟩ := Option.map_eq_some_iff.mp same.symm
  exact ⟨twin, found, named.symm⟩

/-- A family that one library knows is known to the other. -/
theorem placed {family : String} {position : Nat} {font : Font}
    (placed : one.placed? family = some (position, font)) :
    ∃ twin, other.placed? family = some (position, twin) ∧ font.name = twin.name := by
  obtain ⟨indexed, found⟩ := placed?_eq_some_iff.mp placed
  obtain ⟨twin, stands, named⟩ := siblings.font_at found
  rw [siblings.positions] at indexed
  exact ⟨twin, placed?_eq_some_iff.mpr ⟨indexed, stands⟩, named⟩

theorem font?_eq_none {family : String} (unknown : one.font? family = none) :
    other.font? family = none := by
  cases placed : other.placed? family with
  | none => rw [font?, placed, Option.map_none]
  | some place =>
    -- Otherwise the first library would know the family as well.
    obtain ⟨position, font⟩ := place
    obtain ⟨twin, found, _⟩ := siblings.symm.placed placed
    rw [font?, found, Option.map_some] at unknown
    contradiction

/-- The two fonts at a position are both empty, or the name that they share leads to both. -/
theorem untagged_or_found {position : Nat} {font twin : Font}
    (found : one.fonts[position]? = some font) (stands : other.fonts[position]? = some twin) :
    font.taggings = [] ∧ twin.taggings = [] ∨
      one.font? font.name = some font ∧ other.font? font.name = some twin := by
  obtain ⟨_, same, named⟩ := siblings.font_at found
  cases stands.symm.trans same
  -- Both are looked up at one position, so it is enough that one of the two can be found.
  have both (indexed : ReferenceData.lastUnder? one.positions font.name = some position) :
      one.font? font.name = some font ∧ other.font? font.name = some twin := by
    have here := placed?_eq_some_iff.mpr ⟨indexed, found⟩
    have there := placed?_eq_some_iff.mpr ⟨siblings.positions ▸ indexed, stands⟩
    simp [font?, here, there]
  by_cases untagged : font.taggings = []
  · by_cases empty : twin.taggings = []
    · exact .inl ⟨untagged, empty⟩
    · right
      apply both
      rw [siblings.positions, named]
      exact siblings.arranged'.found position twin stands empty
  · right
    apply both
    exact siblings.arranged.found position font found untagged

/-- What is the same of every font that can be found, and of two empty fonts of one name, is the
same all along the two lists of fonts. -/
theorem map_fonts_eq {α : Type} {view : Font → α}
    (found : ∀ {family font twin}, one.font? family = some font → other.font? family = some twin →
      font.name = twin.name → view font = view twin)
    (untagged : ∀ {font twin : Font}, font.taggings = [] → twin.taggings = [] →
      font.name = twin.name → view font = view twin) :
    one.fonts.map view = other.fonts.map view := by
  apply List.ext_getElem?
  intro position
  simp only [List.getElem?_map]
  cases at_ : one.fonts[position]? with
  | some font =>
    obtain ⟨twin, stands, named⟩ := siblings.font_at at_
    rw [stands, Option.map_some, Option.map_some]
    rcases siblings.untagged_or_found at_ stands with ⟨empty, empty'⟩ | ⟨here, there⟩
    · rw [untagged empty empty' named]
    · rw [found here there named]
  | none =>
    cases stands : other.fonts[position]? with
    | none => rfl
    | some twin =>
      obtain ⟨font, found, _⟩ := siblings.symm.font_at stands
      rw [at_] at found
      contradiction

end Siblings

/-! ## Warnings -/

/-- One of the family's taggings gives it this score for the whole font. -/
def Scores (library : Library) (family tag : String) (score : Single) : Prop :=
  ∃ font ∈ library.font? family, font.Scores tag score

namespace Siblings

variable {one other : Library} (siblings : Siblings one other)

include siblings

theorem context_eq {family : String} {font twin : Font} (here : one.font? family = some font)
    (there : other.font? family = some twin) (named : font.name = twin.name)
    (same : ∀ tag score, one.Scores family tag score ↔ other.Scores family tag score) :
    RuleContext.ofFont font = RuleContext.ofFont twin := by
  obtain ⟨⟨position, _⟩, placed, rfl⟩ := Option.map_eq_some_iff.mp here
  obtain ⟨⟨position', _⟩, placed', rfl⟩ := Option.map_eq_some_iff.mp there
  apply Font.ofFont_congr named (siblings.arranged.slots_of_placed placed)
    (siblings.arranged'.slots_of_placed placed')
  intro tag score
  simpa [Scores, here, there] using same tag score

theorem lint?_eq {family : String}
    (same : ∀ tag score, one.Scores family tag score ↔ other.Scores family tag score) :
    one.lint? family = other.lint? family := by
  cases here : one.font? family with
  | none => rw [lint?, lint?, here, siblings.font?_eq_none here, Option.map_none, Option.map_none]
  | some font =>
    obtain ⟨⟨position, _⟩, placed, rfl⟩ := Option.map_eq_some_iff.mp here
    obtain ⟨twin, placed', named⟩ := siblings.placed placed
    have there : other.font? family = some twin := by rw [font?, placed', Option.map_some]
    rw [lint?, lint?, here, there, Option.map_some, Option.map_some, RuleTable.lint,
      RuleTable.lint, siblings.registry, siblings.context_eq here there named same]

theorem lintAll_eq
    (same : ∀ family tag score, one.Scores family tag score ↔ other.Scores family tag score) :
    one.lintAll = other.lintAll := by
  rw [lintAll, lintAll, siblings.registry]
  congr 1
  apply siblings.map_fonts_eq
  · intro family font twin here there named
    rw [RuleTable.lint, RuleTable.lint, named,
      siblings.context_eq here there named (same family)]
  · intro font twin untagged untagged' named
    have context : RuleContext.ofFont font = RuleContext.ofFont twin := by
      apply Font.ofFont_congr named
      all_goals simp [untagged, untagged', Font.Scores, Font.staticTaggings]
    rw [RuleTable.lint, RuleTable.lint, named, context]

/-! ## Exemplars -/

/-- Neither the taggings that vary nor the memory have a part in the answer. -/
theorem exemplars?_eq
    (same : ∀ family, (one.font? family).map Font.staticTaggings =
      (other.font? family).map Font.staticTaggings) (tag : String) :
    (one.exemplars? tag).map Prod.fst = (other.exemplars? tag).map Prod.fst := by
  have statics : one.fonts.map Font.staticTaggings = other.fonts.map Font.staticTaggings := by
    apply siblings.map_fonts_eq
    · intro family font twin here there _
      simpa [here, there] using same family
    · intro font twin untagged untagged' _
      rw [Font.staticTaggings, Font.staticTaggings, untagged, untagged']
  by_cases known : one.registry.tags.contains tag = true
  · rw [exemplars?_of_memoCurrent siblings.current known,
      exemplars?_of_memoCurrent siblings.current' (siblings.registry ▸ known)]
    congr 1
    apply Exemplars.select_congr
    rw [taggings, taggings, Exemplars.candidates_flatMap, Exemplars.candidates_flatMap,
      List.flatMap_def, List.flatMap_def, statics]
  · simp [exemplars?, ← siblings.registry, known]

end Siblings

/-! ## Any two sessions -/

/-- The warnings for a family are the same after any two sessions that leave it with the same static
scores, as a map from tags, and the warnings for all families if that holds of each.  The exemplars
are the same after any two that leave every family with the same static taggings in the same
order. -/
theorem static_scores_decide (registry : Registry) (first second : List Operation) :
    let one := (ofRegistry registry).run first
    let other := (ofRegistry registry).run second
    (∀ family, (∀ tag score, one.Scores family tag score ↔ other.Scores family tag score) →
      one.lint? family = other.lint? family) ∧
    ((∀ family tag score, one.Scores family tag score ↔ other.Scores family tag score) →
      one.lintAll = other.lintAll) ∧
    ((∀ family, (one.font? family).map Font.staticTaggings =
        (other.font? family).map Font.staticTaggings) →
      ∀ tag, (one.exemplars? tag).map Prod.fst = (other.exemplars? tag).map Prod.fst) := by
  intro one other
  have siblings : Siblings one other := siblings_run registry first second
  refine ⟨fun family same => ?_, fun same => ?_, fun same tag => ?_⟩
  · exact siblings.lint?_eq same
  · exact siblings.lintAll_eq same
  · exact siblings.exemplars?_eq same tag

/-- Two scores that came in either order, with a variable tagging and a question on one side; and
the same two in one order, with the variable tagging between them. -/
theorem static_scores_decide_of_flex :
    let registry : Registry := { flexRegistry with
      tags := (["/Expressive/Loud", "/Expressive/Calm", "/Expressive/Wild"].map
        TagDefinition.named).foldl TagCatalogue.register TagCatalogue.empty
      rules := RuleTable.ofRows
        [⟨"tags['/Expressive/Loud'] > tags['/Expressive/Calm']", "loud", .warn⟩] }
    let loud : Operation := .add (.fixed ⟨"Inter", "/Expressive/Loud", Binary.ofNat _ false 95⟩)
    let calm : Operation := .add (.fixed ⟨"Inter", "/Expressive/Calm", Binary.ofNat _ false 10⟩)
    let wild : Operation := .importTable "Roboto Flex,wght@400,/Expressive/Wild,5"
    let one := (ofRegistry registry).run [loud, calm]
    let other := (ofRegistry registry).run [calm, wild, .exemplars "/Expressive/Loud", loud]
    let third := (ofRegistry registry).run [.exemplars "/Expressive/Calm", loud, wild, calm]
    (∀ tag score, one.Scores "Inter" tag score ↔ other.Scores "Inter" tag score) ∧
    one.lint? "Inter" = some [⟨"loud", .warn⟩] ∧ one.lint? "Inter" = other.lint? "Inter" ∧
    (∀ family, (one.font? family).map Font.staticTaggings =
      (third.font? family).map Font.staticTaggings) ∧
    (one.exemplars? "/Expressive/Calm").map Prod.fst =
      (third.exemplars? "/Expressive/Calm").map Prod.fst := by
  intro registry loud calm wild one other third
  have scores (library : Library) (statics : List StaticTagging)
      (held : (library.font? "Inter").map Font.staticTaggings = some statics) (tag : String)
      (score : Single) : library.Scores "Inter" tag score ↔
        ∃ tagging ∈ statics, tagging.tag = tag ∧ tagging.score = score := by
    obtain ⟨font, found, rfl⟩ := Option.map_eq_some_iff.mp held
    simp [Scores, found, Font.Scores]
  have same : ∀ tag score, one.Scores "Inter" tag score ↔ other.Scores "Inter" tag score := by
    intro tag score
    rw [scores one [⟨"Inter", "/Expressive/Loud", Binary.ofNat _ false 95⟩,
        ⟨"Inter", "/Expressive/Calm", Binary.ofNat _ false 10⟩] (by decide +kernel),
      scores other [⟨"Inter", "/Expressive/Calm", Binary.ofNat _ false 10⟩,
        ⟨"Inter", "/Expressive/Loud", Binary.ofNat _ false 95⟩] (by decide +kernel)]
    simp [or_comm]
  have ordered : ∀ family, (one.font? family).map Font.staticTaggings =
      (third.font? family).map Font.staticTaggings := by
    have fonts : one.fonts.map Font.staticTaggings = third.fonts.map Font.staticTaggings := by
      decide +kernel
    intro family
    rw [map_font?, map_font?, (siblings_run registry _ _ : Siblings one third).positions, fonts]
  refine ⟨same, by decide +kernel, ?_, ordered, ?_⟩
  · exact (static_scores_decide registry _ _).1 "Inter" same
  · exact (static_scores_decide registry _ _).2.2 ordered "/Expressive/Calm"

end Library

end FontScores
