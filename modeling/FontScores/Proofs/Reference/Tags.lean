import Mathlib
import FontScores.Proofs.Reading
import FontScores.Proofs.Reference.Entries

/-!
# The tags of a registry

A catalogue of tags is determined by what it says under each name, since it stands in the order of
the names.  So the tags of a registry depend on the last definition of each name only, and the order
in which the definitions are entered has no part in them.
-/

namespace FontScores

namespace TagCatalogue

theorem find?_enter (tag : TagDefinition) (tags : List TagDefinition) (name : String) :
    (enter tag tags).find? (·.name = name) =
      if tag.name = name then some tag else tags.find? (·.name = name) := by
  induction tags with
  | nil => by_cases same : tag.name = name <;> simp [enter, same]
  | cons first rest ih =>
    -- The tag comes in front, in the place of the first one, or somewhere behind it.
    simp only [enter]
    split
    · by_cases same : tag.name = name <;> simp [same]
    split
    next known => by_cases same : tag.name = name <;> simp [same, ← known]
    next different =>
      by_cases found : first.name = name
      · have other : tag.name ≠ name := fun same => different (same.trans found.symm)
        simp [found, other]
      · simp [found, ih]

theorem get?_register (catalogue : TagCatalogue) (tag : TagDefinition) (name : String) :
    (catalogue.register tag).get? name =
      if tag.name = name then some tag else catalogue.get? name :=
  find?_enter tag catalogue.definitions name

theorem get?_eq_some_iff {catalogue : TagCatalogue} {name : String} {tag : TagDefinition} :
    catalogue.get? name = some tag ↔ tag ∈ catalogue.definitions ∧ tag.name = name := by
  have distinct : (catalogue.definitions.map TagDefinition.name).Nodup :=
    List.pairwise_map.mpr (catalogue.ordered.imp fun before => String.ne_of_lt before)
  exact find?_key_eq_some_iff distinct

/-- Two catalogues that say the same under each name are the same. -/
theorem ext_get? {one other : TagCatalogue} (same : ∀ name, one.get? name = other.get? name) :
    one = other := by
  have distinct (catalogue : TagCatalogue) : catalogue.definitions.Nodup :=
    catalogue.ordered.imp fun before equal => String.ne_of_lt before (congrArg _ equal)
  have members (tag : TagDefinition) : tag ∈ one.definitions ↔ tag ∈ other.definitions := by
    have found (catalogue : TagCatalogue) :
        catalogue.get? tag.name = some tag ↔ tag ∈ catalogue.definitions := by
      simp [get?_eq_some_iff]
    rw [← found, ← found, same]
  have reordered := (List.perm_ext_iff_of_nodup (distinct one) (distinct other)).mpr members
  -- The same definitions in the order of their names can stand in one order only.
  have equal : one.definitions = other.definitions :=
    reordered.eq_of_pairwise (fun _ _ _ _ before after => absurd after (String.lt_asymm before))
      one.ordered other.ordered
  cases one
  cases other
  simpa using equal

end TagCatalogue

namespace ReferenceData

variable {data : ReferenceData}

/-- The tags that are defined by these entries, one after the other. -/
def definedBy (definitions : List (String × TagRecord)) : TagCatalogue :=
  definitions.foldl (fun tags (name, record) => tags.register (defineTag name record))
    TagCatalogue.empty

/-- Under a name stands the last definition of it. -/
theorem get?_definedBy (definitions : List (String × TagRecord)) (name : String) :
    (definedBy definitions).get? name = (lastUnder? definitions name).map (defineTag name) := by
  induction definitions using List.reverseRecOn with
  | nil => rfl
  | append_singleton definitions entry ih =>
    obtain ⟨other, record⟩ := entry
    have entered : definedBy (definitions ++ [(other, record)]) =
        (definedBy definitions).register (defineTag other record) := by
      simp [definedBy]
    rw [entered, TagCatalogue.get?_register, lastUnder?_concat, ih]
    by_cases same : other = name
    · subst same
      simp [defineTag, TagDefinition.named]
    · simp [defineTag, TagDefinition.named, same]

theorem definedBy_congr {definitions others : List (String × TagRecord)}
    (same : lastUnder? definitions = lastUnder? others) :
    definedBy definitions = definedBy others :=
  TagCatalogue.ext_get? fun name => by rw [get?_definedBy, get?_definedBy, same]

/-! ## The bounds -/

/-- The rows of bounds. -/
def bounds (data : ReferenceData) : List TagBounds := (data.tagBounds.map Table.readBounds).getD []

/-- Bounds can be entered as long as none are reversed. -/
theorem exists_enterAllBounds_iff {path : String} {tags : TagCatalogue} {rows : List TagBounds} :
    (∃ bounded, enterAllBounds path tags rows = .ok bounded) ↔
      ∀ row ∈ rows, row.highest.less row.lowest = false := by
  induction rows generalizing tags with
  | nil => simp [enterAllBounds]
  | cons row others ih =>
    simp only [enterAllBounds, List.forall_mem_cons]
    split
    next reversed => simp [reversed]
    next upright => rw [ih, Bool.eq_false_iff.mpr upright, eq_self, true_and]

/-! ## The tags -/

/-- The tags, once the definitions are read. -/
def tagsFrom (data : ReferenceData) (definitions : List (String × TagRecord)) :
    Except LoadError TagCatalogue := do
  let bounded ← enterAllBounds data.files.tagBounds (definedBy definitions) data.bounds
  return data.extraTags.foldl TagCatalogue.register bounded

theorem buildTags_eq :
    data.buildTags =
      decodeFile data.files.tagDefinitions TagRecord.fileDecoder [] data.tagDefinitions >>=
        data.tagsFrom :=
  rfl

theorem tagsFrom_congr {definitions others : List (String × TagRecord)}
    (same : lastUnder? definitions = lastUnder? others) :
    data.tagsFrom definitions = data.tagsFrom others := by
  rw [tagsFrom, tagsFrom, definedBy_congr same]

theorem exists_tagsFrom_iff {definitions : List (String × TagRecord)} :
    (∃ tags, data.tagsFrom definitions = .ok tags) ↔
      ∀ row ∈ data.bounds, row.highest.less row.lowest = false := by
  simp only [tagsFrom, pure, Except.pure, exists_bind_ok_iff, exists_enterAllBounds_iff]

end ReferenceData

end FontScores
