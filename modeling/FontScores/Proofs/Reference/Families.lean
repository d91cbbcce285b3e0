import Mathlib
import FontScores.Proofs.Reading
import FontScores.Proofs.Reference.Entries

/-!
# The families of a registry

A registry is built in stages, and each stage can fail only as a whole.  Whatever the sources say,
the families of a registry that was built have different names.  They stand in the order in which
the family data names them first, and each is what its first record says.
-/

namespace FontScores

/-! ## Records -/

/-- The axis is the one that the record is about. -/
structure AxisRecord.Describes (record : AxisRecord) (axis : Axis) : Prop where
  tag : AxisTag.ofName record.tag.toList = .ok axis.tag
  least : axis.least = record.least
  greatest : axis.greatest = record.greatest
  default : axis.default = record.default

/-- The font is the family that the record is about, without any tagging. -/
structure FamilyRecord.Describes (record : FamilyRecord) (font : Font) : Prop where
  name : font.name = record.family
  axes : List.Forall₂ AxisRecord.Describes record.axes font.axes
  untagged : font.taggings = []

/-- Every family of the records once, in the order of the first records and as these have it. -/
structure FirstOfEach (records : List FamilyRecord) (families : List Font) : Prop where
  names : families.map Font.name = (records.map FamilyRecord.family).eraseDups
  first : ∀ font ∈ families, ∃ record,
    records.find? (·.family = font.name) = some record ∧ record.Describes font

namespace ReferenceData

variable {data : ReferenceData} {path : String}

theorem axisOfRecord_eq_ok_iff {family : String} {record : AxisRecord} {axis : Axis} :
    axisOfRecord path family record = .ok axis ↔ record.Describes axis := by
  obtain ⟨tag, least, greatest, default⟩ := axis
  unfold axisOfRecord
  split
  next known found =>
    simp only [Except.ok.injEq, Axis.mk.injEq]
    constructor
    · rintro ⟨rfl, rfl, rfl, rfl⟩
      exact ⟨found, rfl, rfl, rfl⟩
    · rintro ⟨named, rfl, rfl, rfl⟩
      exact ⟨Except.ok.inj (found.symm.trans named), rfl, rfl, rfl⟩
  next cause refused =>
    refine iff_of_false nofun fun described => ?_
    cases refused.symm.trans described.tag

theorem exists_axisOfRecord_iff {family : String} {record : AxisRecord} :
    (∃ axis, axisOfRecord path family record = .ok axis) ↔
      ∃ tag, AxisTag.ofName record.tag.toList = .ok tag := by
  simp only [axisOfRecord_eq_ok_iff]
  exact ⟨fun ⟨axis, described⟩ => ⟨axis.tag, described.tag⟩,
    fun ⟨tag, named⟩ =>
      ⟨⟨tag, record.least, record.greatest, record.default⟩, named, rfl, rfl, rfl⟩⟩

theorem fontOfRecord_eq_ok_iff {record : FamilyRecord} {font : Font} :
    fontOfRecord path record = .ok font ↔ record.Describes font := by
  obtain ⟨name, axes, taggings⟩ := font
  simp only [fontOfRecord, bind_eq_ok_iff, mapM_eq_ok_iff, axisOfRecord_eq_ok_iff, pure,
    Except.pure, Except.ok.injEq, Font.untagged, Font.mk.injEq]
  constructor
  · rintro ⟨_, described, rfl, rfl, rfl⟩
    exact ⟨rfl, described, rfl⟩
  · rintro ⟨rfl, described, rfl⟩
    exact ⟨axes, described, rfl, rfl, rfl⟩

theorem exists_fontOfRecord_iff {record : FamilyRecord} :
    (∃ font, fontOfRecord path record = .ok font) ↔
      ∀ axis ∈ record.axes, ∃ tag, AxisTag.ofName axis.tag.toList = .ok tag := by
  simp only [fontOfRecord, pure, Except.pure, exists_bind_ok_iff, exists_mapM_eq_ok_iff,
    exists_axisOfRecord_iff]

/-! ## The first font of each name -/

theorem keepFirst_concat (families : List Font) (font : Font) :
    keepFirst (families ++ [font]) =
      if font.name ∈ (keepFirst families).map Font.name then keepFirst families
      else keepFirst families ++ [font] := by
  simp [keepFirst]

/-- The names that are kept stand in the order in which they came first. -/
theorem map_name_keepFirst (families : List Font) :
    (keepFirst families).map Font.name = (families.map Font.name).eraseDups := by
  induction families using List.reverseRecOn with
  | nil => rfl
  | append_singleton families font ih =>
    rw [keepFirst_concat, List.map_append, List.map_singleton, eraseDups_concat, ih]
    simp only [List.mem_eraseDups]
    split <;> simp [ih]

theorem nodup_keepFirst (families : List Font) : ((keepFirst families).map Font.name).Nodup :=
  map_name_keepFirst families ▸ nodup_eraseDups _

/-- The font that is kept under a name is the first one that has it. -/
theorem find?_of_mem_keepFirst {families : List Font} {font : Font}
    (member : font ∈ keepFirst families) : families.find? (·.name = font.name) = some font := by
  induction families using List.reverseRecOn with
  | nil => simp [keepFirst] at member
  | append_singleton families other ih =>
    rw [keepFirst_concat] at member
    rw [List.find?_append]
    split at member
    · simp [ih member]
    -- A font is kept behind the others only if none of them has its name.
    next fresh =>
      rcases List.mem_append.mp member with earlier | last
      · simp [ih earlier]
      · obtain rfl := List.mem_singleton.mp last
        rw [map_name_keepFirst, List.mem_eraseDups] at fresh
        have absent : families.find? (·.name = font.name) = none := by simpa using fresh
        simp [absent]

/-! ## The families -/

/-- The families, once the family data is read. -/
def familiesFrom (data : ReferenceData) (records : List FamilyRecord) :
    Except LoadError (List Font) := do
  let families ← records.mapM (fontOfRecord data.files.familyData)
  return keepFirst
    (families ++ data.extraFamilies.map fun font => Font.untagged font.name font.axes)

theorem buildFamilies_eq :
    data.buildFamilies =
      decodeFile data.files.familyData FamilyRecord.fileDecoder [] data.familyData >>=
        data.familiesFrom :=
  rfl

theorem familiesFrom_eq_ok_iff {records : List FamilyRecord} {families : List Font} :
    data.familiesFrom records = .ok families ↔
      ∃ fonts, List.Forall₂ FamilyRecord.Describes records fonts ∧
        keepFirst
          (fonts ++ data.extraFamilies.map fun font => Font.untagged font.name font.axes) =
            families := by
  simp only [familiesFrom, bind_eq_ok_iff, mapM_eq_ok_iff, fontOfRecord_eq_ok_iff, pure,
    Except.pure, Except.ok.injEq]

theorem exists_familiesFrom_iff {records : List FamilyRecord} :
    (∃ families, data.familiesFrom records = .ok families) ↔
      ∀ record ∈ records, ∀ axis ∈ record.axes,
        ∃ tag, AxisTag.ofName axis.tag.toList = .ok tag := by
  simp only [familiesFrom, pure, Except.pure, exists_bind_ok_iff, exists_mapM_eq_ok_iff,
    exists_fontOfRecord_iff]

theorem nodup_of_familiesFrom {records : List FamilyRecord} {families : List Font}
    (built : data.familiesFrom records = .ok families) : (families.map Font.name).Nodup := by
  obtain ⟨fonts, _, rfl⟩ := familiesFrom_eq_ok_iff.mp built
  exact nodup_keepFirst _

/-- What is found first among the fonts is what the first record of its family says. -/
theorem find?_of_describes {records : List FamilyRecord} {fonts : List Font}
    (described : List.Forall₂ FamilyRecord.Describes records fonts) {name : String} {font : Font}
    (found : fonts.find? (·.name = name) = some font) :
    ∃ record, records.find? (·.family = name) = some record ∧ record.Describes font := by
  -- Records and fonts go in step, so the search stops at the same place in both lists.
  induction described with
  | nil => simp at found
  | @cons record first _ _ here _ ih =>
    by_cases same : record.family = name
    · obtain rfl : first = font := by simpa [here.name, same] using found
      exact ⟨record, by simp [same], here⟩
    · simp only [here.name, same, decide_false, Bool.false_eq_true, not_false_eq_true,
        List.find?_cons_of_neg] at found ⊢
      exact ih found

theorem firstOfEach_of_familiesFrom {records : List FamilyRecord} {families : List Font}
    (bare : data.extraFamilies = []) (built : data.familiesFrom records = .ok families) :
    FirstOfEach records families := by
  rw [familiesFrom_eq_ok_iff] at built
  obtain ⟨fonts, described, rfl⟩ := built
  simp only [bare, List.map_nil, List.append_nil]
  constructor
  case names =>
    have names : fonts.map Font.name = records.map FamilyRecord.family := by
      induction described with
      | nil => rfl
      | cons here _ ih => simp [here.name, ih]
    rw [map_name_keepFirst, names]
  case first =>
    exact fun font member => find?_of_describes described (find?_of_mem_keepFirst member)

/-! ## The registry -/

/-- A registry is built exactly when its tags, its families and its embeddings are. -/
theorem build_eq_ok_iff [PatternEngine] {registry : Registry} :
    data.build = .ok registry ↔
      ∃ tags families embeddings, data.buildTags = .ok tags ∧ data.buildFamilies = .ok families ∧
        data.buildEmbeddings families = .ok embeddings ∧
        registry = ⟨tags, families,
          RuleTable.ofRows ((data.rules.map Table.readRules).getD [] ++ data.extraRules),
          embeddings⟩ := by
  simp only [build, bind_eq_ok_iff, pure, Except.pure, Except.ok.injEq]
  constructor
  · rintro ⟨tags, hasTags, families, hasFamilies, embeddings, hasEmbeddings, rfl⟩
    exact ⟨tags, families, embeddings, hasTags, hasFamilies, hasEmbeddings, rfl⟩
  · rintro ⟨tags, families, embeddings, hasTags, hasFamilies, hasEmbeddings, rfl⟩
    exact ⟨tags, hasTags, families, hasFamilies, embeddings, hasEmbeddings, rfl⟩

theorem nodup_families_of_build [PatternEngine] {registry : Registry}
    (built : data.build = .ok registry) :
    (registry.families.map Font.name).Nodup := by
  obtain ⟨tags, families, embeddings, _, hasFamilies, _, rfl⟩ := build_eq_ok_iff.mp built
  rw [buildFamilies_eq, bind_eq_ok_iff] at hasFamilies
  obtain ⟨records, _, fromRecords⟩ := hasFamilies
  exact nodup_of_familiesFrom fromRecords

end ReferenceData

end FontScores
