import Mathlib
import FontScores.Platform
import FontScores.Proofs.Reference.Reordering

/-!
# What the sources say of a tag

Definitions, rows of bounds and definitions given directly are entered one after the other, each
into what the earlier ones made.  The result can be said without the order of entering: a tag given
directly is what was given last, and of any other tag every part has its own source.  The
description is the first one that is not empty, the bounds are those of the last row, and whatever
rows do not speak of comes from the definition.
-/

namespace FontScores

open Json (Document)

/-- Whether a row has its lowest score above its highest. -/
def TagBounds.reversed (row : TagBounds) : Bool := row.highest.less row.lowest

/-! ## Texts in turn -/

/-- The first of some texts that is not empty, and the empty one if there is none. -/
def firstNonEmpty (texts : List String) : String := (texts.find? (· ≠ "")).getD ""

theorem firstNonEmpty_concat (texts : List String) (text : String) :
    firstNonEmpty (texts ++ [text]) =
      if firstNonEmpty texts = "" then text else firstNonEmpty texts := by
  rw [firstNonEmpty, firstNonEmpty, List.find?_append]
  cases found : texts.find? (· ≠ "") with
  | none => by_cases empty : text = "" <;> simp [empty]
  | some first =>
    have nonEmpty : first ≠ "" := by simpa using List.find?_some found
    simp [nonEmpty]

namespace TagCatalogue

variable {tags : TagCatalogue} {name : String}

theorem mem_names_iff :
    name ∈ tags.definitions.map TagDefinition.name ↔ ∃ tag, tags.get? name = some tag := by
  simp only [get?_eq_some_iff, List.mem_map]

/-- Definitions that are entered one after the other: the last one of a name counts. -/
theorem get?_foldl_register (tags : TagCatalogue) (given : List TagDefinition) (name : String) :
    (given.foldl register tags).get? name =
      (ReferenceData.lastUnder? (given.map fun tag => (tag.name, tag)) name).or
        (tags.get? name) := by
  induction given using List.reverseRecOn with
  | nil => rfl
  | append_singleton given tag ih =>
    rw [List.foldl_append, List.foldl_cons, List.foldl_nil, get?_register, ih, List.map_append,
      List.map_singleton, ReferenceData.lastUnder?_concat]
    split <;> rfl

end TagCatalogue

namespace ReferenceData

variable {data : ReferenceData} {definitions : List (String × TagRecord)}

/-! ## Definitions and rows -/

/-- What a definition, if there is one, and rows of bounds say together of a tag. -/
def mergedTag (name : String) (record : Option TagRecord) (rows : List TagBounds) :
    TagDefinition where
  name
  description :=
    firstNonEmpty (record.toList.map TagRecord.description ++ rows.map TagBounds.description)
  shortDescription := (record.map TagRecord.shortDescription).getD ""
  related := (record.map TagRecord.related).getD []
  lowest := (rows.getLast?.map TagBounds.lowest).getD (Binary.zero _ false)
  highest := (rows.getLast?.map TagBounds.highest).getD (Binary.ofNat _ false 100)

theorem mergedTag_nil (name : String) (record : Option TagRecord) :
    mergedTag name record [] =
      (record.map (defineTag name)).getD (TagDefinition.named name) := by
  cases record with
  | none => rfl
  | some record =>
    have single : firstNonEmpty [record.description] = record.description :=
      firstNonEmpty_concat [] record.description
    simp [mergedTag, defineTag, TagDefinition.named, TagDefinition.lowestByDefault,
      TagDefinition.highestByDefault, single]

/-- One row more replaces the bounds, and the description only if there was none. -/
theorem mergedTag_concat (name : String) (record : Option TagRecord) (rows : List TagBounds)
    (row : TagBounds) :
    let earlier := mergedTag name record rows
    mergedTag name record (rows ++ [row]) = {
      earlier with
      lowest := row.lowest
      highest := row.highest
      description :=
        if earlier.description = "" then row.description else earlier.description } := by
  simp only [mergedTag, List.map_append, List.map_singleton, ← List.append_assoc,
    firstNonEmpty_concat, List.getLast?_concat, Option.map_some, Option.getD_some]
  rfl

/-- A row changes what is known under its name, or the bare name if nothing is. -/
theorem get?_enterBounds (tags : TagCatalogue) (row : TagBounds) (name : String) :
    (enterBounds tags row).get? name =
      if row.name = name then
        let known := (tags.get? name).getD (TagDefinition.named name)
        some {
          known with
          lowest := row.lowest
          highest := row.highest
          description := if known.description = "" then row.description else known.description }
      else tags.get? name := by
  have named : ((tags.get? row.name).getD (TagDefinition.named row.name)).name = row.name := by
    cases found : tags.get? row.name with
    | none => rfl
    | some tag => exact (TagCatalogue.get?_eq_some_iff.mp found).2
  rw [enterBounds, TagCatalogue.get?_register]
  dsimp only
  rw [named]
  split
  next same => rw [← same, named]
  · rfl

/-- Under a name stands what its definition and its rows say together, if there are any. -/
theorem get?_foldl_enterBounds (definitions : List (String × TagRecord)) (rows : List TagBounds)
    (name : String) :
    (rows.foldl enterBounds (definedBy definitions)).get? name =
      if name ∈ definitions.map Prod.fst ∨ name ∈ rows.map TagBounds.name then
        some (mergedTag name (lastUnder? definitions name) (rows.filter (·.name = name)))
      else none := by
  -- On the rows from the back, because a row is entered into what all earlier ones made.
  induction rows using List.reverseRecOn with
  | nil =>
    rw [List.foldl_nil, get?_definedBy, List.filter_nil, mergedTag_nil]
    cases found : lastUnder? definitions name with
    | none => simp [lastUnder?_eq_none_iff.mp found]
    | some record =>
      have defined : name ∈ definitions.map Prod.fst := List.mem_map_of_mem (lastUnder?_mem found)
      simp [defined]
  | append_singleton rows row ih =>
    rw [List.foldl_append, List.foldl_cons, List.foldl_nil, get?_enterBounds]
    by_cases same : row.name = name
    · -- Without earlier sources the merged tag is the bare name, so both cases read the same.
      have known : ((rows.foldl enterBounds (definedBy definitions)).get? name).getD
          (TagDefinition.named name) =
            mergedTag name (lastUnder? definitions name) (rows.filter (·.name = name)) := by
        rw [ih]
        split
        · rfl
        next silent =>
          obtain ⟨undefined, rowless⟩ := not_or.mp silent
          have noRows : rows.filter (·.name = name) = [] := by
            refine List.filter_eq_nil_iff.mpr fun row member same => rowless ?_
            exact List.mem_map.mpr ⟨row, member, of_decide_eq_true same⟩
          rw [lastUnder?_eq_none_iff.mpr undefined, noRows, mergedTag_nil]
          rfl
      have last :
          (rows ++ [row]).filter (·.name = name) = rows.filter (·.name = name) ++ [row] := by
        simp [same]
      rw [if_pos same, known, last, mergedTag_concat]
      simp [same]
    · have unchanged : (rows ++ [row]).filter (·.name = name) = rows.filter (·.name = name) := by
        simp [same]
      have others : name ∈ (rows ++ [row]).map TagBounds.name ↔ name ∈ rows.map TagBounds.name := by
        simp [Ne.symm same]
      rw [if_neg same, ih, unchanged]
      simp only [others]

/-! ## The stage of the tags -/

theorem enterAllBounds_eq (path : String) (tags : TagCatalogue) (rows : List TagBounds) :
    enterAllBounds path tags rows =
      match rows.find? TagBounds.reversed with
      | some row => .error (.malformed path (.boundsReversed row.name))
      | none => .ok (rows.foldl enterBounds tags) := by
  induction rows generalizing tags with
  | nil => rfl
  | cons row others ih =>
    simp only [enterAllBounds]
    split
    next above => rw [List.find?_cons_of_pos (p := TagBounds.reversed) above]
    next upright =>
      rw [ih, List.find?_cons_of_neg (p := TagBounds.reversed) upright, List.foldl_cons]

/-- The tags fail at the first row that has its bounds reversed, and otherwise hold what all the
sources made. -/
theorem tagsFrom_eq :
    data.tagsFrom definitions =
      match data.bounds.find? TagBounds.reversed with
      | some row => .error (.malformed data.files.tagBounds (.boundsReversed row.name))
      | none => .ok (data.extraTags.foldl TagCatalogue.register
          (data.bounds.foldl enterBounds (definedBy definitions))) := by
  rw [tagsFrom, enterAllBounds_eq]
  cases data.bounds.find? TagBounds.reversed <;> rfl

theorem exists_error_tagsFrom_iff :
    (∃ error, data.tagsFrom definitions = .error error) ↔
      ∃ row ∈ data.bounds, row.reversed = true := by
  rw [tagsFrom_eq]
  cases found : data.bounds.find? TagBounds.reversed with
  | none => simpa using found
  | some row =>
    have reversed := List.find?_some found
    simp only [Except.error.injEq, exists_eq', true_iff]
    exact ⟨row, List.mem_of_find?_eq_some found, reversed⟩

theorem error_of_tagsFrom {error : LoadError} (failed : data.tagsFrom definitions = .error error) :
    ∃ row, data.bounds.find? TagBounds.reversed = some row ∧
      error = .malformed data.files.tagBounds (.boundsReversed row.name) := by
  rw [tagsFrom_eq] at failed
  split at failed
  next row found => exact ⟨row, found, (Except.error.inj failed).symm⟩
  · cases failed

/-! ## The law -/

/-- The definition that is given directly for a name, the last one if there are several. -/
def given? (data : ReferenceData) (name : String) : Option TagDefinition :=
  lastUnder? (data.extraTags.map fun tag => (tag.name, tag)) name

theorem given?_eq_none_iff {name : String} :
    data.given? name = none ↔ name ∉ data.extraTags.map TagDefinition.name := by
  rw [given?, lastUnder?_eq_none_iff, List.map_map]
  rfl

section Made

variable {tags : TagCatalogue} {name : String} {tag : TagDefinition}

/-- Under a name stands what was given directly, or else what its definition and its rows say. -/
theorem get?_of_tagsFrom (made : data.tagsFrom definitions = .ok tags) (name : String) :
    tags.get? name =
      (data.given? name).or
        (if name ∈ definitions.map Prod.fst ∨ name ∈ data.bounds.map TagBounds.name then
          some (mergedTag name (lastUnder? definitions name)
            (data.bounds.filter (·.name = name)))
        else none) := by
  rw [tagsFrom_eq] at made
  split at made
  · cases made
  next upright =>
    obtain rfl := Except.ok.inj made
    rw [TagCatalogue.get?_foldl_register, get?_foldl_enterBounds, given?]

/-- A name is known if one of the sources has it. -/
theorem mem_names_of_tagsFrom_iff (made : data.tagsFrom definitions = .ok tags) :
    name ∈ tags.definitions.map TagDefinition.name ↔
      name ∈ definitions.map Prod.fst ∨ name ∈ data.bounds.map TagBounds.name ∨
        name ∈ data.extraTags.map TagDefinition.name := by
  have absent : data.given? name = none ↔ name ∉ data.extraTags.map TagDefinition.name :=
    given?_eq_none_iff
  rw [TagCatalogue.mem_names_iff, get?_of_tagsFrom made name, ← or_assoc]
  cases given : data.given? name with
  | some tag =>
    rw [given] at absent
    exact iff_of_true ⟨tag, rfl⟩ (.inr (not_not.mp (absent.not.mp (by simp))))
  | none =>
    rw [or_iff_left (absent.mp given), Option.none_or]
    split
    next said => exact iff_of_true ⟨_, rfl⟩ said
    next silent => exact iff_of_false (by simp) silent

theorem eq_of_given? (made : data.tagsFrom definitions = .ok tags)
    (found : tags.get? name = some tag) {last : TagDefinition}
    (given : data.given? name = some last) : tag = last := by
  rw [get?_of_tagsFrom made, given, Option.some_or] at found
  exact (Option.some.inj found).symm

theorem eq_mergedTag (made : data.tagsFrom definitions = .ok tags)
    (found : tags.get? name = some tag)
    (absent : name ∉ data.extraTags.map TagDefinition.name) :
    tag = mergedTag name (lastUnder? definitions name)
      (data.bounds.filter (·.name = name)) := by
  rw [get?_of_tagsFrom made, given?_eq_none_iff.mpr absent, Option.none_or] at found
  split at found
  · exact (Option.some.inj found).symm
  · cases found

end Made

/-- What is decoded under the names of tags, the rows of bounds and the tags given directly are
merged by one law.  They cannot be merged exactly if a row has its bounds reversed, and then the
registry fails for the first such row.  Otherwise the tags are those that one of the sources names;
what was given last under a name stands as it is, and every other tag is what its definition and its
rows say together. -/
theorem tags_of_decoded [PatternEngine]
    (decoded : decodeFile data.files.tagDefinitions TagRecord.fileDecoder [] data.tagDefinitions =
      .ok definitions) :
    ((∃ error, data.buildTags = .error error) ↔ ∃ row ∈ data.bounds, row.reversed = true) ∧
      (∀ error, data.buildTags = .error error →
        data.build = .error error ∧ ∃ row, data.bounds.find? TagBounds.reversed = some row ∧
          error = .malformed data.files.tagBounds (.boundsReversed row.name)) ∧
      ∀ tags, data.buildTags = .ok tags →
        (∀ registry, data.build = .ok registry → registry.tags = tags) ∧
        ∀ name,
          (name ∈ tags.definitions.map TagDefinition.name ↔
            name ∈ definitions.map Prod.fst ∨ name ∈ data.bounds.map TagBounds.name ∨
              name ∈ data.extraTags.map TagDefinition.name) ∧
          ∀ tag, tags.get? name = some tag →
            (∀ last, data.given? name = some last → tag = last) ∧
            (name ∉ data.extraTags.map TagDefinition.name →
              tag = mergedTag name (lastUnder? definitions name)
                (data.bounds.filter (·.name = name))) := by
  have stage : data.buildTags = data.tagsFrom definitions := by
    rw [buildTags_eq, decoded]
    rfl
  rw [stage]
  refine ⟨exists_error_tagsFrom_iff, fun error failed => ⟨?_, error_of_tagsFrom failed⟩,
    fun tags made => ⟨fun registry built => ?_, fun name => ?_⟩⟩
  · -- The tags are the first stage, so its failure is that of the whole.
    rw [build, stage, failed]
    rfl
  · obtain ⟨others, _, _, hasTags, _, _, rfl⟩ := build_eq_ok_iff.mp built
    exact Except.ok.inj (hasTags.symm.trans (stage.trans made))
  · exact ⟨mem_names_of_tagsFrom_iff made, fun tag found =>
      ⟨fun last => eq_of_given? made found, eq_mergedTag made found⟩⟩

/-- A tag whose definition has no description, with three rows of its own; one whose definition has
a description; and one that has a row and is then given directly, twice. -/
theorem tags_of_decoded_of_rows :
    let number (n : Nat) : Single := Binary.ofNat _ false n
    let drawing (description : String) : TagDefinition :=
      { TagDefinition.named "/Drawing" with description }
    let written := "\x7b\"/Loud\":\x7b\"related\":[\"/Calm\"]\x7d," ++
      "\"/Calm\":\x7b\"description\":\"Quiet\"\x7d\x7d"
    let definitions : List (String × TagRecord) :=
      [("/Loud", ⟨"", "", ["/Calm"]⟩), ("/Calm", ⟨"Quiet", "", []⟩)]
    let data : ReferenceData := {
      tagDefinitions := some written
      tagBounds := some ("/Loud,0,50,\n/Drawing,0,1,Fine\n/Calm,10,90,Still\n" ++
        "/Loud,20,80,Shouty\n/Loud,30,70,Noisy\n")
      extraTags := [drawing "Old", drawing "New"] }
    decodeFile data.files.tagDefinitions TagRecord.fileDecoder [] data.tagDefinitions =
        .ok definitions ∧
      ∃ tags, data.buildTags = .ok tags ∧
        tags.get? "/Loud" = some ⟨"/Loud", "Shouty", "", ["/Calm"], number 30, number 70⟩ ∧
        tags.get? "/Calm" = some ⟨"/Calm", "Quiet", "", [], number 10, number 90⟩ ∧
        tags.get? "/Drawing" = some (drawing "New") ∧
        tags.get? "/Expressive" = none := by
  intro number drawing written definitions data
  -- The values are read from the innermost one out, and the definitions from the last one back.
  have calm : (Json.readValue "\x7b\"description\":\"Quiet\"\x7d\x7d".toList).Gives
      (.object [(some "description", .text (some "Quiet"))]) ['\x7d'] :=
    Json.gives_object rfl (by decide)
      (Json.gives_members rfl rfl rfl (Json.gives_text rfl rfl) (.inl ⟨rfl, rfl⟩))
  have related : (Json.readValue
      "[\"/Calm\"]\x7d,\"/Calm\":\x7b\"description\":\"Quiet\"\x7d\x7d".toList).Gives
        (.array [.text (some "/Calm")])
        "\x7d,\"/Calm\":\x7b\"description\":\"Quiet\"\x7d\x7d".toList :=
    Json.gives_array rfl (by decide)
      (Json.gives_items (Json.gives_text rfl rfl) (.inl ⟨rfl, rfl⟩))
  have loud : (Json.readValue
      ("\x7b\"related\":[\"/Calm\"]\x7d," ++
        "\"/Calm\":\x7b\"description\":\"Quiet\"\x7d\x7d").toList).Gives
        (.object [(some "related", .array [.text (some "/Calm")])])
        ",\"/Calm\":\x7b\"description\":\"Quiet\"\x7d\x7d".toList :=
    Json.gives_object rfl (by decide) (Json.gives_members rfl rfl rfl related (.inl ⟨rfl, rfl⟩))
  have read : Document.ofText written = ⟨.object [
      (some "/Loud", .object [(some "related", .array [.text (some "/Calm")])]),
      (some "/Calm", .object [(some "description", .text (some "Quiet"))])], false⟩ := by
    dsimp only [written]
    refine Json.ofText_eq (Json.gives_object rfl (by decide) ?_)
    refine Json.gives_members rfl rfl rfl loud (.inr ⟨_, rfl, ?_⟩)
    exact Json.gives_members rfl rfl rfl calm (.inl ⟨rfl, rfl⟩)
  have decoded : decodeFile data.files.tagDefinitions TagRecord.fileDecoder []
      data.tagDefinitions = .ok definitions := by
    rw [decodeFile_object read]
    rfl
  have rows : data.bounds = [⟨"/Loud", number 0, number 50, ""⟩,
      ⟨"/Drawing", number 0, number 1, "Fine"⟩, ⟨"/Calm", number 10, number 90, "Still"⟩,
      ⟨"/Loud", number 20, number 80, "Shouty"⟩, ⟨"/Loud", number 30, number 70, "Noisy"⟩] := by
    decide +kernel
  obtain ⟨fails, _, law⟩ := tags_of_decoded decoded
  have upright : ¬∃ row ∈ data.bounds, row.reversed = true := by
    rw [rows]
    decide +kernel
  obtain ⟨tags, made⟩ : ∃ tags, data.buildTags = .ok tags := by
    cases made : data.buildTags with
    | error error => exact absurd (fails.mp ⟨error, made⟩) upright
    | ok tags => exact ⟨tags, rfl⟩
  have said := (law tags made).2
  refine ⟨decoded, tags, made, ?_, ?_, ?_, ?_⟩
  · obtain ⟨tag, found⟩ := TagCatalogue.mem_names_iff.mp ((said "/Loud").1.mpr (.inl (by decide)))
    rw [found, ((said "/Loud").2 tag found).2 (by decide), rows]
    decide +kernel
  · obtain ⟨tag, found⟩ := TagCatalogue.mem_names_iff.mp ((said "/Calm").1.mpr (.inl (by decide)))
    rw [found, ((said "/Calm").2 tag found).2 (by decide), rows]
    decide +kernel
  · obtain ⟨tag, found⟩ :=
      TagCatalogue.mem_names_iff.mp ((said "/Drawing").1.mpr (.inr (.inr (by decide))))
    rw [found, ((said "/Drawing").2 tag found).1 (drawing "New") (by decide +kernel)]
  · have unknown := (not_congr (said "/Expressive").1).mpr (by rw [rows]; decide)
    rw [TagCatalogue.mem_names_iff] at unknown
    exact Option.eq_none_iff_forall_ne_some.mpr fun tag found => unknown ⟨tag, found⟩

end ReferenceData

end FontScores
