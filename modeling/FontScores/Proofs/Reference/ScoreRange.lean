import Mathlib
import FontScores.Platform
import FontScores.Proofs.Number.NotANumber
import FontScores.Proofs.Reference.Merging

/-!
# Tags with a score in their range

Some score lies in the range of a tag exactly if its lowest bound is at most its highest.  Rows of
bounds are refused if the lowest is above the highest, but that comparison fails if one of them is
no number, and a table can say so: the word for it is read like any other number.  So a registry can
be built with tags in whose range no score lies, and these are the tags whose last row has that word
for one of its bounds.
-/

namespace FontScores

namespace TagDefinition

variable {tag : TagDefinition}

/-- If the bounds are in order, the lowest one is a score in the range. -/
theorem exists_inRange_iff :
    (∃ score, tag.inRange score = true) ↔ tag.lowest.lessEq tag.highest = true := by
  constructor
  · rintro ⟨score, inside⟩
    obtain ⟨above, below⟩ := (Bool.and_eq_true _ _).mp inside
    exact Binary.lessEq_trans above below
  · intro upright
    have number := (Binary.lessEq_iff_not_less.mp upright).1
    exact ⟨tag.lowest, by simp [inRange, Binary.lessEq_self number, upright]⟩

end TagDefinition

namespace Table

variable {row : Row} {bounds : TagBounds}

/-- The row has, in this column, the word for what is no number. -/
def Row.SpellsNaN (row : Row) (column : String) : Prop :=
  ∃ field ∈ row.get? column, Numeral.SpellsNaN field.toList

instance (row : Row) (column : String) : Decidable (row.SpellsNaN column) :=
  inferInstanceAs (Decidable (∃ field ∈ row.get? column, Numeral.SpellsNaN field.toList))

theorem isNaN_iff_of_number? {column : String} {x : Single}
    (found : number? row column = some x) : x.isNaN = true ↔ row.SpellsNaN column := by
  obtain ⟨field, there, read⟩ := Option.bind_eq_some_iff.mp found
  have isRead : Numeral.read .single field.toList = .ok x := by
    cases result : Numeral.read .single field.toList <;> simp_all [Except.toOption]
  simp [Row.SpellsNaN, there, Numeral.isNaN_iff_of_read isRead]

theorem isNaN_iff_of_boundsOfRow? (found : boundsOfRow? row = some bounds) :
    (bounds.lowest.isNaN = true ↔ row.SpellsNaN "lowScore") ∧
      (bounds.highest.isNaN = true ↔ row.SpellsNaN "highScore") := by
  simp only [boundsOfRow?, Option.bind_eq_bind, Option.bind_eq_some_iff, Option.pure_def,
    Option.some.injEq] at found
  obtain ⟨name, _, lowest, hasLowest, highest, hasHighest, rfl⟩ := found
  exact ⟨isNaN_iff_of_number? hasLowest, isNaN_iff_of_number? hasHighest⟩

end Table

namespace ReferenceData

variable {data : ReferenceData} {registry : Registry} {name : String}

/-- The rows that have bounds for a tag, in the order of the table. -/
def boundingRows (data : ReferenceData) (name : String) : List Table.Row :=
  ((data.tagBounds.map (Table.rows Table.boundsColumns)).getD []).filter fun row =>
    (Table.boundsOfRow? row).any (·.name = name)

theorem exists_bounds_of_mem {row : Table.Row} (member : row ∈ data.boundingRows name) :
    ∃ bounds, Table.boundsOfRow? row = some bounds := by
  have found := (List.mem_filter.mp member).2
  cases read : Table.boundsOfRow? row with
  | none => simp [read] at found
  | some bounds => exact ⟨bounds, rfl⟩

/-- The bounds of a tag are read from its rows, one after the other. -/
theorem filter_bounds_eq (data : ReferenceData) (name : String) :
    data.bounds.filter (·.name = name) =
      (data.boundingRows name).filterMap Table.boundsOfRow? := by
  rw [bounds, boundingRows]
  cases data.tagBounds with
  | none => rfl
  | some text =>
    simp only [Option.map_some, Option.getD_some, Table.readBounds, List.filter_filterMap,
      List.filterMap_filter]
    refine List.filterMap_congr fun row _ => ?_
    cases Table.boundsOfRow? row with
    | none => rfl
    | some bounds => by_cases same : bounds.name = name <;> simp [same]

/-- The last bounds of a tag are those of the last of its rows. -/
theorem getLast?_bounds_eq (data : ReferenceData) (name : String) :
    (data.bounds.filter (·.name = name)).getLast? =
      (data.boundingRows name).getLast?.bind Table.boundsOfRow? := by
  rw [filter_bounds_eq]
  cases last : (data.boundingRows name).getLast? with
  | none => rw [List.getLast?_eq_none_iff.mp last]; rfl
  | some row =>
    obtain ⟨earlier, whole⟩ := List.getLast?_eq_some_iff.mp last
    -- Every row of a tag has bounds, the last one too.
    obtain ⟨bounds, read⟩ := exists_bounds_of_mem (List.mem_of_getLast? last)
    rw [whole, List.filterMap_append]
    simp [read]

/-- The bounds of a tag without reversed rows are in order, unless its last row has a bound that is
no number. -/
theorem lessEq_mergedTag_iff {record : Option TagRecord} {rows : List TagBounds}
    (upright : ∀ row ∈ rows, row.highest.less row.lowest = false) :
    (mergedTag name record rows).lowest.lessEq (mergedTag name record rows).highest = true ↔
      ∀ row, rows.getLast? = some row → row.lowest.isNaN = false ∧ row.highest.isNaN = false := by
  simp only [mergedTag]
  cases last : rows.getLast? with
  | none =>
    -- Without rows the bounds are those of every tag.
    have byDefault : (Binary.zero .single false).lessEq (Binary.ofNat _ false 100) = true := by
      decide
    simpa using byDefault
  | some row =>
    have inOrder := upright row (List.mem_of_getLast? last)
    simp [Binary.lessEq_iff_not_less, inOrder]

/-- A tag of a registry has a score in its range exactly if its bounds are in order, and they are
unless the last row of the tag has, for one of them, the word for what is no number. -/
theorem ranges_of_build [PatternEngine] (direct : data.extraTags = [])
    (built : data.build = .ok registry) :
    ∀ tag ∈ registry.tags.definitions,
      ((∃ score, tag.inRange score = true) ↔ tag.lowest.lessEq tag.highest = true) ∧
        (tag.lowest.lessEq tag.highest = true ↔
          ∀ row, (data.boundingRows tag.name).getLast? = some row →
            ¬row.SpellsNaN "lowScore" ∧ ¬row.SpellsNaN "highScore") := by
  intro tag member
  refine ⟨TagDefinition.exists_inRange_iff, ?_⟩
  obtain ⟨tags, _, _, hasTags, _, _, rfl⟩ := build_eq_ok_iff.mp built
  rw [buildTags_eq, bind_eq_ok_iff] at hasTags
  obtain ⟨definitions, _, made⟩ := hasTags
  -- The tag is what its rows say, and none of them was reversed.
  have upright := exists_tagsFrom_iff.mp ⟨tags, made⟩
  have found : tags.get? tag.name = some tag := TagCatalogue.get?_eq_some_iff.mpr ⟨member, rfl⟩
  conv_lhs => rw [eq_mergedTag made found (by simp [direct])]
  rw [lessEq_mergedTag_iff fun row among => upright row (List.mem_of_mem_filter among),
    getLast?_bounds_eq]
  cases last : (data.boundingRows tag.name).getLast? with
  | none => simp
  | some row =>
    obtain ⟨bounds, read⟩ := exists_bounds_of_mem (List.mem_of_getLast? last)
    obtain ⟨low, high⟩ := Table.isNaN_iff_of_boundsOfRow? read
    simp [read, ← low, ← high]

/-- One tag has a row with a bound that is no number and then one with two numbers, and the other
has them the other way round. -/
theorem ranges_of_build_of_rows :
    let data : ReferenceData :=
      { tagBounds := some "/Loud,nan,50,\n/Loud,10,90,\n/Calm,5,90,\n/Calm,5,-NaN," }
    data.extraTags = [] ∧ ∃ registry, data.build = .ok registry ∧
      registry.tags.definitions.map TagDefinition.name = ["/Calm", "/Loud"] ∧
      ∀ tag ∈ registry.tags.definitions,
        (∃ score, tag.inRange score = true) ↔ tag.name = "/Loud" := by
  intro data
  have names : data.build.toOption.map (·.tags.definitions.map TagDefinition.name) =
      some ["/Calm", "/Loud"] := by
    decide +kernel
  cases built : data.build with
  | error => simp [built, Except.toOption] at names
  | ok registry =>
    simp only [built, Except.toOption, Option.map_some, Option.some.injEq] at names
    refine ⟨rfl, registry, rfl, names, fun tag member => ?_⟩
    obtain ⟨inhabited, numbers⟩ := ranges_of_build rfl built tag member
    rw [inhabited, numbers]
    -- What is left is to look at the last row of each of the two tags.
    have known : tag.name ∈ ["/Calm", "/Loud"] := names ▸ List.mem_map_of_mem member
    simp only [List.mem_cons, List.not_mem_nil, or_false] at known
    rcases known with calm | loud
    · rw [calm]
      decide +kernel
    · rw [loud]
      decide +kernel

/-- The lowest score is no number, so it is not above the highest, and the row is accepted. -/
theorem range_without_scores :
    let data : ReferenceData := { tagBounds := some "/Expressive/Loud,nan,50,Shouty" }
    ∃ registry, data.extraTags = [] ∧ data.build = .ok registry ∧
      ∃ tag ∈ registry.tags.definitions, tag.lowest.lessEq tag.highest = false ∧
        ¬∃ score, tag.inRange score = true := by
  intro data
  let loud : TagDefinition := ⟨"/Expressive/Loud", "Shouty", "", [],
    ⟨false, 0x7fc00000, by decide⟩, Binary.ofNat _ false 50⟩
  have made : data.build.toOption.map (·.tags.definitions) = some [loud] := by
    decide +kernel
  have unordered : loud.lowest.lessEq loud.highest = false := by decide
  cases built : data.build with
  | error => simp [built, Except.toOption] at made
  | ok registry =>
    simp only [built, Except.toOption, Option.map_some, Option.some.injEq] at made
    refine ⟨registry, rfl, rfl, loud, by simp [made], unordered, ?_⟩
    rw [TagDefinition.exists_inRange_iff, unordered]
    exact Bool.false_ne_true

end ReferenceData

end FontScores
