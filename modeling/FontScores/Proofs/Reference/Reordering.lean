import Mathlib
import FontScores.Platform
import FontScores.Proofs.Json.Reading
import FontScores.Proofs.Reference.Families
import FontScores.Proofs.Reference.Tags
import FontScores.Proofs.Similarity.Index

/-!
# Reordered reference data

The definitions of tags and the vectors of style are tables under names, and a table has no order.
Neither the order in which its entries are written nor the one in which they are gone through has a
part in the registry: the tags stand in the order of their names, and the families and their vectors
in the order of the family data.
-/

namespace FontScores

open Json (Decoder Document Node)

namespace ReferenceData

variable {data : ReferenceData} {α : Type}

/-! ## Texts of one object -/

/-- The same text, or texts of one object with its members in different orders.  No two members
have the same key. -/
inductive SameObject : Option String → Option String → Prop where
  | same (text : Option String) : SameObject text text
  | reordered {one other : String} {members others : List (Option String × Node)}
      (first : Document.ofText one = ⟨.object members, false⟩)
      (second : Document.ofText other = ⟨.object others, false⟩)
      (order : members.Perm others) (distinct : (members.map Prod.fst).Nodup) :
      SameObject (some one) (some other)

theorem exists_table_of_perm {decoder : Decoder α} {members others : List (Option String × Node)}
    (order : members.Perm others) {entries : List (String × α)}
    (read : Decoder.table decoder (.object members) = .ok entries) :
    ∃ found, Decoder.table decoder (.object others) = .ok found ∧ entries.Perm found :=
  exists_mapM_of_perm order read

/-- The keys of the entries are the keys of the members. -/
theorem map_some_keys_of_table {decoder : Decoder α} {members : List (Option String × Node)}
    {entries : List (String × α)}
    (read : Decoder.table decoder (.object members) = .ok entries) :
    (entries.map Prod.fst).map some = members.map Prod.fst := by
  -- Every member was decoded to one entry, and a member without a key cannot be decoded.
  rw [Decoder.table, mapM_eq_ok_iff] at read
  induction read with
  | nil => rfl
  | @cons member entry _ _ here _ ih =>
    obtain ⟨key, node⟩ := member
    cases key with
    | none => simp at here
    | some key =>
      obtain ⟨value, _, rfl⟩ := map_eq_ok_iff.mp here
      simp [← ih]

theorem decodeFile_object {path text : String} {decoder : Decoder α} {absent : α} {node : Node}
    (read : Document.ofText text = ⟨node, false⟩) :
    decodeFile path decoder absent (some text) =
      (decoder node).mapError fun _ => .malformed path .json := by
  simp only [decodeFile, read, Document.decode]
  cases decoder node <;> rfl

/-- Texts of one object are decoded to the same values under the same keys. -/
theorem map_lastUnder?_decodeFile {path : String} {decoder : Decoder α}
    {one other : Option String} (same : SameObject one other) :
    (decodeFile path (.table decoder) [] one).map lastUnder? =
      (decodeFile path (.table decoder) [] other).map lastUnder? := by
  cases same with
  | same => rfl
  | @reordered one other members others first second order distinct =>
    rw [decodeFile_object first, decodeFile_object second]
    cases read : Decoder.table decoder (.object members) with
    | ok entries =>
      obtain ⟨found, also, reordered⟩ := exists_table_of_perm order read
      have keys : (entries.map Prod.fst).Nodup :=
        List.Nodup.of_map some (map_some_keys_of_table read ▸ distinct)
      rw [also]
      simp [Except.map, Except.mapError, (Enumerates.of_perm keys reordered.symm).lastUnder?_eq]
    | error fault =>
      -- Whether the other text is refused for the same reason does not matter.
      cases also : Decoder.table decoder (.object others) with
      | ok found =>
        obtain ⟨entries, refuted, _⟩ := exists_table_of_perm order.symm also
        cases read.symm.trans refuted
      | error => rfl

/-! ## Vectors -/

/-- The vectors of the families, in the order of the families. -/
def vectorsOf (families : List Font) (vectors : List (String × List Single)) :
    List (String × List Single) :=
  families.filterMap fun font =>
    (lastUnder? vectors font.name).map fun vector => (font.name, vector)

theorem sublist_names_vectorsOf (families : List Font) (vectors : List (String × List Single)) :
    ((vectorsOf families vectors).map Prod.fst).Sublist (families.map Font.name) := by
  induction families with
  | nil => exact List.Sublist.slnil
  | cons font others ih =>
    rw [vectorsOf, List.filterMap_cons]
    cases lastUnder? vectors font.name with
    | none => exact ih.cons _
    | some vector => exact ih.cons_cons _

theorem vectorsOf_congr {families : List Font} {vectors others : List (String × List Single)}
    (same : ∀ font ∈ families, lastUnder? vectors font.name = lastUnder? others font.name) :
    vectorsOf families vectors = vectorsOf families others :=
  List.filterMap_congr fun font member => by rw [same font member]

/-- The index, once the vectors are read. -/
def indexFrom (data : ReferenceData) (families : List Font)
    (vectors : List (String × List Single)) : EmbeddingIndex :=
  EmbeddingIndex.ofEntries (vectorsOf families vectors ++ data.extraEmbeddings)

theorem buildEmbeddings_eq {families : List Font} :
    data.buildEmbeddings families =
      decodeFile data.files.embeddings embeddingsDecoder [] data.embeddings >>=
        fun vectors => .ok (data.indexFrom families vectors) :=
  rfl

/-- Goes through the families and takes the vector of each out of the table. -/
def takeVectors : List Font → List (String × List Single) → EmbeddingIndex → EmbeddingIndex
  | [], _, index => index
  | font :: fonts, table, index =>
    match lastUnder? table font.name with
    | some vector =>
      takeVectors fonts (table.filter (·.1 ≠ font.name)) (index.insert font.name vector)
    | none => takeVectors fonts table index

/-- Families with different names find the same vectors as if none was taken out. -/
theorem takeVectors_eq {families : List Font} (distinct : (families.map Font.name).Nodup)
    (table : List (String × List Single)) (index : EmbeddingIndex) :
    takeVectors families table index =
      (vectorsOf families table).foldl (fun index (family, vector) => index.insert family vector)
        index := by
  induction families generalizing table index with
  | nil => rfl
  | cons font fonts ih =>
    obtain ⟨new, others⟩ := List.nodup_cons.mp distinct
    rw [takeVectors, vectorsOf, List.filterMap_cons]
    cases lastUnder? table font.name with
    | none => exact ih others table index
    | some vector =>
      -- The vector that is taken out is the one that no other family asks for.
      have left : vectorsOf fonts (table.filter (·.1 ≠ font.name)) = vectorsOf fonts table :=
        vectorsOf_congr fun other member =>
          lastUnder?_filter_ne fun same => new (same ▸ List.mem_map_of_mem member)
      change takeVectors fonts (table.filter (·.1 ≠ font.name)) (index.insert font.name vector) =
        (vectorsOf fonts table).foldl _ (index.insert font.name vector)
      rw [ih others, left]

/-- The index of families that take their vectors out of a table. -/
def indexTaken (data : ReferenceData) (families : List Font)
    (table : List (String × List Single)) : EmbeddingIndex :=
  data.extraEmbeddings.foldl (fun index (family, vector) => index.insert family vector)
    (takeVectors families table EmbeddingIndex.empty)

theorem indexTaken_eq {families : List Font} (distinct : (families.map Font.name).Nodup)
    {table vectors : List (String × List Single)} (enumerated : Enumerates table vectors) :
    data.indexTaken families table = data.indexFrom families vectors := by
  have same : vectorsOf families table = vectorsOf families vectors :=
    vectorsOf_congr fun font _ => congrFun enumerated.lastUnder?_eq font.name
  rw [indexTaken, indexFrom, takeVectors_eq distinct, same, EmbeddingIndex.ofEntries,
    List.foldl_append]

/-! ## The registry -/

/-- The decoded contents of the JSON files. -/
structure Decodes (data : ReferenceData) (records : List FamilyRecord)
    (definitions : List (String × TagRecord)) (vectors : List (String × List Single)) : Prop where
  families :
    decodeFile data.files.familyData FamilyRecord.fileDecoder [] data.familyData = .ok records
  definitions :
    decodeFile data.files.tagDefinitions TagRecord.fileDecoder [] data.tagDefinitions =
      .ok definitions
  vectors :
    decodeFile data.files.embeddings embeddingsDecoder [] data.embeddings = .ok vectors

/-- Nothing is given directly. -/
structure Bare (data : ReferenceData) : Prop where
  tags : data.extraTags = []
  families : data.extraFamilies = []
  rules : data.extraRules = []
  embeddings : data.extraEmbeddings = []

/-- Puts the registry together from tables: the definitions are entered in the order of one table,
and the families take their vectors out of the other. -/
def buildInOrder [PatternEngine] (data : ReferenceData) (definitions : List (String × TagRecord))
    (vectors : List (String × List Single)) : Except LoadError Registry := do
  let tags ← data.tagsFrom definitions
  let families ← data.buildFamilies
  let rows := (data.rules.map Table.readRules).getD []
  return ⟨tags, families, RuleTable.ofRows (rows ++ data.extraRules),
    data.indexTaken families vectors⟩

variable {records : List FamilyRecord} {definitions : List (String × TagRecord)}
  {vectors : List (String × List Single)}

theorem build_eq_ok_iff_of_decodes [PatternEngine]
    (decodes : data.Decodes records definitions vectors) {registry : Registry} :
    data.build = .ok registry ↔
      ∃ tags families, data.tagsFrom definitions = .ok tags ∧
        data.familiesFrom records = .ok families ∧
        registry = ⟨tags, families,
          RuleTable.ofRows ((data.rules.map Table.readRules).getD [] ++ data.extraRules),
          data.indexFrom families vectors⟩ := by
  simp only [build_eq_ok_iff, buildTags_eq, buildFamilies_eq, buildEmbeddings_eq,
    decodes.definitions, decodes.families, decodes.vectors, bind_eq_ok_iff, Except.ok.injEq,
    exists_eq_left', exists_and_left]

/-- A registry is built unless an axis has no name or bounds are reversed. -/
theorem exists_build_iff [PatternEngine] (decodes : data.Decodes records definitions vectors) :
    (∃ registry, data.build = .ok registry) ↔
      (∀ record ∈ records, ∀ axis ∈ record.axes,
          ∃ tag, AxisTag.ofName axis.tag.toList = .ok tag) ∧
        ∀ row ∈ data.bounds, row.highest.less row.lowest = false := by
  have stages : (∃ registry, data.build = .ok registry) ↔
      (∃ families, data.familiesFrom records = .ok families) ∧
        ∃ tags, data.tagsFrom definitions = .ok tags := by
    simp only [build_eq_ok_iff_of_decodes decodes]
    constructor
    · rintro ⟨_, tags, families, hasTags, hasFamilies, _⟩
      exact ⟨⟨families, hasFamilies⟩, tags, hasTags⟩
    · rintro ⟨⟨families, hasFamilies⟩, tags, hasTags⟩
      exact ⟨_, tags, families, hasTags, hasFamilies, rfl⟩
  rw [stages, exists_familiesFrom_iff, exists_tagsFrom_iff]

/-- The order in which the tables are gone through has no part in the registry. -/
theorem buildInOrder_eq [PatternEngine] (decodes : data.Decodes records definitions vectors)
    {definitionTable : List (String × TagRecord)} {vectorTable : List (String × List Single)}
    (enumeratesDefinitions : Enumerates definitionTable definitions)
    (enumeratesVectors : Enumerates vectorTable vectors) :
    data.buildInOrder definitionTable vectorTable = data.build := by
  rw [buildInOrder, build, buildTags_eq, decodes.definitions, buildFamilies_eq, decodes.families,
    tagsFrom_congr enumeratesDefinitions.lastUnder?_eq]
  -- The tags come from the last definitions; what is left is the walk through the families.
  refine congrArg _ (funext fun tags => ?_)
  change data.familiesFrom records >>= _ = data.familiesFrom records >>= _
  cases built : data.familiesFrom records with
  | error => rfl
  | ok families =>
    have index : data.buildEmbeddings families = .ok (data.indexTaken families vectorTable) := by
      rw [buildEmbeddings_eq, decodes.vectors,
        indexTaken_eq (nodup_of_familiesFrom built) enumeratesVectors]
      rfl
    change _ = data.buildEmbeddings families >>= _
    rw [index]
    rfl

/-- The order in which the tables are written has no part in the registry. -/
theorem build_eq_of_sameObject [PatternEngine] {embeddings tagDefinitions : Option String}
    (sameVectors : SameObject data.embeddings embeddings)
    (sameDefinitions : SameObject data.tagDefinitions tagDefinitions) :
    { data with embeddings, tagDefinitions }.build = data.build := by
  have tags : { data with embeddings, tagDefinitions }.buildTags = data.buildTags := by
    rw [buildTags_eq, buildTags_eq]
    exact (bind_congr_of_map_eq (map_lastUnder?_decodeFile sameDefinitions)
      fun _ _ => tagsFrom_congr).symm
  have index (families : List Font) :
      { data with embeddings, tagDefinitions }.buildEmbeddings families =
        data.buildEmbeddings families := by
    rw [buildEmbeddings_eq, buildEmbeddings_eq]
    refine (bind_congr_of_map_eq (map_lastUnder?_decodeFile sameVectors)
      fun one other same => ?_).symm
    -- The index is asked for nothing but the vectors of families.
    have found : vectorsOf families one = vectorsOf families other :=
      vectorsOf_congr fun font _ => congrFun same font.name
    rw [indexFrom, indexFrom, found]
  rw [build, build, tags]
  simp only [index]
  rfl

/-- What the JSON files say determines the registry, and the order of their tables has no part in
it.  The families are those of the first records, and the vectors stand in the order of the
families.  The registry is the same with any order of going through the decoded tables, and with
any order of the members of the objects that they are decoded from. -/
theorem build_of_decodes [PatternEngine] (bare : data.Bare)
    (decodes : data.Decodes records definitions vectors) :
    ((∃ registry, data.build = .ok registry) ↔
        (∀ record ∈ records, ∀ axis ∈ record.axes,
            ∃ tag, AxisTag.ofName axis.tag.toList = .ok tag) ∧
          ∀ row ∈ data.bounds, row.highest.less row.lowest = false) ∧
      (∀ registry, data.build = .ok registry →
        registry.tags.definitions.Pairwise (·.name < ·.name) ∧
          FirstOfEach records registry.families ∧
          registry.embeddings.entries = registry.families.filterMap fun font =>
            (lastUnder? vectors font.name).map fun vector => (font.name, vector)) ∧
      (∀ definitionTable vectorTable, Enumerates definitionTable definitions →
        Enumerates vectorTable vectors →
          data.buildInOrder definitionTable vectorTable = data.build) ∧
      ∀ embeddings tagDefinitions, SameObject data.embeddings embeddings →
        SameObject data.tagDefinitions tagDefinitions →
          { data with embeddings, tagDefinitions }.build = data.build := by
  refine ⟨exists_build_iff decodes, fun registry built => ?_, fun _ _ first second => ?_,
    fun _ _ first second => ?_⟩
  · obtain ⟨tags, families, _, hasFamilies, rfl⟩ := (build_eq_ok_iff_of_decodes decodes).mp built
    refine ⟨tags.ordered, firstOfEach_of_familiesFrom bare.families hasFamilies, ?_⟩
    have distinct : ((vectorsOf families vectors).map Prod.fst).Nodup :=
      (nodup_of_familiesFrom hasFamilies).sublist (sublist_names_vectorsOf families vectors)
    simpa only [indexFrom, bare.embeddings, List.append_nil, vectorsOf] using
      EmbeddingIndex.entries_ofEntries distinct
  · exact buildInOrder_eq decodes first second
  · exact build_eq_of_sameObject first second

/-- A family that is recorded twice, and vectors that are written in another order than the
families, one of them of no family: nothing changes with the vectors the other way round, in the
table or in the text. -/
theorem build_of_decodes_of_repeated :
    let recorded := "\x7b\"familyMetadataList\":[\x7b\"family\":\"Lato\"\x7d," ++
      "\x7b\"family\":\"Inter\"\x7d,\x7b\"family\":\"Lato\"\x7d]\x7d"
    let written := "\x7b\"Noto\":[1],\"Inter\":[1],\"Lato\":[1]\x7d"
    let turned := "\x7b\"Lato\":[1],\"Inter\":[1],\"Noto\":[1]\x7d"
    let data : ReferenceData := { familyData := some recorded, embeddings := some written }
    let records : List FamilyRecord := [⟨"Lato", []⟩, ⟨"Inter", []⟩, ⟨"Lato", []⟩]
    let vector : List Single := [Binary.ofNat _ false 1]
    let vectors := [("Noto", vector), ("Inter", vector), ("Lato", vector)]
    data.Bare ∧ data.Decodes records [] vectors ∧
      ∃ registry, data.build = .ok registry ∧
        registry.families.map Font.name = ["Lato", "Inter"] ∧
        registry.embeddings.entries = [("Lato", vector), ("Inter", vector)] ∧
        data.buildInOrder [] vectors.reverse = .ok registry ∧
        { data with embeddings := some turned }.build = .ok registry := by
  intro recorded written turned data records vector vectors
  have bare : data.Bare := ⟨rfl, rfl, rfl, rfl⟩
  have one (after : List Char) : (Json.readValue ('[' :: '1' :: ']' :: after)).Gives
      (.array [.number (some (.natural 1))]) after :=
    Json.gives_array rfl nofun
      (Json.gives_items (Json.gives_numeral rfl rfl rfl rfl) (.inl ⟨rfl, rfl⟩))
  have readWritten : Document.ofText written = ⟨.object (["Noto", "Inter", "Lato"].map
      fun name => (some name, .array [.number (some (.natural 1))])), false⟩ := by
    dsimp only [written]
    refine Json.ofText_eq (Json.gives_object rfl (by decide) ?_)
    refine Json.gives_members rfl rfl rfl (one _) (.inr ⟨_, rfl, ?_⟩)
    refine Json.gives_members rfl rfl rfl (one _) (.inr ⟨_, rfl, ?_⟩)
    exact Json.gives_members rfl rfl rfl (one _) (.inl ⟨rfl, rfl⟩)
  have readTurned : Document.ofText turned = ⟨.object (["Lato", "Inter", "Noto"].map
      fun name => (some name, .array [.number (some (.natural 1))])), false⟩ := by
    dsimp only [turned]
    refine Json.ofText_eq (Json.gives_object rfl (by decide) ?_)
    refine Json.gives_members rfl rfl rfl (one _) (.inr ⟨_, rfl, ?_⟩)
    refine Json.gives_members rfl rfl rfl (one _) (.inr ⟨_, rfl, ?_⟩)
    exact Json.gives_members rfl rfl rfl (one _) (.inl ⟨rfl, rfl⟩)
  have list : (Json.readValue ("[\x7b\"family\":\"Lato\"\x7d,\x7b\"family\":\"Inter\"\x7d," ++
      "\x7b\"family\":\"Lato\"\x7d]\x7d").toList).Gives (.array (["Lato", "Inter", "Lato"].map
        fun family => .object [(some "family", .text (some family))])) ['\x7d'] := by
    refine Json.gives_array rfl (by decide) ?_
    refine Json.gives_items (Json.gives_object rfl (by decide)
      (Json.gives_members rfl rfl rfl (Json.gives_text rfl rfl) (.inl ⟨rfl, rfl⟩)))
      (.inr ⟨_, rfl, ?_⟩)
    refine Json.gives_items (Json.gives_object rfl (by decide)
      (Json.gives_members rfl rfl rfl (Json.gives_text rfl rfl) (.inl ⟨rfl, rfl⟩)))
      (.inr ⟨_, rfl, ?_⟩)
    exact Json.gives_items (Json.gives_object rfl (by decide)
      (Json.gives_members rfl rfl rfl (Json.gives_text rfl rfl) (.inl ⟨rfl, rfl⟩)))
      (.inl ⟨rfl, rfl⟩)
  have readRecorded : Document.ofText recorded = ⟨.object [(some "familyMetadataList",
      .array (["Lato", "Inter", "Lato"].map fun family =>
        .object [(some "family", .text (some family))]))], false⟩ := by
    dsimp only [recorded]
    refine Json.ofText_eq (Json.gives_object rfl (by decide) ?_)
    exact Json.gives_members rfl rfl rfl list (.inl ⟨rfl, rfl⟩)
  have decodes : data.Decodes records [] vectors := by
    refine ⟨?_, rfl, ?_⟩
    · rw [decodeFile_object readRecorded]
      rfl
    · rw [decodeFile_object readWritten]
      rfl
  obtain ⟨buildable, found, walked, reordered⟩ := build_of_decodes bare decodes
  obtain ⟨registry, built⟩ := buildable.mpr ⟨by simp [records], by simp [bounds, data]⟩
  obtain ⟨_, each, entries⟩ := found registry built
  have names : registry.families.map Font.name = ["Lato", "Inter"] := by
    rw [each.names]
    decide
  refine ⟨bare, decodes, registry, built, names, ?_, ?_, ?_⟩
  · -- The entries depend on the families only through their names.
    have byName : registry.embeddings.entries =
        (registry.families.map Font.name).filterMap fun name =>
          (lastUnder? vectors name).map fun vector => (name, vector) := by
      rw [entries, List.filterMap_map]
      rfl
    rw [byName, names]
    decide
  · rw [← built]
    exact walked [] vectors.reverse (.of_perm (by decide) (.refl _))
      (.of_perm (by decide) (List.reverse_perm _))
  · rw [← built]
    refine reordered (some turned) none (.reordered readWritten readTurned ?_ ?_) (.same none)
    · exact (List.reverse_perm _).symm
    · decide

end ReferenceData

end FontScores
