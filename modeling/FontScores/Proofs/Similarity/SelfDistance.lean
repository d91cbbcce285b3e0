import Mathlib
import FontScores.Platform
import FontScores.Proofs.Number.NotANumber
import FontScores.Proofs.Number.SignOfZero
import FontScores.Proofs.Reference.Reordering

/-!
# The distance of a family from itself

A finite number differs from itself by zero, so a vector of finite components is at distance zero
from itself.  An infinite number minus itself is no number, and neither is any distance that such a
difference goes into.  The components of a file are numbers, whatever is written there, but a large
one is rounded to infinity; so the families that are not at distance zero from themselves are those
that have an infinite component.

In the ranking from a finite vector the family itself stands before all families at a positive
distance.  Where a distance that is no number stands depends on the sign of that mark.
-/

namespace FontScores

namespace Binary

variable {F : Format} {x y : Binary F}

/-- A number is finite or infinite. -/
theorem isFinite_eq_not_isInfinite (number : x.isNaN = false) : x.isFinite = !x.isInfinite := by
  have bounded := isNaN_eq_false_iff.mp number
  rw [isFinite, isInfinite, ← decide_not]
  exact decide_eq_decide.mpr (Nat.lt_iff_le_and_ne.trans (and_iff_right bounded))

theorem grains_neg (x : Binary F) : x.neg.grains = -x.grains := by
  cases sign : x.negative <;> simp [grains, neg, sign]

/-- A number minus itself. -/
theorem sub_self [UndefinedSign] (number : x.isNaN = false) :
    x.sub x = if x.isFinite then zero F false else undefined F := by
  have alsoNumber : x.neg.isNaN = false := number
  have alsoInfinite : x.neg.isInfinite = x.isInfinite := rfl
  have opposite : x.neg.negative = !x.negative := rfl
  rw [sub, add, isFinite_eq_not_isInfinite number]
  simp only [number, alsoNumber, alsoInfinite, opposite, grains_neg]
  -- Two infinities of different signs have no sum, and finite numbers of different signs add up.
  cases x.isInfinite <;> simp

theorem isNaN_undefined [sign : UndefinedSign] : (undefined Format.single).isNaN = true := by
  obtain ⟨_ | _⟩ := sign <;> decide

theorem zero_add_zero [UndefinedSign] (one other : Bool) :
    (zero Format.single one).add (zero _ other) = zero _ (one && other) := by
  have number (sign : Bool) : (zero Format.single sign).isNaN = false := rfl
  have bounded (sign : Bool) : (zero Format.single sign).isInfinite = false := rfl
  simp only [add, number, bounded, grains_zero]
  simp [zero]

/-- A positive number stands above both zeros in the order of a ranking. -/
theorem rank_pos_of_less (positive : (zero F false).less x = true) : 0 < x.rank := by
  have above : (zero F false).position < x.position := by
    simp only [less, Bool.and_eq_true, decide_eq_true_eq] at positive
    exact positive.2
  simp only [position, rank, zero, Bool.false_eq_true, if_false] at above ⊢
  split at above
  · omega
  · rwa [if_neg ‹_›]

end Binary

/-! ## The distance -/

section Distance

variable [UndefinedSign]

/-- What a number contributes to the distance of a vector from itself. -/
def selfDifference (x : Single) : Single :=
  if x.isFinite then Binary.zero _ false else Binary.undefined _

theorem selfDifference_mul_self (x : Single) :
    (selfDifference x).mul (selfDifference x) = selfDifference x := by
  rw [selfDifference]
  split
  · exact Binary.zero_mul_self false
  · simp [Binary.mul, Binary.isNaN_undefined]

theorem squaredDifferences_self {vector : List Single}
    (numbers : ∀ x ∈ vector, x.isNaN = false) :
    squaredDifferences vector vector = vector.map selfDifference := by
  induction vector with
  | nil => rfl
  | cons x rest ih =>
    obtain ⟨number, others⟩ := List.forall_mem_cons.mp numbers
    have difference : x.sub x = selfDifference x := Binary.sub_self number
    simp only [squaredDifferences, List.map_cons, difference, selfDifference_mul_self, ih others]

/-- Nothing but zeros adds up to zero, and whatever is no number stays so. -/
theorem sum_selfDifference (vector : List Single) :
    Binary.sum (vector.map selfDifference) =
      if vector.all Binary.isFinite then Binary.zero _ vector.isEmpty else Binary.undefined _ := by
  -- The sum starts at the first component, so the last one is added to what the others make.
  induction vector using List.reverseRecOn with
  | nil => rfl
  | append_singleton vector x ih =>
    have step : Binary.sum ((vector ++ [x]).map selfDifference) =
        (Binary.sum (vector.map selfDifference)).add (selfDifference x) := by
      simp [Binary.sum]
    have last : (vector ++ [x]).isEmpty = false := by simp
    have number (negative : Bool) : (Binary.zero Format.single negative).isNaN = false := rfl
    rw [step, ih, selfDifference, List.all_append, last]
    cases vector.all Binary.isFinite <;> cases here : x.isFinite
    case true.true => simpa [here] using Binary.zero_add_zero vector.isEmpty false
    all_goals simp [here, Binary.add, Binary.isNaN_undefined, number]

theorem distance_self {vector : List Single} (numbers : ∀ x ∈ vector, x.isNaN = false) :
    distance vector vector =
      if vector.all Binary.isFinite then Binary.zero _ vector.isEmpty else Binary.undefined _ := by
  have isZero (negative : Bool) : (Binary.zero Format.single negative).isZero = true := rfl
  rw [distance, squaredDifferences_self numbers, sum_selfDifference]
  split <;> simp [Binary.sqrt, Binary.isNaN_undefined, isZero]

theorem equals_distance_self_iff {vector : List Single}
    (numbers : ∀ x ∈ vector, x.isNaN = false) :
    (distance vector vector).equals (Binary.zero _ false) = true ↔
      ∀ x ∈ vector, x.isFinite = true := by
  rw [distance_self numbers, ← List.all_eq_true]
  cases vector.all Binary.isFinite
  · simp [Binary.equals, Binary.isNaN_undefined]
  · simp only [if_true, iff_true]
    cases vector.isEmpty <;> decide

theorem isNaN_distance_self_iff {vector : List Single}
    (numbers : ∀ x ∈ vector, x.isNaN = false) :
    (distance vector vector).isNaN = true ↔ ∃ x ∈ vector, x.isInfinite = true := by
  have infinite : (∃ x ∈ vector, x.isInfinite = true) ↔ vector.all Binary.isFinite = false := by
    rw [List.all_eq_false]
    refine exists_congr fun x => and_congr_right fun member => ?_
    simp [Binary.isFinite_eq_not_isInfinite (numbers x member)]
  rw [infinite, distance_self numbers]
  cases vector.all Binary.isFinite
  · simp [Binary.isNaN_undefined]
  · simp only [if_true, Bool.true_eq_false, iff_false]
    cases vector.isEmpty <;> decide

end Distance

/-! ## The components of a file -/

namespace Json.Decoder

variable {α : Type} {decoder : Decoder α} {p : α → Prop} {node : Node}

/-- Whatever is written, what is read is a number. -/
theorem isNaN_of_single {x : Single} (read : single node = .ok x) : x.isNaN = false := by
  unfold single at read
  split at read
  all_goals first | (obtain rfl := Except.ok.inj read; simp) | cases read

/-- What holds of everything that is decoded holds of the items of a list. -/
theorem forall_of_list {values : List α} (each : ∀ node value, decoder node = .ok value → p value)
    (read : list decoder node = .ok values) : ∀ value ∈ values, p value := by
  intro value member
  unfold list at read
  split at read
  · obtain ⟨item, _, isRead⟩ := exists_of_mem_mapM read member
    exact each item value isRead
  · cases read

/-- What holds of everything that is decoded holds of the values of a table. -/
theorem forall_of_table {entries : List (String × α)}
    (each : ∀ node value, decoder node = .ok value → p value)
    (read : table decoder node = .ok entries) : ∀ entry ∈ entries, p entry.2 := by
  intro entry member
  unfold table at read
  split at read
  · obtain ⟨⟨key, item⟩, _, isRead⟩ := exists_of_mem_mapM read member
    cases key with
    | none => cases isRead
    | some key =>
      obtain ⟨value, decoded, rfl⟩ := map_eq_ok_iff.mp isRead
      exact each item value decoded
  · cases read

end Json.Decoder

namespace EmbeddingIndex

variable [UndefinedSign] {index : EmbeddingIndex} {query : List Single}

theorem mem_ranking_of_get? {family : String} {vector : List Single}
    (found : index.get? family = some vector) :
    (family, distance query vector) ∈ index.ranking query := by
  rw [get?_eq] at found
  obtain ⟨⟨name, also⟩, first, rfl⟩ := Option.map_eq_some_iff.mp found
  obtain rfl : name = family := by simpa using List.find?_some first
  exact List.mem_mergeSort.mpr (List.mem_map_of_mem (List.mem_of_find?_eq_some first))

theorem sublist_ranking {one other : String × Single} (first : one ∈ index.ranking query)
    (second : other ∈ index.ranking query) (lower : one.2.rank < other.2.rank) :
    [one, other].Sublist (index.ranking query) :=
  sublist_mergeSort (fun entry : String × Single => entry.2.rank) (List.mem_mergeSort.mp first)
    (List.mem_mergeSort.mp second) lower

end EmbeddingIndex

namespace ReferenceData

variable {data : ReferenceData} {registry : Registry}

theorem decoder_of_decodeFile {α : Type} {path text : String} {decoder : Json.Decoder α}
    {absent value : α} (read : decodeFile path decoder absent (some text) = .ok value) :
    decoder (Json.Document.ofText text).root = .ok value := by
  simp only [decodeFile] at read
  split at read
  next found decoded =>
    obtain rfl := Except.ok.inj read
    obtain ⟨root, isRoot, ended⟩ := bind_eq_ok_iff.mp decoded
    split at ended
    · cases ended
    · exact Except.ok.inj ended ▸ isRoot
  · cases read

/-- The vectors of a file have no component that is no number. -/
theorem numbers_of_decodeFile {vectors : List (String × List Single)}
    (read : decodeFile data.files.embeddings embeddingsDecoder [] data.embeddings = .ok vectors) :
    ∀ entry ∈ vectors, ∀ x ∈ entry.2, x.isNaN = false := by
  cases written : data.embeddings with
  | none =>
    rw [written] at read
    obtain rfl := Except.ok.inj read
    simp
  | some text =>
    rw [written] at read
    refine Json.Decoder.forall_of_table (p := fun vector => ∀ x ∈ vector, x.isNaN = false)
      (fun _ _ isRead => ?_) (decoder_of_decodeFile read)
    exact Json.Decoder.forall_of_list (fun _ _ => Json.Decoder.isNaN_of_single) isRead

/-- The vectors of a registry, where none are given directly, are those of the file. -/
theorem numbers_of_build [PatternEngine] (direct : data.extraEmbeddings = [])
    (built : data.build = .ok registry) {family : String} {vector : List Single}
    (found : registry.embeddings.get? family = some vector) : ∀ x ∈ vector, x.isNaN = false := by
  obtain ⟨_, families, _, _, _, hasEmbeddings, rfl⟩ := build_eq_ok_iff.mp built
  rw [buildEmbeddings_eq, bind_eq_ok_iff] at hasEmbeddings
  obtain ⟨vectors, read, index⟩ := hasEmbeddings
  obtain rfl := Except.ok.inj index
  dsimp only at found
  rw [indexFrom, direct, List.append_nil, EmbeddingIndex.get?_ofEntries] at found
  -- What stands under a family was taken out of the file under its name.
  obtain ⟨font, _, taken⟩ := List.mem_filterMap.mp (lastUnder?_mem found)
  obtain ⟨_, last, same⟩ := Option.map_eq_some_iff.mp taken
  obtain ⟨_, rfl⟩ := Prod.mk.inj same
  exact numbers_of_decodeFile read _ (lastUnder?_mem last)

/-- A family of the files is at distance zero from itself exactly if every component of its vector
is finite, and no number away if one is infinite.  In the ranking from a finite vector it stands
before every family at a positive distance. -/
theorem distance_self_of_build [PatternEngine] [UndefinedSign] (direct : data.extraEmbeddings = [])
    (built : data.build = .ok registry) {family : String} {vector : List Single}
    (found : registry.embeddings.get? family = some vector) :
    ((distance vector vector).equals (Binary.zero _ false) = true ↔
        ∀ x ∈ vector, x.isFinite = true) ∧
      ((distance vector vector).isNaN = true ↔ ∃ x ∈ vector, x.isInfinite = true) ∧
      ((∀ x ∈ vector, x.isFinite = true) → ∀ other far,
        (other, far) ∈ registry.embeddings.ranking vector →
        (Binary.zero _ false).less far = true →
          [(family, distance vector vector), (other, far)].Sublist
            (registry.embeddings.ranking vector)) := by
  have numbers := numbers_of_build direct built found
  refine ⟨equals_distance_self_iff numbers, isNaN_distance_self_iff numbers, ?_⟩
  intro finite other far member positive
  -- Neither of the two zeros is above zero in the order of the ranking.
  have lowest : (distance vector vector).rank ≤ 0 := by
    rw [distance_self numbers, if_pos (List.all_eq_true.mpr finite)]
    cases vector.isEmpty <;> decide
  refine EmbeddingIndex.sublist_ranking (EmbeddingIndex.mem_ranking_of_get? found) member ?_
  exact lowest.trans_lt (Binary.rank_pos_of_less positive)

/-- Family data with two families. -/
def twoFamilies : String :=
  "\x7b\"familyMetadataList\":[\x7b\"family\":\"Noto\"\x7d,\x7b\"family\":\"Lato\"\x7d]\x7d"

theorem decodeFile_twoFamilies (path : String) :
    decodeFile path FamilyRecord.fileDecoder [] (some twoFamilies) =
      .ok [⟨"Noto", []⟩, ⟨"Lato", []⟩] := by
  have record {family : Json.Node} {text named after : List Char}
      (given : (Json.readValue named).Gives family ('\x7d' :: after))
      (shape : Json.skipBlanks text = '\x7b' :: '"' :: ("family\":".toList ++ named)) :
      (Json.readValue text).Gives (.object [(some "family", family)]) after :=
    Json.gives_object shape (by simp [Json.skipBlanks, Json.isBlank])
      (Json.gives_members rfl rfl rfl given (.inl ⟨rfl, rfl⟩))
  have list : (Json.readValue ("[\x7b\"family\":\"Noto\"\x7d," ++
      "\x7b\"family\":\"Lato\"\x7d]\x7d").toList).Gives (.array (["Noto", "Lato"].map
        fun family => .object [(some "family", .text (some family))])) ['\x7d'] := by
    refine Json.gives_array rfl (by decide) ?_
    refine Json.gives_items (record (Json.gives_text rfl rfl) rfl) (.inr ⟨_, rfl, ?_⟩)
    exact Json.gives_items (record (Json.gives_text rfl rfl) rfl) (.inl ⟨rfl, rfl⟩)
  have read : Json.Document.ofText twoFamilies = ⟨.object [(some "familyMetadataList",
      .array (["Noto", "Lato"].map fun family =>
        .object [(some "family", .text (some family))]))], false⟩ := by
    dsimp only [twoFamilies]
    refine Json.ofText_eq (Json.gives_object rfl (by decide) ?_)
    exact Json.gives_members rfl rfl rfl list (.inl ⟨rfl, rfl⟩)
  rw [decodeFile_object read]
  rfl

/-- Two families at a positive distance. -/
theorem distance_self_of_build_of_two :
    let number (n : Nat) : Single := Binary.ofNat _ false n
    let written := "\x7b\"Lato\":[3,4],\"Noto\":[0]\x7d"
    let data : ReferenceData := { familyData := some twoFamilies, embeddings := some written }
    let vector := [number 3, number 4]
    let far := distance vector [number 0]
    data.extraEmbeddings = [] ∧ ∃ registry, data.build = .ok registry ∧
      registry.embeddings.get? "Lato" = some vector ∧
      (∀ x ∈ vector, x.isFinite = true) ∧
      (distance vector vector).equals (Binary.zero _ false) = true ∧
      ("Noto", far) ∈ registry.embeddings.ranking vector ∧
      (Binary.zero _ false).less far = true ∧
      [("Lato", distance vector vector), ("Noto", far)].Sublist
        (registry.embeddings.ranking vector) := by
  intro number written data vector far
  have read : Json.Document.ofText written = ⟨.object [
      (some "Lato", .array [.number (some (.natural 3)), .number (some (.natural 4))]),
      (some "Noto", .array [.number (some (.natural 0))])], false⟩ := by
    dsimp only [written]
    refine Json.ofText_eq (Json.gives_object rfl (by decide) ?_)
    refine Json.gives_members rfl rfl rfl (Json.gives_array rfl (by decide)
      (Json.gives_items (Json.gives_numeral rfl rfl rfl rfl) (.inr ⟨_, rfl,
        Json.gives_items (Json.gives_numeral rfl rfl rfl rfl) (.inl ⟨rfl, rfl⟩)⟩)))
      (.inr ⟨_, rfl, ?_⟩)
    exact Json.gives_members rfl rfl rfl (Json.gives_array rfl (by decide)
      (Json.gives_items (Json.gives_numeral rfl rfl rfl rfl) (.inl ⟨rfl, rfl⟩)))
      (.inl ⟨rfl, rfl⟩)
  have decodes : data.Decodes [⟨"Noto", []⟩, ⟨"Lato", []⟩] []
      [("Lato", vector), ("Noto", [number 0])] := by
    refine ⟨decodeFile_twoFamilies _, rfl, ?_⟩
    rw [decodeFile_object read]
    rfl
  obtain ⟨registry, built⟩ := (exists_build_iff decodes).mpr ⟨by simp, by simp [bounds, data]⟩
  have stored : registry.embeddings.get? "Lato" = some vector ∧
      registry.embeddings.get? "Noto" = some [number 0] := by
    obtain ⟨_, families, _, hasFamilies, rfl⟩ := (build_eq_ok_iff_of_decodes decodes).mp built
    obtain rfl := Except.ok.inj hasFamilies
    exact ⟨rfl, rfl⟩
  have there : ("Noto", far) ∈ registry.embeddings.ranking vector :=
    EmbeddingIndex.mem_ranking_of_get? stored.2
  have positive : (Binary.zero _ false).less far = true := by decide +kernel
  obtain ⟨zero, _, before⟩ := distance_self_of_build rfl built stored.1
  have finite : ∀ x ∈ vector, x.isFinite = true := by decide
  exact ⟨rfl, registry, built, stored.1, finite, zero.mpr finite, there, positive,
    before finite "Noto" far there positive⟩

/-- A component that is rounded to infinity: the distance of the family from itself is not zero. -/
theorem infinite_component :
    let written := "\x7b\"Lato\":[1e39]\x7d"
    let data : ReferenceData := { familyData := some twoFamilies, embeddings := some written }
    ∃ registry vector, data.extraEmbeddings = [] ∧ data.build = .ok registry ∧
      registry.embeddings.get? "Lato" = some vector ∧
      (distance vector vector).equals (Binary.zero _ false) = false := by
  intro written data
  have numeral : Json.Numeral.value? ⟨false, ['1'], none, some (false, ['3', '9'])⟩ =
      some (.real (Binary.ofDecimal .double false 1 39)) := by
    decide +kernel
  have tooLarge : (Binary.ofDecimal .double false 1 39).convert .single =
      .infinite .single false := by
    decide +kernel
  have read : Json.Document.ofText written = ⟨.object [(some "Lato",
      .array [.number (some (.real (Binary.ofDecimal .double false 1 39)))])], false⟩ := by
    dsimp only [written]
    refine Json.ofText_eq (Json.gives_object rfl (by decide) ?_)
    exact Json.gives_members rfl rfl rfl (Json.gives_array rfl (by decide)
      (Json.gives_items (Json.gives_numeral rfl rfl rfl numeral) (.inl ⟨rfl, rfl⟩)))
      (.inl ⟨rfl, rfl⟩)
  have decodes : data.Decodes [⟨"Noto", []⟩, ⟨"Lato", []⟩] []
      [("Lato", [.infinite .single false])] := by
    refine ⟨decodeFile_twoFamilies _, rfl, ?_⟩
    rw [decodeFile_object read, ← tooLarge]
    rfl
  obtain ⟨registry, built⟩ := (exists_build_iff decodes).mpr ⟨by simp, by simp [bounds, data]⟩
  refine ⟨registry, [.infinite .single false], rfl, built, ?_, by decide⟩
  obtain ⟨_, families, _, hasFamilies, rfl⟩ := (build_eq_ok_iff_of_decodes decodes).mp built
  obtain rfl := Except.ok.inj hasFamilies
  rfl

end ReferenceData

end FontScores
