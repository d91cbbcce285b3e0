import Mathlib
import FontScores.DesignSpace.Location
import FontScores.Proofs.Number.SignOfZero
import FontScores.Proofs.Ranking
import FontScores.Proofs.Reference.Entries

/-!
# Sameness of locations

A location is a finite map: whatever was set on it and in whatever order, what it gives on an axis
is what was set there last.  Two locations are compared as sorted lists, and this module shows that
it is a comparison of the maps.  The axes of a location are different and so are their codes, so the
sorted list is strictly ordered, and a strictly ordered list is determined by its members.

The same sorted list is what a hasher is fed, cut into pieces of one shape, so it can be put
together again from the pieces: locations feed the same data exactly if they are the same.
-/

namespace FontScores

namespace AxisTag

theorem length_bytes (tag : AxisTag) : tag.bytes.length = 4 := by
  obtain ⟨_, name, isName, rfl⟩ := tag
  have short : name.length ≤ 4 := isName.1.2
  simp only [filled, List.length_append, List.length_replicate]
  omega

/-- Bytes that are read as one number can be told from it, if it is known how many they are. -/
theorem foldl_bytes_injective {bytes others : List UInt8} (length : bytes.length = others.length)
    {before after : Nat}
    (same : bytes.foldl (fun code byte => 256 * code + byte.toNat) before =
      others.foldl (fun code byte => 256 * code + byte.toNat) after) :
    before = after ∧ bytes = others := by
  induction bytes generalizing others before after with
  | nil =>
    obtain rfl := List.length_eq_zero_iff.mp length.symm
    exact ⟨same, rfl⟩
  | cons byte rest ih =>
    obtain ⟨other, others, rfl⟩ := List.exists_cons_of_length_eq_add_one length.symm
    obtain ⟨step, rfl⟩ := ih (Nat.succ.inj length) same
    dsimp only at step
    -- Each byte is a digit to the base 256.
    have low := byte.toNat_lt
    have high := other.toNat_lt
    obtain ⟨rfl, digit⟩ : before = after ∧ byte.toNat = other.toNat := by omega
    exact ⟨rfl, by rw [UInt8.toNat_inj.mp digit]⟩

theorem code_injective {tag other : AxisTag} (same : tag.code = other.code) : tag = other := by
  have length : tag.bytes.length = other.bytes.length := by rw [length_bytes, length_bytes]
  have bytes := (foldl_bytes_injective length same).2
  cases tag
  cases other
  simpa using bytes

end AxisTag

namespace Location

variable {one other location : Location}

/-! ## Setting coordinates -/

theorem find?_put (axis other : AxisTag) (value : Single)
    (coordinates : List (AxisTag × Single)) :
    ((put axis value coordinates).find? (·.1 = other)).map Prod.snd =
      if axis = other then some value
      else (coordinates.find? (·.1 = other)).map Prod.snd := by
  induction coordinates with
  | nil => by_cases same : axis = other <;> simp [put, same]
  | cons head rest ih =>
    obtain ⟨first, old⟩ := head
    simp only [put]
    split
    next here => by_cases same : axis = other <;> simp [here, same]
    next elsewhere =>
      -- The axis that is asked for is at the front, and then it is not the one that is set.
      by_cases found : first = other
      · have different : axis ≠ other := fun same => elsewhere (found.trans same.symm)
        simp [found, different]
      · simp [found, ih]

theorem get?_insert (location : Location) (axis other : AxisTag) (value : Single) :
    (location.insert axis value).get? other =
      if axis = other then some value else location.get? other :=
  find?_put axis other value location.coordinates

/-- The location after these coordinates are set, one after the other. -/
def ofSettings (settings : List (AxisTag × Single)) : Location :=
  settings.foldl (fun location (axis, value) => location.insert axis value) empty

/-- What was set last on an axis. -/
def lastOn? (settings : List (AxisTag × Single)) (axis : AxisTag) : Option Single :=
  (settings.reverse.find? (·.1 = axis)).map Prod.snd

/-- Whatever was overwritten on the way, a location gives what was set last. -/
theorem get?_ofSettings (settings : List (AxisTag × Single)) (axis : AxisTag) :
    (ofSettings settings).get? axis = lastOn? settings axis := by
  induction settings using List.reverseRecOn with
  | nil => rfl
  | append_singleton settings setting ih =>
    obtain ⟨last, value⟩ := setting
    have set : ofSettings (settings ++ [(last, value)]) =
        (ofSettings settings).insert last value := by
      simp [ofSettings]
    rw [set, get?_insert, ih]
    by_cases same : last = axis <;> simp [lastOn?, same]

theorem get?_eq_some_iff {axis : AxisTag} {value : Single} :
    location.get? axis = some value ↔ (axis, value) ∈ location.coordinates := by
  simp [get?, find?_key_eq_some_iff location.distinct]

theorem mem_axes_iff {axis : AxisTag} :
    axis ∈ location.axes ↔ (location.get? axis).isSome = true := by
  simp [axes, Option.isSome_iff_exists, get?_eq_some_iff]

/-! ## The sorted coordinates -/

/-- The coordinates with plain zeros, in the order of the axes' codes. -/
def sorted (location : Location) : List (AxisTag × Single) :=
  (location.coordinates.mergeSort (byRank (·.1.code))).map fun (axis, value) =>
    (axis, plainZero value)

theorem mem_sorted_iff {axis : AxisTag} {plain : Single} :
    (axis, plain) ∈ location.sorted ↔ (location.get? axis).map plainZero = some plain := by
  simp only [sorted, List.mem_mergeSort, List.mem_map, Prod.mk.injEq, Option.map_eq_some_iff,
    get?_eq_some_iff]
  constructor
  · rintro ⟨⟨_, value⟩, member, rfl, rfl⟩
    exact ⟨value, member, rfl⟩
  · rintro ⟨value, member, rfl⟩
    exact ⟨(axis, value), member, rfl, rfl⟩

/-- No two coordinates are on one axis, so the order is strict. -/
theorem pairwise_sorted (location : Location) :
    location.sorted.Pairwise fun one other => one.1.code < other.1.code := by
  have weak := List.pairwise_mergeSort (byRank_trans fun entry : AxisTag × Single => entry.1.code)
    byRank_total location.coordinates
  have axes : ((location.coordinates.mergeSort (byRank (·.1.code))).map Prod.fst).Nodup :=
    ((List.mergeSort_perm _ _).map Prod.fst).nodup_iff.mpr location.distinct
  refine List.pairwise_map.mpr ((weak.and (List.pairwise_map.mp axes)).imp ?_)
  intro one other ⟨le, different⟩
  exact Nat.lt_of_le_of_ne (of_decide_eq_true le) fun same =>
    different (AxisTag.code_injective same)

/-- Sorted coordinates are equal exactly if the locations give the same on every axis. -/
theorem sorted_eq_iff :
    one.sorted = other.sorted ↔
      ∀ axis, (one.get? axis).map plainZero = (other.get? axis).map plainZero := by
  constructor
  · intro same axis
    refine Option.ext fun plain => ?_
    rw [← mem_sorted_iff, ← mem_sorted_iff, same]
  · intro same
    have distinct (location : Location) : location.sorted.Nodup :=
      location.pairwise_sorted.imp fun before equal => before.ne (congrArg (·.1.code) equal)
    -- The same members in a strict order can stand in one order only.
    have reordered : one.sorted.Perm other.sorted := by
      refine (List.perm_ext_iff_of_nodup (distinct one) (distinct other)).mpr ?_
      intro ⟨axis, plain⟩
      rw [mem_sorted_iff, mem_sorted_iff, same]
    exact reordered.eq_of_pairwise (fun _ _ _ _ before after => absurd after before.asymm)
      one.pairwise_sorted other.pairwise_sorted

/-! ## Sameness and hashing -/

theorem normalForm_eq (location : Location) :
    location.normalForm = location.sorted.map fun (axis, plain) => (axis.code, plain) := by
  rw [sorted, List.map_map, normalForm]
  exact (List.map_mergeSort (f := fun entry : AxisTag × Single =>
    (entry.1.code, plainZero entry.2)) fun _ _ _ _ => rfl).symm

theorem beq_iff : (one == other) = true ↔ one.sorted = other.sorted := by
  have normal : (one == other) = true ↔ one.normalForm = other.normalForm :=
    beq_iff_eq (a := one.normalForm)
  have injective : Function.Injective fun entry : AxisTag × Single => (entry.1.code, entry.2) := by
    intro entry other same
    obtain ⟨code, plain⟩ := Prod.mk.inj same
    exact Prod.ext (AxisTag.code_injective code) plain
  rw [normal, normalForm_eq, normalForm_eq]
  exact (List.map_injective_iff.mpr injective).eq_iff

theorem plainZero_eq_iff {x y : Single} : plainZero x = plainZero y ↔ x.Alike y := by
  constructor
  · intro same
    simp only [plainZero] at same
    by_cases isZero : x.isZero = true <;> by_cases alsoZero : y.isZero = true
    · exact .inr ⟨isZero, alsoZero⟩
    -- A zero and another number do not have one plain form.
    · rw [if_pos isZero, if_neg alsoZero] at same
      exact absurd (same ▸ rfl) alsoZero
    · rw [if_neg isZero, if_pos alsoZero] at same
      exact absurd (same ▸ rfl) isZero
    · rw [if_neg isZero, if_neg alsoZero] at same
      exact .inl same
  · rintro (rfl | ⟨isZero, alsoZero⟩)
    · rfl
    · rw [plainZero, plainZero, if_pos isZero, if_pos alsoZero]

/-- The locations have the same axes, with coordinates that are alike. -/
def Same (one other : Location) : Prop :=
  ∀ axis, Option.Rel Binary.Alike (one.get? axis) (other.get? axis)

theorem same_iff : one.Same other ↔ one.sorted = other.sorted := by
  rw [sorted_eq_iff]
  refine forall_congr' fun axis => ?_
  cases one.get? axis <;> cases other.get? axis <;> simp [plainZero_eq_iff]

theorem beq_iff_same : (one == other) = true ↔ one.Same other := beq_iff.trans same_iff.symm

/-- What is the same as one location is the same as any that is the same as it. -/
theorem Same.congr_right (same : one.Same other) : location.Same one ↔ location.Same other := by
  rw [same_iff, same_iff, same_iff.mp same]

instance (one other : Location) : Decidable (one.Same other) := decidable_of_iff _ beq_iff_same

/-- The pieces of one coordinate. -/
def hashPieces : AxisTag × Single → List HashInput
  | (axis, plain) => [.length axis.bytes.length, .bytes axis.bytes, .word plain.bits]

theorem hashInput_eq (location : Location) :
    location.hashInput = .length location.sorted.length :: location.sorted.flatMap hashPieces := by
  rw [sorted, List.length_map, List.flatMap_map]
  rfl

theorem flatMap_hashPieces_injective {entries others : List (AxisTag × Single)}
    (same : entries.flatMap hashPieces = others.flatMap hashPieces) : entries = others := by
  induction entries generalizing others with
  | nil =>
    cases others with
    | nil => rfl
    | cons other others => simp [hashPieces] at same
  | cons entry entries ih =>
    cases others with
    | nil => simp [hashPieces] at same
    | cons other others =>
      -- Each coordinate is three pieces, and an axis is nothing but its bytes.
      obtain ⟨⟨bytes, _⟩, plain⟩ := entry
      obtain ⟨⟨also, _⟩, twin⟩ := other
      simp only [List.flatMap_cons, hashPieces, List.cons_append, List.nil_append,
        List.cons.injEq, HashInput.length.injEq, HashInput.bytes.injEq,
        HashInput.word.injEq] at same
      obtain ⟨_, rfl, bits, rest⟩ := same
      rw [Binary.bits_injective bits, ih rest]

theorem hashInput_eq_iff : one.hashInput = other.hashInput ↔ one.sorted = other.sorted := by
  rw [hashInput_eq, hashInput_eq]
  constructor
  · exact fun same => flatMap_hashPieces_injective (List.cons.inj same).2
  · exact fun same => by rw [same]

/-- Coordinates are compared axis by axis, as they are stored but for the sign of a zero. -/
theorem beq_iff_get? :
    (one == other) = true ↔
      (∀ axis, axis ∈ one.axes ↔ axis ∈ other.axes) ∧
        ∀ axis x y, one.get? axis = some x → other.get? axis = some y → x.Alike y := by
  rw [beq_iff_same, ← forall_and]
  refine forall_congr' fun axis => ?_
  rw [mem_axes_iff, mem_axes_iff]
  cases one.get? axis <;> cases other.get? axis <;> simp

/-- Locations are compared as finite maps.  Sameness is reflexive, symmetric and transitive,
whatever the coordinates are.  Two locations are the same exactly if they have the same axes and, on
each of them, coordinates that differ in nothing but the sign of a zero; what was set before on an
axis, and in which order the axes were set, has no part in it.  And locations feed a hasher the same
data exactly if they are the same. -/
theorem beq_ofSettings :
    (Equivalence fun one other : Location => (one == other) = true) ∧
      ∀ ones others : List (AxisTag × Single),
        let one := ofSettings ones
        let other := ofSettings others
        (∀ axis, one.get? axis = lastOn? ones axis ∧ other.get? axis = lastOn? others axis) ∧
          ((one == other) = true ↔
            (∀ axis, axis ∈ one.axes ↔ axis ∈ other.axes) ∧
              ∀ axis x y, one.get? axis = some x → other.get? axis = some y → x.Alike y) ∧
          ((one == other) = true ↔ one.hashInput = other.hashInput) := by
  constructor
  · constructor
    case refl => exact fun location => beq_iff.mpr rfl
    case symm => exact fun same => beq_iff.mpr (beq_iff.mp same).symm
    case trans =>
      exact fun first second => beq_iff.mpr ((beq_iff.mp first).trans (beq_iff.mp second))
  · intro ones others one other
    refine ⟨fun axis => ⟨?_, ?_⟩, beq_iff_get?, ?_⟩
    · exact get?_ofSettings ones axis
    · exact get?_ofSettings others axis
    · rw [beq_iff, hashInput_eq_iff]

end Location

end FontScores
