import Mathlib
import FontScores.Proofs.DesignSpace.Spec

/-!
# Written locations have a normal form

One location can be written in many ways: with blanks around its axes and coordinates, and with any
numeral for a coordinate.  Reading keeps of each name what is between the blanks and of each numeral
what it is worth, in the order of the text.  What is written of that has no blanks, and every
numeral is the shortest.  So it is read as the same location again, and two texts have one normal
form exactly if they were read as one location.
-/

namespace FontScores

open Text (cutFirst cutAll trim)

theorem AxisTag.name_injective : Function.Injective AxisTag.name := by
  intro tag other same
  have read := ofName_name tag
  rw [same, ofName_name other] at read
  exact (Except.ok.inj read).symm

namespace Location

variable {spec text : List Char} {location other : Location}

/-! ## What is read -/

theorem read_of_readValue {value : Single} (valued : readValue text = .ok value) :
    Numeral.read .single (trim text) = .ok value := by
  simp only [readValue] at valued
  split at valued
  next number read =>
    split at valued
    · rw [read, Except.ok.inj valued]
    · cases valued
  next => cases valued

/-- The text says this of a location: before its first at sign stand the names of the axes, behind
it their coordinates, each between commas and with blanks around it. -/
def Says (spec : List Char) (location : Location) : Prop :=
  ∃ before after, cutFirst '@' spec = some (before, after) ∧
    location.axes.map AxisTag.name = (cutAll ',' before).map trim ∧
    List.Forall₂ (fun piece value => Numeral.read .single (trim piece) = .ok value)
      (cutAll ',' after) (location.coordinates.map Prod.snd)

theorem says_of_ofSpec (read : ofSpec spec = .ok location) : Says spec location := by
  obtain ⟨before, after, cut, equal, each⟩ := ofSpec_eq_ok_iff.mp read
  refine ⟨before, after, cut, ?_, ?_⟩
  -- The pieces were paired, and both halves of the pairs are all there because there are as many
  -- names as coordinates.
  · have names : List.Forall₂ (fun coordinate name => AxisTag.name coordinate.1 = trim name)
        location.coordinates (cutAll ',' before) := by
      rw [← List.map_fst_zip (Nat.le_of_eq equal), List.forall₂_map_right_iff]
      exact each.flip.imp fun _ _ same => AxisTag.name_of_ofName same.1
    rw [axes, List.map_map, ← List.forall₂_eq_eq_eq, List.forall₂_map_left_iff,
      List.forall₂_map_right_iff]
    exact names
  · rw [← List.map_snd_zip (Nat.le_of_eq equal.symm), List.forall₂_map_left_iff,
      List.forall₂_map_right_iff]
    exact each.imp fun _ _ same => read_of_readValue same.2

/-! ## The normal form -/

/-- The text that is written of what the text says. -/
def normalize (spec : List Char) : Except LocationError (List Char) :=
  (ofSpec spec).map Location.spec

/-- Locations that can be read are written differently if they differ in anything. -/
theorem spec_eq_iff (writable : location.Writable) (writable' : other.Writable) :
    other.spec = location.spec ↔ other = location := by
  constructor
  · intro same
    have read := ofSpec_spec writable
    rw [← same, ofSpec_spec writable'] at read
    exact Except.ok.inj read
  · rintro rfl
    rfl

/-- A text that is accepted says of every axis, each named once, a finite number, and there is one
axis at least.  What is written of the location that was read is accepted too, and read as the same
location: with the same axes in the same order and coordinates that are the same to the last bit.
So it is its own normal form, and another accepted text has the same one exactly if it was read as
the same location. -/
theorem normalize_of_ofSpec {spec : List Char} {location : Location}
    (read : ofSpec spec = .ok location) :
    Says spec location ∧
      (location.axes ≠ [] ∧ (location.axes.map AxisTag.name).Nodup ∧
        ∀ coordinate ∈ location.coordinates, coordinate.2.isFinite = true) ∧
      ofSpec location.spec = .ok location ∧ normalize location.spec = .ok location.spec ∧
      ∀ text other, ofSpec text = .ok other → (other.spec = location.spec ↔ other = location) := by
  have writable := writable_of_ofSpec read
  have again := ofSpec_spec writable
  refine ⟨says_of_ofSpec read, ⟨?_, ?_, writable.finite⟩, again, ?_, fun text other read' => ?_⟩
  · simp [axes, writable.nonempty]
  · exact location.distinct.map AxisTag.name_injective
  · rw [normalize, again]
    rfl
  · exact spec_eq_iff writable (writable_of_ofSpec read')

/-- Two axes, one of them with a short name, with blanks of several kinds around everything, an
exponent and a negative zero. -/
theorem normalize_of_ofSpec_of_blanks :
    ∃ location, ofSpec " wght\u2003,ab@\t7e2 ,-0.0".toList = .ok location ∧
      location.spec = "wght,ab@700,-0".toList ∧
      (location.axes.map AxisTag.name).Nodup ∧ ofSpec "wght,ab@700,-0".toList = .ok location ∧
      normalize "wght,ab@700,-0".toList = .ok "wght,ab@700,-0".toList := by
  have accepted : normalize " wght\u2003,ab@\t7e2 ,-0.0".toList = .ok "wght,ab@700,-0".toList := by
    decide +kernel
  obtain ⟨location, read, written⟩ := map_eq_ok_iff.mp accepted
  obtain ⟨_, ⟨_, distinct, _⟩, again, normal, _⟩ := normalize_of_ofSpec read
  rw [written] at again normal
  exact ⟨location, read, written, distinct, again, normal⟩

end Location

end FontScores
