import FontScores.DesignSpace.AxisTag
import FontScores.Number.Numeral

/-!
# Locations in a design space

A location gives a coordinate on some axes.  It keeps its axes in the order in which they were
first given, because that is the order in which it is written, but two locations are the same
(`==`) when they give the same coordinates, in whatever order.

Sameness compares normal forms: the coordinates by axis, the two zeros taken as one.  Everything
else is compared as it is stored, so a coordinate that is no number is the same as itself.
-/

namespace FontScores

namespace Location

/-- Sets the coordinate on an axis, in its place if the axis is there and at the end if not. -/
def put (axis : AxisTag) (value : Single) :
    List (AxisTag × Single) → List (AxisTag × Single)
  | [] => [(axis, value)]
  | (first, old) :: rest =>
    if first = axis then (first, value) :: rest else (first, old) :: put axis value rest

theorem map_fst_put (axis : AxisTag) (value : Single) (coordinates : List (AxisTag × Single)) :
    (put axis value coordinates).map Prod.fst =
      if axis ∈ coordinates.map Prod.fst then coordinates.map Prod.fst
      else coordinates.map Prod.fst ++ [axis] := by
  induction coordinates with
  | nil => simp [put]
  | cons head rest ih =>
    obtain ⟨first, old⟩ := head
    by_cases same : first = axis
    · simp [put, same]
    · have other : axis ≠ first := fun h => same h.symm
      simp only [put, same, if_false, List.map_cons, ih, List.mem_cons, other, false_or]
      split <;> simp

theorem nodup_put {coordinates : List (AxisTag × Single)} (axis : AxisTag) (value : Single)
    (distinct : (coordinates.map Prod.fst).Nodup) :
    ((put axis value coordinates).map Prod.fst).Nodup := by
  rw [map_fst_put]
  split
  · exact distinct
  · next absent =>
    rw [List.nodup_append]
    refine ⟨distinct, by simp, ?_⟩
    intro one member other last same
    rw [List.mem_singleton] at last
    exact absent (last ▸ same ▸ member)

end Location

structure Location where
  coordinates : List (AxisTag × Single)
  distinct : (coordinates.map Prod.fst).Nodup
deriving DecidableEq

namespace Location

def empty : Location := ⟨[], List.nodup_nil⟩

def axes (location : Location) : List AxisTag := location.coordinates.map Prod.fst

def size (location : Location) : Nat := location.coordinates.length

def get? (location : Location) (axis : AxisTag) : Option Single :=
  (location.coordinates.find? (·.1 = axis)).map Prod.snd

def insert (location : Location) (axis : AxisTag) (value : Single) : Location :=
  ⟨put axis value location.coordinates, nodup_put axis value location.distinct⟩

/-- The coordinate with the sign of a zero taken off. -/
def plainZero (value : Single) : Single := if value.isZero then Binary.zero _ false else value

/-- The coordinates in the order of the axes' codes, each with its zero plain. -/
def normalForm (location : Location) : List (Nat × Single) :=
  (location.coordinates.map fun (axis, value) => (axis.code, plainZero value)).mergeSort
    fun one other => one.1 ≤ other.1

/-- Two locations are the same when they give the same coordinates on the same axes. -/
instance : BEq Location := ⟨fun one other => one.normalForm == other.normalForm⟩

/-- What a hasher is fed, piece by piece. -/
inductive HashInput where
  | length (count : Nat)
  | bytes (bytes : List UInt8)
  | word (bits : Nat)
deriving DecidableEq, Repr

/-- What a hasher is fed of a location: the number of its coordinates and then, in the order of the
axes' codes, the bytes of each axis and the bits of its coordinate, with a plain zero. -/
def hashInput (location : Location) : List HashInput :=
  let sorted := location.coordinates.mergeSort fun one other => one.1.code ≤ other.1.code
  .length sorted.length :: sorted.flatMap fun (axis, value) =>
    [.length axis.bytes.length, .bytes axis.bytes, .word (plainZero value).bits]

end Location

end FontScores
