import FontScores.DesignSpace.LocationError
import FontScores.Text.Blank

/-!
# Axis tags

A variation axis is known by a tag of four bytes.  Its name is one to four printable ASCII
characters other than the space, and the tag is the name filled up with spaces; no name ends in a
space, so the filling can be told from the name and taken off again.  All tags are made from names,
those of a font's axes as well as those of locations, so a tag carries the proof that it has one.
-/

namespace FontScores

namespace AxisTag

/-- The filling of short names. -/
def space : UInt8 := 0x20

/-- The bytes that can be the name of an axis. -/
def IsName (name : List UInt8) : Prop :=
  (1 ≤ name.length ∧ name.length ≤ 4) ∧ ∀ byte ∈ name, 0x21 ≤ byte ∧ byte ≤ 0x7e

instance (name : List UInt8) : Decidable (IsName name) :=
  inferInstanceAs (Decidable ((1 ≤ name.length ∧ name.length ≤ 4) ∧ _))

def filled (name : List UInt8) : List UInt8 :=
  name ++ List.replicate (4 - name.length) space

def unfilled (bytes : List UInt8) : List UInt8 :=
  (bytes.reverse.dropWhile (· == space)).reverse

end AxisTag

structure AxisTag where
  bytes : List UInt8
  /-- The bytes are a name filled up with spaces. -/
  named : ∃ name, AxisTag.IsName name ∧ bytes = AxisTag.filled name
deriving DecidableEq

namespace AxisTag

/-- The tag of the axis with this name; blanks around the name are not part of it. -/
def ofName (text : List Char) : Except LocationError AxisTag :=
  let name := Text.trim text
  let bytes := name.flatMap String.utf8EncodeChar
  if named : IsName bytes then .ok ⟨filled bytes, bytes, named, rfl⟩
  else .error (.invalidAxisTag (String.ofList name))

/-- The name of the axis, without the filling. -/
def name (tag : AxisTag) : List Char :=
  (unfilled tag.bytes).map fun byte => Char.ofNat byte.toNat

/-- The four bytes read as one number, the first the most significant. -/
def code (tag : AxisTag) : Nat :=
  tag.bytes.foldl (fun code byte => 256 * code + byte.toNat) 0

end AxisTag

end FontScores
