import FontScores.Json.Document
import FontScores.Number.Rounding

/-!
# Taking values out of JSON

A decoder takes a value of one shape out of a node.  It can fail for two reasons, and the first one
met in the order of the text counts: the text is no JSON, or it is JSON of another shape.

A record is written as an object or as an array of its fields in order.  In an object, unknown keys
are passed over as long as they are JSON, and no known key may come twice.  Fields may be missing if
there is a value to take instead; in an array only if they are `elidable`, and only at the end.
-/

namespace FontScores.Json

inductive Fault where
  | notJson
  | otherShape
deriving DecidableEq, Repr

/-- Takes a value of one shape out of a node. -/
abbrev Decoder (α : Type) := Node → Except Fault α

/-- Why a node has not the shape that was asked for: it may not be JSON at all. -/
def Node.fault : Node → Fault
  | .broken => .notJson
  | .number none => .notJson
  | .text none => .notJson
  | _ => .otherShape

namespace Decoder

def text : Decoder String
  | .text (some value) => .ok value
  | node => .error node.fault

/-- A number as it is stored: rounded from the numeral's value. -/
def single : Decoder Single
  | .number (some (.natural value)) => .ok (Binary.ofNat _ false value)
  | .number (some (.negative size)) => .ok (Binary.ofNat _ true size)
  | .number (some (.real value)) => .ok (value.convert _)
  | node => .error node.fault

def count : Decoder Nat
  | .number (some (.natural value)) => .ok value
  | node => .error node.fault

def optional {α : Type} (decoder : Decoder α) : Decoder (Option α)
  | .null => .ok none
  | node => (decoder node).map some

def list {α : Type} (decoder : Decoder α) : Decoder (List α)
  | .array items => items.mapM decoder
  | node => .error node.fault

/-- An object with any keys: its members in order, those of equal keys included. -/
def table {α : Type} (decoder : Decoder α) : Decoder (List (String × α))
  | .object members =>
    members.mapM fun (key, node) =>
      match key with
      | none => .error .notJson
      | some key => (decoder node).map fun value => (key, value)
  | node => .error node.fault

end Decoder

/-- A field of a record that is being put together. -/
structure Field (ρ : Type) where
  name : String
  /-- Whether the field may be missing at the end of an array. -/
  elidable : Bool
  /-- Takes the field out of a node and puts it into the record. -/
  set : Node → ρ → Except Fault ρ

namespace Field

/-- A field that is decoded and then put into the record. -/
def of {ρ α : Type} (name : String) (elidable : Bool) (decoder : Decoder α) (put : α → ρ → ρ) :
    Field ρ :=
  ⟨name, elidable, fun node record => (decoder node).map (put · record)⟩

end Field

/-- Puts the members of an object into a record; `seen` are the known keys so far. -/
def setMembers {ρ : Type} (fields : List (Field ρ)) :
    List String → List (Option String × Node) → ρ → Except Fault ρ
  | _, [], record => .ok record
  | _, (none, _) :: _, _ => .error .notJson
  | seen, (some key, node) :: others, record =>
    match fields.find? (·.name = key) with
    | some field =>
      if key ∈ seen then .error .otherShape
      else do
        let record ← field.set node record
        setMembers fields (key :: seen) others record
    | none =>
      if node.isWhole then setMembers fields seen others record else .error .notJson

/-- Puts the items of an array into a record, each into the next field. -/
def setItems {ρ : Type} : List (Field ρ) → List Node → ρ → Except Fault ρ
  | [], [], record => .ok record
  | [], _ :: _, _ => .error .notJson
  | field :: fields, [], record =>
    if field.elidable then setItems fields [] record else .error .otherShape
  | field :: fields, node :: nodes, record => do
    let record ← field.set node record
    setItems fields nodes record

/-- A record, put together from `start` and finished by `finish`, which fails if a field that has
to be there is not. -/
def Decoder.record {ρ α : Type} (fields : List (Field ρ)) (start : ρ) (finish : ρ → Option α) :
    Decoder α := fun node => do
  let record ←
    match node with
    | .object members => setMembers fields [] members start
    | .array items => setItems fields items start
    | node => .error node.fault
  match finish record with
  | some value => return value
  | none => .error .otherShape

def Document.decode {α : Type} (decoder : Decoder α) (document : Document) : Except Fault α := do
  let value ← decoder document.root
  if document.trailing then .error .notJson else return value

end FontScores.Json
