import GuardedQuery.Decode.Basic

/-!
# Records

A `Shape` lists the fields of a record in order; it says how to read the record from an object or
from an array. An object's members are read in the order of the document and the first error counts;
then fields that are missing are errors in the order of the shape. An array gives the fields in the
order of the shape.
-/

namespace GuardedQuery.Decode

/-- A field of a record. -/
structure Field (α : Type) where
  name : String
  /-- Every spelling of the name, in the order in which messages list them. -/
  spellings : List String
  decoder : Decoder α
  /-- The value of a field that is left out; `none` when it is required. -/
  absent : Option α

/-- A field that must be present. -/
def required {α : Type} (name : String) (decoder : Decoder α) : Field α :=
  ⟨name, [name], decoder, none⟩

/-- A field that may be left out. -/
def defaulted {α : Type} (name : String) (decoder : Decoder α) (absent : α) : Field α :=
  ⟨name, [name], decoder, some absent⟩

/-- The fields of a record. Their values form a tuple `α` that ends in `Unit`; `σ` is the tuple of
optional values while the record is read. -/
inductive Shape : (α σ : Type) → Type 1 where
  | done : Shape Unit Unit
  | field {α β σ : Type} (f : Field α) (rest : Shape β σ) : Shape (α × β) (Option α × σ)

namespace Shape

/-- Nothing read yet. -/
def empty {α σ : Type} : Shape α σ → σ
  | .done => ()
  | .field _ rest => (none, rest.empty)

/-- Every spelling of every field. -/
def names {α σ : Type} : Shape α σ → List String
  | .done => []
  | .field f rest => f.spellings ++ rest.names

/-- The number of fields. -/
def count {α σ : Type} : Shape α σ → Nat
  | .done => 0
  | .field _ rest => rest.count + 1

/-- Reads one member into its place; `none` when no field has that name. -/
def put {α σ : Type} (source : Source) (key : String) (d : Document) :
    Shape α σ → σ → Option (Except DecodeError σ)
  | .done, _ => none
  | .field f rest, (slot, slots) =>
    if f.spellings.contains key then
      match slot with
      | some _ => some (fail (.duplicateField f.name))
      | none => some ((under (.key key) (f.decoder source d)).map fun a => (some a, slots))
    else (put source key d rest slots).map fun r => r.map fun slots => (slot, slots)

/-- Reads members in the order of the document. -/
def putAll {α σ : Type} (source : Source) (s : Shape α σ) :
    List (Option String × Document) → σ → Except DecodeError σ
  | [], slots => .ok slots
  | (none, _) :: _, _ => fail .notJson
  | (some key, d) :: rest, slots =>
    match s.put source key d slots with
    | none => under (.key key) (fail (.unknownField key s.names))
    | some (.error e) => .error e
    | some (.ok slots) => putAll source s rest slots

/-- The values of all fields, with defaults for those left out. -/
def close {α σ : Type} : Shape α σ → σ → Except DecodeError α
  | .done, _ => .ok ()
  | .field f rest, (slot, slots) =>
    match slot, f.absent with
    | some a, _ => (rest.close slots).map (a, ·)
    | none, some a => (rest.close slots).map (a, ·)
    | none, none => fail (.missingField f.name)

/-- The values of all fields from items in order, and the items left over. `index` counts the items
read, `expected` describes the whole record. -/
def take {α σ : Type} (source : Source) (expected : String) :
    Shape α σ → (index : Nat) → List Document → Except DecodeError (α × List Document)
  | .done, _, ds => .ok ((), ds)
  | .field f rest, index, [] =>
    match f.absent with
    | some a => (take source expected rest index []).map fun (r, ds) => ((a, r), ds)
    | none => fail (.invalidLength index expected)
  | .field f rest, index, d :: ds =>
    match under (.index index) (f.decoder source d) with
    | .error e => .error e
    | .ok a => (take source expected rest (index + 1) ds).map fun (r, ds) => ((a, r), ds)

end Shape

/-- A number of elements, in words. -/
def elements (n : Nat) : String := if n = 1 then "1 element" else toString n ++ " elements"

/-- Items left over at the end of an array of `length` items that holds a record of `count` fields.
Settings allow them. -/
def leftOver {α : Type} (source : Source) (length count : Nat) (a : α) : Except DecodeError α :=
  match source with
  | .value => fail (.invalidLength length "fewer elements in array")
  | .text => fail .notJson
  | .buffered => fail (.invalidLength length (elements count ++ " in sequence"))
  | .settings => .ok a

/-- A record with a name for messages. -/
def record {α σ : Type} (name : String) (s : Shape α σ) : Decoder α := fun source d =>
  match d with
  | .object members =>
    match s.putAll source members s.empty with
    | .error e => .error e
    | .ok slots => s.close slots
  | .array items =>
    match s.take source ("struct " ++ name ++ " with " ++ elements s.count) 0 items with
    | .error e => .error e
    | .ok (a, []) => .ok a
    | .ok (a, _ :: _) => leftOver source items.length s.count a
  | d => mismatch d ("struct " ++ name)

end GuardedQuery.Decode
