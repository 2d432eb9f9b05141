import GuardedQuery.Decode.Error
import GuardedQuery.Document.Reader

/-!
# Decoders

A decoder turns a document into a value of some type. Documents come from four sources, and a few
errors depend on the source: in JSON text, for instance, an array that is too long is no JSON of the
expected form at all, while in a JSON value it is an array of the wrong length.
-/

namespace GuardedQuery

namespace Decode

/-- Where a document comes from. -/
inductive Source where
  /-- A JSON value. -/
  | value
  /-- JSON text, read as it is decoded. -/
  | text
  /-- A part of JSON text that was read as a whole first. -/
  | buffered
  /-- Settings: a file merged with environment variables. -/
  | settings
  deriving DecidableEq, Repr

/-- Fails at the place of the document. -/
def fail {α : Type} (cause : Cause) : Except DecodeError α := .error ⟨[], cause⟩

/-- The place of an error inside one part of the document. -/
def under {α : Type} (segment : Segment) : Except DecodeError α → Except DecodeError α
  | .ok a => .ok a
  | .error e => .error ⟨segment :: e.path, e.cause⟩

/-- The document is not what was expected. -/
def mismatch {α : Type} (d : Document) (expected : String) : Except DecodeError α :=
  match found? d with
  | some found => fail (.invalidType found expected)
  | none => fail .notJson

end Decode

/-- Turns documents into values of a type. -/
abbrev Decoder (α : Type) := Decode.Source → Document → Except DecodeError α

namespace Decode

variable {α β : Type}

/-- Applies a check or conversion to what was decoded. -/
def refine (f : α → Except Cause β) (decoder : Decoder α) : Decoder β := fun source d =>
  match decoder source d with
  | .error e => .error e
  | .ok a =>
    match f a with
    | .ok b => .ok b
    | .error cause => fail cause

/-- Converts what was decoded. -/
def convert (f : α → β) (decoder : Decoder α) : Decoder β := fun source d =>
  (decoder source d).map f

/-! ## Scalars -/

def string : Decoder String := fun _ d =>
  match d with
  | .string s => .ok s
  | d => mismatch d "a string"

def bool : Decoder Bool := fun _ d =>
  match d with
  | .bool b => .ok b
  | d => mismatch d "a boolean"

/-- A natural number below a bound; `expected` names the type. -/
def natBelow (bound : Nat) (expected : String) : Decoder Nat := fun _ d =>
  match d with
  | .int i =>
    if 0 ≤ i.val ∧ i.val < bound then .ok i.val.toNat
    else fail (.invalidValue (.int i.val) expected)
  | d => mismatch d expected

def uint64 : Decoder UInt64 := convert UInt64.ofNat (natBelow (Nat.pow 2 64) "u64")

def uint32 : Decoder UInt32 := convert UInt32.ofNat (natBelow (Nat.pow 2 32) "u32")

/-- A count, of 64 bits. -/
def size : Decoder UInt64 := convert UInt64.ofNat (natBelow (Nat.pow 2 64) "usize")

/-- Any JSON value. -/
def json : Decoder Json := fun _ d =>
  match d.toJson? with
  | some j => .ok j
  | none => fail .notJson

/-! ## Containers -/

/-- `null` or a value. -/
def optional (decoder : Decoder α) : Decoder (Option α) := fun source d =>
  match d with
  | .null => .ok none
  | d => (decoder source d).map some

/-- Decodes items; `start` is the index of the first. -/
def items (decoder : Decoder α) (source : Source) : Nat → List Document → Except DecodeError (List α)
  | _, [] => .ok []
  | start, d :: rest =>
    match under (.index start) (decoder source d) with
    | .error e => .error e
    | .ok a => (items decoder source (start + 1) rest).map (a :: ·)

def list (decoder : Decoder α) : Decoder (List α) := fun source d =>
  match d with
  | .array ds => items decoder source 0 ds
  | d => mismatch d "a sequence"

/-- Decodes members into a map; of repeated keys the last counts. -/
def members (decoder : Decoder α) (source : Source) :
    Keyed α → List (Option String × Document) → Except DecodeError (Keyed α)
  | m, [] => .ok m
  | _, (none, _) :: _ => fail .notJson
  | m, (some key, d) :: rest =>
    match under (.key key) (decoder source d) with
    | .error e => .error e
    | .ok a => members decoder source (m.insert key a) rest

def keyed (decoder : Decoder α) : Decoder (Keyed α) := fun source d =>
  match d with
  | .object ms => members decoder source .empty ms
  | d => mismatch d "a map"

/-! ## Choices -/

/-- The value of one of some names. -/
def named (choices : List (String × α)) (name : String) : Except DecodeError α :=
  match choices.lookup name with
  | some a => .ok a
  | none => fail (.unknownVariant name (choices.map Prod.fst))

/-- The name of a choice, which must be plain text. -/
def name (choices : List (String × α)) : Decoder α := fun _ d =>
  match d with
  | .string name => named choices name
  | d => mismatch d "variant identifier"

/-- The empty value that may stand beside the name of a choice. -/
def unit : Decoder Unit := fun source d =>
  match d, source with
  | .null, _ => .ok ()
  | .object [], .buffered => .ok ()
  | d, _ => mismatch d "unit"

/-- One of some named values: its name, or an object with the name as key and nothing beside it. In
settings the object may have further members. -/
def choice (type : String) (choices : List (String × α)) : Decoder α := fun source d =>
  match d, source with
  | .string name, _ => named choices name
  | .object ((some name, d) :: rest), .settings =>
    match under (.key name) (named choices name) with
    | .error e => .error e
    | .ok a =>
      match under (.key name) (unit source d) with
      | .error e => .error e
      | .ok _ => if rest.any (·.1.isNone) then fail .notJson else .ok a
  | .object _, .settings => fail (.invalidType .map "enum")
  | d, .settings => mismatch d ("enum " ++ type)
  | .object ((some name, d) :: rest), .text =>
    match named choices name with
    | .error e => .error e
    | .ok a =>
      match under (.key name) (unit source d) with
      | .error e => .error e
      | .ok _ => if rest.isEmpty then .ok a else fail .notJson
  | .object ((none, .misplaced d) :: _), .text => name choices source d
  | _, .text => fail .notJson
  | .object [(some name, d)], _ =>
    match named choices name with
    | .error e => .error e
    | .ok a => (under (.key name) (unit source d)).map fun _ => a
  | .object _, _ => fail (.invalidValue .map "map with a single key")
  | d, _ => mismatch d "string or map"

/-! ## Entry points -/

/-- Decodes a JSON value. -/
def ofJson (decoder : Decoder α) (j : Json) : Except DecodeError α :=
  decoder .value (Document.ofJson j)

/-- Decodes JSON text, after which only blanks may follow. -/
def ofText (decoder : Decoder α) (s : String) : Except DecodeError α :=
  let r := Document.ofText s
  match decoder .text r.document with
  | .error e => .error e
  | .ok a => if r.ended then .ok a else fail .notJson

end Decode

end GuardedQuery
