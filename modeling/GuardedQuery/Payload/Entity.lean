import GuardedQuery.Payload.Basic

/-!
# Payloads over entities

An entity is a table with a fixed list of fields, each a column entry. A strict payload takes its
keys from the fields; a request may be strict or free (`AnyPayload`).
-/

namespace GuardedQuery

open Decode

/-- A table and the column entries of its fields. -/
structure Entity where
  /-- The name of the type of its fields, in messages. -/
  typeName : String
  table : String
  fields : List String

namespace Entity

/-- One of the fields. -/
abbrev Field (e : Entity) := { column : String // column ∈ e.fields }

/-- A field is read by its column entry. -/
def fieldDecoder (e : Entity) : Decoder e.Field :=
  choice e.typeName (e.fields.attach.map fun f => (f.val, f))

def fieldToJson (e : Entity) (f : e.Field) : Json := .string f.val

/-- Payloads whose keys are the fields. -/
def payloadDecoder (e : Entity) : Decoder (Payload e.Field) := Payload.decoder e.fieldDecoder

end Entity

/-- The payload with column entries as free names. -/
def Payload.toFree {e : Entity} (p : Payload e.Field) : Payload String := p.mapKeys Subtype.val

/-- A strict or a free payload. -/
inductive AnyPayload (e : Entity) where
  | strict (p : Payload e.Field)
  | flexible (p : Payload String)

namespace AnyPayload

variable {e : Entity}

/-- How the keys of a payload are read. -/
inductive Mode where
  | strict
  | flexible
  deriving DecidableEq, Repr

def Mode.choices : List (String × Mode) := [("strict", .strict), ("flexible", .flexible)]

/-- A mode beside the payload in an object. -/
def Mode.decoder : Decoder Mode := choice "AnyPayload" Mode.choices

/-- A mode in front of the payload in an array, always plain text. -/
def Mode.nameDecoder : Decoder Mode := name Mode.choices

/-- The payload in a given mode. -/
def contentDecoder (e : Entity) : Mode → Decoder (AnyPayload e)
  | .strict => convert .strict e.payloadDecoder
  | .flexible => convert .flexible Payload.freeDecoder

/-- What the members `mode` and `payload` have given so far. A payload that stands in front of its
mode is kept until the mode is known. -/
inductive Progress (e : Entity) where
  | start
  | mode (m : Mode)
  | content (d : Document)
  | done (p : AnyPayload e)

/-- The source of a payload that was kept. -/
def keptSource : Source → Source
  | .text => .buffered
  | source => source

/-- Reads one member; members other than `mode` and `payload` are skipped. -/
def step (source : Source) (key : String) (d : Document) :
    Progress e → Except DecodeError (Progress e)
  | progress =>
    match key, progress with
    | "mode", .start => (under (.key key) (Mode.decoder source d)).map .mode
    | "mode", .content kept =>
      match under (.key key) (Mode.decoder source d) with
      | .error err => .error err
      | .ok m => (contentDecoder e m (keptSource source) kept).map .done
    | "mode", _ => fail (.duplicateField "mode")
    | "payload", .start => if d.toJson?.isSome then .ok (.content d) else fail .notJson
    | "payload", .mode m => (under (.key key) (contentDecoder e m source d)).map .done
    | "payload", _ => fail (.duplicateField "payload")
    | _, progress => if d.isComplete then .ok progress else fail .notJson

/-- Reads members in the order of the document. -/
def steps (source : Source) :
    Progress e → List (Option String × Document) → Except DecodeError (Progress e)
  | progress, [] => .ok progress
  | _, (none, _) :: _ => fail .notJson
  | progress, (some key, d) :: rest =>
    match step source key d progress with
    | .error err => .error err
    | .ok progress => steps source progress rest

/-- What an array or another value was to be. -/
def expectation : String := "adjacently tagged enum AnyPayload"

/-- An object with `mode` and `payload`, or an array of the two. -/
def decoder (e : Entity) : Decoder (AnyPayload e) := fun source d =>
  match d with
  | .object members =>
    match steps (e := e) source .start members with
    | .error err => .error err
    | .ok (.done p) => .ok p
    | .ok (.mode _) => fail (.missingField "payload")
    | .ok _ => fail (.missingField "mode")
  | .array [] => fail (.invalidLength 0 expectation)
  | .array (m :: rest) =>
    match under (.index 0) (Mode.nameDecoder source m), rest with
    | .error err, _ => .error err
    | .ok _, [] => fail (.invalidLength 1 expectation)
    | .ok m, d :: rest =>
      match under (.index 1) (contentDecoder e m source d), rest with
      | .error err, _ => .error err
      | .ok p, [] => .ok p
      | .ok p, _ :: _ => leftOver source (rest.length + 2) 2 p
  | d => mismatch d expectation

def toJson : AnyPayload e → Json
  | .strict p => .ofMembers [("mode", .string "strict"), ("payload", p.toJson e.fieldToJson)]
  | .flexible p => .ofMembers [("mode", .string "flexible"), ("payload", p.freeToJson)]

end AnyPayload

end GuardedQuery
