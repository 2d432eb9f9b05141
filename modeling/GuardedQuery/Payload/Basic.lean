import GuardedQuery.Allowlist.Join
import GuardedQuery.Condition.Wire

/-!
# Payloads

A payload is what a client asks for: columns, a filter, an order and a window of the rows. Its keys
are free names, checked when the payload is compiled, or the fields of an entity, checked when it is
decoded.
-/

namespace GuardedQuery

open Decode

/-- Direction of a sort term. -/
inductive Direction where
  | asc
  | desc
  deriving DecidableEq, Repr

namespace Direction

/-- The name that is written. -/
def name : Direction → String
  | .asc => "asc"
  | .desc => "desc"

def sql : Direction → String
  | .asc => "ASC"
  | .desc => "DESC"

/-- Directions are read in lower and in upper case. -/
def decoder : Decoder Direction :=
  choice "SortDirection" [("ASC", .asc), ("asc", .asc), ("DESC", .desc), ("desc", .desc)]

end Direction

/-- A key to sort by. -/
structure SortTerm (κ : Type) where
  key : κ
  direction : Direction
  deriving DecidableEq, Repr

namespace SortTerm

variable {κ μ : Type}

def mapKey (f : κ → μ) (t : SortTerm κ) : SortTerm μ := ⟨f t.key, t.direction⟩

def shape (key : Decoder κ) : Shape (κ × Direction × Unit) (Option κ × Option Direction × Unit) :=
  .field (required "key" key) <| .field (defaulted "direction" Direction.decoder .asc) .done

def decoder (key : Decoder κ) : Decoder (SortTerm κ) :=
  convert (fun (k, direction, ()) => ⟨k, direction⟩) (record "SortDescriptor" (shape key))

def toJson (key : κ → Json) (t : SortTerm κ) : Json :=
  .ofMembers [("key", key t.key), ("direction", .string t.direction.name)]

end SortTerm

/-- A request for rows. -/
structure Payload (κ : Type) where
  select : List κ
  /-- The table or view, unless the server names one. -/
  source : Option String
  /-- Joins that must be among those of the view. -/
  joins : List Join
  filter : Option (Group κ)
  order : List (SortTerm κ)
  limit : Option UInt64
  offset : Option UInt64

namespace Payload

variable {κ μ : Type}

/-- Changes every key. -/
def mapKeys (f : κ → μ) (p : Payload κ) : Payload μ :=
  { select := p.select.map f
    source := p.source
    joins := p.joins
    filter := p.filter.map (Group.mapKeys f)
    order := p.order.map (SortTerm.mapKey f)
    limit := p.limit
    offset := p.offset }

/-! ## JSON form -/

def shape (key : Decoder κ) :
    Shape
      (List κ × Option String × List Join × Option (Group κ) × List (SortTerm κ) × Option UInt64 ×
        Option UInt64 × Unit)
      (Option (List κ) × Option (Option String) × Option (List Join) × Option (Option (Group κ)) ×
        Option (List (SortTerm κ)) × Option (Option UInt64) × Option (Option UInt64) × Unit) :=
  .field (required "select" (list key)) <|
    .field (defaulted "from" (optional string) none) <|
      .field (defaulted "joins" (list Join.decoder) []) <|
        .field (defaulted "where" (optional (Group.decoder key)) none) <|
          .field (defaulted "orderBy" (list (SortTerm.decoder key)) []) <|
            .field (defaulted "limit" (optional uint64) none) <|
              .field (defaulted "offset" (optional uint64) none) .done

def decoder (key : Decoder κ) : Decoder (Payload κ) :=
  convert
    (fun (select, source, joins, filter, order, limit, offset, ()) =>
      ⟨select, source, joins, filter, order, limit, offset⟩)
    (record "QueryPayload" (shape key))

/-- The JSON form, given that of the keys. What is missing or empty is left out, except the selected
columns. -/
def toJson (key : κ → Json) (p : Payload κ) : Json :=
  let list {α : Type} (name : String) (encode : α → Json) (items : List α) : List (String × Json) :=
    if items.isEmpty then [] else [(name, .array (items.map encode))]
  let option {α : Type} (name : String) (encode : α → Json) (value : Option α) :
      List (String × Json) :=
    (value.map fun a => (name, encode a)).toList
  .ofMembers <|
    [("select", .array (p.select.map key))] ++ option "from" .string p.source ++
      list "joins" Join.toJson p.joins ++ option "where" (Group.toJson key) p.filter ++
      list "orderBy" (SortTerm.toJson key) p.order ++
      option "limit" (fun n => .int (.ofUInt64 n)) p.limit ++
      option "offset" (fun n => .int (.ofUInt64 n)) p.offset

end Payload

/-- Free names as keys. -/
def Payload.freeDecoder : Decoder (Payload String) := Payload.decoder string

/-- The JSON form of a payload with free names as keys. -/
def Payload.freeToJson (p : Payload String) : Json := p.toJson .string

end GuardedQuery
