import GuardedQuery.Condition.Tree
import GuardedQuery.Decode.Shape

/-!
# JSON form of condition trees

A condition is an object with `key`, `operator` and, where the operator takes one, `value`. A group
is an object with `operator` and `conditions`. Inside a group a value that has `conditions` or a
connective as its operator is a group, and everything else is a condition.
-/

namespace GuardedQuery

open Decode

variable {κ : Type}

def Operator.decoder : Decoder Operator :=
  choice "Operator" (Operator.all.map fun op => (op.name, op))

def Connective.decoder : Decoder Connective :=
  choice "GroupOperator" (Connective.all.map fun c => (c.name, c))

namespace Node

/-! ## Decoding -/

/-- The fields of a condition. -/
def conditionShape (key : Decoder κ) :
    Shape (κ × Operator × Option Json × Unit) (Option κ × Option Operator × Option (Option Json) × Unit) :=
  .field (required "key" key) <| .field (required "operator" Operator.decoder) <|
    .field (defaulted "value" (optional json) none) .done

/-- A condition on its own: its key and predicate. -/
def conditionDecoder (key : Decoder κ) : Decoder (κ × Predicate) :=
  refine (fun (k, op, value, ()) =>
      match Predicate.ofParts op value with
      | .ok p => .ok (k, p)
      | .error e => .error (.refused e.message))
    (record "RawCondition" (conditionShape key))

/-- A node in the list of a group, given how to decode it from a JSON value. An error inside the node
belongs to the node as a whole. -/
def element (node : Json → Except DecodeError (Node κ)) : Decoder (Node κ) := fun source d =>
  match json source d with
  | .error e => .error e
  | .ok j =>
    match node j with
    | .ok n => .ok n
    | .error e => fail e.cause

/-- The fields of a group, given how to decode its nodes. -/
def groupShape (node : Json → Except DecodeError (Node κ)) :
    Shape (Connective × List (Node κ) × Unit) (Option Connective × Option (List (Node κ)) × Unit) :=
  .field (required "operator" Connective.decoder) <|
    .field (defaulted "conditions" (list (element node)) []) .done

/-- A group on its own, given how to decode its nodes. -/
def groupDecoder (node : Json → Except DecodeError (Node κ)) : Decoder (Group κ) :=
  convert (fun (c, nodes, ()) => ⟨c, nodes⟩) (record "ConditionGroup" (groupShape node))

/-- The value is read as a group: it has `conditions`, or its operator is the name of a connective. -/
def isGroup (j : Json) : Bool :=
  (j.member? "conditions").isSome ||
    match j.member? "operator" with
    | some (.string s) => Connective.all.any fun c => c.name == s
    | _ => false

/-- Decodes a node nested in at most `fuel` arrays and objects. -/
def ofJsonWithin (key : Decoder κ) : Nat → Json → Except DecodeError (Node κ)
  | 0, _ => fail .notJson
  | fuel + 1, j =>
    if isGroup j then
      (Decode.ofJson (groupDecoder (ofJsonWithin key fuel)) j).map Group.toNode
    else
      (Decode.ofJson (conditionDecoder key) j).map fun (k, p) => .condition k p

/-- Decodes a node. -/
def ofJson (key : Decoder κ) (j : Json) : Except DecodeError (Node κ) :=
  ofJsonWithin key (j.depth + 1) j

end Node

/-- A group on its own. -/
def Group.decoder (key : Decoder κ) : Decoder (Group κ) := Node.groupDecoder (Node.ofJson key)

/-! ## Encoding -/

namespace Node

mutual

/-- The JSON form of a node, given that of its keys. -/
def toJson (key : κ → Json) : Node κ → Json
  | .condition k p =>
    .ofMembers <| [("key", key k), ("operator", .string p.operator.name)] ++
      (p.argument?.map fun v => ("value", v)).toList
  | .group c nodes =>
    .ofMembers [("operator", .string c.name), ("conditions", .array (toJsonAll key nodes))]

/-- The JSON forms of some nodes. -/
def toJsonAll (key : κ → Json) : List (Node κ) → List Json
  | [] => []
  | n :: rest => n.toJson key :: toJsonAll key rest

end

end Node

/-- The JSON form of a group, given that of its keys. -/
def Group.toJson (key : κ → Json) (g : Group κ) : Json := g.toNode.toJson key

end GuardedQuery
