import GuardedQuery.Condition.Predicate

/-!
# Condition trees

A filter is a group of conditions joined by a connective; its nodes are conditions and further
groups. Keys are of any type: names as clients send them, or the fields of an entity.
-/

namespace GuardedQuery

/-- How the nodes of a group are joined. `not` negates their conjunction. -/
inductive Connective where
  | and
  | or
  | not
  deriving DecidableEq, Repr

def Connective.name : Connective → String
  | .and => "AND"
  | .or => "OR"
  | .not => "NOT"

/-- All connectives, in the order in which messages list them. -/
def Connective.all : List Connective := [.and, .or, .not]

/-- A condition or a group. -/
inductive Node (κ : Type) where
  | condition (key : κ) (predicate : Predicate)
  | group (connective : Connective) (nodes : List (Node κ))

/-- The nodes of a filter and what joins them. -/
structure Group (κ : Type) where
  connective : Connective
  nodes : List (Node κ)

namespace Node

variable {κ μ : Type}

mutual

/-- How deep groups are nested; 0 for a condition. -/
def depth : Node κ → Nat
  | .condition _ _ => 0
  | .group _ nodes => 1 + depthAll nodes

/-- Greatest depth among some nodes. -/
def depthAll : List (Node κ) → Nat
  | [] => 0
  | n :: rest => max n.depth (depthAll rest)

end

mutual

/-- Changes every key. -/
def mapKeys (f : κ → μ) : Node κ → Node μ
  | .condition key p => .condition (f key) p
  | .group c nodes => .group c (mapKeysAll f nodes)

/-- Changes every key of some nodes. -/
def mapKeysAll (f : κ → μ) : List (Node κ) → List (Node μ)
  | [] => []
  | n :: rest => n.mapKeys f :: mapKeysAll f rest

end

mutual

/-- The conditions from left to right. -/
def conditions : Node κ → List (κ × Predicate)
  | .condition key p => [(key, p)]
  | .group _ nodes => conditionsAll nodes

/-- The conditions of some nodes from left to right. -/
def conditionsAll : List (Node κ) → List (κ × Predicate)
  | [] => []
  | n :: rest => n.conditions ++ conditionsAll rest

end

mutual

/-- Equality as values (`Literal.same`). -/
def same [DecidableEq κ] : Node κ → Node κ → Bool
  | .condition k p, .condition l q => decide (k = l) && p.same q
  | .group c ns, .group d ms => decide (c = d) && sameAll ns ms
  | .condition _ _, .group _ _ => false
  | .group _ _, .condition _ _ => false

/-- Equality as values, node by node. -/
def sameAll [DecidableEq κ] : List (Node κ) → List (Node κ) → Bool
  | [], [] => true
  | n :: ns, m :: ms => n.same m && sameAll ns ms
  | [], _ :: _ => false
  | _ :: _, [] => false

end

end Node

namespace Group

variable {κ μ : Type}

/-- The group as a node of a larger one. -/
def toNode (g : Group κ) : Node κ := .group g.connective g.nodes

/-- How deep groups are nested; 1 for a group of conditions alone. -/
def depth (g : Group κ) : Nat := 1 + Node.depthAll g.nodes

/-- Changes every key. -/
def mapKeys (f : κ → μ) (g : Group κ) : Group μ := ⟨g.connective, Node.mapKeysAll f g.nodes⟩

/-- The conditions from left to right. -/
def conditions (g : Group κ) : List (κ × Predicate) := Node.conditionsAll g.nodes

/-- Equality as values (`Literal.same`). -/
def same [DecidableEq κ] (g h : Group κ) : Bool := g.toNode.same h.toNode

end Group

end GuardedQuery
