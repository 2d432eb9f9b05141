import GuardedQuery.Condition.Tree

/-!
# Truth values of filters

A comparison with a missing value is neither true nor false, so conditions have one of three truth
values (`Truth`). `Node.value σ k n` is the value of a filter when its conditions, numbered from left
to right beginning with `k`, have the values `σ`: a group first discards every group in which no
condition is left, then it joins the values of what remains (`Connective.join`). Where no group is
empty, this is the value of the tree as it stands (`Node.value_of_filled`).
-/

namespace GuardedQuery

/-- The truth values of SQL. -/
inductive Truth where
  | no
  | unknown
  | yes
  deriving DecidableEq, Repr

namespace Truth

def not : Truth → Truth
  | no => yes
  | unknown => unknown
  | yes => no

def and : Truth → Truth → Truth
  | no, _ => no
  | yes, u => u
  | unknown, no => no
  | unknown, _ => unknown

def or : Truth → Truth → Truth
  | yes, _ => yes
  | no, u => u
  | unknown, yes => yes
  | unknown, _ => unknown

@[simp] theorem yes_and (t : Truth) : and yes t = t := rfl

@[simp] theorem and_yes (t : Truth) : and t yes = t := by cases t <;> rfl

@[simp] theorem or_no (t : Truth) : or t no = t := by cases t <;> rfl

theorem and_assoc (t u v : Truth) : and (and t u) v = and t (and u v) := by
  cases t <;> cases u <;> cases v <;> rfl

theorem or_assoc (t u v : Truth) : or (or t u) v = or t (or u v) := by
  cases t <;> cases u <;> cases v <;> rfl

theorem and_eq_yes {t u : Truth} : and t u = yes ↔ t = yes ∧ u = yes := by
  cases t <;> cases u <;> decide

end Truth

/-- The value of a group, from the values of its parts. -/
def Connective.join : Connective → List Truth → Truth
  | .and, ts => ts.foldr Truth.and .yes
  | .or, ts => ts.foldr Truth.or .no
  | .not, ts => (ts.foldr Truth.and .yes).not

theorem Connective.join_and_append (ts us : List Truth) :
    join .and (ts ++ us) = (join .and ts).and (join .and us) := by
  induction ts with
  | nil => rfl
  | cons t ts ih =>
    have hcons : ∀ vs, join .and (t :: vs) = t.and (join .and vs) := fun _ => rfl
    rw [List.cons_append, hcons, hcons, ih, Truth.and_assoc]

namespace Node

variable {κ : Type}

mutual

/-- The value of a node whose first condition has the number `k`. -/
def value (σ : Nat → Truth) (k : Nat) : Node κ → Truth
  | .condition _ _ => σ k
  | .group c nodes => c.join (keptValues σ k nodes)

/-- The values of those nodes that hold a condition at any depth. -/
def keptValues (σ : Nat → Truth) (k : Nat) : List (Node κ) → List Truth
  | [] => []
  | n :: rest =>
    if n.conditions.isEmpty then keptValues σ k rest
    else n.value σ k :: keptValues σ (k + n.conditions.length) rest

end

theorem conditionsAll_append (ns ms : List (Node κ)) :
    conditionsAll (ns ++ ms) = conditionsAll ns ++ conditionsAll ms := by
  induction ns with
  | nil => rfl
  | cons n ns ih => rw [List.cons_append, conditionsAll, conditionsAll, ih, List.append_assoc]

theorem keptValues_append (σ : Nat → Truth) (k : Nat) (ns ms : List (Node κ)) :
    keptValues σ k (ns ++ ms) =
      keptValues σ k ns ++ keptValues σ (k + (conditionsAll ns).length) ms := by
  induction ns generalizing k with
  | nil => rfl
  | cons n ns ih =>
    rw [List.cons_append, keptValues, keptValues, conditionsAll, List.length_append]
    split
    · rename_i h
      rw [ih, List.isEmpty_iff.1 h, List.length_nil, Nat.zero_add]
    · rw [ih, List.cons_append, Nat.add_assoc]

end Node

/-! ## Filters in which no group is empty -/

namespace Node

variable {κ : Type}

mutual

/-- The value of a node in which every group counts, also one without nodes. -/
def plainValue (σ : Nat → Truth) (k : Nat) : Node κ → Truth
  | .condition _ _ => σ k
  | .group c nodes => c.join (plainValues σ k nodes)

/-- The values of some nodes; their conditions are numbered from left to right. -/
def plainValues (σ : Nat → Truth) (k : Nat) : List (Node κ) → List Truth
  | [] => []
  | n :: rest => n.plainValue σ k :: plainValues σ (k + n.conditions.length) rest

end

mutual

/-- Every group has a node. -/
def Filled : Node κ → Prop
  | .condition _ _ => True
  | .group _ nodes => nodes ≠ [] ∧ FilledAll nodes

/-- Every group in some nodes has a node. -/
def FilledAll : List (Node κ) → Prop
  | [] => True
  | n :: rest => n.Filled ∧ FilledAll rest

end

theorem Filled.conditions_ne_nil : ∀ {n : Node κ}, n.Filled → n.conditions ≠ []
  | .condition _ _, _ => List.cons_ne_nil _ _
  | .group _ [], h => absurd rfl h.1
  | .group _ (n :: _), h => fun hnil =>
    conditions_ne_nil (n := n) h.2.1 (List.append_eq_nil_iff.1 hnil).1

mutual

/-- Where no group is empty, none is discarded. -/
theorem value_of_filled (σ : Nat → Truth) : ∀ (k : Nat) (n : Node κ), n.Filled →
    n.value σ k = n.plainValue σ k
  | _, .condition _ _, _ => rfl
  | k, .group c nodes, h => congrArg c.join (keptValues_of_filled σ k nodes h.2)

theorem keptValues_of_filled (σ : Nat → Truth) : ∀ (k : Nat) (nodes : List (Node κ)),
    FilledAll nodes → keptValues σ k nodes = plainValues σ k nodes
  | _, [], _ => rfl
  | k, n :: rest, h => by
    have hne : n.conditions.isEmpty = false :=
      List.isEmpty_eq_false_iff.2 (Filled.conditions_ne_nil h.1)
    rw [keptValues, hne, plainValues, value_of_filled σ k n h.1,
      keptValues_of_filled σ (k + n.conditions.length) rest h.2]
    rfl

end

end Node

/-! ## Scope and filter -/

/-- The conditions of a filter that may be missing. -/
def Group.conditions? {κ : Type} (g : Option (Group κ)) : List (κ × Predicate) :=
  (g.map Group.conditions).getD []

/-- The value of a filter whose first condition has the number `k`. A filter that is missing, or in
which no condition is left, lets every row through. -/
def Group.value? {κ : Type} (σ : Nat → Truth) (k : Nat) (g : Option (Group κ)) : Truth :=
  match g with
  | none => .yes
  | some g => if g.conditions.isEmpty then .yes else g.toNode.value σ k

theorem Group.conditionsAll_toList {κ : Type} (g : Option (Group κ)) :
    Node.conditionsAll (g.toList.map toNode) = conditions? g := by
  cases g with
  | none => rfl
  | some g => simp [Node.conditionsAll, toNode, Node.conditions, conditions?, conditions]

/-- A filter alone, without the groups in which nothing is left. -/
theorem Group.join_keptValues {κ : Type} (σ : Nat → Truth) (k : Nat) (g : Option (Group κ)) :
    Connective.and.join (Node.keptValues σ k (g.toList.map toNode)) = value? σ k g := by
  cases g with
  | none => rfl
  | some g =>
    rw [value?, Option.toList_some, List.map_singleton, Node.keptValues]
    show _ = if g.toNode.conditions.isEmpty then _ else _
    split
    · rfl
    · exact Truth.and_yes _

/-- Rows must meet the scope and the filter. -/
theorem Group.join_keptValues_append {κ : Type} (σ : Nat → Truth) (scope filter : Option (Group κ)) :
    Connective.and.join (Node.keptValues σ 0 ((scope.toList ++ filter.toList).map toNode)) =
      (value? σ 0 scope).and (value? σ (conditions? scope).length filter) := by
  rw [List.map_append, Node.keptValues_append, Connective.join_and_append, join_keptValues,
    join_keptValues, conditionsAll_toList, Nat.zero_add]

end GuardedQuery
