import GuardedQuery.Condition.Tree

/-!
# Depth and conditions of several nodes

Both are read off node by node.
-/

namespace GuardedQuery.Node

variable {κ : Type} {nodes : List (Node κ)}

theorem depthAll_le_iff {bound : Nat} : depthAll nodes ≤ bound ↔ ∀ n ∈ nodes, n.depth ≤ bound := by
  induction nodes with
  | nil => simp [depthAll]
  | cons n rest ih => rw [depthAll, Nat.max_le, ih, List.forall_mem_cons]

theorem mem_conditionsAll {x : κ × Predicate} :
    x ∈ conditionsAll nodes ↔ ∃ n ∈ nodes, x ∈ n.conditions := by
  induction nodes with
  | nil => simp [conditionsAll]
  | cons n rest ih => simp [conditionsAll, ih]

end GuardedQuery.Node
