import GuardedQuery.Proofs.Decode.Basic

/-!
# Values with sorted members

A decoder that takes any JSON value puts the members of every object in order. It gives back the value
that it was given if keys increase in every object already (`Json.Sorted`), as they do in every object
that `Json.ofMembers` makes of such values. What it gives is never nested deeper
(`Decode.depth_le_of_ofJson_json`).
-/

namespace GuardedQuery

namespace Json

/-! ## Members -/

theorem member?_ofMembers (members : List (String × Json)) (key : String) :
    (ofMembers members).member? key = (Keyed.ofList members).find? key := rfl

theorem depthItems_le_iff {items : List Json} {n : Nat} :
    depthItems items ≤ n ↔ ∀ j ∈ items, j.depth ≤ n := by
  induction items with
  | nil => simp [depthItems]
  | cons j rest ih => rw [depthItems, Nat.max_le, ih, List.forall_mem_cons]

theorem depthMembers_le_iff {members : List (String × Json)} {n : Nat} :
    depthMembers members ≤ n ↔ ∀ p ∈ members, p.2.depth ≤ n := by
  induction members with
  | nil => simp [depthMembers]
  | cons p rest ih => rw [depthMembers, Nat.max_le, ih, List.forall_mem_cons]

theorem depth_le_depthItems {j : Json} {items : List Json} (h : j ∈ items) :
    j.depth ≤ depthItems items :=
  depthItems_le_iff.1 (Nat.le_refl _) j h

theorem depth_le_depthMembers {p : String × Json} {members : List (String × Json)}
    (h : p ∈ members) : p.2.depth ≤ depthMembers members :=
  depthMembers_le_iff.1 (Nat.le_refl _) p h

/-- A member is nested less deep than its object. -/
theorem depth_lt_of_find? {members : List (String × Json)} {key : String} {j : Json}
    (h : (Keyed.ofList members).find? key = some j) : j.depth < (ofMembers members).depth := by
  have hle := depth_le_depthMembers (Keyed.find?_eq_some_iff.1 h)
  rw [ofMembers, depth]
  exact Nat.lt_succ_of_le hle

/-! ## Order -/

mutual

/-- Keys increase in every object. -/
def Sorted : Json → Prop
  | .array items => SortedItems items
  | .object members => Keyed.SortedPairs members ∧ SortedMembers members
  | _ => True

/-- Keys increase in every object of some values. -/
def SortedItems : List Json → Prop
  | [] => True
  | j :: rest => j.Sorted ∧ SortedItems rest

/-- Keys increase in every object of the values of some members. -/
def SortedMembers : List (String × Json) → Prop
  | [] => True
  | p :: rest => p.2.Sorted ∧ SortedMembers rest

end

theorem sortedItems_iff {items : List Json} : SortedItems items ↔ ∀ j ∈ items, j.Sorted := by
  induction items with
  | nil => simp [SortedItems]
  | cons j rest ih => rw [SortedItems, ih, List.forall_mem_cons]

theorem sortedMembers_iff {members : List (String × Json)} :
    SortedMembers members ↔ ∀ p ∈ members, p.2.Sorted := by
  induction members with
  | nil => simp [SortedMembers]
  | cons p rest ih => rw [SortedMembers, ih, List.forall_mem_cons]

theorem sorted_ofMembers {members : List (String × Json)} (h : ∀ p ∈ members, p.2.Sorted) :
    (ofMembers members).Sorted := by
  rw [ofMembers, Sorted]
  exact ⟨(Keyed.ofList members).sorted,
    sortedMembers_iff.2 fun p hp => h p (Keyed.mem_of_mem_ofList hp)⟩

end Json

namespace Document

mutual

theorem toJson?_ofJson : ∀ {j : Json}, j.Sorted → (ofJson j).toJson? = some j
  | .null, _ => rfl
  | .bool _, _ => rfl
  | .int _, _ => rfl
  | .float x, _ => by
    rw [ofJson, toJson?, Json.ofBinary64, dif_pos x.property]
  | .string _, _ => rfl
  | .array items, h => by
    rw [Json.Sorted] at h
    rw [ofJson, toJson?, toItems?_ofItems h, Option.map_some]
  | .object members, h => by
    rw [Json.Sorted] at h
    have hpairs : (Keyed.ofList members).pairs = members :=
      congrArg Keyed.pairs (Keyed.ofList_pairs ⟨members, h.1⟩)
    rw [ofJson, toJson?, toMembers?_ofMembers h.2, Option.map_some, Json.ofMembers, hpairs]

theorem toItems?_ofItems : ∀ {items : List Json}, Json.SortedItems items →
    toItems? (ofItems items) = some items
  | [], _ => rfl
  | j :: rest, h => by
    rw [Json.SortedItems] at h
    rw [ofItems, toItems?, toJson?_ofJson h.1, toItems?_ofItems h.2]
    rfl

theorem toMembers?_ofMembers : ∀ {members : List (String × Json)}, Json.SortedMembers members →
    toMembers? (ofMembers members) = some members
  | [], _ => rfl
  | (key, j) :: rest, h => by
    rw [Json.SortedMembers] at h
    rw [ofMembers, toMembers?, toJson?_ofJson h.1, toMembers?_ofMembers h.2]
    rfl

end

/-! ## Depth -/

mutual

/-- Putting members in order, where the last of some with one key is left, does not nest deeper. -/
theorem depth_toJson? : ∀ {j k : Json}, (ofJson j).toJson? = some k → k.depth ≤ j.depth
  | .null, _, h => by cases h; exact Nat.le_refl _
  | .bool _, _, h => by cases h; exact Nat.le_refl _
  | .int _, _, h => by cases h; exact Nat.le_refl _
  | .float x, _, h => by
    rw [ofJson, toJson?, Json.ofBinary64, dif_pos x.property] at h
    cases h
    exact Nat.le_refl _
  | .string _, _, h => by cases h; exact Nat.le_refl _
  | .array items, _, h => by
    rw [ofJson, toJson?] at h
    obtain ⟨ks, hks, rfl⟩ := Option.map_eq_some_iff.1 h
    rw [Json.depth, Json.depth]
    exact Nat.succ_le_succ (Json.depthItems_le_iff.2 (depth_toItems? hks))
  | .object members, _, h => by
    rw [ofJson, toJson?] at h
    obtain ⟨ps, hps, rfl⟩ := Option.map_eq_some_iff.1 h
    rw [Json.ofMembers, Json.depth, Json.depth]
    refine Nat.succ_le_succ (Json.depthMembers_le_iff.2 fun p hp => ?_)
    exact depth_toMembers? hps p (Keyed.mem_of_mem_ofList hp)

theorem depth_toItems? : ∀ {items ks : List Json}, toItems? (ofItems items) = some ks →
    ∀ k ∈ ks, k.depth ≤ Json.depthItems items
  | [], _, h => by
    cases h
    simp
  | j :: rest, _, h => by
    simp only [ofItems, toItems?, Option.bind_eq_bind, Option.bind_eq_some_iff, Option.pure_def,
      Option.some.injEq] at h
    obtain ⟨k, hk, ks, hks, rfl⟩ := h
    rw [Json.depthItems]
    refine List.forall_mem_cons.2 ⟨Nat.le_trans (depth_toJson? hk) (Nat.le_max_left _ _), fun i hi => ?_⟩
    exact Nat.le_trans (depth_toItems? hks i hi) (Nat.le_max_right _ _)

theorem depth_toMembers? : ∀ {members ps : List (String × Json)},
    toMembers? (ofMembers members) = some ps → ∀ p ∈ ps, p.2.depth ≤ Json.depthMembers members
  | [], _, h => by
    cases h
    simp
  | (key, j) :: rest, _, h => by
    simp only [ofMembers, toMembers?, Option.bind_eq_bind, Option.bind_eq_some_iff, Option.pure_def,
      Option.some.injEq] at h
    obtain ⟨_, rfl, k, hk, ps, hps, rfl⟩ := h
    rw [Json.depthMembers]
    refine List.forall_mem_cons.2 ⟨Nat.le_trans (depth_toJson? hk) (Nat.le_max_left _ _), fun p hp => ?_⟩
    exact Nat.le_trans (depth_toMembers? hps p hp) (Nat.le_max_right _ _)

end

end Document

theorem Decode.ofJson_json {j : Json} (h : j.Sorted) : ofJson json j = .ok j := by
  rw [ofJson, json, Document.toJson?_ofJson h]

theorem Decode.depth_le_of_ofJson_json {j k : Json} (h : ofJson json j = .ok k) :
    k.depth ≤ j.depth := by
  rw [ofJson, json] at h
  split at h
  · rename_i i hi
    cases h
    exact Document.depth_toJson? hi
  · cases h

end GuardedQuery
