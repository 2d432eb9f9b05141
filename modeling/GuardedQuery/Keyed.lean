/-!
# Maps with text keys

A map from text to values is the list of its pairs in increasing order of keys, character by
character (`Keyed.sorted`). `insert` replaces the value of a key that is present.
-/

namespace GuardedQuery

namespace Keyed

variable {α β : Type}

/-- Puts a pair in its place, over a pair with the same key. -/
def insertPair (key : String) (value : α) : List (String × α) → List (String × α)
  | [] => [(key, value)]
  | (k, v) :: rest =>
    if key < k then (key, value) :: (k, v) :: rest
    else if key = k then (key, value) :: rest
    else (k, v) :: insertPair key value rest

/-- Keys increase strictly. -/
def SortedPairs (pairs : List (String × α)) : Prop := pairs.Pairwise fun p q => p.1 < q.1

theorem sortedPairs_iff {pairs : List (String × α)} :
    SortedPairs pairs ↔ (pairs.map Prod.fst).Pairwise (· < ·) :=
  List.pairwise_map.symm

/-- Sortedness depends on the keys alone. -/
theorem SortedPairs.congr {pairs : List (String × α)} {changed : List (String × β)}
    (h : SortedPairs pairs) (keys : changed.map Prod.fst = pairs.map Prod.fst) :
    SortedPairs changed :=
  sortedPairs_iff.2 (keys ▸ sortedPairs_iff.1 h)

theorem lt_of_not_lt_of_ne {a b : String} (h : ¬a < b) (hne : a ≠ b) : b < a :=
  Decidable.byContradiction fun h' => hne (String.le_antisymm (String.not_lt.1 h') (String.not_lt.1 h))

theorem fst_eq_or_mem_of_mem_insertPair {key : String} {value : α} {pairs : List (String × α)}
    {p : String × α} (h : p ∈ insertPair key value pairs) : p.1 = key ∨ p ∈ pairs := by
  induction pairs with
  | nil => simp_all [insertPair]
  | cons q rest ih =>
    obtain ⟨k, v⟩ := q
    rw [insertPair] at h
    split at h
    · rcases List.mem_cons.1 h with rfl | h
      · exact .inl rfl
      · exact .inr h
    · split at h
      · rcases List.mem_cons.1 h with rfl | h
        · exact .inl rfl
        · exact .inr (List.mem_cons_of_mem _ h)
      · rcases List.mem_cons.1 h with rfl | h
        · exact .inr List.mem_cons_self
        · exact (ih h).imp id (List.mem_cons_of_mem _)

theorem SortedPairs.insertPair {key : String} {value : α} {pairs : List (String × α)}
    (h : SortedPairs pairs) : SortedPairs (insertPair key value pairs) := by
  induction pairs with
  | nil => simp [SortedPairs, Keyed.insertPair]
  | cons q rest ih =>
    obtain ⟨k, v⟩ := q
    obtain ⟨hk, hrest⟩ := List.pairwise_cons.1 h
    rw [Keyed.insertPair]
    split
    case isTrue hlt =>
      refine List.pairwise_cons.2 ⟨fun p hp => ?_, h⟩
      rcases List.mem_cons.1 hp with rfl | hp
      · exact hlt
      · exact String.lt_trans hlt (hk p hp)
    case isFalse hnlt =>
      split
      case isTrue heq =>
        subst heq
        exact List.pairwise_cons.2 ⟨hk, hrest⟩
      case isFalse hne =>
        refine List.pairwise_cons.2 ⟨fun p hp => ?_, ih hrest⟩
        rcases fst_eq_or_mem_of_mem_insertPair hp with hp | hp
        · exact hp ▸ lt_of_not_lt_of_ne hnlt hne
        · exact hk p hp

end Keyed

/-- A map from text to values. -/
structure Keyed (α : Type) where
  pairs : List (String × α)
  sorted : Keyed.SortedPairs pairs

namespace Keyed

variable {α β : Type}

instance [DecidableEq α] : DecidableEq (Keyed α) := fun m n =>
  if h : m.pairs = n.pairs then
    isTrue (by cases m; cases n; cases h; rfl)
  else isFalse fun h' => h (h' ▸ rfl)

@[ext] theorem ext {m n : Keyed α} (h : m.pairs = n.pairs) : m = n := by
  cases m; cases n; cases h; rfl

def empty : Keyed α := ⟨[], List.Pairwise.nil⟩

instance : Inhabited (Keyed α) := ⟨empty⟩

/-- The value of a key. -/
def find? (m : Keyed α) (key : String) : Option α := m.pairs.lookup key

def contains (m : Keyed α) (key : String) : Bool := (m.find? key).isSome

/-- The keys in increasing order. -/
def keys (m : Keyed α) : List String := m.pairs.map Prod.fst

/-- Sets the value of a key. -/
def insert (m : Keyed α) (key : String) (value : α) : Keyed α :=
  ⟨insertPair key value m.pairs, m.sorted.insertPair⟩

/-- The map of some pairs; of two pairs with one key the last counts. -/
def ofList (pairs : List (String × α)) : Keyed α :=
  pairs.foldl (fun m p => m.insert p.1 p.2) empty

/-- Changes every value. -/
def map (f : String → α → β) (m : Keyed α) : Keyed β :=
  ⟨m.pairs.map fun p => (p.1, f p.1 p.2), m.sorted.congr (by simp)⟩

/-- Changes every value in order of the keys; the first error counts. -/
def mapExcept {ε : Type} (f : String → α → Except ε β) (m : Keyed α) : Except ε (Keyed β) :=
  match step m.pairs with
  | .ok ⟨pairs, h⟩ => .ok ⟨pairs, m.sorted.congr h⟩
  | .error e => .error e
where
  /-- The changed pairs, which have the keys of the given ones. -/
  step : (pairs : List (String × α)) →
      Except ε { changed : List (String × β) // changed.map Prod.fst = pairs.map Prod.fst }
    | [] => .ok ⟨[], rfl⟩
    | p :: rest =>
      match f p.1 p.2, step rest with
      | .error e, _ => .error e
      | .ok _, .error e => .error e
      | .ok b, .ok ⟨changed, h⟩ => .ok ⟨(p.1, b) :: changed, by simp [h]⟩

end Keyed

end GuardedQuery
