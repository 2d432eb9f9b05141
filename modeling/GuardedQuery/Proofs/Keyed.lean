import Mathlib.Data.List.Induction
import GuardedQuery.Keyed
import GuardedQuery.Proofs.Except

/-!
# Looking up keys

A key holds the value that was inserted last under it: `Keyed.find?_insert` for one insertion and
`Keyed.find?_ofList` for all the pairs that a map is made of. Values are changed pair by pair, and the
first failure counts (`Keyed.map_mapExcept`).
-/

namespace GuardedQuery.Keyed

variable {α β : Type}

theorem lookup_cons (p : String × α) (rest : List (String × α)) (key : String) :
    (p :: rest).lookup key = if key = p.1 then some p.2 else rest.lookup key := by
  rw [List.lookup_cons]
  by_cases h : key = p.1
  · simp [h]
  · simp [h, beq_eq_false_iff_ne.2 h]

theorem lookup_insertPair (key : String) (value : α) (pairs : List (String × α)) (k : String) :
    (insertPair key value pairs).lookup k = if k = key then some value else pairs.lookup k := by
  induction pairs with
  | nil => simp [insertPair, lookup_cons]
  | cons p rest ih =>
    obtain ⟨l, v⟩ := p
    rw [insertPair]
    split
    · rw [lookup_cons]
    · split
      · rename_i _ heq
        subst heq
        by_cases hk : k = key <;> simp [lookup_cons, hk]
      · rename_i _ hne
        rw [lookup_cons, lookup_cons, ih]
        by_cases hl : k = l
        · subst hl
          simp [Ne.symm hne]
        · simp [hl]

theorem find?_insert (m : Keyed α) (key : String) (value : α) (k : String) :
    (m.insert key value).find? k = if k = key then some value else m.find? k :=
  lookup_insertPair key value m.pairs k

theorem contains_insert (m : Keyed α) (key : String) (value : α) (k : String) :
    (m.insert key value).contains k = true ↔ k = key ∨ m.contains k = true := by
  unfold contains
  rw [find?_insert]
  by_cases h : k = key <;> simp [h]

theorem ofList_concat (pairs : List (String × α)) (p : String × α) :
    ofList (pairs ++ [p]) = (ofList pairs).insert p.1 p.2 := by
  rw [ofList, List.foldl_append]
  rfl

/-- Of the pairs with one key the last counts. -/
theorem find?_ofList (pairs : List (String × α)) (key : String) :
    (ofList pairs).find? key = ((pairs.filter fun p => p.1 == key).getLast?).map Prod.snd := by
  induction pairs using List.reverseRecOn with
  | nil => rfl
  | append_singleton pairs p ih =>
    rw [ofList_concat, find?_insert, List.filter_append, ih]
    by_cases hp : p.1 = key
    · simp [hp]
    · simp [hp, Ne.symm hp]

/-- Of two lists the second counts. -/
theorem find?_ofList_append (pairs rest : List (String × α)) (key : String) :
    (ofList (pairs ++ rest)).find? key =
      ((ofList rest).find? key).or ((ofList pairs).find? key) := by
  rw [find?_ofList, find?_ofList, find?_ofList, List.filter_append, List.getLast?_append,
    Option.map_or]

theorem find?_ofList_cons (p : String × α) (rest : List (String × α)) (key : String) :
    (ofList (p :: rest)).find? key =
      ((ofList rest).find? key).or (if key = p.1 then some p.2 else none) := by
  rw [← List.singleton_append, find?_ofList_append]
  congr 1
  exact lookup_insertPair p.1 p.2 [] key

theorem find?_ofList_nil (key : String) : (ofList ([] : List (String × α))).find? key = none := rfl

/-- A pair that may be missing. -/
theorem find?_ofList_toList (name : String) (encode : β → α) (value : Option β) (key : String) :
    (ofList (value.map fun b => (name, encode b)).toList).find? key =
      if key = name then value.map encode else none := by
  cases value with
  | none => simp [find?_ofList_nil]
  | some b => simp [find?_ofList_cons, find?_ofList_nil]

theorem lookup_eq_some_iff {pairs : List (String × α)} (h : (pairs.map Prod.fst).Nodup)
    {key : String} {value : α} : pairs.lookup key = some value ↔ (key, value) ∈ pairs := by
  induction pairs with
  | nil => simp
  | cons p rest ih =>
    obtain ⟨hp, hrest⟩ := List.nodup_cons.1 h
    rw [lookup_cons, List.mem_cons]
    split
    case isTrue heq =>
      subst heq
      have hnew : (p.1, value) ∉ rest := fun h => hp (List.mem_map.2 ⟨_, h, rfl⟩)
      simp [hnew, Prod.ext_iff, eq_comm]
    case isFalse hne =>
      rw [ih hrest]
      simp [Prod.ext_iff, hne]

/-- Each key is there once. -/
theorem nodup_keys (m : Keyed α) : (m.pairs.map Prod.fst).Nodup := by
  refine (sortedPairs_iff.1 m.sorted).imp ?_
  rintro a b hlt rfl
  exact String.lt_irrefl a hlt

theorem find?_eq_some_iff {m : Keyed α} {key : String} {value : α} :
    m.find? key = some value ↔ (key, value) ∈ m.pairs :=
  lookup_eq_some_iff m.nodup_keys

theorem mem_keys {m : Keyed α} {key : String} :
    key ∈ m.pairs.map Prod.fst ↔ m.contains key = true := by
  rw [contains, Option.isSome_iff_exists, List.mem_map]
  constructor
  · rintro ⟨⟨_, value⟩, hp, rfl⟩
    exact ⟨value, find?_eq_some_iff.2 hp⟩
  · rintro ⟨value, hvalue⟩
    exact ⟨(key, value), find?_eq_some_iff.1 hvalue, rfl⟩

theorem mem_of_mem_ofList {pairs : List (String × α)} {p : String × α}
    (h : p ∈ (ofList pairs).pairs) : p ∈ pairs := by
  have hfind := find?_eq_some_iff.2 h
  rw [find?_ofList, Option.map_eq_some_iff] at hfind
  obtain ⟨q, hq, hvalue⟩ := hfind
  have hmem := List.mem_of_getLast? hq
  rw [List.mem_filter] at hmem
  have hqp : q = p := Prod.ext (by simpa using hmem.2) hvalue
  exact hqp ▸ hmem.1

theorem insertPair_of_lt {key : String} {value : α} {pairs : List (String × α)}
    (h : ∀ p ∈ pairs, p.1 < key) : insertPair key value pairs = pairs ++ [(key, value)] := by
  induction pairs with
  | nil => rfl
  | cons p rest ih =>
    obtain ⟨hp, hrest⟩ := List.forall_mem_cons.1 h
    rw [insertPair, if_neg (String.lt_asymm hp), if_neg (String.ne_of_lt hp).symm, ih hrest]
    rfl

/-- A map is the map of its pairs. -/
theorem ofList_pairs (m : Keyed α) : ofList m.pairs = m := by
  obtain ⟨pairs, hsorted⟩ := m
  induction pairs using List.reverseRecOn with
  | nil => rfl
  | append_singleton pairs p ih =>
    obtain ⟨hpairs, -, hlast⟩ := List.pairwise_append.1 hsorted
    rw [ofList_concat, ih hpairs]
    ext1
    exact insertPair_of_lt fun q hq => hlast q hq p (by simp)

theorem map_insert (f : String → α → β) (m : Keyed α) (key : String) (value : α) :
    (m.insert key value).map f = (m.map f).insert key (f key value) := by
  ext1
  show (insertPair key value m.pairs).map _ = insertPair key (f key value) (m.pairs.map _)
  induction m.pairs with
  | nil => rfl
  | cons p rest ih =>
    rw [insertPair, List.map_cons, insertPair]
    split
    · rfl
    · split
      · rfl
      · rw [List.map_cons, ih]

/-- Changing the values of a map is changing those of the pairs that it is made of. -/
theorem map_ofList (f : String → α → β) (pairs : List (String × α)) :
    (ofList pairs).map f = ofList (pairs.map fun p => (p.1, f p.1 p.2)) := by
  induction pairs using List.reverseRecOn with
  | nil => rfl
  | append_singleton pairs p ih =>
    rw [ofList_concat, map_insert, ih, List.map_append, List.map_singleton, ofList_concat]

theorem map_id (m : Keyed α) : m.map (fun _ => id) = m := by
  ext1
  exact List.map_id m.pairs

/-! ## Changes that may fail -/

section

variable {ε : Type} {f : String → α → Except ε β} {g : β → α}

/-- Changing values is changing pair by pair. -/
theorem map_mapExcept (m : Keyed α) : (m.mapExcept f).map pairs =
    m.pairs.mapM fun p => (f p.1 p.2).map fun b => (p.1, b) := by
  have hstep : ∀ ps : List (String × α), (mapExcept.step f ps).map Subtype.val =
      ps.mapM fun p => (f p.1 p.2).map fun b => (p.1, b) := by
    intro ps
    induction ps with
    | nil => rfl
    | cons p rest ih =>
      rw [mapExcept.step, List.mapM_cons, ← ih]
      cases f p.1 p.2 with
      | error e => rfl
      | ok b =>
        rcases mapExcept.step f rest with e | ⟨changed, hkeys⟩
        · rfl
        · rfl
  rw [← hstep, mapExcept]
  rcases mapExcept.step f m.pairs with e | ⟨changed, hkeys⟩
  · rfl
  · rfl

theorem mapExcept_eq_ok {m : Keyed α} {n : Keyed β} : m.mapExcept f = .ok n ↔
    (m.pairs.mapM fun p => (f p.1 p.2).map fun b => (p.1, b)) = .ok n.pairs := by
  rw [← map_mapExcept, map_eq_ok]
  constructor
  · intro h
    exact ⟨n, h, rfl⟩
  · rintro ⟨n', h, heq⟩
    rw [h, Keyed.ext heq]

/-- A value of a map with changed values is a changed value of the same key. -/
theorem find?_mapExcept {m : Keyed α} {n : Keyed β} (h : m.mapExcept f = .ok n) {key : String} {b : β}
    (hb : n.find? key = some b) : ∃ a, (key, a) ∈ m.pairs ∧ f key a = .ok b := by
  obtain ⟨⟨k, a⟩, hp, hf⟩ := exists_of_mapM_eq_ok (mapExcept_eq_ok.1 h) (find?_eq_some_iff.1 hb)
  obtain ⟨b', hb', heq⟩ := map_eq_ok.1 hf
  rw [Prod.mk.injEq] at heq
  obtain ⟨rfl, rfl⟩ := heq
  exact ⟨a, hp, hb'⟩

/-- Every value of a map is changed to a value of the same key. -/
theorem find?_of_mapExcept {m : Keyed α} {n : Keyed β} (h : m.mapExcept f = .ok n) {key : String} {a : α}
    (ha : m.find? key = some a) : ∃ b, f key a = .ok b ∧ n.find? key = some b := by
  have hsteps := mapM_forall₂ (mapExcept_eq_ok.1 h)
  obtain ⟨i, hi, hp⟩ := List.getElem_of_mem (find?_eq_some_iff.1 ha)
  have hj : i < n.pairs.length := hsteps.length_eq ▸ hi
  obtain ⟨b, hb, hq⟩ := map_eq_ok.1 ((List.forall₂_iff_get.1 hsteps).2 i hi hj)
  rw [List.get_eq_getElem, hp] at hb hq
  exact ⟨b, hb, find?_eq_some_iff.2 (hq ▸ List.getElem_mem hj)⟩

/-- Values can all be changed just when each of them can. -/
theorem exists_mapExcept_iff {m : Keyed α} : (∃ n, m.mapExcept f = .ok n) ↔
    ∀ key a, m.find? key = some a → ∃ b, f key a = .ok b := by
  constructor
  · rintro ⟨n, h⟩ key a ha
    obtain ⟨b, hb, -⟩ := find?_of_mapExcept h ha
    exact ⟨b, hb⟩
  · intro h
    have hsteps : ∀ p ∈ m.pairs, ∃ q, (f p.1 p.2).map (fun b => (p.1, b)) = .ok q := by
      intro p hp
      obtain ⟨b, hb⟩ := h p.1 p.2 (find?_eq_some_iff.2 hp)
      exact ⟨(p.1, b), map_eq_ok.2 ⟨b, hb, rfl⟩⟩
    obtain ⟨ps, hps⟩ := exists_mapM_iff.2 hsteps
    obtain ⟨n, hn, -⟩ := map_eq_ok.1 ((map_mapExcept m).trans hps)
    exact ⟨n, hn⟩

/-- Changing values keeps the keys. -/
theorem contains_mapExcept {m : Keyed α} {n : Keyed β} (h : m.mapExcept f = .ok n) (key : String) :
    n.contains key = m.contains key := by
  rw [Bool.eq_iff_iff, contains, contains, Option.isSome_iff_exists, Option.isSome_iff_exists]
  constructor
  · rintro ⟨b, hb⟩
    obtain ⟨a, ha, -⟩ := find?_mapExcept h hb
    exact ⟨a, find?_eq_some_iff.2 ha⟩
  · rintro ⟨a, ha⟩
    obtain ⟨b, -, hb⟩ := find?_of_mapExcept h ha
    exact ⟨b, hb⟩

/-- Steps that give back what they get change nothing. -/
theorem eq_of_mapExcept {f : String → α → Except ε α} (hf : ∀ key a b, f key a = .ok b → b = a)
    {m n : Keyed α} (h : m.mapExcept f = .ok n) : n = m := by
  have hsame : List.Forall₂ (· = ·) m.pairs n.pairs := by
    refine (mapM_forall₂ (mapExcept_eq_ok.1 h)).imp fun p q hq => ?_
    obtain ⟨b, hb, rfl⟩ := map_eq_ok.1 hq
    rw [hf p.1 p.2 b hb]
  rw [List.forall₂_eq_eq_eq] at hsame
  exact (Keyed.ext hsame).symm

theorem mapM_again (hg : ∀ key a b, f key a = .ok b → f key (g b) = .ok b)
    {ps : List (String × α)} {qs : List (String × β)}
    (h : (ps.mapM fun p => (f p.1 p.2).map fun b => (p.1, b)) = .ok qs) :
    ((qs.map fun q => (q.1, g q.2)).mapM fun p => (f p.1 p.2).map fun b => (p.1, b)) = .ok qs := by
  induction ps generalizing qs with
  | nil =>
    cases h
    rfl
  | cons p rest ih =>
    rw [List.mapM_cons] at h
    obtain ⟨q, hq, h⟩ := bind_eq_ok.1 h
    obtain ⟨others, hothers, h⟩ := bind_eq_ok.1 h
    obtain ⟨b, hb, rfl⟩ := map_eq_ok.1 hq
    cases h
    rw [List.map_cons, List.mapM_cons, hg _ _ _ hb, ih hothers]
    rfl

/-- Changing values once more changes nothing, if none of the changed values would be changed. -/
theorem mapExcept_map (hg : ∀ key a b, f key a = .ok b → f key (g b) = .ok b) {m : Keyed α}
    {n : Keyed β} (h : m.mapExcept f = .ok n) : (n.map fun _ => g).mapExcept f = .ok n :=
  mapExcept_eq_ok.2 (mapM_again hg (mapExcept_eq_ok.1 h))

end

end GuardedQuery.Keyed
