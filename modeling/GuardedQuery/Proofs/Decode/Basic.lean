import GuardedQuery.Decode.Basic
import GuardedQuery.Proofs.Except
import GuardedQuery.Proofs.Keyed

/-!
# Scalars and containers

What each kind of decoder accepts, and the JSON values from which it reads back what was written:
numbers (`ofJson_uint64`), values that may be missing (`ofJson_optional`), arrays (`ofJson_list`) and
maps (`ofJson_keyed`).
-/

namespace GuardedQuery.Decode

variable {α β : Type} {decoder : Decoder α} {source : Source} {d : Document}

/-! ## What is accepted -/

theorem under_eq_ok {segment : Segment} {x : Except DecodeError α} {a : α} :
    under segment x = .ok a ↔ x = .ok a := by
  cases x <;> simp [under]

theorem mismatch_ne_ok {expected : String} {a : α} : mismatch d expected ≠ .ok a := by
  unfold mismatch
  split <;> simp [fail]

theorem refine_eq_ok {f : α → Except Cause β} {b : β} :
    refine f decoder source d = .ok b ↔ ∃ a, decoder source d = .ok a ∧ f a = .ok b := by
  unfold refine
  cases decoder source d with
  | error e => simp
  | ok a => cases hf : f a <;> simp [hf, fail]

theorem convert_eq_ok {f : α → β} {b : β} :
    convert f decoder source d = .ok b ↔ ∃ a, decoder source d = .ok a ∧ f a = b :=
  map_eq_ok

theorem optional_eq_some {a : α} (h : optional decoder source d = .ok (some a)) :
    decoder source d = .ok a := by
  unfold optional at h
  split at h
  · simp at h
  · obtain ⟨b, hb, heq⟩ := map_eq_ok.1 h
    cases heq
    exact hb

theorem exists_of_items {start : Nat} {ds : List Document} {as : List α}
    (h : items decoder source start ds = .ok as) : ∀ a ∈ as, ∃ d, decoder source d = .ok a := by
  induction ds generalizing start as with
  | nil =>
    cases h
    simp
  | cons d rest ih =>
    rw [items] at h
    split at h
    · simp at h
    · rename_i a ha
      obtain ⟨others, hrest, rfl⟩ := map_eq_ok.1 h
      exact List.forall_mem_cons.2 ⟨⟨d, under_eq_ok.1 ha⟩, ih hrest⟩

/-- Every item of a list was decoded. -/
theorem exists_of_list {as : List α} (h : list decoder source d = .ok as) :
    ∀ a ∈ as, ∃ d, decoder source d = .ok a := by
  unfold list at h
  split at h
  · exact exists_of_items h
  · exact absurd h mismatch_ne_ok

theorem exists_of_ofText {text : String} {a : α} (h : ofText decoder text = .ok a) :
    ∃ d, decoder .text d = .ok a := by
  unfold ofText at h
  dsimp only at h
  split at h
  · cases h
  · rename_i b hb
    split at h
    · cases h
      exact ⟨_, hb⟩
    · cases h

/-! ## Which JSON values are accepted -/

/-- A choice is made by its name or by an object with the name for its only key and `null` there. -/
theorem ofJson_choice_eq_ok {type : String} {choices : List (String × α)} {j : Json} {a : α} :
    ofJson (choice type choices) j = .ok a ↔
      ∃ name, choices.lookup name = some a ∧ (j = .string name ∨ j = .object [(name, .null)]) := by
  have hnamed : ∀ name, named choices name = .ok a ↔ choices.lookup name = some a := by
    intro name
    cases h : choices.lookup name <;> simp [named, h, fail]
  cases j with
  | string s =>
    show named choices s = .ok a ↔ _
    simp [hnamed]
  | object members =>
    match members with
    | [] => simp [ofJson, Document.ofJson, Document.ofMembers, choice, fail]
    | [(name, j)] =>
      have hunit : ∀ u, unit .value (Document.ofJson j) = .ok u ↔ j = .null := by
        intro u
        cases j <;> simp [Document.ofJson, unit, mismatch_ne_ok]
      simp only [ofJson, Document.ofJson, Document.ofMembers, choice, ← hnamed]
      cases hchosen : named choices name with
      | error e => simp +contextual [hchosen]
      | ok b => simp +contextual [hchosen, map_eq_ok, under_eq_ok, hunit, and_comm]
    | _ :: _ :: _ => simp [ofJson, Document.ofJson, Document.ofMembers, choice, fail]
  | _ => simp [ofJson, Document.ofJson, choice, mismatch_ne_ok]

theorem items_ofItems_eq_ok {start : Nat} {is : List Json} {as : List α} :
    items decoder .value start (Document.ofItems is) = .ok as ↔
      List.Forall₂ (fun i a => ofJson decoder i = .ok a) is as := by
  induction is generalizing start as with
  | nil => simp [Document.ofItems, items, eq_comm]
  | cons i rest ih =>
    rw [Document.ofItems, items, List.forall₂_cons_left_iff]
    constructor
    · intro h
      split at h
      · cases h
      · rename_i a ha
        obtain ⟨others, hrest, rfl⟩ := map_eq_ok.1 h
        exact ⟨a, others, under_eq_ok.1 ha, ih.1 hrest, rfl⟩
    · rintro ⟨a, others, ha, hrest, rfl⟩
      have hread : decoder .value (Document.ofJson i) = .ok a := ha
      rw [hread]
      exact map_eq_ok.2 ⟨others, ih.2 hrest, rfl⟩

/-- A list is an array whose items are decoded one by one. -/
theorem ofJson_list_eq_ok {j : Json} {as : List α} : ofJson (list decoder) j = .ok as ↔
    ∃ is, j = .array is ∧ List.Forall₂ (fun i a => ofJson decoder i = .ok a) is as := by
  cases j with
  | array is =>
    rw [ofJson, Document.ofJson, list]
    simp [items_ofItems_eq_ok]
  | _ => simp [ofJson, Document.ofJson, list, mismatch_ne_ok]

/-! ## What is read back -/

theorem natBelow_ofUInt64 (n : UInt64) (expected : String) :
    ofJson (natBelow (Nat.pow 2 64) expected) (.int (.ofUInt64 n)) = .ok n.toNat := by
  have hupper : (n.toNat : Int) < (Nat.pow 2 64 : Nat) := by exact_mod_cast n.toNat_lt
  simp only [ofJson, Document.ofJson, natBelow, JsonInt.ofUInt64]
  rw [if_pos ⟨Int.natCast_nonneg _, hupper⟩, Int.toNat_natCast]

@[simp] theorem ofJson_uint64 (n : UInt64) : ofJson uint64 (.int (.ofUInt64 n)) = .ok n := by
  have h := natBelow_ofUInt64 n "u64"
  unfold ofJson at h ⊢
  rw [uint64, convert, h, Except.map, UInt64.ofNat_toNat]

@[simp] theorem ofJson_size (n : UInt64) : ofJson size (.int (.ofUInt64 n)) = .ok n := by
  have h := natBelow_ofUInt64 n "usize"
  unfold ofJson at h ⊢
  rw [size, convert, h, Except.map, UInt64.ofNat_toNat]

@[simp] theorem ofJson_string (s : String) : ofJson string (.string s) = .ok s := rfl

theorem ofJson_choice {type : String} {choices : List (String × α)} {name : String} {a : α}
    (h : choices.lookup name = some a) : ofJson (choice type choices) (.string name) = .ok a := by
  show named choices name = .ok a
  rw [named, h]

theorem ofJson_convert {f : α → β} {j : Json} {a : α} (h : ofJson decoder j = .ok a) :
    ofJson (convert f decoder) j = .ok (f a) := by
  unfold ofJson at h ⊢
  rw [convert, h, Except.map]

theorem ofJson_optional {j : Json} {a : α} (hnull : j.isNull = false)
    (h : ofJson decoder j = .ok a) : ofJson (optional decoder) j = .ok (some a) := by
  unfold ofJson at h ⊢
  cases j with
  | null => simp [Json.isNull] at hnull
  | _ => rw [Document.ofJson] at h ⊢; simp [optional, h, Except.map]

theorem ofJson_list {encode : α → Json} {as : List α}
    (h : ∀ a ∈ as, ofJson decoder (encode a) = .ok a) :
    ofJson (list decoder) (.array (as.map encode)) = .ok as := by
  refine ofJson_list_eq_ok.2 ⟨_, rfl, ?_⟩
  rw [List.forall₂_map_left_iff, List.forall₂_same]
  exact h

theorem members_map {encode : α → Json} {pairs : List (String × α)} {m : Keyed α}
    (h : ∀ p ∈ pairs, ofJson decoder (encode p.2) = .ok p.2) :
    members decoder .value m (Document.ofMembers (pairs.map fun p => (p.1, encode p.2))) =
      .ok (pairs.foldl (fun m p => m.insert p.1 p.2) m) := by
  induction pairs generalizing m with
  | nil => rfl
  | cons p rest ih =>
    obtain ⟨hp, hrest⟩ := List.forall_mem_cons.1 h
    have hread : decoder .value (Document.ofJson (encode p.2)) = .ok p.2 := hp
    rw [List.map_cons, Document.ofMembers, members, hread, under]
    exact ih hrest

theorem ofJson_keyed {encode : α → Json} {m : Keyed α}
    (h : ∀ p ∈ m.pairs, ofJson decoder (encode p.2) = .ok p.2) :
    ofJson (keyed decoder) (.ofKeyed (m.map fun _ a => encode a)) = .ok m := by
  have hmembers := members_map (m := .empty) h
  rw [show m.pairs.foldl (fun m p => m.insert p.1 p.2) .empty = m from Keyed.ofList_pairs m]
    at hmembers
  exact hmembers

end GuardedQuery.Decode
