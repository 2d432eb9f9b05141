import Mathlib.Data.List.Forall2

/-!
# Computations that may fail

A step of such a computation is looked through: it gives a result when the steps before it did, and
fails with the first error. The same is said of a step for each element of a list.
-/

namespace GuardedQuery

variable {ε α β γ : Type}

theorem bind_eq_ok {x : Except ε α} {f : α → Except ε β} {b : β} :
    (x >>= f) = .ok b ↔ ∃ a, x = .ok a ∧ f a = .ok b := by
  cases x <;> simp [bind, Except.bind]

theorem map_eq_ok {x : Except ε α} {f : α → β} {b : β} :
    x.map f = .ok b ↔ ∃ a, x = .ok a ∧ f a = b := by
  cases x <;> simp [Except.map]

theorem bind_eq_error {x : Except ε α} {f : α → Except ε β} {e : ε} :
    (x >>= f) = .error e ↔ x = .error e ∨ ∃ a, x = .ok a ∧ f a = .error e := by
  cases x <;> simp [bind, Except.bind]

theorem map_eq_error {x : Except ε α} {f : α → β} {e : ε} :
    x.map f = .error e ↔ x = .error e := by
  cases x <;> simp [Except.map]

/-! ## Steps over a list -/

section

variable {f : α → Except ε β} {xs ys : List α}

theorem mapM_eq_ok {g : α → β} (h : ∀ x ∈ xs, f x = .ok (g x)) :
    xs.mapM f = .ok (xs.map g) := by
  induction xs with
  | nil => rfl
  | cons x xs ih =>
    obtain ⟨hx, hxs⟩ := List.forall_mem_cons.1 h
    rw [List.mapM_cons, hx, ih hxs]
    rfl

theorem exists_of_mapM_eq_error {e : ε} (h : xs.mapM f = .error e) :
    ∃ x ∈ xs, f x = .error e := by
  induction xs with
  | nil => cases h
  | cons x xs ih =>
    rw [List.mapM_cons] at h
    rcases bind_eq_error.1 h with hx | ⟨b, -, h⟩
    · exact ⟨x, List.mem_cons_self, hx⟩
    · rcases bind_eq_error.1 h with hxs | ⟨bs, -, h⟩
      · obtain ⟨y, hy, hfail⟩ := ih hxs
        exact ⟨y, List.mem_cons_of_mem _ hy, hfail⟩
      · cases h

theorem mapM_eq_error {x : α} (hx : x ∈ xs) {e : ε} (h : f x = .error e) :
    ∃ e', xs.mapM f = .error e' := by
  induction xs with
  | nil => cases hx
  | cons y ys ih =>
    rw [List.mapM_cons]
    cases hy : f y with
    | error e' => exact ⟨e', rfl⟩
    | ok b =>
      rcases List.mem_cons.1 hx with rfl | hx
      · rw [h] at hy
        cases hy
      · obtain ⟨e', he⟩ := ih hx
        exact ⟨e', by rw [he]; rfl⟩

theorem mapM_forall₂ {bs : List β} (h : xs.mapM f = .ok bs) :
    List.Forall₂ (fun x b => f x = .ok b) xs bs := by
  induction xs generalizing bs with
  | nil =>
    cases h
    exact .nil
  | cons x xs ih =>
    rw [List.mapM_cons] at h
    obtain ⟨b, hb, h⟩ := bind_eq_ok.1 h
    obtain ⟨rest, hrest, h⟩ := bind_eq_ok.1 h
    cases h
    exact .cons hb (ih hrest)

theorem mapM_eq_ok_iff {bs : List β} :
    xs.mapM f = .ok bs ↔ List.Forall₂ (fun x b => f x = .ok b) xs bs := by
  refine ⟨mapM_forall₂, fun h => ?_⟩
  induction h with
  | nil => rfl
  | cons hb _ ih =>
    rw [List.mapM_cons, hb, ih]
    rfl

theorem mapM_congr (h : List.Forall₂ (fun x y => f x = f y) xs ys) : xs.mapM f = ys.mapM f := by
  induction h with
  | nil => rfl
  | cons hxy _ ih => rw [List.mapM_cons, List.mapM_cons, hxy, ih]

/-- Steps that succeed give for each element of the result one that it was made from. -/
theorem exists_of_mapM_eq_ok {bs : List β} (h : xs.mapM f = .ok bs) {b : β} (hb : b ∈ bs) :
    ∃ x ∈ xs, f x = .ok b := by
  obtain ⟨i, hi, rfl⟩ := List.getElem_of_mem hb
  have hall := List.forall₂_iff_get.1 (mapM_forall₂ h)
  exact ⟨xs[i], List.getElem_mem (by omega), hall.2 i (by omega) hi⟩

theorem mapM_map_eq (g : β → γ) (xs : List α) :
    (xs.mapM fun x => (f x).map g) = (xs.mapM f).map (List.map g) := by
  induction xs with
  | nil => rfl
  | cons x xs ih =>
    rw [List.mapM_cons, List.mapM_cons, ih]
    cases f x with
    | error e => rfl
    | ok b => cases xs.mapM f <;> rfl

/-- Two steps for each element give what all first steps and then all second steps give. They may fail
with another error. -/
theorem mapM_bind_eq_ok {g : β → Except ε γ} {cs : List γ} :
    (xs.mapM f >>= fun bs => bs.mapM g) = .ok cs ↔ (xs.mapM fun x => f x >>= g) = .ok cs := by
  simp only [bind_eq_ok, mapM_eq_ok_iff]
  constructor
  · rintro ⟨bs, hbs, hcs⟩
    induction hbs generalizing cs with
    | nil =>
      cases hcs
      exact .nil
    | cons hb _ ih =>
      obtain _ | ⟨hc, hcs⟩ := hcs
      exact .cons ⟨_, hb, hc⟩ (ih hcs)
  · intro h
    induction h with
    | nil => exact ⟨[], .nil, .nil⟩
    | cons hstep _ ih =>
      obtain ⟨b, hb, hc⟩ := hstep
      obtain ⟨bs, hbs, hcs⟩ := ih
      exact ⟨b :: bs, .cons hb hbs, .cons hc hcs⟩

/-- A relation may depend on where an element comes from. -/
theorem forall₂_of_mem {R S : α → β → Prop} {bs : List β} (h : ∀ x ∈ xs, ∀ b, R x b → S x b)
    (hR : List.Forall₂ R xs bs) : List.Forall₂ S xs bs :=
  ((List.forall₂_and_left xs bs).2 ⟨h, hR⟩).imp fun _ b hx => hx.1 b hx.2

/-- A relation holds of a list and some other one if each element has something in it. -/
theorem exists_forall₂_iff {R : α → β → Prop} :
    (∃ bs, List.Forall₂ R xs bs) ↔ ∀ x ∈ xs, ∃ b, R x b := by
  induction xs with
  | nil => simp
  | cons x xs ih =>
    rw [List.forall_mem_cons, ← ih]
    constructor
    · rintro ⟨_, _ | ⟨hb, hbs⟩⟩
      exact ⟨⟨_, hb⟩, _, hbs⟩
    · rintro ⟨⟨b, hb⟩, bs, hbs⟩
      exact ⟨b :: bs, .cons hb hbs⟩

/-- The steps succeed together just when each of them does. -/
theorem exists_mapM_iff : (∃ bs, xs.mapM f = .ok bs) ↔ ∀ x ∈ xs, ∃ b, f x = .ok b := by
  simp only [mapM_eq_ok_iff, exists_forall₂_iff]

end

end GuardedQuery
