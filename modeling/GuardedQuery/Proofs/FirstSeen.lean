import Mathlib.Data.List.Induction

/-!
# Members where they are first seen

`FirstSeen f xs ys`: `ys` lists those members of `xs` whose value under `f` no earlier member has, in
the order of `xs`. There is only one such list (`FirstSeen.unique`), and it has every value once
(`FirstSeen.nodup`, `FirstSeen.exists_mem`).
-/

namespace GuardedQuery

variable {α β γ δ : Type}

/-- Reads `xs` from left to right and drops a member if one with the same value was read before. -/
inductive FirstSeen (f : α → β) : List α → List α → Prop
  | nil : FirstSeen f [] []
  | again {xs ys : List α} {a : α} :
      FirstSeen f xs ys → (∃ b ∈ xs, f b = f a) → FirstSeen f (xs ++ [a]) ys
  | first {xs ys : List α} {a : α} :
      FirstSeen f xs ys → (∀ b ∈ xs, f b ≠ f a) → FirstSeen f (xs ++ [a]) (ys ++ [a])

namespace FirstSeen

variable {f : α → β} {xs ys zs : List α}

theorem subset (h : FirstSeen f xs ys) : ys ⊆ xs := by
  induction h with
  | nil => exact List.Subset.refl _
  | again _ _ ih => exact List.subset_append_of_subset_left _ ih
  | first _ _ ih =>
    intro c hc
    rcases List.mem_append.1 hc with hc | hc
    · exact List.mem_append_left _ (ih hc)
    · exact List.mem_append_right _ hc

/-- No value is lost. -/
theorem exists_mem (h : FirstSeen f xs ys) : ∀ a ∈ xs, ∃ b ∈ ys, f b = f a := by
  induction h with
  | nil => simp
  | @again xs ys a _ hseen ih =>
    intro c hc
    rcases List.mem_append.1 hc with hc | hc
    · exact ih c hc
    · rw [List.mem_singleton.1 hc]
      obtain ⟨b, hb, heq⟩ := hseen
      obtain ⟨b', hb', heq'⟩ := ih b hb
      exact ⟨b', hb', heq'.trans heq⟩
  | @first xs ys a _ _ ih =>
    intro c hc
    rcases List.mem_append.1 hc with hc | hc
    · obtain ⟨b, hb, heq⟩ := ih c hc
      exact ⟨b, List.mem_append_left _ hb, heq⟩
    · exact ⟨c, List.mem_append_right _ hc, rfl⟩

/-- No value is listed twice. -/
theorem nodup (h : FirstSeen f xs ys) : (ys.map f).Nodup := by
  induction h with
  | nil => simp
  | again _ _ ih => exact ih
  | @first xs ys a hseen hnew ih =>
    rw [List.map_append, List.nodup_append]
    refine ⟨ih, by simp, ?_⟩
    intro v hv w hw
    obtain ⟨b, hb, rfl⟩ := List.mem_map.1 hv
    rw [List.map_singleton, List.mem_singleton] at hw
    rw [hw]
    exact hnew b (hseen.subset hb)

theorem of_nodup (h : (xs.map f).Nodup) : FirstSeen f xs xs := by
  induction xs using List.reverseRecOn with
  | nil => exact nil
  | append_singleton xs a ih =>
    rw [List.map_append, List.nodup_append] at h
    obtain ⟨hxs, -, hnew⟩ := h
    exact (ih hxs).first fun b hb => hnew _ (List.mem_map_of_mem hb) _ (by simp)

/-- A list that is read as it stands has no repetitions. -/
theorem self_iff : FirstSeen id xs xs ↔ xs.Nodup :=
  ⟨fun h => by simpa using h.nodup, fun h => of_nodup (by simpa using h)⟩

theorem eq_nil (h : FirstSeen f [] ys) : ys = [] :=
  List.subset_nil.1 h.subset

theorem ne_nil (h : FirstSeen f xs ys) (hxs : xs ≠ []) : ys ≠ [] := by
  rintro rfl
  obtain ⟨a, ha⟩ := List.exists_mem_of_ne_nil xs hxs
  obtain ⟨b, hb, -⟩ := h.exists_mem a ha
  cases hb

theorem concat_cases {a : α} (h : FirstSeen f (xs ++ [a]) ys) :
    (FirstSeen f xs ys ∧ ∃ b ∈ xs, f b = f a) ∨
      ∃ zs, FirstSeen f xs zs ∧ (∀ b ∈ xs, f b ≠ f a) ∧ ys = zs ++ [a] := by
  generalize hread : xs ++ [a] = read at h
  cases h with
  | nil => simp at hread
  | again h hseen =>
    obtain ⟨rfl, heq⟩ := List.append_inj' hread rfl
    cases heq
    exact .inl ⟨h, hseen⟩
  | first h hnew =>
    obtain ⟨rfl, heq⟩ := List.append_inj' hread rfl
    cases heq
    exact .inr ⟨_, h, hnew, rfl⟩

theorem unique (h : FirstSeen f xs ys) (h' : FirstSeen f xs zs) : ys = zs := by
  induction h generalizing zs with
  | nil => exact h'.eq_nil.symm
  | again _ hseen ih =>
    rcases h'.concat_cases with ⟨h', -⟩ | ⟨_, -, hnew, -⟩
    · exact ih h'
    · obtain ⟨b, hb, heq⟩ := hseen
      exact absurd heq (hnew b hb)
  | first _ hnew ih =>
    rcases h'.concat_cases with ⟨-, b, hb, heq⟩ | ⟨_, hzs, -, rfl⟩
    · exact absurd heq (hnew b hb)
    · rw [ih hzs]

/-- What is first seen is so in an image in which the same members have the same value. -/
theorem map {g : α → γ} {f' : γ → δ} (h : FirstSeen f xs ys)
    (hg : ∀ a ∈ xs, ∀ b ∈ xs, f' (g a) = f' (g b) ↔ f a = f b) :
    FirstSeen f' (xs.map g) (ys.map g) := by
  induction h with
  | nil => exact nil
  | @again xs ys a h hseen ih =>
    obtain ⟨b, hb, heq⟩ := hseen
    have hxs : ∀ c ∈ xs, ∀ d ∈ xs, f' (g c) = f' (g d) ↔ f c = f d := fun c hc d hd =>
      hg c (List.mem_append_left _ hc) d (List.mem_append_left _ hd)
    have himage : f' (g b) = f' (g a) := (hg b (List.mem_append_left _ hb) a (by simp)).2 heq
    rw [List.map_append]
    exact (ih hxs).again ⟨g b, List.mem_map_of_mem hb, himage⟩
  | @first xs ys a h hnew ih =>
    have hxs : ∀ c ∈ xs, ∀ d ∈ xs, f' (g c) = f' (g d) ↔ f c = f d := fun c hc d hd =>
      hg c (List.mem_append_left _ hc) d (List.mem_append_left _ hd)
    rw [List.map_append, List.map_append]
    refine (ih hxs).first fun v hv heq => ?_
    obtain ⟨b, hb, rfl⟩ := List.mem_map.1 hv
    exact hnew b hb ((hg b (List.mem_append_left _ hb) a (by simp)).1 heq)

end FirstSeen

end GuardedQuery
