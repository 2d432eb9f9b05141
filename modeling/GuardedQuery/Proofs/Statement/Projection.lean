import GuardedQuery.Proofs.Statement.Text

/-!
# The columns of a statement

Two columns of a checked allowlist with one entry are the same column (`Column.entry_inj`), so nothing
is lost when of columns with one entry only the first is selected. The selected columns are those that
the keys stand for, each once (`Selection.Resolved`, `Payload.check_selects`,
`KeyLookup.check_selects`), and a statement has their names.
-/

namespace GuardedQuery

open Text

/-! ## Selections -/

namespace Selection

theorem ofKeys_singleton {permitted : List Column} {key : String} {s : Selection}
    (h : ofKeys permitted [key] = .ok s) :
    ∃ c, Column.resolve? permitted key = some c ∧ s = ⟨[key], [c]⟩ := by
  unfold ofKeys at h
  rw [List.foldlM_cons] at h
  obtain ⟨t, ht, h⟩ := bind_eq_ok.1 h
  cases h
  obtain ⟨c, hc, rfl⟩ := map_eq_ok.1 ht
  exact ⟨c, Target.column_ok.1 hc, rfl⟩

variable {columns permitted : List Column} {c : Column}

theorem mem_append_iff (hc : c.Sound) (hcolumns : ∀ d ∈ columns, d.Sound) {d : Column} :
    d ∈ append columns c ↔ d ∈ columns ∨ d = c := by
  refine ⟨mem_append, ?_⟩
  unfold append
  split
  · rename_i hpresent
    obtain ⟨e, he, heq⟩ := List.any_eq_true.1 hpresent
    have hec : e = c := Column.entry_inj (hcolumns e he) hc (by simpa using heq)
    rintro (hd | rfl)
    · exact hd
    · exact hec ▸ he
  · simp

/-- After a column is added, its name is among the names of the columns. -/
theorem outputName_mem_append (hc : c.Sound) (hcolumns : ∀ d ∈ columns, d.Sound) :
    c.outputName ∈ (append columns c).map Column.outputName :=
  List.mem_map_of_mem ((mem_append_iff hc hcolumns).2 (.inr rfl))

theorem append_of_mem (h : c ∈ columns) : append columns c = columns := by
  unfold append
  rw [if_pos]
  exact List.any_eq_true.2 ⟨c, h, beq_self_eq_true _⟩

theorem nodup_append (h : columns.Nodup) : (append columns c).Nodup := by
  unfold append
  split
  · exact h
  · rename_i hnew
    have hc : c ∉ columns := fun hc => hnew (List.any_eq_true.2 ⟨c, hc, beq_self_eq_true _⟩)
    refine List.nodup_append.2 ⟨h, by simp, ?_⟩
    rintro x hx y hy rfl
    exact hc (List.mem_singleton.1 hy ▸ hx)

/-- The columns are sound, none is there twice, and none is missing that a key stands for. -/
structure Resolved (permitted : List Column) (s : Selection) : Prop where
  sound : ∀ d ∈ s.columns, d.Sound
  nodup : s.columns.Nodup
  column : ∀ key ∈ s.keys, ∃ d ∈ s.columns, Column.resolve? permitted key = some d

theorem resolved_empty : Resolved permitted ⟨[], []⟩ := ⟨by simp, .nil, by simp⟩

variable (hpermitted : ∀ d ∈ permitted, d.Sound)

include hpermitted

/-- A key is added with its column, whether it is there already or not. -/
theorem add_ok {s t : Selection} {key : String} (hs : s.Resolved permitted)
    (h : add permitted s key = .ok t) :
    t.Resolved permitted ∧
      ∃ e, Column.resolve? permitted key = some e ∧ t.columns = append s.columns e := by
  unfold add at h
  split at h
  · rename_i hseen
    cases h
    obtain ⟨e, he, hresolve⟩ := hs.column key (by simpa using hseen)
    exact ⟨hs, e, hresolve, (append_of_mem he).symm⟩
  · obtain ⟨e, he, rfl⟩ := map_eq_ok.1 h
    have hresolve := Target.column_ok.1 he
    have hsound := hpermitted e (Column.resolve?_mem hresolve)
    have hmem {x : Column} : x ∈ append s.columns e ↔ x ∈ s.columns ∨ x = e :=
      mem_append_iff hsound hs.sound
    refine ⟨⟨fun x hx => ?_, nodup_append hs.nodup, fun k hk => ?_⟩, e, hresolve, rfl⟩
    · rcases hmem.1 hx with hx | rfl
      · exact hs.sound x hx
      · exact hsound
    · rcases List.mem_append.1 hk with hk | hk
      · obtain ⟨x, hx, hxk⟩ := hs.column k hk
        exact ⟨x, hmem.2 (.inl hx), hxk⟩
      · rw [List.mem_singleton.1 hk]
        exact ⟨e, hmem.2 (.inr rfl), hresolve⟩

/-- What is selected when some keys are added to those that are there. -/
theorem foldlM_ok {keys : List String} {s t : Selection} (hs : s.Resolved permitted)
    (h : keys.foldlM (add permitted) s = .ok t) :
    t.Resolved permitted ∧ ∀ d, d ∈ t.columns ↔
      d ∈ s.columns ∨ ∃ key ∈ keys, Column.resolve? permitted key = some d := by
  induction keys generalizing s with
  | nil =>
    cases h
    exact ⟨hs, by simp⟩
  | cons key rest ih =>
    rw [List.foldlM_cons] at h
    obtain ⟨u, hu, h⟩ := bind_eq_ok.1 h
    obtain ⟨hresolved, e, he, hcolumns⟩ := add_ok hpermitted hs hu
    obtain ⟨ht, hmem⟩ := ih hresolved h
    refine ⟨ht, fun d => ?_⟩
    have hsound := hpermitted e (Column.resolve?_mem he)
    rw [hmem, hcolumns, mem_append_iff hsound hs.sound, or_assoc]
    simp [he, @eq_comm _ d e]

theorem ofKeys_resolved {keys : List String} {s : Selection} (h : ofKeys permitted keys = .ok s) :
    s.Resolved permitted :=
  (foldlM_ok hpermitted resolved_empty h).1

/-- Selected are the columns that the keys stand for. -/
theorem ofKeys_columns {keys : List String} {s : Selection} (h : ofKeys permitted keys = .ok s)
    (d : Column) : d ∈ s.columns ↔ ∃ key ∈ keys, Column.resolve? permitted key = some d := by
  rw [(foldlM_ok hpermitted resolved_empty h).2]
  simp

/-- With one more key, its column is selected last, unless it is selected already. -/
theorem ofKeys_concat {keys : List String} {key : String} {cs : List Column} :
    (∃ t, ofKeys permitted (keys ++ [key]) = .ok t ∧ t.columns = cs) ↔
      ∃ s e, ofKeys permitted keys = .ok s ∧ Column.resolve? permitted key = some e ∧
        append s.columns e = cs := by
  have hconcat {t : Selection} : ofKeys permitted (keys ++ [key]) = .ok t ↔
      ∃ s, ofKeys permitted keys = .ok s ∧ add permitted s key = .ok t := by
    rw [ofKeys, List.foldlM_append, bind_eq_ok]
    simp [ofKeys]
  constructor
  · rintro ⟨t, ht, rfl⟩
    obtain ⟨s, hs, hadd⟩ := hconcat.1 ht
    obtain ⟨-, e, he, hcolumns⟩ := add_ok hpermitted (ofKeys_resolved hpermitted hs) hadd
    exact ⟨s, e, hs, he, hcolumns.symm⟩
  · rintro ⟨s, e, hs, he, rfl⟩
    obtain ⟨t, hadd⟩ : ∃ t, add permitted s key = .ok t := by
      unfold add
      split
      · exact ⟨s, rfl⟩
      · exact ⟨_, map_eq_ok.2 ⟨e, Target.column_ok.2 he, rfl⟩⟩
    obtain ⟨-, e', he', hcolumns⟩ := add_ok hpermitted (ofKeys_resolved hpermitted hs) hadd
    rw [he, Option.some.injEq] at he'
    exact ⟨t, hconcat.2 ⟨s, hs, hadd⟩, he' ▸ hcolumns⟩

end Selection

/-! ## Statements -/

namespace Allowlist

/-- The columns are those that the keys stand for on the table, each once. -/
structure Selects (a : Allowlist) (table : String) (keys : List String) (columns : List Column) :
    Prop where
  nodup : columns.Nodup
  mem_iff : ∀ c, c ∈ columns ↔ ∃ key ∈ keys, Column.resolve? (a.permitted table) key = some c

/-- One of the keys stands for a column of that name that is permitted on the table. -/
def Shows (a : Allowlist) (table : String) (keys : List String) (name : String) : Prop :=
  ∃ key ∈ keys, ∃ c, Column.resolve? (a.permitted table) key = some c ∧ c.outputName = name

theorem Selects.shows {a : Allowlist} {table : String} {keys : List String} {columns : List Column}
    (h : a.Selects table keys columns) (name : String) :
    name ∈ columns.map Column.outputName ↔ a.Shows table keys name := by
  simp only [List.mem_map, h.mem_iff, Shows]
  constructor
  · rintro ⟨c, ⟨key, hkey, hc⟩, hname⟩
    exact ⟨key, hkey, c, hc, hname⟩
  · rintro ⟨key, hkey, c, hc, hname⟩
    exact ⟨c, ⟨key, hkey, hc⟩, hname⟩

end Allowlist

section

variable {a : Allowlist} {d : Dialect} {o : Override} {st : Statement}

theorem Payload.check_selects (ha : a.Sound) {fallback : Option String} {p : Payload String}
    {c : Checked} (h : p.check a o fallback = .ok c) :
    a.Selects c.table p.select c.select.columns := by
  obtain ⟨target, selection, htarget, hselection, -, -, -, hcolumns, -, -, -, htable⟩ := check_ok h
  rw [Target.columns_eq htarget] at hselection
  rw [hcolumns, htable]
  exact ⟨(Selection.ofKeys_resolved (fun _ => ha.permitted) hselection).nodup,
    Selection.ofKeys_columns (fun _ => ha.permitted) hselection⟩

theorem KeyLookup.check_selects (ha : a.Sound) {l : KeyLookup} {c : Payload.Checked}
    (h : l.check a o = .ok c) : a.Selects c.table (l.select ++ [l.keyColumn]) c.select.columns := by
  obtain ⟨target, key, selection, htarget, hkey, hselection, -, hcolumns, -, -, -, -, -, htable⟩ :=
    check_ok h
  rw [Target.columns_eq htarget] at hselection hkey
  rw [hcolumns, htable]
  obtain ⟨t, ht, hconcat⟩ := (Selection.ofKeys_concat fun _ => ha.permitted).2
    ⟨selection, key, hselection, hkey, rfl⟩
  rw [← hconcat]
  exact ⟨(Selection.ofKeys_resolved (fun _ => ha.permitted) ht).nodup,
    Selection.ofKeys_columns (fun _ => ha.permitted) ht⟩

theorem Payload.compile_columns (ha : a.Sound) {p : Payload String}
    (h : p.compile a d o = .ok st) (name : String) :
    name ∈ st.outline.columns ↔ a.Shows st.outline.table p.select name := by
  obtain ⟨c, hc, rfl⟩ := compile_ok h
  exact (check_selects ha hc).shows name

theorem KeyLookup.compile_columns (ha : a.Sound) {l : KeyLookup} (h : l.compile a d o = .ok st)
    (name : String) :
    name ∈ st.outline.columns ↔ a.Shows st.outline.table (l.select ++ [l.keyColumn]) name := by
  obtain ⟨c, hc, rfl⟩ := compile_ok h
  exact (check_selects ha hc).shows name

end

end GuardedQuery
