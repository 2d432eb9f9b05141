import GuardedQuery.Proofs.Batch.Merge
import GuardedQuery.Proofs.Database.Read

/-!
# Columns of a row

A row has exactly the columns that it was read with (`Record.toRow_contains`), each with the value of
its cell (`Record.toRow_find?`) and all of them apart if no two have one name (`Record.toRow_keys`).
Reading looks at no others (`Record.toRow_congr`), and it succeeds only if each of them reads as a cell
(`Record.toRow_reads`). The same holds of keys, which are read from one column.
-/

namespace GuardedQuery

/-- The error of a record of which no row or key can be made. -/
inductive ExecutionError.OfRow : ExecutionError → Prop
  | shape (column : String) : OfRow (.rowShape column)
  | malformed (fault : RowFault) : OfRow (.malformedRow fault)

theorem Json.toKey_ofRow {column : String} {j : Json} {e : ExecutionError}
    (h : j.toKey column = .error e) : e.OfRow := by
  unfold toKey at h
  split at h
  · cases h
    exact .shape column
  · split at h
    · cases h
    · cases h
      exact .malformed _

namespace Record

variable {d : Dialect} {r r' : Record} {columns : List String} {column : String} {row row' : Row}

theorem addColumns_contains (h : r.addColumns d columns row = .ok row') (k : String) :
    row'.contains k = true ↔ k ∈ columns ∨ row.contains k = true := by
  induction columns generalizing row with
  | nil =>
    cases h
    simp
  | cons column rest ih =>
    rw [addColumns] at h
    split at h
    · cases h
    · rw [ih h, Keyed.contains_insert, List.mem_cons]
      tauto

/-- **A row has exactly its columns.** -/
theorem toRow_contains (h : r.toRow d columns = .ok row) (k : String) :
    row.contains k = true ↔ k ∈ columns := by
  rw [addColumns_contains h]
  simp [Keyed.contains, Keyed.find?, Keyed.empty]

/-- A row has one pair for each of its columns exactly if no column is named twice. -/
theorem toRow_keys (h : r.toRow d columns = .ok row) :
    (row.pairs.map Prod.fst).Perm columns ↔ columns.Nodup := by
  constructor
  · intro hperm
    exact hperm.nodup_iff.1 row.nodup_keys
  · intro hnodup
    rw [List.perm_ext_iff_of_nodup row.nodup_keys hnodup]
    intro k
    rw [Keyed.mem_keys, toRow_contains h]

theorem addColumns_find? (h : r.addColumns d columns row = .ok row') {k : String}
    (hk : k ∈ columns ∨ ∃ j, r.value d k = .ok j ∧ row.find? k = some j) :
    ∃ j, r.value d k = .ok j ∧ row'.find? k = some j := by
  induction columns generalizing row with
  | nil =>
    cases h
    exact hk.resolve_left (by simp)
  | cons column rest ih =>
    rw [addColumns] at h
    split at h
    · cases h
    · rename_i j hvalue
      refine ih h ?_
      by_cases hsame : k = column
      · subst hsame
        exact .inr ⟨j, hvalue, by rw [Keyed.find?_insert, if_pos rfl]⟩
      · rw [Keyed.find?_insert, if_neg hsame]
        rw [List.mem_cons, or_iff_right hsame] at hk
        exact hk

/-- Under the name of a column stands the value of its cell. -/
theorem toRow_find? (h : r.toRow d columns = .ok row) {k : String} (hk : k ∈ columns) :
    ∃ j, r.value d k = .ok j ∧ row.find? k = some j :=
  addColumns_find? h (.inl hk)

theorem value_congr (h : r column = r' column) : r.value d column = r'.value d column := by
  simp [value, h]

theorem addColumns_congr (h : ∀ c ∈ columns, r c = r' c) :
    r.addColumns d columns row = r'.addColumns d columns row := by
  induction columns generalizing row with
  | nil => rfl
  | cons column rest ih =>
    obtain ⟨hcolumn, hrest⟩ := List.forall_mem_cons.1 h
    rw [addColumns, addColumns, value_congr hcolumn]
    split
    · rfl
    · exact ih hrest

/-- **A row does not depend on other columns.** -/
theorem toRow_congr (h : ∀ c ∈ columns, r c = r' c) : r.toRow d columns = r'.toRow d columns :=
  addColumns_congr h

theorem key_congr (h : r column = r' column) : r.key d column = r'.key d column := by
  simp [key, key.viaJson, value_congr h, h]

theorem value_reads {j : Json} (h : r.value d column = .ok j) :
    ∃ cell, r column = some cell ∧ cell.toJson? d = some j := by
  unfold value at h
  split at h
  · rename_i j' hj
    cases h
    exact Option.bind_eq_some_iff.1 hj
  · cases h

theorem addColumns_reads (h : r.addColumns d columns row = .ok row') :
    ∀ c ∈ columns, ∃ cell, r c = some cell := by
  induction columns generalizing row with
  | nil => simp
  | cons column rest ih =>
    rw [addColumns] at h
    split at h
    · cases h
    · rename_i j hvalue
      obtain ⟨cell, hcell, -⟩ := value_reads hvalue
      exact List.forall_mem_cons.2 ⟨⟨cell, hcell⟩, ih h⟩

/-- A row is read only where each of its columns reads as a cell. -/
theorem toRow_reads (h : r.toRow d columns = .ok row) : ∀ c ∈ columns, ∃ cell, r c = some cell :=
  addColumns_reads h

/-- A key is read only from a cell, and not from a null. -/
theorem key_reads {l : Literal} (h : r.key d column = .ok l) :
    ∃ cell, r column = some cell ∧ cell ≠ .null := by
  have hjson (h : key.viaJson d column r = .ok l) : ∃ cell, r column = some cell ∧ cell ≠ .null := by
    unfold key.viaJson at h
    split at h
    · cases h
    · rename_i j hvalue
      obtain ⟨cell, hcell, hj⟩ := value_reads hvalue
      refine ⟨cell, hcell, ?_⟩
      rintro rfl
      cases hj
      cases h
  unfold key at h
  split at h
  · exact hjson h
  · rename_i u _ hu
    exact ⟨.uuid u, hu, nofun⟩
  · exact hjson h

end Record

/-! ## Errors -/

namespace Record

variable {d : Dialect} {r : Record} {columns : List String} {column : String} {e : ExecutionError}

theorem value_ofRow (h : r.value d column = .error e) : e.OfRow := by
  unfold value at h
  split at h
  · cases h
  · cases h
    exact .shape column

theorem addColumns_ofRow {row : Row} (h : r.addColumns d columns row = .error e) : e.OfRow := by
  induction columns generalizing row with
  | nil => cases h
  | cons column rest ih =>
    rw [addColumns] at h
    split at h
    · rename_i e' hvalue
      cases h
      exact value_ofRow hvalue
    · exact ih h

theorem toRow_ofRow (h : r.toRow d columns = .error e) : e.OfRow := addColumns_ofRow h

theorem viaJson_ofRow (h : key.viaJson d column r = .error e) : e.OfRow := by
  unfold key.viaJson at h
  split at h
  · rename_i e' hvalue
    cases h
    exact value_ofRow hvalue
  · exact Json.toKey_ofRow h

theorem key_ofRow (h : r.key d column = .error e) : e.OfRow := by
  unfold key at h
  split at h
  · exact viaJson_ofRow h
  · cases h
  · exact viaJson_ofRow h

end Record

/-- Rows that are read have the result columns of their statement. -/
theorem Transaction.fetchAll_contains {σ : Type} {driver : Driver σ} {t : Transaction}
    {st : Statement} {s s' : σ} {rows : List Row}
    (h : t.fetchAll driver st s = (.ok rows, s')) {row : Row} (hrow : row ∈ rows) (k : String) :
    row.contains k = true ↔ k ∈ st.outline.columns := by
  rw [fetchAll_eq] at h
  obtain ⟨q, rs, hq, -, hrows⟩ := fetch_ok h
  rw [decode_of_rowsRead hq] at hrows
  obtain ⟨r, -, hr⟩ := exists_of_mapM_eq_ok hrows hrow
  exact Record.toRow_contains hr k

end GuardedQuery
