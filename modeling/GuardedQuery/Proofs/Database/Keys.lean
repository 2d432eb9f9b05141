import GuardedQuery.Proofs.Database.Row

/-!
# Two readers of keys

A transaction reads keys with the types that the database has (`Transaction.fetchKeys`); any executor
can read them as rows (`Executor.keysOfRows`). For one record the two differ in UUIDs only, which are
texts in a row (`Record.key_toRow`). Over all records they also differ in what is read first: rows are
all read before the first key is, so another record may be the one that fails. The errors are errors of
rows in either case, and nobody is told more (`Transaction.readers_agree`).
-/

namespace GuardedQuery

/-- The literal without the type of UUIDs. -/
def Literal.untyped : Literal → Literal
  | .uuid u => .text u.text
  | l => l

theorem Literal.token_untyped (l : Literal) : l.untyped.token = l.token := by
  cases l <;> rfl

/-- No literal of JSON is a UUID. -/
theorem Literal.untyped_of_ofJson {j : Json} {l : Literal} (h : Literal.ofJson j = .ok l) :
    l.untyped = l := by
  cases j with
  | null | array | object => cases h
  | bool b | float x | string s =>
    cases h
    rfl
  | int i =>
    cases h
    unfold ofJsonInt
    split <;> rfl

theorem ExecutionError.OfRow.toPublic {e : ExecutionError} (h : e.OfRow) : e.toPublic = .internal := by
  cases h <;> rfl

/-! ## One record -/

namespace Record

variable {d : Dialect} {r : Record} {column : String}

/-- The key of the row with this column alone. -/
def keyOfRow (d : Dialect) (column : String) (r : Record) : Except ExecutionError Literal :=
  r.toRow d [column] >>= Row.key column

theorem keyOfRow_eq : r.keyOfRow d column = key.viaJson d column r := by
  unfold keyOfRow toRow addColumns key.viaJson
  cases r.value d column with
  | error e => rfl
  | ok j =>
    show Row.key column (Keyed.empty.insert column j) = _
    rw [Row.key, Keyed.find?_insert, if_pos rfl, Option.getD_some]

theorem untyped_of_viaJson {l : Literal} (h : key.viaJson d column r = .ok l) : l.untyped = l := by
  unfold key.viaJson at h
  split at h
  · cases h
  · unfold Json.toKey at h
    split at h
    · cases h
    · split at h
      · rename_i hl
        cases h
        exact Literal.untyped_of_ofJson hl
      · cases h

/-- **Read as a row, a key loses the type of UUIDs**, and nothing else. -/
theorem key_toRow (d : Dialect) (column : String) (r : Record) :
    r.keyOfRow d column = (r.key d column).map Literal.untyped := by
  have hjson : key.viaJson d column r = (key.viaJson d column r).map Literal.untyped := by
    cases h : key.viaJson d column r with
    | error e => rfl
    | ok l => rw [Except.map, untyped_of_viaJson h]
  rw [keyOfRow_eq]
  unfold key
  split
  · exact hjson
  · rename_i d _ _ u hserver hcell
    have hvalue : r.value d column = .ok (.string u.text) := by
      rw [value, hcell, Option.bind_some, Cell.toJson?, if_neg hserver]
    rw [key.viaJson, hvalue]
    rfl
  · exact hjson

end Record

/-! ## All records -/

/-- What two readers of keys answer: keys, and the same keys without the type of UUIDs, or errors that
are told alike. -/
inductive KeysAgree : Except ExecutionError (List Literal) → Except ExecutionError (List Literal) → Prop
  | keys (K : List Literal) : KeysAgree (.ok K) (.ok (K.map Literal.untyped))
  | errors {e e' : ExecutionError} : e.toPublic = e'.toPublic → KeysAgree (.error e) (.error e')

/-- Records are read as rows and keys are taken from the rows, or each record is read as a key. -/
theorem Record.keys_agree (d : Dialect) (column : String) (rs : List Record) :
    KeysAgree (rs.mapM (Record.key d column))
      (rs.mapM (Record.toRow d [column]) >>= fun rows => rows.mapM (Row.key column)) := by
  have hkeys : ∀ K', (rs.mapM (Record.toRow d [column]) >>= fun rows => rows.mapM (Row.key column)) =
      .ok K' ↔ (rs.mapM (Record.key d column)).map (List.map Literal.untyped) = .ok K' := by
    intro K'
    rw [mapM_bind_eq_ok, ← mapM_map_eq]
    have hstep : (fun r => Record.toRow d [column] r >>= Row.key column) =
        fun r => (Record.key d column r).map Literal.untyped := funext (Record.key_toRow d column)
    rw [hstep]
  cases hK : rs.mapM (Record.key d column) with
  | ok K =>
    rw [(hkeys _).2 (by rw [hK]; rfl)]
    exact .keys K
  | error e =>
    cases hrows : (rs.mapM (Record.toRow d [column]) >>= fun rows => rows.mapM (Row.key column)) with
    | ok K' =>
      have h := (hkeys K').1 hrows
      rw [hK] at h
      cases h
    | error e' =>
      obtain ⟨r, -, hr⟩ := exists_of_mapM_eq_error hK
      have he : e.OfRow := Record.key_ofRow hr
      have he' : e'.OfRow := by
        rcases bind_eq_error.1 hrows with hfirst | ⟨rows, -, hsecond⟩
        · obtain ⟨r, -, hr⟩ := exists_of_mapM_eq_error hfirst
          exact Record.toRow_ofRow hr
        · obtain ⟨row, -, hrow⟩ := exists_of_mapM_eq_error hsecond
          exact Json.toKey_ofRow hrow
      exact .errors (he.toPublic.trans he'.toPublic.symm)

namespace Transaction

variable {σ : Type}

/-- The transaction as an executor that reads keys as rows. -/
def rowExecutor (driver : Driver σ) (t : Transaction) : Executor σ :=
  { t.executor driver with fetchKeys := Executor.keysOfRows (t.fetchAll driver) }

/-- **Both readers of keys agree**, and they leave the database in one state. -/
theorem readers_agree (t : Transaction) (driver : Driver σ) {st : Statement} {column : String}
    (h : st.outline.columns = [column]) (s : σ) :
    ((t.executor driver).fetchKeys st s).2 = ((t.rowExecutor driver).fetchKeys st s).2 ∧
      KeysAgree ((t.executor driver).fetchKeys st s).1 ((t.rowExecutor driver).fetchKeys st s).1 := by
  show (t.fetchKeys driver st s).2 = (Executor.keysOfRows (t.fetchAll driver) st s).2 ∧
    KeysAgree (t.fetchKeys driver st s).1 (Executor.keysOfRows (t.fetchAll driver) st s).1
  have hcolumn : st.keyColumn = .ok column := by rw [Statement.keyColumn, h]
  unfold Executor.keysOfRows fetchKeys fetchAll
  rw [hcolumn]
  cases t.command st with
  | error e => exact ⟨rfl, .errors rfl⟩
  | ok c =>
    dsimp only
    rcases records driver c s with ⟨e | rs, s₁⟩
    · exact ⟨rfl, .errors rfl⟩
    · have hagree := Record.keys_agree t.dialect column rs
      rw [← h] at hagree
      dsimp only
      cases hrows : rs.mapM (Record.toRow t.dialect st.outline.columns) with
      | error e =>
        rw [hrows] at hagree
        exact ⟨rfl, hagree⟩
      | ok rows =>
        rw [hrows] at hagree
        exact ⟨rfl, hagree⟩

end Transaction

end GuardedQuery
