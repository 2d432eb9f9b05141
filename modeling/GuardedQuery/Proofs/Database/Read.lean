import GuardedQuery.Database.Transaction
import GuardedQuery.Proofs.Statement.Tests

/-!
# Reads of a transaction

Rows and keys are read in one way (`Transaction.fetch`): a command is sent, and each record of its
answer is decoded. They differ in the command's columns and in how a record is decoded
(`Transaction.rowsRead`, `Transaction.keysRead`), and either may be refused before anything is sent.
-/

namespace GuardedQuery

/-- A command and what is made of each record of its answer. -/
structure Read (β : Type) where
  command : Command
  decode : Record → Except ExecutionError β

namespace Transaction

variable {σ β : Type} {driver : Driver σ} {t : Transaction} {st : Statement}

/-- Reads, unless the read was refused. -/
def fetch (driver : Driver σ) (read : Except ExecutionError (Read β)) (s : σ) :
    Except ExecutionError (List β) × σ :=
  match read with
  | .error e => (.error e, s)
  | .ok q =>
    match records driver q.command s with
    | (.error e, s) => (.error e, s)
    | (.ok rs, s) => (rs.mapM q.decode, s)

theorem fetch_ok {read : Except ExecutionError (Read β)} {s s' : σ} {bs : List β}
    (h : fetch driver read s = (.ok bs, s')) :
    ∃ q rs, read = .ok q ∧ records driver q.command s = (.ok rs, s') ∧
      rs.mapM q.decode = .ok bs := by
  cases read with
  | error e => cases h
  | ok q =>
    rcases hrecords : records driver q.command s with ⟨e | rs, s₁⟩
    · simp [fetch, hrecords] at h
    · simp only [fetch, hrecords, Prod.mk.injEq] at h
      exact ⟨q, rs, rfl, by rw [hrecords, h.2], h.1⟩

/-! ## Rows -/

def rowsRead (t : Transaction) (st : Statement) : Except ExecutionError (Read Row) :=
  (t.command st).map fun c => ⟨c, Record.toRow t.dialect st.outline.columns⟩

theorem fetchAll_eq (driver : Driver σ) (t : Transaction) (st : Statement) :
    t.fetchAll driver st = fetch driver (t.rowsRead st) := by
  funext s
  unfold fetchAll rowsRead
  cases t.command st <;> rfl

theorem decode_of_rowsRead {q : Read Row} (h : t.rowsRead st = .ok q) :
    q.decode = Record.toRow t.dialect st.outline.columns := by
  obtain ⟨c, -, rfl⟩ := map_eq_ok.1 h
  rfl

/-! ## Keys -/

def keysRead (t : Transaction) (st : Statement) : Except ExecutionError (Read Literal) := do
  let c ← t.command st
  let column ← st.keyColumn
  .ok ⟨c, Record.key t.dialect column⟩

theorem fetchKeys_eq (driver : Driver σ) (t : Transaction) (st : Statement) :
    t.fetchKeys driver st = fetch driver (t.keysRead st) := by
  funext s
  unfold fetchKeys keysRead
  cases t.command st with
  | error e => rfl
  | ok c => cases st.keyColumn <;> rfl

theorem decode_of_keysRead {q : Read Literal} (h : t.keysRead st = .ok q) :
    ∃ column, st.keyColumn = .ok column ∧ q.decode = Record.key t.dialect column := by
  obtain ⟨c, -, h⟩ := bind_eq_ok.1 h
  obtain ⟨column, hcolumn, h⟩ := bind_eq_ok.1 h
  cases h
  exact ⟨column, hcolumn, rfl⟩

end Transaction

end GuardedQuery
