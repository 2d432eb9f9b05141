import GuardedQuery.Database.Work

/-!
# Transactions

A transaction is begun once, then either committed or rolled back, and then over. Rolling back is
allowed at any stage and does nothing unless the transaction is active; committing one that is over
does nothing either. Statements run only while it is active.

The stage is kept beside the driver's own transaction, which is there from a successful begin to the
end. Where the two disagree, an active transaction without the driver's counts as rolled back.
-/

namespace GuardedQuery

/-- One transaction on one connection. -/
structure Transaction where
  dialect : Dialect
  stage : Stage
  /-- The driver's own transaction is there. -/
  held : Bool
  deriving DecidableEq, Repr

namespace Transaction

variable {σ : Type}

/-- A transaction that has not begun. -/
def idle (d : Dialect) : Transaction := ⟨d, .idle, false⟩

/-! ## Stages -/

/-- Begins a transaction that is idle. It stays idle if the driver fails. -/
def begin (driver : Driver σ) (t : Transaction) (s : σ) :
    Except ExecutionError Unit × Transaction × σ :=
  match t.stage with
  | .idle =>
    match driver.begin s with
    | (.ok (), s) => (.ok (), { t with stage := .active, held := true }, s)
    | (.error f, s) => (.error (.driver f), t, s)
  | stage => (.error (.invalidChange stage .begin), t, s)

/-- Commits an active transaction. It is rolled back if the driver fails. -/
def commit (driver : Driver σ) (t : Transaction) (s : σ) :
    Except ExecutionError Unit × Transaction × σ :=
  match t.stage with
  | .active =>
    if t.held then
      match driver.commit s with
      | (.ok (), s) => (.ok (), { t with stage := .committed, held := false }, s)
      | (.error f, s) => (.error (.driver f), { t with stage := .rolledBack, held := false }, s)
    else (.error (.notActive .rolledBack), { t with stage := .rolledBack }, s)
  | .idle => (.error (.invalidChange .idle .commit), t, s)
  | _ => (.ok (), t, s)

/-- Rolls an active transaction back. It counts as rolled back even if the driver fails. -/
def rollback (driver : Driver σ) (t : Transaction) (s : σ) :
    Except ExecutionError Unit × Transaction × σ :=
  match t.stage with
  | .active =>
    if t.held then
      match driver.rollback s with
      | (.ok (), s) => (.ok (), { t with stage := .rolledBack, held := false }, s)
      | (.error f, s) => (.error (.driver f), { t with stage := .rolledBack, held := false }, s)
    else (.ok (), { t with stage := .rolledBack }, s)
  | _ => (.ok (), t, s)

/-- Lets go of a transaction; the driver's own is given up if it is still there. -/
def release (driver : Driver σ) (t : Transaction) (s : σ) : σ :=
  if t.held then driver.abandon s else s

/-! ## Statements -/

/-- The command of a statement, if the transaction is active and of the same dialect. -/
def command (t : Transaction) (st : Statement) : Except ExecutionError Command :=
  if t.held ∧ t.stage = .active then st.command t.dialect else .error (.notActive t.stage)

/-- Reads records. -/
def records (driver : Driver σ) (c : Command) (s : σ) : Except ExecutionError (List Record) × σ :=
  match driver.query c s with
  | (.ok records, s) => (.ok records, s)
  | (.error f, s) => (.error (.driver f), s)

def fetchAll (driver : Driver σ) (t : Transaction) (st : Statement) (s : σ) :
    Except ExecutionError (List Row) × σ :=
  match t.command st with
  | .error e => (.error e, s)
  | .ok c =>
    match records driver c s with
    | (.error e, s) => (.error e, s)
    | (.ok rs, s) => (rs.mapM (Record.toRow t.dialect st.outline.columns), s)

def fetchKeys (driver : Driver σ) (t : Transaction) (st : Statement) (s : σ) :
    Except ExecutionError (List Literal) × σ :=
  match t.command st, st.keyColumn with
  | .error e, _ => (.error e, s)
  | .ok _, .error e => (.error e, s)
  | .ok c, .ok column =>
    match records driver c s with
    | (.error e, s) => (.error e, s)
    | (.ok rs, s) => (rs.mapM (Record.key t.dialect column), s)

def execute (driver : Driver σ) (t : Transaction) (st : Statement) (s : σ) :
    Except ExecutionError UInt64 × σ :=
  match t.command st with
  | .error e => (.error e, s)
  | .ok c =>
    match driver.execute c s with
    | (.ok n, s) => (.ok n, s)
    | (.error f, s) => (.error (.driver f), s)

/-- The transaction as an executor of work. -/
def executor (driver : Driver σ) (t : Transaction) : Executor σ :=
  { fetchAll := t.fetchAll driver, fetchKeys := t.fetchKeys driver, execute := t.execute driver }

end Transaction

end GuardedQuery
