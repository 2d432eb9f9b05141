import GuardedQuery.Database.Transaction

/-!
# Databases

A database is a driver and the dialect that its connections speak. A unit of work runs in one
transaction: committed if the work succeeds, rolled back before its error is returned if not.
-/

namespace GuardedQuery

/-- A driver and its dialect. -/
structure Database (σ : Type) where
  dialect : Dialect
  driver : Driver σ

namespace Database

variable {σ ε α : Type}

/-- A transaction that has begun; it is idle if that fails. -/
def begin (db : Database σ) (s : σ) : Except ExecutionError Unit × Transaction × σ :=
  (Transaction.idle db.dialect).begin db.driver s

/-- Ends a transaction after the result of its work, and lets go of it. -/
def finish (db : Database σ) (t : Transaction) (s : σ) :
    Except ε α → Except (WorkError ε) α × σ
  | .ok a =>
    match t.commit db.driver s with
    | (.ok (), t, s) => (.ok a, t.release db.driver s)
    | (.error e, t, s) => (.error (.transaction e), t.release db.driver s)
  | .error e =>
    let (_, t, s) := t.rollback db.driver s
    (.error (.work e), t.release db.driver s)

/-- Does some work in a transaction. -/
def transact (db : Database σ) (w : Work ε α) (s : σ) : Except (WorkError ε) α × σ :=
  match db.begin s with
  | (.error e, t, s) => (.error (.transaction e), t.release db.driver s)
  | (.ok (), t, s) =>
    let (result, s) := w.run (t.executor db.driver) s
    db.finish t s result

/-- Does some work in a transaction, with the error that a client is told. -/
def serve (db : Database σ) (w : Work ExecutionError α) (s : σ) : Except PublicError α × σ :=
  match db.transact w s with
  | (.ok a, s) => (.ok a, s)
  | (.error e, s) => (.error (e.collapse id).toPublic, s)

/-- Asks whether the database answers. -/
def ping (db : Database σ) (s : σ) : Except ExecutionError Unit × σ :=
  match db.driver.ping s with
  | (.ok (), s) => (.ok (), s)
  | (.error f, s) => (.error (.driver f), s)

end Database

end GuardedQuery
