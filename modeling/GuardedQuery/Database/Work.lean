import GuardedQuery.Database.Driver

/-!
# Units of work

A unit of work is a tree of reads and writes: what comes after a statement depends on its answer,
and the work ends with a result or an error of its own. An executor answers the statements. Work may
go on after a statement that failed.
-/

namespace GuardedQuery

/-- Answers the statements of a unit of work. -/
structure Executor (σ : Type) where
  fetchAll : Statement → σ → Except ExecutionError (List Row) × σ
  fetchKeys : Statement → σ → Except ExecutionError (List Literal) × σ
  /-- Answers the number of rows affected. -/
  execute : Statement → σ → Except ExecutionError UInt64 × σ

namespace Executor

variable {σ : Type}

/-- Reads keys as rows. -/
def keysOfRows (fetchAll : Statement → σ → Except ExecutionError (List Row) × σ) (st : Statement)
    (s : σ) : Except ExecutionError (List Literal) × σ :=
  match st.keyColumn with
  | .error e => (.error e, s)
  | .ok column =>
    match fetchAll st s with
    | (.error e, s) => (.error e, s)
    | (.ok rows, s) => (rows.mapM (Row.key column), s)

/-- The first of the rows. -/
def firstRow : Except ExecutionError (List Row) → Except ExecutionError Row
  | .error e => .error e
  | .ok [] => .error .notFound
  | .ok (row :: _) => .ok row

/-- Reads the first row. -/
def fetchOne (x : Executor σ) (st : Statement) (s : σ) : Except ExecutionError Row × σ :=
  let (answer, s) := x.fetchAll st s
  (firstRow answer, s)

end Executor

/-- A tree of reads and writes that ends with a result or an error. -/
inductive Work (ε α : Type) where
  | done (result : Except ε α)
  | fetchAll (st : Statement) (next : Except ExecutionError (List Row) → Work ε α)
  | fetchKeys (st : Statement) (next : Except ExecutionError (List Literal) → Work ε α)
  | execute (st : Statement) (next : Except ExecutionError UInt64 → Work ε α)

namespace Work

variable {ε α β σ : Type}

/-- Does the work: its result and the state after it. -/
def run (x : Executor σ) : Work ε α → σ → Except ε α × σ
  | .done result, s => (result, s)
  | .fetchAll st next, s =>
    let (answer, s) := x.fetchAll st s
    (next answer).run x s
  | .fetchKeys st next, s =>
    let (answer, s) := x.fetchKeys st s
    (next answer).run x s
  | .execute st next, s =>
    let (answer, s) := x.execute st s
    (next answer).run x s

/-- Goes on with the result of some work, unless it failed. -/
def bind : Work ε α → (α → Work ε β) → Work ε β
  | .done (.error e), _ => .done (.error e)
  | .done (.ok a), f => f a
  | .fetchAll st next, f => .fetchAll st fun answer => (next answer).bind f
  | .fetchKeys st next, f => .fetchKeys st fun answer => (next answer).bind f
  | .execute st next, f => .execute st fun answer => (next answer).bind f

instance : Monad (Work ε) where
  pure a := .done (.ok a)
  bind := bind

/-- Reads rows; the work fails if the statement does. -/
def rows (st : Statement) : Work ExecutionError (List Row) := .fetchAll st .done

/-- Reads the first row; the work fails if there is none. -/
def row (st : Statement) : Work ExecutionError Row :=
  .fetchAll st fun answer => .done (Executor.firstRow answer)

/-- Reads keys; the work fails if the statement does. -/
def keys (st : Statement) : Work ExecutionError (List Literal) := .fetchKeys st .done

/-- Writes; the work fails if the statement does. -/
def affected (st : Statement) : Work ExecutionError UInt64 := .execute st .done

end Work

end GuardedQuery
