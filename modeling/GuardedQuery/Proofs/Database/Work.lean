import GuardedQuery.Database.Work

/-!
# Runs of work

What a run asks of its executor, in order (`Work.requests`), and one step of a run.
-/

namespace GuardedQuery

/-- What an executor is asked. -/
inductive Work.Request where
  | rows (st : Statement)
  | keys (st : Statement)
  | write (st : Statement)
  deriving DecidableEq

namespace Work

variable {ε α σ : Type}

/-- The requests of a run. -/
def requests (x : Executor σ) : Work ε α → σ → List Request
  | .done _, _ => []
  | .fetchAll st next, s =>
    .rows st :: (next (x.fetchAll st s).1).requests x (x.fetchAll st s).2
  | .fetchKeys st next, s =>
    .keys st :: (next (x.fetchKeys st s).1).requests x (x.fetchKeys st s).2
  | .execute st next, s =>
    .write st :: (next (x.execute st s).1).requests x (x.execute st s).2

variable (x : Executor σ) (st : Statement) (s : σ)

@[simp] theorem run_done (result : Except ε α) : (done result).run x s = (result, s) := rfl

@[simp] theorem run_fetchAll (next : Except ExecutionError (List Row) → Work ε α) :
    (fetchAll st next).run x s = (next (x.fetchAll st s).1).run x (x.fetchAll st s).2 := rfl

@[simp] theorem run_fetchKeys (next : Except ExecutionError (List Literal) → Work ε α) :
    (fetchKeys st next).run x s = (next (x.fetchKeys st s).1).run x (x.fetchKeys st s).2 := rfl

@[simp] theorem requests_done (result : Except ε α) : (done result).requests x s = [] := rfl

@[simp] theorem requests_fetchAll (next : Except ExecutionError (List Row) → Work ε α) :
    (fetchAll st next).requests x s =
      .rows st :: (next (x.fetchAll st s).1).requests x (x.fetchAll st s).2 := rfl

@[simp] theorem requests_fetchKeys (next : Except ExecutionError (List Literal) → Work ε α) :
    (fetchKeys st next).requests x s =
      .keys st :: (next (x.fetchKeys st s).1).requests x (x.fetchKeys st s).2 := rfl

end Work

end GuardedQuery
