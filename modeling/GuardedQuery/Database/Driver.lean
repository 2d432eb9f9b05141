import GuardedQuery.Database.Row

/-!
# Database drivers

A driver is what carries requests to a database. Here it is any function from requests and a state
to answers and the next state, so that what holds for every driver holds whatever the database does.
-/

namespace GuardedQuery

/-- SQL text and the values that it binds. -/
structure Command where
  sql : String
  values : List Literal
  deriving DecidableEq

/-- The answers to requests, and the state after them. -/
structure Driver (σ : Type) where
  begin : σ → Except Failure Unit × σ
  commit : σ → Except Failure Unit × σ
  rollback : σ → Except Failure Unit × σ
  query : Command → σ → Except Failure (List Record) × σ
  /-- Answers the number of rows affected. -/
  execute : Command → σ → Except Failure UInt64 × σ
  /-- Gives up a transaction that was neither committed nor rolled back. -/
  abandon : σ → σ
  ping : σ → Except Failure Unit × σ

/-- The command of a statement on a connection of some dialect. -/
def Statement.command (d : Dialect) (s : Statement) : Except ExecutionError Command :=
  if s.dialect ≠ d then .error (.dialectMismatch s.dialect d)
  else if !d.hasDatabase then .error (.noDatabase d)
  else .ok ⟨s.sql, s.values⟩

end GuardedQuery
