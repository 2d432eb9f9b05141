import GuardedQuery.Allowlist.Basic
import GuardedQuery.Payload.Basic
import GuardedQuery.Statement.Error

/-!
# Targets

The target of a statement is an allowlisted table or view with its permitted columns. The server may
put constraints on top of a client's request (`Override`): it names the table, replaces the joins of
the view and adds a filter of its own.
-/

namespace GuardedQuery

/-- Constraints that the server adds to a request. -/
structure Override where
  /-- Replaces the table that the client named. -/
  table : Option String
  /-- Replace the joins of the view, unless there are none. -/
  joins : List Join
  /-- Stands in front of the client's filter. -/
  scope : Option (Group String)

namespace Override

/-- No constraint. -/
def none : Override := ⟨.none, [], .none⟩

/-- Only the table is fixed. -/
def pin (table : String) : Override := { none with table := some table }

end Override

/-- A table or view that a statement addresses. -/
structure Target where
  name : String
  columns : List Column
  source : TableRef
  joins : List Join

namespace Target

/-- The permitted column that a key names. -/
def column (columns : List Column) (position : Position) (key : String) :
    Except CompileError Column :=
  match Column.resolve? columns key with
  | some c => .ok c
  | none => .error (.denied position key)

/-- The table or view of some name. A client's joins must each be one of the view or of the server. -/
def find (a : Allowlist) (requested : Option String) (clientJoins : List Join) (o : Override) :
    Except CompileError Target :=
  match requested with
  | none => .error (.malformed .noTable)
  | some name =>
    match a.columns? name with
    | none => .error (.denied .table name)
    | some columns =>
      let view := (a.view? name).getD ⟨⟨name, none⟩, []⟩
      match clientJoins.find? fun j => !view.joins.contains j && !o.joins.contains j with
      | some j => .error (.denied .join j.table)
      | none => .ok ⟨name, columns, view.source, if o.joins.isEmpty then view.joins else o.joins⟩

end Target

end GuardedQuery
