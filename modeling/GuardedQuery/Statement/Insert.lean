import GuardedQuery.Statement.Basic
import GuardedQuery.Statement.Target

/-!
# Inserts

An insert adds one row to an allowlisted table; the values are bound in the order of the columns.
-/

namespace GuardedQuery

/-- A row to insert: keys with their values. -/
structure Insert where
  table : String
  values : List (String × Literal)

namespace Insert

/-- The column names of some keys, which must be plain and differ from `seen` and from each other. -/
def columns (permitted : List Column) (seen : List String) :
    List String → Except CompileError (List String)
  | [] => .ok seen
  | key :: rest =>
    match (Column.resolve? permitted key).filter Column.isPlain with
    | none => .error (.denied .column key)
    | some c =>
      if seen.contains c.expression then .error (.malformed (.setTwice key))
      else columns permitted (seen ++ [c.expression]) rest

/-- The table, unless it is unknown or a view. -/
def target (a : Allowlist) (table : String) : Except CompileError (List Column) :=
  match a.columns? table, a.view? table with
  | some permitted, none => .ok permitted
  | _, _ => .error (.denied .table table)

def template (table : String) (columns : List String) (values : List Literal) : Template :=
  .text ("INSERT INTO " ++ table ++ " (" ++ String.intercalate ", " columns ++ ") VALUES ") ::
    Template.bindAll values

/-- The statement of an insert. -/
def compile (a : Allowlist) (d : Dialect) (o : Override) (i : Insert) :
    Except CompileError Statement := do
  let table := o.table.getD i.table
  let permitted ← target a table
  if i.values.isEmpty then throw (.malformed .nothingInserted)
  let names ← columns permitted [] (i.values.map Prod.fst)
  return .ofTemplate d (template table names (i.values.map Prod.snd))
    { requested := names, columns := [], hasJoins := false, hasWhere := false, table }

end Insert

end GuardedQuery
