import GuardedQuery.Sql.Template

/-!
# Windows of rows

A window takes some rows after skipping some. Each dialect has its own clause; a bound that is
missing is written as zero rows to skip or as a number of rows that no table has.
-/

namespace GuardedQuery

/-- Which rows of an ordered list are returned. -/
structure Window where
  limit : Option Nat
  offset : Option Nat
  deriving DecidableEq, Repr

namespace Window

/-- All rows are returned. -/
def isWhole (w : Window) : Bool := w.limit.isNone && w.offset.isNone

/-- The rows in the window. -/
def rows {α : Type} (w : Window) (all : List α) : List α :=
  let rest := all.drop (w.offset.getD 0)
  match w.limit with
  | some n => rest.take n
  | none => rest

/-- The limit that MySQL takes for no limit. -/
def unlimited : Nat := Nat.pow 2 64 - 1

/-- The clause of a dialect. SQL Server needs an order in front of it and gets one that orders
nothing. -/
def clause (d : Dialect) (ordered : Bool) (w : Window) : String :=
  if w.isWhole then ""
  else
    let offset := toString (w.offset.getD 0)
    match d with
    | .postgres | .mssql =>
      (if d = .mssql ∧ ¬ ordered then " ORDER BY (SELECT NULL)" else "") ++
        " OFFSET " ++ offset ++ " ROWS" ++
        match w.limit with
        | some n => " FETCH NEXT " ++ toString n ++ " ROWS ONLY"
        | none => ""
    | .sqlite =>
      " LIMIT " ++ (w.limit.map toString).getD "-1" ++ " OFFSET " ++ offset
    | .mysql =>
      " LIMIT " ++ toString (w.limit.getD unlimited) ++ " OFFSET " ++ offset

end Window

end GuardedQuery
