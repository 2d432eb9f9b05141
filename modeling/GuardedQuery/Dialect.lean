/-!
# SQL dialects

A statement is rendered for one of four dialects, which differ in placeholders, pagination and JSON
aggregation. There is no database connection for SQL Server; it is rendered only.
-/

namespace GuardedQuery

/-- The SQL dialect of a statement. -/
inductive Dialect where
  | postgres
  | mysql
  | sqlite
  | mssql
  deriving DecidableEq, Repr

namespace Dialect

def name : Dialect → String
  | .postgres => "postgres"
  | .mysql => "mysql"
  | .sqlite => "sqlite"
  | .mssql => "mssql"

/-- All dialects, in the order in which messages list them. -/
def all : List Dialect := [.postgres, .mysql, .sqlite, .mssql]

/-- The characters of the placeholder of the parameter number `index`, counted from 1. -/
def placeholder (d : Dialect) (index : Nat) : List Char :=
  match d with
  | .postgres => '$' :: Nat.toDigits 10 index
  | .sqlite => '?' :: Nat.toDigits 10 index
  | .mysql => ['?']
  | .mssql => '@' :: 'p' :: Nat.toDigits 10 index

/-- A database connection exists for the dialect. -/
def hasDatabase (d : Dialect) : Bool := d != .mssql

end Dialect

end GuardedQuery
