import GuardedQuery.Database.Error
import GuardedQuery.Database.Numeric
import GuardedQuery.Document.Reader
import GuardedQuery.Statement.Basic
import GuardedQuery.Time.Calendar
import GuardedQuery.Uuid

/-!
# Rows

A database answers a read with records, from which typed cells are read by column. A row has exactly
the result columns of the statement, each with the JSON form of its cell; other columns of the record
are never read. Keys are read from the first result column: as literals, with UUIDs typed where the
database has them (`Record.key`), or from rows (`Row.key`).
-/

namespace GuardedQuery

/-- A cell of a record. -/
inductive Cell where
  | null
  | bool (b : Bool)
  | int (i : Int64)
  | float (x : Binary64)
  | text (s : String)
  | uuid (u : Uuid)
  /-- A decimal number as it is written. -/
  | numeric (text : String)
  /-- JSON as text. -/
  | json (text : String)
  /-- A point in time, in microseconds from the start of 1970-01-01 UTC. -/
  | instant (micros : Int)
  /-- A date and time without time zone. -/
  | dateTime (micros : Int)
  /-- A date, in days from 1970-01-01. -/
  | date (days : Int)
  /-- A value of a type that has no JSON form. -/
  | unsupported
  deriving DecidableEq

/-- What the columns of one result row read as; `none` for a column that the driver does not have. -/
abbrev Record := String → Option Cell

/-- A result row. -/
abbrev Row := Keyed Json

namespace Cell

/-- The JSON form of a cell on a connection of some dialect. SQLite has neither UUIDs nor decimal
numbers nor JSON of its own. -/
def toJson? (d : Dialect) : Cell → Option Json
  | .null => some .null
  | .bool b => some (.bool b)
  | .int i => some (.int (.ofInt64 i))
  | .float x => some (.ofBinary64 x)
  | .text s => some (.string s)
  | .uuid u => if d = .sqlite then none else some (.string u.text)
  | .numeric s => if d = .sqlite then none else (Numeric.ofText? s).map fun n => .string n.text
  | .json s => if d = .sqlite then none else Json.ofText? s
  | .instant micros => some (.string (Time.text micros ++ "+00:00"))
  | .dateTime micros => some (.string (Time.text micros))
  | .date days => some (.string (Date.ofDays days).text)
  | .unsupported => none

end Cell

/-- The column that a statement for keys returns. -/
def Statement.keyColumn (s : Statement) : Except ExecutionError String :=
  match s.outline.columns with
  | [] => .error (.malformedRow .noKeyColumn)
  | column :: _ => .ok column

/-- The literal of a key that was read as JSON. -/
def Json.toKey (column : String) : Json → Except ExecutionError Literal
  | .null => .error (.rowShape column)
  | j =>
    match Literal.ofJson j with
    | .ok l => .ok l
    | .error e => .error (.malformedRow (.key e))

/-- The key in a column of a row. -/
def Row.key (column : String) (row : Row) : Except ExecutionError Literal :=
  ((row.find? column).getD .null).toKey column

namespace Record

/-- The JSON form of a column. -/
def value (d : Dialect) (r : Record) (column : String) : Except ExecutionError Json :=
  match (r column).bind (Cell.toJson? d) with
  | some j => .ok j
  | none => .error (.rowShape column)

/-- Adds columns to a row; the first that fails counts. -/
def addColumns (d : Dialect) (r : Record) : List String → Row → Except ExecutionError Row
  | [], row => .ok row
  | column :: rest, row =>
    match r.value d column with
    | .error e => .error e
    | .ok j => addColumns d r rest (row.insert column j)

/-- The row with some columns. -/
def toRow (d : Dialect) (columns : List String) (r : Record) : Except ExecutionError Row :=
  addColumns d r columns .empty

/-- The key in a column. -/
def key (d : Dialect) (column : String) (r : Record) : Except ExecutionError Literal :=
  match d, r column with
  | .sqlite, _ => viaJson
  | _, some (.uuid u) => .ok (.uuid u)
  | _, _ => viaJson
where
  /-- The key by way of its JSON form. -/
  viaJson : Except ExecutionError Literal :=
    match r.value d column with
    | .error e => .error e
    | .ok j => j.toKey column

end Record

end GuardedQuery
