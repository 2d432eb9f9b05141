import GuardedQuery.Database.Connection

/-!
# Replayed databases

A database that answers each statement with the next reply of a script and keeps a log of what it was
asked. A reply may break the connection: then PostgreSQL refuses everything on that connection, and
the next transaction takes a new one; the other databases keep the connection. A column that a result
lacks reads as null on PostgreSQL and not at all on the others.
-/

namespace GuardedQuery

namespace Replay

/-- The answer to one statement. -/
inductive Reply where
  /-- A result: for each row the cells by column. -/
  | result (rows : List (Keyed Cell))
  | affected (n : UInt64)
  | failure (code : String)
  /-- The connection breaks. -/
  | disconnect

/-- What the database was asked. -/
inductive Event where
  | begin
  | commit
  | rollback
  | statement (c : Command)
  deriving DecidableEq

/-- The kind of database, and the requests that always fail, with their codes. -/
structure Setup where
  dialect : Dialect
  beginCode : Option String
  commitCode : Option String
  rollbackCode : Option String
  /-- The database does not answer when asked whether it does. -/
  deaf : Bool

end Replay

/-- The replies that are left, the log and the state of the connection. -/
structure Replay where
  script : List Replay.Reply
  log : List Replay.Event
  /-- The connection is broken. -/
  severed : Bool

namespace Replay

/-- A script of which nothing has been replayed. -/
def start (script : List Reply) : Replay := ⟨script, [], false⟩

def record (e : Event) (r : Replay) : Replay := { r with log := r.log ++ [e] }

/-- The failure that a code stands for. -/
def coded (code : String) : Failure := .during .querying (.reported (some code) .other)

/-- The failure of a broken connection. -/
def broken : Failure := .during .querying .io

/-- Takes the next reply; no rows when none is left. -/
def next (r : Replay) : Reply × Replay :=
  match r.script with
  | [] => (.result [], r)
  | reply :: rest => (reply, { r with script := rest })

/-- Answers a statement; `read` reads the answer from a reply that is no failure. -/
def answer {α : Type} (setup : Setup) (read : Reply → α) (c : Command) (r : Replay) :
    Except Failure α × Replay :=
  if r.severed then (.error broken, r)
  else
    match (r.record (.statement c)).next with
    | (.failure code, r) => (.error (coded code), r)
    | (.disconnect, r) => (.error broken, { r with severed := setup.dialect = .postgres })
    | (reply, r) => (.ok (read reply), r)

/-- What the columns of a row read as. -/
def recordOf (setup : Setup) (cells : Keyed Cell) : Record := fun column =>
  match cells.find? column with
  | some cell => some cell
  | none => if setup.dialect = .postgres then some .null else none

/-- The rows of a reply. -/
def Reply.records (setup : Setup) : Reply → List Record
  | .result rows => rows.map (recordOf setup)
  | _ => []

/-- The number of rows affected by a reply. Only PostgreSQL counts the rows of a result. -/
def Reply.count (setup : Setup) : Reply → UInt64
  | .result rows => if setup.dialect = .postgres then UInt64.ofNat rows.length else 0
  | .affected n => n
  | _ => 0

/-- Begins on a new connection if the old one is broken. -/
def begin (setup : Setup) (r : Replay) : Except Failure Unit × Replay :=
  let r := { r with severed := false }.record .begin
  match setup.beginCode with
  | some code => (.error (coded code), r)
  | none => (.ok (), r)

/-- Ends a transaction. When the database refuses, the transaction is rolled back all the same. -/
def finish (e : Event) (code : Option String) (r : Replay) : Except Failure Unit × Replay :=
  if r.severed then (.error broken, r)
  else
    match code with
    | some code => (.error (coded code), (r.record e).record .rollback)
    | none => (.ok (), r.record e)

def ping (setup : Setup) (r : Replay) : Except Failure Unit × Replay :=
  (if setup.deaf then .error (.during .connecting (.note "no answer")) else .ok (), r)

/-- The driver of a replayed database. -/
def driver (setup : Setup) : Driver Replay :=
  { begin := begin setup
    commit := finish .commit setup.commitCode
    rollback := finish .rollback setup.rollbackCode
    query := answer setup (Reply.records setup)
    execute := answer setup (Reply.count setup)
    abandon := fun r => if r.severed then r else r.record .rollback
    ping := ping setup }

/-- The database. -/
def database (setup : Setup) : Database Replay := ⟨setup.dialect, driver setup⟩

end Replay

end GuardedQuery
