import GuardedQuery.Database.Failure

/-!
# Execution errors

Why a statement or a transaction did not succeed. `ExecutionError.toPublic` is what the client is
told: rejected requests and missing rows as they are, failures of the driver by their kind, and
everything else as an internal error.
-/

namespace GuardedQuery

open Decode (tick)

/-- Where a transaction stands. -/
inductive Stage where
  | idle
  | active
  | committed
  | rolledBack
  deriving DecidableEq, Repr

namespace Stage

def text : Stage → String
  | .idle => "idle"
  | .active => "active"
  | .committed => "committed"
  | .rolledBack => "rolled back"

/-- The transaction is over. -/
def isTerminal (s : Stage) : Bool := s == .committed || s == .rolledBack

end Stage

/-- A change of a transaction. -/
inductive Change where
  | begin
  | commit
  | rollback
  deriving DecidableEq, Repr

def Change.text : Change → String
  | .begin => "begin"
  | .commit => "commit"
  | .rollback => "rollback"

/-- What is wrong with a row. -/
inductive RowFault where
  /-- The statement for keys has no result column. -/
  | noKeyColumn
  /-- A key is no literal. -/
  | key (e : LiteralError)
  /-- The children are no array. -/
  | notAnArray
  /-- The text of the children is not JSON. -/
  | notJson
  /-- A fault in the words of the caller. -/
  | note (text : String)
  deriving DecidableEq, Repr

def RowFault.message : RowFault → String
  | .noKeyColumn => "key query has no result column"
  | .key e => e.message
  | .notAnArray => "children aggregate is not an array"
  | .notJson => "children aggregate is not JSON"
  | .note text => text

/-- Why a statement or a transaction did not succeed. -/
inductive ExecutionError where
  | invalidChange (stage : Stage) (change : Change)
  | notActive (stage : Stage)
  | compile (e : CompileError)
  /-- The statement was compiled for another dialect than that of the connection. -/
  | dialectMismatch (compiled connection : Dialect)
  | noDatabase (d : Dialect)
  /-- A row lacks a column, or its value has no JSON form. -/
  | rowShape (column : String)
  | malformedRow (fault : RowFault)
  | notFound
  | driver (f : Failure)
  deriving DecidableEq, Repr

namespace ExecutionError

/-- The message for logs; a driver has its own words. -/
def message? : ExecutionError → Option String
  | .invalidChange stage change =>
    some ("cannot " ++ change.text ++ " a transaction in state " ++ stage.text)
  | .notActive stage => some ("no active transaction (state " ++ stage.text ++ ")")
  | .compile e => some e.message
  | .dialectMismatch compiled connection =>
    some ("query compiled for " ++ compiled.name ++ " cannot run on a " ++ connection.name ++
      " connection")
  | .noDatabase d => some ("dialect " ++ d.name ++ " has no database backend")
  | .rowShape column => some ("result row does not carry column " ++ tick column)
  | .malformedRow fault => some ("malformed row: " ++ fault.message)
  | .notFound => some "no rows found"
  | .driver _ => none

/-- What a client is told. -/
def toPublic : ExecutionError → PublicError
  | .compile e => .ofCompileError e
  | .notFound => .notFound
  | .driver f => .ofKind f.classify
  | _ => .internal

end ExecutionError

/-- Why a unit of work in a transaction did not succeed. -/
inductive WorkError (ε : Type) where
  /-- The work itself failed, and was rolled back. -/
  | work (e : ε)
  /-- The transaction was not begun or not committed. -/
  | transaction (e : ExecutionError)
  deriving DecidableEq, Repr

namespace WorkError

/-- The message of a failed transaction for logs. -/
def transactionMessage? (e : ExecutionError) : Option String :=
  e.message?.map ("transaction failed: " ++ ·)

/-- One type for both. -/
def collapse {ε : Type} (ofTransaction : ExecutionError → ε) : WorkError ε → ε
  | .work e => e
  | .transaction e => ofTransaction e

end WorkError

end GuardedQuery
