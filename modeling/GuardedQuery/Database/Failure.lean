import GuardedQuery.PublicError

/-!
# Driver failures

A database driver fails with a code of its database, or because there is no connection, or for a
reason of its own. `Failure.classify` sorts failures into conflicts with existing data, failures that
may pass, and the rest.
-/

namespace GuardedQuery

namespace Failure

/-- What the driver was doing. -/
inductive Phase where
  | connecting
  | executing
  | querying
  deriving DecidableEq, Repr

/-- What kind of constraint a statement violates, as the driver sees it. -/
inductive Violation where
  | unique
  | foreignKey
  | notNull
  | check
  | other
  deriving DecidableEq, Repr

/-- What went wrong while a driver worked. -/
inductive Cause where
  | poolTimedOut
  | poolClosed
  | workerCrashed
  | io
  | protocol
  | rowNotFound
  | columnNotFound
  /-- The database answered with an error. -/
  | reported (code : Option String) (violation : Violation)
  /-- The driver's own words. -/
  | note (text : String)
  deriving DecidableEq, Repr

end Failure

/-- A failure of a database driver. -/
inductive Failure where
  /-- The pool had no connection to give. -/
  | noConnection
  | during (phase : Failure.Phase) (cause : Failure.Cause)
  /-- A misuse of the driver. -/
  | misuse
  deriving DecidableEq, Repr

namespace Failure

/-- Codes of violated unique and foreign keys: PostgreSQL, SQLite, MySQL, SQL Server. -/
def conflictCodes : List String :=
  ["23505", "23503", "2067", "1555", "787", "1062", "1451", "1452", "2627", "2601", "547"]

/-- Codes of timeouts, locks and lost connections: PostgreSQL, SQLite, MySQL, SQL Server. -/
def transientCodes : List String :=
  ["57014", "55P03", "08000", "08003", "08006", "57P01", "5", "6", "261", "262", "517", "773", "1205",
   "3024", "-2", "1222"]

/-- The kind of error that a code stands for, if the code is known. -/
def classifyCode (code : String) : Option ErrorKind :=
  if conflictCodes.contains code then some .conflict
  else if transientCodes.contains code then some .unavailable
  else none

/-- The kind of a violation without a known code. -/
def Violation.kind : Violation → ErrorKind
  | .unique => .conflict
  | .foreignKey => .conflict
  | _ => .internal

/-- The kind of error that a cause stands for, whatever the driver was doing. -/
def Cause.kind : Cause → ErrorKind
  | .reported code violation => (code.bind classifyCode).getD violation.kind
  | .poolTimedOut => .unavailable
  | .poolClosed => .unavailable
  | .io => .unavailable
  | .workerCrashed => .unavailable
  | _ => .internal

/-- The kind of error that a failure stands for. -/
def classify : Failure → ErrorKind
  | .noConnection => .unavailable
  | .during .connecting (.note _) => .unavailable
  | .during _ cause => cause.kind
  | .misuse => .internal

end Failure

end GuardedQuery
