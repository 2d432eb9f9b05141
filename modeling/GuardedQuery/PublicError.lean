import GuardedQuery.Statement.Error

/-!
# Public errors

What a client is told when a request fails. The texts are fixed, apart from what is wrong with the
structure of the client's own request: neither the allowlist nor the words of the database appear.
-/

namespace GuardedQuery

/-- The kinds of public errors. -/
inductive ErrorKind where
  | malformed
  | denied
  | notFound
  | conflict
  | unavailable
  | internal
  deriving DecidableEq, Repr

/-- What a client is told. -/
inductive PublicError where
  | malformed (m : Malformation)
  | denied
  | notFound
  | conflict
  | unavailable
  | internal
  deriving DecidableEq, Repr

namespace PublicError

def kind : PublicError → ErrorKind
  | .malformed _ => .malformed
  | .denied => .denied
  | .notFound => .notFound
  | .conflict => .conflict
  | .unavailable => .unavailable
  | .internal => .internal

/-- The error of a kind. -/
def ofKind : ErrorKind → PublicError
  | .malformed => .malformed .unspecified
  | .denied => .denied
  | .notFound => .notFound
  | .conflict => .conflict
  | .unavailable => .unavailable
  | .internal => .internal

@[simp] theorem kind_ofKind (k : ErrorKind) : (ofKind k).kind = k := by cases k <;> rfl

def message : PublicError → String
  | .malformed m => m.message
  | .denied => "the query references a table, column or join that is not permitted"
  | .notFound => "resource not found"
  | .conflict => "the request conflicts with existing data"
  | .unavailable => "the database is temporarily unavailable, retry later"
  | .internal => "an internal error occurred"

/-- The same request may succeed later. -/
def isRetryable (e : PublicError) : Bool := e == .unavailable

/-- What a client is told about a request that was not compiled. The name that was rejected is not
repeated, and a dialect without aggregation is the server's own fault. -/
def ofCompileError : CompileError → PublicError
  | .malformed m => .malformed m
  | .denied _ _ => .denied
  | .noAggregation _ => .internal

end PublicError

end GuardedQuery
