import GuardedQuery.Batch.Limits
import GuardedQuery.Batch.Recipe
import GuardedQuery.PublicError

/-!
# Batch plans

A batch load serves a page of parents, each with its children. The plan is made before any
transaction begins: it holds the statement that reads the keys of the page, and the two later
statements have been compiled once with a key in their place, so that a request that breaks a rule
is refused here.
-/

namespace GuardedQuery

/-- What batch loads are run with. -/
structure Loader where
  allowlist : Allowlist
  dialect : Dialect
  limits : PageLimits

/-- A batch load that is ready to run. -/
structure Plan where
  recipe : Recipe
  /-- The columns of the parents. -/
  select : List String
  override : Override
  /-- Reads the keys of the page. -/
  keysQuery : Statement

namespace Loader

/-- The statement that reads the parents with some keys. -/
def detailQuery (l : Loader) (r : Recipe) (select : List String) (o : Override)
    (keys : List Literal) : Except CompileError Statement :=
  KeyLookup.compile l.allowlist l.dialect o ⟨r.view, r.primaryKey, select, keys⟩

/-- The statement that reads the children of the parents with some keys. -/
def childrenQuery (l : Loader) (r : Recipe) (keys : List Literal) : Except CompileError Statement :=
  r.children.compile l.allowlist l.dialect keys

/-- The payload that lists the keys of a page. -/
def keysPayload (l : Loader) (r : Recipe) (p : Payload String) : Payload String :=
  { p with select := [r.primaryKey], limit := some (l.limits.clamp p.limit) }

/-- A key in the place of keys that are not known yet. -/
def someKey : Literal := .int 0

/-- Compiles the statement for keys, and the later ones with some key. -/
def compile (l : Loader) (r : Recipe) (p : Payload String) (o : Override) :
    Except CompileError Plan := do
  if p.limit = some 0 then throw (.malformed .zeroLimit)
  let o := { o with table := some r.view }
  let keysQuery ← (l.keysPayload r p).compile l.allowlist l.dialect o
  let _ ← l.detailQuery r p.select o [someKey]
  let _ ← l.childrenQuery r [someKey]
  return ⟨r, p.select, o, keysQuery⟩

/-- The plan of a load. The recipe's view is the table, whatever the payload says; the other
constraints of the server remain. -/
def plan (l : Loader) (r : Recipe) (p : Payload String) (o : Override) : Except PublicError Plan :=
  (l.compile r p o).mapError PublicError.ofCompileError

end Loader

end GuardedQuery
