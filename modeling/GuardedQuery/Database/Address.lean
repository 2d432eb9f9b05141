import GuardedQuery.Dialect

/-!
# Database addresses

The scheme of a URL says which database it is for.
-/

namespace GuardedQuery

/-- The schemes of each database. -/
def Dialect.schemes : Dialect → List String
  | .postgres => ["postgres", "postgresql"]
  | .mysql => ["mysql"]
  | .sqlite => ["sqlite"]
  | .mssql => []

/-- The dialect of the database that a URL is for. -/
def Dialect.ofUrl? (url : String) : Option Dialect :=
  let cs := url.toList
  let scheme := String.ofList ((cs.takeWhile (· != ':')).map Char.toLower)
  if cs.contains ':' then Dialect.all.find? fun d => d.schemes.contains scheme else none

end GuardedQuery
